import BeanHarvest.Decimal.Reading
import BeanHarvest.Fault.Basic
import BeanHarvest.Filter.Basic
import BeanHarvest.Text.Cut

namespace BeanHarvest.Extraction

/-- The number that a text stands for in a table of conversions; `default` stands for the rest. -/
def converted? (values : Keyed Double) (value : LiveValue) : Option Double :=
  (value.scalarText?.bind (Keyed.get? values)) <|>
    (if values.isEmpty then none else Keyed.get? values "default")

def coerce (name : String) (value : LiveValue) : Except ExtractionFault Double :=
  let fault := ExtractionFault.noNumber name value.description
  match value with
  | .string text =>
    match readDouble? (Text.trim text.toList) with
    | some x => .ok x
    | none => .error fault
  | .integer value => .ok (.ofFloat (Number.toFloat (.whole value)))
  | .float x => .ok (.ofFloat x)
  | .boolean value => .ok (.ofFloat (if value then 1.0 else 0.0))
  | _ => .error fault

/-- The number of a value: by the conversions if they have one, else by itself. -/
def toNumber (name : String) (values : Keyed Double) (value : LiveValue) :
    Except ExtractionFault Double :=
  match converted? values value with
  | some x => .ok x
  | none => coerce name value

/-- Whether a metric goes before another one. -/
def inOrder (order : SortOrder) (a b : Metric) : Bool :=
  match order with
  | .descending => b.value.totalLe a.value
  | .ascending => a.value.totalLe b.value

/-- Keep so many of the highest or lowest values, in order; without a limit all stay as they are. -/
def limited (metrics : List Metric) (limit : Option Nat) (order : SortOrder) : List Metric :=
  match limit with
  | none => metrics
  | some limit => (metrics.mergeSort (inOrder order)).take limit

end BeanHarvest.Extraction
