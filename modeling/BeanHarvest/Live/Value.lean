import BeanHarvest.Decimal.Notation
import BeanHarvest.Keyed

namespace BeanHarvest

/-- A row of a table: the tuple of its index values, and its columns by name, those of the index
included. -/
structure Row (α : Type) where
  key : List String
  values : List (String × α)

/-- Rows, and the names of the columns that repeat the index values. -/
structure Table (α : Type) where
  index : List String
  rows : List (Row α)

/-- A value. The entries of a composite value and the columns of a row are in the order of their
names, each name once. -/
inductive LiveValue where
  | null
  | boolean (value : Bool)
  | integer (value : Int)
  | float (value : Float)
  | string (value : String)
  | composite (entries : List (String × LiveValue))
  | tabular (table : Table LiveValue)
  | array (items : List LiveValue)

instance : Inhabited LiveValue := ⟨.null⟩

/-- A finite number as a target prints it: positional from a thousandth up to ten millions, with at
least one digit behind the point, and with an exponent behind `E` elsewhere. -/
def printedDecimal (number : Decimal) : String :=
  let before := number.digitText.length + number.exponent
  if number.digits = 0 then "0.0"
  else if -2 ≤ before && before ≤ 7 then
    if 0 ≤ number.exponent then number.positional ++ ".0" else number.positional
  else
    let (digits, power) := number.leading
    String.ofList (if digits.length = 1 then digits ++ ['.', '0'] else digits)
      ++ "E" ++ toString power

/-- A number as a target prints it. -/
def printedFloat (x : Float) : String :=
  match Binary.ofFloat x with
  | .nan => "NaN"
  | .infinite negative => signed negative "Infinity"
  | .finite negative mantissa exponent =>
    signed negative (printedDecimal (Decimal.shortest .up mantissa exponent))

namespace LiveValue

/-- The text of a value that is a single one and not null. -/
def scalarText? : LiveValue → Option String
  | .boolean value => some (if value then "true" else "false")
  | .integer value => some (toString value)
  | .float value => some (printedFloat value)
  | .string value => some value
  | _ => none

def isScalar : LiveValue → Bool
  | .composite _ | .tabular _ | .array _ => false
  | _ => true

def entries? : LiveValue → Option (List (String × LiveValue))
  | .composite entries => some entries
  | _ => none

def shape : LiveValue → String
  | .null => "null"
  | .boolean _ => "boolean"
  | .integer _ => "integer"
  | .float _ => "float"
  | .string _ => "string"
  | .composite _ => "composite"
  | .tabular _ => "tabular"
  | .array _ => "array"

/-- The value as it is named in messages: its text, or its shape. -/
def description (value : LiveValue) : String := value.scalarText?.getD value.shape

end LiveValue
end BeanHarvest
