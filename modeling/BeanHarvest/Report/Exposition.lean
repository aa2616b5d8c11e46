import BeanHarvest.Alias
import BeanHarvest.Decimal.Notation
import BeanHarvest.Report.Basic

/-! The text from which Prometheus scrapes: the latest value of every series, by name and labels.
Every name is announced by a line of help and a line with the type. -/
namespace BeanHarvest

namespace Exposition

def isNameChar (c : Char) : Bool :=
  ('a' ≤ c && c ≤ 'z') || ('A' ≤ c && c ≤ 'Z') || ('0' ≤ c && c ≤ '9') || c = '_' || c = ':'

/-- A name in the characters that names may have; it does not begin with a digit. -/
def nameChars (name : List Char) : List Char :=
  let masked := name.map fun c => if isNameChar c then c else '_'
  match masked with
  | [] => ['_']
  | c :: _ => if '0' ≤ c && c ≤ '9' then '_' :: masked else masked

def sanitizeName (name : String) : String := String.ofList (nameChars name.toList)

/-- A text as the name of a label, which has no colon. -/
def sanitizeLabel (name : String) : String :=
  String.ofList ((nameChars name.toList).map fun c => if c = ':' then '_' else c)

/-- The label of a tag. A tag without a colon is true. -/
def label (tag : String) : String × String :=
  match Text.cut? (· = ':') tag.toList with
  | some (key, value) => (sanitizeLabel (String.ofList key), String.ofList value)
  | none => (sanitizeLabel tag, "true")

/-- The labels of some tags; of several tags for one label the last stands. -/
def labels (tags : List String) : Bindings := Keyed.ofList (tags.map label)

/-- The latest value of a series, with the name and the type under which it came. -/
structure Series where
  labels : Bindings
  title : String
  type : MetricType
  value : Float
  time : Int

/-- Whether labels come before others: by their first difference, the shorter first. -/
def precedes : Bindings → Bindings → Bool
  | [], [] => false
  | [], _ :: _ => true
  | _ :: _, [] => false
  | (k, v) :: rest, (l, w) :: others =>
    if k = l then (if v = w then precedes rest others else v < w) else k < l

/-- Put a series in its place among others; one with the same labels makes room. -/
def insertSeries (series : Series) : List Series → List Series
  | [] => [series]
  | other :: rest =>
    if series.labels = other.labels then series :: rest
    else if precedes series.labels other.labels then series :: other :: rest
    else other :: insertSeries series rest

def escapeHelp (c : Char) : List Char :=
  if c = '\\' then ['\\', '\\'] else if c = '\n' then ['\\', 'n'] else [c]

def escapeLabel (c : Char) : List Char :=
  if c = '"' then ['\\', '"'] else escapeHelp c

/-- The text of a value: whole numbers up to fifteen digits as such, other numbers with an exponent
if they are great or small. -/
def valueText (x : Float) : String :=
  match Binary.ofFloat x with
  | .nan => "NaN"
  | .infinite negative => if negative then "-Inf" else "+Inf"
  | .finite .. =>
    let size := x.abs
    if x.floor == x && size < 1e15 then (if size == 0.0 then "0" else plainText x)
    else if 1e6 ≤ size || size < 1e-3 then exponentText x
    else plainText x

/-- The labels in braces; no labels are written as nothing. -/
def labelText (labels : Bindings) : String :=
  if labels.isEmpty then ""
  else
    "\x7b" ++ ",".intercalate (labels.map fun (key, value) =>
      key ++ "=\"" ++ String.ofList (value.toList.flatMap escapeLabel) ++ "\"") ++ "\x7d"

/-- The line of a series; what `stamp` writes of the time follows the value. -/
def sampleLine (stamp : Int → String) (name : String) (series : Series) : String :=
  name ++ labelText series.labels ++ " " ++ valueText series.value ++ stamp series.time ++ "\n"

/-- The line that tells of a name what it was called. -/
def helpLine (name : String) (series : Series) : String :=
  "# HELP " ++ name ++ " " ++ String.ofList (series.title.toList.flatMap escapeHelp)
    ++ " (" ++ series.type.text ++ ")\n"

def typeLine (name : String) : String := "# TYPE " ++ name ++ " gauge\n"

def familyText (stamp : Int → String) (family : String × List Series) : String :=
  match family.2 with
  | [] => ""
  | first :: _ =>
    helpLine family.1 first ++ typeLine family.1
      ++ String.join (family.2.map (sampleLine stamp family.1))

end Exposition

/-- The series by name; those of a name in the order of their labels. -/
abbrev Exposition := Keyed (List Exposition.Series)

namespace Exposition

def record (exposition : Exposition) (title : String) (type : MetricType) (value : Float)
    (tags : List String) (time : Int) : Exposition :=
  let name := sanitizeName title
  let family := (Keyed.get? exposition name).getD []
  Keyed.insert exposition name (insertSeries ⟨labels tags, title, type, value, time⟩ family)

def addPoint (exposition : Exposition) (point : MetricPoint) (time : Int) : Exposition :=
  exposition.record point.name point.type point.value point.tags time

/-- Record a service check, as a gauge with the number of its status. -/
def addCheck (exposition : Exposition) (check : ServiceCheck) (time : Int) : Exposition :=
  exposition.record check.name .gauge (Number.toFloat (.whole check.status.code)) check.tags time

def addReport (exposition : Exposition) (report : Report) (time : Int) : Exposition :=
  match report with
  | .point point => exposition.addPoint point time
  | .check check => exposition.addCheck check time

def size (exposition : Exposition) : Nat := exposition.foldl (· + ·.2.length) 0

def render (exposition : Exposition) (stamp : Int → String) : String :=
  String.join (exposition.map (familyText stamp))

end Exposition
end BeanHarvest
