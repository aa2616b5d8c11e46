import BeanHarvest.Live.Table

/-! Statistics objects: a composite value with a list of named statistics, and with named groups of
further statistics. The group without a name holds the statistics at the top. -/
namespace BeanHarvest.Statistics

/-- Fields of a statistic that describe it and measure nothing. -/
def descriptiveFields : List String :=
  ["name", "unit", "description", "startTime", "lastSampleTime"]

def list? (entries : List (String × LiveValue)) (name : String) : Option (List LiveValue) :=
  match lookup? entries name with
  | some (.array items) => some items
  | _ => none

/-- The `name` of a composite value, if it is a text. -/
def nameOf? (entries : List (String × LiveValue)) : Option String :=
  match lookup? entries "name" with
  | some (.string name) => some name
  | _ => none

def isStatistics (value : LiveValue) : Bool :=
  match value.entries? with
  | some entries =>
    (list? entries "statistics").isSome || (list? entries "subStats").isSome
  | none => false

def statistics (group : List (String × LiveValue)) : List (String × List (String × LiveValue)) :=
  ((list? group "statistics").getD []).filterMap fun item => do
    let fields ← item.entries?
    let name ← nameOf? fields
    some (name, fields)

def subgroups (root : List (String × LiveValue)) : List (String × List (String × LiveValue)) :=
  ((list? root "subStats").getD []).filterMap fun item => do
    let entries ← item.entries?
    let name ← nameOf? entries
    some (name, entries)

/-- The group of a name, the first of several. -/
def group? (value : LiveValue) (group : String) : Option (List (String × LiveValue)) := do
  let root ← value.entries?
  if group.isEmpty then some root else lookup? (subgroups root) group

/-- The names of the groups, the nameless one first if it has statistics. -/
def groups (value : LiveValue) : List String :=
  match value.entries? with
  | none => []
  | some root =>
    (if (statistics root).isEmpty then [] else [""]) ++ (subgroups root).map (·.1)

/-- The paths into a group: a statistic and one of its measuring fields. -/
def paths (value : LiveValue) (group : String) : List String :=
  ((group? value group).map statistics |>.getD []).flatMap fun (name, fields) =>
    (fields.filter fun (field, value) =>
      !descriptiveFields.contains field && value.isScalar).map fun (field, _) => name ++ "." ++ field

def read? (value : LiveValue) (group path : String) : Option LiveValue := do
  let group ← group? value group
  let (name, field) ← cutAtDot? path
  let fields ← lookup? (statistics group) name
  lookup? fields field

end BeanHarvest.Statistics
