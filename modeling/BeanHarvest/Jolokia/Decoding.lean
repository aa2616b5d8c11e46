import BeanHarvest.Json.Value
import BeanHarvest.Live.Table

/-! Live values from JSON. A table comes as nested objects: the keys on the way to a row are the index
values of the row. A flat object is a table with a row for each of its fields. -/
namespace BeanHarvest

mutual

/-- The live value of a JSON value. Whole numbers that do not fit in 64 bits with a sign are
floats. -/
def LiveValue.ofJson : Json → LiveValue
  | .null => .null
  | .bool value => .boolean value
  | .number (.whole value) =>
    if value < Nat.pow 2 63 then .integer value else .float (Number.toFloat (.whole value))
  | .number (.float value) => .float value
  | .string value => .string value
  | .array items => .array (LiveValue.ofItems items)
  | .object fields => .composite (LiveValue.ofFields fields)

def LiveValue.ofItems : List Json → List LiveValue
  | [] => []
  | item :: rest => LiveValue.ofJson item :: LiveValue.ofItems rest

def LiveValue.ofFields : List (String × Json) → List (String × LiveValue)
  | [] => []
  | (key, value) :: rest => (key, LiveValue.ofJson value) :: LiveValue.ofFields rest

end

namespace Table

/-- Whether an object is a row: one of its fields is no object. -/
def isRow (fields : List (String × Json)) : Bool := fields.any (!·.2.isObject)

mutual

/-- The rows in a value that was reached by some keys. -/
def rowsAt (key : List String) : Json → List (Row LiveValue)
  | .object fields =>
    if isRow fields then [⟨key, LiveValue.ofFields fields⟩] else rowsBelow key fields
  | _ => []

/-- The rows below an object that was reached by some keys. -/
def rowsBelow (key : List String) : List (String × Json) → List (Row LiveValue)
  | [] => []
  | (segment, value) :: rest => rowsAt (key ++ [segment]) value ++ rowsBelow key rest

end

/-- Whether a column repeats the index values of some level in every row. -/
def repeatsIndex (rows : List (Row LiveValue)) (level : Nat) (column : String) : Bool :=
  rows.all fun row => (lookup? row.values column).bind (·.scalarText?) = row.key[level]?

/-- The column that repeats the index values of a level, the first of several, among the columns of
the first row. -/
def indexColumn? (rows : List (Row LiveValue)) (level : Nat) : Option String :=
  rows.head?.bind fun first =>
    ((first.values.filter fun (_, value) => value.scalarText? = first.key[level]?).map
      (·.1)).find? (repeatsIndex rows level)

/-- The name of a level of the index: the column that repeats it, or else a name of its own. -/
def indexName (rows : List (Row LiveValue)) (depth level : Nat) : String :=
  (indexColumn? rows level).getD (if depth = 1 then "key" else "key" ++ toString level)

/-- The table of some rows, with as many levels of index as the first row has. -/
def ofRows (rows : List (Row LiveValue)) : Table LiveValue :=
  let depth := (rows.head?.map (·.key.length)).getD 0
  ⟨(List.range depth).map (indexName rows depth), rows⟩

/-- Whether an object has fields, and none of them has parts. -/
def isFlat (fields : List (String × Json)) : Bool :=
  !fields.isEmpty && fields.all fun (_, value) => !value.isObject && !value.isArray

def fieldRow (field : String × Json) : Row LiveValue :=
  ⟨[field.1], [("key", .string field.1), ("value", LiveValue.ofJson field.2)]⟩

def ofFields (fields : List (String × Json)) : Table LiveValue :=
  if isFlat fields then ⟨["key"], fields.map fieldRow⟩ else ofRows (rowsBelow [] fields)

end Table

/-- The live value of an attribute that was declared as a table. -/
def LiveValue.tableOfJson : Json → LiveValue
  | .object fields => .tabular (Table.ofFields fields)
  | json => LiveValue.ofJson json

end BeanHarvest
