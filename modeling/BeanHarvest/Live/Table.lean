import BeanHarvest.Live.Value
import BeanHarvest.Text.Cut

/-! Paths into tables. A path names a column, or an entry of a composite column behind a dot. -/
namespace BeanHarvest

/-- Texts in ascending order, each once. -/
def sortedSet (texts : List String) : List String :=
  (texts.mergeSort fun a b => a ≤ b).eraseReps

def cutAtDot? (text : String) : Option (String × String) :=
  (Text.cut? (· = '.') text.toList).map fun (before, after) =>
    (String.ofList before, String.ofList after)

namespace Row

def keyText {α : Type} (row : Row α) : String := ",".intercalate row.key

/-- The value at a path: a column of that very name, or else an entry of a composite column. -/
def atPath? (row : Row LiveValue) (path : String) : Option LiveValue :=
  match lookup? row.values path with
  | some value => some value
  | none => do
    let (column, entry) ← cutAtDot? path
    let value ← lookup? row.values column
    let entries ← value.entries?
    lookup? entries entry

end Row

namespace Table

/-- The paths that one column has: itself, or its single-valued entries. -/
def pathsOf (column : String) : LiveValue → List String
  | .composite entries =>
    (entries.filter (·.2.isScalar)).map fun (entry, _) => column ++ "." ++ entry
  | value => if value.isScalar then [column] else []

/-- Every path outside the index, in ascending order. -/
def columnPaths (table : Table LiveValue) : List String :=
  sortedSet <| table.rows.flatMap fun row =>
    (row.values.filter fun (column, _) => !table.index.contains column).flatMap
      fun (column, value) => pathsOf column value

end Table
end BeanHarvest
