import BeanHarvest.Live.Table
import BeanHarvest.Proofs.Keyed
import BeanHarvest.Proofs.Sorted
import BeanHarvest.Proofs.Text

/-! The paths that a table lists, and what its rows have at them. Listing puts a dot between a column and
an entry; reading takes a path for a column first, and then cuts it at the first dot. The two agree unless
a column has the path of an entry, or a dot in its own name. -/
namespace BeanHarvest

variable {index : List String} {row : Row LiveValue} {table : Table LiveValue} {name path : String}
  {value : LiveValue} {entries : List (String × LiveValue)}

namespace Row

/-- Whether names ascend in a row: those of its columns, and those of the entries of each column. -/
structure Ordered (row : Row LiveValue) : Prop where
  columns : Keyed.Ascending row.values
  entries : ∀ name entries, (name, .composite entries) ∈ row.values → Keyed.Ascending entries

theorem ordered_iff : row.Ordered ↔ Keyed.Ascending row.values ∧
    ∀ column ∈ row.values, ∀ entries ∈ column.2.entries?, Keyed.Ascending entries := by
  constructor
  · rintro ⟨columns, each⟩
    refine ⟨columns, ?_⟩
    rintro ⟨name, value⟩ stands entries found
    cases value with
    | composite inner =>
      obtain rfl := Option.some.inj found
      exact each name inner stands
    | _ => cases found
  · rintro ⟨columns, each⟩
    refine ⟨columns, ?_⟩
    intro name entries stands
    exact each _ stands entries rfl

instance (row : Row LiveValue) : Decidable row.Ordered := decidable_of_iff _ ordered_iff.symm

/-- Whether a row has a single value at a path outside the index: a column, or an entry of a column. -/
inductive HasCell (index : List String) (row : Row LiveValue) : String → LiveValue → Prop where
  | column {name : String} {value : LiveValue} (stands : (name, value) ∈ row.values)
      (outside : name ∉ index) (single : value.isScalar = true) : HasCell index row name value
  | entry {name entry : String} {entries : List (String × LiveValue)} {value : LiveValue}
      (stands : (name, .composite entries) ∈ row.values) (outside : name ∉ index)
      (part : (entry, value) ∈ entries) (single : value.isScalar = true) :
      HasCell index row (name ++ "." ++ entry) value

end Row

theorem Table.mem_pathsOf :
    path ∈ pathsOf name value ↔ (value.isScalar = true ∧ path = name) ∨
      ∃ entries, value = .composite entries ∧ ∃ entry part, (entry, part) ∈ entries ∧
        part.isScalar = true ∧ path = name ++ "." ++ entry := by
  cases value with
  | composite entries =>
    simp only [pathsOf, LiveValue.isScalar, List.mem_map, List.mem_filter, Prod.exists,
      LiveValue.composite.injEq, exists_eq_left', Bool.false_eq_true, false_and, false_or]
    constructor
    · rintro ⟨entry, part, ⟨member, single⟩, rfl⟩
      exact ⟨entry, part, member, single, rfl⟩
    · rintro ⟨entry, part, member, single, rfl⟩
      exact ⟨entry, part, ⟨member, single⟩, rfl⟩
  | _ => simp [pathsOf, LiveValue.isScalar]

/-- The listed paths are those of the cells. -/
theorem Table.mem_columnPaths :
    path ∈ table.columnPaths ↔ ∃ row ∈ table.rows, ∃ value, row.HasCell table.index path value := by
  simp only [columnPaths, mem_sortedSet, List.mem_flatMap, List.mem_filter, Bool.not_eq_true',
    List.contains_eq_mem, decide_eq_false_iff_not, Prod.exists, mem_pathsOf]
  constructor
  · rintro ⟨row, member, name, value, ⟨stands, outside⟩, ⟨single, rfl⟩ | ⟨entries, rfl, listed⟩⟩
    · exact ⟨row, member, value, .column stands outside single⟩
    · obtain ⟨entry, part, among, single, rfl⟩ := listed
      exact ⟨row, member, part, .entry stands outside among single⟩
  · rintro ⟨row, member, value, cell⟩
    cases cell with
    | column stands outside single =>
      exact ⟨row, member, path, value, ⟨stands, outside⟩, .inl ⟨single, rfl⟩⟩
    | entry stands outside among single =>
      exact ⟨row, member, _, _, ⟨stands, outside⟩, .inr ⟨_, rfl, _, value, among, single, rfl⟩⟩

theorem cutAtDot?_append (dotless : '.' ∉ name.toList) (rest : String) :
    cutAtDot? (name ++ "." ++ rest) = some (name, rest) := by
  have plain : ∀ c ∈ name.toList, decide (c = '.') = false := by
    intro c member
    exact decide_eq_false fun dot => dotless (dot ▸ member)
  have split : (name ++ "." ++ rest).toList = name.toList ++ '.' :: rest.toList := by simp
  rw [cutAtDot?, split, Text.cut?_append plain (decide_eq_true rfl)]
  simp

/-- A path is cut at its first dot, and nowhere else. -/
theorem cutAtDot?_eq_some_iff {rest : String} :
    cutAtDot? path = some (name, rest) ↔ '.' ∉ name.toList ∧ path = name ++ "." ++ rest := by
  constructor
  · intro cut
    obtain ⟨⟨before, after⟩, found, same⟩ := Option.map_eq_some_iff.mp cut
    obtain ⟨rfl, rfl⟩ := Prod.mk.inj same
    obtain ⟨c, dot, whole⟩ := Text.cut?_inv found
    obtain rfl := of_decide_eq_true dot
    refine ⟨fun member => ?_, String.toList_injective ?_⟩
    · rw [String.toList_ofList] at member
      exact absurd (Text.cut?_before found '.' member) (by decide)
    · simp [whole]
  · rintro ⟨dotless, rfl⟩
    exact cutAtDot?_append dotless rest

namespace Row

theorem atPath?_of_lookup? (found : lookup? row.values path = some value) :
    row.atPath? path = some value := by
  simp [atPath?, found]

/-- What a row has at the path of an entry: a column of that name, or else the entry. -/
theorem atPath?_entry (ordered : row.Ordered) (stands : (name, .composite entries) ∈ row.values)
    {entry : String} (part : (entry, value) ∈ entries) (dotless : '.' ∉ name.toList) :
    row.atPath? (name ++ "." ++ entry) =
      (lookup? row.values (name ++ "." ++ entry)).or (some value) := by
  have column : lookup? row.values name = some (.composite entries) :=
    ordered.columns.get?_eq_some_iff.mpr stands
  have inside : lookup? entries entry = some value :=
    (ordered.entries name entries stands).get?_eq_some_iff.mpr part
  unfold atPath?
  cases found : lookup? row.values (name ++ "." ++ entry) with
  | some other => rfl
  | none => simp [cutAtDot?_append dotless, column, LiveValue.entries?, inside]

end Row

/-- Listing against reading, for any table. The listed paths are those of the cells. A column is read back
from its name, and an entry from its path, unless a column of the row has that path for its name or the
column of the entry has a dot in its own. Without such dots, every listed path is found in some row. -/
theorem Table.columnPaths_read (ordered : ∀ row ∈ table.rows, row.Ordered) :
    (∀ path, path ∈ table.columnPaths ↔
      ∃ row ∈ table.rows, ∃ value, row.HasCell table.index path value) ∧
    (∀ row ∈ table.rows, ∀ name value, (name, value) ∈ row.values →
      row.atPath? name = some value) ∧
    (∀ row ∈ table.rows, ∀ name entries entry value, (name, .composite entries) ∈ row.values →
      (entry, value) ∈ entries → '.' ∉ name.toList →
      row.atPath? (name ++ "." ++ entry) =
        (lookup? row.values (name ++ "." ++ entry)).or (some value)) ∧
    ((∀ row ∈ table.rows, ∀ name entries, (name, .composite entries) ∈ row.values →
      name ∉ table.index → '.' ∉ name.toList) →
      ∀ path ∈ table.columnPaths, ∃ row ∈ table.rows, (row.atPath? path).isSome = true) := by
  have column_read : ∀ row ∈ table.rows, ∀ name value, (name, value) ∈ row.values →
      row.atPath? name = some value := by
    intro row member name value stands
    exact Row.atPath?_of_lookup? ((ordered row member).columns.get?_eq_some_iff.mpr stands)
  refine ⟨fun path => mem_columnPaths, column_read, ?_, ?_⟩
  · intro row member name entries entry value stands part dotless
    exact Row.atPath?_entry (ordered row member) stands part dotless
  · intro dotless path listed
    obtain ⟨row, member, value, cell⟩ := mem_columnPaths.mp listed
    refine ⟨row, member, ?_⟩
    cases cell with
    | column stands outside single => rw [column_read row member path value stands, Option.isSome_some]
    | entry stands outside part single =>
      rw [Row.atPath?_entry (ordered row member) stands part
        (dotless row member _ _ stands outside), Option.isSome_or]
      exact Bool.or_true _

/-- A row with a composite column, beside an index column and a plain one. -/
def Row.usage : Row LiveValue :=
  ⟨["eden"], [("count", .integer 3), ("pool", .string "eden"),
    ("usage", .composite [("max", .integer 9), ("used", .integer 5)])]⟩

theorem Table.columnPaths_read_usage :
    let table : Table LiveValue := ⟨["pool"], [Row.usage]⟩
    (∀ row ∈ table.rows, row.Ordered) ∧ "usage" ++ "." ++ "used" ∈ table.columnPaths ∧
      Row.usage.atPath? ("usage" ++ "." ++ "used") = some (.integer 5) := by
  intro table
  have ordered : ∀ row ∈ table.rows, row.Ordered := by decide
  have stands : ("usage", .composite [("max", .integer 9), ("used", .integer 5)]) ∈
      Row.usage.values := by simp [Row.usage]
  obtain ⟨listed, -, entry_read, -⟩ := columnPaths_read ordered
  refine ⟨ordered, (listed _).mpr ⟨Row.usage, List.mem_singleton_self _, .integer 5, ?_⟩, ?_⟩
  · exact .entry stands (by decide) (by simp) rfl
  · exact entry_read Row.usage (List.mem_singleton_self _) _ _ _ _ stands (by simp) (by decide)

/-- A path is listed although nothing is found at it, or something else, where a composite column has a
dot in its name, and where another column has the path of an entry for its name. -/
theorem Table.columnPaths_unread :
    let dotted : Row LiveValue := ⟨["eden"], [("a.b", .composite [("c", .integer 1)])]⟩
    let shadowed : Row LiveValue :=
      ⟨["eden"], [("a", .composite [("b", .integer 1)]), ("a.b", .integer 2)]⟩
    (dotted.Ordered ∧ "a.b" ++ "." ++ "c" ∈ columnPaths ⟨["key"], [dotted]⟩ ∧
      ∀ row ∈ [dotted], row.atPath? ("a.b" ++ "." ++ "c") = none) ∧
    (shadowed.Ordered ∧ shadowed.HasCell ["key"] ("a" ++ "." ++ "b") (.integer 1) ∧
      shadowed.atPath? ("a" ++ "." ++ "b") = some (.integer 2)) := by
  intro dotted shadowed
  refine ⟨⟨by decide, mem_columnPaths.mpr ?_, ?_⟩, by decide, ?_, rfl⟩
  · refine ⟨dotted, List.mem_singleton_self _, .integer 1, ?_⟩
    exact .entry (List.mem_singleton_self _) (by decide) (List.mem_singleton_self _) rfl
  · intro row member
    rw [List.mem_singleton.mp member]
    rfl
  · exact .entry List.mem_cons_self (by decide) (List.mem_singleton_self _) rfl

end BeanHarvest
