import BeanHarvest.Proofs.Jolokia.Tables
import BeanHarvest.Proofs.Live.Paths

/-! The index of a table that came as nested objects. A level of the index has the name of a column that
repeats it in every row, if there is one, and a name of its own otherwise. Nothing is known of a column that
happens to have such a name, nor of a column in rows that are without the level: listing leaves it out just
as if it repeated the index. -/
namespace BeanHarvest

variable {fields columns : List (String × Json)} {rows : List (Row LiveValue)} {row : Row LiveValue}
  {table : Table LiveValue} {level : Nat} {name path : String} {value : LiveValue}

/-- Whether a value has the index value of a level for its text. -/
def Row.Repeats (row : Row LiveValue) (level : Nat) (value : LiveValue) : Prop :=
  ∃ text, value.scalarText? = some text ∧ row.key[level]? = some text

theorem LiveValue.ofFields_ascending (ascending : Keyed.Ascending fields) :
    Keyed.Ascending (LiveValue.ofFields fields) := by
  rw [Table.ofFields_eq_map]
  exact ascending.map LiveValue.ofJson

theorem LiveValue.eq_object_of_ofJson {json : Json} {entries : List (String × LiveValue)}
    (same : LiveValue.ofJson json = .composite entries) :
    ∃ fields, json = .object fields ∧ entries = LiveValue.ofFields fields := by
  cases json with
  | object fields =>
    cases same
    exact ⟨fields, rfl, rfl⟩
  | number number =>
    cases number with
    | whole value =>
      unfold LiveValue.ofJson at same
      split at same
      · cases same
      · cases same
    | float value => cases same
  | _ => cases same

theorem Row.ordered_ofFields (key : List String) (ordered : (Json.object columns).Ordered) :
    Row.Ordered ⟨key, LiveValue.ofFields columns⟩ := by
  obtain ⟨ascending, each⟩ := Json.ordered_object_iff.mp ordered
  refine ⟨LiveValue.ofFields_ascending ascending, ?_⟩
  intro name entries stands
  rw [Table.ofFields_eq_map] at stands
  obtain ⟨⟨name, json⟩, member, same⟩ := List.mem_map.mp stands
  obtain ⟨inner, rfl, rfl⟩ := LiveValue.eq_object_of_ofJson (Prod.mk.inj same).2
  exact LiveValue.ofFields_ascending (Json.ordered_object_iff.mp (each _ member)).1

namespace Table

theorem ordered_fieldRow {field : String × Json} (single : field.2.isObject = false) :
    (fieldRow field).Ordered := by
  refine ⟨?_, ?_⟩
  · show List.Pairwise (· < ·) ["key", "value"]
    decide
  · intro name entries stands
    rcases List.mem_pair.mp stands with same | same
    · cases same
    · obtain ⟨inner, object, -⟩ := LiveValue.eq_object_of_ofJson (Prod.mk.inj same).2.symm
      rw [object] at single
      cases single

theorem ofFields_ordered (ordered : (Json.object fields).Ordered) :
    ∀ row ∈ (ofFields fields).rows, row.Ordered := by
  intro row member
  unfold ofFields at member
  split at member
  · next flat =>
    obtain ⟨field, stands, rfl⟩ := List.mem_map.mp member
    exact ordered_fieldRow ((isFlat_iff.mp flat).2 field stands).1
  · obtain ⟨path, columns, leads, rfl⟩ := (mem_rowsBelow ordered []).mp member
    exact Row.ordered_ofFields _ (ordered.at? leads.reaches)

theorem repeatsIndex_iff {column : String} :
    repeatsIndex rows level column = true ↔
      ∀ row ∈ rows, (lookup? row.values column).bind (·.scalarText?) = row.key[level]? := by
  simp [repeatsIndex]

/-- What is detected repeats the level in every row. -/
theorem repeatsIndex_of_indexColumn? (found : indexColumn? rows level = some name) :
    repeatsIndex rows level name = true := by
  obtain ⟨first, -, found⟩ := Option.bind_eq_some_iff.mp found
  exact List.find?_some found

/-- A column that repeats a level of the first row is detected, or another one in its place. -/
theorem indexColumn?_isSome {first : Row LiveValue} {column : String}
    (head : rows.head? = some first) (reaches : level < first.key.length)
    (repeated : repeatsIndex rows level column = true) : (indexColumn? rows level).isSome = true := by
  have text : (lookup? first.values column).bind (·.scalarText?) = first.key[level]? :=
    repeatsIndex_iff.mp repeated first (List.mem_of_head? head)
  -- The first row has the level, so the column has a text there and is among those that are tried.
  obtain ⟨value, found, same⟩ := Option.bind_eq_some_iff.mp
    (text.trans (List.getElem?_eq_getElem reaches))
  rw [indexColumn?, head, Option.bind_some, List.find?_isSome]
  refine ⟨column, List.mem_map.mpr ⟨(column, value), List.mem_filter.mpr ⟨?_, ?_⟩, rfl⟩, repeated⟩
  · exact Keyed.mem_of_get? found
  · exact decide_eq_true (same.trans (List.getElem?_eq_getElem reaches).symm)

theorem repeatsIndex_of_ofRows {column : String} (named : (ofRows rows).index[level]? = some name)
    (repeated : repeatsIndex rows level column = true) : repeatsIndex rows level name = true := by
  unfold ofRows at named
  cases head : rows.head? with
  | none => simp [head] at named
  | some first =>
    simp only [head, Option.map_some, Option.getD_some, List.getElem?_map, Option.map_eq_some_iff]
      at named
    obtain ⟨same, here, named⟩ := named
    obtain ⟨reaches, rfl⟩ : level < first.key.length ∧ level = same := by
      simpa [List.getElem?_eq_some_iff] using here
    obtain ⟨found, detected⟩ :=
      Option.isSome_iff_exists.mp (indexColumn?_isSome head reaches repeated)
    rw [indexName, detected, Option.getD_some] at named
    exact named ▸ repeatsIndex_of_indexColumn? detected

/-- The names of the fields of a flat object are repeated in a column of its table. -/
theorem repeatsIndex_fieldRows (fields : List (String × Json)) :
    repeatsIndex (fields.map fieldRow) 0 "key" = true := by
  refine repeatsIndex_iff.mpr fun row member => ?_
  obtain ⟨field, -, rfl⟩ := List.mem_map.mp member
  rfl

/-- A level has the name of a column that repeats it, if any column does. -/
theorem repeatsIndex_of_index {column : String}
    (named : (ofFields fields).index[level]? = some name)
    (repeated : repeatsIndex (ofFields fields).rows level column = true) :
    repeatsIndex (ofFields fields).rows level name = true := by
  unfold ofFields at named repeated ⊢
  split at named
  · next flat =>
    rw [if_pos flat]
    obtain ⟨here, rfl⟩ := List.getElem?_eq_some_iff.mp named
    obtain rfl : level = 0 := Nat.lt_one_iff.mp here
    exact repeatsIndex_fieldRows fields
  · next nested =>
    rw [if_neg nested] at repeated ⊢
    exact repeatsIndex_of_ofRows named repeated

/-- Whether the name of a level leaves the data alone: some column repeats the level, or no column has the
name; and a row with a column of the name has the level. -/
structure LevelApart (table : Table LiveValue) (level : Nat) (name : String) : Prop where
  named : (∃ column, repeatsIndex table.rows level column = true) ∨
    ∀ row ∈ table.rows, name ∉ Keyed.keys row.values
  reached : ∀ row ∈ table.rows, name ∈ Keyed.keys row.values → level < row.key.length

/-- A column with the name of a level repeats it wherever the column stands. -/
theorem repeats_of_levelApart (ordered : (Json.object fields).Ordered)
    (named : (ofFields fields).index[level]? = some name)
    (apart : (ofFields fields).LevelApart level name) (member : row ∈ (ofFields fields).rows)
    (stands : (name, value) ∈ row.values) : row.Repeats level value := by
  have present : name ∈ Keyed.keys row.values := List.mem_map_of_mem stands
  have found : lookup? row.values name = some value :=
    (ofFields_ordered ordered row member).columns.get?_eq_some_iff.mpr stands
  obtain ⟨column, repeated⟩ := apart.named.resolve_right fun absent => absent row member present
  have same := repeatsIndex_iff.mp (repeatsIndex_of_index named repeated) row member
  have reaches := List.getElem?_eq_getElem (apart.reached row member present)
  rw [found, Option.bind_some] at same
  exact ⟨_, same.trans reaches, reaches⟩

/-- The paths that are not listed are those of columns of the index. -/
theorem mem_index_of_not_listed (member : row ∈ table.rows) (stands : (name, value) ∈ row.values)
    (path_of : path ∈ pathsOf name value) (hidden : path ∉ table.columnPaths) :
    name ∈ table.index := by
  by_contra outside
  apply hidden
  rcases mem_pathsOf.mp path_of with ⟨single, rfl⟩ | ⟨entries, rfl, entry, part, among, single, rfl⟩
  · exact mem_columnPaths.mpr ⟨row, member, value, .column stands outside single⟩
  · exact mem_columnPaths.mpr ⟨row, member, part, .entry stands outside among single⟩

/-- The index of a decoded table hides no data where the names of its levels leave the data alone: a column
with the name of such a level repeats it wherever the column stands, and what is not listed is a column with
the name of a level, and repeats it if the level is such a one. -/
theorem tableOfJson_index (ordered : (Json.object fields).Ordered) :
    ∃ table, LiveValue.tableOfJson (.object fields) = .tabular table ∧
      (∀ level name, table.index[level]? = some name → table.LevelApart level name →
        ∀ row ∈ table.rows, ∀ value, (name, value) ∈ row.values → row.Repeats level value) ∧
      ∀ row ∈ table.rows, ∀ name value, (name, value) ∈ row.values →
        ∀ path ∈ pathsOf name value, path ∉ table.columnPaths →
          ∃ level, table.index[level]? = some name ∧
            (table.LevelApart level name → row.Repeats level value) := by
  refine ⟨ofFields fields, rfl, ?_, ?_⟩
  · intro level name named apart row member value stands
    exact repeats_of_levelApart ordered named apart member stands
  · intro row member name value stands path path_of hidden
    have in_index := mem_index_of_not_listed member stands path_of hidden
    obtain ⟨level, named⟩ := List.mem_iff_getElem?.mp in_index
    refine ⟨level, named, ?_⟩
    intro apart
    exact repeats_of_levelApart ordered named apart member stands

/-- Memory areas that have their own names in a column. -/
def areas : List (String × Json) :=
  [("heap", .object [("name", .string "heap"), ("used", .whole 7)]),
    ("stack", .object [("name", .string "stack"), ("used", .whole 3)])]

theorem areas_ordered : (Json.object areas).Ordered := by
  simp +decide [areas, Json.whole]

theorem tableOfJson_index_areas :
    (Json.object areas).Ordered ∧ (ofFields areas).index = ["name"] ∧
      (ofFields areas).LevelApart 0 "name" ∧
      ∀ row ∈ (ofFields areas).rows, ∀ value, ("name", value) ∈ row.values → row.Repeats 0 value := by
  have apart : (ofFields areas).LevelApart 0 "name" := by
    constructor
    · exact .inl ⟨"name", rfl⟩
    · intro row member _
      obtain ⟨path, columns, leads, rfl⟩ := (mem_rowsBelow areas_ordered []).mp member
      exact List.length_pos_iff.mpr leads.nonempty
  obtain ⟨table, same, repeats, -⟩ := tableOfJson_index areas_ordered
  obtain rfl : ofFields areas = table := LiveValue.tabular.inj same
  exact ⟨areas_ordered, rfl, apart, repeats 0 "name" rfl apart⟩

/-- A column by the name of a level is not listed although it does not repeat the level: where the name was
made up, and where the row is without the level. -/
theorem tableOfJson_index_hides :
    let named := [("eden", Json.object [("count", .whole 1), ("key", .whole 7)])]
    let uneven := [("a", Json.object [("x", .object [("count", .whole 1), ("name", .string "x")])]),
      ("b", Json.object [("max", .whole 1), ("name", .object [("used", .whole 5)])])]
    ((Json.object named).Ordered ∧ ∃ table row,
      LiveValue.tableOfJson (.object named) = .tabular table ∧ row ∈ table.rows ∧
      table.index[0]? = some "key" ∧ ("key", .integer 7) ∈ row.values ∧
      ¬ row.Repeats 0 (.integer 7) ∧ "key" ∉ table.columnPaths) ∧
    ((Json.object uneven).Ordered ∧ ∃ table row,
      LiveValue.tableOfJson (.object uneven) = .tabular table ∧ row ∈ table.rows ∧
      table.index[1]? = some "name" ∧ ("name", .composite [("used", .integer 5)]) ∈ row.values ∧
      ¬ row.Repeats 1 (.composite [("used", .integer 5)]) ∧ "name.used" ∉ table.columnPaths) := by
  intro named uneven
  have named_paths : (ofFields named).columnPaths = ["count"] :=
    show sortedSet ["count"] = ["count"] from sortedSet_of_ascending (by decide)
  have uneven_paths : (ofFields uneven).columnPaths = ["count", "max"] :=
    show sortedSet ["count", "max"] = ["count", "max"] from sortedSet_of_ascending (by decide)
  refine ⟨⟨?_, ofFields named, _, rfl, List.mem_cons_self, rfl, ?_, ?_, ?_⟩,
    ⟨?_, ofFields uneven, _, rfl, List.mem_cons_of_mem _ List.mem_cons_self, rfl, ?_, ?_, ?_⟩⟩
  · simp +decide [named, Json.whole]
  · exact List.mem_cons_of_mem _ List.mem_cons_self
  · rintro ⟨text, same, here⟩
    cases same
    exact absurd here (by decide)
  · rw [named_paths]
    decide
  · simp +decide [uneven, Json.whole]
  · exact List.mem_cons_of_mem _ List.mem_cons_self
  · rintro ⟨text, same, -⟩
    cases same
  · rw [uneven_paths]
    decide

end Table
end BeanHarvest
