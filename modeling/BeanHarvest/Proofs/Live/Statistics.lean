import BeanHarvest.Live.Statistics
import BeanHarvest.Proofs.Live.Paths

/-! The paths that a statistics object lists, and what is read at them. Listing goes through all statistics
of a group and leaves out what describes them; reading cuts a path at its first dot and takes the first
statistic of that name, with any of its fields. The two agree where the names in a group are distinct and
have no dots, and where statistics of one name have single values under the same fields. -/
namespace BeanHarvest.Statistics

variable {value part : LiveValue} {group : List (String × LiveValue)} {name other path : String}

/-- The groups with their names, the top among them under no name. -/
def namedGroups (value : LiveValue) : List (String × List (String × LiveValue)) :=
  match value.entries? with
  | none => []
  | some root => ("", root) :: subgroups root

/-- Whether a group measures a single value at a path: a statistic has it under a field that is not one of
those that describe it. -/
inductive Measures (group : List (String × LiveValue)) : String → LiveValue → Prop where
  | field {name field : String} {fields : List (String × LiveValue)} {part : LiveValue}
      (stands : (name, fields) ∈ statistics group) (measuring : field ∉ descriptiveFields)
      (member : (field, part) ∈ fields) (single : part.isScalar = true) :
      Measures group (name ++ "." ++ field) part

/-- Whether a group shows a value at a path: the first statistic of a name without dots has it, under any
field. -/
inductive Shows (group : List (String × LiveValue)) : String → LiveValue → Prop where
  | field {name field : String} {fields : List (String × LiveValue)} {part : LiveValue}
      (first : lookup? (statistics group) name = some fields) (dotless : '.' ∉ name.toList)
      (found : lookup? fields field = some part) : Shows group (name ++ "." ++ field) part

def allStatistics (value : LiveValue) : List (String × List (String × LiveValue)) :=
  (namedGroups value).flatMap fun group => statistics group.2

/-- Whether a field of both has a single value in both or in none. -/
def Alike (fields others : List (String × LiveValue)) : Prop :=
  ∀ entry ∈ fields, ∀ counterpart ∈ others, counterpart.1 = entry.1 →
    counterpart.2.isScalar = entry.2.isScalar

instance (fields others : List (String × LiveValue)) : Decidable (Alike fields others) :=
  inferInstanceAs (Decidable (∀ entry ∈ fields, ∀ counterpart ∈ others, _ → _))

/-- Whether what is listed in the groups can be read: the names of the statistics in a group are distinct
and have no dots, and statistics of one name are alike. -/
structure Legible (value : LiveValue) : Prop where
  distinct : ∀ group ∈ namedGroups value, ((statistics group.2).map (·.1)).Nodup
  dotless : ∀ statistic ∈ allStatistics value, '.' ∉ statistic.1.toList
  alike : ∀ statistic ∈ allStatistics value, ∀ namesake ∈ allStatistics value,
    namesake.1 = statistic.1 → Alike statistic.2 namesake.2

theorem legible_iff : Legible value ↔
    (∀ group ∈ namedGroups value, ((statistics group.2).map (·.1)).Nodup) ∧
    (∀ statistic ∈ allStatistics value, '.' ∉ statistic.1.toList) ∧
    ∀ statistic ∈ allStatistics value, ∀ namesake ∈ allStatistics value,
      namesake.1 = statistic.1 → Alike statistic.2 namesake.2 :=
  ⟨fun legible => ⟨legible.distinct, legible.dotless, legible.alike⟩,
    fun ⟨distinct, dotless, alike⟩ => ⟨distinct, dotless, alike⟩⟩

instance (value : LiveValue) : Decidable (Legible value) := decidable_of_iff _ legible_iff.symm

/-- A name stands for the first group that has it. -/
theorem group?_eq (value : LiveValue) (name : String) :
    group? value name = lookup? (namedGroups value) name := by
  unfold group? namedGroups
  cases value.entries? with
  | none => rfl
  | some root =>
    have first := Keyed.get?_cons "" root (subgroups root) name
    by_cases top : name = ""
    · subst top
      exact first.symm
    · rw [if_neg (Ne.symm top)] at first
      simpa [top, lookup?] using first.symm

theorem mem_namedGroups (found : group? value name = some group) :
    (name, group) ∈ namedGroups value := by
  rw [group?_eq] at found
  exact Keyed.mem_of_get? found

/-- Groups are named in their order, a top without statistics left out. -/
theorem groups_sublist (value : LiveValue) :
    (groups value).Sublist ((namedGroups value).map (·.1)) := by
  unfold groups namedGroups
  cases value.entries? with
  | none => exact List.Sublist.refl _
  | some root =>
    dsimp only
    split
    · exact List.sublist_cons_self _ _
    · exact List.Sublist.refl _

/-- Distinct names are named once each, all but a top without statistics, and stand for their groups. -/
theorem groups_of_distinct (distinct : ((namedGroups value).map (·.1)).Nodup) :
    (groups value).Nodup ∧ ∀ name group, (name, group) ∈ namedGroups value →
      group? value name = some group ∧
        (name ∈ groups value ↔ name ≠ "" ∨ statistics group ≠ []) := by
  refine ⟨distinct.sublist (groups_sublist value), ?_⟩
  intro name group member
  constructor
  · rw [group?_eq]
    exact (Keyed.get?_eq_some_iff distinct).mpr member
  · unfold namedGroups at distinct member
    unfold groups
    cases known : value.entries? with
    | none => simp [known] at member
    | some root =>
      rw [known] at distinct member
      obtain ⟨alone, -⟩ := List.nodup_cons.mp distinct
      rcases List.mem_cons.mp member with top | below
      · cases top
        simp [alone]
      · have named : name ∈ (subgroups root).map (·.1) := List.mem_map_of_mem below
        have below_top : name ≠ "" := fun top => alone (top ▸ named)
        simp [below_top, List.mem_map.mp named]

/-- The listed paths are those at which the group measures something. -/
theorem mem_paths : path ∈ paths value name ↔
    ∃ group, group? value name = some group ∧ ∃ part, Measures group path part := by
  unfold paths
  cases group? value name with
  | none => simp
  | some group =>
    simp only [Option.map_some, Option.getD_some, List.mem_flatMap, List.mem_map, List.mem_filter,
      Bool.and_eq_true, Bool.not_eq_true', List.contains_eq_mem, decide_eq_false_iff_not,
      Prod.exists, Option.some.injEq, exists_eq_left']
    constructor
    · rintro ⟨statistic, fields, stands, field, part, ⟨member, measuring, single⟩, rfl⟩
      exact ⟨part, .field stands measuring member single⟩
    · rintro ⟨part, ⟨stands, measuring, member, single⟩⟩
      exact ⟨_, _, stands, _, part, ⟨member, measuring, single⟩, rfl⟩

theorem read?_eq_some_iff : read? value name path = some part ↔
    ∃ group, group? value name = some group ∧ Shows group path part := by
  unfold read?
  simp only [bind, Option.bind_eq_some_iff, Prod.exists, cutAtDot?_eq_some_iff]
  constructor
  · rintro ⟨group, known, statistic, field, ⟨dotless, rfl⟩, fields, first, found⟩
    exact ⟨group, known, .field first dotless found⟩
  · rintro ⟨group, known, ⟨first, dotless, found⟩⟩
    exact ⟨group, known, _, _, ⟨dotless, rfl⟩, _, first, found⟩

/-- A path is read as what the group measures there, if the first statistic of its name does. -/
theorem read?_of_first {statistic field : String} {fields : List (String × LiveValue)}
    (known : group? value name = some group)
    (first : lookup? (statistics group) statistic = some fields) (dotless : '.' ∉ statistic.toList)
    (found : lookup? fields field = some part) (measuring : field ∉ descriptiveFields)
    (single : part.isScalar = true) :
    statistic ++ "." ++ field ∈ paths value name ∧
      read? value name (statistic ++ "." ++ field) = some part := by
  constructor
  · have measures := Measures.field (Keyed.mem_of_get? first) measuring (Keyed.mem_of_get? found) single
    exact mem_paths.mpr ⟨group, known, part, measures⟩
  · exact read?_eq_some_iff.mpr ⟨group, known, .field first dotless found⟩

theorem descriptiveFields_dotless : ∀ field ∈ descriptiveFields, '.' ∉ field.toList := by decide

/-- What is measured under a name without dots is not under a field that describes: a path with a single
dot has one name and one field only. -/
theorem measuring_of_measures {statistic field : String} (dotless : '.' ∉ statistic.toList)
    (measures : Measures group (statistic ++ "." ++ field) part) : field ∉ descriptiveFields := by
  generalize same : statistic ++ "." ++ field = path at measures
  intro describes
  obtain @⟨listed, measured, fields, _, stands, measuring, member, single⟩ := measures
  have dots := congrArg (fun text : String => text.toList.count '.') same
  have plain : field.toList.count '.' = 0 :=
    List.count_eq_zero.mpr (descriptiveFields_dotless field describes)
  simp only [String.toList_append, List.count_append, List.count_eq_zero.mpr dotless, plain] at dots
  have listed_dotless : '.' ∉ listed.toList := List.count_eq_zero.mp (by omega)
  have cut := cutAtDot?_append dotless field
  rw [same, cutAtDot?_append listed_dotless] at cut
  cases cut
  exact measuring describes

/-- A single value is read only at paths that are listed, as far as the path is listed anywhere. -/
theorem mem_paths_of_read (listed : path ∈ paths value other) (found : read? value name path = some part)
    (single : part.isScalar = true) : path ∈ paths value name := by
  obtain ⟨group, known, first, dotless, inside⟩ := read?_eq_some_iff.mp found
  obtain ⟨_, _, _, measures⟩ := mem_paths.mp listed
  exact (read?_of_first known first dotless inside (measuring_of_measures dotless measures) single).1

theorem mem_allStatistics {statistic : String × List (String × LiveValue)}
    (known : group? value name = some group) (stands : statistic ∈ statistics group) :
    statistic ∈ allStatistics value :=
  List.mem_flatMap.mpr ⟨(name, group), mem_namedGroups known, stands⟩

/-- Where the groups are legible, a path is listed for a group just if it can be read there, as far as it
is listed anywhere. -/
theorem Legible.mem_paths_iff (legible : Legible value) (listed : path ∈ paths value other) :
    path ∈ paths value name ↔ (read? value name path).isSome = true := by
  constructor
  · intro here
    obtain ⟨group, known, part, measures⟩ := mem_paths.mp here
    cases measures with
    | @field statistic field fields _ stands _ member _ =>
      have first : lookup? (statistics group) statistic = some fields :=
        (Keyed.get?_eq_some_iff (legible.distinct _ (mem_namedGroups known))).mpr stands
      have dotless := legible.dotless _ (mem_allStatistics known stands)
      obtain ⟨found, inside⟩ := Keyed.exists_get? member
      exact Option.isSome_iff_exists.mpr
        ⟨found, read?_eq_some_iff.mpr ⟨group, known, .field first dotless inside⟩⟩
  · intro readable
    obtain ⟨part, found⟩ := Option.isSome_iff_exists.mp readable
    refine mem_paths_of_read listed found ?_
    obtain ⟨group, known, shows⟩ := read?_eq_some_iff.mp found
    obtain ⟨elsewhere, known_there, whole, measures⟩ := mem_paths.mp listed
    cases measures with
    | @field statistic field fields _ stands _ member single =>
      have dotless := legible.dotless _ (mem_allStatistics known_there stands)
      generalize same : statistic ++ "." ++ field = path at shows
      obtain @⟨namesake, shown, others, _, first, namesake_dotless, inside⟩ := shows
      -- both names end at the first dot, so that they are one
      have cut := cutAtDot?_append dotless field
      rw [same, cutAtDot?_append namesake_dotless] at cut
      cases cut
      have here := mem_allStatistics known (Keyed.mem_of_get? first)
      have alike := legible.alike _ (mem_allStatistics known_there stands) _ here rfl
      exact (alike _ member _ (Keyed.mem_of_get? inside) rfl).trans single

end BeanHarvest.Statistics
