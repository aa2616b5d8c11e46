import BeanHarvest.Filter.Matching

/-! Coverage one path at a time: what a filter covers of an attribute is said by the names that it lists,
that of the attribute and those of its paths. -/
namespace BeanHarvest

namespace AttributeFilter

/-- Whether a filter lists a name. A filter that is not set lists none. -/
def Lists : Option AttributeFilter → String → Prop
  | none, _ => False
  | some filter, name => name ∈ filter.listed

instance (filter : Option AttributeFilter) (name : String) : Decidable (Lists filter name) :=
  match filter with
  | none => inferInstanceAs (Decidable False)
  | some filter => inferInstanceAs (Decidable (name ∈ filter.listed))

variable {filter : Option AttributeFilter} {name : String} {paths : List String} {unset : Coverage}

theorem contains_iff {filter : AttributeFilter} :
    filter.contains name = true ↔ Lists (some filter) name := by
  simp [contains, Lists]

theorem coverage_of_lists (whole : Lists filter name) : coverage filter name paths unset = .whole := by
  cases filter with
  | none => exact False.elim whole
  | some filter => exact if_pos (contains_iff.mpr whole)

/-- A filter that is set, but does not list the name, covers the paths that it lists. -/
theorem coverage_of_not_lists {filter : AttributeFilter} (partly : ¬ Lists (some filter) name) :
    coverage (some filter) name paths unset =
      let listed := paths.filter fun path => filter.contains (name ++ "." ++ path)
      if listed.isEmpty then .nothing else .subset listed :=
  if_neg fun whole => partly (contains_iff.mp whole)

/-- An attribute without paths is covered by its name alone. -/
theorem isMatch_coverage_nil : (coverage filter name [] unset).isMatch = true ↔
    Lists filter name ∨ filter = none ∧ unset.isMatch = true := by
  by_cases whole : Lists filter name
  · rw [coverage_of_lists whole]
    simp [Coverage.isMatch, whole]
  · cases filter with
    | none => simp [coverage, whole]
    | some filter =>
      rw [coverage_of_not_lists whole]
      simp [Coverage.isMatch, whole]

end AttributeFilter

namespace Coverage

variable {paths listed : List String}

/-- A coverage by listed paths selects them, none or some. -/
theorem select_listed :
    (if listed.isEmpty then nothing else subset listed).select paths = listed := by
  split
  · next empty => exact (List.isEmpty_iff.mp empty).symm
  · rfl

theorem remove_listed :
    (if listed.isEmpty then nothing else subset listed).remove paths =
      paths.filter fun path => decide (path ∉ listed) := by
  split
  · next empty =>
    rw [List.isEmpty_iff.mp empty]
    exact (List.filter_eq_self.mpr (by simp)).symm
  · simp [remove]

end Coverage

namespace AttributeFilter

theorem select_coverage (filter : Option AttributeFilter) (name : String) (paths : List String) :
    (coverage filter name paths .whole).select paths =
      paths.filter fun path =>
        decide (filter = none ∨ Lists filter name ∨ Lists filter (name ++ "." ++ path)) := by
  by_cases whole : filter = none ∨ Lists filter name
  · have covered : coverage filter name paths .whole = .whole := by
      rcases whole with rfl | whole
      · rfl
      · exact coverage_of_lists whole
    rw [covered]
    refine (List.filter_eq_self.mpr fun path _ => ?_).symm
    rcases whole with unset | whole
    · simp [unset]
    · simp [whole]
  · obtain ⟨isSet, partly⟩ := not_or.mp whole
    obtain ⟨filter, rfl⟩ := Option.ne_none_iff_exists'.mp isSet
    rw [coverage_of_not_lists partly, Coverage.select_listed]
    refine List.filter_congr fun path _ => ?_
    rw [Bool.eq_iff_iff]
    simp [contains_iff, partly]

/-- What an exclude filter leaves of some of the paths. -/
theorem remove_coverage (filter : Option AttributeFilter) (name : String)
    {paths kept : List String} (among : ∀ path ∈ kept, path ∈ paths) :
    (coverage filter name paths .nothing).remove kept =
      kept.filter fun path =>
        decide (¬ Lists filter name ∧ ¬ Lists filter (name ++ "." ++ path)) := by
  by_cases whole : Lists filter name
  · rw [coverage_of_lists whole]
    refine (List.filter_eq_nil_iff.mpr fun path _ => ?_).symm
    simp [whole]
  · cases filter with
    | none =>
      refine (List.filter_eq_self.mpr fun path _ => ?_).symm
      exact decide_eq_true ⟨whole, id⟩
    | some filter =>
      rw [coverage_of_not_lists whole, Coverage.remove_listed]
      refine List.filter_congr fun path member => ?_
      rw [decide_eq_decide, List.mem_filter]
      simp [contains_iff, whole, among path member]

end AttributeFilter
end BeanHarvest
