import BeanHarvest.Filter.Matching

/-! Selecting beans: what holds of a bean that a configuration selects, and that the scopes of the
configuration are wide enough for it. -/
namespace BeanHarvest

theorem Except.bind_ok_inv {ε α β : Type} {first : Except ε α} {next : α → Except ε β} {result : β}
    (well : first >>= next = .ok result) : ∃ value, first = .ok value ∧ next value = .ok result := by
  cases first with
  | error fault => cases well
  | ok value => exact ⟨value, rfl, well⟩

namespace Filter

variable {engine : Pattern.Engine} {filter : Filter} {compiled : Compiled} {bean : Bean}
  {bindings : Bindings}

/-- Patterns are prepared; the rest of a filter stays as it is. -/
theorem compile_keeps (valid : filter.compile engine = .ok compiled) :
    compiled.domain = filter.domain ∧ compiled.names = filter.names ∧
      compiled.params = filter.params.map fun (key, value) => (key, value.texts) := by
  obtain ⟨domainPattern, _, valid⟩ := Except.bind_ok_inv valid
  obtain ⟨classPattern, _, valid⟩ := Except.bind_ok_inv valid
  obtain ⟨beanPatterns, _, valid⟩ := Except.bind_ok_inv valid
  cases valid
  exact ⟨rfl, rfl, rfl⟩

/-- An included bean has one of the names, and the parameters that are asked for. -/
theorem Compiled.includesBean?_inv (included : compiled.includesBean? bean = some bindings) :
    (compiled.names ≠ [] → bean.name ∈ compiled.names) ∧ compiled.allowsParams bean = true := by
  unfold includesBean? at included
  split at included
  · cases included
  · next named =>
    split at included
    · cases included
    · split at included
      · next allowed => exact ⟨fun some_names => by simpa [some_names] using named, allowed⟩
      · cases included

/-- A bean has the values that its parameters are left. -/
theorem Compiled.get?_of_allowsParams (allowed : compiled.allowsParams bean = true) {key : String}
    {texts : List String} (param : (key, texts) ∈ compiled.params) :
    ∃ text ∈ texts, bean.get? key = some text := by
  have has := List.all_eq_true.mp allowed _ param
  obtain ⟨text, given, listed⟩ := (Option.any_eq_true _ _).mp has
  exact ⟨text, List.contains_iff_mem.mp listed, given⟩

end Filter

namespace Configuration

variable {engine : Pattern.Engine} {configuration : Configuration} {bean : Bean}
  {className : Option String} {bindings : Bindings}

/-- A bean that a configuration selects is included by its domain and as a bean. -/
theorem matchBean_inv
    (selected : configuration.matchBean engine bean className = .ok (some bindings)) :
    ∃ included, configuration.included.compile engine = .ok included ∧
      included.includesDomain bean.domain = true ∧ included.includesBean? bean = some bindings := by
  obtain ⟨included, compiled, selected⟩ := Except.bind_ok_inv selected
  refine ⟨included, compiled, ?_⟩
  split at selected
  · cases selected
  · next inside =>
    have ofDomain : included.includesDomain bean.domain = true := by
      simp only [Bool.or_eq_true, Bool.not_eq_true', not_or, Bool.not_eq_false] at inside
      exact inside.1
    obtain ⟨excluded, _, selected⟩ := Except.bind_ok_inv selected
    split at selected
    · cases selected
    · split at selected
      · cases selected
      · next found =>
        split at selected
        · cases selected
        · cases selected
          exact ⟨ofDomain, found⟩

/-- A configuration whose patterns can all be prepared fails at no bean. -/
theorem matchBean_of_compile {compiled : Filter.Compiled × Filter.Compiled}
    (valid : configuration.compile engine = .ok compiled) (bean : Bean) (className : Option String) :
    ∃ found, configuration.matchBean engine bean className = .ok found := by
  obtain ⟨included, isIncluded, valid⟩ := Except.bind_ok_inv valid
  obtain ⟨excluded, isExcluded, _⟩ := Except.bind_ok_inv valid
  simp only [matchBean, isIncluded, isExcluded, bind, Except.bind]
  repeat' split
  all_goals exact ⟨_, rfl⟩

end Configuration

def parameterText (pair : String × String) : String := pair.1 ++ "=" ++ pair.2 ++ ","

/-- The scope of the beans of a domain that have some parameters. -/
def domainScope (domain : String) (pairs : List (String × String)) : String :=
  domain ++ ":" ++ String.join (pairs.map parameterText) ++ "*"

/-- Whether a bean is among those that a scope stands for. -/
inductive Bean.InScope (bean : Bean) : String → Prop where
  | byName : bean.InScope bean.name
  | byDomain (pairs : List (String × String))
      (has : ∀ pair ∈ pairs, bean.get? pair.1 = some pair.2) :
      bean.InScope (domainScope bean.domain pairs)

namespace Filter

variable {engine : Pattern.Engine} {filter : Filter} {bean : Bean} {scopes : List String}

/-- The value of a parameter to which a constraint leaves one. -/
def singleValue? (param : String × Yaml) : Option (String × String) :=
  match param.2.texts with
  | [single] => some (param.1, single)
  | _ => none

theorem scopePart_eq (param : String × Yaml) :
    scopePart param = ((singleValue? param).map parameterText).getD "" := by
  unfold scopePart singleValue?
  rcases param.2.texts with _ | ⟨single, _ | ⟨second, others⟩⟩ <;> rfl

theorem join_scopeParts (params : List (String × Yaml)) :
    String.join (params.map scopePart) =
      String.join ((params.filterMap singleValue?).map parameterText) := by
  induction params with
  | nil => rfl
  | cons param rest ih =>
    rw [List.map_cons, String.join_cons, ih, scopePart_eq, List.filterMap_cons]
    cases singleValue? param with
    | none => exact String.empty_append
    | some pair => exact String.join_cons.symm

/-- A bean that a filter includes is in one of the scopes of the filter. -/
theorem inScope_of_included {included : Compiled} {bindings : Bindings}
    (compiled : filter.compile engine = .ok included)
    (ofDomain : included.includesDomain bean.domain = true)
    (isIncluded : included.includesBean? bean = some bindings)
    (narrowed : filter.scopes? = some scopes) : ∃ scope ∈ scopes, bean.InScope scope := by
  obtain ⟨sameDomain, sameNames, sameParams⟩ := compile_keeps compiled
  obtain ⟨named, allowed⟩ := Compiled.includesBean?_inv isIncluded
  unfold scopes? at narrowed
  split at narrowed
  · next someNames =>
    cases narrowed
    refine ⟨bean.name, sameNames ▸ named ?_, .byName⟩
    rw [sameNames]
    simpa using someNames
  · obtain ⟨domain, isDomain, rfl⟩ := Option.map_eq_some_iff.mp narrowed
    have same : domain = bean.domain := by
      have inside := (Bool.and_eq_true_iff.mp ofDomain).1
      rw [sameDomain, isDomain] at inside
      exact of_decide_eq_true inside
    subst same
    refine ⟨_, List.mem_singleton_self _, ?_⟩
    rw [join_scopeParts]
    refine .byDomain _ fun pair member => ?_
    obtain ⟨⟨key, value⟩, param, single⟩ := List.mem_filterMap.mp member
    unfold singleValue? at single
    split at single
    · next text texts =>
      cases single
      have given : (key, value.texts) ∈ included.params :=
        sameParams ▸ List.mem_map.mpr ⟨_, param, rfl⟩
      obtain ⟨found, listed, has⟩ := Compiled.get?_of_allowsParams allowed given
      dsimp only at texts
      rw [texts] at listed
      rwa [List.mem_singleton.mp listed] at has
    · cases single

end Filter
end BeanHarvest
