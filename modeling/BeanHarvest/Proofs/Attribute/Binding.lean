import BeanHarvest.Attribute.Candidate
import BeanHarvest.Proofs.Filter.Coverage

/-! Binding: which of the configurations a candidate is bound to, and what of its live value it is bound
to. What a configuration selects is said here of names and paths one by one; the order in which a
candidate decides, and whether it has to look at the live value for it, make no difference. -/
namespace BeanHarvest

open AttributeFilter (Lists contains_iff isMatch_coverage_nil select_coverage remove_coverage)

/-- The attribute that an offer leads to, if the live value is known. -/
def Offer.takenAt (value : LiveValue) : Offer → Option MatchedAttribute
  | pass => none
  | take bound => some bound
  | look decide => decide value

/-- The paths that a matched attribute reads in its live value. -/
def MatchedAttribute.paths (bound : MatchedAttribute) : List String :=
  match bound.shape with
  | .simple leaf => [leaf.path]
  | .composite leaves => leaves.map (·.path)
  | .tabular columns _ | .statistics columns _ => columns.map (·.leaf.path)

namespace Candidate

variable {candidate : Candidate} {kind : AttributeKind} {context : InstanceContext}
  {configuration : Configuration} {found : BeanMatch} {value : LiveValue} {bound : MatchedAttribute}
  {answer : (call : Call) → call.Outcome}

/-- The name under which filters list a path into the attribute. -/
def pathName (candidate : Candidate) (path : String) : String := candidate.name ++ "." ++ path

/-- Whether a configuration wants a path into the attribute: it is included, columns of tables by
their own name only, and neither the attribute nor the path is excluded. -/
def Wants (candidate : Candidate) (kind : AttributeKind) (configuration : Configuration)
    (path : String) : Prop :=
  let included := configuration.included.attributes
  let excluded := configuration.excluded.attributes
  (if kind = .tabular then Lists included (candidate.pathName path)
    else included = none ∨ Lists included candidate.name ∨
      Lists included (candidate.pathName path)) ∧
    ¬ Lists excluded candidate.name ∧ ¬ Lists excluded (candidate.pathName path)

instance (candidate : Candidate) (kind : AttributeKind) (configuration : Configuration)
    (path : String) : Decidable (candidate.Wants kind configuration path) :=
  inferInstanceAs (Decidable (ite _ _ _ ∧ ¬ _ ∧ ¬ _))

/-- The paths into a live value that a configuration wants, in their order. -/
def wantedPaths (candidate : Candidate) (kind : AttributeKind) (configuration : Configuration)
    (value : LiveValue) : List String :=
  (subPaths kind value).filter fun path => candidate.Wants kind configuration path

/-- Whether a configuration selects a candidate: by its name if the value is a single one, and by any
path that it wants otherwise. -/
def Selects (candidate : Candidate) (kind : AttributeKind) (configuration : Configuration)
    (value : LiveValue) : Prop :=
  match kind with
  | .simple =>
    (configuration.included.attributes = none ∨
        Lists configuration.included.attributes candidate.name) ∧
      ¬ Lists configuration.excluded.attributes candidate.name
  | kind => candidate.wantedPaths kind configuration value ≠ []

/-- The kind of a candidate whose live value is known: the declared one, or statistics if the type
tells nothing and the instance looks for them. -/
def kindAt? (candidate : Candidate) (context : InstanceContext) (value : LiveValue) :
    Option AttributeKind :=
  match candidate.kind? with
  | some kind => some kind
  | none => if context.detectStatistics && Statistics.isStatistics value then some .statistics else none

theorem select_listedPaths (filter : Option AttributeFilter) (name : String)
    (paths : List String) :
    (listedPaths filter name paths).select paths =
      paths.filter fun path => decide (Lists filter (name ++ "." ++ path)) := by
  cases filter with
  | none =>
    refine (List.filter_eq_nil_iff.mpr fun path _ => ?_).symm
    exact of_decide_eq_false rfl
  | some filter =>
    unfold listedPaths
    rw [Coverage.select_listed]
    refine List.filter_congr fun path _ => ?_
    rw [Bool.eq_iff_iff]
    simp [contains_iff]

theorem selectedPaths_eq (candidate : Candidate) (kind : AttributeKind) (found : BeanMatch)
    (paths : List String) :
    candidate.selectedPaths kind found paths =
      paths.filter fun path => candidate.Wants kind found.configuration path := by
  unfold selectedPaths AttributeFilter.selected
  dsimp only
  split
  · next rows =>
    rw [select_listedPaths, remove_coverage _ _ fun _ member => (List.mem_filter.mp member).1,
      List.filter_filter]
    refine List.filter_congr fun path _ => ?_
    rw [Bool.eq_iff_iff]
    simp [Wants, pathName, rows, and_comm]
  · next rows =>
    rw [select_coverage, remove_coverage _ _ fun _ member => (List.mem_filter.mp member).1,
      List.filter_filter]
    refine List.filter_congr fun path _ => ?_
    rw [Bool.eq_iff_iff]
    simp [Wants, pathName, rows, and_comm]

/-- A filter under which nothing is listed of an attribute has none of its paths. -/
theorem mayList_of_lists {filter : AttributeFilter} {path : String}
    (lists : Lists (some filter) candidate.name ∨ Lists (some filter) (candidate.pathName path)) :
    mayList filter candidate.name = true := by
  unfold mayList
  rcases lists with whole | partly
  · rw [contains_iff.mpr whole, Bool.true_or]
  · have begins : (candidate.pathName path).startsWith (candidate.name ++ ".") = true := by
      have whole : (candidate.pathName path).toList =
          (candidate.name ++ ".").toList ++ path.toList := String.toList_append
      rw [String.startsWith_string_iff, whole]
      exact List.prefix_append _ _
    rw [List.any_eq_true.mpr ⟨_, partly, begins⟩, Bool.or_true]

/-- Whether a matched attribute is what one configuration makes of a candidate: it is the candidate's
attribute with the parameters found, it reads what the configuration wants, and its metrics are made
by the configuration. -/
structure BoundBy (candidate : Candidate) (kind : AttributeKind) (context : InstanceContext)
    (found : BeanMatch) (value : LiveValue) (bound : MatchedAttribute) : Prop where
  bean_eq : bound.bean = candidate.bean
  name_eq : bound.name = candidate.name
  type_eq : bound.type = candidate.info.type
  params_eq : bound.params = found.params
  kind_eq : bound.kind = kind
  paths_eq : kind ≠ .simple → bound.paths = candidate.wantedPaths kind found.configuration value
  templates : ∀ metric ∈ bound.templates, ∃ path exact whole live withOptionTags,
    metric = candidate.template found context path exact whole live withOptionTags

theorem bindSimple_boundBy (options : Option AttributeOptions) (live : Option String) :
    candidate.BoundBy .simple context found value
      (candidate.bindSimple found context options live) where
  bean_eq := rfl
  name_eq := rfl
  type_eq := rfl
  params_eq := rfl
  kind_eq := rfl
  paths_eq := fun nested => absurd rfl nested
  templates := fun _ member => ⟨_, _, _, _, _, List.mem_singleton.mp member⟩

/-- A single value is refused just by the configurations that do not select it. -/
theorem refuses_iff (candidate : Candidate) (found : BeanMatch) (value : LiveValue) :
    (!(AttributeFilter.coverage found.configuration.included.attributes
          candidate.name [] .whole).isMatch ||
        (AttributeFilter.coverage found.configuration.excluded.attributes
          candidate.name [] .nothing).isMatch) = true ↔
      ¬ candidate.Selects .simple found.configuration value := by
  rw [Bool.or_eq_true, Bool.not_eq_true', ← Bool.not_eq_true,
    isMatch_coverage_nil, isMatch_coverage_nil]
  simp only [Selects, Coverage.isMatch, and_true, Bool.false_eq_true, and_false, or_false]
  rw [Decidable.not_and_iff_not_or_not, Decidable.not_not, or_comm (a := Lists _ _)]

/-- An offer for a single value leads to an attribute, whether it looks at the value or not. -/
theorem offerSimple_takenAt (candidate : Candidate) (context : InstanceContext)
    (selects : candidate.Selects .simple found.configuration value) :
    ∃ bound, (candidate.offerSimple context found).takenAt value = some bound ∧
      candidate.BoundBy .simple context found value bound := by
  unfold offerSimple
  dsimp only
  rw [if_neg fun refuses => (refuses_iff candidate found value).mp refuses selects]
  split
  · exact ⟨_, rfl, bindSimple_boundBy _ _⟩
  · exact ⟨_, rfl, bindSimple_boundBy _ _⟩

theorem selects_iff_of_nested (nested : kind ≠ .simple) :
    candidate.Selects kind configuration value ↔
      candidate.wantedPaths kind configuration value ≠ [] := by
  cases kind with
  | simple => exact absurd rfl nested
  | _ => exact Iff.rfl

theorem bindNested_eq_none (context : InstanceContext)
    (none_wanted : candidate.wantedPaths kind found.configuration value = []) :
    candidate.bindNested kind context found value = none := by
  refine if_pos ?_
  rw [selectedPaths_eq]
  exact List.isEmpty_iff.mpr none_wanted

/-- The template of a column is made by the configuration. -/
theorem column_template (candidate : Candidate) (kind : AttributeKind) (context : InstanceContext)
    (found : BeanMatch) (value : LiveValue) {paths : List String} {column : Column}
    (member : column ∈ paths.map (candidate.column kind context found value)) :
    ∃ path exact whole live withOptionTags, column.leaf.template =
      candidate.template found context path exact whole live withOptionTags := by
  obtain ⟨path, _, rfl⟩ := List.mem_map.mp member
  exact ⟨_, _, _, _, _, rfl⟩

theorem bindNested_takenAt (context : InstanceContext) (nested : kind ≠ .simple)
    (some_wanted : candidate.wantedPaths kind found.configuration value ≠ []) :
    ∃ bound, candidate.bindNested kind context found value = some bound ∧
      candidate.BoundBy kind context found value bound := by
  have selected : candidate.selectedPaths kind found (subPaths kind value) =
      candidate.wantedPaths kind found.configuration value := selectedPaths_eq ..
  unfold bindNested
  dsimp only
  rw [selected, if_neg fun empty => some_wanted (List.isEmpty_iff.mp empty)]
  have columns := @column_template candidate kind context found value
    (candidate.wantedPaths kind found.configuration value)
  cases kind with
  | simple => exact absurd rfl nested
  | composite =>
    refine ⟨_, rfl, rfl, rfl, rfl, rfl, rfl, fun _ => ?_, ?_⟩
    · simp [MatchedAttribute.paths, matched, Function.comp_def, column]
    · intro metric member
      obtain ⟨leaf, leaves, rfl⟩ := List.mem_map.mp member
      obtain ⟨column, present, rfl⟩ := List.mem_map.mp leaves
      exact columns present
  | tabular =>
    refine ⟨_, rfl, rfl, rfl, rfl, rfl, rfl, fun _ => ?_, ?_⟩
    · simp [MatchedAttribute.paths, matched, Function.comp_def, column]
    · intro metric member
      obtain ⟨column, present, rfl⟩ := List.mem_map.mp member
      exact columns present
  | statistics =>
    refine ⟨_, rfl, rfl, rfl, rfl, rfl, rfl, fun _ => ?_, ?_⟩
    · simp [MatchedAttribute.paths, matched, Function.comp_def, column]
    · intro metric member
      obtain ⟨column, present, rfl⟩ := List.mem_map.mp member
      exact columns present

def worthLooking (candidate : Candidate) (kind : AttributeKind) (configuration : Configuration) :
    Bool :=
  match configuration.included.attributes with
  | some filter => mayList filter candidate.name
  | none => kind ≠ .tabular

theorem worthLooking_of_wants {path : String} (wants : candidate.Wants kind configuration path) :
    candidate.worthLooking kind configuration = true := by
  obtain ⟨included, _⟩ := wants
  unfold worthLooking
  cases isSet : configuration.included.attributes with
  | none =>
    by_cases rows : kind = .tabular
    · rw [if_pos rows, isSet] at included
      exact False.elim included
    · exact decide_eq_true rows
  | some filter =>
    rw [isSet] at included
    have lists : Lists (some filter) candidate.name ∨
        Lists (some filter) (candidate.pathName path) := by
      split at included
      · exact .inr included
      · exact included.resolve_left (Option.some_ne_none filter)
    exact mayList_of_lists lists

/-- The live value is not looked at only where no path is wanted. -/
theorem offerNested_takenAt (candidate : Candidate) (kind : AttributeKind)
    (context : InstanceContext) (found : BeanMatch) (value : LiveValue) :
    (candidate.offerNested kind context found).takenAt value =
      candidate.bindNested kind context found value := by
  have unfolded : candidate.offerNested kind context found =
      if candidate.worthLooking kind found.configuration then
        .look (candidate.bindNested kind context found) else .pass := rfl
  rw [unfolded]
  split
  · rfl
  · next idle =>
    refine (bindNested_eq_none context (List.filter_eq_nil_iff.mpr fun path _ => ?_)).symm
    rw [decide_eq_true_iff]
    exact fun wants => idle (worthLooking_of_wants wants)

theorem offer_of_nested (candidate : Candidate) (context : InstanceContext) (found : BeanMatch)
    (nested : kind ≠ .simple) :
    candidate.offer kind context found = candidate.offerNested kind context found := by
  cases kind with
  | simple => exact absurd rfl nested
  | _ => rfl

/-- A configuration makes a matched attribute of the candidates that it selects, and of no other. -/
theorem offer_takenAt (candidate : Candidate) (kind : AttributeKind) (context : InstanceContext)
    (found : BeanMatch) (value : LiveValue) :
    (candidate.Selects kind found.configuration value →
      ∃ bound, (candidate.offer kind context found).takenAt value = some bound ∧
        candidate.BoundBy kind context found value bound) ∧
    (¬ candidate.Selects kind found.configuration value →
      (candidate.offer kind context found).takenAt value = none) := by
  by_cases single : kind = .simple
  · subst single
    refine ⟨offerSimple_takenAt candidate context, fun others => ?_⟩
    have refused : candidate.offerSimple context found = .pass :=
      if_pos ((refuses_iff candidate found value).mpr others)
    exact congrArg (Offer.takenAt value) refused
  · rw [offer_of_nested candidate context found single, offerNested_takenAt,
      selects_iff_of_nested single]
    exact ⟨bindNested_takenAt context single,
      fun others => bindNested_eq_none context (Decidable.not_not.mp others)⟩

/-- Every attribute that is taken was made by the configuration. -/
theorem boundBy_of_taken (taken : (candidate.offer kind context found).takenAt value = some bound) :
    candidate.BoundBy kind context found value bound := by
  obtain ⟨selected, others⟩ := offer_takenAt candidate kind context found value
  by_cases selects : candidate.Selects kind found.configuration value
  · obtain ⟨other, same, boundBy⟩ := selected selects
    cases same.symm.trans taken
    exact boundBy
  · cases (others selects).symm.trans taken

/-- Offers are settled by the first one that is taken, whether the live value was seen before or is
read now. -/
theorem settle_result {bean : Bean} {name : String} (read : answer (.read bean name) = .ok value)
    (offers : List Offer) {live : Option LiveValue} (seen : live = none ∨ live = some value) :
    (Offer.settle bean name live offers).result answer =
      .ok (offers.findSome? (·.takenAt value)) := by
  induction offers generalizing live with
  | nil => rfl
  | cons offer rest ih =>
    cases offer with
    | pass => exact ih seen
    | take bound => rfl
    | look decide =>
      have sight : (Offer.settle bean name live (.look decide :: rest)).result answer =
          (Offer.settle bean name (some value) (.look decide :: rest)).result answer := by
        rcases seen with rfl | rfl
        · simp only [Offer.settle, Dialogue.result]
          rw [read]
        · rfl
      rw [sight, List.findSome?_cons]
      cases same : decide value with
      | some bound => simp only [Offer.settle, Offer.takenAt, same, Dialogue.result]
      | none =>
        simp only [Offer.settle, Offer.takenAt, same]
        exact ih (.inr rfl)

/-- What a candidate comes to: it takes the first offer for the kind that it has at the live value. -/
theorem bind_result (candidate : Candidate) (context : InstanceContext)
    (selecting : List BeanMatch)
    (read : answer (.read candidate.bean candidate.name) = .ok value) :
    (candidate.bind context selecting).result answer =
      .ok ((candidate.kindAt? context value).bind fun kind =>
        selecting.findSome? fun found => (candidate.offer kind context found).takenAt value) := by
  unfold bind
  by_cases empty : selecting.isEmpty = true
  · rw [if_pos empty, List.isEmpty_iff.mp empty]
    cases candidate.kindAt? context value <;> rfl
  · rw [if_neg empty]
    unfold kindAt?
    cases candidate.kind? with
    | some kind =>
      simp only [settle_result read _ (.inl rfl), List.findSome?_map, Option.bind_some,
        Function.comp_def]
    | none =>
      cases context.detectStatistics with
      | false => rfl
      | true =>
        simp only [Bool.not_true, Bool.false_eq_true, if_false, Dialogue.result, Bool.true_and]
        rw [read]
        dsimp only
        split
        · simp only [settle_result read _ (.inr rfl), List.findSome?_map, Option.bind_some,
            Function.comp_def]
        · rfl

/-- What a candidate was bound to is what one of the configurations made of it. -/
theorem exists_taken (read : answer (.read candidate.bean candidate.name) = .ok value)
    {selecting : List BeanMatch}
    (isBound : (candidate.bind context selecting).result answer = .ok (some bound)) :
    ∃ kind, ∃ found ∈ selecting,
      (candidate.offer kind context found).takenAt value = some bound := by
  rw [bind_result candidate context selecting read] at isBound
  obtain ⟨kind, _, first⟩ := Option.bind_eq_some_iff.mp (Except.ok.inj isBound)
  obtain ⟨found, member, taken⟩ := List.exists_of_findSome?_eq_some first
  exact ⟨kind, found, member, taken⟩

/-- A candidate is bound to the first configuration that selects it, to the paths that it wants and
just as if there were no other configuration; it is bound to nothing if none selects it. -/
theorem bind_first_selecting (candidate : Candidate) (context : InstanceContext)
    (selecting : List BeanMatch) (answer : (call : Call) → call.Outcome) (value : LiveValue)
    (read : answer (.read candidate.bean candidate.name) = .ok value) :
    ∃ outcome, (candidate.bind context selecting).result answer = .ok outcome ∧
      (outcome = none ↔ ∀ kind, candidate.kindAt? context value = some kind →
        ∀ found ∈ selecting, ¬ candidate.Selects kind found.configuration value) ∧
      ∀ bound, outcome = some bound →
        ∃ kind before found after, candidate.kindAt? context value = some kind ∧
          selecting = before ++ found :: after ∧
          (∀ earlier ∈ before, ¬ candidate.Selects kind earlier.configuration value) ∧
          candidate.Selects kind found.configuration value ∧
          (candidate.bind context [found]).result answer = .ok (some bound) ∧
          candidate.BoundBy kind context found value bound := by
  refine ⟨_, bind_result candidate context selecting read, ?_, ?_⟩
  · cases kindAt? candidate context value with
    | none => simp
    | some kind =>
      rw [Option.bind_some, List.findSome?_eq_none_iff]
      constructor
      · intro refused other same found member selects
        cases same
        obtain ⟨bound, taken, _⟩ := (offer_takenAt candidate kind context found value).1 selects
        simp [refused found member] at taken
      · intro others found member
        exact (offer_takenAt candidate kind context found value).2 (others kind rfl found member)
  · intro bound same
    cases known : kindAt? candidate context value with
    | none => simp [known] at same
    | some kind =>
      rw [known, Option.bind_some, List.findSome?_eq_some_iff] at same
      obtain ⟨before, found, after, parts, taken, refused⟩ := same
      have selects : candidate.Selects kind found.configuration value := by
        refine Classical.byContradiction fun others => ?_
        simp [(offer_takenAt candidate kind context found value).2 others] at taken
      obtain ⟨only, same, boundBy⟩ := (offer_takenAt candidate kind context found value).1 selects
      cases Option.some.inj (taken.symm.trans same)
      refine ⟨kind, before, found, after, rfl, parts, ?_, selects, ?_, boundBy⟩
      · intro earlier member selects
        obtain ⟨_, taken, _⟩ := (offer_takenAt candidate kind context earlier value).1 selects
        simp [refused earlier member] at taken
      · rw [bind_result candidate context [found] read, known]
        simp [taken]

/-- A value with parts, and configurations of which only the later ones select any of them. -/
def heapUsage : LiveValue :=
  .composite [("committed", .integer 50), ("max", .integer 100), ("used", .integer 10)]

def heap : Candidate :=
  ⟨⟨"java.lang", [("type", "Memory")], "java.lang:type=Memory"⟩,
    ⟨"HeapMemoryUsage", "javax.management.openmbean.CompositeData"⟩⟩

/-- A configuration that includes and excludes attributes by their names. -/
def naming (included excluded : Option (List String)) : BeanMatch where
  configuration := {
    included := { Filter.empty with attributes := included.map .names }
    excluded := { Filter.empty with attributes := excluded.map .names }
    metricPrefix := none
    renamedTags := [] }
  params := []

theorem bind_first_selecting_heap :
    let answer : (call : Call) → call.Outcome
      | .read _ _ => .ok heapUsage
      | _ => .error .closed
    let context : InstanceContext := ⟨"east", "jmx", [], false, false⟩
    let selecting := [naming (some ["ThreadCount"]) none,
      naming (some ["HeapMemoryUsage"]) (some ["HeapMemoryUsage.max"]), naming none none]
    answer (.read heap.bean heap.name) = .ok heapUsage ∧
      ∃ bound, (heap.bind context selecting).result answer = .ok (some bound) ∧
        bound.paths = ["committed", "used"] := by
  intro answer context selecting
  have read : answer (.read heap.bean heap.name) = .ok heapUsage := rfl
  have known : heap.kindAt? context heapUsage = some .composite := by decide
  have unlisted : heap.wantedPaths .composite
      (naming (some ["ThreadCount"]) none).configuration heapUsage = [] := by decide
  have wanted : heap.wantedPaths .composite
      (naming (some ["HeapMemoryUsage"]) (some ["HeapMemoryUsage.max"])).configuration heapUsage =
        ["committed", "used"] := by decide
  refine ⟨read, ?_⟩
  obtain ⟨outcome, settled, unbound, first⟩ :=
    bind_first_selecting heap context selecting answer heapUsage read
  cases outcome with
  | none =>
    have others := unbound.mp rfl _ known _ (List.mem_cons_of_mem _ List.mem_cons_self)
    refine absurd ?_ others
    simp [Selects, wanted]
  | some bound =>
    obtain ⟨kind, before, found, after, known₂, parts, refused, selects, _, boundBy⟩ :=
      first bound rfl
    cases known.symm.trans known₂
    refine ⟨bound, settled, (boundBy.paths_eq (by decide)).trans ?_⟩
    match before, parts with
    | [], parts =>
      obtain ⟨rfl, _⟩ := List.cons.inj parts
      exact absurd unlisted selects
    | [_], parts =>
      obtain ⟨_, parts⟩ := List.cons.inj parts
      obtain ⟨rfl, _⟩ := List.cons.inj parts
      exact wanted
    | _ :: _ :: _, parts =>
      obtain ⟨_, parts⟩ := List.cons.inj parts
      obtain ⟨rfl, _⟩ := List.cons.inj parts
      refine absurd ?_ (refused _ (List.mem_cons_of_mem _ List.mem_cons_self))
      simp [Selects, wanted]

end Candidate
end BeanHarvest
