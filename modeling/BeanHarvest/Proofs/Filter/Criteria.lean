import BeanHarvest.Pattern.Search
import BeanHarvest.Proofs.Each
import BeanHarvest.Proofs.Filter.Selecting
import BeanHarvest.Proofs.Keyed
import Mathlib.Data.List.Nodup

/-! What filters ask of beans. A filter includes a bean if everything holds that it says, and excludes a bean
if anything does; a configuration selects the beans that its one filter includes and its other one does not
exclude. Whether a pattern is found in a text is left to the search. -/
namespace BeanHarvest

namespace Pattern

/-- Whether a pattern, prepared in some way, matches a text. -/
def MatchedBy (prepare : String → Except Fault Matcher) (pattern text : String) : Prop :=
  ∃ matcher, prepare pattern = .ok matcher ∧ matcher.matches? text = true

/-- Whether an engine finds a pattern in a text. -/
abbrev Finds (engine : Engine) : String → String → Prop := MatchedBy engine.compile

/-- Whether a pattern fits a text as a whole. -/
abbrev Fits (engine : Engine) : String → String → Prop := MatchedBy engine.compileWhole

variable {prepare : String → Except Fault Matcher} {pattern text : String} {matcher : Matcher}

theorem matchedBy_iff (prepared : prepare pattern = .ok matcher) :
    MatchedBy prepare pattern text ↔ matcher.matches? text = true := by
  constructor
  · rintro ⟨other, same, found⟩
    cases prepared.symm.trans same
    exact found
  · intro found
    exact ⟨matcher, prepared, found⟩

instance (prepare : String → Except Fault Matcher) (pattern text : String) :
    Decidable (MatchedBy prepare pattern text) :=
  match prepared : prepare pattern with
  | .ok _ => decidable_of_iff _ (matchedBy_iff prepared).symm
  | .error _ => isFalse fun ⟨_, same, _⟩ => nomatch prepared.symm.trans same

/-- A pattern that may be left out is prepared if it is there. -/
theorem mapM_optional {given : Option String} {ready : Option Matcher}
    (prepared : given.mapM prepare = .ok ready) :
    given = none ∧ ready = none ∨
      ∃ pattern matcher, given = some pattern ∧ ready = some matcher ∧
        prepare pattern = .ok matcher := by
  cases given with
  | none =>
    cases prepared
    exact .inl ⟨rfl, rfl⟩
  | some pattern =>
    obtain ⟨matcher, here, same⟩ := Except.bind_ok_inv prepared
    cases same
    exact .inr ⟨pattern, matcher, rfl, rfl, here⟩

theorem all_matches_iff {given : Option String} {ready : Option Matcher}
    (prepared : given.mapM prepare = .ok ready) :
    ready.all (·.matches? text) = true ↔
      ∀ pattern, given = some pattern → MatchedBy prepare pattern text := by
  rcases mapM_optional prepared with ⟨rfl, rfl⟩ | ⟨pattern, matcher, rfl, rfl, here⟩
  · simp
  · simp [matchedBy_iff here]

theorem any_matches_iff {given : Option String} {ready : Option Matcher}
    (prepared : given.mapM prepare = .ok ready) :
    ready.any (·.matches? text) = true ↔
      ∃ pattern, given = some pattern ∧ MatchedBy prepare pattern text := by
  rcases mapM_optional prepared with ⟨rfl, rfl⟩ | ⟨pattern, matcher, rfl, rfl, here⟩
  · simp
  · simp [matchedBy_iff here]

theorem any_of_matches_iff {given : List String} {ready : List Matcher}
    (prepared : given.mapM prepare = .ok ready) :
    ready.any (·.matches? text) = true ↔ ∃ pattern ∈ given, MatchedBy prepare pattern text := by
  induction mapM_eq_ok_iff.mp prepared with
  | nil => simp
  | cons here later ih =>
    rw [List.any_cons, Bool.or_eq_true, ih (mapM_eq_ok_iff.mpr later), ← matchedBy_iff here]
    simp

/-- The groups of the first pattern that matches are those of a pattern behind others that do not. -/
theorem findSome?_groups {given : List String} {ready : List Matcher} {groups : List (Nat × String)}
    (prepared : given.mapM prepare = .ok ready)
    (found : ready.findSome? (·.groups? text) = some groups) :
    ∃ before pattern after matcher, given = before ++ pattern :: after ∧
      (∀ earlier ∈ before, ¬ MatchedBy prepare earlier text) ∧
      prepare pattern = .ok matcher ∧ matcher.groups? text = some groups := by
  induction mapM_eq_ok_iff.mp prepared with
  | nil => cases found
  | @cons pattern matcher given ready here later ih =>
    rw [List.findSome?_cons] at found
    cases first : matcher.groups? text with
    | some own =>
      rw [first] at found
      cases found
      exact ⟨[], pattern, given, matcher, rfl, by simp, here, first⟩
    | none =>
      rw [first] at found
      obtain ⟨before, one, after, ready, rfl, refused, isReady, found⟩ :=
        ih (mapM_eq_ok_iff.mpr later) found
      refine ⟨pattern :: before, one, after, ready, rfl, ?_, isReady, found⟩
      rintro earlier (_ | ⟨_, behind⟩)
      · rw [matchedBy_iff here]
        simpa [Matcher.groups?, Matcher.matches?] using first
      · exact refused earlier behind

/-- The groups of a match go by different numbers. -/
theorem Matcher.groups?_nodup {groups : List (Nat × String)}
    (found : matcher.groups? text = some groups) : (groups.map (·.1)).Nodup := by
  obtain ⟨texts, _, rfl⟩ := Option.map_eq_some_iff.mp found
  rw [numbered, List.map_filterMap]
  apply List.Nodup.filterMap _ List.nodup_range
  intro first second number here there
  simp only [Option.map_map, Option.mem_def, Option.map_eq_some_iff] at here there
  obtain ⟨_, _, rfl⟩ := here
  obtain ⟨_, _, same⟩ := there
  exact same.symm

end Pattern

namespace Filter

open Pattern (Finds Fits MatchedBy)

/-- Whether a filter includes a bean, whose class may be known: everything that it says holds. -/
structure Includes (engine : Pattern.Engine) (filter : Filter) (bean : Bean)
    (className : Option String) : Prop where
  ofDomain : ∀ domain, filter.domain = some domain → domain = bean.domain
  domainFound : ∀ pattern, filter.domainPattern = some pattern → Finds engine pattern bean.domain
  ofClass : ∀ name, filter.className = some name → className = some name
  classFound : ∀ pattern, filter.classPattern = some pattern →
    ∃ name, className = some name ∧ Finds engine pattern name
  named : filter.names ≠ [] → bean.name ∈ filter.names
  fitting : filter.beanPatterns ≠ [] → ∃ pattern ∈ filter.beanPatterns, Fits engine pattern bean.name
  allowed : ∀ key value, (key, value) ∈ filter.params →
    ∃ text, bean.get? key = some text ∧ text ∈ value.texts

/-- Whether a filter excludes a bean, whose class may be known: anything holds that it says. -/
inductive Excludes (engine : Pattern.Engine) (filter : Filter) (bean : Bean)
    (className : Option String) : Prop where
  | ofDomain (said : filter.domain = some bean.domain)
  | domainFound (pattern : String) (said : filter.domainPattern = some pattern)
      (found : Finds engine pattern bean.domain)
  | ofClass (name : String) (known : className = some name) (said : filter.className = some name)
  | classFound (name pattern : String) (known : className = some name)
      (said : filter.classPattern = some pattern) (found : Finds engine pattern name)
  | named (said : bean.name ∈ filter.names)
  | fitting (pattern : String) (said : pattern ∈ filter.beanPatterns)
      (fits : Fits engine pattern bean.name)
  | listed (key text : String) (value : Yaml) (said : (key, value) ∈ filter.params)
      (has : bean.get? key = some text) (among : text ∈ value.texts)

/-- The numbered groups that a filter finds in a name: those of its first pattern for beans that fits, and
none if it has no such patterns. -/
inductive Captures (engine : Pattern.Engine) (filter : Filter) (name : String) :
    List (Nat × String) → Prop where
  | none (unset : filter.beanPatterns = []) : Captures engine filter name []
  | first {before after : List String} {pattern : String} {matcher : Pattern.Matcher}
      {groups : List (Nat × String)} (patterns : filter.beanPatterns = before ++ pattern :: after)
      (others : ∀ earlier ∈ before, ¬ Fits engine earlier name)
      (prepared : engine.compileWhole pattern = .ok matcher)
      (found : matcher.groups? name = some groups) : Captures engine filter name groups

variable {engine : Pattern.Engine} {filter : Filter} {compiled : Compiled} {bean : Bean}
  {className : Option String}

theorem compile_patterns (valid : filter.compile engine = .ok compiled) :
    filter.domainPattern.mapM engine.compile = .ok compiled.domainPattern ∧
      filter.classPattern.mapM engine.compile = .ok compiled.classPattern ∧
      filter.beanPatterns.mapM engine.compileWhole = .ok compiled.beanPatterns ∧
      compiled.className = filter.className := by
  obtain ⟨domainPattern, ofDomain, valid⟩ := Except.bind_ok_inv valid
  obtain ⟨classPattern, ofClass, valid⟩ := Except.bind_ok_inv valid
  obtain ⟨beanPatterns, ofBean, valid⟩ := Except.bind_ok_inv valid
  cases valid
  exact ⟨ofDomain, ofClass, ofBean, rfl⟩

section Prepared

variable (valid : filter.compile engine = .ok compiled)
include valid

theorem includesDomain_iff {domain : String} : compiled.includesDomain domain = true ↔
    (∀ other, filter.domain = some other → other = domain) ∧
      ∀ pattern, filter.domainPattern = some pattern → Finds engine pattern domain := by
  obtain ⟨ofDomain, _, _, _⟩ := compile_patterns valid
  obtain ⟨sameDomain, _, _⟩ := compile_keeps valid
  rw [Compiled.includesDomain, Bool.and_eq_true, Pattern.all_matches_iff ofDomain, sameDomain]
  simp [Option.all_eq_true]

theorem includesClass_iff : compiled.includesClass className = true ↔
    (∀ name, filter.className = some name → className = some name) ∧
      ∀ pattern, filter.classPattern = some pattern →
        ∃ name, className = some name ∧ Finds engine pattern name := by
  obtain ⟨_, ofClass, _, sameClass⟩ := compile_patterns valid
  rw [Compiled.includesClass, Bool.and_eq_true, sameClass]
  apply and_congr
  · rw [Option.all_eq_true]
    exact forall₂_congr fun name _ => by rw [decide_eq_true_iff, eq_comm]
  · cases className with
    | none =>
      rcases Pattern.mapM_optional ofClass with ⟨unset, ready⟩ | ⟨pattern, matcher, isSet, ready, _⟩
      · simp [unset, ready]
      · simp [isSet, ready]
    | some name =>
      simp only [Option.any_some, Pattern.all_matches_iff ofClass]
      simp

theorem allowsParams_iff : compiled.allowsParams bean = true ↔
    ∀ key value, (key, value) ∈ filter.params →
      ∃ text, bean.get? key = some text ∧ text ∈ value.texts := by
  obtain ⟨_, _, sameParams⟩ := compile_keeps valid
  rw [Compiled.allowsParams, sameParams]
  simp [Option.any_eq_true]

theorem beanPatterns_eq_nil_iff : compiled.beanPatterns = [] ↔ filter.beanPatterns = [] := by
  obtain ⟨_, _, ofBean, _⟩ := compile_patterns valid
  have alike := (mapM_eq_ok_iff.mp ofBean).length_eq
  rw [← List.length_eq_zero_iff, ← alike, List.length_eq_zero_iff]

/-- The groups that a filter finds, if it finds any. -/
theorem captures_of_groups? {name : String} {groups : List (Nat × String)}
    (found : compiled.groups? name = some groups) : filter.Captures engine name groups := by
  obtain ⟨_, _, ofBean, _⟩ := compile_patterns valid
  unfold Compiled.groups? at found
  split at found
  · next empty =>
    cases found
    exact .none ((beanPatterns_eq_nil_iff valid).mp (List.isEmpty_iff.mp empty))
  · obtain ⟨before, pattern, after, matcher, patterns, others, prepared, found⟩ :=
      Pattern.findSome?_groups ofBean found
    exact .first patterns others prepared found

theorem isSome_groups?_iff {name : String} : (compiled.groups? name).isSome = true ↔
    (filter.beanPatterns ≠ [] → ∃ pattern ∈ filter.beanPatterns, Fits engine pattern name) := by
  obtain ⟨_, _, ofBean, _⟩ := compile_patterns valid
  rw [← Pattern.any_of_matches_iff ofBean, ne_eq, ← beanPatterns_eq_nil_iff valid]
  unfold Compiled.groups?
  split
  · next empty => simp [List.isEmpty_iff.mp empty]
  · next some_patterns =>
    have present : compiled.beanPatterns ≠ [] := by simpa using some_patterns
    simp [present, Pattern.Matcher.groups?, Pattern.Matcher.matches?, List.findSome?_isSome_iff]

theorem isSome_includesBean?_iff : (compiled.includesBean? bean).isSome = true ↔
    (filter.names ≠ [] → bean.name ∈ filter.names) ∧
      (filter.beanPatterns ≠ [] → ∃ pattern ∈ filter.beanPatterns, Fits engine pattern bean.name) ∧
      ∀ key value, (key, value) ∈ filter.params →
        ∃ text, bean.get? key = some text ∧ text ∈ value.texts := by
  obtain ⟨_, sameNames, _⟩ := compile_keeps valid
  rw [← isSome_groups?_iff valid, ← allowsParams_iff valid, ← sameNames]
  unfold Compiled.includesBean?
  by_cases named : compiled.names = [] ∨ bean.name ∈ compiled.names
  · have passes : (!compiled.names.isEmpty && !compiled.names.contains bean.name) = false := by
      rcases named with unset | listed
      · simp [unset]
      · simp [listed]
    have holds : compiled.names ≠ [] → bean.name ∈ compiled.names := named.resolve_left
    rw [if_neg (Bool.eq_false_iff.mp passes)]
    cases compiled.groups? bean.name with
    | none => simp
    | some groups => simpa using fun _ => holds
  · have refused : (!compiled.names.isEmpty && !compiled.names.contains bean.name) = true := by
      simpa using named
    rw [if_pos refused]
    simp_all

/-- A filter that is prepared includes the beans that meet its criteria. -/
theorem includes_iff : compiled.includesDomain bean.domain = true ∧
      compiled.includesClass className = true ∧ (compiled.includesBean? bean).isSome = true ↔
    filter.Includes engine bean className := by
  rw [includesDomain_iff valid, includesClass_iff valid, isSome_includesBean?_iff valid]
  constructor
  · rintro ⟨⟨ofDomain, domainFound⟩, ⟨ofClass, classFound⟩, named, fitting, allowed⟩
    exact ⟨ofDomain, domainFound, ofClass, classFound, named, fitting, allowed⟩
  · rintro ⟨ofDomain, domainFound, ofClass, classFound, named, fitting, allowed⟩
    exact ⟨⟨ofDomain, domainFound⟩, ⟨ofClass, classFound⟩, named, fitting, allowed⟩

theorem excludesParams_iff :
    (compiled.params.any fun param => (bean.get? param.1).any param.2.contains) = true ↔
      ∃ key value text, (key, value) ∈ filter.params ∧ bean.get? key = some text ∧
        text ∈ value.texts := by
  obtain ⟨_, _, sameParams⟩ := compile_keeps valid
  rw [sameParams]
  simp [Option.any_eq_true]

/-- A filter that is prepared excludes the beans that meet any of its criteria. -/
theorem excludes_iff : (compiled.excludesDomain bean.domain = true ∨
      compiled.excludesClass className = true ∨ compiled.excludesBean bean = true) ↔
    filter.Excludes engine bean className := by
  obtain ⟨ofDomain, ofClass, ofBean, sameClass⟩ := compile_patterns valid
  obtain ⟨sameDomain, sameNames, _⟩ := compile_keeps valid
  simp only [Compiled.excludesDomain, Compiled.excludesClass, Compiled.excludesBean, Bool.or_eq_true,
    decide_eq_true_eq, Option.any_eq_true, List.contains_iff_mem, Pattern.any_matches_iff ofDomain,
    Pattern.any_matches_iff ofClass, Pattern.any_of_matches_iff ofBean, excludesParams_iff valid,
    sameDomain, sameNames, sameClass]
  constructor
  · rintro ((said | ⟨pattern, said, found⟩) |
      ⟨name, known, said | ⟨pattern, said, found⟩⟩ |
      (said | ⟨pattern, said, fits⟩) | ⟨key, value, text, said, has, among⟩)
    · exact .ofDomain said
    · exact .domainFound pattern said found
    · exact .ofClass name known said
    · exact .classFound name pattern known said found
    · exact .named said
    · exact .fitting pattern said fits
    · exact .listed key text value said has among
  · intro excludes
    cases excludes with
    | ofDomain said => exact .inl (.inl said)
    | domainFound pattern said found => exact .inl (.inr ⟨pattern, said, found⟩)
    | ofClass name known said => exact .inr (.inl ⟨name, known, .inl said⟩)
    | classFound name pattern known said found =>
      exact .inr (.inl ⟨name, known, .inr ⟨pattern, said, found⟩⟩)
    | named said => exact .inr (.inr (.inl (.inl said)))
    | fitting pattern said fits => exact .inr (.inr (.inl (.inr ⟨pattern, said, fits⟩)))
    | listed key text value said has among =>
      exact .inr (.inr (.inr ⟨key, value, text, said, has, among⟩))

end Prepared

/-- The groups that a filter finds go by different numbers. -/
theorem Captures.nodup {name : String} {groups : List (Nat × String)}
    (captures : filter.Captures engine name groups) : (groups.map (·.1)).Nodup := by
  cases captures with
  | none => exact List.nodup_nil
  | first _ _ _ found => exact Pattern.Matcher.groups?_nodup found

end Filter

/-- The value of the last parameter under a key. -/
def Bean.last? (bean : Bean) (key : String) : Option String :=
  (bean.parameters.reverse.find? (·.1 = key)).map (·.2)

/-- Whether bindings show a bean with some numbered groups: each group under its number, and each
parameter under its key with its last value, unless the key is the number of a group. -/
structure Bean.ShownBy (bean : Bean) (groups : List (Nat × String)) (bindings : Bindings) : Prop where
  ascending : bindings.Ascending
  numbered : ∀ number text, (number, text) ∈ groups → bindings.get? (toString number) = some text
  others : ∀ key, (∀ number text, (number, text) ∈ groups → toString number ≠ key) →
    bindings.get? key = bean.last? key

namespace Filter

variable {engine : Pattern.Engine} {filter : Filter} {compiled : Compiled} {bean : Bean}
  {bindings : Bindings}  {groups : List (Nat × String)}

theorem toString_inj {number other : Nat} (same : toString number = toString other) :
    number = other := by
  rw [Nat.toString_eq_ofList_toDigits, Nat.toString_eq_ofList_toDigits, String.ofList_inj] at same
  rw [← @Nat.ofDigitChars_ten_toDigits number, same, Nat.ofDigitChars_ten_toDigits]

/-- Groups that go by different numbers, put over the parameters of a bean, show the bean. -/
theorem shownBy_foldl (nodup : (groups.map (·.1)).Nodup) :
    bean.ShownBy groups (groups.foldl (fun bindings (number, text) =>
      bindings.insert (toString number) text) (Keyed.ofList bean.parameters)) := by
  let pairs : List (String × String) := groups.map fun group => (toString group.1, group.2)
  have folded : groups.foldl (fun bindings (number, text) =>
      bindings.insert (toString number) text) (Keyed.ofList bean.parameters) =
        pairs.foldl (fun entries pair => entries.insert pair.1 pair.2)
          (Keyed.ofList bean.parameters) := by
    simp only [pairs, List.foldl_map]
  have found : ∀ key, Keyed.get? (pairs.foldl (fun entries pair => entries.insert pair.1 pair.2)
      (Keyed.ofList bean.parameters)) key =
        ((pairs.reverse.find? (·.1 = key)).map (·.2)).or (bean.last? key) := by
    intro key
    rw [Keyed.get?_foldl_insert]
    congr 1
    exact (Keyed.get?_foldl_insert bean.parameters [] key).trans Option.or_none
  rw [folded]
  constructor
  · exact (Keyed.ofList_ascending bean.parameters).foldl_insert pairs
  · intro number text member
    have apart : (pairs.reverse.map Prod.fst).Nodup := by
      have numbers : pairs.map Prod.fst = (groups.map (·.1)).map toString := by simp [pairs]
      rw [List.map_reverse, List.nodup_reverse, numbers]
      exact nodup.map fun _ _ same => toString_inj same
    have here : pairs.reverse.find? (·.1 = toString number) = some (toString number, text) := by
      rw [Keyed.find?_key_iff Prod.fst apart]
      exact ⟨List.mem_reverse.mpr (List.mem_map_of_mem member), rfl⟩
    rw [found, here]
    rfl
  · intro key other
    have nowhere : pairs.reverse.find? (·.1 = key) = none := by
      rw [List.find?_eq_none]
      intro pair member
      obtain ⟨⟨number, text⟩, among, rfl⟩ := List.mem_map.mp (List.mem_reverse.mp member)
      simpa using other number text among
    rw [found, nowhere]
    rfl

/-- What the parameters of an included bean stand for shows the bean with the groups of its name. -/
theorem shownBy_of_includesBean? (valid : filter.compile engine = .ok compiled)
    (included : compiled.includesBean? bean = some bindings) :
    ∃ groups, filter.Captures engine bean.name groups ∧ bean.ShownBy groups bindings := by
  unfold Compiled.includesBean? at included
  split at included
  · cases included
  · split at included
    · cases included
    · next groups found =>
      split at included
      · cases included
        have captures := captures_of_groups? valid found
        exact ⟨groups, captures, shownBy_foldl captures.nodup⟩
      · cases included

end Filter

namespace Configuration

variable {engine : Pattern.Engine} {configuration : Configuration}

/-- The two filters of a configuration one after the other: the view of a bean that the one includes and
the other one does not exclude. -/
theorem matchBean_of_compiles {included excluded : Filter.Compiled}
    (isIncluded : configuration.included.compile engine = .ok included)
    (isExcluded : configuration.excluded.compile engine = .ok excluded) (bean : Bean)
    (className : Option String) :
    configuration.matchBean engine bean className = .ok (
      if included.includesDomain bean.domain ∧ included.includesClass className ∧
          ¬ (excluded.excludesDomain bean.domain ∨ excluded.excludesClass className ∨
            excluded.excludesBean bean) then included.includesBean? bean
      else none) := by
  simp only [matchBean, isIncluded, isExcluded, bind, Except.bind]
  cases included.includesDomain bean.domain
  · simp
  cases included.includesClass className
  · simp
  cases excluded.excludesDomain bean.domain
  · cases excluded.excludesClass className
    · cases included.includesBean? bean <;> cases excluded.excludesBean bean <;> simp
    · simp
  · simp

/-- A configuration whose patterns can all be prepared fails at no bean. It selects a bean just if its one
filter includes it, by everything that it says, and its other one does not exclude it, by anything that it
says; and then the view of the bean has the last value of each parameter, and over these the numbered groups
of the first pattern that fits the name. -/
theorem matchBean_iff {compiled : Filter.Compiled × Filter.Compiled}
    (valid : configuration.compile engine = .ok compiled) (bean : Bean) (className : Option String) :
    ∃ view, configuration.matchBean engine bean className = .ok view ∧
      (view.isSome = true ↔ configuration.included.Includes engine bean className ∧
        ¬ configuration.excluded.Excludes engine bean className) ∧
      ∀ bindings, view = some bindings →
        ∃ groups, configuration.included.Captures engine bean.name groups ∧
          bean.ShownBy groups bindings := by
  obtain ⟨included, isIncluded, valid⟩ := Except.bind_ok_inv valid
  obtain ⟨excluded, isExcluded, _⟩ := Except.bind_ok_inv valid
  refine ⟨_, matchBean_of_compiles isIncluded isExcluded bean className, ?_, ?_⟩
  · rw [← Filter.includes_iff isIncluded, ← Filter.excludes_iff isExcluded]
    split
    · next passes => simp [passes]
    · next fails =>
      simp only [Option.isSome_none, Bool.false_eq_true, false_iff]
      rintro ⟨⟨ofDomain, ofClass, _⟩, notExcluded⟩
      exact fails ⟨ofDomain, ofClass, notExcluded⟩
  · intro bindings same
    split at same
    · exact Filter.shownBy_of_includesBean? isIncluded same
    · cases same

/-- A configuration that selects the topics but one, by their names. -/
def topics : Configuration where
  included := { Filter.empty with
    domain := some "mq"
    beanPatterns := ["mq:log=.*", "mq:(topic)=(.*)"] }
  excluded := { Filter.empty with params := [("topic", .sequence [.string "own"])] }
  metricPrefix := none
  renamedTags := []

def topic (name : String) : Bean :=
  ⟨"mq", [("topic", name)], "mq:topic=" ++ name⟩

theorem matchBean_iff_topics :
    ∃ compiled, topics.compile Pattern.engine = .ok compiled ∧
      (∃ bindings, topics.matchBean Pattern.engine (topic "orders") none = .ok (some bindings) ∧
        bindings.get? "2" = some "orders") ∧
      topics.matchBean Pattern.engine (topic "own") none = .ok none := by
  have orders : topics.included.Includes Pattern.engine (topic "orders") none := {
    ofDomain := by simp [topics, topic]
    domainFound := nofun
    ofClass := nofun
    classFound := nofun
    named := fun named => absurd rfl named
    fitting := fun _ =>
      ⟨"mq:(topic)=(.*)", List.mem_cons_of_mem _ List.mem_cons_self, by decide +kernel⟩
    allowed := nofun }
  have spared : ¬ topics.excluded.Excludes Pattern.engine (topic "orders") none := by
    intro excludes
    cases excludes with
    | listed key text value said has among =>
      cases List.mem_singleton.mp said
      cases has
      exact absurd among (by decide)
    | ofDomain said | domainFound _ said | ofClass _ _ said | classFound _ _ _ said | named said
    | fitting _ said => exact nomatch said
  have own : topics.excluded.Excludes Pattern.engine (topic "own") none :=
    .listed "topic" "own" (.sequence [.string "own"]) List.mem_cons_self rfl (by decide)
  obtain ⟨compiled, valid⟩ : ∃ compiled, topics.compile Pattern.engine = .ok compiled := by
    cases prepared : topics.compile Pattern.engine with
    | ok compiled => exact ⟨compiled, rfl⟩
    | error fault =>
      have isOk : (topics.compile Pattern.engine).isOk = true := by decide +kernel
      rw [prepared] at isOk
      cases isOk
  refine ⟨compiled, valid, ?_, ?_⟩
  · obtain ⟨view, found, selected, shown⟩ := matchBean_iff valid (topic "orders") none
    obtain ⟨bindings, rfl⟩ := Option.isSome_iff_exists.mp (selected.mpr ⟨orders, spared⟩)
    obtain ⟨groups, captures, shownBy⟩ := shown bindings rfl
    refine ⟨bindings, found, shownBy.numbered 2 "orders" ?_⟩
    cases captures with
    | none unset => cases unset
    | @first before _ _ matcher _ patterns _ prepared captured =>
      match before, patterns with
      | [], patterns =>
        obtain ⟨rfl, _⟩ := List.cons.inj patterns
        have nowhere : ((Pattern.engine.compileWhole "mq:log=.*").toOption.bind
            (·.groups? (topic "orders").name)) = none := by decide +kernel
        rw [prepared] at nowhere
        cases captured.symm.trans nowhere
      | [_], patterns =>
        obtain ⟨_, patterns⟩ := List.cons.inj patterns
        obtain ⟨rfl, _⟩ := List.cons.inj patterns
        have both : ((Pattern.engine.compileWhole "mq:(topic)=(.*)").toOption.bind
            (·.groups? (topic "orders").name)) =
              some [(0, "mq:topic=orders"), (1, "topic"), (2, "orders")] := by
          decide +kernel
        rw [prepared] at both
        cases captured.symm.trans both
        exact List.mem_cons_of_mem _ (List.mem_cons_of_mem _ List.mem_cons_self)
      | _ :: _ :: _, patterns =>
        obtain ⟨_, patterns⟩ := List.cons.inj patterns
        obtain ⟨_, patterns⟩ := List.cons.inj patterns
        simp at patterns
  · obtain ⟨view, found, selected, _⟩ := matchBean_iff valid (topic "own") none
    have refused : view = none := by
      rw [← Option.not_isSome_iff_eq_none, selected]
      exact fun passes => passes.2 own
    rw [found, refused]

end Configuration
end BeanHarvest
