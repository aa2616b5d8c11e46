import BeanHarvest.Proofs.Instance.Scoping
import Mathlib.Data.List.Flatten

/-! Appending configurations rebinds nothing. An attribute goes to the first configuration that selects
it, and neither the beans that are found for the configurations behind it nor the classes that they ask
for change what the ones before them select. -/
namespace BeanHarvest

/-- Nothing is prepared for classes where nothing is said of them. -/
theorem Filter.compile_plain {engine : Pattern.Engine} {filter : Filter} {compiled : Compiled}
    (valid : filter.compile engine = .ok compiled) (plain : filter.referencesClass = false) :
    compiled.className = none ∧ compiled.classPattern = none := by
  obtain ⟨className, classPattern⟩ := Bool.or_eq_false_iff.mp plain
  obtain ⟨_, _, valid⟩ := Except.bind_ok_inv valid
  obtain ⟨pattern, prepared, valid⟩ := Except.bind_ok_inv valid
  obtain ⟨_, _, valid⟩ := Except.bind_ok_inv valid
  rw [Option.isSome_eq_false_iff.mp classPattern |> Option.isNone_iff_eq_none.mp] at prepared
  cases prepared
  cases valid
  exact ⟨Option.isNone_iff_eq_none.mp (Option.isSome_eq_false_iff.mp className), rfl⟩

namespace Configuration

variable {engine : Pattern.Engine} {configuration : Configuration}

/-- The class of a bean is of no interest to a configuration that says nothing of classes. -/
theorem matchBean_of_plain (plain : configuration.referencesClass = false) (bean : Bean)
    (first second : Option String) :
    configuration.matchBean engine bean first = configuration.matchBean engine bean second := by
  obtain ⟨included, excluded⟩ := Bool.or_eq_false_iff.mp plain
  unfold matchBean
  cases prepared : configuration.included.compile engine with
  | error fault => rfl
  | ok compiled =>
    obtain ⟨noName, noPattern⟩ := Filter.compile_plain prepared included
    have anything : ∀ className, compiled.includesClass className = true := by
      simp [Filter.Compiled.includesClass, noName, noPattern]
    simp only [bind, Except.bind, anything, Bool.not_true, Bool.or_false]
    cases prepared₂ : configuration.excluded.compile engine with
    | error fault => rfl
    | ok compiled₂ =>
      obtain ⟨noName, noPattern⟩ := Filter.compile_plain prepared₂ excluded
      have nothing : ∀ className, compiled₂.excludesClass className = false := by
        intro className
        cases className <;> simp [Filter.Compiled.excludesClass, noName, noPattern]
      simp only [nothing]

/-- The built-in configurations have no patterns that might be wrong. -/
theorem builtIns_compile (engine : Pattern.Engine) : ∀ configuration ∈ builtIns,
    ∃ compiled, configuration.compile engine = .ok compiled := by
  simp only [builtIns, List.forall_mem_cons]
  refine ⟨⟨_, rfl⟩, ⟨_, rfl⟩, ⟨_, rfl⟩, ⟨_, rfl⟩, ⟨_, rfl⟩, ⟨_, rfl⟩, ?_⟩
  exact fun _ member => absurd member List.not_mem_nil

end Configuration

/-- Settings with or without the built-in configurations. -/
def Settings.collectingDefaults (settings : Settings) (isOn : Bool) : Settings :=
  { settings with shared := { settings.shared with collectDefaults := isOn } }

/-- What a configuration makes of a bean, if it selects it. -/
def BeanMatch.of? (engine : Pattern.Engine) (bean : Bean) (className : Option String)
    (configuration : Configuration) : Option BeanMatch :=
  (configuration.matchBean engine bean className).toOption.join.map (BeanMatch.mk configuration)

namespace Answers

variable {answers : Answers} {engine : Pattern.Engine} {configurations more : List Configuration}
  {context : InstanceContext} {bean : Bean} {candidate : Candidate}

/-- A configuration makes the same of a bean whatever configurations are behind it. -/
theorem matchBean_append {configuration : Configuration} (member : configuration ∈ configurations)
    (more : List Configuration) (bean : Bean) :
    configuration.matchBean engine bean (answers.classOf (configurations ++ more) bean) =
      configuration.matchBean engine bean (answers.classOf configurations bean) := by
  cases told : configuration.referencesClass with
  | false => exact Configuration.matchBean_of_plain told bean _ _
  | true =>
    have asks : configurations.any (·.referencesClass) = true := List.any_eq_true.mpr ⟨_, member, told⟩
    simp only [classOf, List.any_append, asks, Bool.true_or]

/-- The configurations that select a bean, where none fails at it. -/
theorem selecting_iff {className : Option String} {found : List BeanMatch} :
    Instance.selecting engine configurations bean className = .ok found ↔
      (∀ configuration ∈ configurations,
        ∃ params, configuration.matchBean engine bean className = .ok params) ∧
        configurations.filterMap (BeanMatch.of? engine bean className) = found := by
  induction configurations generalizing found with
  | nil => simp [Instance.selecting]
  | cons configuration rest ih =>
    rw [Instance.selecting, List.forall_mem_cons, List.filterMap_cons, BeanMatch.of?]
    cases isMatched : configuration.matchBean engine bean className with
    | error fault => simp
    | ok params =>
      cases behind : Instance.selecting engine rest bean className with
      | error fault =>
        refine iff_of_false (by simp [Except.map]) fun told => ?_
        obtain ⟨⟨_, all⟩, _⟩ := told
        cases behind.symm.trans (ih.mpr ⟨all, rfl⟩)
      | ok others =>
        obtain ⟨all, rfl⟩ := ih.mp behind
        cases params <;> exact ⟨fun same => ⟨⟨⟨_, rfl⟩, all⟩, Except.ok.inj same⟩,
          fun told => congrArg Except.ok told.2⟩

/-- Where none of some configurations fails, none of the first ones does. -/
theorem Faultless.of_append (faultless : answers.Faultless engine (configurations ++ more) bean) :
    answers.Faultless engine configurations bean := by
  obtain ⟨_, selected⟩ := faultless
  obtain ⟨all, _⟩ := selecting_iff.mp selected
  refine ⟨_, selecting_iff.mpr ⟨fun configuration member => ?_, rfl⟩⟩
  rw [← matchBean_append member more bean]
  exact all configuration (List.mem_append_left more member)

/-- What a configuration alone binds a candidate to. -/
def boundTo? (answers : Answers) (engine : Pattern.Engine) (context : InstanceContext)
    (className : Option String) (candidate : Candidate) (configuration : Configuration) :
    Option MatchedAttribute :=
  (BeanMatch.of? engine candidate.bean className configuration).bind fun found =>
    answers.bound? context [found] candidate

/-- The first of the configurations that binds a candidate, and what it binds it to. -/
def pick? (answers : Answers) (engine : Pattern.Engine) (context : InstanceContext)
    (configurations : List Configuration) (candidate : Candidate) :
    Option (Configuration × MatchedAttribute) :=
  configurations.findSome? fun configuration =>
    (answers.boundTo? engine context (answers.classOf configurations candidate.bean) candidate
      configuration).map (configuration, ·)

/-- The attributes of a bean that are picked, in the order in which the bean declares them. -/
def picksOf (answers : Answers) (engine : Pattern.Engine) (context : InstanceContext)
    (configurations : List Configuration) (bean : Bean) : List (Configuration × MatchedAttribute) :=
  (answers (.attributes bean)).filterMap fun info =>
    answers.pick? engine context configurations ⟨bean, info⟩

theorem bound?_eq_findSome? (selecting : List BeanMatch) :
    answers.bound? context selecting candidate =
      selecting.findSome? fun found => answers.bound? context [found] candidate := by
  have settled : ∀ selecting, answers.bound? context selecting candidate =
      (candidate.kindAt? context (answers (.read candidate.bean candidate.name))).bind fun kind =>
        selecting.findSome? fun found => (candidate.offer kind context found).takenAt
          (answers (.read candidate.bean candidate.name)) := by
    intro selecting
    have read : answers.outcome (.read candidate.bean candidate.name) =
        .ok (answers (.read candidate.bean candidate.name)) := rfl
    unfold bound?
    rw [Candidate.bind_result candidate context selecting read]
    rfl
  simp only [settled]
  cases candidate.kindAt? context (answers (.read candidate.bean candidate.name)) with
  | none => exact (List.findSome?_eq_none_iff.mpr fun _ _ => rfl).symm
  | some kind => simp

theorem bound?_eq_pick? {selecting : List BeanMatch}
    (selected : answers.selecting engine configurations candidate.bean = .ok selecting) :
    answers.bound? context selecting candidate =
      (answers.pick? engine context configurations candidate).map (·.2) := by
  obtain ⟨_, rfl⟩ := selecting_iff.mp selected
  rw [bound?_eq_findSome?, ← List.head?_filterMap, List.filterMap_filterMap, List.head?_filterMap,
    pick?, List.map_findSome?]
  refine congrArg (List.findSome? · configurations) (funext fun configuration => ?_)
  rw [Function.comp_apply, Option.map_map]
  exact (congrFun Option.map_id _).symm

theorem boundTo?_append {configuration : Configuration} (member : configuration ∈ configurations)
    (more : List Configuration) :
    answers.boundTo? engine context (answers.classOf (configurations ++ more) candidate.bean) candidate
        configuration =
      answers.boundTo? engine context (answers.classOf configurations candidate.bean) candidate
        configuration := by
  unfold boundTo? BeanMatch.of?
  rw [matchBean_append member]

/-- What is picked does not change with the configurations behind. -/
theorem pick?_append {picked : Configuration × MatchedAttribute}
    (isPicked : answers.pick? engine context configurations candidate = some picked)
    (more : List Configuration) :
    answers.pick? engine context (configurations ++ more) candidate = some picked := by
  obtain ⟨before, first, after, parts, binds, passed⟩ := List.findSome?_eq_some_iff.mp isPicked
  have among : ∀ configuration ∈ before ++ first :: after, configuration ∈ configurations :=
    fun _ member => parts ▸ member
  refine List.findSome?_eq_some_iff.mpr ⟨before, first, after ++ more, ?_, ?_, ?_⟩
  · rw [parts, List.append_assoc, List.cons_append]
  · rw [boundTo?_append (among first (List.mem_append_right _ List.mem_cons_self))]
    exact binds
  · intro configuration member
    rw [boundTo?_append (among configuration (List.mem_append_left _ member))]
    exact passed configuration member

/-- Where no filter fails, the attributes of a bean are bound to what is picked for them. -/
theorem bindableOf_eq_picksOf (faultless : answers.Faultless engine configurations bean) :
    answers.bindableOf engine context configurations bean =
      (answers.picksOf engine context configurations bean).map (·.2) := by
  obtain ⟨selecting, selected⟩ := faultless
  unfold bindableOf picksOf
  rw [selected, List.map_filterMap]
  exact List.filterMap_congr fun info _ => bound?_eq_pick? selected

theorem picksOf_append (engine : Pattern.Engine) (context : InstanceContext)
    (configurations more : List Configuration) (bean : Bean) :
    (answers.picksOf engine context configurations bean).Sublist
      (answers.picksOf engine context (configurations ++ more) bean) := by
  unfold picksOf
  generalize answers (.attributes bean) = infos
  induction infos with
  | nil => exact List.Sublist.refl []
  | cons info rest ih =>
    rw [List.filterMap_cons]
    cases isPicked : answers.pick? engine context configurations ⟨bean, info⟩ with
    | none => exact ih.trans ((List.sublist_cons_self info rest).filterMap _)
    | some picked =>
      rw [List.filterMap_cons, pick?_append isPicked more]
      exact ih.cons_cons picked

end Answers

/-- A pass that has not met the limit went over all beans, and no filter failed at any of them. -/
theorem MatchPass.faultless_of_overBeans {rules : MatchRules} {pass later : MatchPass}
    {answers : Answers} {beans : List Bean}
    (passed : (overBeans rules pass beans).result answers.outcome = .ok later)
    (going : later.report.limitReached = false) :
    ∀ bean ∈ beans, answers.Faultless rules.engine rules.configurations bean := by
  induction beans generalizing pass with
  | nil => exact fun _ member => absurd member List.not_mem_nil
  | cons bean rest ih =>
    rw [result_overBeans_cons] at passed
    cases selected : answers.selecting rules.engine rules.configurations bean with
    | error fault =>
      rw [selected] at passed
      cases passed
    | ok selecting =>
      rw [selected] at passed
      refine List.forall_mem_cons.mpr ⟨⟨selecting, selected⟩, ?_⟩
      dsimp only at passed
      split at passed
      · exact ih passed
      · split at passed
        · cases passed
        · next next _ =>
          split at passed
          · next ended =>
            cases passed
            exact absurd going (by simp [(Bool.and_eq_true_iff.mp ended).2])
          · exact ih passed

namespace Instance

variable {one : Instance} {answers : Answers} {configurations more : List Configuration} {time : Nat}

/-- The scopes of the first ones of some configurations are among those of all. -/
theorem scopes?_append_inv {scopes : List String}
    (narrowed : scopes? (configurations ++ more) = some scopes) :
    ∃ own, scopes? configurations = some own ∧ ∀ scope ∈ own, scope ∈ scopes := by
  obtain ⟨all, each, rfl⟩ := Option.map_eq_some_iff.mp narrowed
  rw [List.mapM_append] at each
  obtain ⟨first, ofFirst, each⟩ := Option.bind_eq_some_iff.mp each
  obtain ⟨others, _, each⟩ := Option.bind_eq_some_iff.mp each
  cases each
  refine ⟨sortedSet first.flatten, Option.map_eq_some_iff.mpr ⟨first, ofFirst, rfl⟩, ?_⟩
  intro scope member
  rw [mem_sortedSet] at member ⊢
  rw [List.flatten_append]
  exact List.mem_append_left _ member

theorem inScopes_append (honors : answers.HonorsScopes) (configurations more : List Configuration) :
    inScopes configurations answers ⊆ inScopes (configurations ++ more) answers := by
  intro bean member
  unfold inScopes at member ⊢
  cases wide : scopes? (configurations ++ more) with
  | none =>
    cases narrow : scopes? configurations with
    | none =>
      rw [narrow] at member
      exact member
    | some scopes =>
      rw [narrow] at member
      obtain ⟨scope, _, present⟩ := List.mem_flatMap.mp member
      exact honors.among scope bean present
  | some scopes =>
    obtain ⟨own, narrow, wanted⟩ := scopes?_append_inv wide
    rw [narrow] at member
    obtain ⟨scope, inOwn, present⟩ := List.mem_flatMap.mp member
    exact List.mem_flatMap.mpr ⟨scope, wanted scope inOwn, present⟩

theorem beanSet_append (honors : answers.HonorsScopes) (configurations more : List Configuration) :
    (beanSet (inScopes configurations answers)).Sublist
      (beanSet (inScopes (configurations ++ more) answers)) := by
  rw [beanSet_inScopes honors, beanSet_inScopes honors]
  refine List.monotone_filter_right _ fun bean inside => ?_
  exact decide_eq_true (inScopes_append honors configurations more (of_decide_eq_true inside))

/-- The attributes of the beans of an instance that are picked, in the order of the beans, each with
the configuration that it goes to. -/
def picks (one : Instance) (answers : Answers) : List (Configuration × MatchedAttribute) :=
  one.beans.flatMap (answers.picksOf one.engine one.context one.configurations)

/-- The instance with configurations behind its own. -/
def appending (one : Instance) (more : List Configuration) : Instance :=
  { one with configurations := one.configurations ++ more }

/-- The instance with the beans that are found for its configurations. -/
def found (one : Instance) (answers : Answers) (time : Nat) : Instance :=
  one.withBeans time (beanSet (inScopes one.configurations answers))

theorem bindable_eq_picks (faultless : one.Faultless answers) :
    one.bindable answers = (one.picks answers).map (·.2) := by
  unfold bindable picks
  rw [List.map_flatMap]
  exact List.flatMap_congr fun bean member => Answers.bindableOf_eq_picksOf (faultless bean member)

/-- Where collecting does not reach the limit, no filter failed, and everything that is picked is
matched. -/
theorem matched_eq_bindable {whole : Instance} (connected : one.isConnected = true)
    (finished : (matchAttributes .collect time one).finish answers.outcome time = (whole, .ok ()))
    (going : whole.limitReached = false) :
    one.Faultless answers ∧ totalMetrics (one.bindable answers) ≤ one.schedule.maxMetrics ∧
      ∃ pass, whole = one.withPass pass ∧ pass.matched = one.bindable answers := by
  have faultless : one.Faultless answers := by
    rw [finish_matchAttributes connected] at finished
    split at finished
    · cases finished
    · next passed =>
      cases finished
      exact MatchPass.faultless_of_overBeans passed going
  obtain ⟨pass, finished₂, gathers⟩ := matchAttributes_gathers connected faultless .collect time
  cases finished.symm.trans finished₂
  refine ⟨faultless, Nat.le_of_not_lt fun beyond => ?_, pass, rfl, gathers.complete going⟩
  exact Bool.false_ne_true (going.symm.trans (gathers.reached.mpr beyond))

/-- Everything that can be bound is matched if it fits within the limit. -/
theorem matchAttributes_of_fits (connected : one.isConnected = true)
    (faultless : one.Faultless answers)
    (fits : totalMetrics (one.bindable answers) ≤ one.schedule.maxMetrics) :
    ∃ pass, (matchAttributes .collect time one).finish answers.outcome time =
        (one.withPass pass, .ok ()) ∧
      pass.report.limitReached = false ∧ pass.matched = one.bindable answers := by
  obtain ⟨pass, finished, gathers⟩ := matchAttributes_gathers connected faultless .collect time
  have going : pass.report.limitReached = false :=
    Bool.eq_false_iff.mpr fun reached => Nat.not_lt.mpr fits (gathers.reached.mp reached)
  exact ⟨pass, finished, going, gathers.complete going⟩

/-- If no filter fails with configurations behind, none fails without them. -/
theorem found_faultless (honors : answers.HonorsScopes)
    (faultless : ((one.appending more).found answers time).Faultless answers) :
    (one.found answers time).Faultless answers := by
  intro bean member
  have present := (beanSet_append honors one.configurations more).subset member
  exact (faultless bean present).of_append

/-- What is picked among the beans that are found stays when configurations are appended. -/
theorem picks_append (honors : answers.HonorsScopes) (one : Instance) (more : List Configuration)
    (time : Nat) :
    ((one.found answers time).picks answers).Sublist
      (((one.appending more).found answers time).picks answers) := by
  have beans := beanSet_append honors one.configurations more
  refine (beans.flatMap _).trans (List.Sublist.flatMap_right _ fun bean _ => ?_)
  exact Answers.picksOf_append one.engine one.context one.configurations more bean

/-- If all that can be bound fits within the limit with configurations behind, it fits without them. -/
theorem found_fits (honors : answers.HonorsScopes)
    (faultless : ((one.appending more).found answers time).Faultless answers)
    (fits : totalMetrics (((one.appending more).found answers time).bindable answers) ≤
      one.schedule.maxMetrics) :
    totalMetrics ((one.found answers time).bindable answers) ≤ one.schedule.maxMetrics := by
  rw [bindable_eq_picks faultless] at fits
  rw [bindable_eq_picks (found_faultless honors faultless)]
  exact (totalMetrics_sublist ((picks_append honors one more time).map _)).trans fits

/-- The built-in configurations are appended to all others. -/
theorem ofSettings_collectingDefaults (engine : Pattern.Engine) (settings : Settings)
    (given : InstanceSettings) :
    ofSettings engine (settings.collectingDefaults true) given =
      (ofSettings engine (settings.collectingDefaults false) given).appending
        (Configuration.builtIns.map (·.withPrefix given.metricPrefix)) := by
  have configurations : (settings.collectingDefaults true).configurations given =
      (settings.collectingDefaults false).configurations given ++
        Configuration.builtIns.map (·.withPrefix given.metricPrefix) := by
    unfold Settings.configurations
    rw [← List.map_append]
    exact congrArg _ (congrArg (· ++ Configuration.builtIns) (List.append_nil _).symm)
  unfold ofSettings appending
  rw [configurations]
  rfl

/-- Configurations that are appended rebind nothing. If all attributes can be matched for all of them
within the limit, then they can be matched for the first ones as well, every attribute that is matched
then goes to the same configuration and gives the same, and the order stays. The attributes can be
matched wherever all patterns can be prepared. The built-in configurations are appended ones, and
their patterns can be prepared. -/
theorem appending_rebinds_nothing (one : Instance) (more : List Configuration) (answers : Answers)
    (time : Nat) (connected : one.isConnected = true) (honors : answers.HonorsScopes) :
    let work := followed refreshBeans fun _ => matchAttributes .collect
    (∀ whole, (work time (one.appending more)).finish answers.outcome time = (whole, .ok ()) →
      whole.limitReached = false →
      ∃ narrowed, (work time one).finish answers.outcome time = (narrowed, .ok ()) ∧
        narrowed.limitReached = false ∧
        narrowed.configurations = one.configurations ∧
        whole.configurations = one.configurations ++ more ∧
        narrowed.matched = (narrowed.picks answers).map (·.2) ∧
        whole.matched = (whole.picks answers).map (·.2) ∧
        (narrowed.picks answers).Sublist (whole.picks answers)) ∧
    ((∀ configuration ∈ one.configurations ++ more,
        ∃ compiled, configuration.compile one.engine = .ok compiled) →
      ∃ whole, (work time (one.appending more)).finish answers.outcome time = (whole, .ok ())) ∧
    ∀ (engine : Pattern.Engine) (settings : Settings) (given : InstanceSettings),
      let builtIns := Configuration.builtIns.map (·.withPrefix given.metricPrefix)
      ofSettings engine (settings.collectingDefaults true) given =
          (ofSettings engine (settings.collectingDefaults false) given).appending builtIns ∧
        ∀ configuration ∈ builtIns, ∃ compiled, configuration.compile engine = .ok compiled := by
  intro work
  have connected₂ : (one.found answers time).isConnected = true := connected
  have connected₃ : (one.appending more).isConnected = true := connected
  have connected₄ : ((one.appending more).found answers time).isConnected = true := connected
  have wide : (work time (one.appending more)).finish answers.outcome time =
      (matchAttributes .collect time ((one.appending more).found answers time)).finish
        answers.outcome time := finish_refreshBeans connected₃ time _
  refine ⟨fun whole finished going => ?_, fun valid => ?_, fun engine settings given => ⟨?_, ?_⟩⟩
  · rw [wide] at finished
    obtain ⟨faultless, fits, pass, rfl, all⟩ := matched_eq_bindable connected₄ finished going
    have faultless₂ := found_faultless honors faultless
    obtain ⟨pass₂, finished₂, going₂, all₂⟩ :=
      matchAttributes_of_fits connected₂ faultless₂ (found_fits honors faultless fits)
    refine ⟨_, (finish_refreshBeans connected time _).trans finished₂, going₂, rfl, rfl, ?_, ?_, ?_⟩
    · exact all₂.trans (bindable_eq_picks faultless₂)
    · exact all.trans (bindable_eq_picks faultless)
    · exact picks_append honors one more time
  · have faultless : ((one.appending more).found answers time).Faultless answers :=
      fun bean _ => Answers.faultless_of_compile valid bean
    obtain ⟨pass, finished, _⟩ := matchAttributes_gathers connected₄ faultless .collect time
    exact ⟨_, wide.trans finished⟩
  · exact ofSettings_collectingDefaults engine settings given
  · refine List.forall_mem_map.mpr fun configuration member => ?_
    exact Configuration.builtIns_compile engine configuration member

/-- What the machine comes to if its configurations have some scopes. -/
theorem finish_machine (limit : Nat) {scopes : List String}
    (narrowed : scopes? configurations = some scopes) :
    (followed refreshBeans (fun _ => matchAttributes .collect) 0
        (machine limit configurations)).finish machineAnswers.outcome 0 =
      (matchAttributes .collect 0 ((machine limit configurations).withBeans 0
        ([collections, disk].filter fun bean =>
          bean ∈ scopes.flatMap fun scope => machineAnswers (.query (some scope))))).finish
        machineAnswers.outcome 0 := by
  have found : beanSet (inScopes configurations machineAnswers) =
      [collections, disk].filter fun bean =>
        bean ∈ scopes.flatMap fun scope => machineAnswers (.query (some scope)) := by
    rw [beanSet_inScopes machineAnswers_honors, machine_beans, inScopes, narrowed]
  rw [← found]
  exact finish_refreshBeans rfl 0 _

/-- The attributes of one bean are bound before, and stay as they are when configurations for it and
for the other bean are appended. -/
theorem appending_rebinds_nothing_machine :
    let one := machine 3 [including "app" [] none]
    let more := [{ including "app" ["app:type=Gc"] none with metricPrefix := some "other" },
      including "db" [] none]
    let work := followed refreshBeans fun _ => matchAttributes .collect
    one.isConnected = true ∧ machineAnswers.HonorsScopes ∧ ∃ narrowed whole,
      (work 0 one).finish machineAnswers.outcome 0 = (narrowed, .ok ()) ∧
      (work 0 (one.appending more)).finish machineAnswers.outcome 0 = (whole, .ok ()) ∧
      whole.limitReached = false ∧
      narrowed.matched.map (·.key) = ["app:type=Gc#Count", "app:type=Gc#Time"] ∧
      whole.matched.map (·.key) = ["app:type=Gc#Count", "app:type=Gc#Time", "db:type=Disk#Size"] ∧
      (narrowed.picks machineAnswers).Sublist (whole.picks machineAnswers) := by
  intro one more work
  have sorted : sortedSet ["app:*", "app:type=Gc", "db:*"] = ["app:*", "app:type=Gc", "db:*"] :=
    sortedSet_of_ascending (by decide)
  have scopes : scopes? (one.appending more).configurations =
      some ["app:*", "app:type=Gc", "db:*"] := congrArg some sorted
  have narrowScopes : scopes? one.configurations = some ["app:*"] :=
    congrArg some (sortedSet_of_ascending (by decide))
  obtain ⟨rebinds, _⟩ :=
    appending_rebinds_nothing one more machineAnswers 0 rfl machineAnswers_honors
  obtain ⟨narrowed, finished, _, _, _, _, _, picked⟩ :=
    rebinds _ ((finish_machine 3 scopes).trans rfl) rfl
  cases finished.symm.trans (finish_machine 3 narrowScopes)
  exact ⟨rfl, machineAnswers_honors, _, _, finished, (finish_machine 3 scopes).trans rfl, rfl, rfl,
    rfl, picked⟩

/-- Appended configurations may fail at a bean that only they look for: then nothing is bound at all,
though the limit is reached neither with them nor without. -/
theorem appended_filter_fails :
    let one := machine 3 [including "app" [] none]
    let more := [including "db" [] (some "(?=x)")]
    let work := followed refreshBeans fun _ => matchAttributes .collect
    one.isConnected = true ∧ machineAnswers.HonorsScopes ∧ ∃ narrowed whole fault,
      (work 0 one).finish machineAnswers.outcome 0 = (narrowed, .ok ()) ∧
      (work 0 (one.appending more)).finish machineAnswers.outcome 0 =
        (whole, .error (.filter fault)) ∧
      narrowed.limitReached = false ∧ whole.limitReached = false ∧
      narrowed.matched.map (·.key) = ["app:type=Gc#Count", "app:type=Gc#Time"] ∧
      whole.matched = [] := by
  intro one more work
  have sorted : sortedSet ["app:*", "db:*"] = ["app:*", "db:*"] :=
    sortedSet_of_ascending (by decide)
  have scopes : scopes? (one.appending more).configurations = some ["app:*", "db:*"] :=
    congrArg some sorted
  have narrowScopes : scopes? one.configurations = some ["app:*"] :=
    congrArg some (sortedSet_of_ascending (by decide))
  exact ⟨rfl, machineAnswers_honors, _, _, .unsupported "(?=x)" .positiveLookahead,
    (finish_machine 3 narrowScopes).trans rfl, (finish_machine 3 scopes).trans rfl, rfl, rfl, rfl, rfl⟩

end Instance
end BeanHarvest
