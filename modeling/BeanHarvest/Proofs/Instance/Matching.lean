import BeanHarvest.Pattern.Search
import BeanHarvest.Proofs.Attribute.Binding
import BeanHarvest.Proofs.Filter.Selecting
import BeanHarvest.Proofs.Instance.Starting
import BeanHarvest.Proofs.Target.Answers

/-! Matching within the limit. A pass over the attributes of an instance is offered the attributes that
can be bound, one after the other. To collect, it keeps the longest beginning that fits within the
limit; to list, it leaves out what does not fit and goes on. -/
namespace BeanHarvest

def totalMetrics : List MatchedAttribute → Nat
  | [] => 0
  | bound :: rest => bound.metricCount + totalMetrics rest

/-- The longest beginning of a list whose metrics stay within a limit. -/
def fitting (limit : Nat) : List MatchedAttribute → List MatchedAttribute
  | [] => []
  | bound :: rest =>
    if bound.metricCount ≤ limit then bound :: fitting (limit - bound.metricCount) rest else []

section
variable {limit : Nat} {list kept more : List MatchedAttribute} {bound : MatchedAttribute}

theorem totalMetrics_cons : totalMetrics (bound :: list) = bound.metricCount + totalMetrics list :=
  rfl

theorem totalMetrics_append :
    totalMetrics (list ++ more) = totalMetrics list + totalMetrics more := by
  induction list with
  | nil => exact (Nat.zero_add _).symm
  | cons bound rest ih =>
    rw [List.cons_append, totalMetrics_cons, totalMetrics_cons, ih, Nat.add_assoc]

theorem totalMetrics_sublist (part : kept.Sublist list) : totalMetrics kept ≤ totalMetrics list := by
  induction part with
  | slnil => exact Nat.le_refl _
  | cons bound part ih =>
    rw [totalMetrics_cons]
    omega
  | cons_cons bound part ih =>
    rw [totalMetrics_cons, totalMetrics_cons]
    omega

theorem fitting_begins (limit : Nat) (list : List MatchedAttribute) : fitting limit list <+: list := by
  induction list generalizing limit with
  | nil => exact List.prefix_rfl
  | cons bound rest ih =>
    unfold fitting
    split
    · exact List.prefix_cons_inj bound |>.mpr (ih _)
    · exact List.nil_prefix

theorem totalMetrics_fitting (limit : Nat) (list : List MatchedAttribute) :
    totalMetrics (fitting limit list) ≤ limit := by
  induction list generalizing limit with
  | nil => exact Nat.zero_le limit
  | cons bound rest ih =>
    unfold fitting
    split
    · next fits =>
      have within := ih (limit - bound.metricCount)
      rw [totalMetrics_cons]
      omega
    · exact Nat.zero_le limit

theorem fitting_longest (begins : kept <+: list) (within : totalMetrics kept ≤ limit) :
    kept <+: fitting limit list := by
  induction list generalizing limit kept with
  | nil => exact begins
  | cons bound rest ih =>
    cases kept with
    | nil => exact List.nil_prefix
    | cons first others =>
      obtain ⟨rfl, others_begin⟩ := List.cons_prefix_cons.mp begins
      rw [totalMetrics_cons] at within
      have fits : first.metricCount ≤ limit := by omega
      unfold fitting
      rw [if_pos fits]
      exact List.prefix_cons_inj first |>.mpr (ih others_begin (by omega))

theorem fitting_eq_self_iff : fitting limit list = list ↔ totalMetrics list ≤ limit := by
  constructor
  · intro whole
    have within := totalMetrics_fitting limit list
    rwa [whole] at within
  · intro within
    exact (fitting_begins limit list).eq_of_length_le
      (fitting_longest List.prefix_rfl within).length_le

/-- What stands behind the limit makes no difference. -/
theorem fitting_append (beyond : limit < totalMetrics list) (more : List MatchedAttribute) :
    fitting limit (list ++ more) = fitting limit list := by
  have within := totalMetrics_fitting limit (list ++ more)
  have begins : fitting limit (list ++ more) <+: list := by
    rcases List.prefix_or_prefix_of_prefix (fitting_begins limit (list ++ more))
      (List.prefix_append list more) with shorter | longer
    · exact shorter
    · obtain ⟨others, same⟩ := longer
      rw [← same, totalMetrics_append] at within
      omega
  have shorter := fitting_longest begins within
  have longer : fitting limit list <+: fitting limit (list ++ more) :=
    fitting_longest ((fitting_begins limit list).trans (List.prefix_append list more))
      (totalMetrics_fitting limit list)
  exact shorter.eq_of_length_le longer.length_le

/-- The first attribute beyond the limit is left out. -/
theorem fitting_concat (beyond : limit < totalMetrics (list ++ [bound])) :
    fitting limit (list ++ [bound]) = fitting limit list := by
  by_cases within : totalMetrics list ≤ limit
  · have whole : fitting limit list = list := fitting_eq_self_iff.mpr within
    have longer : list <+: fitting limit (list ++ [bound]) :=
      fitting_longest (List.prefix_append list [bound]) within
    rcases List.prefix_concat_iff.mp (fitting_begins limit (list ++ [bound])) with all | begins
    · exact absurd (fitting_eq_self_iff.mp all) (by omega)
    · rw [whole]
      exact begins.eq_of_length_le longer.length_le
  · exact fitting_append (by omega) [bound]

end

/-- Configurations whose patterns can all be prepared select from every bean of every class. -/
theorem Instance.selecting_of_compile {engine : Pattern.Engine}
    {configurations : List Configuration}
    (valid : ∀ configuration ∈ configurations, ∃ compiled, configuration.compile engine = .ok compiled)
    (bean : Bean) (className : Option String) :
    ∃ selecting, Instance.selecting engine configurations bean className = .ok selecting := by
  induction configurations with
  | nil => exact ⟨[], rfl⟩
  | cons configuration rest ih =>
    obtain ⟨_, compiled⟩ := valid configuration List.mem_cons_self
    obtain ⟨found, isMatched⟩ := Configuration.matchBean_of_compile compiled bean className
    obtain ⟨others, selected⟩ := ih fun other member => valid other (List.mem_cons_of_mem _ member)
    refine ⟨(found.map (BeanMatch.mk configuration)).toList ++ others, ?_⟩
    simp only [Instance.selecting, isMatched, selected, Except.map]

namespace Answers

variable {answers : Answers} {engine : Pattern.Engine} {configurations : List Configuration}
  {context : InstanceContext}

/-- The class of a bean, if the configurations ask for classes. -/
def classOf (answers : Answers) (configurations : List Configuration) (bean : Bean) :
    Option String :=
  if configurations.any (·.referencesClass) then some (answers (.className bean)) else none

def selecting (answers : Answers) (engine : Pattern.Engine) (configurations : List Configuration)
    (bean : Bean) : Except Pattern.Fault (List BeanMatch) :=
  Instance.selecting engine configurations bean (answers.classOf configurations bean)

def bound? (answers : Answers) (context : InstanceContext) (selecting : List BeanMatch)
    (candidate : Candidate) : Option MatchedAttribute :=
  ((candidate.bind context selecting).result answers.outcome).toOption.join

/-- The attributes of a bean that can be bound, in the order in which the bean declares them. -/
def bindableOf (answers : Answers) (engine : Pattern.Engine) (context : InstanceContext)
    (configurations : List Configuration) (bean : Bean) : List MatchedAttribute :=
  match answers.selecting engine configurations bean with
  | .error _ => []
  | .ok selecting =>
    (answers (.attributes bean)).filterMap fun info => answers.bound? context selecting ⟨bean, info⟩

def Faultless (answers : Answers) (engine : Pattern.Engine) (configurations : List Configuration)
    (bean : Bean) : Prop :=
  ∃ selecting, answers.selecting engine configurations bean = .ok selecting

theorem result_classOf (answers : Answers) (isNeeded : Bool) (bean : Bean) :
    (Instance.classOf isNeeded bean).result answers.outcome =
      .ok (if isNeeded then some (answers (.className bean)) else none) := by
  cases isNeeded <;> rfl

/-- Whatever a candidate is answered, it is bound to something or to nothing. -/
theorem result_bind (answers : Answers) (context : InstanceContext) (selecting : List BeanMatch)
    (candidate : Candidate) :
    (candidate.bind context selecting).result answers.outcome =
      .ok (answers.bound? context selecting candidate) := by
  have read : answers.outcome (.read candidate.bean candidate.name) =
      .ok (answers (.read candidate.bean candidate.name)) := rfl
  unfold bound?
  rw [Candidate.bind_result candidate context selecting read]
  rfl

/-- An attribute of a bean that nothing selects cannot be bound. -/
theorem bindableOf_of_not_selected {bean : Bean}
    (idle : answers.selecting engine configurations bean = .ok []) :
    answers.bindableOf engine context configurations bean = [] := by
  unfold bindableOf
  rw [idle]
  exact List.filterMap_eq_nil_iff.mpr fun _ _ => rfl

/-- Where all patterns can be prepared, no filter fails. -/
theorem faultless_of_compile
    (valid : ∀ configuration ∈ configurations, ∃ compiled, configuration.compile engine = .ok compiled)
    (bean : Bean) : answers.Faultless engine configurations bean :=
  Instance.selecting_of_compile valid bean _

end Answers

/-- A pass that was offered some attributes, and what it has kept of them. -/
structure MatchPass.Gathers (rules : MatchRules) (offered : List MatchedAttribute)
    (pass : MatchPass) : Prop where
  counted : pass.metricCount = totalMetrics pass.matched
  within : totalMetrics pass.matched ≤ rules.limit
  begins : fitting rules.limit offered <+: pass.matched
  reached : pass.report.limitReached = true ↔ rules.limit < totalMetrics offered
  complete : pass.report.limitReached = false → pass.matched = offered
  stopped : rules.action = .collect → pass.matched = fitting rules.limit offered

namespace MatchPass

variable {rules : MatchRules} {offered : List MatchedAttribute} {pass : MatchPass}
  {answers : Answers} {bound : MatchedAttribute}

theorem Gathers.start (rules : MatchRules) : Gathers rules [] {} where
  counted := rfl
  within := Nat.zero_le _
  begins := List.prefix_rfl
  reached := by simp [totalMetrics]
  complete := fun _ => rfl
  stopped := fun _ => rfl

/-- A pass that is over would keep the same of anything more. -/
theorem Gathers.ended (gathers : Gathers rules offered pass)
    (ended : pass.isOver rules.action = true) (more : List MatchedAttribute) :
    Gathers rules (offered ++ more) pass := by
  have reached : pass.report.limitReached = true := (Bool.and_eq_true_iff.mp ended).2
  have beyond := gathers.reached.mp reached
  have unchanged := fitting_append beyond more
  refine ⟨gathers.counted, gathers.within, unchanged ▸ gathers.begins, ?_, ?_,
    fun collects => unchanged ▸ gathers.stopped collects⟩
  · rw [totalMetrics_append]
    exact iff_of_true reached (by omega)
  · intro others
    rw [reached] at others
    cases others

theorem Gathers.leave (gathers : Gathers rules offered pass) (candidate : Candidate) :
    Gathers rules offered (pass.leave rules.action candidate) := by
  unfold MatchPass.leave
  split
  · exact ⟨gathers.counted, gathers.within, gathers.begins, gathers.reached, gathers.complete,
      gathers.stopped⟩
  · exact gathers

theorem Gathers.refuse (gathers : Gathers rules offered pass)
    (beyond : rules.limit < pass.metricCount + bound.metricCount) :
    Gathers rules (offered ++ [bound]) (pass.refuse rules.action bound) := by
  have past : rules.limit < totalMetrics (offered ++ [bound]) := by
    rw [totalMetrics_append, totalMetrics_cons]
    cases limitReached : pass.report.limitReached with
    | true =>
      have already := gathers.reached.mp limitReached
      omega
    | false =>
      rw [gathers.counted, gathers.complete limitReached] at beyond
      omega
  have unchanged := fitting_concat past
  refine ⟨gathers.counted, gathers.within, unchanged ▸ gathers.begins, iff_of_true rfl past, ?_,
    fun collects => unchanged ▸ gathers.stopped collects⟩
  intro others
  cases others

theorem Gathers.keep (gathers : Gathers rules offered pass)
    (going : pass.isOver rules.action = false)
    (fits : pass.metricCount + bound.metricCount ≤ rules.limit) :
    Gathers rules (offered ++ [bound]) (pass.keep rules.action bound) := by
  have counted : pass.metricCount + bound.metricCount = totalMetrics (pass.matched ++ [bound]) := by
    rw [totalMetrics_append, totalMetrics_cons, gathers.counted]
    rfl
  cases limitReached : pass.report.limitReached with
  | true =>
    -- Behind the limit only a listing goes on: what it keeps there is not in the longest beginning.
    have beyond := gathers.reached.mp limitReached
    have unchanged := fitting_append beyond [bound]
    have lists : rules.action ≠ .collect := by
      intro collects
      simp [isOver, collects, limitReached] at going
    refine ⟨counted, counted ▸ fits, ?_, ?_, ?_, fun collects => absurd collects lists⟩
    · rw [unchanged]
      exact gathers.begins.trans (List.prefix_append _ _)
    · rw [totalMetrics_append]
      exact iff_of_true limitReached (by omega)
    · intro others
      exact absurd (limitReached.symm.trans others) (by decide)
  | false =>
    -- Nothing was left out before, and nothing is now.
    have all : pass.matched ++ [bound] = offered ++ [bound] := by rw [gathers.complete limitReached]
    have fits_all : totalMetrics (offered ++ [bound]) ≤ rules.limit := by
      rw [← all, ← counted]
      exact fits
    have whole := fitting_eq_self_iff.mpr fits_all
    refine ⟨counted, counted ▸ fits, ?_, ?_, fun _ => all, fun _ => all.trans whole.symm⟩
    · rw [whole, ← all]
      exact List.prefix_rfl
    · exact iff_of_false (by simp [MatchPass.keep, limitReached]) (by omega)

/-- A step of a pass: what was offered grows by what the candidate is bound to. -/
theorem Gathers.add (gathers : Gathers rules offered pass)
    (going : pass.isOver rules.action = false) (candidate : Candidate)
    (found : Option MatchedAttribute) :
    Gathers rules (offered ++ found.toList) (pass.add rules candidate found) := by
  cases found with
  | none =>
    rw [Option.toList_none, List.append_nil]
    exact gathers.leave candidate
  | some bound =>
    rw [Option.toList_some]
    unfold MatchPass.add
    dsimp only
    split
    · next beyond => exact gathers.refuse beyond
    · next fits => exact gathers.keep going (by omega)

theorem Gathers.overAttributes (gathers : Gathers rules offered pass) (answers : Answers)
    (going : pass.isOver rules.action = false) (bean : Bean) (selecting : List BeanMatch)
    (infos : List AttributeInfo) :
    ∃ later, (overAttributes rules bean selecting pass infos).result answers.outcome = .ok later ∧
      Gathers rules (offered ++ infos.filterMap fun info =>
        answers.bound? rules.context selecting ⟨bean, info⟩) later := by
  induction infos generalizing offered pass with
  | nil => exact ⟨pass, rfl, by simpa using gathers⟩
  | cons info rest ih =>
    have step := gathers.add going ⟨bean, info⟩ (answers.bound? rules.context selecting ⟨bean, info⟩)
    have offers : offered ++ (info :: rest).filterMap (fun info =>
        answers.bound? rules.context selecting ⟨bean, info⟩) =
        offered ++ (answers.bound? rules.context selecting ⟨bean, info⟩).toList ++
          rest.filterMap fun info => answers.bound? rules.context selecting ⟨bean, info⟩ := by
      rw [List.append_assoc, List.filterMap_cons]
      cases answers.bound? rules.context selecting ⟨bean, info⟩ <;> rfl
    rw [offers, MatchPass.overAttributes, Dialogue.result_andThen, Answers.result_bind]
    dsimp only
    split
    · next ended => exact ⟨_, rfl, step.ended ended _⟩
    · next goes => exact ih step (Bool.not_eq_true _ ▸ goes)

theorem result_overBeans_cons (rules : MatchRules) (pass : MatchPass) (answers : Answers) (bean : Bean)
    (rest : List Bean) :
    (overBeans rules pass (bean :: rest)).result answers.outcome =
      match answers.selecting rules.engine rules.configurations bean with
      | .error fault => .error (.filter fault)
      | .ok selecting =>
        if selecting.isEmpty && !rules.action.listsUnmatched then
          (overBeans rules pass rest).result answers.outcome
        else
          match (overAttributes rules bean selecting pass
            (answers (.attributes bean))).result answers.outcome with
          | .error fault => .error (.connection fault)
          | .ok pass =>
            if pass.isOver rules.action then .ok pass
            else (overBeans rules pass rest).result answers.outcome := by
  have selects : Instance.selecting rules.engine rules.configurations bean
      (if rules.configurations.any (·.referencesClass) then some (answers (.className bean))
        else none) = answers.selecting rules.engine rules.configurations bean := rfl
  rw [MatchPass.overBeans, Dialogue.result_andThen, Answers.result_classOf]
  dsimp only
  rw [selects]
  cases answers.selecting rules.engine rules.configurations bean with
  | error fault => rfl
  | ok selecting =>
    dsimp only
    split
    · rfl
    · rw [Dialogue.result_ask]
      dsimp only
      rw [Dialogue.result_andThen]
      cases (overAttributes rules bean selecting pass
          (answers (.attributes bean))).result answers.outcome with
      | error fault => rfl
      | ok pass =>
        dsimp only
        split <;> rfl

/-- A pass over beans at which no filter fails comes to its end. -/
theorem Gathers.overBeans (gathers : Gathers rules offered pass) (answers : Answers)
    (going : pass.isOver rules.action = false) (beans : List Bean)
    (faultless : ∀ bean ∈ beans, answers.Faultless rules.engine rules.configurations bean) :
    ∃ later, (overBeans rules pass beans).result answers.outcome = .ok later ∧
      Gathers rules
        (offered ++
          beans.flatMap (answers.bindableOf rules.engine rules.context rules.configurations)) later := by
  induction beans generalizing offered pass with
  | nil => exact ⟨pass, rfl, by simpa using gathers⟩
  | cons bean rest ih =>
    obtain ⟨selecting, selected⟩ := faultless bean List.mem_cons_self
    have others := fun bean member => faultless bean (List.mem_cons_of_mem _ member)
    rw [List.flatMap_cons, ← List.append_assoc, result_overBeans_cons, selected]
    dsimp only
    split
    · next idle =>
      have empty : selecting = [] := List.isEmpty_iff.mp (Bool.and_eq_true_iff.mp idle).1
      subst empty
      rw [Answers.bindableOf_of_not_selected selected, List.append_nil]
      exact ih gathers going others
    · obtain ⟨later, passed, gathers⟩ := gathers.overAttributes answers going bean
        selecting (answers (.attributes bean))
      have offers : answers.bindableOf rules.engine rules.context rules.configurations bean =
          (answers (.attributes bean)).filterMap fun info =>
            answers.bound? rules.context selecting ⟨bean, info⟩ := by
        unfold Answers.bindableOf
        rw [selected]
      rw [← offers] at gathers
      rw [passed]
      dsimp only
      split
      · next ended => exact ⟨_, rfl, gathers.ended ended _⟩
      · next goes => exact ih gathers (Bool.not_eq_true _ ▸ goes) others

end MatchPass

namespace Instance

variable {one : Instance} {answers : Answers}

/-- The attributes of the beans of an instance that can be bound, in the order of the beans. -/
def bindable (one : Instance) (answers : Answers) : List MatchedAttribute :=
  one.beans.flatMap (answers.bindableOf one.engine one.context one.configurations)

/-- Whether no filter of an instance fails at one of its beans. -/
def Faultless (one : Instance) (answers : Answers) : Prop :=
  ∀ bean ∈ one.beans, answers.Faultless one.engine one.configurations bean

/-- Matching comes to what a pass over the beans comes to. -/
theorem finish_matchAttributes (connected : one.isConnected = true) (answers : Answers)
    (action : Action) (time : Nat) :
    (matchAttributes action time one).finish answers.outcome time =
      match (MatchPass.overBeans (one.rules action) {} one.beans).result answers.outcome with
      | .error fault => (one, .error fault)
      | .ok pass => (one.withPass pass, .ok ()) := by
  rw [matchAttributes, connectedOr_of_connected connected, Operation.get_bind,
    Operation.finish_hold_bind]
  cases (MatchPass.overBeans (one.rules action) {} one.beans).result answers.outcome <;> rfl

theorem matchAttributes_gathers (connected : one.isConnected = true)
    (faultless : one.Faultless answers) (action : Action) (time : Nat) :
    ∃ pass, (matchAttributes action time one).finish answers.outcome time =
        (one.withPass pass, .ok ()) ∧
      pass.Gathers (one.rules action) (one.bindable answers) := by
  obtain ⟨pass, passed, gathers⟩ := (MatchPass.Gathers.start (one.rules action)).overBeans
    answers (Bool.and_false _) one.beans faultless
  refine ⟨pass, ?_, gathers⟩
  rw [finish_matchAttributes connected, passed]

/-- To collect, the longest beginning of what can be bound is matched that fits within the limit, and
the limit was reached just if that is not all; whatever attributes are listed for, what is matched
stays within the limit and begins with what is collected, and the limit was reached or not alike. -/
theorem matchAttributes_within_limit (one : Instance) (answers : Answers) (time : Nat)
    (connected : one.isConnected = true) (faultless : one.Faultless answers) :
    ∃ collecting, (matchAttributes .collect time one).finish answers.outcome time =
        (collecting, .ok ()) ∧
      collecting.matched <+: one.bindable answers ∧
      totalMetrics collecting.matched ≤ one.schedule.maxMetrics ∧
      (∀ kept, kept <+: one.bindable answers → totalMetrics kept ≤ one.schedule.maxMetrics →
        kept <+: collecting.matched) ∧
      (collecting.limitReached = true ↔ collecting.matched ≠ one.bindable answers) ∧
      ∀ action ∈ Action.listings, ∃ listing,
        (matchAttributes action time one).finish answers.outcome time = (listing, .ok ()) ∧
        totalMetrics listing.matched ≤ one.schedule.maxMetrics ∧
        collecting.matched <+: listing.matched ∧
        listing.limitReached = collecting.limitReached ∧
        (listing.limitReached = false → listing.matched = collecting.matched) := by
  obtain ⟨pass, finished, gathers⟩ :=
    matchAttributes_gathers connected faultless .collect time
  have kept : (one.withPass pass).matched =
      fitting one.schedule.maxMetrics (one.bindable answers) := gathers.stopped rfl
  refine ⟨_, finished, ?_, gathers.within, ?_, ?_, ?_⟩
  · exact kept ▸ fitting_begins _ _
  · intro others begins within
    exact kept ▸ fitting_longest begins within
  · have whole : (one.withPass pass).matched = one.bindable answers ↔
        totalMetrics (one.bindable answers) ≤ one.schedule.maxMetrics := by
      rw [kept]
      exact fitting_eq_self_iff
    exact gathers.reached.trans (Nat.not_le.symm.trans (not_congr whole).symm)
  · intro action _
    obtain ⟨listing, listed, gathers₂⟩ :=
      matchAttributes_gathers connected faultless action time
    have alike : listing.report.limitReached = pass.report.limitReached :=
      Bool.eq_iff_iff.mpr (gathers₂.reached.trans gathers.reached.symm)
    refine ⟨_, listed, gathers₂.within, kept ▸ gathers₂.begins, alike, fun open_ => ?_⟩
    exact (gathers₂.complete open_).trans (gathers.complete (alike ▸ open_)).symm

/-- Two beans, the first of them with two attributes. -/
def collections : Bean := ⟨"app", [("type", "Gc")], "app:type=Gc"⟩

def disk : Bean := ⟨"db", [("type", "Disk")], "db:type=Disk"⟩

/-- An instance that has found the beans, and has room for some metrics. -/
def machine (limit : Nat) (configurations : List Configuration) : Instance where
  settings := { name := "east" }
  configurations
  schedule := ⟨none, none, none, limit⟩
  engine := Pattern.engine
  isConnected := true
  beans := [collections, disk]

/-- A target that has the beans. It takes a scope for a name, or for the domain in it. -/
def machineAnswers : Answers
  | .query none => [collections, disk]
  | .query (some scope) => [collections, disk].filter fun bean =>
    bean.name = scope ||
      (bean.domain ++ ":").toList.isPrefixOf scope.toList && scope.toList.getLast? = some '*'
  | .attributes bean =>
    if bean = collections then [⟨"Count", "long"⟩, ⟨"Time", "long"⟩] else [⟨"Size", "long"⟩]
  | .className _ => "java.lang.Object"
  | .read _ _ => .integer 1
  | .connect | .close => ()

/-- A configuration by a domain and names that are included, and a pattern of domains that are not. -/
def including (domain : String) (beans : List String) (excluded : Option String) :
    Configuration where
  included := { Filter.empty with domain := some domain, beans }
  excluded := { Filter.empty with domainPattern := excluded }
  metricPrefix := none
  renamedTags := []

theorem matchAttributes_within_limit_machine :
    let one := machine 1 [including "app" [] none]
    one.isConnected = true ∧ one.Faultless machineAnswers ∧
      ∃ collecting, (matchAttributes .collect 0 one).finish machineAnswers.outcome 0 =
          (collecting, .ok ()) ∧
        collecting.limitReached = true := by
  intro one
  have faultless : one.Faultless machineAnswers := fun bean _ =>
    Answers.faultless_of_compile (fun _ member => List.mem_singleton.mp member ▸ ⟨_, rfl⟩) bean
  obtain ⟨collecting, finished, _, within, _, reached, _⟩ :=
    matchAttributes_within_limit one machineAnswers 0 rfl faultless
  refine ⟨rfl, faultless, collecting, finished, reached.mpr fun whole => ?_⟩
  have total : totalMetrics (one.bindable machineAnswers) = 2 := rfl
  rw [whole, total] at within
  exact absurd within (by decide)

/-- Behind the limit a filter may still fail, at a bean that is not looked at to collect: then the
limit is reached to collect, but nothing can be listed. -/
theorem listing_fails_beyond_limit :
    let one := machine 1 [including "app" [] none, including "db" [] (some "(?=x)")]
    ∃ collecting fault, (matchAttributes .collect 0 one).finish machineAnswers.outcome 0 =
        (collecting, .ok ()) ∧
      collecting.limitReached = true ∧
      (matchAttributes .listEverything 0 one).finish machineAnswers.outcome 0 =
        (one, .error (.filter fault)) ∧
      one.limitReached = false :=
  ⟨_, .unsupported "(?=x)" .positiveLookahead, rfl, rfl, rfl, rfl⟩

end Instance
end BeanHarvest
