import BeanHarvest.Proofs.Attribute.Caching
import BeanHarvest.Proofs.Attribute.Offers
import BeanHarvest.Proofs.Instance.Scoping

/-! Passes against any target. Whatever is answered, and however the answers change or fail, the beans
that are found ascend by their names, and what a pass has matched is of these beans, within the limit
and as good as new. What is promised of the answers tells more of it. -/
namespace BeanHarvest

/-- Whether a fault is one of the instance, not of one of its attributes. -/
def InstanceFault.IsOutward (fault : InstanceFault) : Prop := ∀ cause, fault ≠ .extraction cause

/-- Whatever goes wrong with an instance breaks it. -/
theorem InstanceFault.IsOutward.marksBroken {fault : InstanceFault} (outward : fault.IsOutward) :
    (Failure.ofInstance fault).marksBroken = true := by
  cases fault with
  | connection fault => cases fault <;> rfl
  | filter fault => rfl
  | extraction cause => exact absurd rfl (outward cause)
  | notInitialized name => rfl

/-- The faults that a pass can raise: of the connection, or of a pattern that a configuration has to
match some bean against. -/
def MatchRules.Raises (rules : MatchRules) : InstanceFault → Prop
  | .connection _ => True
  | .filter cause => ∃ bean className,
      Instance.selecting rules.engine rules.configurations bean className = .error cause
  | _ => False

theorem MatchRules.Raises.isOutward {rules : MatchRules} {fault : InstanceFault}
    (raises : rules.Raises fault) : fault.IsOutward := by
  rintro cause rfl
  exact raises

variable {promise : Promise}

namespace MatchPass

variable {rules : MatchRules} {beans : List Bean} {pass : MatchPass}

/-- What holds of a pass over some beans: it counts the metrics of what it has matched, these stay
within the limit, and what it has matched is of the beans and has nothing kept. -/
structure Sound (limit : Nat) (beans : List Bean) (pass : MatchPass) : Prop where
  counted : pass.metricCount = totalMetrics pass.matched
  within : totalMetrics pass.matched ≤ limit
  among : ∀ bound ∈ pass.matched, bound.bean ∈ beans
  keepsNothing : ∀ bound ∈ pass.matched, bound.KeepsNothing

theorem Sound.start (limit : Nat) (beans : List Bean) : Sound limit beans {} where
  counted := rfl
  within := Nat.zero_le limit
  among := fun _ member => nomatch member
  keepsNothing := fun _ member => nomatch member

theorem Sound.add (sound : pass.Sound rules.limit beans) {candidate : Candidate}
    (member : candidate.bean ∈ beans) {found : Option MatchedAttribute}
    (makes : ∀ bound, found = some bound → candidate.Makes bound) :
    (pass.add rules candidate found).Sound rules.limit beans := by
  obtain ⟨counted, within, among, keepsNothing⟩ := sound
  cases found with
  | none =>
    unfold MatchPass.add leave
    dsimp only
    split <;> exact ⟨counted, within, among, keepsNothing⟩
  | some bound =>
    obtain ⟨ofBean, isNew⟩ := makes bound rfl
    unfold MatchPass.add
    dsimp only
    split
    · exact ⟨counted, within, among, keepsNothing⟩
    · next fits =>
      have total : totalMetrics (pass.matched ++ [bound]) = pass.metricCount + bound.metricCount := by
        rw [totalMetrics_append, totalMetrics_cons, ← counted]
        rfl
      refine ⟨total.symm, ?_, ?_, ?_⟩
      · exact total ▸ Nat.not_lt.mp fits
      · intro other present
        rcases List.mem_append.mp present with before | last
        · exact among other before
        · exact List.mem_singleton.mp last ▸ ofBean ▸ member
      · intro other present
        rcases List.mem_append.mp present with before | last
        · exact keepsNothing other before
        · exact List.mem_singleton.mp last ▸ isNew

/-- What was matched before is kept, and nothing is matched but what was bound. -/
theorem mem_add_matched {candidate : Candidate} {found : Option MatchedAttribute}
    {bound : MatchedAttribute} (member : bound ∈ (pass.add rules candidate found).matched) :
    bound ∈ pass.matched ∨ found = some bound := by
  cases found with
  | none =>
    unfold MatchPass.add leave at member
    dsimp only at member
    split at member <;> exact .inl member
  | some other =>
    unfold MatchPass.add at member
    dsimp only at member
    split at member
    · exact .inl member
    · rcases List.mem_append.mp member with before | last
      · exact .inl before
      · exact .inr (congrArg some (List.mem_singleton.mp last).symm)

/-- Whether a property of passes outlasts every attribute of a bean that is taken in, and every one that
could not be looked at. -/
def AddsUnder (promise : Promise) (rules : MatchRules) (kept : MatchPass → Prop) (bean : Bean) : Prop :=
  ∀ pass info selecting, kept pass →
    (Candidate.bind ⟨bean, info⟩ rules.context selecting).YieldsUnder promise fun result =>
      ∀ found, result = .ok found ∨ found = none → kept (pass.add rules ⟨bean, info⟩ found)

variable {kept : MatchPass → Prop}

theorem AddsUnder.and {bean : Bean} {other : MatchPass → Prop}
    (first : AddsUnder promise rules kept bean) (second : AddsUnder promise rules other bean) :
    AddsUnder promise rules (fun pass => kept pass ∧ other pass) bean := by
  intro pass info selecting ⟨holds, holdsToo⟩
  refine ((first pass info selecting holds).and (second pass info selecting holdsToo)).imp ?_
  exact fun result added found came => ⟨added.1 found came, added.2 found came⟩

theorem overAttributes_keeps {bean : Bean} (adds : AddsUnder promise rules kept bean)
    (begun : kept pass) (selecting : List BeanMatch) (infos : List AttributeInfo) :
    (overAttributes rules bean selecting pass infos).YieldsUnder promise fun result =>
      ∀ later, result = .ok later → kept later := by
  induction infos generalizing pass with
  | nil =>
    intro later same
    cases same
    exact begun
  | cons info rest ih =>
    have goesOn : ∀ found, kept (pass.add rules ⟨bean, info⟩ found) →
        Dialogue.YieldsUnder promise (fun result => ∀ later, result = .ok later → kept later)
          (if (pass.add rules ⟨bean, info⟩ found).isOver rules.action then
            .done (.ok (pass.add rules ⟨bean, info⟩ found))
          else overAttributes rules bean selecting (pass.add rules ⟨bean, info⟩ found) rest) := by
      intro found step
      split
      · intro later same
        cases same
        exact step
      · exact ih step
    refine (adds pass info selecting begun).andThen fun result added => ?_
    cases result with
    | ok found => exact goesOn found (added found (.inl rfl))
    | error fault =>
      dsimp only
      split
      · intro later same
        cases same
      · exact goesOn none (added none (.inr rfl))

/-- What outlasts every step holds of the whole pass; and a pass only goes wrong with what it can
raise. -/
theorem overBeans_keeps {list : List Bean} (adds : ∀ bean ∈ list, AddsUnder promise rules kept bean)
    (begun : kept pass) : (overBeans rules pass list).YieldsUnder promise fun result =>
      (∀ later, result = .ok later → kept later) ∧ ∀ fault, result = .error fault → rules.Raises fault := by
  have raised : ∀ fault : InstanceFault, rules.Raises fault →
      (∀ later, (.error fault : Except InstanceFault MatchPass) = .ok later → kept later) ∧
        ∀ other, (.error fault : Except InstanceFault MatchPass) = .error other → rules.Raises other := by
    intro fault raises
    refine ⟨nofun, fun other same => ?_⟩
    cases same
    exact raises
  have well : ∀ pass, kept pass →
      (∀ later, (.ok pass : Except InstanceFault MatchPass) = .ok later → kept later) ∧
        ∀ fault, (.ok pass : Except InstanceFault MatchPass) = .error fault → rules.Raises fault := by
    intro pass holds
    refine ⟨fun later same => ?_, nofun⟩
    cases same
    exact holds
  induction list generalizing pass with
  | nil => exact well pass begun
  | cons bean rest ih =>
    have others := fun other member => adds other (List.mem_cons_of_mem bean member)
    refine Dialogue.yieldsUnder_andThen fun className => ?_
    cases className with
    | error fault => exact raised _ trivial
    | ok className =>
      dsimp only
      split
      · next cause fails => exact raised _ ⟨bean, className, fails⟩
      · next selecting _ =>
        split
        · exact ih others begun
        · intro outcome _
          cases outcome with
          | error fault =>
            dsimp only
            split
            · exact raised _ trivial
            · exact ih others begun
          | ok infos =>
            refine (overAttributes_keeps (adds bean List.mem_cons_self) begun selecting
              infos).andThen fun result step => ?_
            cases result with
            | error fault => exact raised _ trivial
            | ok next =>
              dsimp only
              split
              · exact well next (step next rfl)
              · exact ih others (step next rfl)

theorem Sound.addsUnder {bean : Bean} (member : bean ∈ beans) :
    AddsUnder promise rules (Sound rules.limit beans) bean := by
  intro pass info selecting sound
  refine (Candidate.bind_makes _ _ _).imp fun result makes found came => sound.add member ?_
  intro bound same
  rcases came with rfl | rfl
  · exact makes bound (same ▸ rfl)
  · cases same

/-- How passes come out: soundly, or with a fault that breaks the instance. -/
def ComesOut (limit : Nat) (beans : List Bean) : Except InstanceFault MatchPass → Prop
  | .ok pass => pass.Sound limit beans
  | .error fault => (Failure.ofInstance fault).marksBroken = true

end MatchPass

namespace Instance

/-- Beans are found in the order of their names. -/
theorem findBeans_yields (configurations : List Configuration) :
    (findBeans configurations).Yields fun result =>
      ∀ beans, result = .ok beans → beans.Pairwise fun a b => a.name < b.name := by
  refine Dialogue.yields_andThen fun result => ?_
  intro beans same
  cases result with
  | error fault => cases same
  | ok found =>
    cases same
    exact beanSet_ascending found

theorem rules_yields (one : Instance) (action : Action) (beans : List Bean) :
    (MatchPass.overBeans (one.rules action) {} beans).Yields
      (MatchPass.ComesOut one.schedule.maxMetrics beans) := by
  have sound := MatchPass.Sound.start (one.rules action).limit beans
  refine Dialogue.yields_of_under ((MatchPass.overBeans_keeps
    (fun bean member => MatchPass.Sound.addsUnder member) sound).imp fun result comesOut => ?_)
  cases result with
  | ok pass => exact comesOut.1 pass rfl
  | error fault => exact (comesOut.2 fault rfl).isOutward.marksBroken

/-- A pass only goes wrong with what it can raise. -/
theorem rules_raise (one : Instance) (action : Action) (beans : List Bean) :
    (MatchPass.overBeans (one.rules action) {} beans).Yields fun result =>
      ∀ fault, result = .error fault → (one.rules action).Raises fault := by
  have anything : ∀ bean ∈ beans,
      MatchPass.AddsUnder (fun _ _ => True) (one.rules action) (fun _ => True) bean :=
    fun _ _ _ _ _ _ => Dialogue.yieldsUnder_of_forall fun _ _ _ => trivial
  exact Dialogue.yields_of_under
    ((MatchPass.overBeans_keeps anything trivial).imp fun _ comesOut => comesOut.2)

end Instance
end BeanHarvest
