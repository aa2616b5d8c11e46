import BeanHarvest.Instance.Life
import BeanHarvest.Proofs.Target.Answers

/-! Passes side by side. Against a target whose answers do not change, passes over the same beans for two
actions are told the same of every attribute that both look at. A listing goes on beyond the limit, so a
pass for an action that lists no more than it does goes well if the listing does. -/
namespace BeanHarvest

def MatchRules.forAction (rules : MatchRules) (action : Action) : MatchRules := { rules with action }

section
variable (rules : MatchRules) (action : Action)

@[simp] theorem MatchRules.forAction_context : (rules.forAction action).context = rules.context := rfl

@[simp] theorem MatchRules.forAction_configurations :
    (rules.forAction action).configurations = rules.configurations := rfl

@[simp] theorem MatchRules.forAction_engine : (rules.forAction action).engine = rules.engine := rfl

@[simp] theorem MatchRules.forAction_limit : (rules.forAction action).limit = rules.limit := rfl

@[simp] theorem MatchRules.forAction_action : (rules.forAction action).action = action := rfl

end

namespace MatchPass

variable {rules : MatchRules} {wide narrow : Action} {related : MatchPass → MatchPass → Prop}
  {answer : (call : Call) → call.Outcome} {first second later : MatchPass}

/-- To list, a pass goes on beyond the limit. -/
theorem goesOn_of_ne {action : Action} (lists : action ≠ .collect) (pass : MatchPass) :
    ¬ pass.isOver action = true := by
  simp [isOver, lists]

/-- What a pass takes a candidate for: a fault that concerns only the candidate binds it to nothing. -/
def takenAs (answer : (call : Call) → call.Outcome) (context : InstanceContext)
    (selecting : List BeanMatch) (candidate : Candidate) :
    Except ConnectionFault (Option MatchedAttribute) :=
  match (candidate.bind context selecting).result answer with
  | .ok found => .ok found
  | .error fault => if fault.isFatal then .error fault else .ok none

theorem takenAs_nil (context : InstanceContext) (candidate : Candidate) :
    takenAs answer context [] candidate = .ok none := rfl

theorem result_overAttributes_cons (rules : MatchRules) (bean : Bean) (selecting : List BeanMatch)
    (pass : MatchPass) (info : AttributeInfo) (rest : List AttributeInfo) :
    (overAttributes rules bean selecting pass (info :: rest)).result answer =
      match takenAs answer rules.context selecting ⟨bean, info⟩ with
      | .error fault => .error fault
      | .ok found =>
        if (pass.add rules ⟨bean, info⟩ found).isOver rules.action then
          .ok (pass.add rules ⟨bean, info⟩ found)
        else
          (overAttributes rules bean selecting (pass.add rules ⟨bean, info⟩ found) rest).result
            answer := by
  rw [overAttributes, Dialogue.result_andThen, takenAs]
  cases (Candidate.bind ⟨bean, info⟩ rules.context selecting).result answer with
  | ok found =>
    dsimp only
    split <;> rfl
  | error fault =>
    dsimp only
    split
    · rfl
    · dsimp only
      split <;> rfl

/-- What a pass comes to over a bean that some configurations select. It does not look at the bean if
the bean is of no interest, and leaves it out if its attributes cannot be listed. -/
def overBean (answer : (call : Call) → call.Outcome) (rules : MatchRules) (bean : Bean)
    (selecting : List BeanMatch) (pass : MatchPass) : Except ConnectionFault MatchPass :=
  if selecting.isEmpty && !rules.action.listsUnmatched then .ok pass
  else
    match answer (.attributes bean) with
    | .error fault => if fault.isFatal then .error fault else .ok pass
    | .ok infos => (overAttributes rules bean selecting pass infos).result answer

theorem result_overBeans_bean (rules : MatchRules) {pass : MatchPass}
    (going : ¬ pass.isOver rules.action = true) (bean : Bean) (rest : List Bean) :
    (overBeans rules pass (bean :: rest)).result answer =
      match (Instance.classOf (rules.configurations.any (·.referencesClass)) bean).result answer with
      | .error fault => .error (.connection fault)
      | .ok className =>
        match Instance.selecting rules.engine rules.configurations bean className with
        | .error fault => .error (.filter fault)
        | .ok selecting =>
          match overBean answer rules bean selecting pass with
          | .error fault => .error (.connection fault)
          | .ok pass =>
            if pass.isOver rules.action then .ok pass
            else (overBeans rules pass rest).result answer := by
  rw [overBeans, Dialogue.result_andThen]
  cases (Instance.classOf (rules.configurations.any (·.referencesClass)) bean).result answer with
  | error fault => rfl
  | ok className =>
    dsimp only
    cases Instance.selecting rules.engine rules.configurations bean className with
    | error fault => rfl
    | ok selecting =>
      dsimp only [overBean]
      by_cases skips : (selecting.isEmpty && !rules.action.listsUnmatched) = true
      · rw [if_pos skips, if_pos skips]
        dsimp only
        rw [if_neg going]
      · rw [if_neg skips, if_neg skips, Dialogue.result]
        cases answer (.attributes bean) with
        | error fault =>
          dsimp only
          split
          · rfl
          · dsimp only
            rw [if_neg going]
        | ok infos =>
          dsimp only
          rw [Dialogue.result_andThen]
          cases (overAttributes rules bean selecting pass infos).result answer with
          | error fault => rfl
          | ok pass =>
            dsimp only
            split <;> rfl

/-- What relates the passes of a listing to those of an action that lists no more than it: it outlasts a
candidate that both take in, and one that only the listing looks at because nothing selects it. -/
structure Follows (rules : MatchRules) (wide narrow : Action)
    (related : MatchPass → MatchPass → Prop) : Prop where
  lists : wide ≠ .collect
  covers : narrow.listsUnmatched = true → wide.listsUnmatched = true
  add : ∀ {first second}, related first second → ∀ candidate found,
    related (first.add (rules.forAction wide) candidate found)
      (second.add (rules.forAction narrow) candidate found)
  skip : narrow.listsUnmatched = false → ∀ {first second}, related first second → ∀ candidate,
    related (first.add (rules.forAction wide) candidate none) second

namespace Follows

theorem goesOn (follows : Follows rules wide narrow related) (pass : MatchPass) :
    ¬ pass.isOver (rules.forAction wide).action = true :=
  goesOn_of_ne follows.lists pass

/-- If a listing gets over the attributes of a bean, so does a pass for the other action, or it is over
before. -/
theorem overAttributes (follows : Follows rules wide narrow related) (relates : related first second)
    {bean : Bean} {selecting : List BeanMatch} {infos : List AttributeInfo}
    (well : (overAttributes (rules.forAction wide) bean selecting first infos).result answer =
      .ok later) :
    ∃ other, (MatchPass.overAttributes (rules.forAction narrow) bean selecting second infos).result
        answer = .ok other ∧ (other.isOver narrow = true ∨ related later other) := by
  induction infos generalizing first second with
  | nil =>
    cases well
    exact ⟨second, rfl, .inr relates⟩
  | cons info rest ih =>
    simp only [result_overAttributes_cons, MatchRules.forAction_context] at well ⊢
    cases taken : takenAs answer rules.context selecting ⟨bean, info⟩ with
    | error fault =>
      rw [taken] at well
      cases well
    | ok found =>
      rw [taken] at well
      dsimp only at well ⊢
      rw [if_neg (follows.goesOn _)] at well
      split
      · next ended => exact ⟨_, rfl, .inl (by simpa using ended)⟩
      · exact ih (follows.add relates _ found) well

/-- Attributes of a bean that nothing selects are of no interest to an action that lists no such. -/
theorem overUnselected (follows : Follows rules wide narrow related)
    (idle : narrow.listsUnmatched = false) (relates : related first second) {bean : Bean}
    {infos : List AttributeInfo}
    (well : (MatchPass.overAttributes (rules.forAction wide) bean [] first infos).result answer =
      .ok later) : related later second := by
  induction infos generalizing first with
  | nil =>
    cases well
    exact relates
  | cons info rest ih =>
    rw [result_overAttributes_cons, takenAs_nil] at well
    dsimp only at well
    rw [if_neg (follows.goesOn _)] at well
    exact ih (follows.skip idle relates _) well

/-- Passes over one bean stay side by side, whether it is of interest to both actions, to the listing alone,
or to none. -/
theorem overBean (follows : Follows rules wide narrow related) (relates : related first second)
    {bean : Bean} {selecting : List BeanMatch}
    (well : overBean answer (rules.forAction wide) bean selecting first = .ok later) :
    ∃ other, MatchPass.overBean answer (rules.forAction narrow) bean selecting second = .ok other ∧
      (other.isOver narrow = true ∨ related later other) := by
  unfold MatchPass.overBean at well ⊢
  by_cases skips : (selecting.isEmpty && !(rules.forAction narrow).action.listsUnmatched) = true
  · rw [if_pos skips]
    refine ⟨second, rfl, .inr ?_⟩
    obtain ⟨empty, idle⟩ := Bool.and_eq_true_iff.mp skips
    have empty : selecting = [] := List.isEmpty_iff.mp empty
    subst empty
    split at well
    · cases well
      exact relates
    · split at well
      · split at well
        · cases well
        · cases well
          exact relates
      · exact follows.overUnselected (by simpa using idle) relates well
  · have looks : ¬ (selecting.isEmpty && !(rules.forAction wide).action.listsUnmatched) = true := by
      intro passes
      obtain ⟨empty, idle⟩ := Bool.and_eq_true_iff.mp passes
      apply skips
      rw [empty, MatchRules.forAction_action]
      cases isListed : narrow.listsUnmatched with
      | true => simp [follows.covers isListed] at idle
      | false => rfl
    rw [if_neg skips]
    rw [if_neg looks] at well
    cases listed : answer (.attributes bean) with
    | error fault =>
      rw [listed] at well
      dsimp only at well ⊢
      split at well
      · cases well
      · next mild =>
        cases well
        exact ⟨second, if_neg mild, .inr relates⟩
    | ok infos =>
      rw [listed] at well
      exact follows.overAttributes relates well

/-- If a listing goes well, so does a pass over the same beans for the other action. -/
theorem overBeans (follows : Follows rules wide narrow related) (relates : related first second)
    (going : ¬ second.isOver (rules.forAction narrow).action = true) {beans : List Bean}
    (well : (overBeans (rules.forAction wide) first beans).result answer = .ok later) :
    ∃ other, (MatchPass.overBeans (rules.forAction narrow) second beans).result answer = .ok other ∧
      (other.isOver narrow = true ∨ related later other) := by
  induction beans generalizing first second with
  | nil =>
    cases well
    exact ⟨second, rfl, .inr relates⟩
  | cons bean rest ih =>
    rw [result_overBeans_bean _ (follows.goesOn first)] at well
    rw [result_overBeans_bean _ going]
    simp only [MatchRules.forAction_configurations, MatchRules.forAction_engine] at well ⊢
    split at well
    · cases well
    · split at well
      · cases well
      · split at well
        · cases well
        · next between passed =>
          obtain ⟨other, otherPassed, others⟩ := follows.overBean relates passed
          rw [if_neg (follows.goesOn _)] at well
          rw [otherPassed]
          dsimp only
          split
          · next ended => exact ⟨other, rfl, .inl ended⟩
          · next goes => exact ih (others.resolve_left goes) goes well

end Follows
end MatchPass
end BeanHarvest
