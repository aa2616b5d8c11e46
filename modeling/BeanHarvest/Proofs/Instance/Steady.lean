import BeanHarvest.Proofs.Instance.Collecting
import BeanHarvest.Proofs.Target.Promises

/-! Steady properties: what outlasts everything that is done with an instance. A property that is told by
what an instance is made of and what it has matched has to outlast passes, readings and droppings only;
then it is kept by all work on the instance, at every call to the target and at the end. -/
namespace BeanHarvest

namespace Instance

/-- Whether instances are made of the same and have matched the same. -/
structure Akin (one other : Instance) : Prop where
  settings : other.settings = one.settings := by rfl
  configurations : other.configurations = one.configurations := by rfl
  schedule : other.schedule = one.schedule := by rfl
  engine : other.engine = one.engine := by rfl
  isMatched : other.matched = one.matched := by rfl

/-- Whether a property is common to instances that are akin, and outlasts passes, readings and droppings,
if these are answered as promised. -/
structure Steady (promise : Promise) (kept : Instance → Prop) : Prop where
  congr : ∀ {one other : Instance}, kept one → one.Akin other → kept other
  drops : ∀ {one : Instance} {fewer : List MatchedAttribute}, kept one →
    fewer.Sublist one.matched → kept { one with matched := fewer }
  passes : ∀ {one : Instance} (action : Action), kept one →
    (MatchPass.overBeans (one.rules action) {} one.beans).YieldsUnder promise fun result =>
      ∀ pass, result = .ok pass → kept (one.withPass pass)
  reads : ∀ {one : Instance} {before rest : List MatchedAttribute} {bound : MatchedAttribute},
    kept one → one.matched = before ++ bound :: rest →
    bound.collect.YieldsUnder promise fun read =>
      kept { one with matched := before ++ read.2 :: rest }

section
variable {promise : Promise} {kept : Instance → Prop} {α β ε : Type}

theorem keepsUnder_followed {first : Operation Instance (Except ε α)}
    {next : α → Operation Instance (Except ε β)} (keeps : first.KeepsUnder promise kept)
    (rest : ∀ result, (next result).KeepsUnder promise kept) :
    (followed first next).KeepsUnder promise kept := by
  refine keeps.bind fun result => ?_
  cases result with
  | ok result => exact rest result
  | error fault => exact Operation.keepsUnder_pure _

theorem keepsUnder_connectedOr {work : Operation Instance (Except InstanceFault α)}
    (keeps : work.KeepsUnder promise kept) : (connectedOr work).KeepsUnder promise kept := by
  refine .bind Operation.keepsUnder_get fun one => ?_
  split
  · exact keeps
  · exact Operation.keepsUnder_pure _

end

namespace Steady

variable {promise : Promise} {kept : Instance → Prop}

/-- A change leaves alone what an instance is made of and what it has matched. -/
theorem modify (steady : Steady promise kept) {change : Instance → Instance}
    (akin : ∀ one, Akin one (change one)) : (Operation.modify change).KeepsUnder promise kept :=
  Operation.keepsUnder_modify fun one holds => steady.congr holds (akin one)

theorem connect (steady : Steady promise kept) (anew : Bool) :
    (connect anew).KeepsUnder promise kept := by
  refine .bind Operation.keepsUnder_get fun one => ?_
  split
  · exact Operation.keepsUnder_pure _
  · refine .bind (steady.modify fun _ => {}) fun _ => ?_
    split
    case' isTrue => refine .bind (Operation.keepsUnder_call _) fun _ => ?_
    all_goals
      refine .bind (Operation.keepsUnder_call _) fun outcome => ?_
      split
      · exact .bind (steady.modify fun _ => {})
          fun _ => Operation.keepsUnder_pure _
      · exact Operation.keepsUnder_pure _

theorem refreshBeans (steady : Steady promise kept) : refreshBeans.KeepsUnder promise kept := by
  refine keepsUnder_connectedOr (.bind Operation.keepsUnder_get fun one => ?_)
  refine .bind (Operation.keepsUnder_hold _) fun found => ?_
  split
  · exact Operation.keepsUnder_pure _
  · refine .bind Operation.keepsUnder_now fun now => ?_
    exact .bind (steady.modify fun _ => {})
      fun _ => Operation.keepsUnder_pure _

theorem matchAttributes (steady : Steady promise kept) (action : Action) :
    (matchAttributes action).KeepsUnder promise kept := by
  refine keepsUnder_connectedOr fun time one holds => ?_
  rw [Operation.get_bind]
  refine Operation.meetsUnder_hold_bind holds (steady.passes action holds) fun time result passed => ?_
  cases result with
  | error fault => exact holds
  | ok pass => exact passed pass rfl

theorem start (steady : Steady promise kept) (action : Action) (anew : Bool) :
    (start action anew).KeepsUnder promise kept := by
  refine keepsUnder_followed (steady.connect anew) fun _ => ?_
  refine .bind (steady.modify fun _ => {}) fun _ => ?_
  refine keepsUnder_followed steady.refreshBeans fun _ => ?_
  exact .bind (steady.modify fun _ => {})
    fun _ => steady.matchAttributes action

theorem init (steady : Steady promise kept) (action : Action) (anew : Bool) :
    (init action anew).KeepsUnder promise kept := by
  refine .bind (Operation.keepsUnder_modify fun one holds => ?_) fun _ => ?_
  · split
    · exact steady.congr holds {}
    · exact holds
  · refine .bind (steady.start action anew) fun result => ?_
    split
    · exact .bind (steady.modify fun _ => {})
        fun _ => Operation.keepsUnder_pure _
    · exact .bind (steady.modify fun _ => {})
        fun _ => Operation.keepsUnder_pure _

theorem refreshIfDue (steady : Steady promise kept) : refreshIfDue.KeepsUnder promise kept := by
  have refreshed : refresh.KeepsUnder promise kept := by
    refine keepsUnder_followed steady.refreshBeans fun _ => ?_
    exact .bind (steady.modify fun _ => {})
      fun _ => steady.matchAttributes _
  refine .bind Operation.keepsUnder_get fun one => .bind Operation.keepsUnder_now fun now => ?_
  split
  · refine .bind refreshed fun result => ?_
    split
    · exact Operation.keepsUnder_pure _
    · exact .bind (steady.modify fun _ => {})
        fun _ => Operation.keepsUnder_pure _
  · exact Operation.keepsUnder_pure _

/-- A collection reads one attribute after the other; the part in front is what was kept of it. -/
theorem collectAll (steady : Steady promise kept) {before list : List MatchedAttribute} {time : Nat}
    {one : Instance} (placed : one.matched = before ++ list) (holds : kept one) :
    (collectAll before list time one).MeetsUnder promise kept fun one _ => kept one := by
  induction list generalizing before time one with
  | nil => exact holds
  | cons bound rest ih =>
    refine Operation.meetsUnder_hold_bind holds (steady.reads holds placed) fun time read stays => ?_
    obtain ⟨result, after⟩ := read
    cases result with
    | ok metrics =>
      have next : kept (one.afterSuccess before after rest) := steady.congr stays {}
      exact (ih (afterSuccess_matched before rest after) next).andThen fun _ _ _ holds => holds
    | error fault =>
      dsimp only
      cases Failure.ofExtraction fault with
      | transient reason =>
        dsimp only
        rw [Operation.get_bind]
        by_cases known : one.failing.contains after.key = true
        · rw [if_pos known]
          have fewer : (before ++ rest).Sublist (before ++ after :: rest) :=
            (List.sublist_cons_self after rest).append_left before
          exact ih rfl (steady.congr (steady.drops stays fewer) {})
        · rw [if_neg known]
          exact ih (afterFirstFailure_matched before rest after)
            (steady.congr stays {})
      | _ => exact steady.congr stays {}

theorem collectMatched (steady : Steady promise kept) : collectMatched.KeepsUnder promise kept := by
  refine .bind Operation.keepsUnder_now fun now => ?_
  refine .bind (steady.modify fun _ => {}) fun _ => ?_
  intro time one holds
  rw [Operation.get_bind]
  refine (steady.collectAll rfl holds).andThen fun time one result holds => ?_
  cases result with
  | error fault => exact holds
  | ok metrics => exact steady.congr holds {}

theorem collect (steady : Steady promise kept) : collect.KeepsUnder promise kept :=
  keepsUnder_connectedOr (keepsUnder_followed steady.refreshIfDue fun _ => steady.collectMatched)

theorem cleanUp (steady : Steady promise kept) : cleanUp.KeepsUnder promise kept := by
  have forgotten : (Operation.modify cleared).KeepsUnder promise kept :=
    Operation.keepsUnder_modify fun one holds =>
      steady.congr (steady.drops holds (List.nil_sublist one.matched)) {}
  refine .bind Operation.keepsUnder_get fun one => ?_
  refine .bind (steady.modify fun _ => {}) fun _ => ?_
  split
  · exact .bind (Operation.keepsUnder_call _) fun _ => forgotten
  · exact forgotten

end Steady
end Instance

inductive InstanceCall where
  | init (action : Action) (anew : Bool)
  | collect
  | refreshBeans
  | matchAttributes (action : Action)
  | markBroken
  | cleanUp

def InstanceCall.work : InstanceCall → Operation Instance Unit
  | init action anew => do let _ ← Instance.init action anew
  | collect => do let _ ← Instance.collect
  | refreshBeans => do let _ ← Instance.refreshBeans
  | matchAttributes action => do let _ ← Instance.matchAttributes action
  | markBroken => Operation.modify Instance.markBroken
  | cleanUp => Instance.cleanUp

/-- How an instance and a target can be found after calls, each of which goes on from some time until it
ends or is cut short at a deadline. The target may serve others in between as long as it keeps its
promise. -/
inductive Target.Leads {τ : Type} (target : Target τ) (promise : Promise) (begun : Instance × τ) :
    Instance × τ → Prop where
  | begun : Leads target promise begun begun
  | called {one : Instance} {world : τ} (call : InstanceCall) (deadline : Option Nat) (time : Nat)
      (leads : Leads target promise begun (one, world)) :
      Leads target promise begun
        (Target.statesAfter (target.run deadline world time (call.work time one)))
  | meanwhile {one : Instance} {world other : τ} (honours : target.Honours promise other)
      (leads : Leads target promise begun (one, world)) : Leads target promise begun (one, other)

namespace Instance

variable {τ : Type} {target : Target τ} {promise : Promise} {kept : Instance → Prop}

theorem Steady.work (steady : Steady promise kept) (call : InstanceCall) :
    call.work.KeepsUnder promise kept := by
  cases call with
  | init action anew => exact .bind (steady.init action anew) fun _ => Operation.keepsUnder_pure _
  | collect => exact .bind steady.collect fun _ => Operation.keepsUnder_pure _
  | refreshBeans => exact .bind steady.refreshBeans fun _ => Operation.keepsUnder_pure _
  | matchAttributes action =>
    exact .bind (steady.matchAttributes action) fun _ => Operation.keepsUnder_pure _
  | markBroken => exact steady.modify fun _ => {}
  | cleanUp => exact steady.cleanUp

/-- Steady properties outlast whatever is done. -/
theorem Steady.leads (steady : Steady promise kept) {begun found : Instance × τ}
    (leads : target.Leads promise begun found) (holds : kept begun.1)
    (honours : target.Honours promise begun.2) :
    kept found.1 ∧ target.Honours promise found.2 := by
  induction leads with
  | begun => exact ⟨holds, honours⟩
  | @called one world call deadline time _ ih =>
    have met := target.run_met ih.2 (steady.work call time one ih.1) deadline time
    generalize target.run deadline world time (call.work time one) = course at met ⊢
    cases course with
    | ended last final after result => exact met
    | cut final after => exact met
  | meanwhile other _ ih => exact ⟨ih.1, other⟩

end Instance
end BeanHarvest
