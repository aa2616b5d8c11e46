import BeanHarvest.Agent.Iteration
import BeanHarvest.Agent.Recovery
import BeanHarvest.Proofs.Instance.Starting
import BeanHarvest.Proofs.Target.Clock

/-! When collections begin. A task to collect may refresh the instance first; the collection begins when
that is done, and the instance is stamped with the time. Nothing else touches the stamp. -/
namespace BeanHarvest

/-- Whether the latest collection from an instance began at some time. -/
abbrev Instance.LastBegan (last : Option Nat) (one : Instance) : Prop := one.lastCollection = last

namespace Operation

variable {α β : Type} {kept : Instance → Prop}

theorem Clocked.followed {first : Operation Instance (Except InstanceFault α)}
    {next : α → Operation Instance (Except InstanceFault β)} (clocked : first.Clocked kept)
    (rest : ∀ result, (next result).Clocked kept) :
    (Instance.followed first next).Clocked kept := by
  refine clocked.bind fun result => ?_
  cases result with
  | ok result => exact rest result
  | error fault => exact clocked_pure _

theorem Clocked.connectedOr {work : Operation Instance (Except InstanceFault α)}
    (clocked : work.Clocked kept) : (Instance.connectedOr work).Clocked kept := by
  refine clocked_get.bind fun one => ?_
  split
  · exact clocked
  · exact clocked_pure _

end Operation

namespace Instance

open Operation

variable {last : Option Nat} {one after : Instance} {now time : Nat}

/-- A change that leaves the stamp alone, and what is done then. -/
theorem clocked_modify_then {α : Type} {change : Instance → Instance} {rest : Operation Instance α}
    (same : ∀ one, (change one).lastCollection = one.lastCollection)
    (clocked : rest.Clocked (LastBegan last)) :
    (Operation.modify change >>= fun _ => rest).Clocked (LastBegan last) :=
  (clocked_modify fun one began => (same one).trans began).bind fun _ => clocked

theorem connect_clocked (anew : Bool) : (connect anew).Clocked (LastBegan last) := by
  refine clocked_get.bind fun one => ?_
  split
  · exact clocked_pure _
  · refine clocked_modify_then (fun _ => rfl) ?_
    split
    case' isTrue => refine (clocked_call _).bind fun _ => ?_
    all_goals
      refine (clocked_call _).bind fun outcome => ?_
      split
      · exact clocked_modify_then (fun _ => rfl) (clocked_pure _)
      · exact clocked_pure _

theorem refreshBeans_clocked : refreshBeans.Clocked (LastBegan last) := by
  refine .connectedOr (clocked_get.bind fun one => (clocked_hold _).bind fun found => ?_)
  split
  · exact clocked_pure _
  · exact clocked_now.bind fun now => clocked_modify_then (fun _ => rfl) (clocked_pure _)

theorem matchAttributes_clocked (action : Action) :
    (matchAttributes action).Clocked (LastBegan last) := by
  refine .connectedOr (clocked_get.bind fun one => (clocked_hold _).bind fun result => ?_)
  split
  · exact clocked_pure _
  · exact clocked_modify_then (fun _ => rfl) (clocked_pure _)

theorem start_clocked (action : Action) (anew : Bool) :
    (start action anew).Clocked (LastBegan last) := by
  refine (connect_clocked anew).followed fun _ => clocked_modify_then (fun _ => rfl) ?_
  refine refreshBeans_clocked.followed fun _ => clocked_modify_then (fun _ => rfl) ?_
  exact matchAttributes_clocked action

theorem init_clocked (action : Action) (anew : Bool) :
    (init action anew).Clocked (LastBegan last) := by
  refine clocked_modify_then (fun one => ?_) ((start_clocked action anew).bind fun result => ?_)
  · split <;> rfl
  · split
    all_goals exact clocked_modify_then (fun _ => rfl) (clocked_pure _)

theorem refreshIfDue_clocked : refreshIfDue.Clocked (LastBegan last) := by
  have refreshed : refresh.Clocked (LastBegan last) := refreshBeans_clocked.followed fun _ =>
    clocked_modify_then (fun _ => rfl) (matchAttributes_clocked _)
  refine clocked_get.bind fun one => clocked_now.bind fun now => ?_
  split
  · refine refreshed.bind fun result => ?_
    split
    · exact clocked_pure _
    · exact clocked_modify_then (fun _ => rfl) (clocked_pure _)
  · exact clocked_pure _

theorem collectAll_clocked (before list : List MatchedAttribute) :
    (collectAll before list).Clocked (LastBegan last) := by
  induction list generalizing before with
  | nil => exact clocked_pure _
  | cons bound rest ih =>
    refine (clocked_hold _).bind fun read => ?_
    obtain ⟨result, after⟩ := read
    cases result with
    | ok metrics => exact clocked_modify_then (fun _ => rfl) ((ih _).bind fun _ => clocked_pure _)
    | error fault =>
      dsimp only
      split
      · refine clocked_get.bind fun one => ?_
        split
        all_goals exact clocked_modify_then (fun _ => rfl) (ih _)
      · exact clocked_modify_then (fun _ => rfl) (clocked_pure _)

theorem cleanUp_clocked : cleanUp.Clocked (LastBegan last) := by
  have forgotten : (Operation.modify cleared).Clocked (LastBegan last) :=
    clocked_modify fun _ began => began
  refine clocked_get.bind fun one => clocked_modify_then (fun _ => rfl) ?_
  split
  · exact (clocked_call _).bind fun _ => forgotten
  · exact forgotten

/-- A collection stamps the instance at once, and the stamp stays. -/
theorem collectMatched_clocked (time : Nat) (one : Instance) :
    (collectMatched time one).Clocked (LastBegan (some time)) time := by
  have rest : Operation.Clocked (LastBegan (some time)) (Operation.get >>= fun one : Instance =>
      followed (collectAll [] one.matched) fun metrics => do
        Operation.modify ({ · with phase := .ready })
        pure (.ok metrics)) :=
    clocked_get.bind fun one => (collectAll_clocked [] _).followed fun _ =>
      clocked_modify_then (fun _ => rfl) (clocked_pure _)
  exact rest time { one with phase := .collecting, lastCollection := some time } rfl

/-- A task to collect only adds to the metrics whether there would have been more. -/
theorem collectWork_eq (time : Nat) (one : Instance) : Agent.collectWork time one =
    (collect time one).andThen fun time after result =>
      .done time after (result.map fun metrics => ⟨metrics, after.limitReached⟩) := rfl

/-- How a task to collect that has begun at some time can leave the instance, and when it began a
collection meanwhile: never if there is no connection, or if the refresh is cut short or goes wrong. -/
inductive Collecting (one : Instance) (begun : Nat) : List Nat → Instance → Prop where
  | unconnected (isOff : one.isConnected = false) : Collecting one begun [] one
  | refreshing {after : Instance} (isOn : one.isConnected = true)
      (stops : (refreshIfDue begun one).StopsFrom begun after) : Collecting one begun [] after
  | unrefreshed {time : Nat} {after : Instance} {fault : InstanceFault}
      (isOn : one.isConnected = true)
      (failed : (refreshIfDue begun one).EndsFrom begun time after (.error fault)) :
      Collecting one begun [] after
  | collecting {time : Nat} {between after : Instance} (isOn : one.isConnected = true)
      (refreshed : (refreshIfDue begun one).EndsFrom begun time between (.ok ()))
      (leaves : (collectMatched time between).LeavesFrom time after) :
      Collecting one begun [time] after

/-- However a task to collect leaves the instance, that is one of the ways. -/
theorem collecting_of_leaves (leaves : (Agent.collectWork now one).LeavesFrom now after) :
    ∃ starts, one.Collecting now starts after := by
  rw [collectWork_eq] at leaves
  have left := leaves.of_done
  by_cases isOn : one.isConnected = true
  · rw [collect, connectedOr_of_connected isOn] at left
    have clocked := refreshIfDue_clocked now one (rfl : one.LastBegan one.lastCollection)
    rcases left.andThen_inv clocked with stops | ⟨time, between, result, ends, left⟩
    · exact ⟨[], .refreshing isOn stops⟩
    · cases result with
      | ok done => exact ⟨[time], .collecting isOn ends left⟩
      | error fault =>
        cases left
        exact ⟨[], .unrefreshed isOn ends⟩
  · rw [collect, connectedOr_of_unconnected isOn] at left
    cases left
    exact ⟨[], .unconnected (Bool.eq_false_iff.mpr isOn)⟩

/-- What a task leaves of a stamp, and when it began a collection, if not before some time. -/
inductive Stamped (one : Instance) (now : Nat) : List Nat → Instance → Prop where
  | never {after : Instance} (same : after.lastCollection = one.lastCollection) :
      Stamped one now [] after
  | once {start : Nat} {after : Instance} (later : now ≤ start)
      (stamp : after.lastCollection = some start) : Stamped one now [start] after

theorem Collecting.stamped {starts : List Nat} (collecting : one.Collecting time starts after)
    (later : now ≤ time) : one.Stamped now starts after := by
  have clocked := refreshIfDue_clocked time one (rfl : one.LastBegan one.lastCollection)
  cases collecting with
  | unconnected => exact .never rfl
  | refreshing _ stops => exact .never (stops.inv clocked)
  | unrefreshed _ failed => exact .never (failed.inv clocked).2
  | collecting _ refreshed leaves =>
    exact .once (Nat.le_trans later (refreshed.inv clocked).1) (leaves.inv (collectMatched_clocked _ _))

theorem Stamped.congr {between : Instance} {starts : List Nat} (stamped : one.Stamped now starts between)
    (same : after.lastCollection = between.lastCollection) : one.Stamped now starts after := by
  cases stamped with
  | never kept => exact .never (same.trans kept)
  | once later stamp => exact .once later (same.trans stamp)

end Instance

namespace Agent

open Operation

theorem cleanUpWork_clocked {last : Option Nat} :
    cleanUpWork.Clocked (Instance.LastBegan last) :=
  Instance.cleanUp_clocked.bind fun _ => clocked_pure _

theorem listWork_clocked (action : Action) {last : Option Nat} :
    (listWork action).Clocked (Instance.LastBegan last) := by
  refine (Instance.init_clocked action false).bind fun result => clocked_get.bind fun one => ?_
  exact Instance.cleanUp_clocked.bind fun _ => clocked_pure _

end Agent
end BeanHarvest
