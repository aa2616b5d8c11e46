import BeanHarvest.Agent.Iteration
import BeanHarvest.Agent.Recovery
import BeanHarvest.Proofs.Instance.Steady

/-! What an instance was made of stays with it: nothing that the agent has done to an instance changes
its settings, its configurations or its schedule. -/
namespace BeanHarvest

/-- The instance as it was before anything was done with it. -/
def Instance.origin (one : Instance) : Instance where
  settings := one.settings
  configurations := one.configurations
  schedule := one.schedule
  engine := one.engine

/-- The handle as it was before anything was done with its instance. -/
def Handle.origin (handle : Handle) : Handle :=
  { handle with one := handle.one.origin, isHeld := false }

namespace Handle

variable {first handle : Handle}

theorem name_eq_of_origin (same : first.origin = handle.origin) : first.name = handle.name :=
  (congrArg Handle.name same :)

theorem schedule_eq_of_origin (same : first.origin = handle.origin) :
    first.one.schedule = handle.one.schedule :=
  (congrArg (fun handle : Handle => handle.one.schedule) same :)

theorem made_of_origin {engine : Pattern.Engine} {settings : Settings} {given : InstanceSettings}
    (same : handle.origin = Handle.ofInstance (Instance.ofSettings engine settings given)) :
    handle.name = given.name ∧ handle.one.settings = given ∧
      handle.one.schedule = settings.schedule given :=
  ⟨(congrArg Handle.name same :), (congrArg (fun handle : Handle => handle.one.settings) same :),
    (congrArg (fun handle : Handle => handle.one.schedule) same :)⟩

end Handle

namespace Instance

variable {first : Instance}

/-- Whether an instance is made of the same as another one. -/
abbrev SameOrigin (first one : Instance) : Prop := one.origin = first.origin

/-- What an instance is made of outlasts everything, whatever the target answers. -/
theorem origin_steady : Steady (fun _ _ => True) (SameOrigin first) where
  congr := by
    intro one other same akin
    unfold SameOrigin origin at same ⊢
    rw [akin.settings, akin.configurations, akin.schedule, akin.engine]
    exact same
  drops := fun same _ => same
  passes := fun _ same => Dialogue.yieldsUnder_of_forall fun _ _ _ => same
  reads := fun same _ => Dialogue.yieldsUnder_of_forall fun _ => same

theorem refreshBeans_keeps_origin : refreshBeans.Keeps (SameOrigin first) :=
  Operation.keeps_of_under origin_steady.refreshBeans

theorem matchAttributes_keeps_origin (action : Action) :
    (matchAttributes action).Keeps (SameOrigin first) :=
  Operation.keeps_of_under (origin_steady.matchAttributes action)

theorem init_keeps_origin (action : Action) (anew : Bool) :
    (init action anew).Keeps (SameOrigin first) :=
  Operation.keeps_of_under (origin_steady.init action anew)

theorem collect_keeps_origin : collect.Keeps (SameOrigin first) :=
  Operation.keeps_of_under origin_steady.collect

theorem cleanUp_keeps_origin : cleanUp.Keeps (SameOrigin first) :=
  Operation.keeps_of_under origin_steady.cleanUp

end Instance

namespace Agent

variable {first : Instance}

theorem collectWork_keeps_origin : collectWork.Keeps (Instance.SameOrigin first) := by
  refine .bind Instance.collect_keeps_origin fun result => ?_
  exact .bind Operation.keeps_get fun one => Operation.keeps_pure _

theorem cleanUpWork_keeps_origin : cleanUpWork.Keeps (Instance.SameOrigin first) :=
  .bind Instance.cleanUp_keeps_origin fun _ => Operation.keeps_pure _

theorem listWork_keeps_origin (action : Action) :
    (listWork action).Keeps (Instance.SameOrigin first) := by
  refine .bind (Instance.init_keeps_origin action false) fun result => ?_
  refine .bind Operation.keeps_get fun one => ?_
  exact .bind Instance.cleanUp_keeps_origin fun _ => Operation.keeps_pure _

end Agent
end BeanHarvest
