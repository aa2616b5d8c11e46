import BeanHarvest.Agent.Running
import BeanHarvest.Crew.Processing
import BeanHarvest.Proofs.Instance.Origin

/-! Calls to the agent, one after the other, with everything that their tasks can come to. A crew
refuses a batch, or the tasks of the batch end on its floor in whatever order the events there have;
between two calls crews and instances are let go of or held by others. -/
namespace BeanHarvest

/-- How a turn on an instance can go. What is cancelled has not begun; what has timed out has not
begun, was cut short at a call, or was done too late; what panics leaves the instance anyhow, but
made of the same. -/
inductive Turn.CanBe {α : Type} (work : Operation Instance (Except InstanceFault α))
    (one : Instance) : Turn α → Prop where
  | completed {after : Instance} {result : Except InstanceFault α} (start : Nat)
      (ends : (work start one).CanEnd after result) : CanBe work one ⟨.completed result, after, false⟩
  | cancelled (isHeld : Bool) : CanBe work one ⟨.cancelled, one, isHeld⟩
  | waited (isHeld : Bool) : CanBe work one ⟨.timedOut, one, isHeld⟩
  | cutShort {after : Instance} (start : Nat) (isHeld : Bool)
      (stops : (work start one).CanStop after) : CanBe work one ⟨.timedOut, after, isHeld⟩
  | late {after : Instance} {result : Except InstanceFault α} (start : Nat) (isHeld : Bool)
      (ends : (work start one).CanEnd after result) : CanBe work one ⟨.timedOut, after, isHeld⟩
  | panicked (message : String) {after : Instance} (same : after.origin = one.origin) :
      CanBe work one ⟨.panicked message, after, false⟩

/-- The floor on which a crew takes on a batch of so many tasks, after some events. -/
def Crew.floorAfter {α : Type} (crew : Crew) (count : Nat)
    (events : List (FloorEvent (Except InstanceFault α))) : Floor (Except InstanceFault α) :=
  ((⟨crew, []⟩ : Floor (Except InstanceFault α)).enlist count).steps events

/-- What can become of a batch in the hands of a crew, and of the crew. A batch that is not refused is
over when all its tasks have ended; every handle then has a turn with the ending of its task. -/
inductive Crew.Performs {α : Type} (crew : Crew)
    (work : Operation Instance (Except InstanceFault α)) (batch : List Handle) :
    BatchOutcome α → Crew → Prop where
  | refused {refusal : Refusal} (found : crew.refusal? = some refusal) :
      Performs crew work batch (.error refusal) crew
  | performed {turns : List (Turn α)} (accepted : crew.refusal? = none)
      (events : List (FloorEvent (Except InstanceFault α)))
      (finished : (crew.floorAfter batch.length events).endings? 0 batch.length =
        some (turns.map (·.ending)))
      (possible : ∀ entry ∈ batch.zip turns, entry.2.CanBe work entry.1.one) :
      Performs crew work batch (.ok turns) (crew.floorAfter batch.length events).crew

/-- A crew of idle workers does the only task of a batch, and is idle again. -/
theorem Crew.performs_alone {α : Type} {work : Operation Instance (Except InstanceFault α)}
    {handle : Handle} {after : Instance} {result : Except InstanceFault α} {start : Nat}
    (name : String) (size : Nat) (ends : (work start handle.one).CanEnd after result) :
    (Crew.ofSize name (size + 1)).Performs work [handle] (.ok [⟨.completed result, after, false⟩])
      (Crew.ofSize name (size + 1)) := by
  refine .performed rfl [.start 0, .finish 0 result] rfl ?_
  intro entry member
  cases List.mem_singleton.mp member
  exact .completed start ends

inductive AgentCall where
  | init
  | iterate
  | recover
  | cleanUp
  | list (action : Action)
deriving DecidableEq, Repr

namespace Agent

/-- The agent after its recovery crew has dealt with a batch, and what the tasks came to. -/
inductive Recovers {α : Type} (agent : Agent)
    (work : Operation Instance (Except InstanceFault α)) (batch : List Handle) :
    List (Handle × Status α) → Agent → Prop where
  | mk {outcome : BatchOutcome α} {crew : Crew}
      (performed : agent.recovery.Performs work batch outcome crew) :
      Recovers agent work batch (outcome.statuses agent.recoveryTimeout batch)
        { agent with recovery := crew }

/-- An iteration that begins at some time, given what its batch came to and the collection crew behind
the batch. -/
def iterated (agent : Agent) (now : Nat) (stampOf : (name : String) → Int)
    (outcome : BatchOutcome Collected) (collection : Crew) : Agent × Summary × List Report :=
  let (begun, plan) := agent.beginIteration now
  { begun with collection }.finishIteration stampOf plan outcome

def dueAt (agent : Agent) (now : Nat) : List Handle := agent.active.filter (isDue now)

inductive Answers (agent : Agent) : AgentCall → Agent → Prop where
  | init {statuses : List (Handle × Status Unit)} {waited : Agent}
      (recovers : agent.beginInit.1.Recovers initWork agent.beginInit.2 statuses waited) :
      Answers agent .init (waited.finishInit statuses).1
  | iterate (now : Nat) (stampOf : (name : String) → Int) {outcome : BatchOutcome Collected}
      {crew : Crew}
      (performed : agent.collection.ensureHealthy.Performs collectWork (agent.dueAt now) outcome
        crew) :
      Answers agent .iterate (agent.iterated now stampOf outcome crew).1
  | nothingToRecover (empty : agent.broken = []) : Answers agent .recover agent
  | recover (shuffle : List Handle → List Handle)
      (shuffled : (shuffle agent.broken).Perm agent.broken)
      {statuses : List (Handle × Status Unit)} {waited : Agent}
      (recovers : (agent.beginRecovery shuffle).1.Recovers recoveryWork
        (agent.beginRecovery shuffle).2 statuses waited) :
      Answers agent .recover (waited.finishRecovery statuses).1
  | cleanUp {statuses : List (Handle × Status Unit)} {waited : Agent}
      (recovers : agent.beginCleanUp.1.Recovers cleanUpWork agent.beginCleanUp.2 statuses waited) :
      Answers agent .cleanUp (waited.finishCleanUp statuses)
  | list (action : Action) {statuses : List (Handle × Status MatchReport)} {waited : Agent}
      (recovers : agent.beginList.1.Recovers (listWork action) agent.beginList.2 statuses waited) :
      Answers agent (.list action) (waited.finishList statuses).1

def gripped (agent : Agent) (isHeld : Handle → Bool) : Agent :=
  let grip := fun handle : Handle => { handle with isHeld := isHeld handle }
  { agent with
    pending := agent.pending.map grip
    active := agent.active.map grip
    broken := agent.broken.map grip }

/-- What can happen to an agent that nothing is asked of: others hold instances or let go of them,
aborted tasks leave the crews, and the collection crew is given orders. -/
inductive Idles (agent : Agent) : Agent → Prop where
  | gripped (isHeld : Handle → Bool) : Idles agent (agent.gripped isHeld)
  | drained : Idles agent { agent with
      collection := agent.collection.drain, recovery := agent.recovery.drain }
  | ordered (order : Order) : Idles agent { agent with collection := agent.collection.obey order }

/-- The agents that some settings lead to, with the calls that were answered on the way. -/
inductive Run (engine : Pattern.Engine) (settings : Settings) : List AgentCall → Agent → Prop where
  | start : Run engine settings [] (ofSettings engine settings)
  | call {calls : List AgentCall} {agent after : Agent} {call : AgentCall}
      (run : Run engine settings calls agent) (answered : agent.Answers call after) :
      Run engine settings (calls ++ [call]) after
  | idle {calls : List AgentCall} {agent after : Agent} (run : Run engine settings calls agent)
      (idled : agent.Idles after) : Run engine settings calls after

end Agent
end BeanHarvest
