import BeanHarvest.Agent.Iteration
import BeanHarvest.Agent.Recovery
import BeanHarvest.Crew.Shift
import BeanHarvest.Target.Basic

namespace BeanHarvest

/-- What is around an agent: the targets of the instances by name, the time, and orders that are going
to be given to the collection crew. -/
structure Surroundings (τ : Type) where
  target : Target τ
  worlds : Keyed τ
  absent : (name : String) → τ
  time : Nat := 0
  orders : List (Nat × Order) := []

namespace Surroundings

variable {τ : Type}

def world (around : Surroundings τ) (name : String) : τ :=
  (Keyed.get? around.worlds name).getD (around.absent name)

def withWorld (around : Surroundings τ) (name : String) (world : τ) : Surroundings τ :=
  if (Keyed.get? around.worlds name).isSome then
    { around with worlds := Keyed.insert around.worlds name world }
  else around

/-- How work on an instance goes from some time on, up to a deadline. -/
def course {α : Type} (around : Surroundings τ) (deadline : Option Nat) (start : Nat)
    (handle : Handle) (work : Operation Instance α) : Course Instance τ α :=
  around.target.run deadline (around.world handle.name) start (work start handle.one)

def duty {α : Type} (around : Surroundings τ)
    (work : Operation Instance (Except InstanceFault α)) (handle : Handle) :
    Duty (Except InstanceFault α) := fun start =>
  match around.course none start handle work with
  | .ended time _ _ result => some (time, .ok result)
  | .cut .. => none

/-- What became of an instance whose task ended somehow, and its target after that. -/
def turn {α : Type} (around : Surroundings τ) (deadline : Nat)
    (work : Operation Instance (Except InstanceFault α)) (handle : Handle)
    (started : Option Nat) (ending : Ending (Except InstanceFault α)) :
    Turn α × τ :=
  match started, ending with
  | none, _ => (⟨ending, handle.one, false⟩, around.world handle.name)
  | some start, .timedOut =>
    let (one, world) := Target.statesAfter (around.course (some deadline) start handle work)
    (⟨ending, one, true⟩, world)
  | some start, _ =>
    let (one, world) := Target.statesAfter (around.course none start handle work)
    (⟨ending, one, false⟩, world)

def turns {α : Type} (around : Surroundings τ) (deadline : Nat)
    (work : Operation Instance (Except InstanceFault α))
    (started : List (RunningTask (Except InstanceFault α))) :
    (place : Nat) → List Handle → List (Ending (Except InstanceFault α)) →
      List (Turn α) × Surroundings τ
  | place, handle :: batch, ending :: endings =>
    let start := (started.find? (·.place = place)).map (·.started)
    let (turn, world) := around.turn deadline work handle start ending
    let (others, around) :=
      turns (around.withWorld handle.name world) deadline work started (place + 1) batch endings
    (turn :: others, around)
  | _, _, _ => ([], around)

/-- Have a crew do work on the instances of a batch; `orders` may reach the crew meanwhile. -/
def perform {α : Type} (around : Surroundings τ) (crew : Crew) (orders : List (Nat × Order))
    (timeout : Nat) (work : Operation Instance (Except InstanceFault α)) (batch : List Handle) :
    BatchOutcome α × Crew × List (Nat × Order) × Surroundings τ :=
  match (Shift.ofCrew crew around.time orders).submit (batch.map (around.duty work)) timeout with
  | .error refusal => (.error refusal, crew, orders, around)
  | .ok shift =>
    let shift := shift.await 0
    let (turns, after) := around.turns (around.time + timeout) work shift.started 0 batch
      ((shift.endings? 0).getD [])
    (.ok turns, shift.floor.crew, shift.orders, { after with time := shift.time })

end Surroundings

namespace Crew

def obey (crew : Crew) : Order → Crew
  | .shutdown => crew.shutdown
  | .reset => crew.reset

end Crew

structure Scene (τ : Type) where
  agent : Agent
  around : Surroundings τ

namespace Scene

variable {τ : Type}

/-- Give the orders that are due to the collection crew. -/
def obeyed (scene : Scene τ) : Scene τ :=
  let isDue := fun order : Nat × Order => order.1 ≤ scene.around.time
  let due := (scene.around.orders.filter isDue).mergeSort fun a b => a.1 ≤ b.1
  { agent := { scene.agent with
      collection := due.foldl (fun crew order => crew.obey order.2) scene.agent.collection }
    around := { scene.around with orders := scene.around.orders.filter (!isDue ·) } }

/-- Let everything happen that happens without time going by. -/
def settled (scene : Scene τ) : Scene τ :=
  let scene := scene.obeyed
  { scene with agent := scene.agent.drained }

def wait (scene : Scene τ) (duration : Nat) : Scene τ :=
  settled { scene with around := { scene.around with time := scene.around.time + duration } }

def recover {α : Type} (scene : Scene τ) (work : Operation Instance (Except InstanceFault α))
    (batch : List Handle) : Scene τ × List (Handle × Status α) :=
  let agent := scene.agent
  let (outcome, recovery, _, around) :=
    scene.around.perform agent.recovery [] agent.recoveryTimeout work batch
  (obeyed ⟨{ agent with recovery }, around⟩, outcome.statuses agent.recoveryTimeout batch)

/-- Start the pending instances; how many are active then. -/
def init (scene : Scene τ) : Scene τ × Nat × List Report :=
  let (agent, batch) := scene.agent.beginInit
  let (scene, statuses) := recover { scene with agent } Agent.initWork batch
  let (agent, reports) := scene.agent.finishInit statuses
  ({ scene with agent }, agent.active.length, reports)

/-- Restart the broken instances; how many are active again. -/
def processRecovery (scene : Scene τ) : Scene τ × Nat × List Report :=
  if scene.agent.broken.isEmpty then (scene, 0, [])
  else
    let (agent, batch) := scene.agent.beginRecovery id
    let (scene, statuses) := recover { scene with agent } Agent.recoveryWork batch
    let (agent, reports) := scene.agent.finishRecovery statuses
    ({ scene with agent }, (Agent.succeeded statuses).length, reports)

def cleanUp (scene : Scene τ) : Scene τ :=
  let (agent, batch) := scene.agent.beginCleanUp
  let (scene, statuses) := recover { scene with agent } Agent.cleanUpWork batch
  { scene with agent := scene.agent.finishCleanUp statuses }

/-- List the attributes of the pending instances. -/
def list (scene : Scene τ) (action : Action) : Scene τ × List Listing :=
  let (agent, batch) := scene.agent.beginList
  let (scene, statuses) := recover { scene with agent } (Agent.listWork action) batch
  let (agent, listings) := scene.agent.finishList statuses
  ({ scene with agent }, listings)

/-- Collect every instance that is due; `stamp` is the time of the points. -/
def iterate (scene : Scene τ) (stamp : Int) : Scene τ × Summary × List Report :=
  let (agent, plan) := scene.agent.beginIteration scene.around.time
  let (outcome, collection, orders, around) :=
    scene.around.perform agent.collection scene.around.orders agent.collectionTimeout
      Agent.collectWork (Agent.due plan)
  let (agent, summary, reports) :=
    { agent with collection }.finishIteration (fun _ => stamp) plan outcome
  (⟨agent, { around with orders }⟩, summary, reports)

/-- When the next of some ticks comes that is waited for at a time: ticks are a period apart, but one
that comes more than five milliseconds late puts the next one off. -/
def tickAfter (period tick now : Nat) : Nat :=
  if tick + 5 < now then now + period else tick + period

def iterateUntil (stampOf : (iteration : Nat) → Int) (last period : Nat) :
    (fuel tick : Nat) → Scene τ → List Report → Scene τ × List Report
  | 0, _, scene, reports => (scene, reports)
  | fuel + 1, tick, scene, reports =>
    let now := scene.around.time
    if last ≤ max now tick then (scene.wait (last - now), reports)
    else
      let scene := scene.wait (tick - now)
      let (iterated, _, points) := scene.iterate (stampOf (scene.agent.iteration + 1))
      let (recovered, _, checks) := iterated.processRecovery
      iterateUntil stampOf last period fuel (tickAfter period tick scene.around.time)
        recovered (reports ++ points ++ checks)

/-- Start, iterate for some time, and clean up. Ticks that are no time apart cannot be waited for: that
ends in a panic. -/
def run? (scene : Scene τ) (stampOf : (iteration : Nat) → Int) (duration : Nat) :
    Option (Scene τ × List Report) :=
  let last := scene.around.time + duration
  let period := scene.agent.settings.shared.checkPeriod
  let (started, _, checks) := scene.init
  if period = 0 then none
  else
    let (ended, reports) :=
      iterateUntil stampOf last period (duration + 1) started.around.time started []
    some (ended.cleanUp, checks ++ reports)

end Scene
end BeanHarvest
