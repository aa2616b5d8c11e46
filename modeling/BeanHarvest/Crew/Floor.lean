import BeanHarvest.Crew.Basic

/-! The floor: a crew and the tasks that it was given, and what can happen there. -/
namespace BeanHarvest

inductive Ending (α : Type) where
  | completed (result : α)
  | panicked (message : String)
  | cancelled
  | timedOut
deriving DecidableEq, Repr, Inhabited

/-- Where a task stands. It waits for a worker, has one, is counted as well, is not counted any more,
and has given the worker back. -/
inductive Stage (α : Type) where
  | waiting
  | engaged
  | running
  | retiring (ending : Ending α)
  | ended (ending : Ending α)
deriving DecidableEq, Repr, Inhabited

namespace Stage

def isWaiting {α : Type} : Stage α → Bool
  | waiting => true
  | _ => false

def isRunning {α : Type} : Stage α → Bool
  | running => true
  | _ => false

def hasWorker {α : Type} : Stage α → Bool
  | waiting | ended _ => false
  | _ => true

def ending? {α : Type} : Stage α → Option (Ending α)
  | ended ending => some ending
  | _ => none

/-- What a task has come to, even if it still has its worker. -/
def outcome? {α : Type} : Stage α → Option (Ending α)
  | retiring ending | ended ending => some ending
  | _ => none

end Stage

inductive TaskStep (α : Type) where
  | engage
  | count
  | conclude (result : α)
  | unwind (message : String)
  | release
  | cancel
  | abort
deriving DecidableEq, Repr, Inhabited

/-- The stage and the pool of a task after a step; nothing if the step cannot be. A task that waits for
a closed pool is cancelled. An aborted task has ended, and is a straggler of its pool. -/
def TaskStep.after? {α : Type} (pool : Pool) : TaskStep α → Stage α → Option (Stage α × Pool)
  | engage, .waiting =>
    if 0 < pool.idle ∧ !pool.isClosed then some (.engaged, pool.engage) else none
  | count, .engaged => some (.running, pool.count)
  | conclude result, .running => some (.retiring (.completed result), pool.uncount)
  | unwind message, .running => some (.retiring (.panicked message), pool.uncount)
  | release, .retiring ending => some (.ended ending, pool.release)
  | cancel, .waiting => if pool.isClosed then some (.ended .cancelled, pool) else none
  | abort, .waiting => some (.ended .timedOut, { pool with late := pool.late + 1 })
  | abort, .engaged => some (.ended .timedOut, { pool with entering := pool.entering + 1 })
  | abort, .running => some (.ended .timedOut, { pool with leaving := pool.leaving + 1 })
  | abort, .retiring _ => some (.ended .timedOut, { pool with parting := pool.parting + 1 })
  | _, _ => none

/-- The stage and the pool of a task after steps between which nothing else happens. -/
def TaskStep.afterAll? {α : Type} (pool : Pool) (stage : Stage α) :
    List (TaskStep α) → Option (Stage α × Pool)
  | [] => some (stage, pool)
  | step :: rest => (step.after? pool stage).bind fun next => afterAll? next.2 next.1 rest

/-- A task, with the number of the pool from which it has its worker. -/
structure FloorTask (α : Type) where
  pool : Nat
  stage : Stage α

/-- A crew and its tasks, which are known by their places. -/
structure Floor (α : Type) where
  crew : Crew
  tasks : List (FloorTask α) := []

/-- What can happen: what a task, a straggler or an order does at one stroke, and what comes of several
strokes between which nothing else happens. -/
inductive FloorEvent (α : Type) where
  | spawn (pool : Nat)
  | task (task : Nat) (step : TaskStep α)
  | straggler (pool : Nat) (step : StragglerStep)
  | stop
  | close (pool : Nat)
  | renew
  | resume
  | enlist (count : Nat)
  | start (task : Nat)
  | finish (task : Nat) (result : α)
  | panic (task : Nat) (message : String)
  | cancel (task : Nat)
  | abort (task : Nat)
  | drain
  | shutdown
  | reset

namespace Floor

variable {α : Type}

def opened (name : String) (size : Nat) : Floor α := { crew := Crew.ofSize name size }

/-- Give so many tasks to the pool of a number. -/
def spawn (floor : Floor α) (number count : Nat) : Floor α :=
  { floor with tasks := floor.tasks ++ List.replicate count ⟨number, .waiting⟩ }

/-- Put a task to another stage, and another pool at the number of its pool. -/
def move (floor : Floor α) (place : Nat) (task : FloorTask α) (stage : Stage α) (pool : Pool) :
    Floor α where
  crew := floor.crew.withPool task.pool pool
  tasks := floor.tasks.set place { task with stage }

/-- The steps of the task at a place, or nothing if one of them cannot be. -/
def advance (floor : Floor α) (place : Nat) (steps : List (TaskStep α)) : Floor α :=
  match floor.tasks[place]? with
  | some task =>
    match (floor.crew.pool? task.pool).bind fun pool => TaskStep.afterAll? pool task.stage steps with
    | some (stage, pool) => floor.move place task stage pool
    | none => floor
  | none => floor

def adjust (floor : Floor α) (number : Nat) (change? : Pool → Option Pool) : Floor α :=
  match (floor.crew.pool? number).bind change? with
  | some pool => { floor with crew := floor.crew.withPool number pool }
  | none => floor

/-- Take on so many tasks, unless the crew refuses. -/
def enlist (floor : Floor α) (count : Nat) : Floor α :=
  match floor.crew.refusal? with
  | some _ => floor
  | none => floor.spawn floor.crew.poolNumber count

/-- What an event makes of the floor. An event that cannot be makes nothing of it. -/
def step (floor : Floor α) : FloorEvent α → Floor α
  | .spawn number => if number ≤ floor.crew.poolNumber then floor.spawn number 1 else floor
  | .task place step => floor.advance place [step]
  | .straggler number step => floor.adjust number step.after?
  | .stop => { floor with crew := floor.crew.stop }
  | .close number => floor.adjust number (some ·.close)
  | .renew => { floor with crew := floor.crew.renew }
  | .resume => { floor with crew := floor.crew.resume }
  | .enlist count => floor.enlist count
  | .start place => floor.advance place [.engage, .count]
  | .finish place result => floor.advance place [.conclude result, .release]
  | .panic place message => floor.advance place [.unwind message, .release]
  | .cancel place => floor.advance place [.cancel]
  | .abort place => floor.advance place [.abort]
  | .drain => { floor with crew := floor.crew.drain }
  | .shutdown => { floor with crew := floor.crew.shutdown }
  | .reset => { floor with crew := floor.crew.reset }

def steps (floor : Floor α) (events : List (FloorEvent α)) : Floor α := events.foldl step floor

def ending? (floor : Floor α) (place : Nat) : Option (Ending α) :=
  floor.tasks[place]?.bind (·.stage.ending?)

/-- How the tasks of a batch have ended, in their order; nothing if one of them has not. -/
def endings? (floor : Floor α) (first count : Nat) : Option (List (Ending α)) :=
  ((floor.tasks.drop first).take count).mapM (·.stage.ending?)

/-- The first waiting task that can be started, and the first that can be cancelled, are the next to
be looked at. -/
def next? (floor : Floor α) : Option (FloorEvent α) :=
  (floor.tasks.zipIdx).findSome? fun (task, place) =>
    match floor.crew.pool? task.pool with
    | some pool =>
      if !task.stage.isWaiting then none
      else if pool.isClosed then some (.cancel place)
      else if 0 < pool.idle then some (.start place)
      else none
    | none => none

end Floor
end BeanHarvest
