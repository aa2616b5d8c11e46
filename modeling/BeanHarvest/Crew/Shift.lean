import BeanHarvest.Crew.Floor

/-! Shifts: what happens on a floor in time. At one time deadlines come first, then orders to the crew,
then aborted tasks leave, running tasks end, and waiting tasks get workers in the order in which they
came. -/
namespace BeanHarvest

/-- What a task does when it starts at some time: when it ends, if it ever does, with a result or with the
message of a panic. -/
abbrev Duty (α : Type) := Nat → Option (Nat × Except String α)

/-- That the task at a place comes to its end of itself. -/
def FloorEvent.ofOutcome {α : Type} (place : Nat) : Except String α → FloorEvent α
  | .ok result => .finish place result
  | .error message => .panic place message

inductive Order where
  | shutdown
  | reset
deriving DecidableEq, Repr, Inhabited

/-- A batch: its tasks, when it was taken on, when it has to be over, and when it was. -/
structure Batch where
  first : Nat
  count : Nat
  begun : Nat
  deadline : Nat
  finished : Option Nat := none
deriving DecidableEq, Repr, Inhabited

/-- A running task: when it started, and when and how it ends. -/
structure RunningTask (α : Type) where
  place : Nat
  started : Nat
  planned : Option (Nat × Except String α)

/-- A floor in time. -/
structure Shift (α : Type) where
  floor : Floor α
  time : Nat
  duties : List (Duty α) := []
  batches : List Batch := []
  orders : List (Nat × Order) := []
  started : List (RunningTask α) := []

namespace Shift

variable {α : Type}

def ofCrew (crew : Crew) (time : Nat) (orders : List (Nat × Order)) : Shift α :=
  { floor := ⟨crew, []⟩, time, orders }

def hasEnded (shift : Shift α) (place : Nat) : Bool :=
  shift.floor.tasks[place]?.all (·.stage.ending?.isSome)

def Batch.places (batch : Batch) : List Nat := List.range' batch.first batch.count

/-- A batch, over now if it was not before and all its tasks have ended. -/
def closed (shift : Shift α) (batch : Batch) : Batch :=
  if batch.finished.isNone && (Batch.places batch).all shift.hasEnded then
    { batch with finished := some shift.time }
  else batch

def closeBatches (shift : Shift α) : Shift α :=
  { shift with batches := shift.batches.map shift.closed }

def happen (shift : Shift α) (event : FloorEvent α) : Shift α :=
  { shift with floor := shift.floor.step event }

/-- Take on a batch of duties, unless the crew refuses. -/
def submit (shift : Shift α) (duties : List (Duty α)) (timeout : Nat) :
    Except Refusal (Shift α) :=
  match shift.floor.crew.refusal? with
  | some refusal => .error refusal
  | none =>
    let batch : Batch :=
      ⟨shift.floor.tasks.length, duties.length, shift.time, shift.time + timeout, none⟩
    .ok <| closeBatches { shift.happen (.enlist duties.length) with
      duties := shift.duties ++ duties
      batches := shift.batches ++ [batch] }

def ordered (shift : Shift α) (time : Nat) (order : Order) : Shift α :=
  { shift with orders := shift.orders ++ [(time, order)] }

def expired? (shift : Shift α) : Option Batch :=
  shift.batches.find? fun batch => batch.finished.isNone && batch.deadline ≤ shift.time

/-- An order that is due, and the others. -/
def dueOrder? (shift : Shift α) : Option (Order × List (Nat × Order)) :=
  (shift.orders.find? (·.1 ≤ shift.time)).map fun found =>
    (found.2, shift.orders.eraseP (·.1 ≤ shift.time))

/-- A task whose time has come. -/
def dueEnding? (shift : Shift α) : Option (FloorEvent α) :=
  shift.started.findSome? fun running =>
    if shift.hasEnded running.place then none
    else running.planned.bind fun (time, outcome) =>
      if time ≤ shift.time then some (.ofOutcome running.place outcome) else none

/-- Whether aborted tasks still have workers. -/
def isLeaving (crew : Crew) : Bool := 0 < crew.pool.leaving || crew.replaced.any (0 < ·.leaving)

def noteStart (shift : Shift α) : FloorEvent α → Shift α
  | .start place =>
    { shift with
      started := shift.started
        ++ [⟨place, shift.time, (shift.duties[place]?).bind fun duty => duty shift.time⟩] }
  | _ => shift

/-- What happens next without time going by, if anything does. -/
def next? (shift : Shift α) : Option (Shift α) :=
  match shift.expired? with
  | some batch => some (closeBatches ((Batch.places batch).foldl (fun shift place =>
      shift.happen (.abort place)) shift))
  | none =>
    match shift.dueOrder? with
    | some (.shutdown, orders) => some { shift.happen .shutdown with orders }
    | some (.reset, orders) => some { shift.happen .reset with orders }
    | none =>
      if isLeaving shift.floor.crew then some (shift.happen .drain)
      else match shift.dueEnding? with
        | some event => some (closeBatches (shift.happen event))
        | none =>
          shift.floor.next?.map fun event =>
            closeBatches ((shift.happen event).noteStart event)

def times (shift : Shift α) : List Nat :=
  (shift.batches.filter (·.finished.isNone)).map (·.deadline)
    ++ shift.orders.map (·.1)
    ++ (shift.started.filter fun running => !shift.hasEnded running.place).filterMap fun running =>
      running.planned.map (·.1)

def nextTime? (shift : Shift α) : Option Nat := shift.times.min?

/-- Let things happen until a condition holds, or up to a time, or until nothing is going to happen at
all. -/
def runUntil (isEnough : Shift α → Bool) (last : Option Nat) : (fuel : Nat) → Shift α → Shift α
  | 0, shift => shift
  | fuel + 1, shift =>
    if isEnough shift then shift
    else match shift.next? with
      | some after => runUntil isEnough last fuel after
      | none =>
        match shift.nextTime?, last with
        | some time, none => runUntil isEnough last fuel { shift with time }
        | some time, some last =>
          if time ≤ last then runUntil isEnough (some last) fuel { shift with time }
          else { shift with time := last }
        | none, some last => { shift with time := last }
        | none, none => shift

/-- More steps than a shift can take: each task starts, ends and leaves, each batch and each order
comes once, and time goes by before each of these. -/
def fuel (shift : Shift α) : Nat :=
  8 * (shift.floor.tasks.length + shift.batches.length + shift.orders.length + 1)

def waitUntil (shift : Shift α) (time : Nat) : Shift α :=
  shift.runUntil (fun _ => false) (some time) shift.fuel

/-- Let happen what happens without time going by. -/
def settle (shift : Shift α) : Shift α := shift.waitUntil shift.time

/-- Whether the batch of a number is over, if there is one. -/
def isOver (shift : Shift α) (number : Nat) : Bool := shift.batches[number]?.all (·.finished.isSome)

/-- Let time go by until a batch is over. -/
def await (shift : Shift α) (number : Nat) : Shift α :=
  shift.runUntil (isOver · number) none shift.fuel

def endings? (shift : Shift α) (batch : Nat) : Option (List (Ending α)) :=
  (shift.batches[batch]?).bind fun batch => shift.floor.endings? batch.first batch.count

end Shift
end BeanHarvest
