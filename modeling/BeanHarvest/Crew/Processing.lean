import BeanHarvest.Crew.Floor

/-! Processing a batch while other things happen. A crew deals with a batch in several strokes: it looks
whether it is stopped, looks up the pool at work, reads the counter of that pool, gives the pool one
task after the other, and then waits for the tasks in their order, each until it has ended or the
deadline of the batch is over. Between any two of these strokes anything can happen on the floor. -/
namespace BeanHarvest

/-- What else happens for a task of a batch: before it is given to its pool, and from then on until
waiting for it is over. -/
structure Errand (α : Type) where
  beforeSpawn : List (FloorEvent α) := []
  beforeEnding : List (FloorEvent α) := []

/-- What else happens while a batch is processed: before the pool is looked up, before its counter is
read, and for each task of the batch. -/
structure Meanwhile (α : Type) where
  beforePool : List (FloorEvent α) := []
  beforeCount : List (FloorEvent α) := []
  errands : List (Errand α)

namespace Floor

variable {α σ : Type}

/-- Give tasks to the pool of a number, one after the other: their places, and the floor then. -/
def spawnEach (number : Nat) : List (Errand α) → Floor α → List Nat × Floor α
  | [], floor => ([], floor)
  | errand :: rest, floor =>
    let reached := floor.steps errand.beforeSpawn
    let (places, after) := spawnEach number rest (reached.step (.spawn number))
    (reached.tasks.length :: places, after)

/-- Wait for the tasks at some places, one after the other. One that has not ended when waiting for it
is over is aborted. -/
def awaitEach : List (Nat × Errand α) → Floor α → List (Ending α) × Floor α
  | [], floor => ([], floor)
  | (place, errand) :: rest, floor =>
    let reached := floor.steps errand.beforeEnding
    match reached.ending? place with
    | some ending =>
      let (endings, after) := awaitEach rest reached
      (ending :: endings, after)
    | none =>
      let (endings, after) := awaitEach rest (reached.step (.abort place))
      (.timedOut :: endings, after)

/-- Process a batch: why it is refused, or the statuses of its tasks, and the floor afterwards. -/
def process (floor : Floor α) (classify : Nat → Ending α → σ) (meanwhile : Meanwhile α) :
    Except Refusal (List σ) × Floor α :=
  if floor.crew.isStopped then (.error (.stopped floor.crew.name), floor)
  else
    let looked := floor.steps meanwhile.beforePool
    let number := looked.crew.poolNumber
    let reading := looked.steps meanwhile.beforeCount
    let active := (reading.crew.pool? number).elim 0 (·.active)
    if floor.crew.size ≤ active then
      (.error (.exhausted floor.crew.name active floor.crew.size), reading)
    else
      let (places, begun) := spawnEach number meanwhile.errands reading
      let (endings, after) := awaitEach (places.zip meanwhile.errands) begun
      (.ok (endings.mapIdx classify), after)

end Floor
end BeanHarvest
