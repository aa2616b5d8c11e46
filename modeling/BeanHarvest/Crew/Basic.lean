/-! Crews: bodies of workers that take on batches of tasks. A crew has as many workers as its size, in
a pool that can be replaced; what still works in a replaced pool keeps its worker there. -/
namespace BeanHarvest

/-- Workers. Idle ones can be had; the counter of active ones tells how many are busy. From a closed
pool no worker can be had. A task that was aborted goes on up to where it next waits: it is late while
it waits for a worker, entering when it has one, leaving when it is counted too, and parting when it
is not counted any more. -/
structure Pool where
  idle : Nat
  active : Nat := 0
  late : Nat := 0
  entering : Nat := 0
  leaving : Nat := 0
  parting : Nat := 0
  isClosed : Bool := false
deriving DecidableEq, Repr, Inhabited

namespace Pool

def ofSize (size : Nat) : Pool := { idle := size }

/-- The counter is a word: below zero it goes on with the largest ones. -/
def lowered (active count : Nat) : Nat :=
  if count ≤ active then active - count else active + UInt64.size - count

def engage (pool : Pool) : Pool := { pool with idle := pool.idle - 1 }

def count (pool : Pool) : Pool := { pool with active := pool.active + 1 }

def uncount (pool : Pool) : Pool := { pool with active := lowered pool.active 1 }

def release (pool : Pool) : Pool := { pool with idle := pool.idle + 1 }

def close (pool : Pool) : Pool := { pool with isClosed := true }

/-- The aborted tasks are gone, and have given their workers back. -/
def drain (pool : Pool) : Pool :=
  { pool with
    idle := pool.idle + pool.entering + pool.leaving + pool.parting
    active := lowered pool.active pool.leaving
    late := 0
    entering := 0
    leaving := 0
    parting := 0 }

end Pool

/-- What an aborted task can still do before it is gone. -/
inductive StragglerStep where
  | engage
  | count
  | uncount
  | release
  | quit
deriving DecidableEq, Repr, Inhabited

/-- The pool after a step of one of its aborted tasks; nothing if there is none that could take it. -/
def StragglerStep.after? (pool : Pool) : StragglerStep → Option Pool
  | engage =>
    if 0 < pool.late ∧ 0 < pool.idle ∧ !pool.isClosed then
      some { pool.engage with late := pool.late - 1, entering := pool.entering + 1 }
    else none
  | count =>
    if 0 < pool.entering then
      some { pool.count with entering := pool.entering - 1, leaving := pool.leaving + 1 }
    else none
  | uncount =>
    if 0 < pool.leaving then
      some { pool.uncount with leaving := pool.leaving - 1, parting := pool.parting + 1 }
    else none
  | release =>
    if 0 < pool.parting then some { pool.release with parting := pool.parting - 1 } else none
  | quit => if 0 < pool.late then some { pool with late := pool.late - 1 } else none

/-- A crew: the pool at work, and the ones that it has replaced, in their order. -/
structure Crew where
  name : String
  size : Nat
  pool : Pool
  replaced : List Pool := []
  isStopped : Bool := false
deriving DecidableEq, Repr, Inhabited

inductive Refusal where
  | stopped (name : String)
  | exhausted (name : String) (active size : Nat)
deriving DecidableEq, Repr, Inhabited

def Refusal.message : Refusal → String
  | stopped name => "Task processor failed: processor '" ++ name ++ "' is stopped"
  | exhausted name active size =>
    "Worker pool '" ++ name ++ "' exhausted: " ++ toString active ++ " of " ++ toString size
      ++ " workers busy"

namespace Crew

def ofSize (name : String) (size : Nat) : Crew := { name, size, pool := Pool.ofSize size }

def poolNumber (crew : Crew) : Nat := crew.replaced.length

def pools (crew : Crew) : List Pool := crew.replaced ++ [crew.pool]

def pool? (crew : Crew) (number : Nat) : Option Pool := crew.pools[number]?

def withPool (crew : Crew) (number : Nat) (pool : Pool) : Crew :=
  if number = crew.poolNumber then { crew with pool }
  else { crew with replaced := crew.replaced.set number pool }

def isHealthy (crew : Crew) : Bool := crew.pool.active < crew.size

def renew (crew : Crew) : Crew :=
  { crew with pool := Pool.ofSize crew.size, replaced := crew.replaced ++ [crew.pool] }

def resume (crew : Crew) : Crew := { crew with isStopped := false }

/-- Replace the pool; the crew is not stopped any more. -/
def reset (crew : Crew) : Crew := crew.renew.resume

def ensureHealthy (crew : Crew) : Crew := if crew.isHealthy then crew else crew.reset

def stop (crew : Crew) : Crew := { crew with isStopped := true }

/-- Stop taking on batches, and close the pool at work. What has a worker goes on. -/
def shutdown (crew : Crew) : Crew := { crew.stop with pool := crew.pool.close }

/-- The aborted tasks are gone, and have given their workers back. -/
def drain (crew : Crew) : Crew :=
  { crew with pool := crew.pool.drain, replaced := crew.replaced.map Pool.drain }

/-- Why the crew does not take on a batch, if it does not. -/
def refusal? (crew : Crew) : Option Refusal :=
  if crew.isStopped then some (.stopped crew.name)
  else if crew.isHealthy then none
  else some (.exhausted crew.name crew.pool.active crew.size)

end Crew
end BeanHarvest
