import BeanHarvest.Proofs.Crew.Batches

/-! Balance: on every floor that events lead to, the books of every pool are right, whichever pool is at
work. So no more tasks of a pool run than it has workers, its counter tells how many do, and no worker
is lost. -/
namespace BeanHarvest.Floor

variable {α : Type} {floor after : Floor α}

/-- Among the tasks that pass a test one that moves counts by its stage, and the others as before. -/
theorem countP_move {place : Nat} {task : FloorTask α} (found : floor.tasks[place]? = some task)
    (stage : Stage α) (pool : Pool) (test : FloorTask α → Bool) :
    ∃ others, floor.tasks.countP test = others + (test task).toNat ∧
      (floor.move place task stage pool).tasks.countP test =
        others + (test { task with stage }).toNat := by
  obtain ⟨bound, here⟩ := List.getElem?_eq_some_iff.mp found
  refine ⟨floor.tasks.countP test - (test task).toNat, ?_, ?_⟩
  · have counted : (test task).toNat ≤ floor.tasks.countP test := by
      cases passes : test task with
      | false => exact Nat.zero_le _
      | true => exact List.countP_pos_iff.mpr ⟨task, List.mem_of_getElem? found, passes⟩
    omega
  · have toNat_eq (b : Bool) : (if b then 1 else 0) = b.toNat := by
      cases b <;> rfl
    simp only [move, List.countP_set bound, here, toNat_eq]

/-- How many tasks of the pool of a number are in a stage that passes a test. -/
def tally (floor : Floor α) (number : Nat) (test : Stage α → Bool) : Nat :=
  floor.tasks.countP fun task => task.pool == number && test task.stage

theorem tally_spawn (number count other : Nat) {test : Stage α → Bool}
    (fails : test .waiting = false) :
    (floor.spawn number count).tally other test = floor.tally other test := by
  simp [tally, spawn, List.countP_append, List.countP_replicate, fails]

theorem tally_move {place : Nat} {task : FloorTask α} (found : floor.tasks[place]? = some task)
    (stage : Stage α) (pool : Pool) (number : Nat) (test : Stage α → Bool) :
    ∃ others, floor.tally number test = others + (task.pool == number && test task.stage).toNat ∧
      (floor.move place task stage pool).tally number test =
        others + (task.pool == number && test stage).toNat :=
  countP_move found stage pool fun task => task.pool == number && test task.stage

/-- The books of all pools are right, and every task has a pool. -/
structure Balanced (size : Nat) (floor : Floor α) : Prop where
  sized : floor.crew.size = size
  known : floor.Known
  fits : ∀ {number : Nat} {pool : Pool}, floor.crew.pool? number = some pool →
    pool.Fits size (floor.tally number Stage.isRunning) (floor.tally number Stage.hasWorker)

variable {size : Nat}

theorem balanced_opened (name : String) (size : Nat) : (opened name size : Floor α).Balanced size where
  sized := rfl
  known := by
    intro task member
    cases member
  fits := by
    intro number pool found
    have only : (Crew.ofSize name size).pools = [Pool.ofSize size] := rfl
    simp only [opened, Crew.pool?, only, List.getElem?_singleton, Option.ite_none_right_eq_some,
      Option.some.injEq] at found
    obtain ⟨-, rfl⟩ := found
    exact Pool.fits_ofSize size

theorem Balanced.move (balanced : floor.Balanced size) {place : Nat} {task : FloorTask α}
    {steps : List (TaskStep α)} {stage : Stage α} {pool next : Pool}
    (found : floor.tasks[place]? = some task) (current : floor.crew.pool? task.pool = some pool)
    (done : TaskStep.afterAll? pool task.stage steps = some (stage, next)) :
    (floor.move place task stage next).Balanced size where
  sized := by rw [Floor.move, Crew.size_withPool, balanced.sized]
  known := balanced.known.change (.moved found current done)
  fits := by
    intro number other found'
    obtain ⟨running, runs, ran⟩ := tally_move found stage next number Stage.isRunning
    obtain ⟨holding, holds, held⟩ := tally_move found stage next number Stage.hasWorker
    have lookup := Crew.pool?_withPool (Crew.known_of_pool? current) next number
    rw [ran, held]
    by_cases own : number = task.pool
    · subst own
      have same : next = other := by
        rw [if_pos rfl] at lookup
        exact Option.some.inj (lookup.symm.trans found')
      have fits := balanced.fits current
      simp only [runs, holds, BEq.rfl, Bool.true_and] at fits ⊢
      exact same ▸ fits.steps done
    · rw [if_neg own] at lookup
      have fits := balanced.fits (lookup.symm.trans found')
      have foreign : (task.pool == number) = false := beq_eq_false_iff_ne.mpr (Ne.symm own)
      simpa only [runs, holds, foreign, Bool.false_and] using fits

/-- A pool that still fits can be put in the place of another. -/
theorem Balanced.withPool (balanced : floor.Balanced size) {number : Nat} {pool next : Pool}
    (current : floor.crew.pool? number = some pool)
    (fits : ∀ {running holding}, pool.Fits size running holding → next.Fits size running holding) :
    Balanced size { floor with crew := floor.crew.withPool number next } where
  sized := by rw [Crew.size_withPool, balanced.sized]
  known := by
    intro task member
    rw [Crew.poolNumber_withPool]
    exact balanced.known task member
  fits := by
    intro other found pool?
    rw [Crew.pool?_withPool (Crew.known_of_pool? current)] at pool?
    split at pool?
    · rename_i own
      subst own
      cases pool?
      exact fits (balanced.fits current)
    · exact balanced.fits pool?

theorem tally_of_unknown (balanced : floor.Balanced size) (number : Nat)
    (unknown : floor.crew.poolNumber < number) (test : Stage α → Bool) :
    floor.tally number test = 0 := by
  apply List.countP_eq_zero.mpr
  intro task member
  have known := balanced.known task member
  simp only [Bool.and_eq_true, beq_iff_eq, not_and]
  omega

theorem Balanced.spawn (balanced : floor.Balanced size) {number : Nat} (count : Nat)
    (known : number ≤ floor.crew.poolNumber) : (floor.spawn number count).Balanced size where
  sized := balanced.sized
  known := balanced.known.change (.spawned count known)
  fits := by
    intro other pool found
    rw [tally_spawn _ _ _ rfl, tally_spawn _ _ _ rfl]
    exact balanced.fits found

theorem Balanced.drain (balanced : floor.Balanced size) :
    Balanced size { floor with crew := floor.crew.drain } where
  sized := balanced.sized
  known := balanced.known.change .drained
  fits := by
    intro number pool found
    rw [Crew.pool?_drain] at found
    obtain ⟨old, current, rfl⟩ := Option.map_eq_some_iff.mp found
    exact (balanced.fits current).drain

/-- The new pool has no tasks yet, and the old one keeps its own. -/
theorem Balanced.renew (balanced : floor.Balanced size) :
    Balanced size { floor with crew := floor.crew.renew } where
  sized := balanced.sized
  known := balanced.known.change .renewed
  fits := by
    intro number pool found
    rw [Crew.pool?_renew] at found
    split at found
    · rename_i fresh
      cases found
      have unused := tally_of_unknown balanced number (by omega)
      change Pool.Fits size (floor.tally number _) (floor.tally number _) _
      rw [unused, unused, balanced.sized]
      exact Pool.fits_ofSize size
    · exact balanced.fits found

theorem Balanced.change (change : floor.Change after) (balanced : floor.Balanced size) :
    after.Balanced size := by
  cases change with
  | moved found current done => exact balanced.move found current done
  | spawned count known => exact balanced.spawn count known
  | straggled current done => exact balanced.withPool current (·.straggler done)
  | closed current => exact balanced.withPool current (·.close)
  | drained => exact balanced.drain
  | renewed => exact balanced.renew
  | switched isStopped => exact ⟨balanced.sized, balanced.known, balanced.fits⟩

theorem Balanced.steps (balanced : floor.Balanced size) (events : List (FloorEvent α)) :
    (floor.steps events).Balanced size :=
  (changes_steps events).keep (Balanced size) Balanced.change balanced

/-- How many tasks of the pool of a number are at work, those included that were aborted there and have
not stopped yet. -/
def executing (floor : Floor α) (number : Nat) : Nat :=
  floor.tally number Stage.isRunning + (floor.crew.pool? number).elim 0 (·.leaving)

theorem tally_running_le (number : Nat) :
    floor.tally number Stage.isRunning ≤ floor.tally number Stage.hasWorker := by
  apply List.countP_mono_left
  intro task _ running
  obtain ⟨own, running⟩ := Bool.and_eq_true_iff.mp running
  rw [own, Bool.true_and]
  cases stage : task.stage with
  | running => rfl
  | _ =>
    rw [stage] at running
    cases running

theorem Balanced.active_eq (balanced : floor.Balanced size) {number : Nat} {pool : Pool}
    (found : floor.crew.pool? number = some pool) : pool.active = floor.executing number := by
  rw [executing, found]
  exact (balanced.fits found).counted

theorem Balanced.executing_le (balanced : floor.Balanced size) (number : Nat) :
    floor.executing number ≤ size := by
  cases found : floor.crew.pool? number with
  | none =>
    have unknown : ¬ number ≤ floor.crew.poolNumber := by
      rw [← Crew.pool?_isSome_iff, found]
      exact Bool.false_ne_true
    rw [executing, found, tally_of_unknown balanced number (Nat.not_le.mp unknown)]
    exact Nat.zero_le _
  | some pool =>
    have staffed := (balanced.fits found).staffed
    have fewer := floor.tally_running_le number
    simp only [executing, found, Option.elim_some]
    omega

/-- A pool all of whose tasks have ended has its workers back once the aborted ones are gone. -/
theorem Balanced.settled (balanced : floor.Balanced size) {number : Nat} {pool : Pool}
    (found : floor.crew.pool? number = some pool)
    (finished : ∀ task ∈ floor.tasks, task.pool = number → task.stage.ending?.isSome) :
    pool.active = pool.leaving ∧ pool.idle + pool.entering + pool.leaving + pool.parting = size := by
  have free : floor.tally number Stage.hasWorker = 0 := by
    apply List.countP_eq_zero.mpr
    intro task member holds
    obtain ⟨own, holds⟩ := Bool.and_eq_true_iff.mp holds
    have ended := finished task member (beq_iff_eq.mp own)
    cases stage : task.stage with
    | ended ending =>
      rw [stage] at holds
      cases holds
    | _ =>
      rw [stage] at ended
      cases ended
  have fewer := floor.tally_running_le number
  obtain ⟨counted, staffed⟩ := balanced.fits found
  omega

/-- The floor with other tasks in front of its own. -/
def beside (others : List (FloorTask α)) (floor : Floor α) : Floor α :=
  { floor with tasks := others ++ floor.tasks }

/-- A floor changes beside other tasks as it does without them. -/
theorem Change.beside (others : List (FloorTask α)) (change : floor.Change after) :
    (floor.beside others).Change (after.beside others) := by
  cases change with
  | @moved place task steps stage pool next found current done =>
    have there : (floor.beside others).tasks[others.length + place]? = some task := by
      rw [Floor.beside, List.getElem?_append_right (Nat.le_add_right _ _), Nat.add_sub_cancel_left]
      exact found
    have same : (floor.move place task stage next).beside others =
        (floor.beside others).move (others.length + place) task stage next := by
      simp [Floor.beside, move, List.set_append_right]
    exact same ▸ .moved there current done
  | @spawned number count known =>
    have same : (floor.spawn number count).beside others =
        (floor.beside others).spawn number count := by
      simp [Floor.beside, spawn]
    exact same ▸ .spawned count known
  | straggled current done => exact .straggled current done
  | closed current => exact .closed current
  | drained => exact .drained
  | renewed => exact .renewed
  | switched isStopped => exact .switched isStopped

theorem Changes.beside (others : List (FloorTask α)) (changes : floor.Changes after) :
    (floor.beside others).Changes (after.beside others) := by
  induction changes with
  | refl => exact .refl
  | tail _ change ih => exact ih.tail (change.beside others)

end BeanHarvest.Floor

namespace BeanHarvest.Crew

variable {α : Type} {crew : Crew} {size : Nat}

/-- Whether the books of a crew are right that may still have some tasks. -/
def Balanced (α : Type) (size : Nat) (crew : Crew) : Prop :=
  ∃ tasks : List (FloorTask α), Floor.Balanced size ⟨crew, tasks⟩

theorem balanced_ofSize (name : String) (size : Nat) : (ofSize name size).Balanced α size :=
  ⟨[], Floor.balanced_opened name size⟩

/-- They stay right whatever happens while the crew has new tasks as well. -/
theorem Balanced.steps (balanced : crew.Balanced α size) (events : List (FloorEvent α)) :
    ((⟨crew, []⟩ : Floor α).steps events).crew.Balanced α size := by
  obtain ⟨tasks, right⟩ := balanced
  let empty : Floor α := ⟨crew, []⟩
  have happened : empty.Changes (empty.steps events) := Floor.changes_steps events
  have changes := happened.beside tasks
  refine ⟨_, changes.keep (Floor.Balanced size) Floor.Balanced.change ?_⟩
  simpa [Floor.beside, empty] using right

/-- A crew with a free worker still has one when the aborted tasks are gone. -/
theorem Balanced.isHealthy_drain (balanced : crew.Balanced α size) (free : crew.isHealthy = true) :
    crew.drain.isHealthy = true := by
  obtain ⟨tasks, right⟩ := balanced
  have counted := (right.fits (crew.pool?_poolNumber)).counted
  have enough : crew.pool.leaving ≤ crew.pool.active := by omega
  simp only [isHealthy, decide_eq_true_eq, drain, Pool.drain, Pool.lowered_of_le enough] at free ⊢
  omega

end BeanHarvest.Crew
