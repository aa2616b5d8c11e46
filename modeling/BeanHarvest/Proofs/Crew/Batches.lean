import BeanHarvest.Proofs.Crew.Pools
import BeanHarvest.Proofs.Each
import Mathlib.Logic.Relation

/-! What changes on a floor. Every event comes to a chain of changes of a few kinds, so that what each
of them keeps is kept by every run. No event takes a task away: a batch that is over has as many
endings as it has tasks. -/
namespace BeanHarvest.Floor

variable {α : Type} {floor after : Floor α}

inductive Change (floor : Floor α) : Floor α → Prop where
  | moved {place : Nat} {task : FloorTask α} {steps : List (TaskStep α)} {stage : Stage α}
      {pool next : Pool} (found : floor.tasks[place]? = some task)
      (current : floor.crew.pool? task.pool = some pool)
      (done : TaskStep.afterAll? pool task.stage steps = some (stage, next)) :
      Change floor (floor.move place task stage next)
  | spawned {number : Nat} (count : Nat) (known : number ≤ floor.crew.poolNumber) :
      Change floor (floor.spawn number count)
  | straggled {number : Nat} {step : StragglerStep} {pool next : Pool}
      (current : floor.crew.pool? number = some pool) (done : step.after? pool = some next) :
      Change floor { floor with crew := floor.crew.withPool number next }
  | closed {number : Nat} {pool : Pool} (current : floor.crew.pool? number = some pool) :
      Change floor { floor with crew := floor.crew.withPool number pool.close }
  | drained : Change floor { floor with crew := floor.crew.drain }
  | renewed : Change floor { floor with crew := floor.crew.renew }
  | switched (isStopped : Bool) : Change floor { floor with crew := { floor.crew with isStopped } }

abbrev Changes : Floor α → Floor α → Prop := Relation.ReflTransGen Change

theorem Changes.keep (changes : floor.Changes after) (kept : Floor α → Prop)
    (each : ∀ {floor after : Floor α}, floor.Change after → kept floor → kept after)
    (start : kept floor) : kept after := by
  induction changes with
  | refl => exact start
  | tail _ change ih => exact each change ih

theorem changes_advance (place : Nat) (steps : List (TaskStep α)) :
    floor.Changes (floor.advance place steps) := by
  simp only [advance]
  split
  · rename_i task found
    split
    · rename_i stage next done
      obtain ⟨pool, current, done⟩ := Option.bind_eq_some_iff.mp done
      exact .single (.moved found current done)
    · exact .refl
  · exact .refl

/-- A pool that is adjusted goes through one change, or none. -/
theorem changes_adjust {number : Nat} {change? : Pool → Option Pool}
    (each : ∀ {pool next}, floor.crew.pool? number = some pool → change? pool = some next →
      floor.Change { floor with crew := floor.crew.withPool number next }) :
    floor.Changes (floor.adjust number change?) := by
  rw [adjust]
  split
  · rename_i next done
    obtain ⟨pool, current, next⟩ := Option.bind_eq_some_iff.mp done
    exact .single (each current next)
  · exact .refl

theorem changes_step (event : FloorEvent α) : floor.Changes (floor.step event) := by
  cases event with
  | spawn number =>
    simp only [step]
    split
    · rename_i known
      exact .single (.spawned 1 known)
    · exact .refl
  | straggler number step => exact changes_adjust .straggled
  | stop => exact .single (.switched true)
  | close number =>
    apply changes_adjust
    intro pool next current done
    cases done
    exact .closed current
  | renew => exact .single .renewed
  | resume => exact .single (.switched false)
  | enlist count =>
    simp only [step, enlist]
    split
    · exact .refl
    · exact .single (.spawned count (Nat.le_refl _))
  | drain => exact .single .drained
  | shutdown =>
    have closing : floor.step .shutdown = { { floor with crew := floor.crew.stop } with
        crew := floor.crew.stop.withPool floor.crew.stop.poolNumber floor.crew.pool.close } := by
      rw [Crew.withPool, if_pos rfl]
      rfl
    rw [closing]
    apply Relation.ReflTransGen.head (.switched true)
    exact .single (.closed (by simp [Crew.pool?, Crew.pools, Crew.stop, Crew.poolNumber]))
  | reset => exact .head .renewed (.single (.switched false))
  | task place step | start place | finish place result | panic place message | cancel place
  | abort place => exact changes_advance _ _

theorem changes_steps (events : List (FloorEvent α)) : floor.Changes (floor.steps events) := by
  induction events generalizing floor with
  | nil => exact .refl
  | cons event rest ih => exact (changes_step event).trans ih

theorem length_le_of_change (change : floor.Change after) :
    floor.tasks.length ≤ after.tasks.length := by
  cases change with
  | moved => simp [move]
  | spawned => simp [spawn]
  | _ => exact Nat.le_refl _

theorem length_le_steps (events : List (FloorEvent α)) :
    floor.tasks.length ≤ (floor.steps events).tasks.length := by
  apply (changes_steps events).keep (floor.tasks.length ≤ ·.tasks.length) _ (Nat.le_refl _)
  intro before after change kept
  exact Nat.le_trans kept (length_le_of_change change)

theorem advance_of_done {place : Nat} {task : FloorTask α} {steps : List (TaskStep α)}
    {stage : Stage α} {pool next : Pool} (found : floor.tasks[place]? = some task)
    (current : floor.crew.pool? task.pool = some pool)
    (done : TaskStep.afterAll? pool task.stage steps = some (stage, next)) :
    floor.advance place steps = floor.move place task stage next := by
  simp only [advance, found, current, Option.bind_some, done]

/-- Whether every task has a pool. -/
def Known (floor : Floor α) : Prop := ∀ task ∈ floor.tasks, task.pool ≤ floor.crew.poolNumber

theorem Known.pool (known : floor.Known) {place : Nat} {task : FloorTask α}
    (found : floor.tasks[place]? = some task) : ∃ pool, floor.crew.pool? task.pool = some pool :=
  Option.isSome_iff_exists.mp (Crew.pool?_isSome_iff.mpr (known task (List.mem_of_getElem? found)))

theorem Known.change (known : floor.Known) (change : floor.Change after) : after.Known := by
  intro task member
  cases change with
  | @moved place moving _ stage _ next found current _ =>
    rw [Floor.move, Crew.poolNumber_withPool]
    rcases List.mem_or_eq_of_mem_set member with old | rfl
    · exact known task old
    · exact Crew.known_of_pool? current
  | spawned count own =>
    rcases List.mem_append.mp member with old | new
    · exact known task old
    · rw [List.eq_of_mem_replicate new]
      exact own
  | straggled | closed =>
    rw [Crew.poolNumber_withPool]
    exact known task member
  | drained =>
    rw [Crew.poolNumber_drain]
    exact known task member
  | renewed =>
    rw [Crew.poolNumber_renew]
    exact Nat.le_succ_of_le (known task member)
  | switched => exact known task member

theorem Known.changes (known : floor.Known) (changes : floor.Changes after) : after.Known :=
  changes.keep Known (fun change known => known.change change) known

theorem length_enlist (floor : Floor α) (count : Nat) (accepted : floor.crew.refusal? = none) :
    (floor.enlist count).tasks.length = floor.tasks.length + count := by
  simp [enlist, accepted, spawn]

theorem length_endings {first count : Nat} {endings : List (Ending α)}
    (finished : floor.endings? first count = some endings)
    (enlisted : first + count ≤ floor.tasks.length) : endings.length = count := by
  rw [length_of_mapM finished, List.length_take, List.length_drop]
  omega

/-- A batch of which every task has ended is over. -/
theorem exists_endings? {first count : Nat} (enlisted : first + count ≤ floor.tasks.length)
    (ended : ∀ place ∈ List.range' first count, (floor.ending? place).isSome) :
    ∃ endings, floor.endings? first count = some endings ∧ endings.length = count := by
  have all : ∀ task ∈ (floor.tasks.drop first).take count, (task.stage.ending?).isSome := by
    intro task member
    obtain ⟨offset, bound, rfl⟩ := List.getElem_of_mem member
    simp only [List.length_take, List.length_drop] at bound
    have here := ended (first + offset) (List.mem_range'_1.mpr ⟨by omega, by omega⟩)
    have placed : first + offset < floor.tasks.length := by omega
    simpa [ending?, List.getElem?_eq_getElem placed] using here
  obtain ⟨endings, finished⟩ := exists_mapM all
  exact ⟨endings, finished, length_endings finished enlisted⟩

end BeanHarvest.Floor
