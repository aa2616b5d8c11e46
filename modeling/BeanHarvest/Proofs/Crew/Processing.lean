import BeanHarvest.Crew.Processing
import BeanHarvest.Proofs.Crew.Balance
import BeanHarvest.Proofs.Crew.Outcomes
import Mathlib.Data.List.Forall2

/-! Processing: a batch is refused untouched, or every one of its tasks gets its status, whatever else
happens on the floor meanwhile. -/
namespace BeanHarvest.Floor

variable {α σ : Type} {floor reached after : Floor α} {size : Nat}

/-- Events lead from a floor to another. -/
def Reaches (floor after : Floor α) : Prop := ∃ events, after = floor.steps events

theorem Reaches.refl (floor : Floor α) : floor.Reaches floor := ⟨[], rfl⟩

theorem Reaches.steps (reaches : floor.Reaches reached) (events : List (FloorEvent α)) :
    floor.Reaches (reached.steps events) := by
  obtain ⟨before, rfl⟩ := reaches
  exact ⟨before ++ events, List.foldl_append.symm⟩

theorem Reaches.step (reaches : floor.Reaches reached) (event : FloorEvent α) :
    floor.Reaches (reached.step event) := reaches.steps [event]

theorem Reaches.trans (first : floor.Reaches reached) (second : reached.Reaches after) :
    floor.Reaches after := by
  obtain ⟨events, rfl⟩ := second
  exact first.steps events

theorem Reaches.changes (reaches : floor.Reaches after) : floor.Changes after := by
  obtain ⟨events, rfl⟩ := reaches
  exact changes_steps events

theorem Reaches.balanced (reaches : floor.Reaches after) (balanced : floor.Balanced size) :
    after.Balanced size := by
  obtain ⟨events, rfl⟩ := reaches
  exact balanced.steps events

theorem poolNumber_le_of_change (change : floor.Change after) :
    floor.crew.poolNumber ≤ after.crew.poolNumber := by
  cases change with
  | moved | straggled | closed => exact Nat.le_of_eq (Crew.poolNumber_withPool _ _).symm
  | drained => exact Nat.le_of_eq Crew.poolNumber_drain.symm
  | renewed => exact Nat.le_of_lt (Crew.poolNumber_renew ▸ Nat.lt_succ_self _)
  | spawned | switched => exact Nat.le_refl _

theorem Reaches.poolNumber_le (reaches : floor.Reaches after) :
    floor.crew.poolNumber ≤ after.crew.poolNumber := by
  apply reaches.changes.keep (floor.crew.poolNumber ≤ ·.crew.poolNumber) _ (Nat.le_refl _)
  intro before after change kept
  exact Nat.le_trans kept (poolNumber_le_of_change change)

theorem Reaches.length_le (reaches : floor.Reaches after) :
    floor.tasks.length ≤ after.tasks.length := by
  obtain ⟨events, rfl⟩ := reaches
  exact length_le_steps events

/-- How the task at a place has ended stays as it is. -/
theorem Reaches.ending?_eq (reaches : floor.Reaches after) {place : Nat} {ending : Ending α}
    (ended : floor.ending? place = some ending) : after.ending? place = some ending := by
  obtain ⟨task, found, stage⟩ := Option.bind_eq_some_iff.mp ended
  obtain ⟨next, found, kept⟩ := task_of_changes reaches.changes found
  have still := kept ending (Stage.eq_ended_of_ending? stage)
  rw [Floor.ending?, found, Option.bind_some, still]
  rfl

theorem length_step_spawn {number : Nat} (known : number ≤ floor.crew.poolNumber) :
    (floor.step (.spawn number)).tasks.length = floor.tasks.length + 1 := by
  simp [step, known, spawn]

/-- Tasks that are spawned have places of their own, in their order. -/
theorem spawnEach_spec {number : Nat} (errands : List (Errand α))
    (known : number ≤ floor.crew.poolNumber) :
    let (places, after) := spawnEach number errands floor
    places.length = errands.length ∧ places.Pairwise (· < ·) ∧
      (∀ place ∈ places, floor.tasks.length ≤ place ∧ place < after.tasks.length) ∧
      floor.Reaches after := by
  induction errands generalizing floor with
  | nil =>
    refine ⟨rfl, .nil, ?_, .refl floor⟩
    intro place member
    cases member
  | cons errand rest ih =>
    have reaches := (Reaches.refl floor).steps errand.beforeSpawn
    have longer := length_step_spawn (Nat.le_trans known reaches.poolNumber_le)
    have spawns := reaches.step (.spawn number)
    obtain ⟨length, ascending, bounds, others⟩ := ih (Nat.le_trans known spawns.poolNumber_le)
    have grown := reaches.length_le
    have last := others.length_le
    rw [longer] at bounds last
    refine ⟨congrArg (· + 1) length, .cons ?_ ascending, ?_, spawns.trans others⟩
    · intro place member
      exact (bounds place member).1
    · intro place member
      rcases List.mem_cons.mp member with rfl | member
      · exact ⟨grown, last⟩
      · obtain ⟨low, high⟩ := bounds place member
        exact ⟨Nat.le_trans grown (Nat.le_of_succ_le low), high⟩

/-- A task that is aborted before it has ended has timed out. -/
theorem step_abort (known : floor.Known) {place : Nat} {task : FloorTask α}
    (found : floor.tasks[place]? = some task) (unfinished : task.stage.ending? = none) :
    ∃ next, floor.step (.abort place) = floor.move place task (.ended .timedOut) next := by
  obtain ⟨pool, current⟩ := known.pool found
  have aborts : ∃ next, TaskStep.afterAll? pool task.stage [.abort] =
      some (.ended .timedOut, next) := by
    cases stage : task.stage with
    | ended ending =>
      rw [stage] at unfinished
      cases unfinished
    | _ => exact ⟨_, rfl⟩
  obtain ⟨next, done⟩ := aborts
  exact ⟨next, advance_of_done found current done⟩

theorem ending?_abort (known : floor.Known) {place : Nat} (placed : place < floor.tasks.length)
    (unfinished : floor.ending? place = none) :
    (floor.step (.abort place)).ending? place = some .timedOut := by
  have found := List.getElem?_eq_getElem placed
  rw [ending?, found, Option.bind_some] at unfinished
  obtain ⟨next, moved⟩ := step_abort known found unfinished
  rw [moved, ending?, move, List.getElem?_set_self placed]
  rfl

theorem awaitEach_spec (entries : List (Nat × Errand α)) (balanced : floor.Balanced size)
    (placed : ∀ entry ∈ entries, entry.1 < floor.tasks.length) :
    let (endings, after) := awaitEach entries floor
    List.Forall₂ (fun place ending => after.ending? place = some ending)
        (entries.map Prod.fst) endings ∧ floor.Reaches after := by
  induction entries generalizing floor with
  | nil => exact ⟨.nil, .refl floor⟩
  | cons entry rest ih =>
    obtain ⟨place, errand⟩ := entry
    have reaches := (Reaches.refl floor).steps errand.beforeEnding
    have here := Nat.lt_of_lt_of_le (placed _ List.mem_cons_self) reaches.length_le
    have others : ∀ {later}, floor.Reaches later → ∀ entry ∈ rest, entry.1 < later.tasks.length := by
      intro later reaches entry member
      exact Nat.lt_of_lt_of_le (placed entry (List.mem_cons_of_mem _ member)) reaches.length_le
    simp only [awaitEach]
    cases ended : (floor.steps errand.beforeEnding).ending? place with
    | some ending =>
      obtain ⟨endings, more⟩ := ih (reaches.balanced balanced) (others reaches)
      exact ⟨.cons (more.ending?_eq ended) endings, reaches.trans more⟩
    | none =>
      have aborted := reaches.step (.abort place)
      have ended := ending?_abort (reaches.balanced balanced).known here ended
      obtain ⟨endings, more⟩ := ih (aborted.balanced balanced) (others aborted)
      exact ⟨.cons (more.ending?_eq ended) endings, aborted.trans more⟩

/-- How a crew answers for a batch. A crew that is stopped refuses it at once, and one whose pool has
too many active workers does when it has read their number; neither gives a task to a pool. Otherwise
every task that is spawned has a place of its own on the floor, and its status is what is made of the
ending of the task there. -/
inductive Answers (floor : Floor α) (classify : Nat → Ending α → σ) (meanwhile : Meanwhile α) :
    Except Refusal (List σ) × Floor α → Prop where
  | stopped (isStopped : floor.crew.isStopped = true) :
      Answers floor classify meanwhile (.error (.stopped floor.crew.name), floor)
  | exhausted {looked reading : Floor α} {pool : Pool} (goesOn : ¬ floor.crew.isStopped = true)
      (looks : looked = floor.steps meanwhile.beforePool)
      (reads : reading = looked.steps meanwhile.beforeCount)
      (current : reading.crew.pool? looked.crew.poolNumber = some pool)
      (isBusy : floor.crew.size ≤ pool.active) :
      Answers floor classify meanwhile
        (.error (.exhausted floor.crew.name pool.active floor.crew.size), reading)
  | performed {looked reading after : Floor α} {pool : Pool} {places : List Nat}
      {endings : List (Ending α)} (goesOn : ¬ floor.crew.isStopped = true)
      (looks : looked = floor.steps meanwhile.beforePool)
      (reads : reading = looked.steps meanwhile.beforeCount)
      (current : reading.crew.pool? looked.crew.poolNumber = some pool)
      (isFree : ¬ floor.crew.size ≤ pool.active)
      (spawned : places = (spawnEach looked.crew.poolNumber meanwhile.errands reading).1)
      (count : places.length = meanwhile.errands.length)
      (ascending : places.Pairwise (· < ·)) (fresh : ∀ place ∈ places, floor.tasks.length ≤ place)
      (reaches : floor.Reaches after)
      (ended : List.Forall₂ (fun place ending => after.ending? place = some ending) places endings) :
      Answers floor classify meanwhile (.ok (endings.mapIdx classify), after)

theorem process_answers (balanced : floor.Balanced size) (classify : Nat → Ending α → σ)
    (meanwhile : Meanwhile α) :
    floor.Answers classify meanwhile (floor.process classify meanwhile) := by
  rw [process]
  split
  · rename_i isStopped
    exact .stopped isStopped
  · rename_i goesOn
    have looks := (Reaches.refl floor).steps meanwhile.beforePool
    have reads := (Reaches.refl (floor.steps meanwhile.beforePool)).steps meanwhile.beforeCount
    have known := reads.poolNumber_le
    obtain ⟨pool, current⟩ := Option.isSome_iff_exists.mp (Crew.pool?_isSome_iff.mpr known)
    simp only [current, Option.elim_some]
    split
    · rename_i isBusy
      exact .exhausted goesOn rfl rfl current isBusy
    · rename_i isFree
      have spawning := spawnEach_spec meanwhile.errands known
      cases spawned : spawnEach _ meanwhile.errands _ with
      | mk places begun =>
        simp only [spawned] at spawning
        obtain ⟨count, ascending, bounds, spawns⟩ := spawning
        have reached := looks.trans reads
        have placed : ∀ entry ∈ places.zip meanwhile.errands, entry.1 < begun.tasks.length := by
          intro entry member
          exact (bounds entry.1 (List.of_mem_zip member).1).2
        obtain ⟨ended, waits⟩ :=
          awaitEach_spec _ ((reached.trans spawns).balanced balanced) placed
        rw [List.map_fst_zip (Nat.le_of_eq count)] at ended
        have fresh : ∀ place ∈ places, floor.tasks.length ≤ place := by
          intro place member
          exact Nat.le_trans reached.length_le (bounds place member).1
        exact .performed goesOn rfl rfl current isFree (by rw [spawned]) count ascending fresh
          ((reached.trans spawns).trans waits) ended

/-- A batch that nothing comes between is refused for the reason that the crew has at that time. -/
theorem process_error_iff (classify : Nat → Ending α → σ) (errands : List (Errand α))
    (refusal : Refusal) :
    (floor.process classify { errands }).1 = .error refusal ↔
      floor.crew.refusal? = some refusal := by
  simp only [process, steps, List.foldl_nil, Crew.pool?_poolNumber, Option.elim_some, Crew.refusal?,
    Crew.isHealthy, decide_eq_true_eq]
  by_cases isStopped : floor.crew.isStopped
  · simp [isStopped]
  · by_cases isBusy : floor.crew.size ≤ floor.crew.pool.active
    · simp [isStopped, isBusy, Nat.not_lt.mpr isBusy]
    · simp [isStopped, isBusy, Nat.not_le.mp isBusy]

/-- Tasks between whose spawns nothing happens have the places behind those before them. -/
theorem spawnEach_undisturbed (floor : Floor α) {number : Nat} (errands : List (Errand α))
    (known : number ≤ floor.crew.poolNumber)
    (undisturbed : ∀ errand ∈ errands, errand.beforeSpawn = []) :
    spawnEach number errands floor =
      (List.range' floor.tasks.length errands.length, floor.spawn number errands.length) := by
  induction errands generalizing floor with
  | nil => simp [spawnEach, spawn_zero]
  | cons errand rest ih =>
    obtain ⟨first, others⟩ := List.forall_mem_cons.mp undisturbed
    have spawned : floor.step (.spawn number) = floor.spawn number 1 := if_pos known
    have both : (floor.spawn number 1).spawn number rest.length =
        floor.spawn number (rest.length + 1) := by
      simp [spawn, List.replicate_succ]
    have later := ih (floor.spawn number 1) known others
    simp only [spawnEach, first, steps, List.foldl_nil, spawned, later, both]
    simp [spawn, List.range'_succ]

/-- Tasks that have ended are waited for no longer. -/
theorem awaitEach_ended {entries : List (Nat × Errand α)} {endings : List (Ending α)}
    (undisturbed : ∀ entry ∈ entries, entry.2.beforeEnding = [])
    (ended : List.Forall₂ (fun place ending => floor.ending? place = some ending)
      (entries.map Prod.fst) endings) : awaitEach entries floor = (endings, floor) := by
  induction entries generalizing endings with
  | nil =>
    cases ended
    rfl
  | cons entry rest ih =>
    obtain ⟨quiet, others⟩ := List.forall_mem_cons.mp undisturbed
    obtain ⟨ending, endings, first, later, rfl⟩ := List.forall₂_cons_left_iff.mp ended
    simp only [awaitEach, quiet, steps, List.foldl_nil, first, ih others later]

theorem ending?_of_endings? {first count : Nat} {endings : List (Ending α)}
    (finished : floor.endings? first count = some endings) :
    List.Forall₂ (fun place ending => floor.ending? place = some ending)
      (List.range' first endings.length) endings := by
  obtain ⟨length, each⟩ := List.forall₂_iff_get.mp (mapM_eq_some_iff.mp finished)
  apply List.forall₂_iff_get.mpr
  refine ⟨List.length_range', ?_⟩
  intro place inRange bound
  have here := each place (length ▸ bound) bound
  simp only [List.get_eq_getElem, List.getElem_take, List.getElem_drop] at here
  rw [List.length_take, List.length_drop] at length
  have placed : first + place < floor.tasks.length := by omega
  simp only [List.get_eq_getElem, List.getElem_range', Nat.one_mul, ending?,
    List.getElem?_eq_getElem placed, Option.bind_some, here]

/-- A crew that takes on a batch at one stroke, with whatever happens until all its tasks have ended, has
processed the batch. -/
theorem process_of_endings? (classify : Nat → Ending α → σ) {events : List (FloorEvent α)}
    {count : Nat} {endings : List (Ending α)} (accepted : floor.crew.refusal? = none)
    (finished : ((floor.enlist (count + 1)).steps events).endings? floor.tasks.length (count + 1) =
      some endings) :
    floor.process classify
        { errands := { beforeEnding := events } :: List.replicate count {} } =
      (.ok (endings.mapIdx classify), (floor.enlist (count + 1)).steps events) := by
  obtain ⟨goesOn, isFree⟩ := Crew.refusal?_eq_none_iff.mp accepted
  have enlisted : floor.enlist (count + 1) = floor.spawn floor.crew.poolNumber (count + 1) := by
    simp [enlist, accepted]
  have spawned := spawnEach_undisturbed floor
    ({ beforeEnding := events } :: List.replicate count {}) (Nat.le_refl _) (by simp)
  simp only [List.length_cons, List.length_replicate] at spawned
  have grown := Nat.le_trans (Nat.le_of_eq (length_enlist floor (count + 1) accepted).symm)
    (length_le_steps events)
  have ended := ending?_of_endings? finished
  rw [length_endings finished grown] at ended
  -- All events come before the first task has been waited for, and none after.
  have waited : awaitEach ((List.range' floor.tasks.length (count + 1)).zip
      (List.replicate (count + 1) {})) ((floor.enlist (count + 1)).steps events) =
        (endings, (floor.enlist (count + 1)).steps events) := by
    apply awaitEach_ended
    · intro entry member
      rw [List.eq_of_mem_replicate (List.of_mem_zip member).2]
    · rw [List.map_fst_zip (by simp)]
      exact ended
  have first : awaitEach ((List.range' floor.tasks.length (count + 1)).zip
      ({ beforeEnding := events } :: List.replicate count {})) (floor.enlist (count + 1)) =
        (endings, (floor.enlist (count + 1)).steps events) := waited
  simp only [process, goesOn, steps, List.foldl_nil, Crew.pool?_poolNumber, Option.elim_some,
    Nat.not_le.mpr isFree, spawned, ← enlisted, first]
  rfl

/-- Whatever happens on a floor, and whatever else happens while a batch is processed there, the batch is
refused untouched or each of its tasks gets its status. No pool has more tasks executing than workers;
its counter tells how many execute, so that it is never lowered below zero; and once all its tasks have
ended, nothing is counted and every worker is idle as soon as the aborted tasks are gone. What a task
comes to is up to its own steps, and these touch no pool but its own. -/
theorem batches_accounted (name : String) (size : Nat) (before : List (FloorEvent α))
    (classify : Nat → Ending α → σ) (meanwhile : Meanwhile α) :
    let floor := (opened name size).steps before
    floor.Answers classify meanwhile (floor.process classify meanwhile) ∧
      (∀ number pool, floor.crew.pool? number = some pool →
        floor.executing number ≤ size ∧ pool.active ≤ size ∧
          pool.active = floor.executing number ∧
          ((∀ task ∈ floor.tasks, task.pool = number → task.stage.ending?.isSome) →
            pool.drain.active = 0 ∧ pool.drain.idle = size ∧
              (pool.leaving = 0 → pool.active = 0))) ∧
      (∀ event place ending, (floor.step event).outcome? place = some ending →
        floor.outcome? place = some ending ∨ ∃ steps, event.steps? = some (place, steps) ∧
          ∃ step ∈ steps, step.outcome? = some ending) ∧
      (∀ event number other, event.pool? floor = some number → other ≠ number →
        (floor.step event).crew.pool? other = floor.crew.pool? other) := by
  intro floor
  have balanced : floor.Balanced size := (balanced_opened name size).steps before
  refine ⟨process_answers balanced classify meanwhile, ?_, ?_, ?_⟩
  · intro number pool found
    have counted := balanced.active_eq found
    have within := balanced.executing_le number
    refine ⟨within, counted ▸ within, counted, ?_⟩
    intro finished
    obtain ⟨active, staffed⟩ := balanced.settled found finished
    refine ⟨?_, staffed, ?_⟩
    · rw [Pool.drain, active, Pool.lowered_of_le (Nat.le_refl _), Nat.sub_self]
    · intro none
      rw [active, none]
  · intro event place ending decided
    exact outcome_of_step decided
  · intro event number other acts foreign
    exact pool?_of_foreign acts foreign

/-- One task of a replaced pool was aborted while it ran and another while it waited; a task of the new
pool is running, so that a batch is refused. -/
theorem batches_accounted_replaced :
    let before : List (FloorEvent Nat) :=
      [.enlist 2, .start 0, .reset, .enlist 1, .start 2, .abort 0, .abort 1]
    let floor := (opened "collection" 1).steps before
    let old : Pool := { idle := 0, active := 1, late := 1, leaving := 1 }
    floor.crew.pool? 0 = some old ∧ floor.executing 0 = 1 ∧
      (∀ task ∈ floor.tasks, task.pool = 0 → task.stage.ending?.isSome) ∧
      old.drain.active = 0 ∧ old.drain.idle = 1 ∧
      (FloorEvent.finish 2 7).pool? floor = some 1 ∧
      (floor.step (.finish 2 7)).crew.pool? 0 = some old ∧
      floor.Answers Prod.mk { errands := [{}] }
        (.error (.exhausted "collection" 1 1), floor) := by
  intro before floor old
  obtain ⟨answers, pools, -, foreign⟩ :=
    batches_accounted "collection" 1 before Prod.mk { errands := [{}] }
  have finished : ∀ task ∈ floor.tasks, task.pool = 0 → task.stage.ending?.isSome := by
    decide
  obtain ⟨-, -, counted, settled⟩ := pools 0 old rfl
  obtain ⟨active, idle, -⟩ := settled finished
  exact ⟨rfl, counted.symm, finished, active, idle, rfl,
    foreign (.finish 2 7) 1 0 rfl Nat.zero_ne_one, answers⟩

end BeanHarvest.Floor
