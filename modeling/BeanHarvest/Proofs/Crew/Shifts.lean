import BeanHarvest.Crew.Shift
import BeanHarvest.Proofs.Crew.Processing
import Mathlib.Data.List.Nodup

/-! Shifts. Whatever a shift does next without time going by is one stroke. Strokes lead from floor to
floor by events, and agree with what the shift has noted of its tasks and batches. -/
namespace BeanHarvest

/-- How a task ends that comes to its end of itself. -/
def Ending.ofOutcome {α : Type} : Except String α → Ending α
  | .ok result => .completed result
  | .error message => .panicked message

namespace Floor

variable {α : Type} {floor : Floor α} {place : Nat} {task : FloorTask α}

theorem step_ofOutcome (known : floor.Known) (found : floor.tasks[place]? = some task)
    (running : task.stage = .running) (outcome : Except String α) :
    ∃ next, floor.step (.ofOutcome place outcome) =
      floor.move place task (.ended (.ofOutcome outcome)) next := by
  obtain ⟨pool, current⟩ := known.pool found
  cases outcome with
  | ok result =>
    have done : TaskStep.afterAll? pool task.stage [.conclude result, .release] =
        some (.ended (.completed result), pool.uncount.release) := by
      rw [running]
      rfl
    exact ⟨_, advance_of_done found current done⟩
  | error message =>
    have done : TaskStep.afterAll? pool task.stage [.unwind message, .release] =
        some (.ended (.panicked message), pool.uncount.release) := by
      rw [running]
      rfl
    exact ⟨_, advance_of_done found current done⟩

/-- What comes next on a floor of itself is that a waiting task is started or cancelled. -/
theorem next?_cases {event : FloorEvent α} (next : floor.next? = some event) :
    ∃ place task pool, floor.tasks[place]? = some task ∧ task.stage = .waiting ∧
      ((event = .start place ∧ floor.step event = floor.move place task .running pool) ∨
        (event = .cancel place ∧
          floor.step event = floor.move place task (.ended .cancelled) pool)) := by
  obtain ⟨⟨task, place⟩, member, decided⟩ := List.exists_of_findSome?_eq_some next
  have found : floor.tasks[place]? = some task := List.mem_zipIdx_iff_getElem?.mp member
  dsimp only at decided
  split at decided
  · rename_i pool current
    have waiting : task.stage = .waiting := by
      cases stage : task.stage with
      | waiting => rfl
      | _ => simp [stage, Stage.isWaiting] at decided
    simp only [waiting, Stage.isWaiting, Bool.not_true, Bool.false_eq_true, if_false] at decided
    split at decided
    · rename_i isClosed
      cases decided
      have done : TaskStep.afterAll? pool task.stage [.cancel] =
          some (.ended .cancelled, pool) := by
        simp [TaskStep.afterAll?, TaskStep.after?, waiting, isClosed]
      exact ⟨place, task, pool, found, waiting, .inr ⟨rfl, advance_of_done found current done⟩⟩
    · rename_i isOpen
      split at decided
      · rename_i idle
        cases decided
        have done : TaskStep.afterAll? pool task.stage [.engage, .count] =
            some (.running, pool.engage.count) := by
          simp [TaskStep.afterAll?, TaskStep.after?, waiting, isOpen, idle]
        exact ⟨place, task, _, found, waiting, .inl ⟨rfl, advance_of_done found current done⟩⟩
      · cases decided
  · cases decided

/-- To abort a task that has not ended moves it; to abort another one does nothing. -/
theorem step_abort_cases (known : floor.Known) (place : Nat) : floor.step (.abort place) = floor ∨
    ∃ task next, floor.tasks[place]? = some task ∧ task.stage.ending? = none ∧
      floor.step (.abort place) = floor.move place task (.ended .timedOut) next := by
  cases found : floor.tasks[place]? with
  | none => exact .inl (advance_of_none _ found)
  | some task =>
    cases ended : task.stage.ending? with
    | none =>
      obtain ⟨next, moved⟩ := step_abort known found ended
      exact .inr ⟨task, next, rfl, ended, moved⟩
    | some ending =>
      rcases advance_cases found [.abort] with same | ⟨pool, stage, next, _, done, _⟩
      · exact .inl same
      · rw [Stage.eq_ended_of_ending? ended] at done
        cases done

end Floor

namespace Shift

variable {α : Type} {shift after : Shift α} {since place : Nat}

def aborted (shift : Shift α) (places : List Nat) : Shift α :=
  places.foldl (fun shift place => shift.happen (.abort place)) shift

/-- To abort tasks changes nothing but the floor. -/
theorem aborted_eq (shift : Shift α) (places : List Nat) :
    ∃ floor, shift.aborted places = { shift with floor } := by
  induction places generalizing shift with
  | nil => exact ⟨_, rfl⟩
  | cons place rest ih => exact ih (shift.happen (.abort place))

/-- What a shift can do without time going by: a batch is past its deadline, an order is obeyed, aborted
tasks leave, a running task ends, or a waiting one gets its turn. -/
inductive Stroke (shift : Shift α) : Shift α → Prop where
  | expire {batch : Batch} (member : batch ∈ shift.batches) (unfinished : batch.finished = none) :
      Stroke shift (closeBatches (shift.aborted (Batch.places batch)))
  | obey {event : FloorEvent α} {orders : List (Nat × Order)}
      (isOrder : event = .shutdown ∨ event = .reset)
      (fewer : orders.length < shift.orders.length) :
      Stroke shift { shift.happen event with orders }
  | drain (leaving : isLeaving shift.floor.crew = true) : Stroke shift (shift.happen .drain)
  | conclude {running : RunningTask α} {time : Nat} {outcome : Except String α}
      (member : running ∈ shift.started) (unended : shift.hasEnded running.place = false)
      (planned : running.planned = some (time, outcome)) :
      Stroke shift (closeBatches (shift.happen (.ofOutcome running.place outcome)))
  | serve {event : FloorEvent α} (next : shift.floor.next? = some event) :
      Stroke shift (closeBatches ((shift.happen event).noteStart event))

theorem length_of_dueOrder? {order : Order} {orders : List (Nat × Order)}
    (due : shift.dueOrder? = some (order, orders)) : orders.length < shift.orders.length := by
  obtain ⟨found, isDue, same⟩ := Option.map_eq_some_iff.mp due
  obtain ⟨rfl, rfl⟩ := Prod.mk.inj same
  have member := List.mem_of_find?_eq_some isDue
  have there : shift.orders.any (fun order => decide (order.1 ≤ shift.time)) = true := by
    have passed := List.find?_some isDue
    exact List.any_eq_true.mpr ⟨found, member, passed⟩
  have some_order := List.length_pos_of_mem member
  rw [List.length_eraseP, if_pos there]
  exact Nat.sub_lt some_order Nat.one_pos

theorem stroke_of_next? (next : shift.next? = some after) : shift.Stroke after := by
  simp only [next?] at next
  split at next
  · rename_i batch expired
    cases next
    have passed := List.find?_some expired
    simp only [Bool.and_eq_true, Option.isNone_iff_eq_none] at passed
    exact .expire (List.mem_of_find?_eq_some expired) passed.1
  · split at next
    · rename_i orders due
      cases next
      exact .obey (.inl rfl) (length_of_dueOrder? due)
    · rename_i orders due
      cases next
      exact .obey (.inr rfl) (length_of_dueOrder? due)
    · split at next
      · rename_i leaving
        cases next
        exact .drain leaving
      · split at next
        · rename_i event due
          cases next
          obtain ⟨running, member, decided⟩ := List.exists_of_findSome?_eq_some due
          split at decided
          · cases decided
          · rename_i unended
            obtain ⟨⟨time, outcome⟩, planned, isDue⟩ := Option.bind_eq_some_iff.mp decided
            obtain ⟨_, same⟩ := Option.ite_none_right_eq_some.mp isDue
            cases same
            exact .conclude member (Bool.eq_false_iff.mpr unended) planned
        · obtain ⟨event, served, rfl⟩ := Option.map_eq_some_iff.mp next
          exact .serve served

/-- What goes on from a shift: events have led to its floor, and its duties and batches are as before,
but for batches that are over now. -/
structure Follows (shift after : Shift α) : Prop where
  reaches : shift.floor.Reaches after.floor
  duties : after.duties = shift.duties
  plans : after.batches.map ({ · with finished := none }) =
    shift.batches.map ({ · with finished := none })

theorem Follows.refl (shift : Shift α) : shift.Follows shift := ⟨.refl _, rfl, rfl⟩

theorem Follows.trans {between : Shift α} (first : shift.Follows between)
    (second : between.Follows after) : shift.Follows after :=
  ⟨first.reaches.trans second.reaches, second.duties.trans first.duties,
    second.plans.trans first.plans⟩

theorem follows_happen (shift : Shift α) (event : FloorEvent α) :
    shift.Follows (shift.happen event) := ⟨(Floor.Reaches.refl _).step event, rfl, rfl⟩

theorem follows_closeBatches (shift : Shift α) : shift.Follows shift.closeBatches := by
  refine ⟨.refl _, rfl, ?_⟩
  rw [closeBatches, List.map_map]
  refine List.map_congr_left fun batch _ => ?_
  rw [Function.comp_apply, closed]
  split <;> rfl

theorem follows_noteStart (shift : Shift α) (event : FloorEvent α) :
    shift.Follows (shift.noteStart event) := by
  cases event <;> exact ⟨.refl _, rfl, rfl⟩

theorem follows_aborted (shift : Shift α) (places : List Nat) : shift.Follows (shift.aborted places) := by
  induction places generalizing shift with
  | nil => exact .refl shift
  | cons place rest ih => exact (shift.follows_happen _).trans (ih _)

theorem Stroke.follows (stroke : shift.Stroke after) : shift.Follows after := by
  cases stroke with
  | expire => exact (shift.follows_aborted _).trans (follows_closeBatches _)
  | @obey event => exact ⟨(Floor.Reaches.refl _).step event, rfl, rfl⟩
  | drain => exact shift.follows_happen .drain
  | conclude => exact (shift.follows_happen _).trans (follows_closeBatches _)
  | serve => exact ((shift.follows_happen _).trans (follows_noteStart _ _)).trans (follows_closeBatches _)

theorem runUntil_follows (isEnough : Shift α → Bool) (last : Option Nat) (fuel : Nat)
    (shift : Shift α) : shift.Follows (runUntil isEnough last fuel shift) := by
  induction fuel generalizing shift last with
  | zero => exact .refl _
  | succ fuel ih =>
    have later (time : Nat) : shift.Follows { shift with time } := ⟨.refl _, rfl, rfl⟩
    simp only [runUntil]
    split
    · exact .refl _
    · split
      · rename_i after next
        exact (stroke_of_next? next).follows.trans (ih last after)
      · split
        · exact (later _).trans (ih none _)
        · split
          · exact (later _).trans (ih _ _)
          · exact later _
        · exact later _
        · exact .refl _

/-- Whether what a shift has noted of the task at a place agrees with where the task stands. -/
def Agrees (shift : Shift α) (place : Nat) : Stage α → Prop
  | .waiting | .ended .cancelled => place ∉ shift.started.map (·.place)
  | .running => place ∈ shift.started.map (·.place)
  | .ended (.completed result) =>
    ∃ running ∈ shift.started, running.place = place ∧ ∃ time, running.planned = some (time, .ok result)
  | .ended (.panicked message) =>
    ∃ running ∈ shift.started, running.place = place ∧
      ∃ time, running.planned = some (time, .error message)
  | .ended .timedOut => True
  | .engaged | .retiring _ => False

/-- Whether the notes of a shift are right: every task has its duty and is noted once it was started,
which was not before some time. -/
structure Noted (since : Nat) (shift : Shift α) : Prop where
  known : shift.floor.Known
  assigned : shift.duties.length = shift.floor.tasks.length
  agrees : ∀ {place task}, shift.floor.tasks[place]? = some task → shift.Agrees place task.stage
  once : (shift.started.map (·.place)).Nodup
  begun : since ≤ shift.time
  started : ∀ running ∈ shift.started, since ≤ running.started ∧
    running.place < shift.floor.tasks.length ∧
      running.planned = (shift.duties[running.place]?).bind fun duty => duty running.started

theorem Noted.undisturbed (noted : shift.Noted since) {event : FloorEvent α}
    (same : (shift.floor.step event).tasks = shift.floor.tasks) : (shift.happen event).Noted since where
  known := noted.known.changes (Floor.changes_step event)
  assigned := noted.assigned.trans (congrArg List.length same).symm
  agrees found := noted.agrees (same ▸ found)
  once := noted.once
  begun := noted.begun
  started running member := by
    rw [happen, same]
    exact noted.started running member

theorem Noted.moved (noted : shift.Noted since) {event : FloorEvent α} {task : FloorTask α}
    {stage : Stage α} {pool : Pool} (found : shift.floor.tasks[place]? = some task)
    (moves : shift.floor.step event = shift.floor.move place task stage pool)
    (agrees : shift.Agrees place stage) : (shift.happen event).Noted since where
  known := noted.known.changes (Floor.changes_step event)
  assigned := by
    rw [happen, moves, Floor.move, List.length_set]
    exact noted.assigned
  agrees := by
    intro other moved there
    rw [happen, moves, Floor.move, List.getElem?_set] at there
    split at there
    · rename_i same
      subst same
      rw [if_pos (List.getElem?_eq_some_iff.mp found).1] at there
      cases there
      exact agrees
    · exact noted.agrees there
  once := noted.once
  begun := noted.begun
  started running member := by
    rw [happen, moves, Floor.move, List.length_set]
    exact noted.started running member

theorem Noted.aborted (noted : shift.Noted since) (places : List Nat) :
    (shift.aborted places).Noted since := by
  induction places generalizing shift with
  | nil => exact noted
  | cons place rest ih =>
    refine ih ?_
    rcases Floor.step_abort_cases noted.known place with same | ⟨task, pool, found, _, moves⟩
    · exact noted.undisturbed (congrArg Floor.tasks same)
    · exact noted.moved found moves trivial

/-- A task that was started and has not ended is running. -/
theorem Noted.running (noted : shift.Noted since) {running : RunningTask α}
    (member : running ∈ shift.started) (unended : shift.hasEnded running.place = false) :
    ∃ task, shift.floor.tasks[running.place]? = some task ∧ task.stage = .running := by
  obtain ⟨_, placed, _⟩ := noted.started running member
  have found := List.getElem?_eq_getElem placed
  refine ⟨_, found, ?_⟩
  have agrees := noted.agrees found
  have present : running.place ∈ shift.started.map (·.place) := List.mem_map_of_mem member
  simp only [hasEnded, found, Option.all_some] at unended
  cases stage : (shift.floor.tasks[running.place]).stage with
  | running => rfl
  | ended ending => simp [stage, Stage.ending?] at unended
  | waiting =>
    rw [stage] at agrees
    exact absurd present agrees
  | engaged | retiring =>
    rw [stage] at agrees
    cases agrees

theorem Agrees.note {stage : Stage α} {running : RunningTask α} (agrees : shift.Agrees place stage)
    (other : running.place ≠ place) :
    Agrees { shift with started := shift.started ++ [running] } place stage := by
  have unnoted (absent : place ∉ shift.started.map (·.place)) :
      place ∉ (shift.started ++ [running]).map (·.place) := by
    simp only [List.map_append, List.map_cons, List.map_nil, List.mem_append, List.mem_singleton, not_or]
    exact ⟨absent, Ne.symm other⟩
  cases stage with
  | waiting => exact unnoted agrees
  | engaged => cases agrees
  | running =>
    obtain ⟨first, member, same⟩ := List.mem_map.mp agrees
    exact List.mem_map.mpr ⟨first, List.mem_append_left _ member, same⟩
  | retiring => cases agrees
  | ended ending =>
    cases ending with
    | cancelled => exact unnoted agrees
    | timedOut => trivial
    | completed result =>
      obtain ⟨first, member, told⟩ := agrees
      exact ⟨first, List.mem_append_left _ member, told⟩
    | panicked message =>
      obtain ⟨first, member, told⟩ := agrees
      exact ⟨first, List.mem_append_left _ member, told⟩

/-- A waiting task that gets its turn is started and noted, or cancelled. -/
theorem Noted.served (noted : shift.Noted since) {event : FloorEvent α}
    (next : shift.floor.next? = some event) : ((shift.happen event).noteStart event).Noted since := by
  obtain ⟨place, task, pool, found, waiting, ⟨rfl, moves⟩ | ⟨rfl, moves⟩⟩ := Floor.next?_cases next
  · have unnoted : place ∉ shift.started.map (·.place) := by
      have agrees := noted.agrees found
      rw [waiting] at agrees
      exact agrees
    have placed := (List.getElem?_eq_some_iff.mp found).1
    refine {
      known := noted.known.changes (Floor.changes_step (.start place))
      assigned := ?_
      agrees := ?_
      once := ?_
      begun := noted.begun
      started := ?_ }
    · change shift.duties.length = (shift.floor.step (.start place)).tasks.length
      rw [moves, Floor.move, List.length_set]
      exact noted.assigned
    · intro other moved there
      change (shift.floor.step (.start place)).tasks[other]? = some moved at there
      rw [moves, Floor.move, List.getElem?_set] at there
      split at there
      · rename_i same
        subst same
        cases there
        exact List.mem_map.mpr ⟨_, List.mem_append_right _ List.mem_cons_self, rfl⟩
      · rename_i different
        exact (noted.agrees there).note different
    · simp only [noteStart, List.map_append]
      exact List.Nodup.append noted.once (List.nodup_singleton _)
        (List.disjoint_singleton.mpr unnoted)
    · intro running member
      change _ ∧ _ < (shift.floor.step (.start place)).tasks.length ∧ _
      rw [moves, Floor.move, List.length_set]
      rcases List.mem_append.mp member with before | new
      · exact noted.started running before
      · cases List.mem_singleton.mp new
        exact ⟨noted.begun, placed, rfl⟩
  · have agrees := noted.agrees found
    rw [waiting] at agrees
    exact noted.moved found moves agrees

theorem Noted.closeBatches (noted : shift.Noted since) : shift.closeBatches.Noted since :=
  ⟨noted.known, noted.assigned, noted.agrees, noted.once, noted.begun, noted.started⟩

theorem Noted.stroke (noted : shift.Noted since) (stroke : shift.Stroke after) : after.Noted since := by
  cases stroke with
  | expire => exact (noted.aborted _).closeBatches
  | @obey event orders isOrder =>
    have same : (shift.floor.step event).tasks = shift.floor.tasks := by
      rcases isOrder with rfl | rfl <;> rfl
    have obeyed := noted.undisturbed same
    exact ⟨obeyed.known, obeyed.assigned, obeyed.agrees, obeyed.once, obeyed.begun, obeyed.started⟩
  | drain => exact noted.undisturbed rfl
  | @conclude running time outcome member unended planned =>
    obtain ⟨_, placed, _⟩ := noted.started running member
    obtain ⟨task, found, runs⟩ := noted.running member unended
    obtain ⟨pool, moves⟩ := Floor.step_ofOutcome noted.known found runs outcome
    refine (noted.moved found moves ?_).closeBatches
    cases outcome <;> exact ⟨running, member, rfl, time, planned⟩
  | serve next => exact (noted.served next).closeBatches

/-- A task that has ended was cancelled or has timed out, unless it was started and has done its duty. -/
theorem Noted.cases_of_ending? (noted : shift.Noted since) {ending : Ending α}
    (ended : shift.floor.ending? place = some ending) :
    (shift.started.find? (·.place = place) = none ∧ (ending = .cancelled ∨ ending = .timedOut)) ∨
      ∃ running, shift.started.find? (·.place = place) = some running ∧ since ≤ running.started ∧
        (ending = .timedOut ∨ ∃ time outcome, ending = .ofOutcome outcome ∧
          ((shift.duties[place]?).bind fun duty => duty running.started) = some (time, outcome)) := by
  obtain ⟨task, found, stage⟩ := Option.bind_eq_some_iff.mp ended
  have agrees := noted.agrees found
  rw [Stage.eq_ended_of_ending? stage] at agrees
  cases first : shift.started.find? (·.place = place) with
  | none =>
    have unnoted : ∀ running ∈ shift.started, running.place ≠ place := fun running member => by
      simpa using List.find?_eq_none.mp first running member
    refine .inl ⟨rfl, ?_⟩
    cases ending with
    | cancelled => exact .inl rfl
    | timedOut => exact .inr rfl
    | completed | panicked =>
      obtain ⟨running, member, same, _⟩ := agrees
      exact absurd same (unnoted running member)
  | some running =>
    have member := List.mem_of_find?_eq_some first
    have placed : running.place = place := by simpa using List.find?_some first
    obtain ⟨later, _, planned⟩ := noted.started running member
    have only : ∀ other ∈ shift.started, other.place = place → other = running :=
      fun other present same => List.inj_on_of_nodup_map noted.once present member (same.trans placed.symm)
    rw [placed] at planned
    refine .inr ⟨running, rfl, later, ?_⟩
    cases ending with
    | cancelled => exact absurd (List.mem_map.mpr ⟨running, member, placed⟩) agrees
    | timedOut => exact .inl rfl
    | completed result =>
      obtain ⟨other, present, same, time, plan⟩ := agrees
      rw [only other present same] at plan
      exact .inr ⟨time, .ok result, rfl, planned.symm.trans plan⟩
    | panicked message =>
      obtain ⟨other, present, same, time, plan⟩ := agrees
      rw [only other present same] at plan
      exact .inr ⟨time, .error message, rfl, planned.symm.trans plan⟩

/-- Whether the batches of a shift are in order: one that is over has no task left, and was over at its
deadline at the latest. -/
structure Scheduled (shift : Shift α) : Prop where
  enlisted : ∀ batch ∈ shift.batches, batch.first + batch.count ≤ shift.floor.tasks.length
  fulfilled : ∀ batch ∈ shift.batches, batch.finished.isSome → ∀ place ∈ Batch.places batch,
    (shift.floor.ending? place).isSome
  timely : ∀ batch ∈ shift.batches, batch.finished.getD shift.time ≤ batch.deadline

theorem Scheduled.reaches (scheduled : shift.Scheduled)
    (reaches : shift.floor.Reaches after.floor) (time : after.time = shift.time)
    (batches : after.batches = shift.batches) : after.Scheduled where
  enlisted batch member :=
    Nat.le_trans (scheduled.enlisted batch (batches ▸ member)) reaches.length_le
  fulfilled batch member finished place among := by
    obtain ⟨ending, ended⟩ := Option.isSome_iff_exists.mp
      (scheduled.fulfilled batch (batches ▸ member) finished place among)
    rw [reaches.ending?_eq ended]
    rfl
  timely batch member := time ▸ scheduled.timely batch (batches ▸ member)

theorem ending?_of_hasEnded (placed : place < shift.floor.tasks.length) :
    shift.hasEnded place = (shift.floor.ending? place).isSome := by
  simp only [hasEnded, Floor.ending?, List.getElem?_eq_getElem placed, Option.all_some,
    Option.bind_some]

theorem Scheduled.lt_of_mem_places (scheduled : shift.Scheduled) {batch : Batch}
    (member : batch ∈ shift.batches) (among : place ∈ Batch.places batch) :
    place < shift.floor.tasks.length := by
  obtain ⟨_, below⟩ := List.mem_range'_1.mp among
  exact Nat.lt_of_lt_of_le below (scheduled.enlisted batch member)

theorem Scheduled.closeBatches (scheduled : shift.Scheduled) : shift.closeBatches.Scheduled := by
  have cases {batch : Batch} (member : batch ∈ shift.closeBatches.batches) : batch ∈ shift.batches ∨
      ∃ old ∈ shift.batches, old.finished = none ∧ (Batch.places old).all shift.hasEnded = true ∧
        batch = { old with finished := some shift.time } := by
    obtain ⟨old, present, rfl⟩ := List.mem_map.mp member
    rw [closed]
    split
    · rename_i both
      obtain ⟨unfinished, ended⟩ := Bool.and_eq_true_iff.mp both
      exact .inr ⟨old, present, Option.isNone_iff_eq_none.mp unfinished, ended, rfl⟩
    · exact .inl present
  refine ⟨fun batch member => ?_, fun batch member finished place among => ?_, fun batch member => ?_⟩
  · rcases cases member with old | ⟨old, present, _, _, rfl⟩
    · exact scheduled.enlisted batch old
    · exact scheduled.enlisted old present
  · rcases cases member with old | ⟨old, present, _, ended, rfl⟩
    · exact scheduled.fulfilled batch old finished place among
    · have placed := scheduled.lt_of_mem_places present among
      exact (ending?_of_hasEnded placed).symm.trans (List.all_eq_true.mp ended place among)
  · rcases cases member with old | ⟨old, present, unfinished, _, rfl⟩
    · exact scheduled.timely batch old
    · have timely := scheduled.timely old present
      rw [unfinished] at timely
      exact timely

theorem Scheduled.stroke (scheduled : shift.Scheduled) (stroke : shift.Stroke after) :
    after.Scheduled := by
  have aborted (places : List Nat) : (shift.aborted places).Scheduled := by
    obtain ⟨floor, same⟩ := shift.aborted_eq places
    exact scheduled.reaches (shift.follows_aborted places).reaches (same ▸ rfl) (same ▸ rfl)
  have happened (event : FloorEvent α) : (shift.happen event).Scheduled :=
    scheduled.reaches (shift.follows_happen event).reaches rfl rfl
  cases stroke with
  | expire => exact (aborted _).closeBatches
  | @obey event => exact scheduled.reaches ((Floor.Reaches.refl _).step event) rfl rfl
  | drain => exact happened _
  | conclude => exact (happened _).closeBatches
  | @serve event =>
    have same : ((shift.happen event).noteStart event).time = shift.time ∧
        ((shift.happen event).noteStart event).batches = shift.batches := by
      cases event <;> exact ⟨rfl, rfl⟩
    have noted := (happened event).reaches (follows_noteStart _ event).reaches same.1 same.2
    exact noted.closeBatches

end Shift
end BeanHarvest
