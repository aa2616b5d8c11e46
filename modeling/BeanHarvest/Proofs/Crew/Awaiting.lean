import BeanHarvest.Proofs.Crew.Shifts

/-! Waiting for a batch. Every stroke of a shift leaves less to do, and time goes by only to when there is
something to do again. So a batch that is waited for is over, at its deadline at the latest, and all its
tasks have ended: waiting never runs out of fuel. -/
namespace BeanHarvest

/-- How many strokes a task can still take, one for its start and one for its end. -/
def Stage.strokes {α : Type} (stage : Stage α) : Nat :=
  stage.isWaiting.toNat + stage.ending?.isNone.toNat

namespace Floor

variable {α : Type} {floor : Floor α} {place : Nat} {task : FloorTask α}

/-- How many strokes the tasks of a floor can still take. -/
def strokes (floor : Floor α) : Nat :=
  floor.tasks.countP (·.stage.isWaiting) + floor.tasks.countP (·.stage.ending?.isNone)

theorem strokes_move (found : floor.tasks[place]? = some task) (stage : Stage α) (pool : Pool) :
    (floor.move place task stage pool).strokes + task.stage.strokes =
      floor.strokes + stage.strokes := by
  obtain ⟨waiting, waits, waited⟩ := countP_move found stage pool (·.stage.isWaiting)
  obtain ⟨unended, goes, gone⟩ := countP_move found stage pool (·.stage.ending?.isNone)
  simp only [strokes, Stage.strokes, waits, waited, goes, gone]
  omega

theorem strokes_le (floor : Floor α) : floor.strokes ≤ 2 * floor.tasks.length := by
  have waiting := floor.tasks.countP_le_length (p := (·.stage.isWaiting))
  have unended := floor.tasks.countP_le_length (p := (·.stage.ending?.isNone))
  rw [strokes]
  omega

end Floor

namespace Shift

variable {α : Type} {shift after : Shift α} {since : Nat}

/-- What is left for a shift to do. The strokes of the tasks, the orders and the batches count twice, as
each of them can be followed by aborted tasks that leave. -/
def left (shift : Shift α) : Nat :=
  2 * (shift.floor.strokes + shift.orders.length + shift.batches.countP (·.finished.isNone)) +
    (isLeaving shift.floor.crew).toNat

theorem countP_closed (shift : Shift α) (batches : List Batch) :
    (batches.map shift.closed).countP (·.finished.isNone) ≤ batches.countP (·.finished.isNone) := by
  rw [List.countP_map]
  refine List.countP_mono_left fun batch _ => ?_
  rw [Function.comp_apply, closed]
  split
  · intro unfinished
    cases unfinished
  · exact id

/-- A batch whose tasks have all ended is not open any more. -/
theorem countP_closed_lt {batches : List Batch} {batch : Batch} (member : batch ∈ batches)
    (unfinished : batch.finished = none)
    (ended : ∀ place ∈ Batch.places batch, shift.hasEnded place = true) :
    (batches.map shift.closed).countP (·.finished.isNone) < batches.countP (·.finished.isNone) := by
  obtain ⟨before, behind, same⟩ := List.append_of_mem member
  have isClosed : (shift.closed batch).finished.isNone = false := by
    rw [closed, unfinished, List.all_eq_true.mpr ended]
    rfl
  have first := shift.countP_closed before
  have last := shift.countP_closed behind
  simp only [same, List.map_append, List.map_cons, List.countP_append, List.countP_cons, isClosed,
    unfinished, Option.isNone_none, Bool.false_eq_true, if_true, if_false]
  omega

theorem strokes_aborted (known : shift.floor.Known) (places : List Nat) :
    (shift.aborted places).floor.strokes ≤ shift.floor.strokes := by
  induction places generalizing shift with
  | nil => exact Nat.le_refl _
  | cons place rest ih =>
    have known₂ : (shift.happen (.abort place)).floor.Known :=
      known.changes (Floor.changes_step (.abort place))
    refine Nat.le_trans (ih known₂) ?_
    change (shift.floor.step (.abort place)).strokes ≤ _
    rcases Floor.step_abort_cases known place with same | ⟨task, pool, found, _, moves⟩
    · exact Nat.le_of_eq (congrArg Floor.strokes same)
    · have counted := Floor.strokes_move found (.ended .timedOut) pool
      rw [moves]
      simp only [Stage.strokes, Stage.isWaiting, Stage.ending?, Option.isNone_some, Bool.toNat_false]
        at counted
      omega

theorem hasEnded_aborted (known : shift.floor.Known) {place : Nat} {places : List Nat}
    (placed : place < shift.floor.tasks.length) (among : place ∈ places) :
    (shift.aborted places).hasEnded place = true := by
  have ended {shift : Shift α} (known : shift.floor.Known)
      (placed : place < shift.floor.tasks.length) :
      ∃ ending, (shift.happen (.abort place)).floor.ending? place = some ending := by
    cases before : shift.floor.ending? place with
    | some ending => exact ⟨ending, ((Floor.Reaches.refl _).step (.abort place)).ending?_eq before⟩
    | none => exact ⟨_, Floor.ending?_abort known placed before⟩
  induction places generalizing shift with
  | nil => cases among
  | cons first rest ih =>
    have reaches : shift.floor.Reaches (shift.happen (.abort first)).floor :=
      (Floor.Reaches.refl _).step (.abort first)
    have placed₂ := Nat.lt_of_lt_of_le placed reaches.length_le
    have known₂ := known.changes reaches.changes
    rcases List.mem_cons.mp among with rfl | later
    · obtain ⟨ending, now⟩ := ended known placed
      have others := ((shift.happen (.abort place)).follows_aborted rest).reaches
      have still := others.ending?_eq now
      rw [aborted, List.foldl_cons]
      have placed₃ := Nat.lt_of_lt_of_le placed₂ others.length_le
      exact (ending?_of_hasEnded placed₃).trans (by rw [still]; rfl)
    · exact ih known₂ placed₂ later

theorem isLeaving_drain (crew : Crew) : isLeaving crew.drain = false := by
  simp [isLeaving, Crew.drain, Pool.drain]

/-- A task that takes a stroke leaves less to do. -/
theorem left_move_lt {event : FloorEvent α} {place : Nat} {task : FloorTask α} {stage : Stage α}
    {pool : Pool} (found : shift.floor.tasks[place]? = some task)
    (moves : shift.floor.step event = shift.floor.move place task stage pool)
    (fewer : stage.strokes < task.stage.strokes) : (shift.happen event).closeBatches.left < shift.left := by
  have counted := Floor.strokes_move found stage pool
  have batches := (shift.happen event).countP_closed shift.batches
  have now : (isLeaving (shift.floor.step event).crew).toNat ≤ 1 := Bool.toNat_le _
  simp only [← moves] at counted
  simp only [left, closeBatches, happen] at batches ⊢
  omega

/-- Every stroke leaves less to do. -/
theorem Stroke.left_lt (stroke : shift.Stroke after) (noted : shift.Noted since)
    (scheduled : shift.Scheduled) : after.left < shift.left := by
  cases stroke with
  | @expire batch member unfinished =>
    have ended : ∀ place ∈ Batch.places batch,
        (shift.aborted (Batch.places batch)).hasEnded place = true := fun place among =>
      hasEnded_aborted noted.known (scheduled.lt_of_mem_places member among) among
    have strokes := strokes_aborted noted.known (Batch.places batch)
    obtain ⟨floor, same⟩ := shift.aborted_eq (Batch.places batch)
    rw [same] at strokes ended ⊢
    have batches := countP_closed_lt member unfinished ended
    have now : (isLeaving floor.crew).toNat ≤ 1 := Bool.toNat_le _
    simp only [left, closeBatches] at strokes batches ⊢
    omega
  | @obey event orders isOrder fewer =>
    have same : (shift.floor.step event).strokes = shift.floor.strokes := by
      rcases isOrder with rfl | rfl <;> rfl
    have now : (isLeaving (shift.floor.step event).crew).toNat ≤ 1 := Bool.toNat_le _
    simp only [left, happen, same]
    omega
  | drain isLeaving =>
    have same : (shift.floor.step .drain).strokes = shift.floor.strokes := rfl
    have gone : Shift.isLeaving (shift.floor.step .drain).crew = false := isLeaving_drain _
    simp only [left, happen, same, gone, isLeaving]
    exact Nat.lt_succ_self _
  | @conclude running time outcome member unended planned =>
    obtain ⟨task, found, runs⟩ := noted.running member unended
    obtain ⟨pool, moves⟩ := Floor.step_ofOutcome noted.known found runs outcome
    refine left_move_lt found moves ?_
    rw [runs]
    exact Nat.zero_lt_one
  | @serve event next =>
    have same : ((shift.happen event).noteStart event).closeBatches.left =
        (shift.happen event).closeBatches.left := by
      cases event <;> rfl
    obtain ⟨place, task, pool, found, waits, ⟨_, moves⟩ | ⟨_, moves⟩⟩ := Floor.next?_cases next
    all_goals
      rw [same]
      refine left_move_lt found moves ?_
      rw [waits]
      simp [Stage.strokes, Stage.isWaiting, Stage.ending?]

theorem next?_eq_none_iff : shift.next? = none ↔ shift.expired? = none ∧ shift.dueOrder? = none ∧
    isLeaving shift.floor.crew = false ∧ shift.dueEnding? = none ∧ shift.floor.next? = none := by
  cases expired : shift.expired? with
  | some batch => simp [next?, expired]
  | none =>
    cases ordered : shift.dueOrder? with
    | some due =>
      obtain ⟨order, orders⟩ := due
      cases order <;> simp [next?, expired, ordered]
    | none =>
      cases leaving : isLeaving shift.floor.crew with
      | true => simp [next?, expired, ordered, leaving]
      | false =>
        cases ending : shift.dueEnding? <;>
          simp [next?, expired, ordered, leaving, ending]

/-- Where nothing happens any more, what is going to happen is still to come. -/
theorem lt_of_mem_times {time : Nat} (rests : shift.next? = none) (member : time ∈ shift.times) :
    shift.time < time := by
  obtain ⟨unexpired, unordered, _, unended, _⟩ := next?_eq_none_iff.mp rests
  rcases List.mem_append.mp member with sooner | planned
  · rcases List.mem_append.mp sooner with deadline | order
    · obtain ⟨batch, among, rfl⟩ := List.mem_map.mp deadline
      obtain ⟨present, unfinished⟩ := List.mem_filter.mp among
      have notYet := List.find?_eq_none.mp unexpired batch present
      simpa [unfinished] using notYet
    · obtain ⟨entry, present, rfl⟩ := List.mem_map.mp order
      have notYet := List.find?_eq_none.mp (Option.map_eq_none_iff.mp unordered) entry present
      simpa using notYet
  · obtain ⟨running, among, told⟩ := List.mem_filterMap.mp planned
    obtain ⟨present, unfinished⟩ := List.mem_filter.mp among
    obtain ⟨⟨_, outcome⟩, plan, rfl⟩ := Option.map_eq_some_iff.mp told
    have notYet := List.findSome?_eq_none_iff.mp unended running present
    simpa [Bool.not_eq_true' _ ▸ unfinished, plan] using notYet

theorem deadline_mem_times {batch : Batch} (member : batch ∈ shift.batches)
    (unfinished : batch.finished = none) : batch.deadline ∈ shift.times := by
  have among : batch ∈ shift.batches.filter (·.finished.isNone) :=
    List.mem_filter.mpr ⟨member, by rw [unfinished]; rfl⟩
  exact List.mem_append_left _ (List.mem_append_left _ (List.mem_map_of_mem among))

/-- Time goes by to the next thing that happens. -/
def later (shift : Shift α) (time : Nat) : Shift α := { shift with time }

theorem next?_later {time : Nat} (next : shift.nextTime? = some time) :
    ∃ after, (shift.later time).next? = some after := by
  have member : time ∈ (shift.later time).times := List.min?_mem next
  by_contra none
  have rests : (shift.later time).next? = .none := by
    simpa [Option.eq_none_iff_forall_ne_some] using none
  exact absurd (lt_of_mem_times rests member) (Nat.lt_irrefl time)

theorem Noted.later (noted : shift.Noted since) {time : Nat} (forward : shift.time ≤ time) :
    (shift.later time).Noted since :=
  ⟨noted.known, noted.assigned, noted.agrees, noted.once, Nat.le_trans noted.begun forward,
    noted.started⟩

theorem Scheduled.later (scheduled : shift.Scheduled) {time : Nat}
    (next : shift.nextTime? = some time) : (shift.later time).Scheduled where
  enlisted := scheduled.enlisted
  fulfilled := scheduled.fulfilled
  timely batch member := by
    have timely := scheduled.timely batch member
    cases finished : batch.finished with
    | some _ =>
      rw [finished] at timely
      exact timely
    | none => exact (List.min?_eq_some_iff.mp next).2 _ (deadline_mem_times member finished)

/-- As long as a batch is not over, something is going to happen. -/
theorem exists_nextTime? {number : Nat} (unfinished : ¬ shift.isOver number = true) :
    ∃ time, shift.nextTime? = some time := by
  cases found : shift.batches[number]? with
  | none =>
    rw [isOver, found] at unfinished
    exact absurd rfl unfinished
  | some batch =>
    have still : batch.finished = none := by simpa [isOver, found] using unfinished
    have soon := deadline_mem_times (List.mem_of_getElem? found) still
    exact Option.isSome_iff_exists.mp (List.isSome_min?_of_mem soon)

/-- Whoever waits with enough fuel waits until the batch is over. -/
theorem runUntil_isOver (number : Nat) {fuel : Nat} (noted : shift.Noted since)
    (scheduled : shift.Scheduled) (enough : 2 * shift.left + shift.next?.isNone.toNat < fuel) :
    let reached := runUntil (isOver · number) none fuel shift
    reached.Noted since ∧ reached.Scheduled ∧ reached.isOver number = true := by
  induction fuel generalizing shift with
  | zero => exact absurd enough (Nat.not_lt_zero _)
  | succ fuel ih =>
    simp only [runUntil]
    split
    · rename_i passed
      exact ⟨noted, scheduled, passed⟩
    · rename_i unfinished
      cases next : shift.next? with
      | some after =>
        have stroke := stroke_of_next? next
        have less := stroke.left_lt noted scheduled
        have once : after.next?.isNone.toNat ≤ 1 := Bool.toNat_le _
        rw [next] at enough
        exact ih (noted.stroke stroke) (scheduled.stroke stroke) (by omega)
      | none =>
        obtain ⟨time, soon⟩ := exists_nextTime? unfinished
        simp only [soon]
        have member : time ∈ shift.times := List.min?_mem soon
        have forward := Nat.le_of_lt (lt_of_mem_times next member)
        obtain ⟨after, happens⟩ := next?_later soon
        rw [next] at enough
        refine ih (noted.later forward) (scheduled.later soon) ?_
        change 2 * shift.left + (shift.later time).next?.isNone.toNat < fuel
        rw [happens]
        simp only [Option.isNone_none, Option.isNone_some, Bool.toNat_true, Bool.toNat_false] at enough ⊢
        omega

theorem left_lt_fuel (shift : Shift α) : 2 * shift.left + 1 < shift.fuel := by
  have strokes := shift.floor.strokes_le
  have batches := shift.batches.countP_le_length (p := (·.finished.isNone))
  have leaving : (isLeaving shift.floor.crew).toNat ≤ 1 := Bool.toNat_le _
  rw [left, fuel]
  omega

/-- A batch that is waited for is over, at its deadline at the latest, and all its tasks have ended. -/
theorem await_over (noted : shift.Noted since) (scheduled : shift.Scheduled) {number : Nat}
    {batch : Batch} (found : shift.batches[number]? = some batch) :
    let reached := shift.await number
    reached.Noted since ∧ shift.Follows reached ∧ ∃ time endings,
      reached.batches[number]? = some { batch with finished := some time } ∧
      time ≤ batch.deadline ∧ reached.endings? number = some endings ∧
      endings.length = batch.count := by
  intro reached
  have once : shift.next?.isNone.toNat ≤ 1 := Bool.toNat_le _
  have enough : 2 * shift.left + shift.next?.isNone.toNat < shift.fuel :=
    Nat.lt_of_le_of_lt (Nat.add_le_add_left once _) shift.left_lt_fuel
  obtain ⟨noted₂, scheduled₂, passed⟩ := runUntil_isOver number noted scheduled enough
  have follows : shift.Follows reached := runUntil_follows ..
  have plans := congrArg (fun plans : List Batch => plans[number]?) follows.plans
  simp only [List.getElem?_map, found, Option.map_some] at plans
  obtain ⟨last, there, same⟩ := Option.map_eq_some_iff.mp plans
  have finished : last.finished.isSome = true := by
    have passed : reached.isOver number = true := passed
    simpa [isOver, there] using passed
  obtain ⟨time, finished⟩ := Option.isSome_iff_exists.mp finished
  have whole : last = { batch with finished := some time } := by
    have put : last = { batch with finished := last.finished } :=
      congrArg (fun plan : Batch => { plan with finished := last.finished }) same
    rwa [finished] at put
  subst whole
  have member := List.mem_of_getElem? there
  obtain ⟨endings, ended, length⟩ := Floor.exists_endings? (scheduled₂.enlisted _ member)
    (scheduled₂.fulfilled _ member rfl)
  refine ⟨noted₂, follows, time, endings, there, scheduled₂.timely _ member, ?_, length⟩
  rw [endings?, there]
  exact ended

theorem noted_ofCrew (crew : Crew) (time : Nat) (orders : List (Nat × Order)) :
    (ofCrew crew time orders : Shift α).Noted time where
  known _ := nofun
  assigned := rfl
  agrees := nofun
  once := List.nodup_nil
  begun := Nat.le_refl time
  started _ := nofun

theorem scheduled_ofCrew (crew : Crew) (time : Nat) (orders : List (Nat × Order)) :
    (ofCrew crew time orders : Shift α).Scheduled := ⟨fun _ => nofun, fun _ => nofun, fun _ => nofun⟩

variable {duties : List (Duty α)} {timeout : Nat}

theorem submit_error_iff {refusal : Refusal} :
    shift.submit duties timeout = .error refusal ↔ shift.floor.crew.refusal? = some refusal := by
  rw [submit]
  cases shift.floor.crew.refusal? with
  | none => simp
  | some found => simp

/-- The shift with a batch that was not refused, before it is noted which batches are over. -/
def taken (shift : Shift α) (duties : List (Duty α)) (timeout : Nat) : Shift α :=
  { shift.happen (.enlist duties.length) with
    duties := shift.duties ++ duties
    batches := shift.batches ++
      [⟨shift.floor.tasks.length, duties.length, shift.time, shift.time + timeout, none⟩] }

theorem tasks_taken (accepted : shift.floor.crew.refusal? = none) (duties : List (Duty α))
    (timeout : Nat) : (shift.taken duties timeout).floor.tasks = shift.floor.tasks ++
      List.replicate duties.length ⟨shift.floor.crew.poolNumber, .waiting⟩ := by
  simp [taken, happen, Floor.step, Floor.enlist, accepted, Floor.spawn]

theorem Noted.taken (noted : shift.Noted since) (accepted : shift.floor.crew.refusal? = none)
    (duties : List (Duty α)) (timeout : Nat) : (shift.taken duties timeout).Noted since := by
  have tasks := shift.tasks_taken accepted duties timeout
  refine {
    known := noted.known.changes (Floor.changes_step (.enlist duties.length))
    assigned := ?_
    agrees := ?_
    once := noted.once
    begun := noted.begun
    started := ?_ }
  · rw [tasks, List.length_append, List.length_replicate, ← noted.assigned]
    exact List.length_append
  · intro place task found
    rw [tasks, List.getElem?_append] at found
    split at found
    · exact noted.agrees found
    · rename_i fresh
      have waiting := List.eq_of_mem_replicate (List.mem_of_getElem? found)
      rw [waiting]
      rintro present
      obtain ⟨running, member, rfl⟩ := List.mem_map.mp present
      exact fresh (noted.started running member).2.1
  · intro running member
    obtain ⟨later, placed, planned⟩ := noted.started running member
    rw [tasks, List.length_append]
    have kept : (shift.duties ++ duties)[running.place]? = shift.duties[running.place]? :=
      List.getElem?_append_left (noted.assigned ▸ placed)
    refine ⟨later, Nat.lt_of_lt_of_le placed (Nat.le_add_right _ _), planned.trans ?_⟩
    rw [← kept]
    rfl

theorem Scheduled.taken (scheduled : shift.Scheduled) (accepted : shift.floor.crew.refusal? = none)
    (duties : List (Duty α)) (timeout : Nat) : (shift.taken duties timeout).Scheduled := by
  have tasks := shift.tasks_taken accepted duties timeout
  have enlisted : Shift.Scheduled { shift.happen (.enlist duties.length) with
      duties := shift.duties ++ duties } :=
    scheduled.reaches ((Floor.Reaches.refl _).step (.enlist duties.length)) rfl rfl
  refine ⟨fun batch member => ?_, fun batch member finished => ?_, fun batch member => ?_⟩
  all_goals rcases List.mem_append.mp member with old | new
  · exact enlisted.enlisted batch old
  · cases List.mem_singleton.mp new
    have length := congrArg List.length tasks
    rw [List.length_append, List.length_replicate] at length
    exact Nat.le_of_eq length.symm
  · exact enlisted.fulfilled batch old finished
  · cases List.mem_singleton.mp new
    cases finished
  · exact enlisted.timely batch old
  · cases List.mem_singleton.mp new
    exact Nat.le_add_right _ _

/-- A batch that is taken on is enlisted on the floor, with its duties behind the others. -/
theorem submit_inv (accepted : shift.submit duties timeout = .ok after) (noted : shift.Noted since)
    (scheduled : shift.Scheduled) : shift.floor.crew.refusal? = none ∧
      after.floor = shift.floor.enlist duties.length ∧ after.duties = shift.duties ++ duties ∧
      after.Noted since ∧ after.Scheduled ∧
      ∃ finished, after.batches[shift.batches.length]? = some ⟨shift.floor.tasks.length,
        duties.length, shift.time, shift.time + timeout, finished⟩ := by
  rw [submit] at accepted
  split at accepted
  · cases accepted
  · rename_i going
    have same : after = (shift.taken duties timeout).closeBatches := (Except.ok.inj accepted).symm
    subst same
    refine ⟨going, rfl, rfl, (noted.taken going duties timeout).closeBatches,
      (scheduled.taken going duties timeout).closeBatches, ?_⟩
    simp only [Shift.closeBatches, Shift.taken, List.getElem?_map, List.getElem?_concat_length,
      Option.map_some, closed]
    split
    · exact ⟨_, rfl⟩
    · exact ⟨_, rfl⟩

/-- A crew that takes on a batch and waits for it has all its tasks ended, with the floor as events have
led to it. -/
theorem await_ofCrew {crew : Crew} {time : Nat} {orders : List (Nat × Order)}
    (submitted : (ofCrew crew time orders).submit duties timeout = .ok after) :
    let reached := after.await 0
    crew.refusal? = none ∧ reached.Noted time ∧ reached.duties = duties ∧
      ∃ events endings, reached.floor = ((⟨crew, []⟩ : Floor α).enlist duties.length).steps events ∧
        reached.endings? 0 = some endings ∧
        reached.floor.endings? 0 duties.length = some endings ∧ endings.length = duties.length := by
  obtain ⟨accepted, floor, assigned, noted, scheduled, _, found⟩ :=
    submit_inv submitted (noted_ofCrew ..) (scheduled_ofCrew ..)
  obtain ⟨noted, follows, _, endings, there, _, ended, length⟩ := await_over noted scheduled found
  obtain ⟨events, reached⟩ := follows.reaches
  have passed := ended
  rw [endings?, there] at passed
  rw [floor] at reached
  exact ⟨accepted, noted, follows.duties.trans assigned, events, endings, reached, ended, passed, length⟩

theorem await_of_isOver {number : Nat} (passed : shift.isOver number = true) :
    shift.await number = shift := by
  obtain ⟨fuel, enough⟩ := Nat.exists_eq_succ_of_ne_zero (Nat.ne_zero_of_lt shift.left_lt_fuel)
  simp only [await, enough, runUntil, passed, if_true]

theorem submit_nil (accepted : shift.submit [] timeout = .ok after) :
    after.isOver shift.batches.length = true := by
  rw [submit] at accepted
  split at accepted
  · cases accepted
  · cases accepted
    simp [isOver, Shift.closeBatches, closed, Batch.places]

/-- A batch that a shift takes on and waits for is processed, with what happens on the floor meanwhile:
it is refused for the same reason, or its tasks end in the same way. -/
theorem await_process {σ : Type} (noted : shift.Noted since) (scheduled : shift.Scheduled)
    (duties : List (Duty α)) (timeout : Nat) (classify : Nat → Ending α → σ) :
    ∃ meanwhile : Meanwhile α, meanwhile.errands.length = duties.length ∧
      match shift.submit duties timeout with
      | .error refusal => (shift.floor.process classify meanwhile).1 = .error refusal
      | .ok after => ∃ endings,
        (after.await shift.batches.length).endings? shift.batches.length = some endings ∧
          shift.floor.process classify meanwhile =
            (.ok (endings.mapIdx classify), (after.await shift.batches.length).floor) := by
  cases submitted : shift.submit duties timeout with
  | error refusal =>
    refine ⟨{ errands := List.replicate duties.length {} }, List.length_replicate, ?_⟩
    exact (Floor.process_error_iff _ _ refusal).mpr (submit_error_iff.mp submitted)
  | ok after =>
    obtain ⟨accepted, floor, _, noted₂, scheduled₂, finished, found⟩ :=
      submit_inv submitted noted scheduled
    obtain ⟨_, follows, time, endings, there, _, ended, length⟩ :=
      await_over noted₂ scheduled₂ found
    have passed : (after.await shift.batches.length).floor.endings? shift.floor.tasks.length
        duties.length = some endings := by
      rwa [endings?, there] at ended
    cases duties with
    | nil =>
      have stays := await_of_isOver (submit_nil submitted)
      have none_ended : endings = [] := List.eq_nil_of_length_eq_zero length
      have same : shift.floor.enlist 0 = shift.floor := by
        simp [Floor.enlist, accepted, Floor.spawn]
      obtain ⟨goesOn, isFree⟩ := Crew.refusal?_eq_none_iff.mp accepted
      refine ⟨{ errands := [] }, rfl, endings, ended, ?_⟩
      rw [stays, floor, List.length_nil, same, none_ended]
      simp [Floor.process, Floor.steps, goesOn, Crew.pool?_poolNumber, Nat.not_le.mpr isFree,
        Floor.spawnEach, Floor.awaitEach]
    | cons duty rest =>
      obtain ⟨events, reached⟩ := follows.reaches
      rw [floor] at reached
      rw [reached] at passed
      refine ⟨{ errands := { beforeEnding := events } :: List.replicate rest.length {} }, ?_,
        endings, ended, ?_⟩
      · rw [List.length_cons, List.length_replicate, List.length_cons]
      · rw [reached]
        exact Floor.process_of_endings? classify accepted passed

end Shift
end BeanHarvest
