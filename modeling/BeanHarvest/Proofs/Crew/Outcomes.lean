import BeanHarvest.Proofs.Crew.Batches

/-! Outcomes: what a task comes to is up to its own events, and what they do to workers is done to its
own pool. A task keeps its place and its pool, and what has ended stays as it is. -/
namespace BeanHarvest

variable {α : Type}

/-- What a step makes of its task, if it decides that. -/
def TaskStep.outcome? : TaskStep α → Option (Ending α)
  | conclude result => some (.completed result)
  | unwind message => some (.panicked message)
  | cancel => some .cancelled
  | abort => some .timedOut
  | engage | count | release => none

/-- The place of the task that an event is about, and the steps of the task. -/
def FloorEvent.steps? : FloorEvent α → Option (Nat × List (TaskStep α))
  | task place step => some (place, [step])
  | start place => some (place, [.engage, .count])
  | finish place result => some (place, [.conclude result, .release])
  | panic place message => some (place, [.unwind message, .release])
  | cancel place => some (place, [.cancel])
  | abort place => some (place, [.abort])
  | _ => none

/-- The number of the pool on whose tasks an event acts. -/
def FloorEvent.pool? (floor : Floor α) : FloorEvent α → Option Nat
  | straggler number _ => some number
  | event => event.steps?.bind fun entry => floor.tasks[entry.1]?.map (·.pool)

theorem Stage.eq_ended_of_ending? {stage : Stage α} {ending : Ending α}
    (found : stage.ending? = some ending) : stage = .ended ending := by
  cases stage with
  | ended own =>
    cases found
    rfl
  | _ => cases found

namespace TaskStep

variable {pool after : Pool} {stage next : Stage α}

theorem Leads.outcome {step : TaskStep α} (leads : step.Leads pool stage next after)
    {ending : Ending α} (decided : next.outcome? = some ending) :
    stage.outcome? = some ending ∨ step.outcome? = some ending := by
  cases leads with
  | engage | count => cases decided
  | release => exact .inl decided
  | conclude | unwind | cancel | abortWaiting | abortEngaged | abortRunning | abortRetiring =>
    exact .inr decided

theorem outcome_of_afterAll? {steps : List (TaskStep α)}
    (done : afterAll? pool stage steps = some (next, after)) {ending : Ending α}
    (decided : next.outcome? = some ending) :
    stage.outcome? = some ending ∨ ∃ step ∈ steps, step.outcome? = some ending := by
  induction steps generalizing pool stage with
  | nil =>
    cases done
    exact .inl decided
  | cons step rest ih =>
    obtain ⟨⟨reached, between⟩, first, others⟩ := Option.bind_eq_some_iff.mp done
    rcases ih others with before | ⟨later, member, decides⟩
    · rcases (after?_eq_some_iff.mp first).outcome before with before | decides
      · exact .inl before
      · exact .inr ⟨step, List.mem_cons_self, decides⟩
    · exact .inr ⟨later, List.mem_cons_of_mem _ member, decides⟩

theorem ended_of_afterAll? {steps : List (TaskStep α)} {ending : Ending α}
    (done : afterAll? pool (.ended ending) steps = some (next, after)) : next = .ended ending := by
  cases steps with
  | nil =>
    cases done
    rfl
  | cons step rest =>
    obtain ⟨_, first, _⟩ := Option.bind_eq_some_iff.mp done
    cases after?_eq_some_iff.mp first

end TaskStep

namespace Floor

variable {floor after : Floor α}

/-- What the task at a place has come to, if it has. -/
def outcome? (floor : Floor α) (place : Nat) : Option (Ending α) :=
  floor.tasks[place]?.bind (·.stage.outcome?)

theorem task_of_change (change : floor.Change after) {place : Nat} {task : FloorTask α}
    (found : floor.tasks[place]? = some task) :
    ∃ stage, after.tasks[place]? = some { task with stage } ∧
      ∀ ending, task.stage = .ended ending → stage = .ended ending := by
  cases change with
  | @moved moving task' steps stage pool next found' current done =>
    by_cases same : moving = place
    · subst same
      cases found.symm.trans found'
      refine ⟨stage, List.getElem?_set_self (List.getElem?_eq_some_iff.mp found).1, ?_⟩
      intro ending ended
      rw [ended] at done
      exact TaskStep.ended_of_afterAll? done
    · refine ⟨task.stage, ?_, fun _ => id⟩
      rw [move, List.getElem?_set_ne same, found]
  | spawned =>
    refine ⟨task.stage, ?_, fun _ => id⟩
    rw [spawn, List.getElem?_append_left (List.getElem?_eq_some_iff.mp found).1, found]
  | _ => exact ⟨task.stage, found, fun _ => id⟩

theorem task_of_changes (changes : floor.Changes after) {place : Nat} {task : FloorTask α}
    (found : floor.tasks[place]? = some task) :
    ∃ stage, after.tasks[place]? = some { task with stage } ∧
      ∀ ending, task.stage = .ended ending → stage = .ended ending := by
  apply changes.keep (fun after => ∃ stage, after.tasks[place]? = some { task with stage } ∧
      ∀ ending, task.stage = .ended ending → stage = .ended ending)
  · rintro before after change ⟨stage, found, kept⟩
    obtain ⟨next, found, still⟩ := task_of_change change found
    exact ⟨next, found, fun ending ended => still ending (kept ending ended)⟩
  · exact ⟨task.stage, found, fun _ => id⟩

theorem step_of_steps? {event : FloorEvent α} {place : Nat} {steps : List (TaskStep α)}
    (about : event.steps? = some (place, steps)) : floor.step event = floor.advance place steps := by
  cases event <;> cases about <;> rfl

theorem advance_of_none {place : Nat} (steps : List (TaskStep α))
    (missing : floor.tasks[place]? = none) : floor.advance place steps = floor := by
  simp only [advance, missing]

theorem advance_cases {place : Nat} {task : FloorTask α} (found : floor.tasks[place]? = some task)
    (steps : List (TaskStep α)) : floor.advance place steps = floor ∨
      ∃ pool stage next, floor.crew.pool? task.pool = some pool ∧
        TaskStep.afterAll? pool task.stage steps = some (stage, next) ∧
        floor.advance place steps = floor.move place task stage next := by
  simp only [advance, found]
  split
  · rename_i stage next done
    obtain ⟨pool, current, done⟩ := Option.bind_eq_some_iff.mp done
    exact .inr ⟨pool, stage, next, current, done, rfl⟩
  · exact .inl rfl

theorem outcome?_spawn (number count place : Nat) :
    (floor.spawn number count).outcome? place = floor.outcome? place := by
  simp only [outcome?, spawn, List.getElem?_append]
  split
  · rfl
  · rename_i fresh
    rw [List.getElem?_eq_none (Nat.not_lt.mp fresh), List.getElem?_replicate]
    split <;> rfl

theorem outcome_of_advance {moving place : Nat} {steps : List (TaskStep α)} {ending : Ending α}
    (decided : (floor.advance moving steps).outcome? place = some ending) :
    floor.outcome? place = some ending ∨
      moving = place ∧ ∃ step ∈ steps, step.outcome? = some ending := by
  cases found : floor.tasks[moving]? with
  | none =>
    rw [advance_of_none steps found] at decided
    exact .inl decided
  | some task =>
    rcases advance_cases found steps with same | ⟨pool, stage, next, -, done, moved⟩
    · exact .inl (same ▸ decided)
    · simp only [moved, outcome?, move] at decided ⊢
      by_cases own : moving = place
      · subst own
        rw [List.getElem?_set_self (List.getElem?_eq_some_iff.mp found).1] at decided
        rw [found]
        rcases TaskStep.outcome_of_afterAll? done decided with before | decides
        · exact .inl before
        · exact .inr ⟨rfl, decides⟩
      · rw [List.getElem?_set_ne own] at decided
        exact .inl decided

theorem tasks_adjust (number : Nat) (change? : Pool → Option Pool) :
    (floor.adjust number change?).tasks = floor.tasks := by
  simp only [adjust]
  split <;> rfl

theorem spawn_zero (number : Nat) : floor.spawn number 0 = floor := by
  simp [spawn]

/-- An event that is about no task at most brings new ones. -/
theorem tasks_of_no_steps (floor : Floor α) {event : FloorEvent α} (about : event.steps? = none) :
    ∃ number count, (floor.step event).tasks = (floor.spawn number count).tasks := by
  have same : ∃ number count, floor.tasks = (floor.spawn number count).tasks :=
    ⟨0, 0, by rw [spawn_zero]⟩
  cases event with
  | task | start | finish | panic | cancel | abort => cases about
  | spawn number =>
    simp only [step]
    split
    · exact ⟨number, 1, rfl⟩
    · exact same
  | enlist count =>
    simp only [step, enlist]
    split
    · exact same
    · exact ⟨_, count, rfl⟩
  | straggler | close =>
    simp only [step, tasks_adjust]
    exact same
  | stop | renew | resume | drain | shutdown | reset => exact same

/-- A task comes to something by a step of its own. -/
theorem outcome_of_step {event : FloorEvent α} {place : Nat} {ending : Ending α}
    (decided : (floor.step event).outcome? place = some ending) :
    floor.outcome? place = some ending ∨ ∃ steps, event.steps? = some (place, steps) ∧
      ∃ step ∈ steps, step.outcome? = some ending := by
  cases about : event.steps? with
  | some entry =>
    obtain ⟨moving, steps⟩ := entry
    rw [step_of_steps? about] at decided
    rcases outcome_of_advance decided with before | ⟨rfl, decides⟩
    · exact .inl before
    · exact .inr ⟨steps, rfl, decides⟩
  | none =>
    obtain ⟨number, count, brings⟩ := tasks_of_no_steps floor about
    rw [outcome?, brings] at decided
    exact .inl (outcome?_spawn number count place ▸ decided)

theorem pool?_adjust_of_ne {number other : Nat} (foreign : other ≠ number)
    (change? : Pool → Option Pool) :
    (floor.adjust number change?).crew.pool? other = floor.crew.pool? other := by
  simp only [adjust]
  split
  · rename_i next done
    obtain ⟨pool, current, -⟩ := Option.bind_eq_some_iff.mp done
    rw [Crew.pool?_withPool (Crew.known_of_pool? current), if_neg foreign]
  · rfl

theorem pool?_advance_of_ne {place : Nat} {task : FloorTask α} {other : Nat}
    (found : floor.tasks[place]? = some task) (foreign : other ≠ task.pool)
    (steps : List (TaskStep α)) :
    (floor.advance place steps).crew.pool? other = floor.crew.pool? other := by
  rcases advance_cases found steps with same | ⟨pool, stage, next, current, -, moved⟩
  · rw [same]
  · rw [moved, move, Crew.pool?_withPool (Crew.known_of_pool? current), if_neg foreign]

/-- What tasks and stragglers of a pool do changes no other pool. -/
theorem pool?_of_foreign {event : FloorEvent α} {number other : Nat}
    (acts : event.pool? floor = some number) (foreign : other ≠ number) :
    (floor.step event).crew.pool? other = floor.crew.pool? other := by
  cases about : event.steps? with
  | some entry =>
    obtain ⟨place, steps⟩ := entry
    have own : ∃ task, floor.tasks[place]? = some task ∧ task.pool = number := by
      cases event <;> cases about <;> exact Option.map_eq_some_iff.mp acts
    obtain ⟨task, found, rfl⟩ := own
    rw [step_of_steps? about]
    exact pool?_advance_of_ne found foreign steps
  | none =>
    cases event with
    | straggler own step =>
      cases acts
      exact pool?_adjust_of_ne foreign step.after?
    | _ => simp [FloorEvent.pool?, about] at acts

end Floor
end BeanHarvest
