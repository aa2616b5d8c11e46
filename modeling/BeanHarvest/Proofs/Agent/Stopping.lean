import BeanHarvest.Proofs.Agent.Conservation
import BeanHarvest.Proofs.Crew.Balance

/-! Stopped crews. A collection crew that is stopped and has a free worker refuses every batch: whatever
iterations and recoveries follow, nothing is collected and nothing is moved, and the crew is stopped
still. Where every worker is busy, the next iteration replaces the pool, and the crew takes on its
batch. -/
namespace BeanHarvest

namespace Crew

variable {α : Type} {crew after : Crew} {work : Operation Instance (Except InstanceFault α)}
  {batch : List Handle} {outcome : BatchOutcome α}

theorem ensureHealthy_of_free (free : crew.isHealthy = true) : crew.ensureHealthy = crew := if_pos free

theorem refusal?_ensureHealthy_of_busy (busy : crew.isHealthy = false) (staffed : 0 < crew.size) :
    crew.ensureHealthy.refusal? = none := by
  rw [ensureHealthy, if_neg (by simp [busy]), refusal?_eq_none_iff]
  exact ⟨rfl, staffed⟩

theorem Performs.of_stopped (performed : crew.Performs work batch outcome after)
    (stopped : crew.isStopped = true) : outcome = .error (.stopped crew.name) ∧ after = crew := by
  have refuses : crew.refusal? = some (.stopped crew.name) := if_pos stopped
  cases performed with
  | refused found =>
    cases refuses.symm.trans found
    exact ⟨rfl, rfl⟩
  | performed accepted => cases refuses.symm.trans accepted

theorem Performs.of_accepting (performed : crew.Performs work batch outcome after)
    (accepted : crew.refusal? = none) : ∃ turns, outcome = .ok turns := by
  cases performed with
  | refused found => cases accepted.symm.trans found
  | performed => exact ⟨_, rfl⟩

/-- The books of a crew stay right, whatever becomes of its batch. -/
theorem Performs.balanced {size : Nat} (performed : crew.Performs work batch outcome after)
    (balanced : crew.Balanced (Except InstanceFault α) size) :
    after.Balanced (Except InstanceFault α) size := by
  cases performed with
  | refused => exact balanced
  | performed _ events => exact balanced.steps (.enlist batch.length :: events)

end Crew

/-- All instances that were taken in have failed alike, without being broken. -/
theorem Account.foldl_add_refused (account : Account) (stampOf : (name : String) → Int)
    (batch : List Handle) {failure : Failure} (mild : failure.marksBroken = false) :
    (batch.map fun handle => (handle, (.error failure : Status Collected))).foldl
        (fun account entry => account.add stampOf entry) account =
      { account with
        summary := { account.summary with failed := account.summary.failed + batch.length }
        reports := account.reports ++ batch.map fun handle =>
          .check (handle.check .critical (some (failure.userMessage handle.name))) } := by
  induction batch generalizing account with
  | nil => simp
  | cons handle rest ih =>
    rw [List.map_cons, List.foldl_cons, ih]
    simp [Account.add, addFailure, mild, Nat.add_assoc, Nat.add_comm 1]

namespace Agent

variable {agent after : Agent} {now : Nat} {stampOf : (name : String) → Int}

/-- What an iteration comes to that collects nothing for some reason: every instance that is due is
critical, and no instance and no baseline is touched. -/
structure InVain (agent : Agent) (now : Nat) (reason : Refusal)
    (iterated : Agent × Summary × List Report) : Prop where
  collected : iterated.2.1.collected = 0
  failed : iterated.2.1.failed = (agent.dueAt now).length
  broken : iterated.2.1.broken = 0
  metrics : iterated.2.1.metrics = 0
  reports : iterated.2.2 = (agent.dueAt now).map fun handle => .check
    (handle.check .critical (some ((Failure.scheduler reason.message).userMessage handle.name)))
  pending : iterated.1.pending = agent.pending
  active : iterated.1.active = agent.active
  brokenBefore : iterated.1.broken = agent.broken
  baselines : iterated.1.baselines = agent.baselines

/-- A batch that is refused leaves the instances that are due as they were. -/
theorem merged_due (plan : List (Handle × Bool)) : merged plan (due plan) = plan.map (·.1) := by
  have same : (merged plan (due plan)).map id = plan.map (·.1) := merged_map id rfl
  rwa [List.map_id] at same

/-- The account of instances that have all failed alike, without being broken. -/
theorem account_refused (agent : Agent) (stampOf : (name : String) → Int) (skipped : Nat)
    (batch : List Handle) {failure : Failure} (mild : failure.marksBroken = false) :
    agent.account stampOf skipped (batch.map fun handle => (handle, .error failure)) = {
      baselines := agent.baselines
      summary := { iteration := agent.iteration, skipped, failed := batch.length }
      reports := batch.map fun handle =>
        .check (handle.check .critical (some (failure.userMessage handle.name))) } := by
  rw [Agent.account, Account.foldl_add_refused _ stampOf batch mild]
  simp

theorem iterated_inVain (reason : Refusal) (crew : Crew) :
    agent.InVain now reason (agent.iterated now stampOf (.error reason) crew) := by
  let begun : Agent := { (agent.beginIteration now).1 with collection := crew }
  let plan := (agent.beginIteration now).2
  let failure := Failure.scheduler reason.message
  have verdicts : begun.verdicts plan (.error reason) =
      (agent.dueAt now).map fun handle => (handle, .error failure) := by
    rw [Agent.verdicts, due_plan, BatchOutcome.statuses, List.map_map]
    rfl
  have unmoved : merged plan (((agent.dueAt now).map fun handle =>
      (handle, (.error failure : Status Collected))).map settled) = agent.active := by
    rw [List.map_map, ← due_plan, ← map_fst_plan agent now, ← merged_due]
    exact congrArg (merged plan) (List.map_id _)
  have account := begun.account_refused stampOf (plan.countP (!·.2)) (agent.dueAt now)
    (rfl : failure.marksBroken = false)
  have finished : agent.iterated now stampOf (.error reason) crew =
      begun.finishIteration stampOf plan (.error reason) := rfl
  rw [finished, finishIteration]
  simp only [verdicts, account, unmoved]
  -- The account names nobody who is broken.
  exact {
    collected := rfl, failed := rfl, metrics := rfl, reports := rfl, pending := rfl, baselines := rfl
    broken := List.countP_eq_zero.mpr fun _ _ => Bool.false_ne_true
    active := List.filter_eq_self.mpr fun _ _ => rfl
    brokenBefore := by
      refine (congrArg (agent.broken ++ ·) ?_).trans (List.append_nil _)
      exact List.filter_eq_nil_iff.mpr fun _ _ => Bool.false_ne_true }

/-- Whether the books of the collection crew are right. -/
abbrev BooksRight (size : Nat) (agent : Agent) : Prop :=
  agent.collection.Balanced (Except InstanceFault Collected) size

variable {size : Nat}

theorem BooksRight.ordered (right : agent.BooksRight size) (order : Order) :
    (agent.collection.obey order).Balanced (Except InstanceFault Collected) size := by
  cases order with
  | shutdown => exact right.steps [.shutdown]
  | reset => exact right.steps [.reset]

theorem BooksRight.ensureHealthy (right : agent.BooksRight size) :
    agent.collection.ensureHealthy.Balanced (Except InstanceFault Collected) size := by
  unfold Crew.ensureHealthy
  split
  · exact right
  · exact right.ordered .reset

theorem Recovers.collection_eq {α : Type} {work : Operation Instance (Except InstanceFault α)}
    {batch : List Handle} {statuses : List (Handle × Status α)}
    (recovers : agent.Recovers work batch statuses after) : after.collection = agent.collection := by
  cases recovers
  rfl

theorem Recovers.booksRight {α : Type} {work : Operation Instance (Except InstanceFault α)}
    {batch : List Handle} {statuses : List (Handle × Status α)}
    (recovers : agent.Recovers work batch statuses after) (right : agent.BooksRight size) :
    after.BooksRight size := by
  rwa [BooksRight, recovers.collection_eq]

theorem BooksRight.beginInit (right : agent.BooksRight size) :
    agent.beginInit.1.BooksRight size := by
  unfold BooksRight Agent.beginInit
  dsimp only
  split
  · exact right.ordered .reset
  · exact right

theorem Answers.booksRight {call : AgentCall} (answered : agent.Answers call after)
    (right : agent.BooksRight size) : after.BooksRight size := by
  cases answered with
  | init recovers => exact recovers.booksRight right.beginInit
  | iterate now stampOf performed => exact performed.balanced right.ensureHealthy
  | nothingToRecover empty => exact right
  | recover shuffle shuffled recovers => exact recovers.booksRight right
  | cleanUp recovers => exact recovers.booksRight (right.ordered .shutdown)
  | list action recovers => exact recovers.booksRight right

theorem Idles.booksRight (idled : agent.Idles after) (right : agent.BooksRight size) :
    after.BooksRight size := by
  cases idled with
  | gripped isHeld => exact right
  | drained => exact right.steps [.drain]
  | ordered order => exact right.ordered order

variable {engine : Pattern.Engine} {settings : Settings} {calls : List AgentCall}

theorem Run.booksRight (run : Run engine settings calls agent) :
    agent.BooksRight settings.shared.collectionPoolSize := by
  induction run with
  | start => exact Crew.balanced_ofSize _ _
  | call run answered ih => exact answered.booksRight ih
  | idle run idled ih => exact idled.booksRight ih

/-- What can become of an agent of which only iterations and recoveries are asked, in whatever order,
while its collection crew is not reset. -/
inductive CarriesOn (agent : Agent) : Agent → Prop where
  | here : CarriesOn agent agent
  | call {between after : Agent} {call : AgentCall} (carriesOn : CarriesOn agent between)
      (isOne : call = .iterate ∨ call = .recover) (answered : between.Answers call after) :
      CarriesOn agent after
  | idle {between after : Agent} (carriesOn : CarriesOn agent between)
      (idled : between.Idles after) (kept : after.collection ≠ between.collection.reset) :
      CarriesOn agent after

/-- An agent whose collection crew is stopped, with a free worker. -/
structure Resting (size : Nat) (agent : Agent) : Prop where
  stopped : agent.collection.isStopped = true
  free : agent.collection.isHealthy = true
  booksRight : agent.BooksRight size

/-- All that can become of the batch of an iteration is that it is refused, by the crew as it is. -/
theorem Resting.performs_iff (resting : agent.Resting size) {outcome : BatchOutcome Collected}
    {crew : Crew} :
    agent.collection.ensureHealthy.Performs collectWork (agent.dueAt now) outcome crew ↔
      outcome = .error (.stopped agent.collection.name) ∧ crew = agent.collection := by
  rw [Crew.ensureHealthy_of_free resting.free]
  constructor
  · exact fun performed => performed.of_stopped resting.stopped
  · rintro ⟨rfl, rfl⟩
    exact .refused (if_pos resting.stopped)

theorem Resting.congr (resting : agent.Resting size) (same : after.collection = agent.collection) :
    after.Resting size := by
  obtain ⟨stopped, free, right⟩ := resting
  exact ⟨same ▸ stopped, same ▸ free, by rwa [BooksRight, same]⟩

theorem Resting.answers (resting : agent.Resting size) {call : AgentCall}
    (isOne : call = .iterate ∨ call = .recover) (answered : agent.Answers call after) :
    after.Resting size := by
  cases answered with
  | iterate now stampOf performed => exact resting.congr (resting.performs_iff.mp performed).2
  | nothingToRecover empty => exact resting
  | recover shuffle shuffled recovers => exact resting.congr recovers.collection_eq
  | _ => simp at isOne

theorem Resting.idles (resting : agent.Resting size) (idled : agent.Idles after)
    (kept : after.collection ≠ agent.collection.reset) : after.Resting size := by
  have right := idled.booksRight resting.booksRight
  cases idled with
  | gripped isHeld => exact resting.congr rfl
  | drained => exact ⟨resting.stopped, resting.booksRight.isHealthy_drain resting.free, right⟩
  | ordered order =>
    cases order with
    | shutdown => exact ⟨rfl, resting.free, right⟩
    | reset => exact absurd rfl kept

theorem Resting.carriesOn (resting : agent.Resting size) (carriesOn : agent.CarriesOn after) :
    after.Resting size := by
  induction carriesOn with
  | here => exact resting
  | call _ isOne answered ih => exact ih.answers isOne answered
  | idle _ idled kept ih => exact ih.idles idled kept

theorem Run.staffed (valid : settings.validate engine = .ok ()) (run : Run engine settings calls agent) :
    0 < agent.collection.size := by
  obtain ⟨_, books⟩ := run.booksRight
  have sized : agent.collection.size = settings.shared.collectionPoolSize := books.sized
  rw [sized]
  exact Settings.collectionPoolSize_pos valid

/-- A stopped collection crew with a free worker stays stopped, whatever iterations and recoveries
follow: it refuses the batch of each iteration, and the iteration is in vain. If every worker is busy,
the next iteration is not refused. -/
theorem stopped_stays_stopped (valid : settings.validate engine = .ok ())
    (run : Run engine settings calls agent)
    (stopped : agent.collection.isStopped = true) :
    (agent.collection.isHealthy = true → ∀ after, agent.CarriesOn after →
      after.collection.isStopped = true ∧ ∀ now stampOf,
        let refused : BatchOutcome Collected := .error (.stopped after.collection.name)
        (∀ outcome crew,
          after.collection.ensureHealthy.Performs collectWork (after.dueAt now) outcome crew ↔
            outcome = refused ∧ crew = after.collection) ∧
        after.InVain now (.stopped after.collection.name)
          (after.iterated now stampOf refused after.collection)) ∧
    (agent.collection.isHealthy = false → agent.collection.ensureHealthy.isStopped = false ∧
      ∀ now outcome crew,
        agent.collection.ensureHealthy.Performs collectWork (agent.dueAt now) outcome crew →
        ∃ turns, outcome = .ok turns) := by
  constructor
  · intro free after carriesOn
    have resting := (Resting.mk stopped free run.booksRight).carriesOn carriesOn
    refine ⟨resting.stopped, fun now stampOf => ⟨fun outcome crew => resting.performs_iff, ?_⟩⟩
    exact iterated_inVain _ _
  · intro busy
    have accepted := Crew.refusal?_ensureHealthy_of_busy busy (run.staffed valid)
    exact ⟨(Crew.refusal?_eq_none_iff.mp accepted).1,
      fun _ _ _ performed => performed.of_accepting accepted⟩

/-- Two targets are active when the crew is stopped; behind an iteration the crew is stopped still, and
the next iteration is in vain as well. -/
theorem stopped_stays_stopped_twoTargets :
    ∃ agent after, twoTargets.validate Pattern.engine = .ok () ∧
      Run Pattern.engine twoTargets [.init] agent ∧
      agent.active.length = 2 ∧ agent.collection.isStopped = true ∧
      agent.collection.isHealthy = true ∧ agent.Answers .iterate after ∧
      after.collection.isStopped = true ∧
      after.InVain 9 (.stopped after.collection.name) (after.iterated 9 (fun _ => 0)
        (.error (.stopped after.collection.name)) after.collection) := by
  obtain ⟨started, now₁, now₂, run, collection, active⟩ := twoTargets_started
  let agent : Agent := { started with collection := started.collection.obey .shutdown }
  have run : Run Pattern.engine twoTargets [.init] agent := run.idle (.ordered .shutdown)
  have two : agent.active.length = 2 := congrArg List.length active
  have free : agent.collection.isHealthy = true := by
    change started.collection.shutdown.isHealthy = true
    rw [collection]
    rfl
  obtain ⟨law, _⟩ := stopped_stays_stopped twoTargets_valid run rfl
  obtain ⟨_, first⟩ := law free agent .here
  have answered := Answers.iterate 0 (fun _ => 0) (((first 0 fun _ => 0).1 _ _).mpr ⟨rfl, rfl⟩)
  obtain ⟨stays, next⟩ := law free _ (.call .here (.inl rfl) answered)
  exact ⟨agent, _, twoTargets_valid, run, two, rfl, free, answered, stays, (next 9 fun _ => 0).2⟩

/-- A target of which no attribute is collected has no metrics. -/
theorem startedTarget_collects (name : String) (now : Nat) : ∃ after,
    (collectWork now (startedTarget name now)).CanEnd after (.ok ⟨[], false⟩) := by
  have settled : (startedTarget name now).refreshDue now = false := by
    change decide (now + 600000 ≤ now) = false
    exact decide_eq_false (by omega)
  have collected : Instance.collect now (startedTarget name now) =
      Instance.collectMatched now (startedTarget name now) := Instance.collect_eq rfl settled
  refine ⟨(startedTarget name now).collectedWith now [], ?_⟩
  change ((Instance.collect now (startedTarget name now)).andThen _).CanEnd _ _
  rw [collected]
  exact .done _ _ _

/-- A crew of one worker, which is busy with an aborted task, that was stopped in the meantime. -/
def busyCrew : Crew where
  name := "collection"
  size := 1
  pool := { idle := 0, active := 1, leaving := 1, isClosed := true }
  isStopped := true

/-- The only worker is still busy with an aborted task when the crew is stopped: the next iteration has
the crew take on its batch, and breaks an instance from which nothing should have been collected. -/
theorem busy_crew_restarts : ∃ agent after, (twoTargetsOf 1).validate Pattern.engine = .ok () ∧
    Run Pattern.engine (twoTargetsOf 1) [.init, .iterate] agent ∧ agent.collection = busyCrew ∧
    agent.active.map (·.name) = ["west"] ∧ agent.broken.map (·.name) = ["east"] ∧
    agent.Answers .iterate after ∧ after.collection.isStopped = false ∧
    after.active = [] ∧ after.broken.map (·.name) = ["east", "west"] := by
  obtain ⟨started, now₁, now₂, run, collection, active, broken⟩ := twoTargetsOf_started 1
  obtain ⟨east, collects₁⟩ := startedTarget_collects "east" now₁
  obtain ⟨west, collects₂⟩ := startedTarget_collects "west" now₂
  let first := Handle.ofInstance (startedTarget "east" now₁)
  let second := Handle.ofInstance (startedTarget "west" now₂)
  -- The crew is stopped while one task is at work and one waits; then the deadline comes.
  let turns₁ : List (Turn Collected) := [⟨.timedOut, east, true⟩, ⟨.cancelled, second.one, false⟩]
  have possible₁ : ∀ entry ∈ [first, second].zip turns₁, entry.2.CanBe collectWork entry.1.one := by
    intro entry member
    rcases List.mem_cons.mp member with rfl | member
    · exact .late now₁ true collects₁
    · cases List.mem_singleton.mp member
      exact .cancelled false
  have performed₁ : started.collection.ensureHealthy.Performs collectWork (started.dueAt 0)
      (.ok turns₁) busyCrew := by
    have due : started.dueAt 0 = [first, second] := by
      rw [dueAt, active]
      rfl
    -- The events are run on closed terms, apart from the instances.
    let floor : Floor (Except InstanceFault Collected) :=
      (Crew.ofSize "collection" 1).ensureHealthy.floorAfter 2
        [.start 0, .shutdown, .cancel 1, .abort 0]
    have endings : floor.endings? 0 2 = some [.timedOut, .cancelled] := rfl
    have stopped : floor.crew = busyCrew := rfl
    rw [collection, due, ← stopped]
    exact .performed rfl _ endings possible₁
  let agent := (started.iterated 0 (fun _ => 0) (.ok turns₁) busyCrew).1
  have run₁ : Run Pattern.engine (twoTargetsOf 1) [.init, .iterate] agent :=
    run.call (.iterate 0 _ performed₁)
  have active₁ : agent.active = [second] := by
    simp only [agent, iterated, finishIteration, beginIteration, active, concludeHealth, refreshHealth]
    rfl
  have broken₁ : agent.broken = [{ first with one := east, isHeld := true }] := by
    simp only [agent, iterated, finishIteration, beginIteration, active, broken, concludeHealth,
      refreshHealth]
    rfl
  -- The next iteration follows at once, before the aborted task has let go of its worker.
  let turns₂ : List (Turn Collected) := [⟨.completed (.ok ⟨[], false⟩), west, false⟩]
  have possible₂ : ∀ entry ∈ [second].zip turns₂, entry.2.CanBe collectWork entry.1.one := by
    intro entry member
    cases List.mem_singleton.mp member
    exact .completed now₂ collects₂
  have performed₂ : agent.collection.ensureHealthy.Performs collectWork (agent.dueAt 0)
      (.ok turns₂) busyCrew.reset := by
    have due : agent.dueAt 0 = [second] := by
      rw [dueAt, active₁]
      rfl
    let floor : Floor (Except InstanceFault Collected) :=
      busyCrew.ensureHealthy.floorAfter 1 [.start 0, .finish 0 (.ok ⟨[], false⟩)]
    have endings : floor.endings? 0 1 = some [.completed (.ok ⟨[], false⟩)] := rfl
    have restarted : floor.crew = busyCrew.reset := rfl
    rw [due, ← restarted]
    exact .performed rfl _ endings possible₂
  refine ⟨agent, _, Settings.valid_of_toOption (by decide +kernel), run₁, rfl, ?_, ?_,
    .iterate 0 (fun _ => 0) performed₂, rfl, ?_, ?_⟩
  · rw [active₁]
    rfl
  · rw [broken₁]
    rfl
  · simp only [iterated, finishIteration, beginIteration, active₁, concludeHealth, refreshHealth]
    rfl
  · simp only [iterated, finishIteration, beginIteration, active₁, broken₁, concludeHealth,
      refreshHealth]
    rfl

end Agent
end BeanHarvest
