import BeanHarvest.Proofs.Agent.Stopping
import BeanHarvest.Proofs.Target.Repeating

/-! Batches that are completed. A crew that nobody stops refuses a batch only if it has no workers at
all; whatever happens meanwhile, it is the same crew afterwards. What a completed batch comes to is then
told by what each of its tasks comes to. -/
namespace BeanHarvest

/-- A crew of a name and a size that takes on batches. -/
structure Crew.Serves (name : String) (size : Nat) (crew : Crew) : Prop where
  named : crew.name = name
  sized : crew.size = size
  going : crew.isStopped = false

namespace Floor

variable {α : Type} {floor after : Floor α}

/-- Whatever happens, a crew goes by the same name and has places for as many. -/
theorem same_crew_of_change (change : floor.Change after) :
    after.crew.name = floor.crew.name ∧ after.crew.size = floor.crew.size := by
  cases change with
  | moved => exact ⟨Crew.name_withPool .., Crew.size_withPool ..⟩
  | straggled => exact ⟨Crew.name_withPool .., Crew.size_withPool ..⟩
  | closed => exact ⟨Crew.name_withPool .., Crew.size_withPool ..⟩
  | spawned => exact ⟨rfl, rfl⟩
  | drained => exact ⟨rfl, rfl⟩
  | renewed => exact ⟨rfl, rfl⟩
  | switched => exact ⟨rfl, rfl⟩

theorem same_crew (floor : Floor α) (events : List (FloorEvent α)) :
    (floor.steps events).crew.name = floor.crew.name ∧
      (floor.steps events).crew.size = floor.crew.size := by
  apply (changes_steps events).keep fun reached =>
    reached.crew.name = floor.crew.name ∧ reached.crew.size = floor.crew.size
  · intro before after change same
    obtain ⟨name, size⟩ := same_crew_of_change change
    exact ⟨name.trans same.1, size.trans same.2⟩
  · exact ⟨rfl, rfl⟩

/-- Every task is started and finished, in the order of their places from some place on. -/
def eachInTurn : (place : Nat) → List α → List (FloorEvent α)
  | _, [] => []
  | place, result :: results =>
    .start place :: .finish place result :: eachInTurn (place + 1) results

/-- A task that has a worker of the pool at work and gives it back leaves no trace in the crew. -/
theorem steps_start_finish {crew : Crew} (isOpen : crew.pool.isClosed = false)
    (idle : 0 < crew.pool.idle) (before rest : List (FloorTask α)) (result : α) :
    (⟨crew, before ++ ⟨crew.poolNumber, .waiting⟩ :: rest⟩ : Floor α).steps
        [.start before.length, .finish before.length result] =
      ⟨crew, before ++ ⟨crew.poolNumber, .ended (.completed result)⟩ :: rest⟩ := by
  have enough : crew.pool.idle - 1 + 1 = crew.pool.idle := Nat.sub_add_cancel idle
  let working : Crew := { crew with pool := crew.pool.engage.count }
  have started : (⟨crew, before ++ ⟨crew.poolNumber, .waiting⟩ :: rest⟩ : Floor α).step
      (.start before.length) = ⟨working, before ++ ⟨crew.poolNumber, .running⟩ :: rest⟩ := by
    simp [step, advance, Crew.pool?_poolNumber, TaskStep.afterAll?, TaskStep.after?, move,
      Crew.withPool, List.set_append_right, isOpen, idle, working]
  have back : working.pool.uncount.release = crew.pool := by
    simp [working, Pool.engage, Pool.count, Pool.uncount, Pool.release, Pool.lowered, enough]
  have same : { working with pool := crew.pool } = crew := rfl
  have number : working.poolNumber = crew.poolNumber := rfl
  have finished : (⟨working, before ++ ⟨working.poolNumber, .running⟩ :: rest⟩ : Floor α).step
      (.finish before.length result) =
        ⟨crew, before ++ ⟨working.poolNumber, .ended (.completed result)⟩ :: rest⟩ := by
    simp [step, advance, Crew.pool?_poolNumber, TaskStep.afterAll?, TaskStep.after?, move,
      Crew.withPool, List.set_append_right, back, same]
  simp only [steps, List.foldl_cons, List.foldl_nil, started]
  exact finished

theorem steps_eachInTurn {crew : Crew} (isOpen : crew.pool.isClosed = false)
    (idle : 0 < crew.pool.idle) (before : List (FloorTask α)) (results : List α) :
    (⟨crew, before ++ List.replicate results.length ⟨crew.poolNumber, .waiting⟩⟩ : Floor α).steps
        (eachInTurn before.length results) =
      ⟨crew, before ++ results.map fun result => ⟨crew.poolNumber, .ended (.completed result)⟩⟩ := by
  induction results generalizing before with
  | nil => rfl
  | cons result results ih =>
    have first := steps_start_finish isOpen idle before
      (List.replicate results.length ⟨crew.poolNumber, .waiting⟩) result
    have rest := ih (before ++ [⟨crew.poolNumber, .ended (.completed result)⟩])
    simp only [List.append_assoc, List.singleton_append, List.length_append, List.length_singleton]
      at rest
    simp only [steps, List.foldl_cons, List.foldl_nil] at first rest ⊢
    rw [eachInTurn, List.length_cons, List.replicate_succ, List.foldl_cons, List.foldl_cons, first, rest,
      List.map_cons]

end Floor

namespace Crew

variable {crew after : Crew} {name : String} {size : Nat}

theorem serves_ofSize (name : String) (size : Nat) : (ofSize name size).Serves name size :=
  ⟨rfl, rfl, rfl⟩

theorem Serves.ensureHealthy (serves : crew.Serves name size) :
    crew.ensureHealthy.Serves name size := by
  unfold Crew.ensureHealthy
  split
  · exact serves
  · exact ⟨serves.named, serves.sized, rfl⟩

theorem Serves.drain (serves : crew.Serves name size) : crew.drain.Serves name size :=
  ⟨serves.named, serves.sized, serves.going⟩

/-- Busy workers are replaced before a batch is taken on; if it is refused still, there are none. -/
theorem Serves.refusal? (serves : crew.Serves name size) :
    crew.ensureHealthy.refusal? = if 0 < size then none else some (.exhausted name 0 size) := by
  obtain ⟨rfl, rfl, going⟩ := serves
  by_cases free : crew.isHealthy = true
  · have staffed : 0 < crew.size := Nat.lt_of_le_of_lt (Nat.zero_le _) (of_decide_eq_true free)
    rw [ensureHealthy_of_free free, if_pos staffed, refusal?_eq_none_iff]
    exact ⟨going, of_decide_eq_true free⟩
  · have busy : crew.isHealthy = false := Bool.eq_false_iff.mpr free
    by_cases staffed : 0 < crew.size
    · rw [if_pos staffed]
      exact refusal?_ensureHealthy_of_busy busy staffed
    · rw [if_neg staffed, Crew.ensureHealthy, if_neg (by simp [busy]), Crew.refusal?]
      have none_left : crew.reset.isHealthy = false := decide_eq_false staffed
      rw [none_left]
      rfl

variable {α : Type} {work : Operation Instance (Except InstanceFault α)} {batch : List Handle}
  {outcome : BatchOutcome α}

/-- A crew serves on after a batch unless it was stopped meanwhile. -/
theorem Serves.performs (serves : crew.Serves name size)
    (performed : crew.Performs work batch outcome after) (going : after.isStopped = false) :
    after.Serves name size := by
  cases performed with
  | refused => exact serves
  | performed _ events =>
    obtain ⟨same_name, same_size⟩ := Floor.same_crew ⟨crew, []⟩
      (.enlist batch.length :: events)
    exact ⟨same_name.trans serves.named, same_size.trans serves.sized, going⟩

structure HasIdle (crew : Crew) : Prop where
  isOpen : crew.pool.isClosed = false
  idle : 0 < crew.pool.idle

/-- A crew that has an idle worker can complete the tasks of a batch one after the other. -/
theorem HasIdle.performs (hasIdle : crew.HasIdle) (accepted : crew.refusal? = none)
    {turns : List (Turn α)} (results : List (Except InstanceFault α))
    (endings : turns.map (·.ending) = results.map .completed) (enough : turns.length = batch.length)
    (possible : ∀ entry ∈ batch.zip turns, entry.2.CanBe work entry.1.one) :
    crew.Performs work batch (.ok turns) crew := by
  let finished : List (FloorTask (Except InstanceFault α)) := results.map fun result =>
    ⟨crew.poolNumber, .ended (.completed result)⟩
  have as_many : results.length = batch.length := by
    have lengths := congrArg List.length endings
    rw [List.length_map, List.length_map] at lengths
    exact lengths.symm.trans enough
  have enlisted : (⟨crew, []⟩ : Floor (Except InstanceFault α)).enlist batch.length =
      ⟨crew, [] ++ List.replicate results.length ⟨crew.poolNumber, .waiting⟩⟩ := by
    simp only [Floor.enlist, accepted, Floor.spawn, as_many]
  have done : crew.floorAfter batch.length (Floor.eachInTurn 0 results) = ⟨crew, finished⟩ := by
    rw [floorAfter, enlisted]
    exact Floor.steps_eachInTurn hasIdle.isOpen hasIdle.idle [] results
  have ended : (crew.floorAfter batch.length (Floor.eachInTurn 0 results)).endings? 0 batch.length =
      some (turns.map (·.ending)) := by
    have whole : (finished.drop 0).take batch.length = finished :=
      List.take_of_length_le (by simp [finished, as_many])
    rw [done, Floor.endings?, whole, mapM_eq_some_iff, endings, List.forall₂_map_left_iff,
      List.forall₂_map_right_iff]
    exact List.forall₂_same.mpr fun _ _ => rfl
  have performs : crew.Performs work batch (.ok turns) _ := .performed accepted _ ended possible
  rwa [done] at performs

/-- Why every task of a batch fails that a crew without workers is given. -/
def unstaffed (name : String) : Failure := .scheduler (Refusal.exhausted name 0 0).message

end Crew

namespace Turn

variable {α : Type} {work : Operation Instance (Except InstanceFault α)} {one : Instance}
  {answer : (call : Call) → call.Outcome} {turn : Turn α}

/-- Whether a turn has come to its end, well or not. -/
def Completes (turn : Turn α) : Prop := ∃ result, turn.ending = .completed result

/-- What work on an instance that comes to its end can make of it, whatever it is answered. -/
theorem Completes.meets {atEnd : Instance → Except InstanceFault α → Prop}
    (completes : turn.Completes) (possible : turn.CanBe work one)
    (met : ∀ start, (work start one).Meets (fun _ => True) atEnd) :
    ∃ result, turn.ending = .completed result ∧ atEnd turn.after result := by
  obtain ⟨result, completed⟩ := completes
  cases possible with
  | completed start ends =>
    cases completed
    exact ⟨result, rfl, ends.meets (met start)⟩
  | _ => cases completed

/-- The turns that come to their end at a target that answers alike each time. -/
inductive CompletesBy (answer : (call : Call) → call.Outcome)
    (work : Operation Instance (Except InstanceFault α)) (one : Instance) : Turn α → Prop where
  | mk {answers : List Answer} {last : Nat} {after : Instance} {result : Except InstanceFault α}
      (start : Nat) (ends : (work start one).Ends answers last after result)
      (allowed : ∀ given ∈ answers, (Promise.always answer).Allows given) :
      CompletesBy answer work one ⟨.completed result, after, false⟩

theorem CompletesBy.canBe (completes : turn.CompletesBy answer work one) : turn.CanBe work one := by
  cases completes with
  | mk start ends => exact .completed start ends.canEnd

theorem CompletesBy.completes (completes : turn.CompletesBy answer work one) : turn.Completes := by
  cases completes
  exact ⟨_, rfl⟩

theorem CompletesBy.comesTo {atEnd : Instance → Except InstanceFault α → Prop}
    (completes : turn.CompletesBy answer work one)
    (comes : ∀ start, (work start one).ComesTo answer atEnd) :
    ∃ after result, turn = ⟨.completed result, after, false⟩ ∧ atEnd after result := by
  cases completes with
  | mk start ends allowed => exact ⟨_, _, rfl, ends.meetsUnder allowed (comes start)⟩

theorem exists_completesBy (answer : (call : Call) → call.Outcome)
    (work : Operation Instance (Except InstanceFault α)) (one : Instance) :
    ∃ turn, CompletesBy answer work one turn := by
  obtain ⟨answers, last, after, result, ends, allowed⟩ := (work 0 one).ends_always answer
  exact ⟨_, .mk 0 ends allowed⟩

end Turn

theorem Status.ofEnding_completed {α : Type} (timeout : Nat) (result : Except InstanceFault α) :
    Status.ofEnding timeout (.completed result) = result.mapError Failure.ofInstance := by
  cases result <;> rfl

theorem BatchOutcome.statuses_ok {α : Type} (timeout : Nat) (batch : List Handle)
    (turns : List (Turn α)) :
    statuses timeout batch (.ok turns) = (batch.zip turns).map fun entry =>
      (entry.1.afterTurn entry.2, Status.ofEnding timeout entry.2.ending) := by
  rw [List.map_zip_eq_zipWith]
  rfl

namespace Agent

variable {α : Type} {agent after : Agent} {work : Operation Instance (Except InstanceFault α)}
  {can : Handle → Turn α → Prop} {batch : List Handle} {statuses : List (Handle × Status α)}
  {name : String} {size : Nat}

/-- The agent after its recovery crew, which nobody has stopped, has dealt with a batch, and what the
tasks came to, where a turn on a handle goes as it can. -/
inductive Deals (agent : Agent) (work : Operation Instance (Except InstanceFault α))
    (can : Handle → Turn α → Prop) (batch : List Handle) :
    List (Handle × Status α) → Agent → Prop where
  | mk {outcome : BatchOutcome α} {crew : Crew}
      (performed : agent.recovery.Performs work batch outcome crew)
      (going : crew.isStopped = false)
      (went : ∀ turns, outcome = .ok turns → ∀ entry ∈ batch.zip turns, can entry.1 entry.2) :
      Deals agent work can batch (outcome.statuses agent.recoveryTimeout batch)
        { agent with recovery := crew }

theorem Deals.recovers (deals : agent.Deals work can batch statuses after) :
    agent.Recovers work batch statuses after := by
  cases deals with
  | mk performed => exact .mk performed

theorem Deals.imp {other : Handle → Turn α → Prop} (deals : agent.Deals work can batch statuses after)
    (implies : ∀ handle turn, can handle turn → other handle turn) :
    agent.Deals work other batch statuses after := by
  cases deals with
  | mk performed going went =>
    exact .mk performed going fun turns same entry member => implies _ _ (went turns same entry member)

theorem Deals.serves (deals : agent.Deals work can batch statuses after)
    (serves : agent.recovery.Serves name size) :
    ∃ recovery : Crew, recovery.Serves name size ∧ after = { agent with recovery } := by
  cases deals with
  | mk performed going => exact ⟨_, serves.performs performed going, rfl⟩

variable {crew : Crew} (serves : crew.Serves name size) (begun : agent.recovery = crew.ensureHealthy)
include serves begun

/-- A crew with workers gives every handle its turn. -/
theorem Deals.of_staffed (deals : agent.Deals work can batch statuses after) (staffed : 0 < size) :
    ∃ turns : List (Turn α), turns.length = batch.length ∧
      (∀ entry ∈ batch.zip turns, entry.2.CanBe work entry.1.one ∧ can entry.1 entry.2) ∧
      statuses = (batch.zip turns).map fun entry =>
        (entry.1.afterTurn entry.2, Status.ofEnding agent.recoveryTimeout entry.2.ending) := by
  cases deals with
  | mk performed going went =>
    have accepted : agent.recovery.refusal? = none := by
      rw [begun, serves.refusal?, if_pos staffed]
    obtain ⟨turns, rfl⟩ := performed.of_accepting accepted
    refine ⟨turns, performed.length, fun entry member => ?_, BatchOutcome.statuses_ok ..⟩
    exact ⟨performed.possible entry member, went turns rfl entry member⟩

/-- Without workers a batch is refused, and its handles are as they were. -/
theorem Deals.of_unstaffed (deals : agent.Deals work can batch statuses after) (bare : size = 0) :
    statuses = batch.map fun handle => (handle, .error (Crew.unstaffed name)) := by
  cases deals with
  | mk performed going went =>
    have refuses : agent.recovery.refusal? = some (.exhausted name 0 0) := by
      rw [begun, serves.refusal?, bare]
      rfl
    cases performed with
    | refused found =>
      cases refuses.symm.trans found
      rfl
    | performed accepted => cases refuses.symm.trans accepted

/-- What is read off the statuses of a batch is known if it is known for every turn, and for batches
that are refused. -/
theorem Deals.reads {β : Type} (read : Handle × Status α → β) {known : Handle → β}
    (deals : agent.Deals work can batch statuses after)
    (each : 0 < size → ∀ handle ∈ batch, ∀ turn, can handle turn →
      read (handle.afterTurn turn, Status.ofEnding agent.recoveryTimeout turn.ending) = known handle)
    (refused : size = 0 → ∀ handle, read (handle, .error (Crew.unstaffed name)) = known handle) :
    statuses.map read = batch.map known := by
  by_cases staffed : 0 < size
  · obtain ⟨turns, enough, went, rfl⟩ := deals.of_staffed serves begun staffed
    have firsts : (batch.zip turns).map Prod.fst = batch :=
      List.map_fst_zip (Nat.le_of_eq enough.symm)
    have alone : (batch.zip turns).map (known ∘ Prod.fst) = batch.map known := by
      rw [← List.map_map, firsts]
    rw [List.map_map, ← alone]
    refine List.map_congr_left fun entry member => ?_
    exact each staffed entry.1 (List.of_mem_zip member).1 entry.2 (went entry member).2
  · have bare : size = 0 := Nat.eq_zero_of_not_pos staffed
    rw [deals.of_unstaffed serves begun bare, List.map_map]
    exact List.map_congr_left fun handle _ => refused bare handle

/-- A crew that has an idle worker, or none at all, is as it was after a batch that is completed at
targets which answer alike each time. -/
theorem exists_deals (answer : Handle → (call : Call) → call.Outcome)
    (work : Operation Instance (Except InstanceFault α)) (batch : List Handle)
    (able : 0 < size → agent.recovery.HasIdle) : ∃ statuses,
      agent.Deals work (fun handle => Turn.CompletesBy (answer handle) work handle.one) batch statuses
        agent := by
  have going := serves.ensureHealthy.going
  rw [← begun] at going
  by_cases staffed : 0 < size
  · choose turn completes using fun handle : Handle =>
      Turn.exists_completesBy (answer handle) work handle.one
    choose result completed using fun handle => (completes handle).completes
    have accepted : agent.recovery.refusal? = none := by
      rw [begun, serves.refusal?, if_pos staffed]
    have turned : ∀ entry ∈ batch.zip (batch.map turn), entry.2 = turn entry.1 := by
      intro entry member
      have pairs : batch.zip (batch.map turn) = batch.map fun handle => (handle, turn handle) := by
        simpa only [List.map_id, id] using List.zip_map' (f := id) (g := turn) (l := batch)
      rw [pairs] at member
      obtain ⟨handle, _, rfl⟩ := List.mem_map.mp member
      rfl
    have performed : agent.recovery.Performs work batch (.ok (batch.map turn)) agent.recovery := by
      refine (able staffed).performs accepted (batch.map result) ?_ ?_ ?_
      · simp only [List.map_map, Function.comp_def, completed]
      · exact List.length_map _
      · intro entry member
        rw [turned entry member]
        exact (completes entry.1).canBe
    refine ⟨_, .mk performed going ?_⟩
    rintro _ ⟨⟩ entry member
    rw [turned entry member]
    exact completes entry.1
  · have refused : agent.recovery.Performs work batch (.error (.exhausted name 0 size))
        agent.recovery := by
      apply Crew.Performs.refused
      rw [begun, serves.refusal?, if_neg staffed]
    exact ⟨_, .mk refused going nofun⟩

end Agent
end BeanHarvest
