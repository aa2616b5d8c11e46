import BeanHarvest.Pattern.Search
import BeanHarvest.Proofs.Agent.Verdicts
import BeanHarvest.Proofs.Crew.Batches
import BeanHarvest.Proofs.Instance.Starting
import BeanHarvest.Proofs.Settings.Names

/-! No instance is lost and none is there twice: whatever an agent is asked, and whatever comes of it,
its three lists together are the configured instances, and what it tells of itself is true. -/
namespace BeanHarvest

/-- Whether work leaves every instance made of the same. -/
abbrev Operation.Faithful {α : Type} (work : Operation Instance (Except InstanceFault α)) : Prop :=
  ∀ first, work.Keeps (Instance.SameOrigin first)

section
variable {α : Type} {work : Operation Instance (Except InstanceFault α)} {one : Instance} {turn : Turn α}

/-- What work keeps is kept by a turn, unless the task panics. -/
theorem Turn.CanBe.kept {kept : Instance → Prop} (possible : turn.CanBe work one)
    (keeps : work.Keeps kept) (holds : kept one) :
    kept turn.after ∨ (∃ message, turn.ending = .panicked message) ∧ turn.after.origin = one.origin := by
  cases possible with
  | completed start ends => exact .inl (ends.meets (keeps start one holds))
  | cancelled isHeld => exact .inl holds
  | waited isHeld => exact .inl holds
  | cutShort start isHeld stops => exact .inl (stops.meets (keeps start one holds))
  | late start isHeld ends => exact .inl (ends.meets (keeps start one holds))
  | panicked message same => exact .inr ⟨⟨message, rfl⟩, same⟩

theorem Turn.CanBe.origin (possible : turn.CanBe work one) (faithful : work.Faithful) :
    turn.after.origin = one.origin := by
  rcases possible.kept (faithful one) rfl with same | ⟨_, same⟩
  · exact same
  · exact same

end

/-- What can be read off a handle after its turn as well comes back with the batch, in its order. -/
theorem BatchOutcome.reads_of_turns {α β : Type} (read : Handle → β) (timeout : Nat)
    {batch : List Handle} {turns : List (Turn α)} (enough : turns.length = batch.length)
    (steady : ∀ entry ∈ batch.zip turns, read (entry.1.afterTurn entry.2) = read entry.1) :
    (statuses timeout batch (.ok turns)).map (fun entry => read entry.1) = batch.map read := by
  induction batch generalizing turns with
  | nil => simp [statuses]
  | cons handle batch ih =>
    cases turns with
    | nil => simp at enough
    | cons turn turns =>
      have same : read (handle.afterTurn turn) = read handle := steady (handle, turn) (by simp)
      have rest := ih (by simpa using enough) fun entry member => steady entry (by simp [member])
      simpa [statuses, same] using rest

namespace Crew

variable {α : Type} {crew after : Crew} {work : Operation Instance (Except InstanceFault α)}
  {batch : List Handle} {outcome : BatchOutcome α}

/-- Every handle of a batch that is not refused has its turn. -/
theorem Performs.length {turns : List (Turn α)}
    (performed : crew.Performs work batch (.ok turns) after) : turns.length = batch.length := by
  cases performed with
  | performed accepted events finished possible =>
    let empty : Floor (Except InstanceFault α) := ⟨crew, []⟩
    have enlisted : 0 + batch.length ≤ (empty.enlist batch.length).tasks.length :=
      Nat.le_of_eq (Floor.length_enlist empty batch.length accepted).symm
    simpa using Floor.length_endings finished (Nat.le_trans enlisted (Floor.length_le_steps events))

theorem Performs.possible {turns : List (Turn α)}
    (performed : crew.Performs work batch (.ok turns) after) :
    ∀ entry ∈ batch.zip turns, entry.2.CanBe work entry.1.one := by
  cases performed with
  | performed accepted events finished possible => exact possible

theorem Performs.reads {β : Type} (read : Handle → β) (timeout : Nat)
    (performed : crew.Performs work batch outcome after)
    (steady : ∀ turns, outcome = .ok turns → ∀ entry ∈ batch.zip turns,
      read (entry.1.afterTurn entry.2) = read entry.1) :
    (outcome.statuses timeout batch).map (fun entry => read entry.1) = batch.map read := by
  cases outcome with
  | error refusal => simp [BatchOutcome.statuses]
  | ok turns => exact BatchOutcome.reads_of_turns read timeout performed.length (steady turns rfl)

/-- A batch comes back with the instances that it was begun with, in their order. -/
theorem Performs.origins (performed : crew.Performs work batch outcome after)
    (faithful : work.Faithful) (timeout : Nat) :
    (outcome.statuses timeout batch).map (·.1.origin) = batch.map Handle.origin := by
  refine performed.reads Handle.origin timeout ?_
  rintro turns rfl entry member
  have same : entry.2.after.origin = entry.1.one.origin :=
    (performed.possible entry member).origin faithful
  simp [Handle.origin, Handle.afterTurn, same]

end Crew

namespace Agent

variable {agent after : Agent}

def handles (agent : Agent) : List Handle := agent.pending ++ agent.active ++ agent.broken

theorem pending_sublist (agent : Agent) : agent.pending.Sublist agent.handles :=
  (List.sublist_append_left _ _).trans (List.sublist_append_left _ _)

theorem active_sublist (agent : Agent) : agent.active.Sublist agent.handles :=
  (List.sublist_append_right _ _).trans (List.sublist_append_left _ _)

theorem broken_sublist (agent : Agent) : agent.broken.Sublist agent.handles :=
  List.sublist_append_right _ _

theorem mem_handles_of_active {handle : Handle} (active : handle ∈ agent.active) :
    handle ∈ agent.handles := agent.active_sublist.subset active

/-- The instances of an agent as they were before anything was done with them. -/
def origins (agent : Agent) : List Handle := agent.handles.map Handle.origin

/-- What is told of an agent that has begun so many iterations is true. -/
structure Truthful (agent : Agent) (count : Nat) : Prop where
  counted : agent.iteration = count
  active : agent.health.active = agent.active.length
  broken : agent.health.broken = agent.broken.map (·.name)
  iterations : agent.health.iterations = count
  isReady : agent.health.isReady = true ↔ 0 < count

private theorem perm_rotate {α : Type} (first second third : List α) :
    (second ++ third ++ first).Perm (first ++ second ++ third) := by
  rw [List.append_assoc first]
  exact List.perm_append_comm

/-- Succeeded or failed, a batch comes back as a whole. -/
theorem parted_perm {α : Type} (statuses : List (Handle × Status α)) :
    (succeeded statuses ++ failed statuses).Perm (statuses.map (·.1)) := by
  have parted := List.filter_append_perm (fun entry => entry.2.toOption.isSome) statuses
  have negated : (fun entry : Handle × Status α => !entry.2.toOption.isSome) =
      fun entry => entry.2.toOption.isNone := by
    funext entry
    cases entry.2.toOption <;> rfl
  rw [negated] at parted
  simpa [succeeded, failed] using parted.map (·.1)

/-- What the recovery crew does changes nothing else, and the batch comes back with its instances. -/
theorem Recovers.inv {α : Type} {work : Operation Instance (Except InstanceFault α)}
    {batch : List Handle} {statuses : List (Handle × Status α)}
    (recovers : agent.Recovers work batch statuses after) (faithful : work.Faithful) :
    statuses.map (·.1.origin) = batch.map Handle.origin ∧
      ∃ recovery, after = { agent with recovery } := by
  cases recovers with
  | mk performed => exact ⟨performed.origins faithful _, _, rfl⟩

theorem finishInit_perm (statuses : List (Handle × Status Unit)) :
    ((agent.finishInit statuses).1.handles).Perm (agent.handles ++ statuses.map (·.1)) := by
  have shape : (agent.finishInit statuses).1.handles = agent.pending ++
      (agent.active ++ succeeded statuses) ++ (agent.broken ++ failed statuses) := rfl
  rw [shape]
  refine .trans ?_ ((parted_perm statuses).append_left agent.handles)
  unfold handles
  simp only [List.append_assoc]
  refine .append_left _ (.append_left _ ?_)
  simp only [← List.append_assoc]
  exact .append_right _ List.perm_append_comm

/-! What can be read off the handles of a batch before and after, can be read off the handles of the
agent before and after. -/

section
variable {β : Type} (read : Handle → β) (recovery : Crew)

theorem init_perm {statuses : List (Handle × Status Unit)}
    (back : statuses.map (fun entry => read entry.1) = agent.beginInit.2.map read) :
    ((({ agent.beginInit.1 with recovery } : Agent).finishInit statuses).1.handles.map read).Perm
      (agent.handles.map read) := by
  refine ((finishInit_perm statuses).map read).trans ?_
  simp only [List.map_append, List.map_map, Function.comp_def, back]
  simp only [handles, beginInit, List.map_append, List.nil_append]
  exact perm_rotate _ _ _

theorem recover_perm {shuffle : List Handle → List Handle}
    (shuffled : (shuffle agent.broken).Perm agent.broken) {statuses : List (Handle × Status Unit)}
    (back : statuses.map (fun entry => read entry.1) = (agent.beginRecovery shuffle).2.map read) :
    ((({ (agent.beginRecovery shuffle).1 with recovery } : Agent).finishRecovery
      statuses).1.handles.map read).Perm (agent.handles.map read) := by
  refine ((finishInit_perm statuses).map read).trans ?_
  simp only [List.map_append, List.map_map, Function.comp_def, back]
  simp only [handles, beginRecovery, List.map_append, List.append_nil]
  exact .append_left _ (shuffled.map _)

theorem cleanUp_perm {statuses : List (Handle × Status Unit)}
    (back : statuses.map (fun entry => read entry.1) = agent.beginCleanUp.2.map read) :
    ((({ agent.beginCleanUp.1 with recovery } : Agent).finishCleanUp statuses).handles.map read).Perm
      (agent.handles.map read) := by
  simp only [handles, finishCleanUp, refreshHealth, beginCleanUp, List.map_append, List.map_map,
    Function.comp_def, List.nil_append, List.append_nil, List.map_nil] at back ⊢
  rw [back]
  exact perm_rotate _ _ _

theorem list_perm {statuses : List (Handle × Status MatchReport)}
    (back : statuses.map (fun entry => read entry.1) = agent.beginList.2.map read) :
    ((({ agent.beginList.1 with recovery } : Agent).finishList statuses).1.handles.map read).Perm
      (agent.handles.map read) := by
  simp only [handles, finishList, beginList, List.map_append, List.map_map, Function.comp_def,
    List.nil_append] at back ⊢
  rw [back]

end

/-- To settle what a task came to is at most to mark the instance as broken. -/
theorem settled_cases (entry : Handle × Status Collected) :
    settled entry = entry.1 ∨ settled entry = { entry.1 with one := entry.1.one.markBroken } := by
  obtain ⟨handle, status⟩ := entry
  cases status with
  | ok collected => exact .inl rfl
  | error failure =>
    simp only [settled, Handle.markBroken]
    split
    · split
      · exact .inl rfl
      · exact .inr rfl
    · exact .inl rfl

theorem settled_origin (entry : Handle × Status Collected) :
    (settled entry).origin = entry.1.origin := by
  rcases settled_cases entry with same | same
  · rw [same]
  · rw [same]
    rfl

/-- An iteration takes the instances that were due back as they were settled, and only moves active
instances to the broken ones. -/
theorem iterated_handles_perm (now : Nat) (stampOf : (name : String) → Int)
    (outcome : BatchOutcome Collected) (crew : Crew) :
    let begun : Agent := { (agent.beginIteration now).1 with collection := crew }
    let plan := (agent.beginIteration now).2
    (agent.iterated now stampOf outcome crew).1.handles.Perm (agent.pending ++
      merged plan ((begun.verdicts plan outcome).map settled) ++ agent.broken) := by
  intro begun plan
  let active := merged plan ((begun.verdicts plan outcome).map settled)
  obtain ⟨isBroken, parted⟩ : ∃ isBroken : Handle → Bool,
      (agent.iterated now stampOf outcome crew).1.handles =
        agent.pending ++ active.filter (fun handle => !isBroken handle) ++
          (agent.broken ++ active.filter isBroken) := ⟨_, rfl⟩
  have whole : (active.filter (fun handle => !isBroken handle) ++ active.filter isBroken).Perm
      active := List.perm_append_comm.trans (List.filter_append_perm isBroken active)
  rw [parted]
  simp only [List.append_assoc]
  refine .append_left _ (.trans ?_ (whole.append_right agent.broken))
  rw [List.append_assoc]
  exact .append_left _ List.perm_append_comm

theorem iterated_origins {now : Nat} {stampOf : (name : String) → Int}
    {outcome : BatchOutcome Collected} {crew : Crew}
    (performed : agent.collection.ensureHealthy.Performs collectWork (agent.dueAt now) outcome crew) :
    (agent.iterated now stampOf outcome crew).1.origins.Perm agent.origins := by
  let begun : Agent := { (agent.beginIteration now).1 with collection := crew }
  let plan := (agent.beginIteration now).2
  have same : ((begun.verdicts plan outcome).map settled).map Handle.origin =
      (due plan).map Handle.origin := by
    have back := performed.origins (fun _ => collectWork_keeps_origin) agent.collectionTimeout
    rw [← due_plan agent now] at back
    rw [← back]
    simp only [verdicts, List.map_map, Function.comp_def, settled_origin]
    rfl
  have kept : (merged plan ((begun.verdicts plan outcome).map settled)).map Handle.origin =
      agent.active.map Handle.origin := by
    rw [merged_map Handle.origin same]
    simp [plan, beginIteration]
  refine ((iterated_handles_perm now stampOf outcome crew).map Handle.origin).trans ?_
  rw [List.map_append, List.map_append, kept, origins, handles, List.map_append, List.map_append]

theorem Answers.origins_perm {call : AgentCall} (answered : agent.Answers call after) :
    after.origins.Perm agent.origins := by
  cases answered with
  | init recovers =>
    obtain ⟨back, recovery, rfl⟩ := recovers.inv fun _ => Instance.init_keeps_origin _ _
    exact init_perm Handle.origin recovery back
  | iterate now stampOf performed => exact iterated_origins performed
  | nothingToRecover empty => exact .refl _
  | recover shuffle shuffled recovers =>
    obtain ⟨back, recovery, rfl⟩ := recovers.inv fun _ => Instance.init_keeps_origin _ _
    exact recover_perm Handle.origin recovery shuffled back
  | cleanUp recovers =>
    obtain ⟨back, recovery, rfl⟩ := recovers.inv fun _ => cleanUpWork_keeps_origin
    exact cleanUp_perm Handle.origin recovery back
  | list action recovers =>
    obtain ⟨back, recovery, rfl⟩ := recovers.inv fun _ => listWork_keeps_origin action
    exact list_perm Handle.origin recovery back

theorem Answers.truthful {call : AgentCall} {count : Nat} (answered : agent.Answers call after)
    (truthful : agent.Truthful count) :
    after.Truthful (count + if call = .iterate then 1 else 0) := by
  obtain ⟨counted, active, broken, iterations, isReady⟩ := truthful
  cases answered with
  | init recovers =>
    obtain ⟨_, recovery, rfl⟩ := recovers.inv fun _ => Instance.init_keeps_origin _ _
    exact ⟨counted, rfl, rfl, iterations, isReady⟩
  | @iterate now stampOf outcome crew performed =>
    let begun : Agent := { (agent.beginIteration now).1 with collection := crew }
    let plan := (agent.beginIteration now).2
    have number : (begun.account stampOf (plan.countP (!·.2))
        (begun.verdicts plan outcome)).summary.iteration = agent.iteration + 1 :=
      (Account.foldl_add_begun _ stampOf _).1
    refine ⟨?_, rfl, rfl, ?_, ?_⟩
    · exact congrArg (· + 1) counted
    · exact number.trans (congrArg (· + 1) counted)
    · exact ⟨fun _ => Nat.succ_pos _, fun _ => rfl⟩
  | nothingToRecover empty => exact ⟨counted, active, broken, iterations, isReady⟩
  | recover shuffle shuffled recovers =>
    obtain ⟨_, recovery, rfl⟩ := recovers.inv fun _ => Instance.init_keeps_origin _ _
    exact ⟨counted, rfl, rfl, iterations, isReady⟩
  | cleanUp recovers =>
    obtain ⟨_, recovery, rfl⟩ := recovers.inv fun _ => cleanUpWork_keeps_origin
    exact ⟨counted, rfl, rfl, iterations, isReady⟩
  | list action recovers =>
    obtain ⟨_, recovery, rfl⟩ := recovers.inv fun _ => listWork_keeps_origin action
    exact ⟨counted, active, broken, iterations, isReady⟩

/-- What can be read off a handle whether it is held or not stays while nothing is asked of the agent. -/
theorem Idles.reads {β : Type} (read : Handle → β)
    (steady : ∀ handle isHeld, read { handle with isHeld } = read handle) (idled : agent.Idles after) :
    after.handles.map read = agent.handles.map read := by
  cases idled with
  | gripped isHeld =>
    simp only [handles, Agent.gripped, List.map_append, List.map_map, Function.comp_def, steady]
  | drained => rfl
  | ordered order => rfl

theorem Idles.origins_eq (idled : agent.Idles after) : after.origins = agent.origins :=
  idled.reads Handle.origin fun _ _ => rfl

theorem Idles.truthful {count : Nat} (idled : agent.Idles after) (truthful : agent.Truthful count) :
    after.Truthful count := by
  obtain ⟨counted, active, broken, iterations, isReady⟩ := truthful
  cases idled with
  | gripped isHeld =>
    refine ⟨counted, ?_, ?_, iterations, isReady⟩
    · simpa [Agent.gripped] using active
    · simpa [Agent.gripped, Function.comp_def] using broken
  | drained => exact ⟨counted, active, broken, iterations, isReady⟩
  | ordered order => exact ⟨counted, active, broken, iterations, isReady⟩

variable {engine : Pattern.Engine} {settings : Settings} {calls : List AgentCall}

theorem Run.origins_perm (run : Run engine settings calls agent) :
    agent.origins.Perm
      (settings.instances.map fun one =>
        Handle.ofInstance (Instance.ofSettings engine settings one)) := by
  induction run with
  | start =>
    simp only [origins, handles, ofSettings, List.append_nil, List.map_map]
    exact .refl _
  | call run answered ih => exact answered.origins_perm.trans ih
  | idle run idled ih => exact idled.origins_eq ▸ ih

theorem Run.configured {handle : Handle} (run : Run engine settings calls agent)
    (member : handle ∈ agent.handles) : ∃ given ∈ settings.instances,
      handle.origin = Handle.ofInstance (Instance.ofSettings engine settings given) := by
  have known : handle.origin ∈ agent.origins := List.mem_map_of_mem member
  obtain ⟨given, configured, same⟩ := List.mem_map.mp (run.origins_perm.mem_iff.mp known)
  exact ⟨given, configured, same.symm⟩

theorem Run.present {given : InstanceSettings} (run : Run engine settings calls agent)
    (configured : given ∈ settings.instances) : ∃ handle ∈ agent.handles,
      handle.origin = Handle.ofInstance (Instance.ofSettings engine settings given) :=
  List.mem_map.mp (run.origins_perm.mem_iff.mpr (List.mem_map_of_mem configured))

theorem Run.truthful (run : Run engine settings calls agent) :
    agent.Truthful (calls.countP (· = .iterate)) := by
  induction run with
  | start => exact ⟨rfl, rfl, rfl, rfl, by simp [ofSettings]⟩
  | call run answered ih =>
    have more := answered.truthful ih
    simpa [List.countP_append, List.countP_singleton] using more
  | idle run idled ih => exact idled.truthful ih

theorem Answers.settings_eq {call : AgentCall} (answered : agent.Answers call after) :
    after.settings = agent.settings := by
  cases answered with
  | nothingToRecover => rfl
  | init recovers | recover _ _ recovers | cleanUp recovers | list _ recovers =>
    cases recovers
    rfl
  | iterate => rfl

theorem Run.settings_eq (run : Run engine settings calls agent) : agent.settings = settings := by
  induction run with
  | start => rfl
  | call _ answered ih => exact answered.settings_eq.trans ih
  | idle _ idled ih => cases idled <;> exact ih

/-- The names of the instances are the configured ones in some order, so no two are the same. -/
theorem Run.names_nodup (run : Run engine settings calls agent)
    (valid : settings.validate engine = .ok ()) :
    (agent.handles.map (·.name)).Nodup := by
  have names := run.origins_perm.map (·.name)
  simp only [origins, List.map_map, Function.comp_def] at names
  exact names.symm.nodup (Settings.validate_names_nodup valid)

/-- After any calls with any outcomes the pending, active and broken instances together are the
configured ones, each once, and what is told of the agent is true. -/
theorem instances_conserved (valid : settings.validate engine = .ok ())
    (run : Run engine settings calls agent) :
    ((agent.pending ++ agent.active ++ agent.broken).map Handle.origin).Perm
        (settings.instances.map fun one => Handle.ofInstance (Instance.ofSettings engine settings one)) ∧
      ((agent.pending ++ agent.active ++ agent.broken).map (·.name)).Nodup ∧
      agent.health.active = agent.active.length ∧
      agent.health.broken = agent.broken.map (·.name) ∧
      agent.health.iterations = calls.countP (· = .iterate) ∧
      (agent.health.isReady = true ↔ 0 < calls.countP (· = .iterate)) := by
  obtain ⟨_, active, broken, iterations, isReady⟩ := run.truthful
  exact ⟨run.origins_perm, run.names_nodup valid, active, broken, iterations, isReady⟩

/-- Settings of two targets from which nothing is collected. -/
def twoTargets : Settings where
  shared := { collectDefaults := false }
  instances := [{ name := "east" }, { name := "west" }]

theorem twoTargets_valid : twoTargets.validate Pattern.engine = .ok () :=
  Settings.valid_of_toOption (by decide +kernel)

/-- The instance of one of the two targets as it is once it was started. -/
def startedTarget (name : String) (now : Nat) : Instance :=
  (Instance.ofSettings Pattern.engine twoTargets { name }).startedWith now [] {}

theorem startedTarget_canEnd (name : String) (start : Nat) :
    ∃ now, (initWork start (Instance.ofSettings Pattern.engine twoTargets { name })).CanEnd
      (startedTarget name now) (.ok ()) := by
  let fresh := Instance.ofSettings Pattern.engine twoTargets { name }
  have found : (Instance.findBeans fresh.configurations).Ends [] (.ok []) := Instance.findBeans_nil
  have passed : (MatchPass.overBeans (fresh.rules .collect) {} []).Ends [] (.ok {}) := .done _
  obtain ⟨now, _, ends⟩ := Instance.init_ends rfl rfl found passed false start
  exact ⟨now, ends.canEnd⟩

/-- The settings of the two targets for a collection crew of another size. -/
def twoTargetsOf (workers : Nat) : Settings :=
  { twoTargets with shared := { twoTargets.shared with collectionPoolSize := workers } }

theorem twoTargetsOf_started (workers : Nat) : ∃ agent now₁ now₂,
    Run Pattern.engine (twoTargetsOf workers) [.init] agent ∧
    agent.collection = Crew.ofSize "collection" workers ∧
    agent.active = [Handle.ofInstance (startedTarget "east" now₁),
      Handle.ofInstance (startedTarget "west" now₂)] ∧ agent.broken = [] := by
  obtain ⟨now₁, ends₁⟩ := startedTarget_canEnd "east" 0
  obtain ⟨now₂, ends₂⟩ := startedTarget_canEnd "west" 0
  let begun := (ofSettings Pattern.engine (twoTargetsOf workers)).beginInit
  let turns : List (Turn Unit) := [⟨.completed (.ok ()), startedTarget "east" now₁, false⟩,
    ⟨.completed (.ok ()), startedTarget "west" now₂, false⟩]
  have possible : ∀ entry ∈ begun.2.zip turns, entry.2.CanBe initWork entry.1.one := by
    intro entry member
    rcases List.mem_cons.mp member with rfl | member
    · exact .completed 0 ends₁
    · rcases List.mem_cons.mp member with rfl | member
      · exact .completed 0 ends₂
      · cases member
  obtain ⟨crew, performed⟩ : ∃ crew,
      begun.1.recovery.Performs initWork begun.2 (.ok turns) crew := by
    -- Crew and number of tasks are said in closed form, so that the steps are run on small terms.
    have recovery : begun.1.recovery = Crew.ofSize "recovery" 3 := rfl
    have two : begun.2.length = 2 := rfl
    refine ⟨_, .performed rfl [.start 0, .start 1, .finish 1 (.ok ()), .finish 0 (.ok ())] ?_ possible⟩
    rw [recovery, two]
    rfl
  exact ⟨_, now₁, now₂, .call .start (.init (.mk performed)), rfl, rfl, rfl⟩

theorem twoTargets_started : ∃ agent now₁ now₂, Run Pattern.engine twoTargets [.init] agent ∧
    agent.collection = Crew.ofSize "collection" 3 ∧
    agent.active = [Handle.ofInstance (startedTarget "east" now₁),
      Handle.ofInstance (startedTarget "west" now₂)] := by
  obtain ⟨agent, now₁, now₂, run, collection, active, _⟩ := twoTargetsOf_started 3
  exact ⟨agent, now₁, now₂, run, collection, active⟩

/-- One target panics in an iteration, the task of the other is cancelled. -/
theorem instances_conserved_twoTargets :
    ∃ agent, twoTargets.validate Pattern.engine = .ok () ∧
      Run Pattern.engine twoTargets [.init, .iterate] agent ∧
      ((agent.pending ++ agent.active ++ agent.broken).map Handle.origin).Perm
        (twoTargets.instances.map fun one =>
          Handle.ofInstance (Instance.ofSettings Pattern.engine twoTargets one)) ∧
      agent.health.iterations = 1 ∧ agent.health.isReady = true := by
  obtain ⟨agent, now₁, now₂, run, collection, active⟩ := twoTargets_started
  let batch := [Handle.ofInstance (startedTarget "east" now₁),
    Handle.ofInstance (startedTarget "west" now₂)]
  let turns : List (Turn Collected) := [⟨.panicked "overflow", startedTarget "east" now₁, false⟩,
    ⟨.cancelled, startedTarget "west" now₂, false⟩]
  have possible : ∀ entry ∈ batch.zip turns, entry.2.CanBe collectWork entry.1.one := by
    intro entry member
    rcases List.mem_cons.mp member with rfl | member
    · exact .panicked "overflow" rfl
    · rcases List.mem_cons.mp member with rfl | member
      · exact .cancelled false
      · cases member
  have due : agent.dueAt 0 = batch := by
    rw [dueAt, active]
    rfl
  obtain ⟨crew, performed⟩ : ∃ crew,
      agent.collection.ensureHealthy.Performs collectWork (agent.dueAt 0) (.ok turns) crew := by
    rw [collection, due]
    exact ⟨_, .performed rfl [.start 0, .shutdown, .cancel 1, .panic 0 "overflow"] rfl possible⟩
  have more := run.call (.iterate 0 (fun _ => 0) performed)
  obtain ⟨same, _, _, _, iterations, isReady⟩ := instances_conserved twoTargets_valid more
  exact ⟨_, twoTargets_valid, more, same, iterations, isReady.mpr Nat.one_pos⟩

end Agent
end BeanHarvest
