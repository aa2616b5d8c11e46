import BeanHarvest.Proofs.Agent.Conservation
import BeanHarvest.Proofs.Instance.Stamps
import Mathlib.Data.List.Nodup

/-! Histories: runs of an agent with the collections that were begun on the way. Behind each step every
instance has the stamp from before or that of the one collection that the step has begun from it; only
an iteration begins any, of instances that are due. -/
namespace BeanHarvest

/-- Collections that were begun: from which instance, and when. -/
abbrev Begun := List (String × Nat)

namespace Begun

variable {begun more : Begun} {name other : String} {starts : List Nat}

def ofName (name : String) (begun : Begun) : List Nat := (begun.filter (·.1 = name)).map (·.2)

theorem ofName_append : ofName name (begun ++ more) = ofName name begun ++ ofName name more := by
  simp [ofName]

theorem ofName_same : ofName name (starts.map (name, ·)) = starts := by
  simp [ofName, List.filter_map, Function.comp_def]

theorem ofName_other (different : other ≠ name) : ofName name (starts.map (other, ·)) = [] := by
  simp [ofName, List.filter_map, Function.comp_def, different]

end Begun

/-- When the turn of an instance in an iteration that began at some time begins a collection from it. A
task that panics leaves the stamp as it was before, or as the work has it at some point. -/
inductive Turn.Begins (now : Nat) (one : Instance) : Turn Collected → List Nat → Prop where
  | cancelled (isHeld : Bool) : Begins now one ⟨.cancelled, one, isHeld⟩ []
  | waited (isHeld : Bool) : Begins now one ⟨.timedOut, one, isHeld⟩ []
  | left (ending : Ending (Except InstanceFault Collected)) (isHeld : Bool) {time : Nat}
      {starts : List Nat} {after : Instance} (later : now ≤ time)
      (collecting : one.Collecting time starts after) : Begins now one ⟨ending, after, isHeld⟩ starts
  | panickedFirst (message : String) {after : Instance}
      (same : after.lastCollection = one.lastCollection) :
      Begins now one ⟨.panicked message, after, false⟩ []
  | panicked (message : String) {time : Nat} {starts : List Nat} {between after : Instance}
      (later : now ≤ time) (collecting : one.Collecting time starts between)
      (same : after.lastCollection = between.lastCollection) :
      Begins now one ⟨.panicked message, after, false⟩ starts

theorem Turn.Begins.stamped {now : Nat} {one : Instance} {turn : Turn Collected} {starts : List Nat}
    (begins : turn.Begins now one starts) : one.Stamped now starts turn.after := by
  cases begins with
  | cancelled => exact .never rfl
  | waited => exact .never rfl
  | left _ _ later collecting => exact collecting.stamped later
  | panickedFirst _ same => exact .never same
  | panicked _ later collecting same => exact (collecting.stamped later).congr same

/-- Whatever a task to collect leaves that does not begin before the iteration, it has begun some
collections. -/
theorem Turn.begins_of_leaves {now time : Nat} {one after : Instance}
    (ending : Ending (Except InstanceFault Collected)) (isHeld : Bool) (later : now ≤ time)
    (leaves : (Agent.collectWork time one).LeavesFrom time after) :
    ∃ starts, Turn.Begins now one ⟨ending, after, isHeld⟩ starts := by
  obtain ⟨starts, collecting⟩ := Instance.collecting_of_leaves leaves
  exact ⟨starts, .left ending isHeld later collecting⟩

/-- Which collections the batch of an iteration begins that began at some time. -/
inductive BatchOutcome.Begins (now : Nat) : List Handle → BatchOutcome Collected → Begun → Prop where
  | refused (batch : List Handle) (refusal : Refusal) : Begins now batch (.error refusal) []
  | empty : Begins now [] (.ok []) []
  | turn {handle : Handle} {batch : List Handle} {turn : Turn Collected}
      {turns : List (Turn Collected)} {starts : List Nat} {others : Begun}
      (begins : turn.Begins now handle.one starts) (rest : Begins now batch (.ok turns) others) :
      Begins now (handle :: batch) (.ok (turn :: turns)) (starts.map (handle.name, ·) ++ others)

namespace BatchOutcome.Begins

variable {now : Nat} {batch : List Handle} {outcome : BatchOutcome Collected} {begun : Begun}
  {name : String}

theorem ofName_of_absent (begins : outcome.Begins now batch begun)
    (absent : name ∉ batch.map (·.name)) : begun.ofName name = [] := by
  induction begins with
  | refused => rfl
  | empty => rfl
  | turn begins rest ih =>
    simp only [List.map_cons, List.mem_cons, not_or] at absent
    obtain ⟨different, absent⟩ := absent
    rw [Begun.ofName_append, Begun.ofName_other (Ne.symm different), ih absent]
    rfl

/-- An instance that comes back with the batch is stamped with the last collection of it. -/
theorem stamped (begins : outcome.Begins now batch begun) (nodup : (batch.map (·.name)).Nodup)
    {timeout : Nat} {entry : Handle × Status Collected}
    (member : entry ∈ outcome.statuses timeout batch) : ∃ handle ∈ batch,
      handle.name = entry.1.name ∧ handle.one.Stamped now (begun.ofName handle.name) entry.1.one := by
  induction begins with
  | refused batch refusal =>
    obtain ⟨handle, present, rfl⟩ := List.mem_map.mp member
    exact ⟨handle, present, rfl, .never rfl⟩
  | empty => cases member
  | @turn handle batch turn turns starts others begins rest ih =>
    obtain ⟨fresh, nodup⟩ := List.nodup_cons.mp nodup
    rcases List.mem_cons.mp member with rfl | later
    · refine ⟨handle, .head _, rfl, ?_⟩
      rw [Begun.ofName_append, Begun.ofName_same, rest.ofName_of_absent fresh, List.append_nil]
      exact begins.stamped
    · obtain ⟨first, present, same, stamped⟩ := ih nodup later
      have different : handle.name ≠ first.name :=
        fun shared => fresh (List.mem_map.mpr ⟨first, present, shared.symm⟩)
      refine ⟨first, .tail _ present, same, ?_⟩
      rwa [Begun.ofName_append, Begun.ofName_other different]

end BatchOutcome.Begins

/-- Whether the task of a turn, if it panics, leaves the stamp as the work has it at some point. -/
def Turn.PanicsWithin {α : Type} (work : Operation Instance (Except InstanceFault α)) (one : Instance)
    (turn : Turn α) : Prop :=
  ∀ message, turn.ending = .panicked message → ∃ start between,
    (work start one).LeavesFrom start between ∧ turn.after.lastCollection = between.lastCollection

theorem Turn.CanBe.lastCollection {α : Type} {work : Operation Instance (Except InstanceFault α)}
    {one : Instance} {turn : Turn α} (possible : turn.CanBe work one)
    (within : turn.PanicsWithin work one)
    (clocked : ∀ last, work.Clocked (Instance.LastBegan last)) :
    turn.after.lastCollection = one.lastCollection := by
  rcases possible.kept (clocked one.lastCollection).keeps rfl with same | ⟨⟨message, panicked⟩, _⟩
  · exact same
  · obtain ⟨start, between, leaves, same⟩ := within message panicked
    exact same.trans (leaves.inv (clocked _ start one rfl))

/-- The handle as it was before anything was done with its instance, and the stamp of its instance. -/
def Handle.dated (handle : Handle) : Handle × Option Nat := (handle.origin, handle.one.lastCollection)

namespace Agent

variable {agent after : Agent} {now : Nat} {begun more : Begun}

/-- The agent after its recovery crew has dealt with a batch, and what the tasks came to, where what
panics leaves a stamp as the work has it at some point. -/
inductive Tends {α : Type} (agent : Agent) (work : Operation Instance (Except InstanceFault α))
    (batch : List Handle) : List (Handle × Status α) → Agent → Prop where
  | mk {outcome : BatchOutcome α} {crew : Crew}
      (performed : agent.recovery.Performs work batch outcome crew)
      (within : ∀ turns, outcome = .ok turns → ∀ entry ∈ batch.zip turns,
        entry.2.PanicsWithin work entry.1.one) :
      Tends agent work batch (outcome.statuses agent.recoveryTimeout batch)
        { agent with recovery := crew }

section
variable {α : Type} {work : Operation Instance (Except InstanceFault α)} {batch : List Handle}
  {statuses : List (Handle × Status α)}

theorem Tends.recovers (tends : agent.Tends work batch statuses after) :
    agent.Recovers work batch statuses after := by
  cases tends with
  | mk performed => exact .mk performed

/-- A batch of the recovery crew comes back with its instances and their stamps. -/
theorem Tends.inv (tends : agent.Tends work batch statuses after) (faithful : work.Faithful)
    (clocked : ∀ last, work.Clocked (Instance.LastBegan last)) :
    statuses.map (fun entry => entry.1.dated) = batch.map Handle.dated ∧
      ∃ recovery, after = { agent with recovery } := by
  cases tends with
  | mk performed within =>
    refine ⟨performed.reads Handle.dated _ ?_, _, rfl⟩
    rintro turns rfl entry member
    have possible := performed.possible entry member
    have origin : entry.2.after.origin = entry.1.one.origin := possible.origin faithful
    have stamp := possible.lastCollection (within turns rfl entry member) clocked
    simp [Handle.dated, Handle.origin, Handle.afterTurn, origin, stamp]

end

/-- What the recovery crew can make of an agent. -/
inductive Attends (agent : Agent) : Agent → Prop where
  | init {statuses : List (Handle × Status Unit)} {waited : Agent}
      (tends : agent.beginInit.1.Tends initWork agent.beginInit.2 statuses waited) :
      Attends agent (waited.finishInit statuses).1
  | recover (shuffle : List Handle → List Handle)
      (shuffled : (shuffle agent.broken).Perm agent.broken)
      {statuses : List (Handle × Status Unit)} {waited : Agent}
      (tends : (agent.beginRecovery shuffle).1.Tends recoveryWork
        (agent.beginRecovery shuffle).2 statuses waited) :
      Attends agent (waited.finishRecovery statuses).1
  | cleanUp {statuses : List (Handle × Status Unit)} {waited : Agent}
      (tends : agent.beginCleanUp.1.Tends cleanUpWork agent.beginCleanUp.2 statuses waited) :
      Attends agent (waited.finishCleanUp statuses)
  | list (action : Action) {statuses : List (Handle × Status MatchReport)} {waited : Agent}
      (tends : agent.beginList.1.Tends (listWork action) agent.beginList.2 statuses waited) :
      Attends agent (waited.finishList statuses).1

theorem Attends.answers (attends : agent.Attends after) : ∃ call, agent.Answers call after := by
  cases attends with
  | init tends => exact ⟨_, .init tends.recovers⟩
  | recover shuffle shuffled tends => exact ⟨_, .recover shuffle shuffled tends.recovers⟩
  | cleanUp tends => exact ⟨_, .cleanUp tends.recovers⟩
  | list action tends => exact ⟨_, .list action tends.recovers⟩

/-- The agents that some settings lead to, with the collections that were begun on the way. Calls may
come at any times; a task of an iteration does not begin before the iteration. -/
inductive History (engine : Pattern.Engine) (settings : Settings) : Begun → Agent → Prop where
  | start : History engine settings [] (ofSettings engine settings)
  | attend {begun : Begun} {agent after : Agent} (history : History engine settings begun agent)
      (attends : agent.Attends after) : History engine settings begun after
  | iterate {begun more : Begun} {agent : Agent}
      (history : History engine settings begun agent) (now : Nat)
      (stampOf : (name : String) → Int) {outcome : BatchOutcome Collected} {crew : Crew}
      (performed : agent.collection.ensureHealthy.Performs collectWork (agent.dueAt now) outcome
        crew)
      (begins : outcome.Begins now (agent.dueAt now) more) :
      History engine settings (begun ++ more) (agent.iterated now stampOf outcome crew).1
  | idle {begun : Begun} {agent after : Agent} (history : History engine settings begun agent)
      (idled : agent.Idles after) : History engine settings begun after

variable {engine : Pattern.Engine} {settings : Settings}

/-- Histories are of runs, so that all that holds of runs holds of them. -/
theorem History.run (history : History engine settings begun agent) :
    ∃ calls, Run engine settings calls agent := by
  induction history with
  | start => exact ⟨[], .start⟩
  | attend _ attends ih =>
    obtain ⟨calls, run⟩ := ih
    obtain ⟨call, answered⟩ := attends.answers
    exact ⟨_, run.call answered⟩
  | iterate _ now stampOf performed _ ih =>
    obtain ⟨calls, run⟩ := ih
    exact ⟨_, run.call (.iterate now stampOf performed)⟩
  | idle _ idled ih =>
    obtain ⟨calls, run⟩ := ih
    exact ⟨calls, run.idle idled⟩

/-- Whether every instance behind a step at some time is one from before, and stamped with the last
collection that the step has begun from it, if any; in that case the instance was due. -/
def Stamps (agent : Agent) (now : Nat) (begun : Begun) (after : Agent) : Prop :=
  ∀ handle ∈ after.handles, ∃ first ∈ agent.handles, first.origin = handle.origin ∧
    first.one.Stamped now (begun.ofName first.name) handle.one ∧
    (begun.ofName first.name = [] ∨ first ∈ agent.dueAt now)

theorem stamps_of_perm (same : (after.handles.map Handle.dated).Perm (agent.handles.map Handle.dated))
    (now : Nat) : agent.Stamps now [] after := by
  intro handle member
  obtain ⟨first, present, equal⟩ :=
    List.mem_map.mp (same.mem_iff.mp (List.mem_map_of_mem (f := Handle.dated) member))
  obtain ⟨origin, stamp⟩ := Prod.mk.inj equal
  exact ⟨first, present, origin, .never stamp.symm, .inl rfl⟩

theorem Attends.stamps (attends : agent.Attends after) (now : Nat) : agent.Stamps now [] after := by
  refine stamps_of_perm ?_ now
  cases attends with
  | init tends =>
    obtain ⟨back, recovery, rfl⟩ := tends.inv (fun _ => Instance.init_keeps_origin _ _)
      fun _ => Instance.init_clocked _ _
    exact init_perm Handle.dated recovery back
  | recover shuffle shuffled tends =>
    obtain ⟨back, recovery, rfl⟩ := tends.inv (fun _ => Instance.init_keeps_origin _ _)
      fun _ => Instance.init_clocked _ _
    exact recover_perm Handle.dated recovery shuffled back
  | cleanUp tends =>
    obtain ⟨back, recovery, rfl⟩ := tends.inv (fun _ => cleanUpWork_keeps_origin)
      fun _ => cleanUpWork_clocked
    exact cleanUp_perm Handle.dated recovery back
  | list action tends =>
    obtain ⟨back, recovery, rfl⟩ := tends.inv (fun _ => listWork_keeps_origin action)
      fun _ => listWork_clocked action
    exact list_perm Handle.dated recovery back

theorem Idles.stamps (idled : agent.Idles after) (now : Nat) : agent.Stamps now [] after :=
  stamps_of_perm (.of_eq (idled.reads Handle.dated fun _ _ => rfl)) now

theorem dueAt_sublist (agent : Agent) (now : Nat) : (agent.dueAt now).Sublist agent.handles :=
  List.filter_sublist.trans agent.active_sublist

/-- Of instances with different names, one that has the name of an instance that is due is due itself. -/
theorem mem_dueAt_of_name (nodup : (agent.handles.map (·.name)).Nodup) {handle : Handle}
    (member : handle ∈ agent.handles) (named : handle.name ∈ (agent.dueAt now).map (·.name)) :
    handle ∈ agent.dueAt now := by
  obtain ⟨first, due, same⟩ := List.mem_map.mp named
  have present := (agent.dueAt_sublist now).subset due
  exact List.inj_on_of_nodup_map nodup present member same ▸ due

theorem not_mem_dueAt_of_inactive (nodup : (agent.handles.map (·.name)).Nodup) {handle : Handle}
    (inactive : handle ∈ agent.pending ∨ handle ∈ agent.broken) : handle ∉ agent.dueAt now := by
  intro due
  have active : handle ∈ agent.active := (List.mem_filter.mp due).1
  have apart : (agent.pending ++ agent.active ++ agent.broken).Nodup := nodup.of_map
  obtain ⟨others, _, disjoint⟩ := List.nodup_append.mp apart
  rcases inactive with pending | broken
  · exact (List.nodup_append.mp others).2.2 handle pending handle active rfl
  · exact disjoint handle (List.mem_append_right _ active) handle broken rfl

/-- An instance is found behind an iteration as it was if it was not due, and otherwise as its task left
it, marked as broken or not. -/
theorem mem_handles_iterated {stampOf : (name : String) → Int} {outcome : BatchOutcome Collected}
    {crew : Crew} (nodup : (agent.handles.map (·.name)).Nodup)
    (performed : agent.collection.ensureHealthy.Performs collectWork (agent.dueAt now) outcome crew)
    {handle : Handle} (member : handle ∈ (agent.iterated now stampOf outcome crew).1.handles) :
    (handle ∈ agent.handles ∧ handle ∉ agent.dueAt now) ∨
      ∃ entry ∈ outcome.statuses agent.collectionTimeout (agent.dueAt now),
        handle.name = entry.1.name ∧ handle.one.lastCollection = entry.1.one.lastCollection := by
  let begun : Agent := { (agent.beginIteration now).1 with collection := crew }
  let plan := (agent.beginIteration now).2
  have enough : ((begun.verdicts plan outcome).map settled).length = (due plan).length := by
    have origins := performed.origins (fun _ => collectWork_keeps_origin) agent.collectionTimeout
    have lengths := congrArg List.length origins
    rw [List.length_map, List.length_map, ← due_plan] at lengths
    rw [List.length_map, verdicts, List.length_map]
    exact lengths
  have parted := (iterated_handles_perm now stampOf outcome crew).mem_iff.mp member
  rcases List.mem_append.mp parted with others | broken
  · rcases List.mem_append.mp others with pending | taken
    · refine .inl ⟨?_, not_mem_dueAt_of_inactive nodup (.inl pending)⟩
      exact List.mem_append_left _ (List.mem_append_left _ pending)
    · rcases mem_merged_of_enough enough taken with back | left
      · obtain ⟨_, judged, rfl⟩ := List.mem_map.mp back
        obtain ⟨entry, returned, rfl⟩ := List.mem_map.mp judged
        rw [due_plan] at returned
        refine .inr ⟨entry, returned, ?_⟩
        rcases settled_cases (entry.1, refuseEmpty entry.2) with same | same
        all_goals
          rw [same]
          exact ⟨rfl, rfl⟩
      · obtain ⟨_, active, same⟩ := List.mem_map.mp left
        obtain ⟨rfl, spared⟩ := Prod.mk.inj same
        refine .inl ⟨mem_handles_of_active active, fun due => ?_⟩
        rw [(List.mem_filter.mp due).2] at spared
        cases spared
  · exact .inl ⟨List.mem_append_right _ broken, not_mem_dueAt_of_inactive nodup (.inr broken)⟩

theorem iterated_stamps {stampOf : (name : String) → Int} {outcome : BatchOutcome Collected}
    {crew : Crew} (nodup : (agent.handles.map (·.name)).Nodup)
    (performed : agent.collection.ensureHealthy.Performs collectWork (agent.dueAt now) outcome crew)
    (begins : outcome.Begins now (agent.dueAt now) begun) :
    agent.Stamps now begun (agent.iterated now stampOf outcome crew).1 := by
  intro handle member
  rcases mem_handles_iterated nodup performed member with ⟨present, spared⟩ | ⟨entry, returned, name, same⟩
  · have absent := begins.ofName_of_absent fun named => spared (mem_dueAt_of_name nodup present named)
    exact ⟨handle, present, rfl, absent ▸ .never rfl, .inl absent⟩
  · have apart : ((agent.dueAt now).map (·.name)).Nodup :=
      nodup.sublist ((agent.dueAt_sublist now).map _)
    obtain ⟨first, due, named, stamped⟩ := begins.stamped apart returned
    have present := (agent.dueAt_sublist now).subset due
    refine ⟨first, present, ?_, stamped.congr same, .inr due⟩
    have known : handle.origin ∈ agent.origins :=
      (iterated_origins performed).mem_iff.mp (List.mem_map_of_mem member)
    obtain ⟨other, among, origin⟩ := List.mem_map.mp known
    have shared := Handle.name_eq_of_origin origin
    rw [List.inj_on_of_nodup_map nodup present among (named.trans (name.symm.trans shared.symm))]
    exact origin

end Agent
end BeanHarvest
