import BeanHarvest.Proofs.Agent.Conservation
import BeanHarvest.Proofs.Instance.Recovering
import BeanHarvest.Proofs.Instance.Working

/-! Active instances are working: whatever an agent is asked, whatever comes of it and however targets
behave, between two calls every active instance is ready to be collected from. -/
namespace BeanHarvest

section
variable {α : Type} {work : Operation Instance (Except InstanceFault α)} {batch : List Handle}
  {crew after : Crew} {outcome : BatchOutcome α} {entry : Handle × Status α} {one : Instance}

/-- How a task of a batch can end for the instance that it was begun with: the work was done and came
to what the status says, or it failed, and either that breaks the instance or it is as before. -/
inductive Operation.ComesBack (work : Operation Instance (Except InstanceFault α)) (one : Instance) :
    Instance → Status α → Prop where
  | done {after : Instance} {result : Except InstanceFault α} (start : Nat)
      (ends : (work start one).CanEnd after result) :
      ComesBack work one after (result.mapError Failure.ofInstance)
  | broken (after : Instance) {failure : Failure} (breaks : failure.marksBroken = true) :
      ComesBack work one after (.error failure)
  | untouched (failure : Failure) : ComesBack work one one (.error failure)

theorem Operation.ComesBack.ok_inv {final : Instance} {result : α}
    (comesBack : work.ComesBack one final (.ok result)) :
    ∃ start, (work start one).CanEnd final (.ok result) := by
  generalize same : (.ok result : Status α) = status at comesBack
  cases comesBack with
  | @done _ found start ends =>
    cases found with
    | error fault => cases same
    | ok found =>
      cases same
      exact ⟨start, ends⟩
  | broken _ _ => cases same
  | untouched _ => cases same

theorem Turn.CanBe.comesBack {turn : Turn α} (possible : turn.CanBe work one) (timeout : Nat) :
    work.ComesBack one turn.after (Status.ofEnding timeout turn.ending) := by
  cases possible with
  | @completed after result start ends =>
    have same : Status.ofEnding timeout (.completed result) = result.mapError Failure.ofInstance := by
      cases result <;> rfl
    exact same ▸ .done start ends
  | cancelled isHeld => exact .untouched _
  | waited isHeld => exact .untouched _
  | cutShort start isHeld stops => exact .broken _ rfl
  | late start isHeld ends => exact .broken _ rfl
  | panicked message same => exact .broken _ rfl

/-- Every handle that comes back from a crew was in the batch, and its task ended in one of these
ways. -/
theorem Crew.Performs.comesBack (performed : crew.Performs work batch outcome after) {timeout : Nat}
    (member : entry ∈ outcome.statuses timeout batch) :
    ∃ handle ∈ batch, entry.1.name = handle.name ∧
      work.ComesBack handle.one entry.1.one entry.2 := by
  cases performed with
  | refused found =>
    obtain ⟨handle, present, rfl⟩ := List.mem_map.mp member
    exact ⟨handle, present, rfl, .untouched _⟩
  | performed accepted events finished possible =>
    rw [BatchOutcome.statuses, ← List.map_uncurry_zip_eq_zipWith] at member
    obtain ⟨⟨handle, turn⟩, present, rfl⟩ := List.mem_map.mp member
    exact ⟨handle, (List.of_mem_zip present).1, rfl, (possible _ present).comesBack timeout⟩

end

namespace Agent

variable {agent after : Agent} {handle : Handle}

def ActiveWorking (agent : Agent) : Prop := ∀ handle ∈ agent.active, handle.one.Working

theorem succeeded_working {anew : Bool} {batch : List Handle}
    {statuses : List (Handle × Status Unit)}
    (recovers : agent.Recovers (Instance.init .collect anew) batch statuses after)
    (member : handle ∈ succeeded statuses) : handle.one.Working := by
  cases recovers with
  | mk performed =>
    obtain ⟨⟨_, status⟩, present, rfl⟩ := List.mem_map.mp member
    obtain ⟨present, well⟩ := List.mem_filter.mp present
    obtain ⟨_, _, _, comesBack⟩ := performed.comesBack present
    cases status with
    | error failure => cases well
    | ok done =>
      obtain ⟨start, ends⟩ := comesBack.ok_inv
      exact Instance.working_of_init ends

/-- A working instance is working after a task to collect from it, or broken by its failure. -/
theorem collectWork_working {one final : Instance} {status : Status Collected}
    (working : one.Working) (comesBack : collectWork.ComesBack one final status) :
    final.Working ∨ ∃ failure, status = .error failure ∧ failure.marksBroken = true := by
  cases comesBack with
  | broken _ breaks => exact .inr ⟨_, rfl, breaks⟩
  | untouched failure => exact .inl working
  | @done _ result start ends =>
    obtain ⟨_, _, ends⟩ := ends.ends
    obtain ⟨_, _, _, between, collected, _, first, ends⟩ := Operation.bind_ends_inv ends
    rw [Operation.get_bind] at ends
    obtain ⟨_, rfl, rfl⟩ := Operation.pure_ends_inv ends
    cases collected with
    | ok metrics => exact .inl (working.collect first.canEnd)
    | error fault =>
      have breaks := first.canEnd.meets (Instance.collect_breaks start one) fault rfl
      exact .inr ⟨_, rfl, breaks⟩

theorem mem_merged {plan : List (Handle × Bool)} {settled : List Handle}
    (member : handle ∈ merged plan settled) :
    handle ∈ settled ∨ handle ∈ plan.map (·.1) := by
  induction plan generalizing settled with
  | nil => cases member
  | cons entry plan ih =>
    obtain ⟨first, isDue⟩ := entry
    rcases isDue, settled with ⟨_ | _, _ | ⟨next, settled⟩⟩
    all_goals
      rcases List.mem_cons.mp member with rfl | later
      · simp
      · rcases ih later with found | found
        · simp [found]
        · simp [found]

/-- An instance is active behind an iteration if it was not due, or if its task has not come to what
breaks it. -/
theorem mem_active_finishIteration {stampOf : (name : String) → Int}
    {plan : List (Handle × Bool)} {outcome : BatchOutcome Collected}
    (member : handle ∈ (agent.finishIteration stampOf plan outcome).1.active) :
    handle ∈ plan.map (·.1) ∨
      ∃ entry ∈ outcome.statuses agent.collectionTimeout (due plan), handle = entry.1 ∧
        ∀ failure, entry.2 = .error failure → failure.marksBroken = false := by
  let verdicts := agent.verdicts plan outcome
  let account := agent.account stampOf (plan.countP (!·.2)) verdicts
  obtain ⟨member, spared⟩ := List.mem_filter.mp member
  rcases mem_merged member with present | present
  · obtain ⟨_, judged, rfl⟩ := List.mem_map.mp present
    obtain ⟨⟨back, status⟩, returned, rfl⟩ := List.mem_map.mp judged
    have absent : back.name ∉ account.broken := by
      have same := congrArg Handle.name (settled_origin (back, refuseEmpty status))
      have name : (settled (back, refuseEmpty status)).name = back.name := same
      simpa [name] using spared
    have unbroken : (Verdict.ofStatus (refuseEmpty status)).breaks = false := by
      have covers : account.Covers verdicts := account_covers agent stampOf _ verdicts
      rw [covers.broken] at absent
      refine Bool.eq_false_iff.mpr fun breaks => absent ?_
      exact List.mem_map.mpr ⟨_, List.mem_filter.mpr ⟨judged, breaks⟩, rfl⟩
    refine .inr ⟨(back, status), returned, ?_, ?_⟩
    · cases status with
      | ok collected =>
        simp only [refuseEmpty] at unbroken ⊢
        split
        · next empty => simp [empty, Verdict.ofStatus, Verdict.breaks, Failure.marksBroken] at unbroken
        · rfl
      | error failure =>
        have spared : failure.marksBroken = false := unbroken
        simp [settled, refuseEmpty, spared]
    · rintro failure rfl
      exact unbroken
  · exact .inl present

theorem mem_active_iterated {now : Nat} {stampOf : (name : String) → Int}
    {outcome : BatchOutcome Collected} {crew : Crew}
    (member : handle ∈ (agent.iterated now stampOf outcome crew).1.active) :
    handle ∈ agent.active ∨
      ∃ entry ∈ outcome.statuses agent.collectionTimeout (agent.dueAt now), handle = entry.1 ∧
        ∀ failure, entry.2 = .error failure → failure.marksBroken = false := by
  let begun : Agent := { (agent.beginIteration now).1 with collection := crew }
  let plan := (agent.beginIteration now).2
  have member : handle ∈ (begun.finishIteration stampOf plan outcome).1.active := member
  have stays := mem_active_finishIteration member
  rwa [map_fst_plan, due_plan] at stays

/-- An active instance that stays active in an iteration is working still. -/
theorem ActiveWorking.iterated (working : agent.ActiveWorking) {now : Nat}
    (stampOf : (name : String) → Int) {outcome : BatchOutcome Collected} {crew : Crew}
    (performed : agent.collection.ensureHealthy.Performs collectWork (agent.dueAt now) outcome crew) :
    (agent.iterated now stampOf outcome crew).1.ActiveWorking := by
  intro handle member
  rcases mem_active_iterated member with present | ⟨entry, returned, rfl, unbroken⟩
  · exact working handle present
  · obtain ⟨first, present, _, comesBack⟩ := performed.comesBack returned
    have before := working first (List.mem_filter.mp present).1
    rcases collectWork_working before comesBack with still | ⟨failure, same, breaks⟩
    · exact still
    · rw [unbroken failure same] at breaks
      cases breaks

theorem ActiveWorking.finishInit (working : agent.ActiveWorking) {anew : Bool} {batch : List Handle}
    {statuses : List (Handle × Status Unit)} {waited : Agent}
    (recovers : agent.Recovers (Instance.init .collect anew) batch statuses waited) :
    (waited.finishInit statuses).1.ActiveWorking := by
  obtain ⟨_, recovery, rfl⟩ := recovers.inv fun _ => Instance.init_keeps_origin _ _
  intro handle member
  rcases List.mem_append.mp member with present | present
  · exact working handle present
  · exact succeeded_working recovers present

theorem Answers.activeWorking {call : AgentCall} (answered : agent.Answers call after)
    (working : agent.ActiveWorking) : after.ActiveWorking := by
  cases answered with
  | init recovers =>
    have begun : agent.beginInit.1.ActiveWorking := working
    exact begun.finishInit recovers
  | iterate now stampOf performed => exact working.iterated stampOf performed
  | nothingToRecover empty => exact working
  | recover shuffle shuffled recovers =>
    have begun : (agent.beginRecovery shuffle).1.ActiveWorking := working
    exact begun.finishInit recovers
  | cleanUp recovers =>
    obtain ⟨_, recovery, rfl⟩ := recovers.inv fun _ => cleanUpWork_keeps_origin
    exact fun handle member => nomatch member
  | list action recovers =>
    obtain ⟨_, recovery, rfl⟩ := recovers.inv fun _ => listWork_keeps_origin action
    exact working

theorem Idles.activeWorking (idled : agent.Idles after) (working : agent.ActiveWorking) :
    after.ActiveWorking := by
  cases idled with
  | gripped isHeld =>
    intro handle member
    obtain ⟨first, present, rfl⟩ := List.mem_map.mp member
    exact working first present
  | drained => exact working
  | ordered order => exact working

variable {engine : Pattern.Engine} {settings : Settings} {calls : List AgentCall}

theorem Run.activeWorking (run : Run engine settings calls agent) : agent.ActiveWorking := by
  induction run with
  | start => exact fun handle member => nomatch member
  | call run answered ih => exact answered.activeWorking ih
  | idle run idled ih => exact idled.activeWorking ih

theorem Run.schedule_eq (run : Run engine settings calls agent) (member : handle ∈ agent.handles) :
    handle.one.settings ∈ settings.instances ∧
      handle.one.schedule = settings.schedule handle.one.settings := by
  obtain ⟨given, configured, same⟩ := run.configured member
  obtain ⟨_, made, schedule⟩ := Handle.made_of_origin same
  rw [made]
  exact ⟨configured, schedule⟩

theorem Run.name_eq (run : Run engine settings calls agent) (member : handle ∈ agent.handles) :
    handle.name = handle.one.settings.name := by
  obtain ⟨given, _, same⟩ := run.configured member
  obtain ⟨name, made, _⟩ := Handle.made_of_origin same
  rw [name, made]

/-- Between two calls every active instance is ready and connected, has its beans in the order of their
names and attributes of these beans only, whose metrics stay within the limit that is configured. -/
theorem active_working (run : Run engine settings calls agent) : ∀ handle ∈ agent.active,
    handle.one.phase = .ready ∧ handle.one.isConnected = true ∧
      handle.one.beans.Pairwise (fun a b => a.name < b.name) ∧
      (∀ bound ∈ handle.one.matched, bound.bean ∈ handle.one.beans) ∧
      totalMetrics handle.one.matched ≤ (settings.schedule handle.one.settings).maxMetrics := by
  intro handle member
  obtain ⟨ready, connected, ascending, among, within⟩ := run.activeWorking handle member
  rw [(run.schedule_eq (mem_handles_of_active member)).2] at within
  exact ⟨ready, connected, ascending, among, within⟩

/-- A task in which the only target of an agent is started, with an attribute to collect. -/
theorem watchedAlone_canStart (start : Nat) : ∃ now bound,
    (initWork start Instance.watched).CanEnd
      (Instance.watched.startedWith now [Instance.threading] { matched := [bound], metricCount := 1 })
      (.ok ()) := by
  obtain ⟨bound, _, passed⟩ := Instance.watched_matched rfl
  obtain ⟨now, _, ends⟩ :=
    Instance.init_ends rfl rfl (Instance.watched_found rfl) passed false start
  exact ⟨now, bound, ends.canEnd⟩

theorem active_working_watchedAlone : ∃ agent one,
    Run Pattern.engine Instance.watchedAlone [.init] agent ∧
    agent.active = [Handle.ofInstance one] ∧ one.matched.length = 1 ∧
    one.phase = .ready ∧ totalMetrics one.matched ≤ 10 := by
  obtain ⟨now, bound, ends⟩ := watchedAlone_canStart 0
  let started := Instance.watched.startedWith now [Instance.threading]
    { matched := [bound], metricCount := 1 }
  have begun : Run Pattern.engine Instance.watchedAlone []
      (ofSettings Pattern.engine Instance.watchedAlone) := .start
  have run := begun.call (.init (.mk (Crew.performs_alone "recovery" 2 ends)))
  obtain ⟨ready, _, _, _, within⟩ := active_working run (Handle.ofInstance started) (.head _)
  exact ⟨_, started, run, rfl, rfl, ready, within⟩

end Agent
end BeanHarvest
