import BeanHarvest.Proofs.Agent.Iterating
import BeanHarvest.Proofs.Instance.Eviction
import BeanHarvest.Proofs.Report.RateLaw

/-! No rate across a breakage. An iteration that finds an instance broken forgets its baselines, and
nothing but an iteration that goes well gives an instance new ones; so the first samples behind a recovery
are only new baselines. An instance that is cleaned up keeps its baselines, though, and takes them along
if it cannot be started any more. -/
namespace BeanHarvest

namespace Pipeline

variable {baselines : Baselines} {name : String}

/-- Whether in the next batch of an instance the first samples of all series give no points, whatever is
done for other instances before. -/
def OnlySeeds (baselines : Baselines) (name : String) : Prop :=
  ∀ others : List Event, (∀ event ∈ others, event.name ≠ name) →
    ∀ (metrics : List Metric) (time : Int), ∃ given : List (Option MetricPoint),
      given.length = metrics.length ∧
      (send (others.foldl Event.after baselines) name metrics time).1 = given.filterMap id ∧
      ∀ place metric, metrics[place]? = some metric → metric.type.isGauge = false →
        lastSample? metric.identity (metrics.take place) = none → given[place]? = some none

theorem foldl_after_other {others : List Event} (absent : ∀ event ∈ others, event.name ≠ name) :
    (others.foldl Event.after baselines).ofInstance name = baselines.ofInstance name := by
  induction others generalizing baselines with
  | nil => rfl
  | cons event rest ih =>
    have later := fun other member => absent other (List.mem_cons_of_mem event member)
    exact (ih later).trans (Event.after_other (absent event List.mem_cons_self))

/-- An instance without baselines only gets new ones. -/
theorem onlySeeds_of_untracked (untracked : baselines.ofInstance name = []) :
    OnlySeeds baselines name := by
  intro others absent metrics time
  let before := others.foldl Event.after baselines
  have none : before.ofInstance name = [] := (foldl_after_other absent).trans untracked
  refine ⟨handed name time before metrics, length_handed, steps_fst, ?_⟩
  intro place metric found rated first
  rw [handed_get? place found, Option.some.injEq]
  by_contra given
  obtain ⟨point, given⟩ := Option.ne_none_iff_exists'.mp given
  obtain ⟨_, ⟨gauge, _⟩ | ⟨_, baseline, _, known, _⟩⟩ := step_fst_iff.mp given
  · rw [rated] at gauge
    cases gauge
  · rw [steps_get?, first, Baselines.get?, none] at known
    cases known

/-- What is sent for an instance without baselines leaves one for a sample. -/
theorem tracked_send_sample {metric : Metric} (rated : metric.type = .rate)
    (finite : isFinite metric.value = true) (name : String) (time : Int) :
    (send [] name [metric] time).2.tracked name ≠ 0 := by
  have isSample : metric.isSampleOf metric.identity = true := by
    simp [Metric.isSampleOf, rated, finite, MetricType.isGauge]
  have last : lastSample? metric.identity [metric] = some metric := by
    simp [lastSample?, isSample]
  have kept : (send [] name [metric] time).2.get? name metric.identity =
      some ⟨metric.value, time⟩ := by
    rw [send_get?, if_pos (mem_ratedSeries_of_lastSample? last), last]
    rfl
  intro none
  rw [Baselines.get?, List.length_eq_zero_iff.mp none] at kept
  cases kept

end Pipeline

namespace Account

variable {account : Account} {stampOf : (name : String) → Int} {name : String}
  {entry : Handle × Status Collected} {entries : List (Handle × Status Collected)}

theorem add_other (different : entry.1.name ≠ name) :
    (account.add stampOf entry).baselines.ofInstance name = account.baselines.ofInstance name := by
  obtain ⟨handle, status⟩ := entry
  cases status with
  | ok collected => exact Pipeline.send_other (Ne.symm different)
  | error failure =>
    have cleared : (account.baselines.clear handle.name).ofInstance name =
        account.baselines.ofInstance name :=
      Baselines.ofInstance_clear.trans (if_neg (Ne.symm different))
    simp only [Account.add, addFailure]
    split
    · exact cleared
    · rfl

theorem foldl_add_other (absent : ∀ entry ∈ entries, entry.1.name ≠ name) :
    (entries.foldl (fun account entry => account.add stampOf entry) account).baselines.ofInstance
      name = account.baselines.ofInstance name := by
  induction entries generalizing account with
  | nil => rfl
  | cons entry rest ih =>
    have others := fun other member => absent other (List.mem_cons_of_mem entry member)
    exact (ih others).trans (add_other (absent entry List.mem_cons_self))

/-- What is found broken has no baselines at the end of the account. -/
theorem foldl_add_broken (nodup : (entries.map (·.1.name)).Nodup) (member : entry ∈ entries)
    (breaks : (Verdict.ofStatus entry.2).breaks = true) :
    (entries.foldl (fun account entry => account.add stampOf entry) account).baselines.ofInstance
      entry.1.name = [] := by
  induction entries generalizing account with
  | nil => cases member
  | cons first rest ih =>
    obtain ⟨fresh, nodup⟩ := List.nodup_cons.mp nodup
    rcases List.mem_cons.mp member with rfl | later
    · have absent : ∀ other ∈ rest, other.1.name ≠ entry.1.name :=
        fun other present same => fresh (List.mem_map.mpr ⟨other, present, same⟩)
      refine (foldl_add_other absent).trans ?_
      obtain ⟨handle, status⟩ := entry
      cases status with
      | ok collected =>
        cases limited : collected.limitReached <;>
          simp [Verdict.ofStatus, Verdict.breaks, limited] at breaks
      | error failure =>
        have broken : failure.marksBroken = true := breaks
        simp only [Account.add, addFailure, broken, if_true]
        exact Baselines.ofInstance_clear.trans (if_pos rfl)
    · exact ih nodup later

end Account

namespace Agent

open Instance (threading)

variable {engine : Pattern.Engine} {settings : Settings} {calls : List AgentCall}
  {agent after : Agent} {name : String}
  {now : Nat} {stampOf : (name : String) → Int} {outcome : BatchOutcome Collected} {crew : Crew}
  {handle : Handle}

def Untracked (agent : Agent) (name : String) : Prop := agent.baselines.ofInstance name = []

/-- What the tasks of an iteration came to is told of the instances that were due. -/
theorem verdicts_names (plan : List (Handle × Bool)) (fits : outcome.Fits (due plan)) :
    (agent.verdicts plan outcome).map (·.1.name) = (due plan).map (·.name) := by
  have names := agent.verdicts_map plan outcome (fun handle _ => handle.name) fun _ _ _ => rfl
  have due := congrArg (List.map (·.name))
    (BatchOutcome.judged_handles fits : (outcome.judged agent.collectionTimeout _).map _ = _)
  rw [List.map_map] at due
  exact names.trans due

/-- An iteration leaves the baselines of instances alone that are not among its own. -/
theorem finishIteration_other (plan : List (Handle × Bool)) (fits : outcome.Fits (due plan))
    (absent : name ∉ (due plan).map (·.name)) :
    (agent.finishIteration stampOf plan outcome).1.baselines.ofInstance name =
      agent.baselines.ofInstance name := by
  refine Account.foldl_add_other fun entry member same => absent ?_
  rw [← verdicts_names plan fits, ← same]
  exact List.mem_map_of_mem member

/-- What is broken behind an iteration was broken before, or has no baselines. -/
theorem finishIteration_broken (plan : List (Handle × Bool)) (fits : outcome.Fits (due plan))
    (nodup : ((due plan).map (·.name)).Nodup)
    (member : handle ∈ (agent.finishIteration stampOf plan outcome).1.broken) :
    handle ∈ agent.broken ∨
      (agent.finishIteration stampOf plan outcome).1.Untracked handle.name := by
  let verdicts := agent.verdicts plan outcome
  let account := agent.account stampOf (plan.countP (!·.2)) verdicts
  rcases List.mem_append.mp member with before | moved
  · exact .inl before
  · have broken : handle.name ∈ account.broken := by simpa using (List.mem_filter.mp moved).2
    have covers : account.Covers verdicts := account_covers agent stampOf _ verdicts
    rw [covers.broken] at broken
    obtain ⟨entry, found, same⟩ := List.mem_map.mp broken
    obtain ⟨judged, breaks⟩ := List.mem_filter.mp found
    rw [← verdicts_names plan fits] at nodup
    rw [← same]
    exact .inr (Account.foldl_add_broken nodup judged breaks)

/-- What is known of the baselines of an agent that was asked some things. -/
structure Seeding (calls : List AgentCall) (agent : Agent) : Prop where
  broken : ∀ handle ∈ agent.broken, agent.Untracked handle.name
  pending : ¬ [AgentCall.iterate, .cleanUp].Sublist calls →
    ∀ handle ∈ agent.pending, agent.Untracked handle.name
  unused : AgentCall.iterate ∉ calls → ∀ name, agent.Untracked name

/-- What comes back from the recovery crew has the names that were in the batch. -/
theorem Recovers.name_mem {α : Type} {work : Operation Instance (Except InstanceFault α)}
    {batch : List Handle} {statuses : List (Handle × Status α)}
    (recovers : agent.Recovers work batch statuses after) (faithful : work.Faithful) :
    ∀ handle ∈ statuses.map (·.1), ∃ first ∈ batch, first.name = handle.name := by
  intro handle member
  obtain ⟨entry, present, rfl⟩ := List.mem_map.mp member
  have back : entry.1.origin ∈ statuses.map (·.1.origin) := List.mem_map.mpr ⟨entry, present, rfl⟩
  rw [(recovers.inv faithful).1] at back
  obtain ⟨first, begun, same⟩ := List.mem_map.mp back
  exact ⟨first, begun, Handle.name_eq_of_origin same⟩

theorem failed_subset {α : Type} (statuses : List (Handle × Status α)) :
    failed statuses ⊆ statuses.map (·.1) :=
  (List.filter_sublist.map _).subset

theorem Seeding.iterated (seeding : agent.Seeding calls)
    (nodup : (agent.handles.map (·.name)).Nodup) (stampOf : (name : String) → Int)
    (performed : agent.collection.ensureHealthy.Performs collectWork (agent.dueAt now) outcome crew) :
    (agent.iterated now stampOf outcome crew).1.Seeding (calls ++ [.iterate]) := by
  let plan := (agent.beginIteration now).2
  have due_eq : due plan = agent.dueAt now := due_plan agent now
  have fits : outcome.Fits (due plan) := by
    rintro turns rfl
    rw [due_eq]
    exact performed.length
  have part : ((due plan).map (·.name)).Sublist (agent.active.map (·.name)) := by
    rw [due_eq]
    exact List.filter_sublist.map _
  simp only [handles, List.map_append] at nodup
  obtain ⟨pendingActive, _, apart⟩ := List.nodup_append.mp nodup
  obtain ⟨_, active, apart₂⟩ := List.nodup_append.mp pendingActive
  have others : ∀ name, agent.Untracked name → name ∉ agent.active.map (·.name) →
      (agent.iterated now stampOf outcome crew).1.Untracked name :=
    fun name untracked absent =>
      (finishIteration_other plan fits fun member => absent (part.subset member)).trans untracked
  refine ⟨?_, ?_, ?_⟩
  · intro handle member
    rcases finishIteration_broken plan fits (active.sublist part) member with before | untracked
    · refine others _ (seeding.broken handle before) fun shared => ?_
      exact apart _ (List.mem_append_right _ shared) _ (List.mem_map_of_mem before) rfl
    · exact untracked
  · intro order handle member
    have earlier : ¬ [AgentCall.iterate, .cleanUp].Sublist calls :=
      fun within => order (within.trans (List.sublist_append_left _ _))
    refine others _ (seeding.pending earlier handle member) fun shared => ?_
    exact apart₂ _ (List.mem_map_of_mem member) _ shared rfl
  · intro never
    exact absurd (List.mem_append_right calls (List.mem_singleton_self _)) never

theorem Answers.seeding {call : AgentCall} (answered : agent.Answers call after)
    (nodup : (agent.handles.map (·.name)).Nodup) (seeding : agent.Seeding calls)
    (order : ¬ [AgentCall.iterate, .cleanUp, .init].Sublist (calls ++ [call])) :
    after.Seeding (calls ++ [call]) := by
  have unused : AgentCall.iterate ∉ calls ++ [call] → ∀ name, agent.Untracked name :=
    fun never => seeding.unused fun member => never (List.mem_append_left _ member)
  have pending : ¬ [AgentCall.iterate, .cleanUp].Sublist (calls ++ [call]) →
      ∀ handle ∈ agent.pending, agent.Untracked handle.name :=
    fun order => seeding.pending fun within => order (within.trans (List.sublist_append_left _ _))
  cases answered with
  | @init statuses waited recovers =>
    have names := recovers.name_mem fun _ => Instance.init_keeps_origin _ _
    obtain ⟨_, recovery, rfl⟩ := recovers.inv fun _ => Instance.init_keeps_origin _ _
    have settled : ¬ [AgentCall.iterate, .cleanUp].Sublist calls :=
      fun within => order (within.append (.refl [AgentCall.init]))
    refine ⟨?_, fun _ _ member => (nomatch member), unused⟩
    intro handle member
    rcases List.mem_append.mp member with before | found
    · exact seeding.broken handle before
    · obtain ⟨first, present, same⟩ := names handle (failed_subset _ found)
      exact same ▸ seeding.pending settled first present
  | iterate now stampOf performed => exact seeding.iterated nodup stampOf performed
  | nothingToRecover empty => exact ⟨seeding.broken, pending, unused⟩
  | recover shuffle shuffled recovers =>
    have names := recovers.name_mem fun _ => Instance.init_keeps_origin _ _
    obtain ⟨_, recovery, rfl⟩ := recovers.inv fun _ => Instance.init_keeps_origin _ _
    refine ⟨?_, pending, unused⟩
    intro handle member
    obtain ⟨first, present, same⟩ := names handle (failed_subset _ member)
    exact same ▸ seeding.broken first (shuffled.mem_iff.mp present)
  | cleanUp recovers =>
    obtain ⟨_, recovery, rfl⟩ := recovers.inv fun _ => cleanUpWork_keeps_origin
    refine ⟨fun handle member => (nomatch member), ?_, unused⟩
    intro order handle member
    refine seeding.unused (fun iterated => order ?_) handle.name
    exact (List.singleton_sublist.mpr iterated).append (.refl [AgentCall.cleanUp])
  | list action recovers =>
    have names := recovers.name_mem fun _ => listWork_keeps_origin action
    obtain ⟨_, recovery, rfl⟩ := recovers.inv fun _ => listWork_keeps_origin action
    refine ⟨seeding.broken, ?_, unused⟩
    intro order handle member
    obtain ⟨first, present, same⟩ := names handle member
    exact same ▸ pending order first present

theorem Idles.seeding (idled : agent.Idles after) (seeding : agent.Seeding calls) :
    after.Seeding calls := by
  cases idled with
  | gripped isHeld =>
    refine ⟨?_, ?_, seeding.unused⟩
    · intro handle member
      obtain ⟨first, present, rfl⟩ := List.mem_map.mp member
      exact seeding.broken first present
    · intro order handle member
      obtain ⟨first, present, rfl⟩ := List.mem_map.mp member
      exact seeding.pending order first present
  | drained => exact ⟨seeding.broken, seeding.pending, seeding.unused⟩
  | ordered order => exact ⟨seeding.broken, seeding.pending, seeding.unused⟩

theorem Run.seeding (run : Run engine settings calls agent) (valid : settings.validate engine = .ok ())
    (order : ¬ [AgentCall.iterate, .cleanUp, .init].Sublist calls) : agent.Seeding calls := by
  induction run with
  | start => exact ⟨fun _ member => (nomatch member), fun _ _ _ => rfl, fun _ _ => rfl⟩
  | call run answered ih =>
    have earlier := ih fun within => order (within.trans (List.sublist_append_left _ _))
    exact answered.seeding (run.names_nodup valid) earlier order
  | idle run idled ih => exact idled.seeding (ih order)

/-- As long as no instances are started that were cleaned up after an iteration, a broken instance has
no baselines, and once it is recovered its first samples only are new baselines. -/
theorem broken_untracked (valid : settings.validate engine = .ok ())
    (run : Run engine settings calls agent)
    (order : ¬ [AgentCall.iterate, .cleanUp, .init].Sublist calls) :
    ∀ handle ∈ agent.broken, agent.baselines.tracked handle.name = 0 ∧
      ∀ after, agent.Answers .recover after →
        Pipeline.OnlySeeds after.baselines handle.name := by
  intro handle member
  have untracked := (run.seeding valid order).broken handle member
  refine ⟨List.length_eq_zero_iff.mpr untracked, fun after answered => ?_⟩
  have same : after.baselines = agent.baselines := by
    cases answered with
    | nothingToRecover empty => rfl
    | recover shuffle shuffled recovers =>
      obtain ⟨_, recovery, rfl⟩ := recovers.inv fun _ => Instance.init_keeps_origin _ _
      rfl
  rw [same]
  exact Pipeline.onlySeeds_of_untracked untracked

/-- A configuration that collects the number of threads as a rate. -/
def threadRate : Configuration where
  included := { Filter.empty with
    attributes := some (.detailed [("ThreadCount", some (Configuration.reportedAs "jvm.threads" .rate))]) }
  excluded := Filter.empty
  metricPrefix := none
  renamedTags := []

/-- Settings of just one target, of which the number of threads is collected as a rate. -/
def ratedAlone : Settings where
  shared := { collectDefaults := false, refreshPeriod := none, configurations := [threadRate] }
  instances := [{ name := "east" }]

def rated : Instance := Instance.ofSettings Pattern.engine ratedAlone { name := "east" }

theorem ratedAlone_valid : ratedAlone.validate Pattern.engine = .ok () :=
  Settings.valid_of_toOption (by decide +kernel)

def boundThreads : MatchedAttribute :=
  (Candidate.mk threading ⟨"ThreadCount", "int"⟩).bindSimple ⟨threadRate, Keyed.ofList threading.parameters⟩
    rated.context
    (some (Configuration.reportedAs "jvm.threads" .rate)) none

def ratedStarted (now : Nat) : Instance :=
  rated.startedWith now [threading] { matched := [boundThreads], metricCount := 1 }

theorem rated_canStart : ∃ now, (initWork 0 rated).CanEnd (ratedStarted now) (.ok ()) := by
  have found : (Instance.findBeans rated.configurations).Ends
      [⟨.query none, .ok [threading]⟩] (.ok [threading]) := Instance.watched_found rfl
  have passed : (MatchPass.overBeans (rated.rules .collect) {} [threading]).Ends
      [⟨.attributes threading, .ok [⟨"ThreadCount", "int"⟩]⟩]
      (.ok { matched := [boundThreads], metricCount := 1 }) := .ask _ (.done _)
  obtain ⟨now, _, ends⟩ := Instance.init_ends rfl rfl found passed false 0
  exact ⟨now, ends.canEnd⟩

def ratedCollected (now : Nat) : Instance := { ratedStarted now with lastCollection := some 0 }

theorem rated_canCollect (now : Nat) : ∃ metric, metric.type = .rate ∧
    isFinite metric.value = true ∧
    (collectWork 0 (ratedStarted now)).CanEnd (ratedCollected now) (.ok ⟨[metric], false⟩) := by
  refine ⟨_, ?_, ?_, .ask 0 (.ok (.integer 5)) (.done _ _ _)⟩
  · rfl
  · decide

theorem rated_canBreak (now : Nat) : ∃ after, (collectWork 0 (ratedCollected now)).CanEnd after
    (.error (.connection (.io "refused"))) :=
  ⟨_, .ask 0 (.error (.io "refused")) (.done _ _ _)⟩

theorem cleanUpWork_canEnd (one : Instance) : ∃ after, after.isConnected = false ∧
    (cleanUpWork 0 one).CanEnd after (.ok ()) := by
  obtain ⟨settings, configurations, schedule, engine, isConnected⟩ := one
  cases isConnected with
  | false => exact ⟨_, rfl, .done 0 _ _⟩
  | true => exact ⟨_, rfl, .ask 0 (.ok ()) (.done 0 _ _)⟩

theorem initWork_canFail {one : Instance} (unconnected : one.isConnected = false) :
    ∃ after fault, (initWork 0 one).CanEnd after (.error fault) := by
  obtain ⟨settings, configurations, schedule, engine, isConnected, phase⟩ := one
  cases unconnected
  cases phase <;> exact ⟨_, _, .ask 0 (.error (.io "refused")) (.done _ _ _)⟩

/-- An agent of the only target whose workers are idle. -/
def ratedAgent (collection : Crew) (baselines : Baselines) (pending active broken : List Handle)
    (iteration : Nat) (health : Health) : Agent :=
  { settings := ratedAlone, collection, recovery := Crew.ofSize "recovery" 3, baselines, pending,
    active, broken, iteration, health }

/-- The only target is started, and has a baseline behind an iteration. -/
theorem ratedAlone_iterated : ∃ now metric health,
    metric.type = .rate ∧ isFinite metric.value = true ∧
    Run Pattern.engine ratedAlone [.init, .iterate] (ratedAgent (Crew.ofSize "collection" 3)
      (Pipeline.send [] "east" [metric] 0).2 []
      [{ Handle.ofInstance rated with one := ratedCollected now }] [] 1 health) := by
  obtain ⟨now, started⟩ := rated_canStart
  obtain ⟨metric, isRate, finite, collected⟩ := rated_canCollect now
  have begun : Run Pattern.engine ratedAlone [] (ofSettings Pattern.engine ratedAlone) := .start
  have more := begun.call (.init (.mk (Crew.performs_alone "recovery" 2 started)))
  obtain ⟨health, run⟩ : ∃ health,
      Run Pattern.engine ratedAlone [.init] (ratedAgent (Crew.ofSize "collection" 3)
      [] [] [{ Handle.ofInstance rated with one := ratedStarted now }] [] 0 health) := ⟨_, more⟩
  have more := run.call (.iterate 0 (fun _ => 0) (Crew.performs_alone "collection" 2 collected))
  exact ⟨now, metric, _, isRate, finite, more⟩

theorem broken_untracked_ratedAlone : ∃ agent, ratedAlone.validate Pattern.engine = .ok () ∧
    Run Pattern.engine ratedAlone [.init, .iterate, .iterate] agent ∧
    ¬ [AgentCall.iterate, .cleanUp, .init].Sublist [.init, .iterate, .iterate] ∧
    ∃ handle ∈ agent.broken, agent.baselines.tracked handle.name = 0 := by
  obtain ⟨now, metric, health, _, _, run⟩ := ratedAlone_iterated
  obtain ⟨broken, breaks⟩ := rated_canBreak now
  have more := run.call (.iterate 0 (fun _ => 0) (Crew.performs_alone "collection" 2 breaks))
  obtain ⟨baselines, health, run⟩ : ∃ baselines health,
      Run Pattern.engine ratedAlone [.init, .iterate, .iterate]
      (ratedAgent (Crew.ofSize "collection" 3) baselines [] []
        [{ Handle.ofInstance rated with one := broken.markBroken }] 2 health) := ⟨_, _, more⟩
  have order : ¬ [AgentCall.iterate, .cleanUp, .init].Sublist [.init, .iterate, .iterate] := by decide
  have untracked := broken_untracked ratedAlone_valid run order _ (.head _)
  exact ⟨_, ratedAlone_valid, run, order, _, .head _, untracked.1⟩

/-- The only target is cleaned up after an iteration and cannot be reached when it is started again: it is
broken, and has a baseline still. -/
theorem broken_tracked_ratedAlone : ∃ agent, ratedAlone.validate Pattern.engine = .ok () ∧
    Run Pattern.engine ratedAlone [.init, .iterate, .cleanUp, .init] agent ∧
    ∃ handle ∈ agent.broken, agent.baselines.tracked handle.name ≠ 0 := by
  obtain ⟨now, metric, health, isRate, finite, run⟩ := ratedAlone_iterated
  obtain ⟨closed, unconnected, cleaned⟩ := cleanUpWork_canEnd (ratedCollected now)
  obtain ⟨broken, fault, failed⟩ := initWork_canFail unconnected
  let crew := Crew.ofSize "collection" 3
  let handle := Handle.ofInstance rated
  let baselines := (Pipeline.send [] "east" [metric] 0).2
  have more := run.call (.cleanUp (.mk (Crew.performs_alone "recovery" 2 cleaned)))
  obtain ⟨health, run⟩ : ∃ health, Run Pattern.engine ratedAlone [.init, .iterate, .cleanUp]
      (ratedAgent crew.shutdown baselines [{ handle with one := closed }] [] [] 1 health) := ⟨_, more⟩
  have more := run.call (.init (.mk (Crew.performs_alone "recovery" 2 failed)))
  obtain ⟨health, run⟩ : ∃ health, Run Pattern.engine ratedAlone [.init, .iterate, .cleanUp, .init]
      (ratedAgent crew.shutdown.reset baselines [] [] [{ handle with one := broken }] 1 health) :=
    ⟨_, more⟩
  have tracked := Pipeline.tracked_send_sample isRate finite "east" 0
  exact ⟨_, ratedAlone_valid, run, _, .head _, tracked⟩

end Agent
end BeanHarvest
