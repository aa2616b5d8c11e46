import BeanHarvest.Proofs.Agent.Histories
import BeanHarvest.Proofs.Agent.Working

/-! The minimum interval between collections. An iteration looks at the stamp of an instance to see whether
the instance is due; the stamp is written by the task, at any time later. Along a history the stamps are
the last collections that were begun, so that of each instance any two collections are the interval
apart, whatever became of them and of the instance in between. -/
namespace BeanHarvest

/-- Whether times come in their order, any two of them a period apart. -/
abbrev Spaced (period : Nat) (starts : List Nat) : Prop :=
  starts.Pairwise fun first second => first + period ≤ second

theorem Spaced.isOver_iff {period now : Nat} {starts : List Nat} (spaced : Spaced period starts) :
    (∀ last, starts.getLast? = some last → last + period ≤ now) ↔
      ∀ start ∈ starts, start + period ≤ now := by
  constructor
  · intro elapsed start member
    obtain ⟨before, last, rfl⟩ := (List.eq_nil_or_concat' starts).resolve_left (List.ne_nil_of_mem member)
    have passed := elapsed last List.getLast?_concat
    rcases List.mem_append.mp member with earlier | latest
    · have apart := (List.pairwise_append.mp spaced).2.2 start earlier last (List.mem_singleton_self _)
      omega
    · rwa [List.mem_singleton.mp latest]
  · intro elapsed last isLast
    exact elapsed last (List.mem_of_getLast? isLast)

theorem Spaced.concat {period start : Nat} {starts : List Nat} (spaced : Spaced period starts)
    (elapsed : ∀ last, starts.getLast? = some last → last + period ≤ start) :
    Spaced period (starts ++ [start]) := by
  refine List.pairwise_append.mpr ⟨spaced, List.pairwise_singleton _ _, ?_⟩
  intro first member second isStart
  rw [List.mem_singleton.mp isStart]
  exact spaced.isOver_iff.mp elapsed first member

/-- The seconds between the beginnings of two collections from an instance, if that is set: what it says
itself goes before what is shared. -/
def Settings.minimumInterval (settings : Settings) (given : InstanceSettings) : Option Nat :=
  given.minCollectionInterval <|> settings.shared.minCollectionInterval

theorem Settings.minCollectionPeriod_eq_some_iff {settings : Settings} {given : InstanceSettings}
    {period : Nat} : (settings.schedule given).minCollectionPeriod = some period ↔
      ∃ seconds, settings.minimumInterval given = some seconds ∧ seconds ≠ 0 ∧
        milliseconds seconds = period := by
  simp [schedule, minimumInterval, Option.filter_eq_some_iff, and_assoc]

theorem Instance.timeToCollect_iff {one : Instance} {now : Nat} : one.timeToCollect now = true ↔
    ∀ period, one.schedule.minCollectionPeriod = some period →
      ∀ last, one.lastCollection = some last → last + period ≤ now := by
  unfold timeToCollect
  cases one.schedule.minCollectionPeriod with
  | none => simp
  | some period => cases one.lastCollection <;> simp [isOver]

namespace Agent

variable {agent after : Agent} {now : Nat} {begun more : Begun} {settings : Settings}

/-- Whether the stamps of an agent are the last collections that were begun, and all collections from an
instance are begun the minimum apart. -/
structure Dated (begun : Begun) (agent : Agent) : Prop where
  stamped : ∀ handle ∈ agent.handles,
    handle.one.lastCollection = (begun.ofName handle.name).getLast?
  spaced : ∀ handle ∈ agent.handles, ∀ period,
    handle.one.schedule.minCollectionPeriod = some period → Spaced period (begun.ofName handle.name)

theorem Dated.step (dated : agent.Dated begun) (stamps : agent.Stamps now more after) :
    after.Dated (begun ++ more) := by
  constructor
  · intro handle member
    obtain ⟨first, present, origin, stamped, _⟩ := stamps handle member
    rw [← Handle.name_eq_of_origin origin, Begun.ofName_append]
    generalize more.ofName first.name = starts at stamped
    cases stamped with
    | never same => rw [List.append_nil, same, dated.stamped first present]
    | once later stamp => rw [stamp, List.getLast?_concat]
  · intro handle member period minimum
    obtain ⟨first, present, origin, stamped, free⟩ := stamps handle member
    rw [← Handle.schedule_eq_of_origin origin] at minimum
    have spaced := dated.spaced first present period minimum
    rw [← Handle.name_eq_of_origin origin, Begun.ofName_append]
    generalize more.ofName first.name = starts at stamped free
    cases stamped with
    | never => rwa [List.append_nil]
    | once later stamp =>
      -- The instance was due, so the period since its last collection was over when the iteration began.
      have due := free.resolve_left (List.cons_ne_nil _ _)
      have passed : first.one.timeToCollect now = true :=
        (Bool.and_eq_true_iff.mp (List.mem_filter.mp due).2).2
      refine spaced.concat fun last isLast => Nat.le_trans ?_ later
      rw [← dated.stamped first present] at isLast
      exact Instance.timeToCollect_iff.mp passed period minimum last isLast

theorem History.dated (history : History engine settings begun agent)
    (valid : settings.validate engine = .ok ()) : agent.Dated begun := by
  induction history with
  | start =>
    refine ⟨fun handle member => ?_, fun _ _ _ _ => .nil⟩
    simp only [handles, ofSettings, List.append_nil] at member
    obtain ⟨given, _, rfl⟩ := List.mem_map.mp member
    rfl
  | attend _ attends ih => simpa using ih.step (attends.stamps 0)
  | iterate history now stampOf performed begins ih =>
    obtain ⟨_, run⟩ := history.run
    exact ih.step (iterated_stamps (run.names_nodup valid) performed begins)
  | idle _ idled ih => simpa using ih.step (idled.stamps 0)

/-- An instance is due if it is not held and all collections from it began the minimum ago. -/
theorem Dated.mem_dueAt_iff (dated : agent.Dated begun) {handle : Handle}
    (active : handle ∈ agent.active) (now : Nat) : handle ∈ agent.dueAt now ↔ handle.isHeld = false ∧
      ∀ period, handle.one.schedule.minCollectionPeriod = some period →
        ∀ start ∈ begun.ofName handle.name, start + period ≤ now := by
  have present := mem_handles_of_active active
  have due : handle ∈ agent.dueAt now ↔
      handle.isHeld = false ∧ handle.one.timeToCollect now = true := by
    simp [dueAt, isDue, active]
  rw [due, Instance.timeToCollect_iff, dated.stamped handle present]
  refine and_congr_right fun _ => forall₂_congr fun period minimum => ?_
  exact (dated.spaced handle present period minimum).isOver_iff

/-- Whatever is asked of an agent at any times, and whatever comes of it: where a minimum interval is set
for an instance, any two collections from it begin the interval apart, and it is due as soon as all of
them began the interval ago, unless it is held; where none is set, or zero, it is due unless it is held. -/
theorem collections_spaced (valid : settings.validate engine = .ok ())
    (history : History engine settings begun agent) {given : InstanceSettings}
    (configured : given ∈ settings.instances) :
    (∀ seconds, settings.minimumInterval given = some seconds → seconds ≠ 0 →
      (begun.ofName given.name).Pairwise fun first second =>
        first + Settings.milliseconds seconds ≤ second) ∧
    ∀ handle ∈ agent.active, handle.one.settings = given → ∀ now,
      (∀ seconds, settings.minimumInterval given = some seconds → seconds ≠ 0 →
        (handle ∈ agent.dueAt now ↔ handle.isHeld = false ∧
          ∀ start ∈ begun.ofName given.name, start + Settings.milliseconds seconds ≤ now)) ∧
      (settings.minimumInterval given = none ∨ settings.minimumInterval given = some 0 →
        (handle ∈ agent.dueAt now ↔ handle.isHeld = false)) := by
  obtain ⟨_, run⟩ := history.run
  have dated := history.dated valid
  have period := fun seconds (set : settings.minimumInterval given = some seconds)
    (positive : seconds ≠ 0) => Settings.minCollectionPeriod_eq_some_iff.mpr ⟨_, set, positive, rfl⟩
  constructor
  · intro seconds set positive
    obtain ⟨handle, present, origin⟩ := run.present configured
    obtain ⟨name, _, schedule⟩ := Handle.made_of_origin origin
    rw [← name]
    exact dated.spaced handle present _ (schedule ▸ period seconds set positive)
  · intro handle active made now
    have present := mem_handles_of_active active
    have schedule := (run.schedule_eq present).2
    have name := run.name_eq present
    rw [made] at schedule name
    rw [dated.mem_dueAt_iff active, schedule, name]
    constructor
    · intro seconds set positive
      simp [period seconds set positive]
    · intro unset
      have never : (settings.schedule given).minCollectionPeriod = none := by
        refine Option.eq_none_iff_forall_ne_some.mpr fun period set => ?_
        obtain ⟨seconds, set, positive, _⟩ := Settings.minCollectionPeriod_eq_some_iff.mp set
        rcases unset with unset | unset
        · cases unset.symm.trans set
        · cases unset.symm.trans set
          exact positive rfl
      simp [never]

/-- Settings of just one target, which has no attributes to collect and is collected from at most every
fifteen seconds. -/
def paced : Settings where
  shared := { collectDefaults := false, refreshPeriod := none, minCollectionInterval := some 15 }
  instances := [{ name := "east" }]

def pacedTarget : Instance := Instance.ofSettings Pattern.engine paced { name := "east" }

theorem paced_valid : paced.validate Pattern.engine = .ok () :=
  Settings.valid_of_toOption (by decide +kernel)

/-- The target that was started at some time, and perhaps collected from. -/
def pacedStarted (now : Nat) (last : Option Nat) : Instance :=
  { pacedTarget.startedWith now [] {} with lastCollection := last }

def pacedHandle (one : Instance) : Handle := { Handle.ofInstance pacedTarget with one }

theorem pacedTarget_starts (one : Instance) (same : one.origin = pacedTarget.origin)
    (fresh : one.isConnected = false) (anew : Bool) (time : Nat) : ∃ now,
      (Instance.init .collect anew time one).CanEnd (pacedStarted now one.lastCollection) (.ok ()) := by
  have bare : one.configurations = [] := (congrArg (·.configurations) same :)
  have found : (Instance.findBeans one.configurations).Ends [] (.ok []) := bare ▸ Instance.findBeans_nil
  have passed : (MatchPass.overBeans (one.rules .collect) {} []).Ends [] (.ok {}) := .done _
  obtain ⟨now, _, ends⟩ := Instance.init_ends fresh rfl found passed anew time
  have started : one.startedWith now [] {} = pacedStarted now one.lastCollection :=
    Instance.startedWith_of_origin same now [] {}
  exact ⟨now, started ▸ ends.canEnd⟩

theorem pacedTarget_collects (now time : Nat) (last : Option Nat) :
    (collectWork time (pacedStarted now last)).CanEnd (pacedStarted now (some time)) (.ok ⟨[], false⟩) ∧
      (pacedStarted now last).Collecting time [time] (pacedStarted now (some time)) := by
  have settled : (pacedStarted now last).refreshDue time = false := rfl
  have collected : Instance.collectMatched time (pacedStarted now last) =
      .done time (pacedStarted now (some time)) (.ok []) := rfl
  constructor
  · rw [Instance.collectWork_eq, Instance.collect_eq rfl settled, collected]
    exact .done _ _ _
  · have refreshed : (Instance.refreshIfDue time (pacedStarted now last)).EndsFrom time time
        (pacedStarted now last) (.ok ()) := by
      rw [Instance.refreshIfDue_eq settled]
      exact .done _ _ _
    refine .collecting rfl refreshed ?_
    rw [collected]
    exact .done _ _ _

/-- An agent of the only target whose workers are idle. -/
def pacedAgent (active broken : List Handle) (iteration : Nat) (health : Health) : Agent :=
  { settings := paced, collection := Crew.ofSize "collection" 3,
    recovery := Crew.ofSize "recovery" 3, active, broken, iteration, health }

theorem panicsWithin_alone {α : Type} (work : Operation Instance (Except InstanceFault α))
    (handle : Handle) (result : Except InstanceFault α) (after : Instance) :
    ∀ turns, (.ok [⟨.completed result, after, false⟩] : BatchOutcome α) = .ok turns →
      ∀ entry ∈ [handle].zip turns, entry.2.PanicsWithin work entry.1.one := by
  rintro _ ⟨⟩ entry member
  cases List.mem_singleton.mp member
  exact fun _ panicked => nomatch panicked

/-- The target is started, collected from after a second, and restarted, since nothing came of it. -/
theorem paced_restarted : ∃ now health, History Pattern.engine paced [("east", 1000)]
    (pacedAgent [pacedHandle (pacedStarted now (some 1000))] [] 1 health) := by
  obtain ⟨now₁, starts₁⟩ := pacedTarget_starts pacedTarget rfl rfl false 0
  have started : History Pattern.engine paced [] (ofSettings Pattern.engine paced) := .start
  have more := started.attend (.init (.mk (Crew.performs_alone "recovery" 2 starts₁)
    (panicsWithin_alone _ _ _ _)))
  obtain ⟨health, history⟩ : ∃ health, History Pattern.engine paced []
      (pacedAgent [pacedHandle (pacedStarted now₁ none)] [] 0 health) := ⟨_, more⟩
  obtain ⟨collects, collecting⟩ := pacedTarget_collects now₁ 1000 none
  have more := history.iterate 1000 (fun _ => 0) (Crew.performs_alone "collection" 2 collects)
    (.turn (.left _ _ (Nat.le_refl _) collecting) .empty)
  let broken := (pacedStarted now₁ (some 1000)).markBroken
  obtain ⟨health, history⟩ : ∃ health, History Pattern.engine paced [("east", 1000)]
      (pacedAgent [] [pacedHandle broken] 1 health) := ⟨_, more⟩
  obtain ⟨now₂, starts₂⟩ := pacedTarget_starts broken.closing rfl rfl true 2000
  have restarts : (recoveryWork 2000 broken).CanEnd (pacedStarted now₂ (some 1000)) (.ok ()) := by
    rw [recoveryWork, Instance.init_of_connected .collect 2000 rfl]
    exact .ask 2000 (.ok ()) starts₂
  have more := history.attend (.recover id (.refl _)
    (.mk (Crew.performs_alone "recovery" 2 restarts) (panicsWithin_alone _ _ _ _)))
  exact ⟨now₂, _, more⟩

/-- The target breaks for want of metrics when it is collected from. After it is recovered it is not due
before the fifteen seconds are over; then it is due, and collected from again. -/
theorem collections_spaced_paced : ∃ agent after, paced.validate Pattern.engine = .ok () ∧
    History Pattern.engine paced [("east", 1000)] agent ∧
    (∃ handle ∈ agent.active, handle ∉ agent.dueAt 15999 ∧ handle ∈ agent.dueAt 16000) ∧
    History Pattern.engine paced [("east", 1000), ("east", 16000)] after ∧
    [1000, 16000].Pairwise fun first second => first + 15000 ≤ second := by
  obtain ⟨now, health, history⟩ := paced_restarted
  obtain ⟨_, gate⟩ := collections_spaced paced_valid history (.head _)
  have due := fun now => (gate _ (.head _) rfl now).1 15 rfl (by decide)
  have waits : pacedHandle (pacedStarted now (some 1000)) ∉ _ :=
    fun early => absurd (((due 15999).mp early).2 1000 (by decide)) (by decide)
  have again := (due 16000).mpr ⟨rfl, by decide⟩
  obtain ⟨collects, collecting⟩ := pacedTarget_collects now 16000 (some 1000)
  have more := history.iterate 16000 (fun _ => 0) (Crew.performs_alone "collection" 2 collects)
    (.turn (.left _ _ (Nat.le_refl _) collecting) .empty)
  obtain ⟨spaced, _⟩ := collections_spaced paced_valid more (.head _)
  exact ⟨_, _, paced_valid, history, ⟨_, .head _, waits, again⟩, more, spaced 15 rfl (by decide)⟩

end Agent
end BeanHarvest
