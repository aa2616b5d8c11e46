import BeanHarvest.Proofs.Agent.Conservation
import Mathlib.Data.List.Nodup

/-! What an iteration does. Every instance that is due has one verdict, read off how its task ended;
the numbers, the service checks and the instances that are moved all follow from the verdicts. -/
namespace BeanHarvest.Agent

variable {engine : Pattern.Engine} {settings : Settings} {calls : List AgentCall} {agent : Agent}
  {now : Nat}
  {stampOf : (name : String) → Int} {outcome : BatchOutcome Collected} {crew : Crew}

/-- The instances that an iteration at some time collects, each with the verdict on its task. -/
def judgedAt (agent : Agent) (now : Nat) (outcome : BatchOutcome Collected) :
    List (Handle × Verdict) :=
  outcome.judged agent.collectionTimeout (agent.dueAt now)

/-- The names of the instances that an iteration finds broken, in the order of the active ones. -/
def foundBroken (agent : Agent) (now : Nat) (outcome : BatchOutcome Collected) : List String :=
  ((agent.judgedAt now outcome).filter (·.2.breaks)).map (·.1.name)

/-- What holds of an iteration: of the agent behind it, the summary and the reports. -/
structure IterationLaw (agent : Agent) (now : Nat) (outcome : BatchOutcome Collected)
    (after : Agent) (summary : Summary) (reports : List Report) : Prop where
  /-- An active instance is due unless it is held or was collected too short a time ago. -/
  due : ∀ handle, handle ∈ agent.dueAt now ↔
    handle ∈ agent.active ∧ handle.isHeld = false ∧ handle.one.timeToCollect now = true
  judged : (agent.judgedAt now outcome).map (·.1) = agent.dueAt now
  collected : summary.collected = (agent.judgedAt now outcome).countP (!·.2.isFailed)
  failed : summary.failed = (agent.judgedAt now outcome).countP (·.2.isFailed)
  skipped : summary.skipped =
    agent.active.countP fun handle => handle.isHeld || !handle.one.timeToCollect now
  total : summary.collected + summary.failed + summary.skipped = agent.active.length
  /-- A service check is of the instance that it carries as its first tag. -/
  checkedOnce : ∀ handle ∈ agent.active,
    (Report.checks reports).countP (·.tags.head? = some (Tags.tag "instance" handle.name)) =
      if isDue now handle then 1 else 0
  checks : Report.checks reports =
    (agent.judgedAt now outcome).map fun entry => entry.2.check entry.1
  statuses : (Report.checks reports).map (fun check => (check.name, check.status)) =
    (agent.judgedAt now outcome).map fun entry =>
      (entry.1.checkName ++ ".can_connect", entry.2.status)
  metrics : summary.metrics = (Report.points reports).length
  moved : after.broken.map (·.name) =
    agent.broken.map (·.name) ++ agent.foundBroken now outcome
  broken : summary.broken = (agent.foundBroken now outcome).length
  stayed : after.active.map (·.name) =
    (agent.active.map (·.name)).filter (!(agent.foundBroken now outcome).contains ·)
  /-- A batch that is refused fails as a whole and moves nothing. -/
  refused : ∀ refusal, outcome = .error refusal →
    (∀ check ∈ Report.checks reports, check.status = .critical) ∧
      after.broken.map (·.name) = agent.broken.map (·.name) ∧
      after.active.map (·.name) = agent.active.map (·.name)

private def waited (agent : Agent) (now : Nat) (crew : Crew) : Agent :=
  { (agent.beginIteration now).1 with collection := crew }

private def entries (agent : Agent) (now : Nat) (outcome : BatchOutcome Collected) (crew : Crew) :
    List (Handle × Status Collected) :=
  (waited agent now crew).verdicts (agent.beginIteration now).2 outcome

private def finalAccount (agent : Agent) (now : Nat) (stampOf : (name : String) → Int)
    (outcome : BatchOutcome Collected) (crew : Crew) : Account :=
  (waited agent now crew).account stampOf ((agent.beginIteration now).2.countP (!·.2))
    (entries agent now outcome crew)

private theorem finalAccount_covers :
    (finalAccount agent now stampOf outcome crew).Covers (entries agent now outcome crew) :=
  account_covers (waited agent now crew) stampOf _ _

private theorem entries_map {β : Type} (agent : Agent) (now : Nat)
    (outcome : BatchOutcome Collected) (crew : Crew) (read : Handle → Verdict → β)
    (steady : ∀ handle (turn : Turn Collected) verdict,
      read (handle.afterTurn turn) verdict = read handle verdict) :
    (entries agent now outcome crew).map (fun entry => read entry.1 (Verdict.ofStatus entry.2)) =
      (agent.judgedAt now outcome).map fun entry => read entry.1 entry.2 := by
  have same := (waited agent now crew).verdicts_map (agent.beginIteration now).2 outcome read steady
  rw [due_plan] at same
  exact same

private theorem entries_countP (test : Verdict → Bool) :
    (entries agent now outcome crew).countP (fun entry => test (Verdict.ofStatus entry.2)) =
      (agent.judgedAt now outcome).countP (fun entry => test entry.2) := by
  have same := entries_map agent now outcome crew (fun _ verdict => verdict) fun _ _ _ => rfl
  simpa only [List.countP_map, Function.comp_def] using congrArg (List.countP test) same

/-- The account has found broken what is broken by its verdict. -/
private theorem finalAccount_broken :
    (finalAccount agent now stampOf outcome crew).broken = agent.foundBroken now outcome := by
  have same := entries_map agent now outcome crew
    (fun handle verdict => (handle.name, verdict.breaks)) fun _ _ _ => rfl
  have broken := congrArg (fun pairs : List (String × Bool) => (pairs.filter (·.2)).map (·.1)) same
  simp only [List.filter_map, List.map_map, Function.comp_def] at broken
  exact finalAccount_covers.broken.trans broken

/-- In a list without repetitions, what is in one of its sublists is that sublist. -/
private theorem filter_of_sublist {names part : List String} (nodup : names.Nodup)
    (within : part.Sublist names) : names.filter (part.contains ·) = part := by
  induction within with
  | slnil => rfl
  | @cons part names name within ih =>
    obtain ⟨fresh, nodup⟩ := List.nodup_cons.mp nodup
    have other : ¬ part.contains name := by
      simpa using fun member => fresh (within.subset member)
    rw [List.filter_cons_of_neg other, ih nodup]
  | @cons_cons part names name within ih =>
    obtain ⟨fresh, nodup⟩ := List.nodup_cons.mp nodup
    have same : names.filter ((name :: part).contains ·) = names.filter (part.contains ·) := by
      refine List.filter_congr fun other member => ?_
      have differs : other ≠ name := fun same => fresh (same ▸ member)
      simp [differs]
    rw [List.filter_cons_of_pos (by simp), same, ih nodup]

private theorem judgedAt_handles (fits : outcome.Fits (agent.dueAt now)) :
    (agent.judgedAt now outcome).map (·.1) = agent.dueAt now := BatchOutcome.judged_handles fits

/-- What was broken among the active instances is in their order. -/
private theorem foundBroken_sublist (fits : outcome.Fits (agent.dueAt now)) :
    (agent.foundBroken now outcome).Sublist (agent.active.map (·.name)) := by
  have part : (agent.foundBroken now outcome).Sublist
      (((agent.judgedAt now outcome).map (·.1)).map (·.name)) := by
    rw [List.map_map]
    exact List.filter_sublist.map _
  rw [judgedAt_handles fits] at part
  exact part.trans (List.filter_sublist.map _)

/-- The active instances as they are when an iteration comes to its end. -/
private def mergedActive (agent : Agent) (now : Nat) (outcome : BatchOutcome Collected)
    (crew : Crew) : List Handle :=
  merged (agent.beginIteration now).2 ((entries agent now outcome crew).map settled)

private theorem settled_name (entry : Handle × Status Collected) :
    (settled entry).name = entry.1.name := by
  have same := congrArg Handle.name (settled_origin entry)
  exact same

private theorem mergedActive_names (crew : Crew) (fits : outcome.Fits (agent.dueAt now)) :
    (mergedActive agent now outcome crew).map (·.name) = agent.active.map (·.name) := by
  have same : ((entries agent now outcome crew).map settled).map (·.name) =
      (due (agent.beginIteration now).2).map (·.name) := by
    have names := entries_map agent now outcome crew (fun handle _ => handle.name) fun _ _ _ => rfl
    rw [due_plan, ← judgedAt_handles fits, List.map_map, List.map_map]
    simp only [Function.comp_def, settled_name]
    exact names
  rw [mergedActive, merged_map (·.name) same]
  simp [beginIteration]

theorem active_nodup (valid : settings.validate engine = .ok ())
    (run : Run engine settings calls agent) :
    (agent.active.map (·.name)).Nodup :=
  (run.names_nodup valid).sublist (agent.active_sublist.map _)

theorem iterated_moved (stampOf : (name : String) → Int) (crew : Crew)
    (valid : settings.validate engine = .ok ()) (run : Run engine settings calls agent)
    (fits : outcome.Fits (agent.dueAt now)) :
    let after := (agent.iterated now stampOf outcome crew).1
    after.broken.map (·.name) = agent.broken.map (·.name) ++ agent.foundBroken now outcome ∧
      after.active.map (·.name) = (agent.active.map (·.name)).filter
        (!(agent.foundBroken now outcome).contains ·) ∧
      (agent.iterated now stampOf outcome crew).2.1.broken =
        (agent.foundBroken now outcome).length := by
  have nodup := active_nodup valid run
  let account := finalAccount agent now stampOf outcome crew
  let active := mergedActive agent now outcome crew
  have names : active.map (·.name) = agent.active.map (·.name) := mergedActive_names crew fits
  have broken : account.broken = agent.foundBroken now outcome := finalAccount_broken
  have found : (active.filter fun handle => account.broken.contains handle.name).map (·.name) =
      agent.foundBroken now outcome := by
    rw [← filter_of_sublist nodup (foundBroken_sublist fits), ← names, List.filter_map, broken]
    rfl
  have rest : (active.filter fun handle => !account.broken.contains handle.name).map (·.name) =
      (agent.active.map (·.name)).filter (!(agent.foundBroken now outcome).contains ·) := by
    rw [← names, List.filter_map, broken]
    rfl
  refine ⟨?_, rest, ?_⟩
  · have moved := congrArg (agent.broken.map (·.name) ++ ·) found
    simp only [← List.map_append] at moved
    exact moved
  · rw [← found, List.length_map, ← List.countP_eq_length_filter]
    rfl

theorem iterated_checks :
    Report.checks (agent.iterated now stampOf outcome crew).2.2 =
      (agent.judgedAt now outcome).map fun entry => entry.2.check entry.1 := by
  have covers : (finalAccount agent now stampOf outcome crew).Covers
      (entries agent now outcome crew) := finalAccount_covers
  refine covers.checks.trans ?_
  refine entries_map agent now outcome crew (fun handle verdict => verdict.check handle) ?_
  intro handle turn verdict
  cases verdict <;> rfl

/-- The first tag of a service check tells the instance. -/
theorem Run.instance_tag (run : Run engine settings calls agent) {handle : Handle}
    (member : handle ∈ agent.handles) :
    handle.tags.head? = some (Tags.tag "instance" handle.name) := by
  obtain ⟨given, _, same⟩ := run.configured member
  have tags : handle.tags = (Instance.ofSettings engine settings given).checkTags :=
    (congrArg Handle.tags same :)
  rw [tags, (Handle.made_of_origin same).1]
  rfl

private theorem judged_active (fits : outcome.Fits (agent.dueAt now)) {entry : Handle × Verdict}
    (member : entry ∈ agent.judgedAt now outcome) : entry.1 ∈ agent.active := by
  have isDue : entry.1 ∈ agent.dueAt now := by
    rw [← judgedAt_handles fits]
    exact List.mem_map_of_mem member
  exact (List.mem_filter.mp isDue).1

/-- An active instance is among those that are due, by its name, just when it is due. -/
private theorem count_dueAt (nodup : (agent.active.map (·.name)).Nodup) {handle : Handle}
    (member : handle ∈ agent.active) :
    ((agent.dueAt now).map (·.name)).count handle.name = if isDue now handle then 1 else 0 := by
  have dueNodup : ((agent.dueAt now).map (·.name)).Nodup := nodup.sublist (List.filter_sublist.map _)
  have present : handle.name ∈ (agent.dueAt now).map (·.name) ↔ isDue now handle = true := by
    constructor
    · intro shared
      obtain ⟨other, found, same⟩ := List.mem_map.mp shared
      obtain ⟨active, isDue⟩ := List.mem_filter.mp found
      exact List.inj_on_of_nodup_map nodup active member same ▸ isDue
    · intro isDue
      exact List.mem_map_of_mem (List.mem_filter.mpr ⟨member, isDue⟩)
  rw [dueNodup.count]
  simp only [present]

theorem iterated_checked (valid : settings.validate engine = .ok ())
    (run : Run engine settings calls agent)
    (fits : outcome.Fits (agent.dueAt now)) {handle : Handle} (member : handle ∈ agent.active) :
    (Report.checks (agent.iterated now stampOf outcome crew).2.2).countP
        (·.tags.head? = some (Tags.tag "instance" handle.name)) =
      if isDue now handle then 1 else 0 := by
  have named : ∀ entry ∈ agent.judgedAt now outcome,
      (entry.2.check entry.1).tags.head? = some (Tags.tag "instance" handle.name) ↔
        entry.1.name = handle.name := by
    intro entry present
    have known := mem_handles_of_active (judged_active fits present)
    rw [Verdict.check_tags, run.instance_tag known]
    simp only [Option.some.injEq, Tags.tag, String.append_right_inj]
  have own : ((agent.judgedAt now outcome).map fun entry => entry.2.check entry.1).countP
        (·.tags.head? = some (Tags.tag "instance" handle.name)) =
      (agent.judgedAt now outcome).countP (fun entry => entry.1.name = handle.name) := by
    rw [List.countP_map]
    refine List.countP_congr fun entry found => ?_
    simpa using named entry found
  have counted : (agent.judgedAt now outcome).countP (fun entry => entry.1.name = handle.name) =
      ((agent.dueAt now).map (·.name)).count handle.name := by
    rw [← judgedAt_handles fits, List.map_map, List.count, List.countP_map]
    rfl
  rw [iterated_checks, own, counted, count_dueAt (active_nodup valid run) member]

private theorem skipped_plan (agent : Agent) (now : Nat) :
    (agent.beginIteration now).2.countP (!·.2) =
      agent.active.countP fun handle => handle.isHeld || !handle.one.timeToCollect now := by
  simp only [beginIteration, List.countP_map]
  refine List.countP_congr fun handle _ => ?_
  simp [isDue]

private theorem countP_total {α : Type} (items : List α) (test : α → Bool) :
    items.countP (!test ·) + items.countP test = items.length := by
  have total := items.length_eq_countP_add_countP test
  simp only [Bool.not_eq_true, Bool.decide_eq_false] at total
  omega

private theorem foundBroken_refused (refusal : Refusal) :
    agent.foundBroken now (.error refusal) = [] := by
  have none : ∀ entry ∈ agent.judgedAt now (.error refusal), ¬ entry.2.breaks = true := by
    intro entry member
    obtain ⟨handle, _, rfl⟩ := List.mem_map.mp member
    exact Bool.false_ne_true
  rw [foundBroken, List.filter_eq_nil_iff.mpr none]
  rfl

/-- Whatever became of its batch, an iteration obeys its law. -/
theorem iterated_law (valid : settings.validate engine = .ok ()) (run : Run engine settings calls agent)
    (fits : outcome.Fits (agent.dueAt now)) :
    IterationLaw agent now outcome (agent.iterated now stampOf outcome crew).1
      (agent.iterated now stampOf outcome crew).2.1
      (agent.iterated now stampOf outcome crew).2.2 := by
  have covers : (finalAccount agent now stampOf outcome crew).Covers
      (entries agent now outcome crew) := finalAccount_covers
  obtain ⟨moved, stayed, broken⟩ := iterated_moved stampOf crew valid run fits
  have collected : (agent.iterated now stampOf outcome crew).2.1.collected =
      (agent.judgedAt now outcome).countP (!·.2.isFailed) :=
    covers.collected.trans (entries_countP (!·.isFailed))
  have failed : (agent.iterated now stampOf outcome crew).2.1.failed =
      (agent.judgedAt now outcome).countP (·.2.isFailed) :=
    covers.failed.trans (entries_countP (·.isFailed))
  have skipped : (agent.iterated now stampOf outcome crew).2.1.skipped =
      agent.active.countP fun handle => handle.isHeld || !handle.one.timeToCollect now :=
    (Account.foldl_add_begun _ stampOf _).2.trans (skipped_plan agent now)
  refine {
    judged := judgedAt_handles fits
    collected, failed, skipped, moved, stayed, broken
    metrics := covers.metrics
    checks := iterated_checks
    checkedOnce := fun handle member => iterated_checked valid run fits member
    due := ?due, total := ?total, statuses := ?statuses, refused := ?refused }
  case due =>
    intro handle
    simp [dueAt, isDue]
  case total =>
    have judged : (agent.judgedAt now outcome).length = agent.active.countP (isDue now) := by
      rw [List.countP_eq_length_filter, ← List.length_map (·.1), judgedAt_handles fits]
      rfl
    have left : (fun handle : Handle => handle.isHeld || !handle.one.timeToCollect now) =
        fun handle => !isDue now handle := by
      funext handle
      simp [isDue]
    rw [collected, failed, skipped, left, countP_total, judged, Nat.add_comm, countP_total]
  case statuses =>
    rw [iterated_checks, List.map_map]
    refine List.map_congr_left fun entry _ => ?_
    simp only [Function.comp_apply, Verdict.check_name, Verdict.check_status]
  case refused =>
    rintro refusal rfl
    rw [foundBroken_refused] at moved stayed
    refine ⟨?_, by simpa using moved, by simpa using stayed⟩
    intro check member
    rw [iterated_checks] at member
    obtain ⟨entry, judged, rfl⟩ := List.mem_map.mp member
    obtain ⟨handle, _, rfl⟩ := List.mem_map.mp judged
    rfl

/-- One target gives no metrics in an iteration, the other one more than its limit. -/
theorem iterated_law_twoTargets :
    ∃ (agent : Agent) (outcome : BatchOutcome Collected) (crew : Crew),
      twoTargets.validate Pattern.engine = .ok () ∧ Run Pattern.engine twoTargets [.init] agent ∧
      outcome.Fits (agent.dueAt 0) ∧
      let iterated := agent.iterated 0 (fun _ => 0) outcome crew
      IterationLaw agent 0 outcome iterated.1 iterated.2.1 iterated.2.2 ∧
        iterated.2.1.collected = 1 ∧ iterated.2.1.failed = 1 ∧
        iterated.1.active.map (·.name) = ["west"] ∧
        (Report.checks iterated.2.2).map (·.status) = [.critical, .warning] := by
  obtain ⟨agent, now₁, now₂, run, collection, active⟩ := twoTargets_started
  let turns : List (Turn Collected) := [
    ⟨.completed (.ok ⟨[], false⟩), startedTarget "east" now₁, false⟩,
    ⟨.completed (.ok ⟨[⟨"jvm.thread_count", .gauge, [], .ofFloat 5.0, "jmx"⟩], true⟩),
      startedTarget "west" now₂, false⟩]
  have due : agent.dueAt 0 = [Handle.ofInstance (startedTarget "east" now₁),
      Handle.ofInstance (startedTarget "west" now₂)] := by
    rw [dueAt, active]
    rfl
  have fits : BatchOutcome.Fits (agent.dueAt 0) (.ok turns) := by
    rintro _ ⟨⟩
    rw [due]
    rfl
  let after := agent.iterated 0 (fun _ => 0) (.ok turns) agent.collection
  have law : IterationLaw agent 0 (.ok turns) after.1 after.2.1 after.2.2 :=
    iterated_law twoTargets_valid run fits
  have judged : agent.judgedAt 0 (.ok turns) =
      [(Handle.ofInstance (startedTarget "east" now₁), .failed .noMetrics),
        (Handle.ofInstance (startedTarget "west" now₂), .limited 1)] := by
    rw [judgedAt, due]
    rfl
  have collected := law.collected
  have failed := law.failed
  have stayed := law.stayed
  have checks := law.checks
  rw [foundBroken, judged, active] at stayed
  rw [judged] at collected failed checks
  refine ⟨agent, .ok turns, agent.collection, twoTargets_valid, run, fits, law, collected, failed,
    stayed, ?_⟩
  rw [checks]
  rfl

end BeanHarvest.Agent
