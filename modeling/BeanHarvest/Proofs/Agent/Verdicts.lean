import BeanHarvest.Proofs.Agent.Calls

/-! The account of an iteration: what it has counted and reported for the instances that were taken in,
and which of them it has found broken. -/
namespace BeanHarvest

namespace Report

def checks (reports : List Report) : List ServiceCheck :=
  reports.filterMap fun
    | .check given => some given
    | .point _ => none

def points (reports : List Report) : List MetricPoint :=
  reports.filterMap fun
    | .point given => some given
    | .check _ => none

theorem checks_append (first second : List Report) :
    checks (first ++ second) = checks first ++ checks second := List.filterMap_append

theorem points_append (first second : List Report) :
    points (first ++ second) = points first ++ points second := List.filterMap_append

theorem checks_points (given : List MetricPoint) : checks (given.map .point) = [] := by
  simp [checks]

theorem points_points (given : List MetricPoint) : points (given.map .point) = given := by
  rw [points, List.filterMap_map]
  exact List.filterMap_some

end Report

/-- What an iteration makes of an instance that is due. -/
inductive Verdict where
  | well
  | limited (count : Nat)
  | failed (failure : Failure)
deriving DecidableEq, Repr

namespace Verdict

/-- The verdict on a task, where so many milliseconds were allowed: a task that ends without metrics
has failed as well. -/
def ofEnding (timeout : Nat) : Ending (Except InstanceFault Collected) → Verdict
  | .completed (.ok ⟨[], _⟩) => failed .noMetrics
  | .completed (.ok ⟨metric :: metrics, true⟩) => limited (metric :: metrics).length
  | .completed (.ok ⟨_ :: _, false⟩) => well
  | .completed (.error fault) => failed (Failure.ofInstance fault)
  | .timedOut => failed (.timedOut (timeout * 1000))
  | .panicked message => failed (.connection ("task panicked: " ++ message))
  | .cancelled => failed (.scheduler "task cancelled")

def isFailed : Verdict → Bool
  | failed _ => true
  | _ => false

def breaks : Verdict → Bool
  | failed failure => failure.marksBroken
  | _ => false

def status : Verdict → CheckStatus
  | well => .ok
  | limited _ => .warning
  | failed _ => .critical

def check (handle : Handle) : Verdict → ServiceCheck
  | well => handle.check .ok none
  | limited count => handle.check .warning (some (Account.limitMessage handle count))
  | failed failure => handle.check .critical (some (failure.userMessage handle.name))

def ofStatus : Status Collected → Verdict
  | .ok collected => if collected.limitReached then limited collected.metrics.length else well
  | .error failure => failed failure

theorem ofStatus_ofEnding (timeout : Nat) (ending : Ending (Except InstanceFault Collected)) :
    ofStatus (Agent.refuseEmpty (Status.ofEnding timeout ending)) = ofEnding timeout ending := by
  cases ending with
  | completed result =>
    cases result with
    | ok collected =>
      obtain ⟨metrics, limitReached⟩ := collected
      cases metrics with
      | nil => rfl
      | cons metric metrics => cases limitReached <;> rfl
    | error fault => rfl
  | panicked message => rfl
  | cancelled => rfl
  | timedOut => rfl

theorem check_status (handle : Handle) (verdict : Verdict) :
    (verdict.check handle).status = verdict.status := by
  cases verdict <;> rfl

theorem check_name (handle : Handle) (verdict : Verdict) :
    (verdict.check handle).name = handle.checkName ++ ".can_connect" := by
  cases verdict <;> rfl

theorem check_tags (handle : Handle) (verdict : Verdict) :
    (verdict.check handle).tags = handle.tags := by
  cases verdict <;> rfl

end Verdict

namespace Account

/-- An account in which some instances were taken in, each with what its task came to. -/
structure Covers (account : Account) (entries : List (Handle × Status Collected)) : Prop where
  collected : account.summary.collected =
    entries.countP (fun entry => !(Verdict.ofStatus entry.2).isFailed)
  failed : account.summary.failed =
    entries.countP (fun entry => (Verdict.ofStatus entry.2).isFailed)
  metrics : account.summary.metrics = (Report.points account.reports).length
  checks : Report.checks account.reports =
    entries.map fun entry => (Verdict.ofStatus entry.2).check entry.1
  broken : account.broken =
    (entries.filter fun entry => (Verdict.ofStatus entry.2).breaks).map (·.1.name)

theorem Covers.add {account : Account} {entries : List (Handle × Status Collected)}
    (covers : account.Covers entries) (stampOf : (name : String) → Int)
    (entry : Handle × Status Collected) :
    (account.add stampOf entry).Covers (entries ++ [entry]) := by
  obtain ⟨handle, status⟩ := entry
  cases status with
  | ok collected =>
    have check : successCheck handle collected =
        (Verdict.ofStatus (.ok collected)).check handle := by
      cases limited : collected.limitReached <;>
        simp [successCheck, Verdict.ofStatus, limited, Verdict.check]
    have well : (Verdict.ofStatus (.ok collected)).isFailed = false ∧
        (Verdict.ofStatus (.ok collected)).breaks = false := by
      cases limited : collected.limitReached <;>
        simp [Verdict.ofStatus, limited, Verdict.isFailed, Verdict.breaks]
    constructor
    · simp [Account.add, addSuccess, covers.collected, well.1]
    · simp [Account.add, addSuccess, covers.failed, well.1]
    · simp [Account.add, addSuccess, covers.metrics, Report.points_append, Report.points_points]
      rfl
    · simp [Account.add, addSuccess, covers.checks, Report.checks_append, Report.checks_points]
      simp [Report.checks, check]
    · simp [Account.add, addSuccess, covers.broken, well.2]
  | error failure =>
    constructor
    · simp [Account.add, addFailure, covers.collected, Verdict.ofStatus, Verdict.isFailed]
    · simp [Account.add, addFailure, covers.failed, Verdict.ofStatus, Verdict.isFailed]
    · simp [Account.add, addFailure, covers.metrics, Report.points_append]
      rfl
    · simp [Account.add, addFailure, covers.checks, Report.checks_append]
      rfl
    · cases breaks : failure.marksBroken <;>
        simp [Account.add, addFailure, covers.broken, Verdict.ofStatus, Verdict.breaks, breaks]

theorem Covers.foldl {account : Account} {before : List (Handle × Status Collected)}
    (covers : account.Covers before) (stampOf : (name : String) → Int)
    (entries : List (Handle × Status Collected)) :
    (entries.foldl (fun account entry => account.add stampOf entry) account).Covers
      (before ++ entries) := by
  induction entries generalizing account before with
  | nil => simpa using covers
  | cons entry rest ih => simpa using ih (covers.add stampOf entry)

/-- Taking in an instance changes neither the number of the iteration nor how many are left out. -/
theorem foldl_add_begun (account : Account) (stampOf : (name : String) → Int)
    (entries : List (Handle × Status Collected)) :
    let after := entries.foldl (fun account entry => account.add stampOf entry) account
    after.summary.iteration = account.summary.iteration ∧
      after.summary.skipped = account.summary.skipped := by
  induction entries generalizing account with
  | nil => exact ⟨rfl, rfl⟩
  | cons entry rest ih =>
    have step : (account.add stampOf entry).summary.iteration = account.summary.iteration ∧
        (account.add stampOf entry).summary.skipped = account.summary.skipped := by
      obtain ⟨handle, status⟩ := entry
      cases status <;> exact ⟨rfl, rfl⟩
    obtain ⟨number, skipped⟩ := ih (account.add stampOf entry)
    exact ⟨number.trans step.1, skipped.trans step.2⟩

end Account

/-- The account of an iteration covers what the tasks came to. -/
theorem Agent.account_covers (agent : Agent) (stampOf : (name : String) → Int) (skipped : Nat)
    (verdicts : List (Handle × Status Collected)) :
    (agent.account stampOf skipped verdicts).Covers verdicts := by
  have begun : Account.Covers { baselines := agent.baselines, summary := {
      iteration := agent.iteration, skipped } } [] := ⟨rfl, rfl, rfl, rfl, rfl⟩
  exact begun.foldl stampOf verdicts

namespace BatchOutcome

/-- Whether every instance of a batch has a turn, unless the batch was refused. -/
def Fits {α : Type} (batch : List Handle) (outcome : BatchOutcome α) : Prop :=
  ∀ turns, outcome = .ok turns → turns.length = batch.length

/-- The instances that were due, each with the verdict on its task. -/
def judged (timeout : Nat) (due : List Handle) :
    BatchOutcome Collected → List (Handle × Verdict)
  | .error refusal => due.map fun handle => (handle, .failed (.scheduler refusal.message))
  | .ok turns => due.zip (turns.map fun turn => Verdict.ofEnding timeout turn.ending)

theorem judged_handles {timeout : Nat} {due : List Handle} {outcome : BatchOutcome Collected}
    (fits : outcome.Fits due) : (outcome.judged timeout due).map (·.1) = due := by
  cases outcome with
  | error refusal => simp [judged, Function.comp_def]
  | ok turns =>
    have enough : due.length ≤ (turns.map fun turn => Verdict.ofEnding timeout turn.ending).length := by
      simp [fits turns rfl]
    exact List.map_fst_zip enough

end BatchOutcome

namespace Agent

/-- What is read off the verdicts of an iteration can be read off the endings of its tasks, if a turn
does not change it. -/
theorem verdicts_map {β : Type} (agent : Agent) (plan : List (Handle × Bool))
    (outcome : BatchOutcome Collected) (read : Handle → Verdict → β)
    (steady : ∀ handle (turn : Turn Collected) verdict,
      read (handle.afterTurn turn) verdict = read handle verdict) :
    (agent.verdicts plan outcome).map (fun entry => read entry.1 (Verdict.ofStatus entry.2)) =
      (outcome.judged agent.collectionTimeout (due plan)).map
        fun entry => read entry.1 entry.2 := by
  unfold verdicts
  rw [List.map_map]
  cases outcome with
  | error refusal =>
    simp only [BatchOutcome.statuses, BatchOutcome.judged, List.map_map]
    rfl
  | ok turns =>
    simp only [BatchOutcome.statuses, BatchOutcome.judged]
    generalize due plan = batch
    induction batch generalizing turns with
    | nil => rfl
    | cons handle batch ih =>
      cases turns with
      | nil => rfl
      | cons turn turns =>
        have rest := ih turns
        simp only [List.zipWith_cons_cons, List.map_cons, List.zip_cons_cons, Function.comp_apply] at *
        rw [rest, Verdict.ofStatus_ofEnding, steady]

/-- Taking the instances that were due back into a plan keeps what can be read off each instance. -/
theorem merged_map {β : Type} (read : Handle → β) {plan : List (Handle × Bool)}
    {after : List Handle} (same : after.map read = (due plan).map read) :
    (merged plan after).map read = plan.map fun entry => read entry.1 := by
  induction plan generalizing after with
  | nil => rfl
  | cons entry plan ih =>
    obtain ⟨handle, isDue⟩ := entry
    cases isDue with
    | false =>
      have others : after.map read = (due plan).map read := by simpa [due] using same
      simpa [merged] using ih others
    | true =>
      cases after with
      | nil => simp [due] at same
      | cons first after =>
        have split : read first = read handle ∧ after.map read = (due plan).map read := by
          simpa [due] using same
        simpa [merged, split.1] using ih split.2

/-- What is taken back into a plan is an instance that was due, as it is now, or was not due at all. -/
theorem mem_merged_of_enough {handle : Handle} {plan : List (Handle × Bool)} {after : List Handle}
    (enough : after.length = (due plan).length) (member : handle ∈ merged plan after) :
    handle ∈ after ∨ (handle, false) ∈ plan := by
  induction plan generalizing after with
  | nil => cases member
  | cons entry plan ih =>
    obtain ⟨first, isDue⟩ := entry
    cases isDue with
    | false =>
      have others : after.length = (due plan).length := enough
      rcases List.mem_cons.mp member with rfl | later
      · exact .inr (.head _)
      · exact (ih others later).imp_right (.tail _)
    | true =>
      cases after with
      | nil => cases enough
      | cons next after =>
        have others : after.length = (due plan).length := Nat.succ.inj enough
        rcases List.mem_cons.mp member with rfl | later
        · exact .inl (.head _)
        · exact (ih others later).imp (.tail _) (.tail _)

theorem map_fst_plan (agent : Agent) (now : Nat) :
    (agent.beginIteration now).2.map (·.1) = agent.active := by
  rw [← List.map_id agent.active]
  exact List.map_map

/-- The plan of an iteration has the active instances, and those that are due are the ones that it
marks. -/
theorem due_plan (agent : Agent) (now : Nat) :
    due (agent.beginIteration now).2 = agent.dueAt now := by
  simp only [due, beginIteration, dueAt, List.filter_map, List.map_map]
  exact List.map_id _

end Agent
end BeanHarvest
