import BeanHarvest.Agent.Turn
import BeanHarvest.Instance.Life
import BeanHarvest.Report.Pipeline

/-! Iterations: every active instance that is due is collected, and what came of it is reported. An
instance that fails is critical; if the failure breaks it, it waits for recovery and loses its
baselines. -/
namespace BeanHarvest

/-- The metrics of an instance, and whether there would have been more. -/
structure Collected where
  metrics : List Metric
  limitReached : Bool

structure Account where
  baselines : Baselines
  summary : Summary
  reports : List Report := []
  broken : List String := []

namespace Account

/-- The check that a limit has been reached. -/
def limitMessage (handle : Handle) (count : Nat) : String :=
  "Number of returned metrics is too high for instance " ++ handle.name ++ "; only the first "
    ++ toString count ++ " are collected"

def successCheck (handle : Handle) (collected : Collected) : ServiceCheck :=
  if collected.limitReached then
    handle.check .warning (some (limitMessage handle collected.metrics.length))
  else handle.check .ok none

def addSuccess (account : Account) (stamp : Int) (handle : Handle) (collected : Collected) :
    Account :=
  let (points, baselines) :=
    Pipeline.send account.baselines handle.name collected.metrics stamp
  { account with
    baselines
    summary := { account.summary with
      collected := account.summary.collected + 1
      metrics := account.summary.metrics + points.length }
    reports := account.reports ++ points.map Report.point
      ++ [.check (successCheck handle collected)] }

def addFailure (account : Account) (handle : Handle) (failure : Failure) : Account :=
  { account with
    baselines :=
      if failure.marksBroken then account.baselines.clear handle.name else account.baselines
    summary := { account.summary with failed := account.summary.failed + 1 }
    reports := account.reports
      ++ [.check (handle.check .critical (some (failure.userMessage handle.name)))]
    broken := account.broken ++ if failure.marksBroken then [handle.name] else [] }

/-- Take in what the task of an instance came to, where the points of each instance have a time. -/
def add (account : Account) (stampOf : (name : String) → Int) (entry : Handle × Status Collected) :
    Account :=
  match entry.2 with
  | .ok collected => account.addSuccess (stampOf entry.1.name) entry.1 collected
  | .error failure => account.addFailure entry.1 failure

end Account

namespace Agent

def collectWork : Operation Instance (Except InstanceFault Collected) := do
  let result ← Instance.collect
  let one ← Operation.get
  pure (result.map fun metrics => ⟨metrics, one.limitReached⟩)

/-- Whether an active instance is collected at some time. -/
def isDue (now : Nat) (handle : Handle) : Bool := !handle.isHeld && handle.one.timeToCollect now

/-- Begin an iteration: the active instances, and which of them are due. -/
def beginIteration (agent : Agent) (now : Nat) : Agent × List (Handle × Bool) :=
  ({ agent with
    iteration := agent.iteration + 1
    collection := agent.collection.ensureHealthy },
    agent.active.map fun handle => (handle, isDue now handle))

def due (plan : List (Handle × Bool)) : List Handle := (plan.filter (·.2)).map (·.1)

/-- To have completed without any metrics is a failure. -/
def refuseEmpty : Status Collected → Status Collected
  | .ok collected => if collected.metrics.isEmpty then .error .noMetrics else .ok collected
  | status => status

/-- The handle after its task came to something. -/
def settled (entry : Handle × Status Collected) : Handle :=
  match entry.2 with
  | .ok _ => entry.1
  | .error failure => if failure.marksBroken then entry.1.markBroken else entry.1

/-- The instances of a plan, those that were due as they are now. -/
def merged : (plan : List (Handle × Bool)) → (settled : List Handle) → List Handle
  | [], _ => []
  | (_, true) :: plan, handle :: settled => handle :: merged plan settled
  | (handle, _) :: plan, settled => handle :: merged plan settled

def verdicts (agent : Agent) (plan : List (Handle × Bool)) (outcome : BatchOutcome Collected) :
    List (Handle × Status Collected) :=
  (outcome.statuses agent.collectionTimeout (due plan)).map fun (handle, status) =>
    (handle, refuseEmpty status)

/-- The account of an iteration that leaves out so many instances. -/
def account (agent : Agent) (stampOf : (name : String) → Int) (skipped : Nat)
    (verdicts : List (Handle × Status Collected)) : Account :=
  verdicts.foldl (fun account entry => account.add stampOf entry) {
    baselines := agent.baselines
    summary := { iteration := agent.iteration, skipped } }

/-- End an iteration, given what became of the instances that were due. -/
def finishIteration (agent : Agent) (stampOf : (name : String) → Int)
    (plan : List (Handle × Bool)) (outcome : BatchOutcome Collected) :
    Agent × Summary × List Report :=
  let verdicts := agent.verdicts plan outcome
  let account := agent.account stampOf (plan.countP (!·.2)) verdicts
  let active := merged plan (verdicts.map settled)
  let isBroken := fun handle : Handle => account.broken.contains handle.name
  let summary := { account.summary with broken := active.countP isBroken }
  let after := { agent with
    baselines := account.baselines
    active := active.filter (!isBroken ·)
    broken := agent.broken ++ active.filter isBroken }
  (after.concludeHealth summary, summary, account.reports)

end Agent
end BeanHarvest
