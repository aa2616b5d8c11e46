import BeanHarvest.Agent.Turn
import BeanHarvest.Instance.Life

/-! What the agent has the recovery crew do: start instances, restart broken ones, close them, and list
their attributes. Each of these begins by taking handles from the lists and ends by putting them
back. -/
namespace BeanHarvest

/-- What an instance has to list, or why it has nothing. -/
structure Listing where
  name : String
  report : Option MatchReport
  error : Option String
deriving DecidableEq, Repr, Inhabited

namespace Agent

def succeeded {α : Type} (batch : List (Handle × Status α)) : List Handle :=
  (batch.filter fun (_, status) => status.toOption.isSome).map (·.1)

def failed {α : Type} (batch : List (Handle × Status α)) : List Handle :=
  (batch.filter fun (_, status) => status.toOption.isNone).map (·.1)

/-- A critical service check for every task that failed. -/
def failureChecks {α : Type} (batch : List (Handle × Status α)) : List Report :=
  batch.filterMap fun
    | (_, .ok _) => none
    | (handle, .error failure) =>
      some (.check (handle.check .critical (some (failure.userMessage handle.name))))

def beginInit (agent : Agent) : Agent × List Handle :=
  ({ agent with
    pending := []
    collection := if agent.collection.isStopped then agent.collection.reset else agent.collection
    recovery := agent.recovery.ensureHealthy }, agent.pending)

def initWork : Operation Instance (Except InstanceFault Unit) := Instance.init .collect false

def finishInit (agent : Agent) (batch : List (Handle × Status Unit)) : Agent × List Report :=
  let after : Agent := { agent with
    active := agent.active ++ succeeded batch
    broken := agent.broken ++ failed batch }
  (after.refreshHealth, failureChecks batch)

/-- Take the broken instances to be restarted, in some order. -/
def beginRecovery (agent : Agent) (shuffle : List Handle → List Handle) : Agent × List Handle :=
  ({ agent with broken := [], recovery := agent.recovery.ensureHealthy }, shuffle agent.broken)

def recoveryWork : Operation Instance (Except InstanceFault Unit) := Instance.init .collect true

def finishRecovery (agent : Agent) (batch : List (Handle × Status Unit)) : Agent × List Report :=
  agent.finishInit batch

/-- Take all instances to be closed; nothing is collected any more. -/
def beginCleanUp (agent : Agent) : Agent × List Handle :=
  ({ agent with
    collection := agent.collection.shutdown
    recovery := agent.recovery.ensureHealthy
    pending := []
    active := []
    broken := [] }, agent.active ++ agent.broken ++ agent.pending)

def cleanUpWork : Operation Instance (Except InstanceFault Unit) := do
  Instance.cleanUp
  pure (.ok ())

def finishCleanUp (agent : Agent) (batch : List (Handle × Status Unit)) : Agent :=
  let handles : List Handle := batch.map Prod.fst
  let after : Agent := { agent with pending := agent.pending ++ handles }
  after.refreshHealth

def beginList (agent : Agent) : Agent × List Handle :=
  ({ agent with pending := [], recovery := agent.recovery.ensureHealthy }, agent.pending)

def listWork (action : Action) : Operation Instance (Except InstanceFault MatchReport) := do
  let result ← Instance.init action false
  let one ← Operation.get
  Instance.cleanUp
  pure (result.map fun _ => one.report)

def listing (entry : Handle × Status MatchReport) : Listing :=
  match entry with
  | (handle, .ok report) => ⟨handle.name, some report, none⟩
  | (handle, .error failure) => ⟨handle.name, none, some (failure.userMessage handle.name)⟩

def finishList (agent : Agent) (batch : List (Handle × Status MatchReport)) :
    Agent × List Listing :=
  let handles : List Handle := batch.map Prod.fst
  ({ agent with pending := agent.pending ++ handles }, batch.map listing)

end Agent
end BeanHarvest
