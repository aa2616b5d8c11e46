import BeanHarvest.Crew.Basic
import BeanHarvest.Instance.Basic
import BeanHarvest.Report.Basic
import BeanHarvest.Report.Rates

/-! The agent: it has every configured instance in one of three lists. Instances that are not started
are pending; active ones are collected from; broken ones wait for recovery. -/
namespace BeanHarvest

/-- An instance in the hands of the agent. It is held while an aborted task has not let go of it. -/
structure Handle where
  name : String
  checkName : String
  tags : List String
  one : Instance
  isHeld : Bool := false

namespace Handle

def ofInstance (one : Instance) : Handle :=
  { name := one.name, checkName := one.settings.checkName, tags := one.checkTags, one }

def check (handle : Handle) (status : CheckStatus) (message : Option String) : ServiceCheck :=
  ⟨handle.checkName ++ ".can_connect", status, message, handle.tags⟩

def released (handle : Handle) : Handle := { handle with isHeld := false }

/-- The handle with its instance broken, if nothing holds it. -/
def markBroken (handle : Handle) : Handle :=
  if handle.isHeld then handle else { handle with one := handle.one.markBroken }

end Handle

structure Health where
  isReady : Bool := false
  iterations : Nat := 0
  active : Nat := 0
  broken : List String := []
  lastMetrics : Nat := 0
deriving DecidableEq, Repr, Inhabited

/-- What came of one iteration, in numbers of instances and of points. -/
structure Summary where
  iteration : Nat
  collected : Nat := 0
  failed : Nat := 0
  skipped : Nat := 0
  broken : Nat := 0
  metrics : Nat := 0
deriving DecidableEq, Repr, Inhabited

structure Agent where
  settings : Settings
  collection : Crew
  recovery : Crew
  baselines : Baselines := []
  pending : List Handle := []
  active : List Handle := []
  broken : List Handle := []
  iteration : Nat := 0
  health : Health := {}

namespace Agent

def ofSettings (engine : Pattern.Engine) (settings : Settings) : Agent where
  settings
  collection := Crew.ofSize "collection" settings.shared.collectionPoolSize
  recovery := Crew.ofSize "recovery" settings.shared.recoveryPoolSize
  pending := settings.instances.map fun one =>
    Handle.ofInstance (Instance.ofSettings engine settings one)

def collectionTimeout (agent : Agent) : Nat :=
  Settings.milliseconds agent.settings.shared.collectionTimeout

def recoveryTimeout (agent : Agent) : Nat :=
  Settings.milliseconds agent.settings.shared.recoveryTimeout

def refreshHealth (agent : Agent) : Agent :=
  { agent with
    health := { agent.health with
      active := agent.active.length
      broken := agent.broken.map (·.name) } }

/-- Tell where the instances are, and what came of an iteration. -/
def concludeHealth (agent : Agent) (summary : Summary) : Agent :=
  let told := agent.refreshHealth
  { told with
    health := { told.health with
      isReady := true
      iterations := summary.iteration
      lastMetrics := summary.metrics } }

/-- Aborted tasks let go of their workers and instances. -/
def drained (agent : Agent) : Agent :=
  { agent with
    collection := agent.collection.drain
    recovery := agent.recovery.drain
    pending := agent.pending.map Handle.released
    active := agent.active.map Handle.released
    broken := agent.broken.map Handle.released }

end Agent
end BeanHarvest
