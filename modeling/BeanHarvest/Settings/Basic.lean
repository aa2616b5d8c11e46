import BeanHarvest.Filter.Basic

namespace BeanHarvest

inductive ReporterKind where
  | console
  | prometheus
deriving DecidableEq, Repr, Inhabited

inductive LogFormat where
  | text
  | json
deriving DecidableEq, Repr, Inhabited

def LogFormat.name : LogFormat → String
  | .text => "text"
  | .json => "json"

/-- Settings that hold for every instance. Periods are in seconds, the check period in milliseconds;
a period that is not set is never over. -/
structure SharedSettings where
  isJmx : Bool := true
  collectDefaults : Bool := true
  refreshPeriod : Option Nat := some 600
  initialRefreshPeriod : Option Nat := none
  minCollectionInterval : Option Nat := none
  maxMetrics : Nat := 350
  collectionTimeout : Nat := 60
  collectionPoolSize : Nat := 3
  recoveryPoolSize : Nat := 3
  recoveryTimeout : Nat := 10
  checkPeriod : Nat := 15000
  configurations : List Configuration := []

/-- Settings of one instance: a target, and what of the shared settings it does differently. -/
structure InstanceSettings where
  name : String
  url : String := "http://localhost:8778/jolokia"
  checkName : String := "jmx"
  tags : List String := []
  cassandraNaming : Bool := false
  metricPrefix : Option String := none
  detectStatistics : Bool := false
  requestTimeout : Nat := 5000
  refreshPeriod : Option Nat := none
  initialRefreshPeriod : Option Nat := none
  minCollectionInterval : Option Nat := none
  maxMetrics : Option Nat := none
  configurations : List Configuration := []

structure ServerSettings where
  enabled : Bool := true
  port : Nat := 9090
  path : String := "/metrics"
  bindAddress : String := "0.0.0.0"
deriving DecidableEq, Repr, Inhabited

structure Settings where
  shared : SharedSettings := {}
  instances : List InstanceSettings := []
  reporter : ReporterKind := .console
  server : ServerSettings := {}
  logFormat : LogFormat := .text

/-- When one instance is collected, and how much; periods are in milliseconds. -/
structure Schedule where
  refreshPeriod : Option Nat
  initialRefreshPeriod : Option Nat
  minCollectionPeriod : Option Nat
  maxMetrics : Nat
deriving DecidableEq, Repr, Inhabited

namespace Settings

def milliseconds (seconds : Nat) : Nat := seconds * 1000

/-- The schedule of an instance: what it says itself goes before what is shared. No minimum is the
same as a minimum of zero. -/
def schedule (settings : Settings) (one : InstanceSettings) : Schedule where
  refreshPeriod := (one.refreshPeriod <|> settings.shared.refreshPeriod).map milliseconds
  initialRefreshPeriod :=
    (one.initialRefreshPeriod <|> settings.shared.initialRefreshPeriod).map milliseconds
  minCollectionPeriod :=
    ((one.minCollectionInterval <|> settings.shared.minCollectionInterval).filter (· ≠ 0)).map
      milliseconds
  maxMetrics := one.maxMetrics.getD settings.shared.maxMetrics

end Settings
end BeanHarvest
