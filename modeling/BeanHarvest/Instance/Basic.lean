import BeanHarvest.Attribute.Candidate
import BeanHarvest.Settings.Defaults

/-! Instances: targets that are collected from. An instance has a connection or not, the beans that were
found, and the attributes of theirs that are collected. -/
namespace BeanHarvest

inductive Phase where
  | uninitialized
  | connected
  | ready
  | collecting
  | broken
  | recovering
deriving DecidableEq, Repr, Inhabited

def Phase.text : Phase → String
  | .uninitialized => "uninitialized"
  | .connected => "connected"
  | .ready => "ready"
  | .collecting => "collecting"
  | .broken => "broken"
  | .recovering => "recovering"

/-- What attributes are matched for: to be collected, or to be listed. -/
inductive Action where
  | collect
  | listEverything
  | listCollected
  | listMatching
  | listNotMatching
  | listLimited
deriving DecidableEq, Repr, Inhabited

namespace Action

def text : Action → String
  | collect => "collect"
  | listEverything => "list_everything"
  | listCollected => "list_collected_attributes"
  | listMatching => "list_matching_attributes"
  | listNotMatching => "list_not_matching_attributes"
  | listLimited => "list_limited_attributes"

def listings : List Action :=
  [listEverything, listCollected, listMatching, listNotMatching, listLimited]

def listing? (name : String) : Option Action := listings.find? (·.text = name)

def listsMatched (action : Action) : Bool :=
  action = listEverything || action = listCollected || action = listMatching

def listsUnmatched (action : Action) : Bool :=
  action = listEverything || action = listNotMatching

def listsBeyondLimit (action : Action) : Bool :=
  action = listEverything || action = listLimited

end Action

/-- What a pass over the attributes has listed, and whether it met the limit. -/
structure MatchReport where
  matched : List AttributeSummary := []
  unmatched : List AttributeSummary := []
  beyondLimit : List AttributeSummary := []
  limitReached : Bool := false
deriving DecidableEq, Repr, Inhabited

/-- An instance. Times are in milliseconds. The engine searches with the patterns of the configurations.
An attribute that failed in the latest collection is among the failing ones, by its key. -/
structure Instance where
  settings : InstanceSettings
  configurations : List Configuration
  schedule : Schedule
  engine : Pattern.Engine
  isConnected : Bool := false
  phase : Phase := .uninitialized
  beans : List Bean := []
  matched : List MatchedAttribute := []
  failing : List String := []
  lastRefresh : Option Nat := none
  refreshedSinceStart : Bool := false
  lastCollection : Option Nat := none
  limitReached : Bool := false
  report : MatchReport := {}

namespace Instance

/-- The instance of some settings, as it is before anything was done with it. -/
def ofSettings (engine : Pattern.Engine) (settings : Settings) (one : InstanceSettings) :
    Instance where
  settings := one
  configurations := settings.configurations one
  schedule := settings.schedule one
  engine

def name (one : Instance) : String := one.settings.name

def checkTags (one : Instance) : List String :=
  Tags.tag "instance" one.settings.name :: one.settings.tags

def context (one : Instance) : InstanceContext where
  name := one.settings.name
  checkName := one.settings.checkName
  tags := one.settings.tags
  cassandraNaming := one.settings.cassandraNaming
  detectStatistics := one.settings.detectStatistics

/-- The scopes of all configurations together; none if one of them needs all beans. -/
def scopes? (configurations : List Configuration) : Option (List String) :=
  let all : Option (List (List String)) := configurations.mapM (·.included.scopes?)
  all.map fun scopes => sortedSet scopes.flatten

def isOver (period : Nat) (since now : Nat) : Bool := since + period ≤ now

/-- Whether the beans have to be found anew. The first time after the start has a period of its own. -/
def refreshDue (one : Instance) (now : Nat) : Bool :=
  let period :=
    if one.refreshedSinceStart then one.schedule.refreshPeriod
    else one.schedule.initialRefreshPeriod <|> one.schedule.refreshPeriod
  match period, one.lastRefresh with
  | some period, some since => isOver period since now
  | _, _ => false

/-- Whether enough time has passed since the last collection. -/
def timeToCollect (one : Instance) (now : Nat) : Bool :=
  match one.schedule.minCollectionPeriod, one.lastCollection with
  | some period, some since => isOver period since now
  | _, _ => true

def untilNextCollection (one : Instance) (now : Nat) : Nat :=
  match one.schedule.minCollectionPeriod, one.lastCollection with
  | some period, some since => period - (now - since)
  | _, _ => 0

def sinceRefresh (one : Instance) (now : Nat) : Option Nat := one.lastRefresh.map (now - ·)

def markBroken (one : Instance) : Instance := { one with phase := .broken }

/-- The metrics that a collection gives if nothing changes. -/
def metricCount (one : Instance) : Nat := one.matched.foldl (· + ·.metricCount) 0

end Instance
end BeanHarvest
