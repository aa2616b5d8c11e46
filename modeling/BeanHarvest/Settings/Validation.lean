import BeanHarvest.Filter.Matching
import BeanHarvest.Settings.Basic
import BeanHarvest.Text.Cut
import BeanHarvest.Url.Basic

/-! What is wrong with settings. The first fault that is found is the one that is told. -/
namespace BeanHarvest.Settings

inductive Fault where
  | unreadable (reason : String)
  | malformed
  | notPositive (field : String)
  | noPort
  | relativePath
  | invalidFilter (place : String) (fault : Pattern.Fault)
  | namelessInstance
  | repeatedInstance (name : String)
  | invalidUrl (name : String) (fault : Url.Fault)
deriving DecidableEq, Repr

namespace Fault

def invalid (reason : String) : String := "Invalid configuration: " ++ reason

def message : Fault → String
  | unreadable reason => "Failed to read config file: " ++ reason
  | malformed => "Failed to parse config file"
  | notPositive field => invalid (field ++ " must be greater than 0")
  | noPort => invalid "Server port must be greater than 0"
  | relativePath => invalid "Metrics path must start with '/'"
  | invalidFilter place fault =>
    "Invalid filter in instance '" ++ place ++ "': " ++ fault.message
  | namelessInstance => invalid "Instance name must not be empty"
  | repeatedInstance name => invalid ("Duplicate instance name '" ++ name ++ "'")
  | invalidUrl name fault =>
    invalid ("Instance '" ++ name ++ "' has an invalid url: " ++ fault.message)

end Fault

/-- The settings that have to be positive, in the order in which they are looked at. -/
def positiveFields (shared : SharedSettings) : List (String × Nat) :=
  [("collection_pool_size", shared.collectionPoolSize),
    ("recovery_pool_size", shared.recoveryPoolSize),
    ("collection_timeout", shared.collectionTimeout),
    ("recovery_timeout", shared.recoveryTimeout),
    ("check_period", shared.checkPeriod),
    ("max_returned_metrics", shared.maxMetrics)]

def checkFilters (engine : Pattern.Engine) (place : String) : List Configuration → Except Fault Unit
  | [] => .ok ()
  | configuration :: rest =>
    match configuration.compile engine with
    | .ok _ => checkFilters engine place rest
    | .error fault => .error (.invalidFilter place fault)

def checkInstance (engine : Pattern.Engine) (before : List String) (one : InstanceSettings) :
    Except Fault Unit :=
  if (Text.trim one.name.toList).isEmpty then .error .namelessInstance
  else if before.contains one.name then .error (.repeatedInstance one.name)
  else match Url.parse one.url with
    | .error fault => .error (.invalidUrl one.name fault)
    | .ok _ => checkFilters engine one.name one.configurations

def checkInstances (engine : Pattern.Engine) (before : List String) :
    List InstanceSettings → Except Fault Unit
  | [] => .ok ()
  | one :: rest =>
    match checkInstance engine before one with
    | .ok () => checkInstances engine (before ++ [one.name]) rest
    | .error fault => .error fault

def validate (engine : Pattern.Engine) (settings : Settings) : Except Fault Unit :=
  match (positiveFields settings.shared).find? (·.2 = 0) with
  | some (field, _) => .error (.notPositive field)
  | none =>
    if settings.server.port = 0 then .error .noPort
    else if !settings.server.path.startsWith "/" then .error .relativePath
    else
      match checkFilters engine "init_config" settings.shared.configurations with
      | .ok () => checkInstances engine [] settings.instances
      | .error fault => .error fault

end BeanHarvest.Settings
