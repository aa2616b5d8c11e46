import BeanHarvest.Filter.Reading
import BeanHarvest.Settings.Validation

namespace BeanHarvest

open Yaml

/-- Read where metrics are reported: a mapping with a kind and whatever else, or a list that begins
with the kind. -/
def ReporterKind.ofNode? (node : Yaml.Node) : Option ReporterKind :=
  let ofText? : String → Option ReporterKind
    | "console" => some .console
    | "prometheus" => some .prometheus
    | _ => none
  match node with
  | .mapping pairs none => do
    let pairs ← pairs.mapM fun (key, value) => key.value?.map (·, value)
    let isKind := fun (pair : Yaml × Yaml.Node) => Yaml.text? pair.1 = some "kind"
    match pairs.filter isKind with
    | [(_, kind)] =>
      let _ ← (pairs.filter (!isKind ·)).mapM (·.2.value?)
      kind.text? >>= ofText?
    | _ => none
  | .sequence (first :: rest) none => do
    let _ ← rest.mapM Yaml.Node.value?
    first.text? >>= ofText?
  | _ => none

def LogFormat.ofNode? (node : Yaml.Node) : Option LogFormat :=
  match node.text? with
  | some "text" => some .text
  | some "json" => some .json
  | _ => none

namespace SharedSettings

def knownKeys : List String :=
  ["is_jmx", "collect_default_metrics", "refresh_beans", "refresh_beans_initial",
    "min_collection_interval", "max_returned_metrics", "collection_timeout",
    "collection_pool_size", "recovery_pool_size", "recovery_timeout", "check_period", "conf"]

def ofNode? (node : Yaml.Node) : Option SharedSettings := do
  let fields ← node.fields?
  if repeats knownKeys fields then none
  else
    let shared : SharedSettings := {}
    let flag := fun key absent => optionalField? fields key absent Yaml.Node.bool?
    let number := fun key absent => optionalField? fields key absent Yaml.Node.natural?
    let period := fun key absent =>
      optionalField? fields key absent (·.optional? Yaml.Node.natural?)
    some {
      isJmx := ← flag "is_jmx" shared.isJmx
      collectDefaults := ← flag "collect_default_metrics" shared.collectDefaults
      refreshPeriod := ← period "refresh_beans" shared.refreshPeriod
      initialRefreshPeriod := ← period "refresh_beans_initial" none
      minCollectionInterval := ← period "min_collection_interval" none
      maxMetrics := ← number "max_returned_metrics" shared.maxMetrics
      collectionTimeout := ← number "collection_timeout" shared.collectionTimeout
      collectionPoolSize := ← number "collection_pool_size" shared.collectionPoolSize
      recoveryPoolSize := ← number "recovery_pool_size" shared.recoveryPoolSize
      recoveryTimeout := ← number "recovery_timeout" shared.recoveryTimeout
      checkPeriod := ← number "check_period" shared.checkPeriod
      configurations := ← optionalField? fields "conf" [] (·.list? Configuration.ofNode?) }

end SharedSettings

namespace InstanceSettings

def knownKeys : List String :=
  ["name", "url", "check_name", "tags", "cassandra_aliasing", "metric_prefix",
    "websphere_stats", "request_timeout_ms", "refresh_beans", "refresh_beans_initial",
    "min_collection_interval", "max_returned_metrics", "conf"]

/-- The tag of a key and a value; a value that is no single one is left out. -/
def tagText (key : String) (value : Yaml) : String :=
  match scalarText? value with
  | some text => key ++ ":" ++ text
  | none => key

/-- Read tags: a list of them, or values by key. -/
def tags? : Yaml → Option (List String)
  | .mapping pairs => do
    let entries ← pairs.mapM fun (key, value) => do
      let key ← Yaml.text? key
      if value.hasDistinctKeys then some (key, value) else none
    some ((Keyed.ofList entries).map fun (key, value) => tagText key value)
  | value => textList? value

/-- Read the settings of an instance; its name has to be there. -/
def ofNode? (node : Yaml.Node) : Option InstanceSettings := do
  let fields ← node.fields?
  if repeats knownKeys fields then none
  else
    let name ← requiredField? fields "name" Yaml.Node.text?
    let one : InstanceSettings := { name }
    let text := fun key absent => optionalField? fields key absent Yaml.Node.text?
    let flag := fun key => optionalField? fields key false Yaml.Node.bool?
    let number := fun key => optionalField? fields key none (·.optional? Yaml.Node.natural?)
    some {
      name
      url := ← text "url" one.url
      checkName := ← text "check_name" one.checkName
      tags := ← optionalField? fields "tags" [] fun node =>
        (node.optional? fun node => node.value? >>= tags?).map (·.getD [])
      cassandraNaming := ← flag "cassandra_aliasing"
      metricPrefix := ← optionalField? fields "metric_prefix" none
        (·.optional? Yaml.Node.text?)
      detectStatistics := ← flag "websphere_stats"
      requestTimeout :=
        ← optionalField? fields "request_timeout_ms" one.requestTimeout Yaml.Node.natural?
      refreshPeriod := ← number "refresh_beans"
      initialRefreshPeriod := ← number "refresh_beans_initial"
      minCollectionInterval := ← number "min_collection_interval"
      maxMetrics := ← number "max_returned_metrics"
      configurations := ← optionalField? fields "conf" [] (·.list? Configuration.ofNode?) }

end InstanceSettings

namespace ServerSettings

def ofNode? (node : Yaml.Node) : Option ServerSettings := do
  let fields ← node.fields?
  if repeats ["enabled", "port", "path", "bind_address"] fields then none
  else
    let server : ServerSettings := {}
    some {
      enabled := ← optionalField? fields "enabled" server.enabled Yaml.Node.bool?
      port := ← optionalField? fields "port" server.port (·.below? 65536)
      path := ← optionalField? fields "path" server.path Yaml.Node.text?
      bindAddress := ← optionalField? fields "bind_address" server.bindAddress Yaml.Node.text? }

end ServerSettings

namespace Settings

def ofNode? (node : Yaml.Node) : Option Settings := do
  let fields ← node.fields?
  if repeats ["init_config", "instances", "reporter", "server", "log_format"] fields then none
  else
    some {
      shared := ← optionalField? fields "init_config" {} SharedSettings.ofNode?
      instances := ← optionalField? fields "instances" [] (·.list? InstanceSettings.ofNode?)
      reporter := ← optionalField? fields "reporter" .console ReporterKind.ofNode?
      server := ← optionalField? fields "server" {} ServerSettings.ofNode?
      logFormat := ← optionalField? fields "log_format" .text LogFormat.ofNode? }

def ofText (engine : Pattern.Engine) (text : String) : Except Fault Settings :=
  match Yaml.Node.ofText? text >>= ofNode? with
  | none => .error .malformed
  | some settings => (settings.validate engine).map fun () => settings

def missingFile : String := "No such file or directory (os error 2)"

/-- Read settings from a file's contents; the file may be missing. -/
def load (engine : Pattern.Engine) (contents : Option String) : Except Fault Settings :=
  match contents with
  | some text => ofText engine text
  | none => .error (.unreadable missingFile)

/-- Read settings from a file's contents, and take the defaults if the file is missing. -/
def loadOrDefault (engine : Pattern.Engine) (contents : Option String) : Except Fault Settings :=
  match contents with
  | some text => ofText engine text
  | none => .ok {}

end Settings
end BeanHarvest
