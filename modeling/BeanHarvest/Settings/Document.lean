import BeanHarvest.Filter.Document
import BeanHarvest.Settings.Basic

namespace BeanHarvest

def ReporterKind.name : ReporterKind → String
  | .console => "console"
  | .prometheus => "prometheus"

namespace SharedSettings

def toJson (shared : SharedSettings) : Json :=
  .object [("is_jmx", .bool shared.isJmx),
    ("collect_default_metrics", .bool shared.collectDefaults),
    ("refresh_beans", Json.optionalWhole shared.refreshPeriod),
    ("refresh_beans_initial", Json.optionalWhole shared.initialRefreshPeriod),
    ("min_collection_interval", Json.optionalWhole shared.minCollectionInterval),
    ("max_returned_metrics", Json.whole shared.maxMetrics),
    ("collection_timeout", Json.whole shared.collectionTimeout),
    ("collection_pool_size", Json.whole shared.collectionPoolSize),
    ("recovery_pool_size", Json.whole shared.recoveryPoolSize),
    ("recovery_timeout", Json.whole shared.recoveryTimeout),
    ("check_period", Json.whole shared.checkPeriod),
    ("conf", .array (shared.configurations.map Configuration.toJson))]

end SharedSettings

namespace InstanceSettings

def toJson (one : InstanceSettings) : Json :=
  .object [("name", .string one.name), ("url", .string one.url),
    ("check_name", .string one.checkName), ("tags", Json.strings one.tags),
    ("cassandra_aliasing", .bool one.cassandraNaming),
    ("metric_prefix", Json.optional one.metricPrefix),
    ("websphere_stats", .bool one.detectStatistics),
    ("request_timeout_ms", Json.whole one.requestTimeout),
    ("refresh_beans", Json.optionalWhole one.refreshPeriod),
    ("refresh_beans_initial", Json.optionalWhole one.initialRefreshPeriod),
    ("min_collection_interval", Json.optionalWhole one.minCollectionInterval),
    ("max_returned_metrics", Json.optionalWhole one.maxMetrics),
    ("conf", .array (one.configurations.map Configuration.toJson))]

end InstanceSettings

namespace ServerSettings

def toJson (server : ServerSettings) : Json :=
  .object [("enabled", .bool server.enabled), ("port", Json.whole server.port),
    ("path", .string server.path), ("bind_address", .string server.bindAddress)]

end ServerSettings

namespace Settings

def toJson (settings : Settings) : Json :=
  .object [("init_config", settings.shared.toJson),
    ("instances", .array (settings.instances.map InstanceSettings.toJson)),
    ("reporter", .object [("kind", .string settings.reporter.name)]),
    ("server", settings.server.toJson), ("log_format", .string settings.logFormat.name)]

end Settings
end BeanHarvest
