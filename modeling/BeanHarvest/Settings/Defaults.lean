import BeanHarvest.Settings.Basic

/-! The configurations that are built in: what is worth knowing of any Java virtual machine. They come
after all other configurations. -/
namespace BeanHarvest

namespace Configuration

/-- The options of an attribute that is reported under an alias. -/
def reportedAs (template : String) (type : MetricType) : AttributeOptions :=
  { AttributeOptions.default with template := some template, type := some type }

/-- A configuration for attributes of the beans of the virtual machine. -/
def builtIn (params : Keyed Yaml) (attributes : List (String × AttributeOptions)) :
    Configuration where
  included := { Filter.empty with
    domain := some "java.lang"
    attributes := some (.detailed (Keyed.ofList (attributes.map fun (name, options) =>
      (name, some options))))
    params }
  excluded := Filter.empty
  metricPrefix := none
  renamedTags := []

/-- The four parts of a memory area, under one alias and its extensions. -/
def memoryArea (area name : String) : List (String × AttributeOptions) :=
  [(area ++ ".used", reportedAs name .gauge),
    (area ++ ".committed", reportedAs (name ++ "_committed") .gauge),
    (area ++ ".init", reportedAs (name ++ "_init") .gauge),
    (area ++ ".max", reportedAs (name ++ "_max") .gauge)]

/-- Number and time of the collections of some garbage collectors. -/
def garbageCollectors (generation : String) (names : List String) : Configuration :=
  builtIn [("name", .sequence (names.map .string)), ("type", .string "GarbageCollector")]
    [("CollectionCount", reportedAs ("jvm.gc." ++ generation ++ "_collection_count") .rate),
      ("CollectionTime", reportedAs ("jvm.gc." ++ generation ++ "_collection_time") .rate)]

def builtIns : List Configuration :=
  [builtIn [("type", .string "Memory")]
      (memoryArea "HeapMemoryUsage" "jvm.heap_memory"
        ++ memoryArea "NonHeapMemoryUsage" "jvm.non_heap_memory"),
    builtIn [("type", .string "Threading")]
      [("ThreadCount", reportedAs "jvm.thread_count" .gauge),
        ("DaemonThreadCount", reportedAs "jvm.daemon_thread_count" .gauge)],
    builtIn [("type", .string "ClassLoading")]
      [("LoadedClassCount", reportedAs "jvm.loaded_classes" .gauge),
        ("UnloadedClassCount", reportedAs "jvm.unloaded_classes" .monotonicCount)],
    builtIn [("type", .string "OperatingSystem")]
      [("OpenFileDescriptorCount", reportedAs "jvm.os.open_file_descriptors" .gauge),
        ("ProcessCpuLoad", reportedAs "jvm.cpu_load.process" .gauge),
        ("SystemCpuLoad", reportedAs "jvm.cpu_load.system" .gauge)],
    garbageCollectors "minor" ["Copy", "PS Scavenge", "ParNew", "G1 Young Generation"],
    garbageCollectors "major"
      ["MarkSweepCompact", "PS MarkSweep", "ConcurrentMarkSweep", "G1 Old Generation"]]

/-- The configuration with a prefix for its aliases, unless it has one of its own. -/
def withPrefix (metricPrefix : Option String) (configuration : Configuration) : Configuration :=
  { configuration with metricPrefix := configuration.metricPrefix <|> metricPrefix }

end Configuration

namespace Settings

/-- The configurations of an instance in their order: its own, the shared ones, the built-in ones. -/
def configurations (settings : Settings) (one : InstanceSettings) : List Configuration :=
  (one.configurations ++ settings.shared.configurations
    ++ if settings.shared.collectDefaults then Configuration.builtIns else []).map
      (·.withPrefix one.metricPrefix)

end Settings
end BeanHarvest
