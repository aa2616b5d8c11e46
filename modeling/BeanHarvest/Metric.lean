import BeanHarvest.Live.Table
import BeanHarvest.Text.Lower

/-! Metrics: named numbers with tags. The name, the type, the tags and the check are settled before
any value is known. -/
namespace BeanHarvest

/-- How a metric is reported: a gauge as it is, anything else as a rate. -/
inductive MetricType where
  | gauge
  | rate
  | monotonicCount
  | histogram
deriving DecidableEq, Repr, Inhabited

namespace MetricType

def text : MetricType → String
  | .gauge => "gauge"
  | .rate => "rate"
  | .monotonicCount => "monotonic_count"
  | .histogram => "histogram"

def isGauge : MetricType → Bool
  | .gauge => true
  | _ => false

/-- Read a type in letters of either case; a counter is a rate. -/
def ofText? (text : String) : Option MetricType :=
  match Text.lowered text with
  | "gauge" => some .gauge
  | "rate" | "counter" => some .rate
  | "monotonic_count" => some .monotonicCount
  | "histogram" => some .histogram
  | _ => none

def unknownMessage (text : String) : String :=
  "unknown metric type '" ++ Text.lowered text
    ++ "', expected one of: gauge, rate, counter, monotonic_count, histogram"

end MetricType

/-- A metric. The tags are in ascending order, each once. -/
structure Metric where
  name : String
  type : MetricType
  tags : List String
  value : Double
  check : String
deriving Inhabited

namespace Metric

/-- A metric that has no value yet. -/
def ofTags (name : String) (type : MetricType) (tags : List String) (check : String) : Metric :=
  ⟨name, type, sortedSet tags, .ofFloat 0.0, check⟩

def withValue (metric : Metric) (value : Double) : Metric := { metric with value }

def addTags (metric : Metric) (extra : List String) : Metric :=
  { metric with tags := sortedSet (metric.tags ++ extra) }

/-- The text by which the metric's series is known: the name and the tags between bars. -/
def identity (metric : Metric) : String := "|".intercalate (metric.name :: metric.tags)

end Metric
end BeanHarvest
