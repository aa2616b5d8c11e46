import BeanHarvest.Report.Basic
import BeanHarvest.Report.Rates

/-! The way from collected metrics to reported points. A gauge is reported as it is, anything else as
a rate; values that are not finite are left out. -/
namespace BeanHarvest.Pipeline

/-- The name under which a metric is reported: checks of Cassandra leave out a common beginning. -/
def reportedName (check name : String) : String :=
  if check.startsWith "cassandra" then
    match Text.afterPrefix? "jmx.org.apache.".toList name.toList with
    | some rest => String.ofList rest
    | none => name
  else name

def point (metric : Metric) (value : Float) : MetricPoint :=
  ⟨metric.type, reportedName metric.check metric.name, value, metric.tags⟩

/-- Take in one metric: the point that it gives, if any, and the baselines behind it. -/
def step (name : String) (time : Int) (baselines : Baselines) (metric : Metric) :
    Option MetricPoint × Baselines :=
  if !isFinite metric.value.toFloat then (none, baselines)
  else if metric.type.isGauge then (some (point metric metric.value.toFloat), baselines)
  else
    let (rate, baselines) := baselines.observe name metric.identity metric.value.toFloat time
    (rate.map (point metric), baselines)

/-- Take in metrics one after the other. -/
def steps (name : String) (time : Int) (baselines : Baselines) :
    List Metric → List MetricPoint × Baselines
  | [] => ([], baselines)
  | metric :: rest =>
    let (point, baselines) := step name time baselines metric
    let (points, baselines) := steps name time baselines rest
    (point.toList ++ points, baselines)

/-- The series of a batch that are reported as rates. -/
def ratedSeries (metrics : List Metric) : List String :=
  (metrics.filter (!·.type.isGauge)).map (·.identity)

/-- Take in the batch of an instance. Series that are not in it lose their baselines. -/
def send (baselines : Baselines) (name : String) (metrics : List Metric) (time : Int) :
    List MetricPoint × Baselines :=
  let (points, baselines) := steps name time baselines metrics
  (points, baselines.retain name (ratedSeries metrics))

end BeanHarvest.Pipeline
