import BeanHarvest.Agent.Recovery
import BeanHarvest.Json.Value

namespace BeanHarvest

namespace Program

def name : String := "jmx-collector"

def version : String := "0.1.0"

end Program

namespace Health

def toFields (health : Health) : List (String × Json) :=
  [("ready", .bool health.isReady), ("iterations", Json.whole health.iterations),
    ("active_instances", Json.whole health.active),
    ("broken_instances", Json.strings health.broken),
    ("last_metrics", Json.whole health.lastMetrics)]

def toJson (health : Health) : Json := .object health.toFields

end Health

namespace Summary

def toJson (summary : Summary) : Json :=
  .object [("iteration", Json.whole summary.iteration), ("collected", Json.whole summary.collected),
    ("failed", Json.whole summary.failed), ("skipped", Json.whole summary.skipped),
    ("broken", Json.whole summary.broken), ("metrics", Json.whole summary.metrics)]

end Summary

namespace AttributeSummary

/-- A summary; the metrics are left out if there are none. -/
def toJson (summary : AttributeSummary) : Json :=
  let metrics := summary.metrics.map fun (name, type) =>
    Json.object [("alias", .string name), ("metric_type", .string type.text)]
  .object <|
    [("bean", .string summary.bean), ("attribute", .string summary.name),
      ("type_name", .string summary.type)]
      ++ if metrics.isEmpty then [] else [("metrics", .array metrics)]

end AttributeSummary

namespace MatchReport

def toJson (report : MatchReport) : Json :=
  .object [("matching", .array (report.matched.map AttributeSummary.toJson)),
    ("not_matching", .array (report.unmatched.map AttributeSummary.toJson)),
    ("limited", .array (report.beyondLimit.map AttributeSummary.toJson)),
    ("limit_reached", .bool report.limitReached)]

end MatchReport

namespace Listing

/-- A listing; what is missing is left out. -/
def toJson (listing : Listing) : Json :=
  .object <|
    ("instance", .string listing.name)
      :: (listing.report.map fun report => ("report", report.toJson)).toList
      ++ (listing.error.map fun error => ("error", Json.string error)).toList

end Listing
end BeanHarvest
