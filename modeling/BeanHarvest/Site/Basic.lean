import BeanHarvest.Agent.Document
import BeanHarvest.Http
import BeanHarvest.Json.Printer
import BeanHarvest.Report.Exposition
import BeanHarvest.Settings.Validation
import BeanHarvest.Url.Address

/-! The site that the agent serves: a page of links, the health of the agent and, where there is an
exposition, the metrics. Those who ask for a page that cannot be had are told no more than they need
to know. -/
namespace BeanHarvest

namespace Scrape

def contentType : String := "text/plain; version=0.0.4; charset=utf-8"

/-- A gauge that tells of the agent: a name, what it says, and samples with their labels. -/
structure Gauge where
  name : String
  help : String
  samples : List (Bindings × Nat)
deriving DecidableEq, Repr, Inhabited

def Gauge.text (gauge : Gauge) : String :=
  "# HELP " ++ gauge.name ++ " " ++ gauge.help ++ "\n" ++ Exposition.typeLine gauge.name
    ++ String.join (gauge.samples.map fun (labels, value) =>
      gauge.name ++ Exposition.labelText labels ++ " " ++ toString value ++ "\n")

def gauges (health : Health) : List Gauge :=
  [⟨"jmx_collector_info", "jmx-collector information", [([("version", Program.version)], 1)]⟩,
    ⟨"jmx_collector_iterations", "Completed collection iterations", [([], health.iterations)]⟩,
    ⟨"jmx_collector_instances", "Instances by state",
      [([("state", "active")], health.active), ([("state", "broken")], health.broken.length)]⟩]

/-- Every series, and after them what there is to know of the agent itself. -/
def text (exposition : Exposition) (health : Health) : String :=
  exposition.render (fun _ => "") ++ String.join ((gauges health).map Gauge.text)

end Scrape

inductive SiteFault where
  | settings (fault : Settings.Fault)
  | notReady
  | internal (reason : String)

namespace SiteFault

def message : SiteFault → String
  | settings fault => "Configuration error: " ++ fault.message
  | notReady => "No collection has completed yet"
  | internal reason => "Internal error: " ++ reason

def reply : SiteFault → Http.Reply
  | settings _ => Http.Reply.plain 500 "Configuration error"
  | notReady => Http.Reply.plain 503 "No collection has completed yet"
  | internal _ => Http.Reply.plain 500 "Internal error"

end SiteFault

/-- A site: its settings, the health of its agent, and an exposition if there is one. -/
structure Site where
  settings : ServerSettings
  health : Health
  exposition : Option Exposition

def Health.word (health : Health) : String :=
  if !health.isReady then "starting" else if health.broken.isEmpty then "healthy" else "degraded"

namespace Site

def rootPage (site : Site) : String :=
  let link := if site.exposition.isSome then
      "<li><a href=\"" ++ site.settings.path ++ "\">Metrics</a></li>"
    else ""
  "<!DOCTYPE html>\n<html>\n<head>\n    <title>" ++ Program.name ++ "</title>\n</head>\n<body>\n"
    ++ "    <h1>" ++ Program.name ++ "</h1>\n    <p>Version: " ++ Program.version ++ "</p>\n"
    ++ "    <ul>\n        <li><a href=\"/health\">Health Check</a></li>\n        " ++ link
    ++ "\n    </ul>\n</body>\n</html>"

def healthPage (site : Site) : Json :=
  .object ([("status", Json.string site.health.word), ("version", Json.string Program.version)]
    ++ site.health.toFields)

/-- The metrics, once there has been an iteration. -/
def metricsPage (site : Site) (exposition : Exposition) : Except SiteFault Http.Reply :=
  if site.health.isReady then
    .ok ⟨200, some Scrape.contentType, Scrape.text exposition site.health⟩
  else .error .notReady

def page? (site : Site) (path : String) : Option Http.Reply :=
  if path = "/" then some (Http.Reply.html site.rootPage)
  else if path = "/health" then some (Http.Reply.json site.healthPage.compact)
  else match site.exposition with
    | some exposition =>
      if path = site.settings.path then
        some (match site.metricsPage exposition with
          | .ok reply => reply
          | .error fault => fault.reply)
      else none
    | none => none

/-- The path of a target: what stands before the query. -/
def pathOf (target : String) : String :=
  String.ofList (target.toList.takeWhile fun c => c ≠ '?' && c ≠ '#')

/-- Answer a request. Every page can be had, by itself or its head alone; whoever asks what can be had
is told so anywhere. -/
def answer (site : Site) (method target : String) : Http.Reply :=
  if method = "OPTIONS" then Http.Reply.empty 200
  else match site.page? (pathOf target) with
    | none => Http.Reply.empty 404
    | some reply =>
      if method = "GET" then reply
      else if method = "HEAD" then reply.head
      else Http.Reply.empty 405

def hasDistinctPaths (site : Site) : Bool :=
  site.exposition.isNone || (site.settings.path ≠ "/" && site.settings.path ≠ "/health")

end Site

namespace ServerSettings

/-- Whether the server can be told to listen at its address; if not, what is said of that. -/
def checkAddress (server : ServerSettings) : Except String Unit :=
  if server.bindAddress = "localhost" || Address.isStrict server.bindAddress then .ok ()
  else .error ("Invalid bind_address '" ++ server.bindAddress ++ "': invalid IP address syntax. "
    ++ "Use an IP address (e.g., '0.0.0.0', '127.0.0.1') or 'localhost'.")

end ServerSettings
end BeanHarvest
