import BeanHarvest.Agent.Document
import BeanHarvest.Agent.Running
import BeanHarvest.CommandLine.Basic
import BeanHarvest.Jolokia.Client
import BeanHarvest.Json.Printer
import BeanHarvest.Settings.Reading
import BeanHarvest.Yaml.Printer

namespace BeanHarvest.CommandLine

/-- The end of a run. -/
structure Outcome where
  code : Nat
  output : String
deriving DecidableEq, Repr, Inhabited

/-- A result in some format; `lines` is the text for those who read it themselves. -/
def written (format : OutputFormat) (lines : String) (document : Json) : String :=
  match format with
  | .text => lines
  | .json => document.pretty ++ "\n"
  | .yaml => Yaml.ofDocument document

def checkedLine (settings : Settings) (one : InstanceSettings) : String :=
  "  " ++ one.name ++ " (" ++ one.checkName ++ ") -> " ++ one.url ++ " ["
    ++ toString (settings.configurations one).length ++ " configuration(s)]\n"

def checkedDocument (settings : Settings) (one : InstanceSettings) : Json :=
  .object [("name", .string one.name), ("url", .string one.url),
    ("check_name", .string one.checkName),
    ("configurations", Json.whole (settings.configurations one).length)]

def checked (format : OutputFormat) (settings : Settings) : String :=
  written format
    ("Configuration is valid: " ++ toString settings.instances.length ++ " instance(s)\n"
      ++ String.join (settings.instances.map (checkedLine settings)))
    (.object [("valid", .bool true),
      ("instances", .array (settings.instances.map (checkedDocument settings)))])

def summaryLine (summary : AttributeSummary) : String :=
  let metrics := summary.metrics.map fun (name, type) => name ++ " (" ++ type.text ++ ")"
  "    " ++ summary.bean ++ "#" ++ summary.name ++ " [" ++ summary.type ++ "] "
    ++ ", ".intercalate metrics ++ "\n"

/-- The attributes of a section, under its title; an empty section has no lines. -/
def sectionLines (title : String) (summaries : List AttributeSummary) : String :=
  if summaries.isEmpty then ""
  else "  " ++ title ++ " (" ++ toString summaries.length ++ "):\n"
    ++ String.join (summaries.map summaryLine)

def reportLines (report : MatchReport) : String :=
  sectionLines "Matching" report.matched ++ sectionLines "Not matching" report.unmatched
    ++ sectionLines "Limited" report.beyondLimit
    ++ if report.limitReached then "  max_returned_metrics reached\n" else ""

def listingLines (listing : Listing) : String :=
  "Instance " ++ listing.name ++ "\n"
    ++ (listing.error.map fun error => "  error: " ++ error ++ "\n").getD ""
    ++ (listing.report.map reportLines).getD ""

def listed (format : OutputFormat) (listings : List Listing) : String :=
  written format (String.join (listings.map listingLines))
    (.array (listings.map Listing.toJson))

def clients (settings : Settings) : Keyed Jolokia.Client :=
  Keyed.ofList (settings.instances.map fun one =>
    (one.name, Jolokia.Client.ofUrl one.url one.requestTimeout))

def scene (engine : Pattern.Engine) (endpoint : Target Jolokia.Client) (settings : Settings) :
    Scene Jolokia.Client where
  agent := Agent.ofSettings engine settings
  around := {
    target := endpoint
    worlds := clients settings
    absent := fun name => Jolokia.Client.ofUrl name 0 }

def stopped (stop : Stop) : Outcome :=
  match stop with
  | .displayHelp =>
    ⟨0, "Usage: " ++ Program.name ++ " [OPTIONS] [COMMAND]\n\n"
      ++ "Commands: collect, list, validate, help\n"⟩
  | .displayVersion level =>
    ⟨0, "-".intercalate (Program.name :: level.word?.toList) ++ " " ++ Program.version ++ "\n"⟩
  | _ => ⟨2, ""⟩

/-- The settings that an invocation is about. To collect, none have to be there. -/
def settingsOf (engine : Pattern.Engine) (invocation : Invocation) (contents : Option String) :
    Except Settings.Fault Settings :=
  let found := match invocation.command with
    | .collect => Settings.loadOrDefault engine contents
    | _ => Settings.load engine contents
  found.map fun settings =>
    match invocation.port with
    | some port => { settings with server := { settings.server with port } }
    | none => settings

def outcome (engine : Pattern.Engine) (endpoint : Target Jolokia.Client) (command : Command)
    (settings : Settings) : Outcome :=
  match command with
  | .collect => ⟨0, ""⟩
  | .validate format => ⟨0, checked format settings⟩
  | .list action format => ⟨0, listed format ((scene engine endpoint settings).list action).2⟩

/-- What comes of an invocation, where its settings are in a file. -/
def run (engine : Pattern.Engine) (endpoint : Target Jolokia.Client) (invocation : Invocation)
    (contents : Option String) : Outcome :=
  match settingsOf engine invocation contents with
  | .ok settings => outcome engine endpoint invocation.command settings
  | .error _ => ⟨1, ""⟩

end BeanHarvest.CommandLine
