import BeanHarvest.CommandLine.Outcome
import BeanHarvest.CommandLine.Reading
import BeanHarvest.Pattern.Search
import BeanHarvest.Report.Basic

/-! The program: it reads its command line and the file of its settings, and writes what comes of them.
There is no line to other machines here, so every target is out of reach. -/
namespace BeanHarvest

def Console.Line.write (line : Console.Line) : IO Unit :=
  let details := line.details.map fun (key, text) => " " ++ key ++ "=" ++ text
  IO.println ((if line.isWarning then "WARN " else "INFO ") ++ line.message ++ String.join details)

def Console.write (reports : List Report) : IO Unit :=
  reports.forM fun
    | .point sent => (ofPoint sent).write
    | .check sent => (ofCheck sent).write

/-- Iterate at every tick, without end. -/
partial def Scene.collect (scene : Scene Jolokia.Client) (period : Nat) : IO Unit := do
  let (iterated, _, points) := scene.iterate (← IO.monoMsNow)
  let (recovered, _, checks) := iterated.processRecovery
  Console.write (points ++ checks)
  IO.sleep period.toUInt32
  (recovered.wait period).collect period

def Settings.collect (settings : Settings) : IO Unit := do
  let (scene, _, checks) := (CommandLine.scene Pattern.engine Jolokia.deadEndpoint settings).init
  Console.write checks
  scene.collect settings.shared.checkPeriod

def contentsOf? (path : String) : IO (Option String) := do
  try
    return some (← IO.FS.readFile path)
  catch _ => return none

end BeanHarvest

open BeanHarvest in
def main (arguments : List String) : IO UInt32 := do
  match CommandLine.parse arguments with
  | .error stop =>
    let outcome := CommandLine.stopped stop
    IO.print outcome.output
    return outcome.code.toUInt32
  | .ok invocation =>
    match CommandLine.settingsOf Pattern.engine invocation (← contentsOf? invocation.config) with
    | .error fault =>
      IO.eprintln ("Error: " ++ fault.message)
      return 1
    | .ok settings =>
      if invocation.command = .collect then settings.collect
      let outcome := CommandLine.outcome Pattern.engine Jolokia.deadEndpoint invocation.command
        settings
      IO.print outcome.output
      return outcome.code.toUInt32
