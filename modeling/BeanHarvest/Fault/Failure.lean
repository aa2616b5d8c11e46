import BeanHarvest.Fault.Basic
import BeanHarvest.Pattern.Dialect

/-! What goes wrong in the life of an instance, and failures of tasks: what a fault means for the
instance it struck. -/
namespace BeanHarvest

inductive InstanceFault where
  | connection (fault : ConnectionFault)
  | filter (fault : Pattern.Fault)
  | extraction (fault : ExtractionFault)
  | notInitialized (name : String)
deriving DecidableEq, Repr

namespace InstanceFault

def message : InstanceFault → String
  | connection fault => "Connection error: " ++ fault.message
  | filter fault => "Filter error: " ++ fault.message
  | extraction fault => "Extraction error: " ++ fault.message
  | notInitialized name => "Instance " ++ name ++ " is not initialized"

end InstanceFault

/-! Durations as texts: in the greatest unit that they fill, with the digits of a fraction that say
something. -/

namespace Duration

/-- The digits of a fraction of so many places, without zeros at the end. -/
def fractionDigits (places value : Nat) : List Char :=
  let digits := Nat.toDigits 10 value
  let padded := List.replicate (places - digits.length) '0' ++ digits
  (padded.reverse.dropWhile (· = '0')).reverse

/-- So many of a unit that has `10 ^ places` parts. -/
def inUnit (places value : Nat) (unit : String) : String :=
  let fraction := value % Nat.pow 10 places
  toString (value / Nat.pow 10 places)
    ++ (if fraction = 0 then "" else "." ++ String.ofList (fractionDigits places fraction)) ++ unit

/-- So many microseconds. -/
def text (microseconds : Nat) : String :=
  if 1000000 ≤ microseconds then inUnit 6 microseconds "s"
  else if 1000 ≤ microseconds then inUnit 3 microseconds "ms"
  else if 0 < microseconds then inUnit 0 microseconds "µs"
  else "0ns"

end Duration

inductive Failure where
  | transient (reason : String)
  | connection (reason : String)
  | timedOut (microseconds : Nat)
  | authentication (reason : String)
  | noMetrics
  | scheduler (reason : String)
deriving DecidableEq, Repr, Inhabited

namespace Failure

def message : Failure → String
  | transient reason => "Attribute extraction failed: " ++ reason
  | connection reason => "Connection error: " ++ reason
  | timedOut microseconds => "Task did not finish within " ++ Duration.text microseconds
  | authentication reason => "Authentication failed: " ++ reason
  | noMetrics => "No metrics returned"
  | scheduler reason => "Internal scheduler error: " ++ reason

def marksBroken : Failure → Bool
  | connection _ | timedOut _ | authentication _ | noMetrics => true
  | transient _ | scheduler _ => false

/-- What is said of a failure to those who watch an instance. -/
def userMessage (name : String) : Failure → String
  | authentication _ =>
    "Unable to authenticate to instance " ++ name ++ ": check the configured credentials"
  | timedOut microseconds =>
    "Instance " ++ name ++ " did not answer within " ++ toString (microseconds / 1000000) ++ "s"
  | noMetrics => "Instance " ++ name ++ " didn't return any metrics"
  | failure => "Instance " ++ name ++ ": " ++ failure.message

def ofExtraction : ExtractionFault → Failure
  | .connection (.authentication reason) => authentication reason
  | fault => if fault.isFatal then connection fault.message else transient fault.message

def ofInstance : InstanceFault → Failure
  | .connection (.authentication reason) => authentication reason
  | .connection fault => connection fault.message
  | .extraction fault => ofExtraction fault
  | .filter fault => connection fault.message
  | .notInitialized name => connection ("instance " ++ name ++ " is not initialized")

end Failure
end BeanHarvest
