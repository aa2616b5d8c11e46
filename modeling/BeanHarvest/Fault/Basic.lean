/-! What goes wrong between the collector and a target, and when a live value is turned into metrics. -/
namespace BeanHarvest

inductive ConnectionFault where
  | clientSetup (reason : String)
  | io (reason : String)
  | timeout (milliseconds : Option Nat)
  | authentication (reason : String)
  | beanNotFound (bean : String)
  | attributeUnavailable (bean name reason : String)
  | invalidBeanName (name : String)
  | protocol (reason : String)
  | closed
deriving DecidableEq, Repr, Inhabited

namespace ConnectionFault

def message : ConnectionFault → String
  | clientSetup reason => "Failed to initialize client: " ++ reason
  | io reason => "I/O error: " ++ reason
  | timeout none => "Request timed out"
  | timeout (some milliseconds) => "Request timed out after " ++ toString milliseconds ++ "ms"
  | authentication reason => "Authentication failed: " ++ reason
  | beanNotFound bean => "Bean not found: " ++ bean
  | attributeUnavailable bean name reason =>
    "Attribute '" ++ name ++ "' unavailable on " ++ bean ++ ": " ++ reason
  | invalidBeanName name => "Invalid bean name: " ++ name
  | protocol reason => "Protocol error: " ++ reason
  | closed => "Connection closed"

/-- Whether the target itself cannot be reached. Any other fault concerns one bean or attribute. -/
def isFatal : ConnectionFault → Bool
  | clientSetup _ | io _ | timeout _ | authentication _ | closed => true
  | _ => false

end ConnectionFault

inductive ExtractionFault where
  | noNumber (name value : String)
  | missingPath (name path : String)
  | unexpectedShape (name expected : String)
  | connection (fault : ConnectionFault)
deriving DecidableEq, Repr, Inhabited

namespace ExtractionFault

def message : ExtractionFault → String
  | noNumber name value => "Cannot convert value of '" ++ name ++ "' to a number: " ++ value
  | missingPath name path => "Sub-attribute '" ++ path ++ "' missing from '" ++ name ++ "'"
  | unexpectedShape name expected =>
    "Unexpected value for '" ++ name ++ "': expected " ++ expected
  | connection fault => fault.message

/-- Whether the target itself cannot be reached. -/
def isFatal : ExtractionFault → Bool
  | connection fault => fault.isFatal
  | _ => false

end ExtractionFault

end BeanHarvest
