import BeanHarvest.Metric

/-! What is reported: metric points and service checks, and how they are told as lines of a log. -/
namespace BeanHarvest

structure MetricPoint where
  type : MetricType
  name : String
  value : Float
  tags : List String
deriving Inhabited

inductive CheckStatus where
  | ok
  | warning
  | critical
  | unknown
deriving DecidableEq, Repr, Inhabited

namespace CheckStatus

def text : CheckStatus → String
  | ok => "OK"
  | warning => "WARNING"
  | critical => "CRITICAL"
  | unknown => "UNKNOWN"

def code : CheckStatus → Nat
  | ok => 0
  | warning => 1
  | critical => 2
  | unknown => 3

end CheckStatus

structure ServiceCheck where
  name : String
  status : CheckStatus
  message : Option String
  tags : List String
deriving DecidableEq, Repr, Inhabited

inductive Report where
  | point (point : MetricPoint)
  | check (check : ServiceCheck)

namespace Console

structure Line where
  isWarning : Bool
  message : String
  details : List (String × String)
deriving DecidableEq, Repr

def ofPoint (point : MetricPoint) : Line :=
  ⟨false, "Metric point",
    [("metric", point.name), ("kind", point.type.text), ("value", plainText point.value),
      ("tags", ",".intercalate point.tags)]⟩

/-- The line of a service check: a warning with the message, unless all is well. -/
def ofCheck (check : ServiceCheck) : Line :=
  let tags := ("tags", ",".intercalate check.tags)
  let what := [("check", check.name), ("status", check.status.text)]
  if check.status = .ok then ⟨false, "Service check", what ++ [tags]⟩
  else ⟨true, "Service check", what ++ [("detail", check.message.getD ""), tags]⟩

end Console
end BeanHarvest
