import BeanHarvest.Agent.Basic
import BeanHarvest.Crew.Floor
import BeanHarvest.Fault.Failure

namespace BeanHarvest

/-- How the task of an instance ended, and how it left the instance. -/
structure Turn (α : Type) where
  ending : Ending (Except InstanceFault α)
  after : Instance
  isHeld : Bool

/-- What became of a batch: it was refused, or every instance had its turn. -/
abbrev BatchOutcome (α : Type) := Except Refusal (List (Turn α))

/-- What a task came to: a result, or a failure. -/
abbrev Status (α : Type) := Except Failure α

namespace Status

/-- The status that an ending is, where so many milliseconds were allowed. -/
def ofEnding {α : Type} (timeout : Nat) : Ending (Except InstanceFault α) → Status α
  | .completed (.ok result) => .ok result
  | .completed (.error fault) => .error (Failure.ofInstance fault)
  | .timedOut => .error (.timedOut (timeout * 1000))
  | .panicked message => .error (.connection ("task panicked: " ++ message))
  | .cancelled => .error (.scheduler "task cancelled")

end Status

namespace Handle

def afterTurn {α : Type} (handle : Handle) (turn : Turn α) : Handle :=
  { handle with one := turn.after, isHeld := turn.isHeld }

end Handle

namespace BatchOutcome

/-- The handles of a batch and what their tasks came to; a batch that is refused is a failure of all
of them. -/
def statuses {α : Type} (timeout : Nat) (batch : List Handle) :
    BatchOutcome α → List (Handle × Status α)
  | .error refusal => batch.map fun handle => (handle, .error (.scheduler refusal.message))
  | .ok turns =>
    batch.zipWith (fun handle turn =>
      (handle.afterTurn turn, Status.ofEnding timeout turn.ending)) turns

end BatchOutcome
end BeanHarvest
