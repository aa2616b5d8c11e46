import BeanHarvest.Bean
import BeanHarvest.Fault.Basic
import BeanHarvest.Live.Value

namespace BeanHarvest

structure AttributeInfo where
  name : String
  type : String
deriving DecidableEq, Repr, Inhabited

/-- A call to a target. A query may be narrowed by a scope. -/
inductive Call where
  | connect
  | query (scope : Option String)
  | attributes (bean : Bean)
  | className (bean : Bean)
  | read (bean : Bean) (name : String)
  | close

abbrev Call.Answer : Call → Type
  | connect => Unit
  | query _ => List Bean
  | attributes _ => List AttributeInfo
  | className _ => String
  | read _ _ => LiveValue
  | close => Unit

abbrev Call.Outcome (call : Call) : Type := Except ConnectionFault call.Answer

/-- A conversation with a target: it is over, or it asks something and goes on with the answer. -/
inductive Dialogue (α : Type) where
  | done (result : α)
  | ask (call : Call) (next : call.Outcome → Dialogue α)

namespace Dialogue

def andThen {α β : Type} (first : Dialogue α) (next : α → Dialogue β) : Dialogue β :=
  match first with
  | done result => next result
  | ask call rest => ask call fun outcome => (rest outcome).andThen next

instance : Monad Dialogue where
  pure := done
  bind := andThen

def call (call : Call) : Dialogue call.Outcome := ask call done

/-- What a conversation comes to if every call is answered alike each time. -/
def result {α : Type} (answer : (call : Call) → call.Outcome) : Dialogue α → α
  | done value => value
  | ask call next => (next (answer call)).result answer

/-- The calls of a conversation if every call is answered alike each time. -/
def calls {α : Type} (answer : (call : Call) → call.Outcome) : Dialogue α → List Call
  | done _ => []
  | ask call next => call :: (next (answer call)).calls answer

end Dialogue
end BeanHarvest
