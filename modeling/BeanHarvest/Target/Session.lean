import BeanHarvest.Target.Call

/-! Sessions: conversations with a target that change a state as they go on. Whoever cuts a session
short at a call leaves the state as it stands at that call. -/
namespace BeanHarvest

/-- A session. Times are in milliseconds; a session goes on from a call with the time at which the
answer came. -/
inductive Session (σ α : Type) where
  | done (time : Nat) (state : σ) (result : α)
  | ask (state : σ) (call : Call) (next : Nat → call.Outcome → Session σ α)

namespace Session

/-- Go on with another session, from the time and the state in which the first one ended. -/
def andThen {σ α β : Type} (first : Session σ α) (next : Nat → σ → α → Session σ β) :
    Session σ β :=
  match first with
  | done time state result => next time state result
  | ask state call rest => ask state call fun time outcome => (rest time outcome).andThen next

/-- The state and the result of a session if every call is answered alike each time and at once. -/
def finish {σ α : Type} (answer : (call : Call) → call.Outcome) (time : Nat) :
    Session σ α → σ × α
  | done _ state result => (state, result)
  | ask _ call next => (next time (answer call)).finish answer time

/-- Whether a session can end in a state with a result, whatever it is answered and when. -/
inductive CanEnd {σ α : Type} : Session σ α → σ → α → Prop where
  | done (time : Nat) (state : σ) (result : α) : CanEnd (done time state result) state result
  | ask {state final : σ} {result : α} {call : Call}
      {next : Nat → call.Outcome → Session σ α} (time : Nat) (outcome : call.Outcome)
      (rest : CanEnd (next time outcome) final result) : CanEnd (ask state call next) final result

/-- Whether a session can be cut short in a state, whatever it is answered before. -/
inductive CanStop {σ α : Type} : Session σ α → σ → Prop where
  | here (state : σ) (call : Call) (next : Nat → call.Outcome → Session σ α) :
      CanStop (ask state call next) state
  | later {state final : σ} {call : Call} {next : Nat → call.Outcome → Session σ α}
      (time : Nat) (outcome : call.Outcome) (rest : CanStop (next time outcome) final) :
      CanStop (ask state call next) final

end Session

/-- A piece of work on a state: a session for the time and the state in which it begins. -/
def Operation (σ α : Type) : Type := Nat → σ → Session σ α

namespace Operation

instance {σ : Type} : Monad (Operation σ) where
  pure result := fun time state => .done time state result
  bind first next := fun time state =>
    (first time state).andThen fun time state result => next result time state

def now {σ : Type} : Operation σ Nat := fun time state => .done time state time

def get {σ : Type} : Operation σ σ := fun time state => .done time state state

def modify {σ : Type} (change : σ → σ) : Operation σ Unit := fun time state =>
  .done time (change state) ()

def call {σ : Type} (call : Call) : Operation σ call.Outcome := fun _ state =>
  .ask state call fun time outcome => .done time state outcome

/-- The session of a conversation that leaves a state alone. -/
def sessionOf {σ α : Type} (state : σ) : Nat → Dialogue α → Session σ α
  | time, .done result => .done time state result
  | _, .ask call next => .ask state call fun time outcome => sessionOf state time (next outcome)

/-- Hold a conversation that leaves the state alone. -/
def hold {σ α : Type} (dialogue : Dialogue α) : Operation σ α := fun time state =>
  sessionOf state time dialogue

end Operation
end BeanHarvest
