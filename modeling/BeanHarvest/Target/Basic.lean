import BeanHarvest.Target.Session

namespace BeanHarvest

/-- How a target takes a call: the answer, the milliseconds it takes, and the state after it. -/
structure Reply (τ : Type) (call : Call) where
  outcome : call.Outcome
  delay : Nat
  state : τ

/-- A target: what it does with calls, state by state. -/
structure Target (τ : Type) where
  reply : (state : τ) → (call : Call) → Reply τ call

/-- How a session that runs against a target ends: by itself at some time, or cut short. -/
inductive Course (σ τ α : Type) where
  | ended (time : Nat) (state : σ) (target : τ) (result : α)
  | cut (state : σ) (target : τ)

namespace Target

/-- Whether an answer that comes after a delay still comes before a deadline. -/
def arrives (deadline : Option Nat) (time delay : Nat) : Bool :=
  delay = 0 || deadline.all (time + delay < ·)

/-- Run a session against a target from some time on, up to a deadline. -/
def run {σ τ α : Type} (target : Target τ) (deadline : Option Nat) (world : τ) (time : Nat) :
    Session σ α → Course σ τ α
  | .done time state result => .ended time state world result
  | .ask state call next =>
    let reply := target.reply world call
    if arrives deadline time reply.delay then
      run target deadline reply.state (time + reply.delay)
        (next (time + reply.delay) reply.outcome)
    else .cut state reply.state

/-- The state in which a target leaves what ran against it, and its own. -/
def statesAfter {σ τ α : Type} : Course σ τ α → σ × τ
  | .ended _ state target _ => (state, target)
  | .cut state target => (state, target)

end Target
end BeanHarvest
