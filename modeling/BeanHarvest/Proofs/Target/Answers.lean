import BeanHarvest.Target.Session

/-! Targets that answer every call, and alike each time: what conversations come to then. A conversation
that a session holds leaves the state of the session alone. -/
namespace BeanHarvest

/-- What a target answers to each call. -/
abbrev Answers := (call : Call) → call.Answer

def Answers.outcome (answers : Answers) (call : Call) : call.Outcome := .ok (answers call)

namespace Dialogue

variable {α β : Type}

theorem result_andThen (answer : (call : Call) → call.Outcome) (first : Dialogue α)
    (next : α → Dialogue β) :
    (first.andThen next).result answer = (next (first.result answer)).result answer := by
  induction first with
  | done value => rfl
  | ask call rest ih => exact ih (answer call)

/-- A conversation goes on with the answer to its call. -/
theorem result_ask (answers : Answers) (call : Call) (next : call.Outcome → Dialogue α) :
    (ask call next).result answers.outcome = (next (.ok (answers call))).result answers.outcome :=
  rfl

end Dialogue

theorem Session.andThen_assoc {σ α β γ : Type} (first : Session σ α)
    (second : Nat → σ → α → Session σ β) (third : Nat → σ → β → Session σ γ) :
    (first.andThen second).andThen third =
      first.andThen fun time state result => (second time state result).andThen third := by
  induction first with
  | done time state result => rfl
  | ask state call rest ih =>
    simp only [Session.andThen]
    congr 1
    funext time outcome
    exact ih time outcome

namespace Operation

variable {σ α β γ : Type}

theorem bind_bind (first : Operation σ α) (second : α → Operation σ β) (third : β → Operation σ γ)
    (time : Nat) (state : σ) :
    (first >>= second >>= third) time state =
      (first >>= fun result => second result >>= third) time state :=
  Session.andThen_assoc ..

/-- A conversation is held at once, and what follows goes on with what it came to. -/
theorem finish_hold_bind (answer : (call : Call) → call.Outcome) (dialogue : Dialogue α)
    (next : α → Operation σ β) (time : Nat) (state : σ) :
    ((hold dialogue >>= next) time state).finish answer time =
      (next (dialogue.result answer) time state).finish answer time := by
  have unfolded : (hold dialogue >>= next) time state =
      (sessionOf state time dialogue).andThen fun time state result => next result time state := rfl
  rw [unfolded]
  induction dialogue with
  | done value => rfl
  | ask call rest ih => exact ih (answer call) rfl

end Operation
end BeanHarvest
