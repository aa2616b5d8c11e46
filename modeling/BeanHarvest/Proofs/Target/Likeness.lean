import BeanHarvest.Proofs.Target.Transcript
import BeanHarvest.Target.Basic

/-! Sessions that are alike: they make the same calls, whatever they are answered, and end alike. Against
targets that cannot be told apart they take the same course. -/
namespace BeanHarvest

namespace Session

variable {σ α β γ δ : Type}

/-- Two sessions make the same calls, and `atEnd` relates the states and the results in which they end
at one time. -/
inductive Alike (atEnd : σ → α → σ → β → Prop) : Session σ α → Session σ β → Prop where
  | done (time : Nat) {state other : σ} {result : α} {value : β}
      (related : atEnd state result other value) :
      Alike atEnd (.done time state result) (.done time other value)
  | ask (state other : σ) (call : Call) {next : Nat → call.Outcome → Session σ α}
      {following : Nat → call.Outcome → Session σ β}
      (rest : ∀ time outcome, Alike atEnd (next time outcome) (following time outcome)) :
      Alike atEnd (.ask state call next) (.ask other call following)

/-- Ends of sessions that go well or wrong alike; if they go well, `after` relates the states. -/
def AlikeEnd {ε : Type} (after : σ → σ → α → Prop) (state : σ) (result : Except ε α) (other : σ)
    (value : Except ε α) : Prop :=
  result = value ∧ ∀ well, result = .ok well → after state other well

theorem AlikeEnd.ok {ε : Type} {after : σ → σ → α → Prop} {state other : σ} {value : α}
    (related : after state other value) :
    AlikeEnd after state (.ok value : Except ε α) other (.ok value) := by
  refine ⟨rfl, fun well same => ?_⟩
  cases same
  exact related

theorem AlikeEnd.error {ε : Type} {after : σ → σ → α → Prop} {state other : σ} {fault : ε} :
    AlikeEnd after state (.error fault : Except ε α) other (.error fault) := by
  refine ⟨rfl, fun well same => ?_⟩
  cases same

variable {atEnd : σ → α → σ → β → Prop} {session : Session σ α} {second : Session σ β}

/-- How the first of two sessions end has to be enough for what follows. -/
theorem Alike.andThen {later : σ → γ → σ → δ → Prop} {next : Nat → σ → α → Session σ γ}
    {following : Nat → σ → β → Session σ δ} (alike : session.Alike atEnd second)
    (rest : ∀ time state result other value, atEnd state result other value →
      (next time state result).Alike later (following time other value)) :
    (session.andThen next).Alike later (second.andThen following) := by
  induction alike with
  | done time related => exact rest time _ _ _ _ related
  | ask state other call _ ih => exact .ask state other call fun time outcome => ih time outcome

theorem Alike.imp {later : σ → α → σ → β → Prop} (alike : session.Alike atEnd second)
    (implies : ∀ state result other value, atEnd state result other value →
      later state result other value) : session.Alike later second := by
  induction alike with
  | done time related => exact .done time (implies _ _ _ _ related)
  | ask state other call _ ih => exact .ask state other call fun time outcome => ih time outcome

end Session

/-- A conversation that is held on both sides comes to the same. -/
theorem Operation.alike_hold {σ α : Type} {dialogue : Dialogue α} {property : α → Prop}
    (yields : dialogue.Yields property) (time : Nat) (state other : σ) :
    (hold dialogue time state).Alike (fun state₁ result other₁ value =>
      state₁ = state ∧ other₁ = other ∧ result = value ∧ property result)
      (hold dialogue time other) := by
  unfold hold
  induction dialogue generalizing time with
  | done result => exact .done time ⟨rfl, rfl, rfl, yields⟩
  | ask call next ih => exact .ask state other call fun time outcome => ih outcome (yields outcome) time

namespace Target

variable {σ τ α β : Type} {target : Target τ} {alike : τ → τ → Prop}

/-- Whether states of a target that are alike cannot be told apart: calls are answered alike in them,
in the same time, and from then on again. -/
def Indistinct (target : Target τ) (alike : τ → τ → Prop) : Prop :=
  ∀ world other, alike world other → ∀ call,
    (target.reply world call).outcome = (target.reply other call).outcome ∧
      (target.reply world call).delay = (target.reply other call).delay ∧
      alike (target.reply world call).state (target.reply other call).state

/-- Whether the answers of a target do not depend on the connection: no answer ever tells whether a
connection was closed before. -/
structure IgnoresConnections (target : Target τ) (alike : τ → τ → Prop) : Prop where
  indistinct : target.Indistinct alike
  refl : ∀ world, alike world world
  closes : ∀ world, alike (target.reply world .close).state world

/-- Sessions that are alike take the same time and end alike. -/
theorem run_alike {atEnd : σ → α → σ → β → Prop} {first : Session σ α} {second : Session σ β}
    (indistinct : target.Indistinct alike) (same : first.Alike atEnd second) {world other : τ}
    (worlds : alike world other) (time : Nat) :
    ∃ ended state result after state₁ value after₁,
      target.run none world time first = .ended ended state after result ∧
      target.run none other time second = .ended ended state₁ after₁ value ∧
      atEnd state result state₁ value ∧ alike after after₁ := by
  induction same generalizing world other time with
  | done ended related => exact ⟨_, _, _, _, _, _, _, rfl, rfl, related, worlds⟩
  | @ask state state₁ call next following _ ih =>
    obtain ⟨outcome, delay, later⟩ := indistinct world other worlds call
    have arrived : ∀ delay, arrives none time delay = true := fun delay => by simp [arrives]
    simp only [run, arrived, if_true, ← outcome, ← delay]
    exact ih _ _ later _

end Target
end BeanHarvest
