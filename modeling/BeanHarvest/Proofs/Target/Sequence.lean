import BeanHarvest.Proofs.Target.Clock
import BeanHarvest.Proofs.Target.Transcript

/-! Sessions one after the other against a target. If the first one goes by the clock, the second one
begins when the first one has ended, and with the target as the first one has left it. -/
namespace BeanHarvest.Target

variable {σ τ α β : Type} {target : Target τ} {world after : τ} {time last : Nat} {kept : σ → Prop}
  {first : Session σ α} {next : Nat → σ → α → Session σ β} {state : σ} {result : α}

theorem run_andThen {deadline : Option Nat} (clocked : first.Clocked kept time)
    (ran : target.run deadline world time first = .ended last state after result) :
    target.run deadline world time (first.andThen next) =
      target.run deadline after last (next last state result) := by
  induction first generalizing world time with
  | done ended final value =>
    obtain ⟨rfl, _⟩ := clocked
    cases ran
    rfl
  | ask between call rest ih =>
    rw [run] at ran
    rw [Session.andThen, run]
    split at ran
    · next arrived =>
      rw [if_pos arrived]
      exact ih _ _ (clocked.2 _ _) ran
    · cases ran

theorem transcript_andThen (clocked : first.Clocked kept time)
    (ran : target.run none world time first = .ended last state after result) :
    target.transcript world time (first.andThen next) =
      target.transcript world time first ++ target.transcript after last (next last state result) := by
  induction first generalizing world time with
  | done ended final value =>
    obtain ⟨rfl, _⟩ := clocked
    cases ran
    rfl
  | ask between call rest ih =>
    rw [run] at ran
    split at ran
    · rw [Session.andThen, transcript, transcript, List.cons_append]
      congr 1
      exact ih _ _ (clocked.2 _ _) ran
    · cases ran

end BeanHarvest.Target
