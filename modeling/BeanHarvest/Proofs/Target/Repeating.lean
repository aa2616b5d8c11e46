import BeanHarvest.Proofs.Target.Promises
import BeanHarvest.Target.Rehearsal

/-! Targets whose answers do not change: a call is answered alike each time, however often it is asked
and whatever was asked before. What a conversation comes to is then told by the answers alone. -/
namespace BeanHarvest

/-- The promise to answer each call alike each time. -/
def Promise.always (answer : (call : Call) → call.Outcome) : Promise := fun call outcome =>
  outcome = answer call

variable {answer : (call : Call) → call.Outcome}

theorem Dialogue.yields_result {α : Type} (dialogue : Dialogue α) :
    dialogue.YieldsUnder (Promise.always answer) fun result => result = dialogue.result answer := by
  induction dialogue with
  | done result => exact rfl
  | ask call next ih =>
    intro outcome same
    have same : outcome = answer call := same
    subst same
    exact ih _

theorem Session.ends_always {σ α : Type} (answer : (call : Call) → call.Outcome)
    (session : Session σ α) : ∃ answers last final result,
      session.Ends answers last final result ∧
      ∀ given ∈ answers, (Promise.always answer).Allows given := by
  induction session with
  | done time state result => exact ⟨[], time, state, result, .done .., by simp⟩
  | ask state call next ih =>
    obtain ⟨answers, last, final, result, ends, allowed⟩ := ih 0 (answer call)
    exact ⟨_, last, final, result, .ask 0 _ ends, List.forall_mem_cons.mpr ⟨rfl, allowed⟩⟩

/-- What a session comes to if it is answered alike each time. -/
abbrev Session.ComesTo {σ α : Type} (answer : (call : Call) → call.Outcome) (session : Session σ α)
    (atEnd : σ → α → Prop) : Prop :=
  session.MeetsUnder (Promise.always answer) (fun _ => True) atEnd

/-- What a conversation comes to that is held is all that the rest has to do with. -/
theorem Operation.comesTo_hold {σ α β : Type} (dialogue : Dialogue α) {next : α → Operation σ β}
    {atEnd : σ → β → Prop} {time : Nat} {state : σ}
    (rest : ∀ time, (next (dialogue.result answer) time state).ComesTo answer atEnd) :
    ((hold dialogue >>= next) time state).ComesTo answer atEnd :=
  meetsUnder_hold_bind trivial dialogue.yields_result fun time _ same => same ▸ rest time

/-- Without a deadline every session comes to its end, with answers as promised. -/
theorem Target.run_ends_allowed {σ τ α : Type} {target : Target τ} {promise : Promise} {world : τ}
    (honours : target.Honours promise world) (time : Nat) (session : Session σ α) :
    ∃ last final after result answers,
      target.run none world time session = .ended last final after result ∧
      target.Honours promise after ∧ session.Ends answers last final result ∧
      ∀ given ∈ answers, promise.Allows given := by
  obtain ⟨last, final, after, result, ran, _⟩ := target.run_ends world time session
  obtain ⟨still, answers, ends, allowed⟩ := target.ends_of_run honours ran
  exact ⟨last, final, after, result, answers, ran, still, ends, allowed⟩

namespace Rehearsal

theorem answer_counted (target : Rehearsal) (counts : CallCounts) :
    { target with counts }.answer = target.answer := by
  funext call
  cases call <;> rfl

/-- As long as nothing else is arranged, a rehearsal answers alike each time. -/
theorem honours_always (target : Rehearsal) :
    asTarget.Honours (Promise.always target.answer) target := by
  intro calls call
  have unchanged : (asTarget.worldAfter target calls).answer = target.answer := by
    induction calls generalizing target with
    | nil => rfl
    | cons call rest ih => exact (ih _).trans (answer_counted target _)
  exact congrFun unchanged call

end Rehearsal
end BeanHarvest
