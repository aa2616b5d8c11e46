import BeanHarvest.Proofs.Target.Answers
import BeanHarvest.Proofs.Target.Clock
import BeanHarvest.Proofs.Target.Repeating

/-! Prompt targets: every call is answered at once and without a fault. A session against one begins and
ends at one time. -/
namespace BeanHarvest

/-- The promise to answer without faults. -/
def Promise.flawless : Promise := fun _ outcome => outcome.isOk = true

namespace Session

variable {σ α β : Type} {session : Session σ α} {now : Nat} {answers : List Answer} {final : σ}
  {result : α} {kept : σ → Prop}

/-- How a session goes at some time in which every call is answered at once and without a fault. -/
inductive EndsAtOnce {σ α : Type} : Session σ α → (now : Nat) → List Answer → σ → α → Prop where
  | done (now : Nat) (state : σ) (result : α) : EndsAtOnce (done now state result) now [] state result
  | ask {state final : σ} {call : Call} {next : Nat → call.Outcome → Session σ α} {now : Nat}
      {answers : List Answer} {result : α} (answer : call.Answer)
      (rest : EndsAtOnce (next now (.ok answer)) now answers final result) :
      EndsAtOnce (ask state call next) now (⟨call, .ok answer⟩ :: answers) final result

theorem EndsAtOnce.ends (ends : session.EndsAtOnce now answers final result) :
    session.Ends answers now final result := by
  induction ends with
  | done now state result => exact .done now state result
  | ask answer rest ih => exact .ask _ _ ih

theorem EndsAtOnce.allowed (ends : session.EndsAtOnce now answers final result) :
    ∀ given ∈ answers, Promise.flawless.Allows given := by
  induction ends with
  | done now state result => exact nofun
  | ask answer rest ih => exact List.forall_mem_cons.mpr ⟨rfl, ih⟩

/-- A session that goes by the clock hands on the time at which it was begun. -/
theorem EndsAtOnce.andThen_inv {next : Nat → σ → α → Session σ β} {value : β}
    (ends : (session.andThen next).EndsAtOnce now answers final value)
    (clocked : session.Clocked kept now) : ∃ before after state result,
      answers = before ++ after ∧ session.EndsAtOnce now before state result ∧
      (next now state result).EndsAtOnce now after final value := by
  induction session generalizing answers with
  | done time state result =>
    obtain ⟨rfl, _⟩ := clocked
    exact ⟨[], answers, state, result, rfl, .done .., ends⟩
  | ask state call following ih =>
    cases ends with
    | ask answer rest =>
      obtain ⟨before, after, between, result, rfl, first, second⟩ := ih _ _ rest (clocked.2 _ _)
      exact ⟨_, after, between, result, rfl, .ask answer first, second⟩

end Session

namespace Operation

variable {σ α β : Type} {now : Nat} {state final : σ} {answers : List Answer} {result : β}

/-- What a conversation that is held comes to is left to the rest, and the state is as it was. -/
theorem atOnce_hold_inv {dialogue : Dialogue α} {next : α → Operation σ β}
    (ends : ((hold dialogue >>= next) now state).EndsAtOnce now answers final result) :
    ∃ before after value, answers = before ++ after ∧ dialogue.Ends before value ∧
      (next value now state).EndsAtOnce now after final result := by
  have clocked : (hold dialogue now state).Clocked (fun _ => True) now :=
    clocked_hold dialogue now state trivial
  obtain ⟨before, after, _, value, rfl, held, rest⟩ := ends.andThen_inv clocked
  obtain ⟨rfl, came⟩ := hold_ends_inv held.ends
  exact ⟨before, after, value, rfl, came, rest⟩

end Operation

namespace Target

variable {σ τ α : Type}

/-- Whether a target answers the calls of a session that goes on at some time, each at once and without
a fault. -/
def Prompt (target : Target τ) (world : τ) (now : Nat) : Session σ α → Prop
  | .done .. => True
  | .ask _ call next =>
    let reply := target.reply world call
    reply.delay = 0 ∧ reply.outcome.isOk = true ∧
      target.Prompt reply.state now (next now reply.outcome)

/-- A session that goes by the clock comes to its end against such a target, at the time at which it was
begun. -/
theorem Prompt.run {target : Target τ} {world : τ} {now : Nat} {session : Session σ α}
    {kept : σ → Prop} (prompt : target.Prompt world now session)
    (clocked : session.Clocked kept now) : ∃ final after result,
      target.run none world now session = .ended now final after result ∧
      session.EndsAtOnce now (target.transcript world now session) final result := by
  induction session generalizing world with
  | done time state result =>
    obtain ⟨rfl, _⟩ := clocked
    exact ⟨state, world, result, rfl, .done ..⟩
  | ask state call next ih =>
    obtain ⟨atOnce, well, rest⟩ := prompt
    obtain ⟨final, after, result, ran, ends⟩ := ih now _ rest (clocked.2 _ _)
    refine ⟨final, after, result, ?_, ?_⟩
    · rw [Target.run, atOnce]
      exact ran
    · rw [transcript, atOnce]
      cases answered : (target.reply world call).outcome with
      | error fault => simp [answered, Except.isOk, Except.toBool] at well
      | ok answer =>
        rw [answered] at ends
        exact .ask answer ends

end Target

namespace Answers

variable {σ α : Type} {session : Session σ α} {now : Nat}

def asTarget (answers : Answers) : Target Unit where
  reply _ call := ⟨answers.outcome call, 0, ()⟩

theorem prompt (answers : Answers) (now : Nat) (session : Session σ α) :
    answers.asTarget.Prompt () now session := by
  induction session with
  | done time state result => exact trivial
  | ask state call next ih => exact ⟨rfl, rfl, ih now _⟩

theorem endsAtOnce (answers : Answers) {kept : σ → Prop} (clocked : session.Clocked kept now) :
    session.EndsAtOnce now (answers.asTarget.transcript () now session)
      (session.finish answers.outcome now).1 (session.finish answers.outcome now).2 := by
  induction session with
  | done time state result =>
    obtain ⟨rfl, _⟩ := clocked
    exact .done ..
  | ask state call next ih => exact .ask _ (ih now _ (clocked.2 _ _))

theorem run (answers : Answers) {kept : σ → Prop} (clocked : session.Clocked kept now) :
    answers.asTarget.run none () now session = .ended now (session.finish answers.outcome now).1 ()
      (session.finish answers.outcome now).2 := by
  induction session with
  | done time state result =>
    obtain ⟨rfl, _⟩ := clocked
    rfl
  | ask state call next ih => exact ih now _ (clocked.2 _ _)

theorem transcript_allowed (answers : Answers) (now : Nat) (session : Session σ α) :
    ∀ given ∈ answers.asTarget.transcript () now session,
      (Promise.always answers.outcome).Allows given := by
  induction session generalizing now with
  | done time state result => exact nofun
  | ask state call next ih => exact List.forall_mem_cons.mpr ⟨rfl, ih _ _ _⟩

end Answers
end BeanHarvest
