import BeanHarvest.Proofs.Target.Assertions
import BeanHarvest.Target.Basic

/-! Transcripts: what a conversation was answered, call by call, and what it came to. The transcript of
one conversation after another is the one transcript after the other. -/
namespace BeanHarvest

/-- A call and how it ended. -/
structure Answer where
  call : Call
  outcome : call.Outcome

/-- Whether a conversation comes to a result if it is given just these answers. -/
inductive Dialogue.Ends {α : Type} : Dialogue α → List Answer → α → Prop where
  | done (result : α) : Ends (done result) [] result
  | ask {call : Call} {next : call.Outcome → Dialogue α} {answers : List Answer} {result : α}
      (outcome : call.Outcome) (rest : Ends (next outcome) answers result) :
      Ends (ask call next) (⟨call, outcome⟩ :: answers) result

namespace Dialogue

variable {α : Type} {answers : List Answer} {result : α}

theorem Ends.done_inv {value : α} (ends : (Dialogue.done value).Ends answers result) :
    answers = [] ∧ result = value := by
  cases ends
  exact ⟨rfl, rfl⟩

theorem Ends.ask_inv {call : Call} {next : call.Outcome → Dialogue α}
    (ends : (Dialogue.ask call next).Ends answers result) :
    ∃ outcome rest, answers = ⟨call, outcome⟩ :: rest ∧ (next outcome).Ends rest result := by
  cases ends with
  | ask outcome rest => exact ⟨outcome, _, rfl, rest⟩

/-- What a conversation comes to is settled by the answers. -/
theorem Ends.unique {dialogue : Dialogue α} {other : α} (first : dialogue.Ends answers result)
    (second : dialogue.Ends answers other) : result = other := by
  induction first with
  | done result => exact second.done_inv.2.symm
  | ask outcome rest ih =>
    obtain ⟨_, _, same, ends⟩ := second.ask_inv
    cases same
    exact ih ends

/-- Whether all that a conversation can come to has a property, whatever it is answered. -/
def Yields (property : α → Prop) : Dialogue α → Prop
  | done result => property result
  | ask call next => ∀ outcome : call.Outcome, (next outcome).Yields property

theorem Ends.of_yields {property : α → Prop} {dialogue : Dialogue α}
    (ends : dialogue.Ends answers result) (yields : dialogue.Yields property) : property result := by
  induction ends with
  | done result => exact yields
  | ask outcome rest ih => exact ih (yields outcome)

/-- What a first conversation comes to has to be enough for the second. -/
theorem Yields.andThen {β : Type} {between : α → Prop} {property : β → Prop}
    {dialogue : Dialogue α} {next : α → Dialogue β} (first : dialogue.Yields between)
    (second : ∀ result, between result → (next result).Yields property) :
    (dialogue.andThen next).Yields property := by
  induction dialogue with
  | done result => exact second result first
  | ask call rest ih => exact fun outcome => ih outcome (first outcome)

/-- A first conversation is of no interest if all that follows comes to the same. -/
theorem yields_andThen {β : Type} {property : β → Prop} {dialogue : Dialogue α}
    {next : α → Dialogue β} (rest : ∀ result, (next result).Yields property) :
    (dialogue.andThen next).Yields property := by
  have anything : dialogue.Yields fun _ => True := by
    induction dialogue with
    | done result => exact trivial
    | ask call next ih => exact ih
  exact anything.andThen fun result _ => rest result

/-- The answers of one conversation after another are those of the one and those of the other. -/
theorem Ends.andThen_inv {β : Type} {dialogue : Dialogue α} {next : α → Dialogue β} {value : β}
    (ends : (dialogue.andThen next).Ends answers value) :
    ∃ before after result, answers = before ++ after ∧ dialogue.Ends before result ∧
      (next result).Ends after value := by
  induction dialogue generalizing answers with
  | done result => exact ⟨[], answers, result, rfl, .done result, ends⟩
  | ask call rest ih =>
    obtain ⟨outcome, others, rfl, following⟩ := ends.ask_inv
    obtain ⟨before, after, result, rfl, first, second⟩ := ih outcome following
    exact ⟨_, after, result, rfl, .ask outcome first, second⟩

/-- Whether a conversation has only such calls, whatever it is answered. -/
def AsksOnly (such : Call → Prop) : Dialogue α → Prop
  | done _ => True
  | ask call next => such call ∧ ∀ outcome, (next outcome).AsksOnly such

theorem AsksOnly.andThen {β : Type} {such : Call → Prop} {dialogue : Dialogue α}
    {next : α → Dialogue β} (first : dialogue.AsksOnly such)
    (second : ∀ result, (next result).AsksOnly such) : (dialogue.andThen next).AsksOnly such := by
  induction dialogue with
  | done result => exact second result
  | ask call rest ih => exact ⟨first.1, fun outcome => ih outcome (first.2 outcome)⟩

theorem Ends.asked {such : Call → Prop} {dialogue : Dialogue α} (ends : dialogue.Ends answers result)
    (asks : dialogue.AsksOnly such) : ∀ answer ∈ answers, such answer.call := by
  induction ends with
  | done result => exact nofun
  | ask outcome rest ih => exact List.forall_mem_cons.mpr ⟨asks.1, ih (asks.2 outcome)⟩

end Dialogue

namespace Session

/-- Whether a session ends at some time, in a state and with a result, if it is given just these
answers. -/
inductive Ends {σ α : Type} : Session σ α → List Answer → Nat → σ → α → Prop where
  | done (time : Nat) (state : σ) (result : α) : Ends (done time state result) [] time state result
  | ask {state final : σ} {call : Call} {next : Nat → call.Outcome → Session σ α}
      {answers : List Answer} {last : Nat} {result : α} (time : Nat) (outcome : call.Outcome)
      (rest : Ends (next time outcome) answers last final result) :
      Ends (ask state call next) (⟨call, outcome⟩ :: answers) last final result

variable {σ α β : Type} {session : Session σ α} {next : Nat → σ → α → Session σ β}
  {answers others : List Answer} {time last : Nat} {state final : σ} {result : α} {value : β}

theorem Ends.canEnd (ends : session.Ends answers time final result) :
    session.CanEnd final result := by
  induction ends with
  | done time state result => exact .done time state result
  | ask time outcome rest ih => exact .ask time outcome ih

theorem CanEnd.ends (canEnd : session.CanEnd final result) :
    ∃ answers time, session.Ends answers time final result := by
  induction canEnd with
  | done time state result => exact ⟨[], time, .done _ _ _⟩
  | ask time outcome rest ih =>
    obtain ⟨answers, last, ends⟩ := ih
    exact ⟨_, last, .ask time outcome ends⟩

theorem Ends.andThen (first : session.Ends answers time state result)
    (second : (next time state result).Ends others last final value) :
    (session.andThen next).Ends (answers ++ others) last final value := by
  induction first with
  | done time state result => exact second
  | ask time outcome rest ih => exact .ask time outcome (ih second)

theorem Ends.andThen_inv (ends : (session.andThen next).Ends answers last final value) :
    ∃ before after time state result, answers = before ++ after ∧
      session.Ends before time state result ∧
      (next time state result).Ends after last final value := by
  induction session generalizing answers with
  | done time state result => exact ⟨[], answers, time, state, result, rfl, .done _ _ _, ends⟩
  | ask state call rest ih =>
    cases ends with
    | ask time outcome ends =>
      obtain ⟨before, after, middle, between, found, rfl, first, second⟩ := ih time outcome ends
      exact ⟨_, after, middle, between, found, rfl, .ask time outcome first, second⟩

end Session

namespace Target

variable {σ τ α : Type}

/-- What a session is answered that runs against a target without a deadline. -/
def transcript (target : Target τ) (world : τ) (time : Nat) : Session σ α → List Answer
  | .done _ _ _ => []
  | .ask _ call next =>
    let reply := target.reply world call
    ⟨call, reply.outcome⟩ :: target.transcript reply.state (time + reply.delay)
      (next (time + reply.delay) reply.outcome)

/-- Without a deadline every session comes to its end, with the answers of the target. -/
theorem run_ends (target : Target τ) (world : τ) (time : Nat) (session : Session σ α) :
    ∃ last state after result, target.run none world time session = .ended last state after result ∧
      session.Ends (target.transcript world time session) last state result := by
  induction session generalizing world time with
  | done last state result => exact ⟨last, state, world, result, rfl, .done _ _ _⟩
  | ask state call next ih =>
    have arrived : arrives none time (target.reply world call).delay = true := by simp [arrives]
    obtain ⟨last, final, after, result, ran, ends⟩ := ih (time + (target.reply world call).delay)
      (target.reply world call).outcome (target.reply world call).state
      (time + (target.reply world call).delay)
    refine ⟨last, final, after, result, ?_, .ask _ _ ends⟩
    rw [run]
    simpa only [arrived, if_true] using ran

/-- A session that runs without a deadline ends with the answers of its transcript. -/
theorem transcript_ends {target : Target τ} {world after : τ} {time last : Nat}
    {session : Session σ α} {final : σ} {result : α}
    (ran : target.run none world time session = .ended last final after result) :
    session.Ends (target.transcript world time session) last final result := by
  obtain ⟨_, _, _, _, same, ends⟩ := target.run_ends world time session
  cases same.symm.trans ran
  exact ends

end Target

namespace Operation

variable {σ α β : Type} {dialogue : Dialogue α} {answers : List Answer} {time last : Nat}
  {state final : σ} {result : α}

theorem get_bind (next : σ → Operation σ β) : (get >>= next) time state = next state time state :=
  rfl

theorem now_bind (next : Nat → Operation σ β) : (now >>= next) time state = next time time state :=
  rfl

theorem modify_bind (change : σ → σ) (next : Unit → Operation σ β) :
    (modify change >>= next) time state = next () time (change state) := rfl

theorem bind_ends_inv {first : Operation σ α} {next : α → Operation σ β} {value : β}
    (ends : ((first >>= next) time state).Ends answers last final value) :
    ∃ before after middle between result, answers = before ++ after ∧
      (first time state).Ends before middle between result ∧
      (next result middle between).Ends after last final value :=
  Session.Ends.andThen_inv ends

theorem pure_ends_inv {value : α}
    (ends : ((pure value : Operation σ α) time state).Ends answers last final result) :
    answers = [] ∧ final = state ∧ result = value := by
  cases ends
  exact ⟨rfl, rfl, rfl⟩

theorem call_ends_inv {call : Call} {outcome : call.Outcome}
    (ends : (Operation.call call time state).Ends answers last final outcome) :
    answers = [⟨call, outcome⟩] ∧ final = state := by
  cases ends with
  | ask time given rest =>
    cases rest
    exact ⟨rfl, rfl⟩

theorem hold_ends (ends : dialogue.Ends answers result) (time : Nat) (state : σ) :
    ∃ last, (hold dialogue time state).Ends answers last state result := by
  unfold hold
  induction ends generalizing time with
  | done result => exact ⟨time, .done _ _ _⟩
  | ask outcome rest ih =>
    obtain ⟨last, ends⟩ := ih time
    exact ⟨last, .ask time outcome ends⟩

theorem hold_ends_inv (ends : (hold dialogue time state).Ends answers last final result) :
    final = state ∧ dialogue.Ends answers result := by
  unfold hold at ends
  induction dialogue generalizing time answers with
  | done value =>
    cases ends
    exact ⟨rfl, .done _⟩
  | ask call next ih =>
    cases ends with
    | ask time outcome ends =>
      obtain ⟨same, ends⟩ := ih outcome ends
      exact ⟨same, .ask outcome ends⟩

/-- Whether all that a piece of work can come to has a property, whatever it is answered. -/
def Yields (property : α → Prop) (work : Operation σ α) : Prop :=
  ∀ time state, (work time state).Meets (fun _ => True) fun _ result => property result

variable {property : α → Prop}

theorem yields_pure (holds : property result) : (pure result : Operation σ α).Yields property :=
  fun _ _ => holds

theorem Yields.imp {other : α → Prop} {work : Operation σ α} (yields : work.Yields property)
    (implies : ∀ result, property result → other result) : work.Yields other :=
  fun time state => (yields time state).imp fun _ => implies

theorem Yields.bind {between : β → Prop} {first : Operation σ β} {next : β → Operation σ α}
    (yields : first.Yields between)
    (rest : ∀ result, between result → (next result).Yields property) :
    (first >>= next).Yields property :=
  fun time state => (yields time state).andThen fun time state result holds =>
    rest result holds time state

/-- What is done first is of no interest if all that follows comes to the same. -/
theorem yields_bind {first : Operation σ β} {next : β → Operation σ α}
    (rest : ∀ result, (next result).Yields property) : (first >>= next).Yields property := by
  have anything : first.Yields fun _ => True := by
    intro time state
    induction first time state with
    | done time state result => exact trivial
    | ask state call next ih => exact ⟨trivial, ih⟩
  exact anything.bind fun result _ => rest result

end Operation
end BeanHarvest
