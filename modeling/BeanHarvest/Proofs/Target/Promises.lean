import BeanHarvest.Proofs.Target.Transcript

/-! Promises: what a target is known to answer. What holds of a session for all answers that are promised
holds of its runs against every target that keeps the promise, whether they end or are cut short. -/
namespace BeanHarvest

abbrev Promise := (call : Call) → call.Outcome → Prop

def Promise.Allows (promise : Promise) (answer : Answer) : Prop := promise answer.call answer.outcome

variable {promise : Promise}

namespace Dialogue

variable {α β : Type} {property : α → Prop} {dialogue : Dialogue α}

/-- Whether all that a conversation can come to has a property, if it is answered as promised. -/
def YieldsUnder (promise : Promise) (property : α → Prop) : Dialogue α → Prop
  | done result => property result
  | ask call next => ∀ outcome : call.Outcome, promise call outcome →
      (next outcome).YieldsUnder promise property

/-- What conversations come to whatever they are answered, they come to under any promise. -/
theorem Yields.under (yields : dialogue.Yields property) : dialogue.YieldsUnder promise property := by
  induction dialogue with
  | done result => exact yields
  | ask call next ih => exact fun outcome _ => ih outcome (yields outcome)

theorem yields_of_under (yields : dialogue.YieldsUnder (fun _ _ => True) property) :
    dialogue.Yields property := by
  induction dialogue with
  | done result => exact yields
  | ask call next ih => exact fun outcome => ih outcome (yields outcome trivial)

theorem Ends.of_yieldsUnder {answers : List Answer} {result : α} (ends : dialogue.Ends answers result)
    (allowed : ∀ answer ∈ answers, promise.Allows answer)
    (yields : dialogue.YieldsUnder promise property) : property result := by
  induction ends with
  | done result => exact yields
  | ask outcome rest ih =>
    obtain ⟨first, others⟩ := List.forall_mem_cons.mp allowed
    exact ih others (yields outcome first)

/-- What a conversation comes to with answers that are promised has the property. -/
theorem YieldsUnder.result (yields : dialogue.YieldsUnder promise property)
    {answer : (call : Call) → call.Outcome} (kept : ∀ call, promise call (answer call)) :
    property (dialogue.result answer) := by
  induction dialogue with
  | done result => exact yields
  | ask call next ih => exact ih (answer call) (yields (answer call) (kept call))

theorem YieldsUnder.andThen {between : β → Prop} {first : Dialogue β} {next : β → Dialogue α}
    (yields : first.YieldsUnder promise between)
    (rest : ∀ result, between result → (next result).YieldsUnder promise property) :
    (first.andThen next).YieldsUnder promise property := by
  induction first with
  | done result => exact rest result yields
  | ask call following ih => exact fun outcome kept => ih outcome (yields outcome kept)

theorem yieldsUnder_of_forall (holds : ∀ result, property result) :
    dialogue.YieldsUnder promise property := by
  induction dialogue with
  | done result => exact holds result
  | ask call next ih => exact fun outcome _ => ih outcome

theorem YieldsUnder.imp {other : α → Prop} (yields : dialogue.YieldsUnder promise property)
    (implies : ∀ result, property result → other result) : dialogue.YieldsUnder promise other := by
  induction dialogue with
  | done result => exact implies result yields
  | ask call next ih => exact fun outcome kept => ih outcome (yields outcome kept)

theorem YieldsUnder.and {other : α → Prop} (first : dialogue.YieldsUnder promise property)
    (second : dialogue.YieldsUnder promise other) :
    dialogue.YieldsUnder promise fun result => property result ∧ other result := by
  induction dialogue with
  | done result => exact ⟨first, second⟩
  | ask call next ih => exact fun outcome kept => ih outcome (first outcome kept) (second outcome kept)

/-- A first conversation is of no interest if all that follows comes to the same. -/
theorem yieldsUnder_andThen {first : Dialogue β} {next : β → Dialogue α}
    (rest : ∀ result, (next result).YieldsUnder promise property) :
    (first.andThen next).YieldsUnder promise property := by
  have anything : first.YieldsUnder promise fun _ => True := yieldsUnder_of_forall fun _ => trivial
  exact anything.andThen fun result _ => rest result

end Dialogue

namespace Session

variable {σ α β : Type} {atCall : σ → Prop} {atEnd : σ → α → Prop} {session : Session σ α}

/-- `atCall` holds of the state at every call, `atEnd` of state and result at every end, as long as the
session is answered as promised. -/
def MeetsUnder (promise : Promise) (atCall : σ → Prop) (atEnd : σ → α → Prop) : Session σ α → Prop
  | done _ state result => atEnd state result
  | ask state call next => atCall state ∧ ∀ time outcome, promise call outcome →
      (next time outcome).MeetsUnder promise atCall atEnd

theorem meets_of_under (met : session.MeetsUnder (fun _ _ => True) atCall atEnd) :
    session.Meets atCall atEnd := by
  induction session with
  | done time state result => exact met
  | ask state call next ih =>
    exact ⟨met.1, fun time outcome => ih time outcome (met.2 time outcome trivial)⟩

theorem MeetsUnder.andThen {between : σ → β → Prop} {first : Session σ β}
    {next : Nat → σ → β → Session σ α} (met : first.MeetsUnder promise atCall between)
    (rest : ∀ time state result, between state result →
      (next time state result).MeetsUnder promise atCall atEnd) :
    (first.andThen next).MeetsUnder promise atCall atEnd := by
  induction first with
  | done time state result => exact rest time state result met
  | ask state call following ih =>
    exact ⟨met.1, fun time outcome kept => ih time outcome (met.2 time outcome kept)⟩

theorem MeetsUnder.imp {other : σ → α → Prop} (met : session.MeetsUnder promise atCall atEnd)
    (implies : ∀ state result, atEnd state result → other state result) :
    session.MeetsUnder promise atCall other := by
  induction session with
  | done time state result => exact implies state result met
  | ask state call next ih =>
    exact ⟨met.1, fun time outcome kept => ih time outcome (met.2 time outcome kept)⟩

theorem Ends.meetsUnder {answers : List Answer} {last : Nat} {final : σ} {result : α}
    (ends : session.Ends answers last final result) (allowed : ∀ answer ∈ answers, promise.Allows answer)
    (met : session.MeetsUnder promise atCall atEnd) : atEnd final result := by
  induction ends with
  | done time state result => exact met
  | ask time outcome rest ih =>
    obtain ⟨first, others⟩ := List.forall_mem_cons.mp allowed
    exact ih others (met.2 time outcome first)

end Session

namespace Operation

variable {σ α β : Type} {kept : σ → Prop}

/-- A piece of work that begins with a property of the state has it throughout, if it is answered as
promised. -/
def KeepsUnder (promise : Promise) (kept : σ → Prop) (work : Operation σ α) : Prop :=
  ∀ time state, kept state → (work time state).MeetsUnder promise kept fun state _ => kept state

theorem keeps_of_under {work : Operation σ α}
    (keeps : work.KeepsUnder (fun _ _ => True) kept) : work.Keeps kept :=
  fun time state holds => Session.meets_of_under (keeps time state holds)

theorem keepsUnder_pure (result : α) : (pure result : Operation σ α).KeepsUnder promise kept :=
  fun _ _ holds => holds

theorem keepsUnder_get : (get : Operation σ σ).KeepsUnder promise kept := fun _ _ holds => holds

theorem keepsUnder_now : (now : Operation σ Nat).KeepsUnder promise kept := fun _ _ holds => holds

theorem keepsUnder_modify {change : σ → σ} (steady : ∀ state, kept state → kept (change state)) :
    (modify change).KeepsUnder promise kept := fun _ state holds => steady state holds

theorem keepsUnder_call (call : Call) :
    (Operation.call call : Operation σ call.Outcome).KeepsUnder promise kept :=
  fun _ _ holds => ⟨holds, fun _ _ _ => holds⟩

theorem KeepsUnder.bind {first : Operation σ α} {next : α → Operation σ β}
    (keeps : first.KeepsUnder promise kept) (rest : ∀ result, (next result).KeepsUnder promise kept) :
    (first >>= next).KeepsUnder promise kept :=
  fun time state holds =>
    (keeps time state holds).andThen fun time state result holds => rest result time state holds

theorem keepsUnder_hold (dialogue : Dialogue α) :
    (hold dialogue : Operation σ α).KeepsUnder promise kept := by
  intro time state holds
  unfold hold
  induction dialogue generalizing time with
  | done result => exact holds
  | ask call next ih => exact ⟨holds, fun time outcome _ => ih outcome time⟩

/-- A conversation that is held leaves the state alone; what it comes to is left to the rest. -/
theorem meetsUnder_hold_bind {dialogue : Dialogue α} {property : α → Prop}
    {next : α → Operation σ β} {atEnd : σ → β → Prop} {time : Nat} {state : σ} (holds : kept state)
    (yields : dialogue.YieldsUnder promise property)
    (rest : ∀ time result, property result →
      (next result time state).MeetsUnder promise kept atEnd) :
    ((hold dialogue >>= next) time state).MeetsUnder promise kept atEnd := by
  have unfolded : (hold dialogue >>= next) time state =
      (sessionOf state time dialogue).andThen fun time state result => next result time state := rfl
  rw [unfolded]
  induction dialogue generalizing time with
  | done result => exact rest time result yields
  | ask call following ih =>
    exact ⟨holds, fun time outcome kept => ih outcome (yields outcome kept) rfl⟩

end Operation

namespace Target

variable {σ τ α : Type} {target : Target τ} {world : τ}

def worldAfter (target : Target τ) (world : τ) (calls : List Call) : τ :=
  calls.foldl (fun world call => (target.reply world call).state) world

/-- Whether a target keeps a promise from some state on, whatever it is asked and in whatever order. -/
def Honours (target : Target τ) (promise : Promise) (world : τ) : Prop :=
  ∀ calls call, promise call (target.reply (target.worldAfter world calls) call).outcome

theorem Honours.step (honours : target.Honours promise world) (call : Call) :
    target.Honours promise (target.reply world call).state :=
  fun calls => honours (call :: calls)

/-- Whether a session has met its assertions where it has ended or was cut short, and the target goes on
to keep its promise. -/
def MetAt (target : Target τ) (promise : Promise) (atCall : σ → Prop) (atEnd : σ → α → Prop) :
    Course σ τ α → Prop
  | .ended _ state world result => atEnd state result ∧ target.Honours promise world
  | .cut state world => atCall state ∧ target.Honours promise world

/-- Against a target that keeps its promise, up to whatever deadline. -/
theorem run_met {atCall : σ → Prop} {atEnd : σ → α → Prop} {session : Session σ α}
    (honours : target.Honours promise world) (met : session.MeetsUnder promise atCall atEnd)
    (deadline : Option Nat) (time : Nat) :
    target.MetAt promise atCall atEnd (target.run deadline world time session) := by
  induction session generalizing world time with
  | done last state result => exact ⟨met, honours⟩
  | ask state call next ih =>
    rw [run]
    split
    · exact ih _ _ (honours.step call) (met.2 _ _ (honours [] call)) _
    · exact ⟨met.1, honours.step call⟩

/-- A run that ends has been given answers, all as promised, and the target goes on to keep its promise. -/
theorem ends_of_run {deadline : Option Nat} {time last : Nat} {session : Session σ α} {final : σ}
    {after : τ} {result : α} (honours : target.Honours promise world)
    (ran : target.run deadline world time session = .ended last final after result) :
    target.Honours promise after ∧ ∃ answers, session.Ends answers last final result ∧
      ∀ answer ∈ answers, promise.Allows answer := by
  induction session generalizing world time with
  | done last state result =>
    cases ran
    exact ⟨honours, [], .done _ _ _, by simp⟩
  | ask state call next ih =>
    rw [run] at ran
    split at ran
    · obtain ⟨still, answers, ends, allowed⟩ := ih _ _ (honours.step call) ran
      exact ⟨still, _, .ask _ _ ends, List.forall_mem_cons.mpr ⟨honours [] call, allowed⟩⟩
    · cases ran

end Target
end BeanHarvest
