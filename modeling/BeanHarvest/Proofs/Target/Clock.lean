import BeanHarvest.Proofs.Target.Assertions
import BeanHarvest.Target.Basic

/-! Sessions in time. Answers come one after the other, none before the one in front of it; a session
that goes by the clock ends at the time of the last one, so that its end is not before its beginning. -/
namespace BeanHarvest

namespace Session

variable {σ α β : Type} {now last : Nat} {final : σ} {result : α} {kept : σ → Prop}
  {session : Session σ α} {next : Nat → σ → α → Session σ β}

/-- Whether a session that goes on at some time can end at another one, in a state and with a result. -/
inductive EndsFrom {σ α : Type} : Session σ α → (now last : Nat) → σ → α → Prop where
  | done {now : Nat} (time : Nat) (state : σ) (result : α) :
      EndsFrom (done time state result) now time state result
  | ask {now time last : Nat} {state final : σ} {result : α} {call : Call}
      {next : Nat → call.Outcome → Session σ α} (later : now ≤ time) (outcome : call.Outcome)
      (rest : EndsFrom (next time outcome) time last final result) :
      EndsFrom (ask state call next) now last final result

/-- Whether a session that goes on at some time can be cut short in a state. -/
inductive StopsFrom {σ α : Type} : Session σ α → (now : Nat) → σ → Prop where
  | here {now : Nat} (state : σ) (call : Call) (next : Nat → call.Outcome → Session σ α) :
      StopsFrom (ask state call next) now state
  | later {now time : Nat} {state final : σ} {call : Call}
      {next : Nat → call.Outcome → Session σ α} (later : now ≤ time) (outcome : call.Outcome)
      (rest : StopsFrom (next time outcome) time final) :
      StopsFrom (ask state call next) now final

/-- Whether a session that goes on at some time can leave a state behind, ended or cut short. -/
inductive LeavesFrom {σ α : Type} : Session σ α → (now : Nat) → σ → Prop where
  | done {now : Nat} (time : Nat) (state : σ) (result : α) :
      LeavesFrom (done time state result) now state
  | here {now : Nat} (state : σ) (call : Call) (next : Nat → call.Outcome → Session σ α) :
      LeavesFrom (ask state call next) now state
  | later {now time : Nat} {state final : σ} {call : Call}
      {next : Nat → call.Outcome → Session σ α} (later : now ≤ time) (outcome : call.Outcome)
      (rest : LeavesFrom (next time outcome) time final) :
      LeavesFrom (ask state call next) now final

/-- Whether a session that goes on at some time goes by the clock: it ends when it was answered last; and
has a property of the state throughout. -/
def Clocked (kept : σ → Prop) : Session σ α → (now : Nat) → Prop
  | done time state _, now => time = now ∧ kept state
  | ask state _ next, _ => kept state ∧ ∀ time outcome, (next time outcome).Clocked kept time

theorem Clocked.keeps (clocked : session.Clocked kept now) : session.Keeps kept := by
  induction session generalizing now with
  | done time state result => exact clocked.2
  | ask state call next ih =>
    exact ⟨clocked.1, fun time outcome => ih time outcome (clocked.2 time outcome)⟩

theorem Clocked.andThen (first : session.Clocked kept now)
    (second : ∀ time state result, kept state → (next time state result).Clocked kept time) :
    (session.andThen next).Clocked kept now := by
  induction session generalizing now with
  | done time state result => exact first.1 ▸ second time state result first.2
  | ask state call rest ih => exact ⟨first.1, fun time outcome => ih time outcome (first.2 time outcome)⟩

theorem Clocked.imp {other : σ → Prop} (clocked : session.Clocked kept now)
    (implies : ∀ state, kept state → other state) : session.Clocked other now := by
  induction session generalizing now with
  | done time state result => exact ⟨clocked.1, implies state clocked.2⟩
  | ask state call next ih =>
    exact ⟨implies state clocked.1, fun time outcome => ih time outcome (clocked.2 time outcome)⟩

/-- The clock does not go back. -/
theorem EndsFrom.inv (ends : session.EndsFrom now last final result)
    (clocked : session.Clocked kept now) : now ≤ last ∧ kept final := by
  induction ends with
  | done time state result => exact ⟨Nat.le_of_eq clocked.1.symm, clocked.2⟩
  | ask later outcome rest ih =>
    obtain ⟨others, holds⟩ := ih (clocked.2 _ outcome)
    exact ⟨Nat.le_trans later others, holds⟩

theorem StopsFrom.inv (stops : session.StopsFrom now final)
    (clocked : session.Clocked kept now) : kept final := by
  induction stops with
  | here state call next => exact clocked.1
  | later _ outcome rest ih => exact ih (clocked.2 _ outcome)

theorem LeavesFrom.inv (leaves : session.LeavesFrom now final)
    (clocked : session.Clocked kept now) : kept final := by
  induction leaves with
  | done time state result => exact clocked.2
  | here state call next => exact clocked.1
  | later _ outcome rest ih => exact ih (clocked.2 _ outcome)

theorem EndsFrom.canEnd (ends : session.EndsFrom now last final result) :
    session.CanEnd final result := by
  induction ends with
  | done time state result => exact .done time state result
  | ask later outcome rest ih => exact .ask _ outcome ih

theorem EndsFrom.leaves (ends : session.EndsFrom now last final result) :
    session.LeavesFrom now final := by
  induction ends with
  | done time state result => exact .done time state result
  | ask later outcome rest ih => exact .later later outcome ih

/-- A state is left behind at a call or at the end. -/
theorem LeavesFrom.canStop_or_canEnd (leaves : session.LeavesFrom now final) :
    session.CanStop final ∨ ∃ result, session.CanEnd final result := by
  induction leaves with
  | done time state result => exact .inr ⟨result, .done time state result⟩
  | here state call next => exact .inl (.here state call next)
  | later _ outcome rest ih =>
    rcases ih with stops | ⟨result, ends⟩
    · exact .inl (.later _ outcome stops)
    · exact .inr ⟨result, .ask _ outcome ends⟩

/-- To make something else of the result leaves nothing else behind. -/
theorem LeavesFrom.of_done {change : σ → α → β}
    (leaves : (session.andThen fun time state result =>
      .done time state (change state result)).LeavesFrom now final) :
    session.LeavesFrom now final := by
  induction session generalizing now with
  | done time state result =>
    cases leaves
    exact .done ..
  | ask state call rest ih =>
    cases leaves with
    | here => exact .here ..
    | later later outcome leaves => exact .later later outcome (ih _ outcome leaves)

/-- One session after the other is left where the first one is cut short, or by the second one, which
goes on when the first one has ended. -/
theorem LeavesFrom.andThen_inv (leaves : (session.andThen next).LeavesFrom now final)
    (clocked : session.Clocked kept now) : session.StopsFrom now final ∨ ∃ last state result,
      session.EndsFrom now last state result ∧ (next last state result).LeavesFrom last final := by
  induction session generalizing now with
  | done time state result =>
    obtain ⟨rfl, _⟩ := clocked
    exact .inr ⟨time, state, result, .done .., leaves⟩
  | ask state call rest ih =>
    cases leaves with
    | here => exact .inl (.here ..)
    | later later outcome leaves =>
      rcases ih _ outcome leaves (clocked.2 _ outcome) with stops | ⟨last, state, result, ends, left⟩
      · exact .inl (.later later outcome stops)
      · exact .inr ⟨last, state, result, .ask later outcome ends, left⟩

end Session

namespace Target

variable {σ τ α : Type} {target : Target τ} {deadline : Option Nat} {world after : τ} {now last : Nat}
  {session : Session σ α} {final : σ} {result : α}

theorem endsFrom_of_run
    (ran : target.run deadline world now session = .ended last final after result) :
    session.EndsFrom now last final result := by
  induction session generalizing world now with
  | done time state value =>
    cases ran
    exact .done ..
  | ask state call next ih =>
    rw [run] at ran
    split at ran
    · exact .ask (Nat.le_add_right _ _) _ (ih _ _ ran)
    · cases ran

theorem leavesFrom_of_run (target : Target τ) (deadline : Option Nat) (world : τ) (now : Nat)
    (session : Session σ α) :
    session.LeavesFrom now (statesAfter (target.run deadline world now session)).1 := by
  induction session generalizing world now with
  | done time state value => exact .done ..
  | ask state call next ih =>
    rw [run]
    split
    · exact .later (Nat.le_add_right _ _) _ (ih _ _ _ _)
    · exact .here ..

end Target

namespace Operation

variable {σ α β : Type} {kept : σ → Prop}

/-- Whether a piece of work goes by the clock and, if it begins with a property of the state, has it
throughout. -/
def Clocked (kept : σ → Prop) (work : Operation σ α) : Prop :=
  ∀ time state, kept state → (work time state).Clocked kept time

theorem Clocked.keeps {work : Operation σ α} (clocked : work.Clocked kept) : work.Keeps kept :=
  fun time state holds => (clocked time state holds).keeps

theorem clocked_pure (result : α) : (pure result : Operation σ α).Clocked kept :=
  fun _ _ holds => ⟨rfl, holds⟩

theorem clocked_get : (get : Operation σ σ).Clocked kept := fun _ _ holds => ⟨rfl, holds⟩

theorem clocked_now : (now : Operation σ Nat).Clocked kept := fun _ _ holds => ⟨rfl, holds⟩

theorem clocked_modify {change : σ → σ} (steady : ∀ state, kept state → kept (change state)) :
    (modify change).Clocked kept := fun _ state holds => ⟨rfl, steady state holds⟩

theorem clocked_call (call : Call) : (Operation.call call : Operation σ call.Outcome).Clocked kept :=
  fun _ _ holds => ⟨holds, fun _ _ => ⟨rfl, holds⟩⟩

theorem clocked_hold (dialogue : Dialogue α) : (hold dialogue : Operation σ α).Clocked kept := by
  intro time state holds
  unfold hold
  induction dialogue generalizing time with
  | done result => exact ⟨rfl, holds⟩
  | ask call next ih => exact ⟨holds, fun time outcome => ih outcome time⟩

theorem Clocked.bind {first : Operation σ α} {next : α → Operation σ β} (clocked : first.Clocked kept)
    (rest : ∀ result, (next result).Clocked kept) : (first >>= next).Clocked kept :=
  fun time state holds =>
    (clocked time state holds).andThen fun time state result holds => rest result time state holds

end Operation
end BeanHarvest
