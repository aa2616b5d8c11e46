import BeanHarvest.Target.Session

/-! Assertions about sessions: what holds of the state at every call that can be reached, and of state
and result at every end, whatever the target answers and however long it takes. -/
namespace BeanHarvest

namespace Session

variable {σ α β : Type}

/-- `atCall` holds of the state at every call, `atEnd` of state and result at every end. -/
def Meets (atCall : σ → Prop) (atEnd : σ → α → Prop) : Session σ α → Prop
  | done _ state result => atEnd state result
  | ask state _ next => atCall state ∧ ∀ time outcome, (next time outcome).Meets atCall atEnd

/-- A property of the state holds throughout. -/
abbrev Keeps (kept : σ → Prop) (session : Session σ α) : Prop :=
  session.Meets kept fun state _ => kept state

variable {atCall : σ → Prop} {atEnd : σ → α → Prop} {session : Session σ α} {final : σ} {result : α}

theorem CanEnd.meets (ends : session.CanEnd final result) (met : session.Meets atCall atEnd) :
    atEnd final result := by
  induction ends with
  | done time state result => exact met
  | ask time outcome rest ih => exact ih (met.2 time outcome)

theorem CanStop.meets (stops : session.CanStop final) (met : session.Meets atCall atEnd) :
    atCall final := by
  induction stops with
  | here state call next => exact met.1
  | later time outcome rest ih => exact ih (met.2 time outcome)

theorem Meets.imp {other : σ → α → Prop} (met : session.Meets atCall atEnd)
    (implies : ∀ state result, atEnd state result → other state result) :
    session.Meets atCall other := by
  induction session with
  | done time state result => exact implies state result met
  | ask state call next ih => exact ⟨met.1, fun time outcome => ih time outcome (met.2 time outcome)⟩

theorem Meets.and {otherEnd : σ → α → Prop} (first : session.Meets atCall atEnd)
    (second : session.Meets (fun _ => True) otherEnd) :
    session.Meets atCall fun state result => atEnd state result ∧ otherEnd state result := by
  induction session with
  | done time state result => exact ⟨first, second⟩
  | ask state call next ih =>
    exact ⟨first.1, fun time outcome => ih time outcome (first.2 time outcome) (second.2 time outcome)⟩

/-- What holds at the end of a first session has to be enough for the second. -/
theorem Meets.andThen {between : σ → α → Prop} {atEnd : σ → β → Prop}
    {next : Nat → σ → α → Session σ β} (first : session.Meets atCall between)
    (second : ∀ time state result, between state result →
      (next time state result).Meets atCall atEnd) :
    (session.andThen next).Meets atCall atEnd := by
  induction session with
  | done time state result => exact second time state result first
  | ask state call rest ih => exact ⟨first.1, fun time outcome => ih time outcome (first.2 time outcome)⟩

/-- A first session is of no interest if all that follows comes to the same. -/
theorem meets_andThen {atEnd : σ → β → Prop} {next : Nat → σ → α → Session σ β}
    (rest : ∀ time state result, (next time state result).Meets (fun _ => True) atEnd) :
    (session.andThen next).Meets (fun _ => True) atEnd := by
  induction session with
  | done time state result => exact rest time state result
  | ask state call following ih => exact ⟨trivial, fun time outcome => ih time outcome⟩

end Session

namespace Operation

variable {σ α β : Type} {kept : σ → Prop}

/-- A piece of work that begins with a property of the state has it throughout. -/
def Keeps (kept : σ → Prop) (work : Operation σ α) : Prop :=
  ∀ time state, kept state → (work time state).Keeps kept

theorem keeps_pure (result : α) : (pure result : Operation σ α).Keeps kept :=
  fun _ _ holds => holds

theorem keeps_get : (get : Operation σ σ).Keeps kept := fun _ _ holds => holds

theorem Keeps.bind {first : Operation σ α} {next : α → Operation σ β} (kept₁ : first.Keeps kept)
    (kept₂ : ∀ result, (next result).Keeps kept) : (first >>= next).Keeps kept :=
  fun time state holds =>
    (kept₁ time state holds).andThen fun time state result holds => kept₂ result time state holds

end Operation
end BeanHarvest
