import BeanHarvest.Proofs.Instance.Lockstep
import BeanHarvest.Proofs.Instance.Recovering
import BeanHarvest.Proofs.Target.Repeating

/-! Instances whose targets answer alike each time. What a start of an unconnected instance comes to is
then told by the answers and by what the instance is made of, but for the time at which the beans were
found. An instance that was closed after it had listed its attributes starts as if it had never done so:
what a listing leaves behind is overwritten by the next start, or the next start gets no further. -/
namespace BeanHarvest.Instance

variable {one final other : Instance} {action : Action} {answer : (call : Call) → call.Outcome}
  {answers : List Answer} {time : Nat}

theorem connect_comesTo (anew : Bool) (fresh : one.isConnected = false) :
    (connect anew time one).ComesTo answer fun final result =>
      (final, result) = match answer .connect with
        | .error fault => (one, .error (.connection fault))
        | .ok () => ({ one with isConnected := true }, .ok ()) := by
  rw [connect_asks anew time fresh]
  refine ⟨trivial, fun time outcome same => ?_⟩
  have same : outcome = answer .connect := same
  rw [← same]
  cases outcome <;> rfl

theorem refreshBeans_comesTo (connected : one.isConnected = true) :
    (refreshBeans time one).ComesTo answer fun final result => ∃ now,
      (final, result) = match (findBeans one.configurations).result answer with
        | .error fault => (one, .error (.connection fault))
        | .ok beans => (one.withBeans now beans, .ok ()) := by
  rw [refreshBeans, connectedOr_of_connected connected, Operation.get_bind]
  refine Operation.comesTo_hold _ fun time => ?_
  cases (findBeans one.configurations).result answer with
  | error fault => exact ⟨0, rfl⟩
  | ok beans => exact ⟨time, rfl⟩

theorem matchAttributes_comesTo (action : Action) (connected : one.isConnected = true) :
    (matchAttributes action time one).ComesTo answer fun final result =>
      (final, result) =
        match (MatchPass.overBeans (one.rules action) {} one.beans).result answer with
        | .error fault => (one, .error fault)
        | .ok pass => (one.withPass pass, .ok ()) := by
  rw [matchAttributes, connectedOr_of_connected connected, Operation.get_bind]
  refine Operation.comesTo_hold _ fun time => ?_
  cases (MatchPass.overBeans (one.rules action) {} one.beans).result answer <;> exact rfl

/-- What a start of an unconnected instance comes to, where its beans are found at some time. -/
def startBy (answer : (call : Call) → call.Outcome) (action : Action) (now : Nat) (one : Instance) :
    Instance × Except InstanceFault Unit :=
  match answer .connect with
  | .error fault => (one, .error (.connection fault))
  | .ok () =>
    let connected : Instance := { one with isConnected := true, phase := .connected }
    match (findBeans one.configurations).result answer with
    | .error fault => (connected, .error (.connection fault))
    | .ok beans =>
      let found : Instance := { connected.withBeans now beans with refreshedSinceStart := false }
      match (MatchPass.overBeans (one.rules action) {} beans).result answer with
      | .error fault => (found, .error fault)
      | .ok pass => (found.withPass pass, .ok ())

/-- The same, where the instance is ready afterwards or broken. -/
def initBy (answer : (call : Call) → call.Outcome) (action : Action) (now : Nat) (one : Instance) :
    Instance × Except InstanceFault Unit :=
  match one.startBy answer action now with
  | (started, .ok ()) => ({ started with phase := .ready }, .ok ())
  | (started, .error fault) => (started.markBroken, .error fault)

theorem start_comesTo (action : Action) (anew : Bool) (fresh : one.isConnected = false) :
    (start action anew time one).ComesTo answer fun final result =>
      ∃ now, (final, result) = one.startBy answer action now := by
  have connects : (connect anew time one).ComesTo answer _ := connect_comesTo anew fresh
  unfold startBy
  cases granted : answer .connect with
  | error fault =>
    rw [granted] at connects
    refine connects.andThen ?_
    rintro time _ _ ⟨⟩
    exact ⟨0, rfl⟩
  | ok done =>
    rw [granted] at connects
    refine connects.andThen ?_
    rintro time _ _ ⟨⟩
    let connected : Instance := { one with isConnected := true, phase := .connected }
    have finds : (refreshBeans time connected).ComesTo answer _ := refreshBeans_comesTo rfl
    cases isFound : (findBeans one.configurations).result answer with
    | error fault =>
      rw [isFound] at finds
      refine finds.andThen ?_
      rintro time _ _ ⟨now, ⟨⟩⟩
      exact ⟨0, rfl⟩
    | ok beans =>
      rw [isFound] at finds
      refine finds.andThen ?_
      rintro time _ _ ⟨now, ⟨⟩⟩
      let found : Instance := { connected.withBeans now beans with refreshedSinceStart := false }
      have passes : (matchAttributes action time found).ComesTo answer _ :=
        matchAttributes_comesTo action rfl
      exact passes.imp fun state result same => ⟨now, same⟩

/-- Where the instance is in its life makes no difference. -/
theorem initBy_phase (action : Action) (now : Nat) (phase : Phase) (one : Instance) :
    { one with phase }.initBy answer action now = one.initBy answer action now := by
  unfold initBy startBy
  have rules : { one with phase }.rules action = one.rules action := rfl
  rw [rules]
  dsimp only
  cases answer .connect with
  | error fault => rfl
  | ok done => rfl

theorem init_comesTo (action : Action) (anew : Bool) (fresh : one.isConnected = false) :
    (init action anew time one).ComesTo answer fun final result =>
      ∃ now, (final, result) = one.initBy answer action now := by
  obtain ⟨phase, same⟩ := begun_eq one
  let begun : Instance := { one with phase }
  have fresh₂ : begun.isConnected = false := fresh
  rw [init, Operation.modify_bind, same]
  refine (start_comesTo action anew fresh₂).andThen ?_
  rintro time state result ⟨now, same⟩
  have whole : begun.initBy answer action now = one.initBy answer action now := initBy_phase ..
  rw [initBy, ← same] at whole
  cases result with
  | ok done => exact ⟨now, whole⟩
  | error fault => exact ⟨now, whole⟩

/-- The instance without its connection, and without what was found through it. -/
def closed (one : Instance) : Instance := { one.cleared with isConnected := false }

theorem cleanUp_closes {promise : Promise} :
    (cleanUp time one).MeetsUnder promise (fun _ => True) fun final _ => final = one.closed := by
  rw [cleanUp, Operation.get_bind, Operation.modify_bind]
  split
  · exact ⟨trivial, fun time outcome _ => rfl⟩
  · exact rfl

/-- Whether an instance has no connection, and nothing that was found through one. -/
def Closed (one : Instance) : Prop := one.closed = one

theorem closed_isClosed (one : Instance) : one.closed.Closed := rfl

theorem Closed.unconnected (isClosed : one.Closed) : one.isConnected = false := by
  rw [← isClosed]
  rfl

theorem ofSettings_closed (engine : Pattern.Engine) (settings : Settings)
    (given : InstanceSettings) :
    (ofSettings engine settings given).Closed := rfl

/-- What an instance has to list when its attributes are matched. -/
def toldBy (answer : (call : Call) → call.Outcome) (action : Action) (one : Instance) :
    Except InstanceFault MatchReport :=
  (one.initBy answer action 0).2.map fun _ => (one.initBy answer action 0).1.report

/-- The instance once it was closed after that. -/
def visitedBy (answer : (call : Call) → call.Outcome) (action : Action) (one : Instance) : Instance :=
  (one.initBy answer action 0).1.closed

/-- The instance, told no more of the time at which its beans were found than whether they were. -/
def undated (one : Instance) : Instance := { one with lastRefresh := one.lastRefresh.map fun _ => 0 }

/-- The time at which the beans are found is all that a start depends on besides. -/
theorem initBy_undated (one : Instance) (answer : (call : Call) → call.Outcome) (action : Action)
    (now : Nat) :
    (one.initBy answer action now).1.undated = (one.initBy answer action 0).1.undated ∧
      (one.initBy answer action now).1.report = (one.initBy answer action 0).1.report ∧
      (one.initBy answer action now).1.closed = (one.initBy answer action 0).1.closed ∧
      (one.initBy answer action now).2 = (one.initBy answer action 0).2 := by
  unfold initBy startBy
  cases answer .connect with
  | error fault => exact ⟨rfl, rfl, rfl, rfl⟩
  | ok done =>
    dsimp only
    cases (findBeans one.configurations).result answer with
    | error fault => exact ⟨rfl, rfl, rfl, rfl⟩
    | ok beans =>
      dsimp only
      cases (MatchPass.overBeans (one.rules action) {} beans).result answer with
      | error fault => exact ⟨rfl, rfl, rfl, rfl⟩
      | ok pass => exact ⟨rfl, rfl, rfl, rfl⟩

/-- Instances that are made of the same have the same to list. -/
theorem toldBy_of_origin (same : other.origin = one.origin) (action : Action) :
    other.toldBy answer action = one.toldBy answer action := by
  have configurations : other.configurations = one.configurations := congrArg (·.configurations) same
  have rules : other.origin.rules action = one.origin.rules action := by rw [same]
  have rules : other.rules action = one.rules action := rules
  unfold toldBy initBy startBy
  cases answer .connect with
  | error fault => rfl
  | ok done =>
    dsimp only
    rw [configurations, rules]
    cases (findBeans one.configurations).result answer with
    | error fault => rfl
    | ok beans =>
      dsimp only
      cases (MatchPass.overBeans (one.rules action) {} beans).result answer <;> rfl

/-- If the attributes can be matched for some action, they can be matched to be collected. -/
theorem collects_of_lists {beans : List Bean} {pass : MatchPass}
    (well : (MatchPass.overBeans (one.rules action) {} beans).result answer = .ok pass) :
    ∃ other, (MatchPass.overBeans (one.rules .collect) {} beans).result answer = .ok other := by
  by_cases collects : action = .collect
  · rw [collects] at well
    exact ⟨pass, well⟩
  · have follows : MatchPass.Follows (one.rules .collect) action .collect fun _ _ => True :=
      ⟨collects, nofun, fun _ _ _ => trivial, fun _ _ _ _ _ => trivial⟩
    have going : ¬ ({} : MatchPass).isOver .collect = true := by decide
    obtain ⟨other, passed, _⟩ := follows.overBeans trivial going well
    exact ⟨other, passed⟩

/-- A closed instance that has listed its attributes and was closed again starts as it would have done
without that. -/
theorem initBy_visitedBy (isClosed : one.Closed) (answer : (call : Call) → call.Outcome)
    (action : Action) (now : Nat) :
    (one.visitedBy answer action).initBy answer .collect now = one.initBy answer .collect now := by
  -- What the listing leaves is told by how far it gets.
  cases granted : answer .connect with
  | error fault =>
    have unchanged : one.visitedBy answer action = one.closed := by
      simp only [visitedBy, initBy, startBy, granted]
      rfl
    rw [unchanged, isClosed]
  | ok done =>
    cases isFound : (findBeans one.configurations).result answer with
    | error fault =>
      have unchanged : one.visitedBy answer action = one.closed := by
        simp only [visitedBy, initBy, startBy, granted, isFound]
        rfl
      rw [unchanged, isClosed]
    | ok beans =>
      cases passed : (MatchPass.overBeans (one.rules action) {} beans).result answer with
      | error fault =>
        have left : one.visitedBy answer action = { one.closed with refreshedSinceStart := false } := by
          simp only [visitedBy, initBy, startBy, granted, isFound, passed]
          rfl
        have rules : { one with refreshedSinceStart := false }.rules .collect = one.rules .collect := rfl
        rw [left, isClosed, initBy, initBy]
        simp only [startBy, granted, isFound, rules]
        rfl
      | ok pass =>
        obtain ⟨other, collected⟩ := collects_of_lists passed
        have left : one.visitedBy answer action = { one.closed with
            refreshedSinceStart := false
            limitReached := pass.report.limitReached
            report := pass.report } := by
          simp only [visitedBy, initBy, startBy, granted, isFound, passed]
          rfl
        have rules : { one with
            refreshedSinceStart := false
            limitReached := pass.report.limitReached
            report := pass.report }.rules .collect = one.rules .collect := rfl
        rw [left, isClosed, initBy, initBy]
        simp only [startBy, granted, isFound, rules, collected]
        rfl

end BeanHarvest.Instance
