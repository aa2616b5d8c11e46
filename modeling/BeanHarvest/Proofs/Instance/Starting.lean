import BeanHarvest.Instance.Life
import BeanHarvest.Proofs.Target.Transcript

/-! Starting well: what an instance has to be answered to be started, and what it is like then. Finding
the beans replaces them as a whole and forgets which attributes were failing; matching replaces the
attributes as a whole. -/
namespace BeanHarvest.Instance

variable {one final : Instance} {answers : List Answer} {start last : Nat}

theorem connectedOr_of_connected {α : Type} {work : Operation Instance (Except InstanceFault α)}
    (connected : one.isConnected = true) (start : Nat) :
    connectedOr work start one = work start one := by
  have unfolded : connectedOr work start one =
      (if one.isConnected then work else pure (.error (.notInitialized one.name))) start one := rfl
  rw [unfolded, if_pos connected]

theorem connectedOr_of_unconnected {α : Type} {work : Operation Instance (Except InstanceFault α)}
    (unconnected : ¬ one.isConnected = true) (start : Nat) :
    connectedOr work start one = .done start one (.error (.notInitialized one.name)) := by
  have unfolded : connectedOr work start one =
      (if one.isConnected then work else pure (.error (.notInitialized one.name))) start one := rfl
  rw [unfolded, if_neg unconnected]
  rfl

theorem connected_of_ends {α : Type} {work : Operation Instance (Except InstanceFault α)}
    {result : α} (ends : (connectedOr work start one).Ends answers last final (.ok result)) :
    one.isConnected = true := by
  by_cases connected : one.isConnected = true
  · exact connected
  · rw [connectedOr_of_unconnected connected] at ends
    cases ends

theorem connect_ends (fresh : one.isConnected = false) (anew : Bool) (start time : Nat)
    (granted : Call.Outcome .connect) (well : granted = .ok ()) :
    (connect anew start one).Ends [⟨.connect, granted⟩] time
      { one with isConnected := true } (.ok ()) := by
  obtain ⟨settings, configurations, schedule, engine, isConnected⟩ := one
  cases fresh
  cases well
  exact .ask time _ (.done _ _ _)

/-- A connection changes nothing but that there is one. -/
theorem connect_inv {anew : Bool}
    (ends : (connect anew start one).Ends answers last final (.ok ())) :
    final = { one with isConnected := true } := by
  rw [connect, Operation.get_bind] at ends
  by_cases settled : (one.isConnected && !anew) = true
  · rw [if_pos settled] at ends
    obtain ⟨_, rfl, _⟩ := Operation.pure_ends_inv ends
    have connected : final.isConnected = true := (Bool.and_eq_true_iff.mp settled).1
    rw [← connected]
  · rw [if_neg settled, Operation.modify_bind] at ends
    split at ends
    case' isTrue =>
      obtain ⟨_, _, _, _, _, _, closed, ends⟩ := Operation.bind_ends_inv ends
      obtain ⟨_, rfl⟩ := Operation.call_ends_inv closed
    all_goals
      obtain ⟨_, _, _, _, granted, _, called, ends⟩ := Operation.bind_ends_inv ends
      obtain ⟨_, rfl⟩ := Operation.call_ends_inv called
      cases granted with
      | error fault => cases (Operation.pure_ends_inv ends).2.2
      | ok done =>
        obtain ⟨_, rfl, _⟩ := Operation.pure_ends_inv ends
        rfl

theorem refreshBeans_ends {beans : List Bean} (connected : one.isConnected = true)
    (found : (findBeans one.configurations).Ends answers (.ok beans)) (start : Nat) :
    ∃ now, (refreshBeans start one).Ends answers now (one.withBeans now beans) (.ok ()) := by
  obtain ⟨now, held⟩ := Operation.hold_ends found start one
  refine ⟨now, ?_⟩
  rw [refreshBeans, connectedOr_of_connected connected, ← List.append_nil answers]
  exact held.andThen (.done _ _ _)

/-- Beans are only replaced by what was found. -/
theorem refreshBeans_inv (ends : (refreshBeans start one).Ends answers last final (.ok ())) :
    one.isConnected = true ∧ ∃ now beans,
      (findBeans one.configurations).Ends answers (.ok beans) ∧ final = one.withBeans now beans := by
  have connected := connected_of_ends ends
  refine ⟨connected, ?_⟩
  rw [refreshBeans, connectedOr_of_connected connected, Operation.get_bind] at ends
  obtain ⟨before, _, now, _, result, rfl, held, ends⟩ := Operation.bind_ends_inv ends
  obtain ⟨rfl, found⟩ := Operation.hold_ends_inv held
  cases result with
  | error fault => cases ends
  | ok beans =>
    cases ends
    exact ⟨_, beans, by simpa using found, rfl⟩

theorem matchAttributes_ends {pass : MatchPass} {action : Action}
    (connected : one.isConnected = true)
    (passed : (MatchPass.overBeans (one.rules action) {} one.beans).Ends answers (.ok pass))
    (start : Nat) :
    ∃ last, (matchAttributes action start one).Ends answers last (one.withPass pass) (.ok ()) := by
  obtain ⟨last, held⟩ := Operation.hold_ends passed start one
  refine ⟨last, ?_⟩
  rw [matchAttributes, connectedOr_of_connected connected, ← List.append_nil answers]
  exact held.andThen (.done _ _ _)

theorem matchAttributes_inv {action : Action}
    (ends : (matchAttributes action start one).Ends answers last final (.ok ())) :
    one.isConnected = true ∧ ∃ pass,
      (MatchPass.overBeans (one.rules action) {} one.beans).Ends answers (.ok pass) ∧
        final = one.withPass pass := by
  have connected := connected_of_ends ends
  refine ⟨connected, ?_⟩
  rw [matchAttributes, connectedOr_of_connected connected, Operation.get_bind] at ends
  obtain ⟨before, _, _, _, result, rfl, held, ends⟩ := Operation.bind_ends_inv ends
  obtain ⟨rfl, passed⟩ := Operation.hold_ends_inv held
  cases result with
  | error fault => cases ends
  | ok pass =>
    cases ends
    exact ⟨pass, by simpa using passed, rfl⟩

theorem followed_ends {ε α β : Type} {first : Operation Instance (Except ε α)}
    {next : α → Operation Instance (Except ε β)} {others : List Answer} {middle : Nat}
    {between : Instance} {value : α} {result : Except ε β}
    (ends : (first start one).Ends answers middle between (.ok value))
    (rest : (next value middle between).Ends others last final result) :
    (followed first next start one).Ends (answers ++ others) last final result :=
  ends.andThen rest

theorem followed_inv {ε α β : Type} {first : Operation Instance (Except ε α)}
    {next : α → Operation Instance (Except ε β)} {result : β}
    (ends : (followed first next start one).Ends answers last final (.ok result)) :
    ∃ before after middle between value, answers = before ++ after ∧
      (first start one).Ends before middle between (.ok value) ∧
      (next value middle between).Ends after last final (.ok result) := by
  obtain ⟨before, after, middle, between, value, rfl, ended, ends⟩ := Operation.bind_ends_inv ends
  cases value with
  | error fault => cases ends
  | ok value => exact ⟨before, after, middle, between, value, rfl, ended, ends⟩

/-- Without configurations there is nothing to ask for. -/
theorem findBeans_nil : (findBeans []).Ends [] (.ok []) := by
  have scopes : scopes? [] = some [] := by
    simp only [scopes?, List.mapM_nil, Option.pure_def, Option.map_some, List.flatten_nil,
      sortedSet, List.mergeSort_nil]
    rfl
  have found : beanSet [] = [] := by
    simp only [beanSet, List.mergeSort_nil]
    rfl
  simp only [findBeans, scopes, query, Dialogue.andThen, Except.map, found]
  exact .done _

/-- The instance after a start in which beans were found at some time and a pass was made over them. -/
def startedWith (one : Instance) (now : Nat) (beans : List Bean) (pass : MatchPass) : Instance :=
  { (one.withBeans now beans).withPass pass with
    isConnected := true, phase := .ready, refreshedSinceStart := false }

/-- The instance after its beans were found anew at some time and a pass was made over them. -/
def refreshedWith (one : Instance) (now : Nat) (beans : List Bean) (pass : MatchPass) : Instance :=
  { (one.withBeans now beans).withPass pass with refreshedSinceStart := true }

variable {asked : List Answer} {beans : List Bean} {pass : MatchPass} {action : Action}
  {granted : Call.Outcome .connect}

/-- Whether with some of the answers beans are found, and with some a pass over them comes to something. -/
def Discovers (one : Instance) (answers : List Answer) (action : Action) (beans : List Bean)
    (pass : MatchPass) : Prop :=
  (∃ found, found ⊆ answers ∧ (findBeans one.configurations).Ends found (.ok beans)) ∧
    ∃ asked, asked ⊆ answers ∧
      (MatchPass.overBeans (one.rules action) {} beans).Ends asked (.ok pass)

/-- Further answers before or after make no difference. -/
theorem Discovers.mono (discovers : one.Discovers asked action beans pass) (part : asked ⊆ answers) :
    one.Discovers answers action beans pass := by
  obtain ⟨⟨found, among, isFound⟩, ⟨given, amongToo, passed⟩⟩ := discovers
  exact ⟨⟨found, List.Subset.trans among part, isFound⟩,
    ⟨given, List.Subset.trans amongToo part, passed⟩⟩

theorem start_inv {anew : Bool}
    (ends : (BeanHarvest.Instance.start action anew start one).Ends answers last final (.ok ())) :
    ∃ now beans pass, one.Discovers answers action beans pass ∧
      final = { one.startedWith now beans pass with phase := .connected } := by
  obtain ⟨_, behind, _, _, _, rfl, connected, ends⟩ := followed_inv ends
  cases connect_inv connected
  rw [Operation.modify_bind] at ends
  obtain ⟨_, _, _, _, _, rfl, refreshed, ends⟩ := followed_inv ends
  obtain ⟨_, now, beans, found, rfl⟩ := refreshBeans_inv refreshed
  rw [Operation.modify_bind] at ends
  obtain ⟨_, pass, passed, rfl⟩ := matchAttributes_inv ends
  have discovers : one.Discovers _ action beans pass :=
    ⟨⟨_, List.subset_append_left _ _, found⟩, ⟨_, List.subset_append_right _ _, passed⟩⟩
  exact ⟨now, beans, pass, discovers.mono (List.subset_append_right _ _), rfl⟩

/-- A start begins with nothing changed but where the instance is in its life. -/
theorem begun_eq (one : Instance) : ∃ phase,
    (if one.phase = .broken then { one with phase := .recovering } else one) =
      { one with phase } := by
  split
  · exact ⟨_, rfl⟩
  · exact ⟨_, rfl⟩

/-- An instance that is started has its beans and attributes replaced as a whole. -/
theorem init_inv {anew : Bool} (ends : (init action anew start one).Ends answers last final (.ok ())) :
    ∃ now beans pass, one.Discovers answers action beans pass ∧
      final = one.startedWith now beans pass := by
  rw [init, Operation.modify_bind] at ends
  obtain ⟨_, _, _, _, result, rfl, started, ends⟩ := Operation.bind_ends_inv ends
  cases result with
  | error fault => cases (Operation.pure_ends_inv ends).2.2
  | ok done =>
    obtain ⟨_, rfl, _⟩ := Operation.pure_ends_inv ends
    obtain ⟨phase, same⟩ := begun_eq one
    rw [same] at started
    obtain ⟨now, beans, pass, discovers, rfl⟩ := start_inv started
    exact ⟨now, beans, pass, discovers.mono (List.subset_append_left _ _), rfl⟩

theorem refresh_inv (ends : (refresh start one).Ends answers last final (.ok ())) :
    ∃ now beans pass, one.Discovers answers .collect beans pass ∧
      final = one.refreshedWith now beans pass := by
  obtain ⟨_, _, _, _, _, rfl, refreshed, ends⟩ := followed_inv ends
  obtain ⟨_, now, beans, found, rfl⟩ := refreshBeans_inv refreshed
  rw [Operation.modify_bind] at ends
  obtain ⟨_, pass, passed, rfl⟩ := matchAttributes_inv ends
  exact ⟨now, beans, pass, ⟨⟨_, List.subset_append_left _ _, found⟩,
    ⟨_, List.subset_append_right _ _, passed⟩⟩, rfl⟩

theorem start_ends (fresh : one.isConnected = false) (well : granted = .ok ())
    (found : (findBeans one.configurations).Ends answers (.ok beans))
    (passed : (MatchPass.overBeans (one.rules action) {} beans).Ends asked (.ok pass))
    (anew : Bool) (start : Nat) :
    ∃ now last, (BeanHarvest.Instance.start action anew start one).Ends
      (⟨.connect, granted⟩ :: (answers ++ asked)) last
      { one.startedWith now beans pass with phase := .connected } (.ok ()) := by
  let connected : Instance := { one with isConnected := true, phase := .connected }
  have found₂ : (findBeans connected.configurations).Ends answers (.ok beans) := found
  obtain ⟨now, refreshed⟩ := refreshBeans_ends rfl found₂ start
  let ready : Instance := { connected.withBeans now beans with refreshedSinceStart := false }
  have passed₂ : (MatchPass.overBeans (ready.rules action) {} ready.beans).Ends asked (.ok pass) :=
    passed
  obtain ⟨last, isMatched⟩ := matchAttributes_ends rfl passed₂ now
  refine ⟨now, last, ?_⟩
  exact followed_ends (connect_ends fresh anew start start granted well)
    (followed_ends refreshed isMatched)

/-- An instance is started by a connection, the answers with which its beans are found, and those with
which a pass over their attributes ends. -/
theorem init_ends (fresh : one.isConnected = false) (well : granted = .ok ())
    (found : (findBeans one.configurations).Ends answers (.ok beans))
    (passed : (MatchPass.overBeans (one.rules action) {} beans).Ends asked (.ok pass))
    (anew : Bool) (start : Nat) :
    ∃ now last, (init action anew start one).Ends (⟨.connect, granted⟩ :: (answers ++ asked)) last
      (one.startedWith now beans pass) (.ok ()) := by
  obtain ⟨phase, same⟩ := begun_eq one
  let begun : Instance := { one with phase }
  have fresh₂ : begun.isConnected = false := fresh
  obtain ⟨now, last, started⟩ := start_ends fresh₂ well found passed anew start
  refine ⟨now, last, ?_⟩
  rw [init, Operation.modify_bind, same, ← List.append_nil (_ :: _)]
  exact started.andThen (.done _ _ _)

end BeanHarvest.Instance
