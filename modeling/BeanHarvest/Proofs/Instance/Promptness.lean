import BeanHarvest.Proofs.Instance.Atomicity
import BeanHarvest.Proofs.Instance.Readings
import BeanHarvest.Proofs.Target.Prompt

/-! An instance against a prompt target. Its beans are always found, and every matched attribute is read;
all that can fail is a filter, when attributes are matched. -/
namespace BeanHarvest.Instance

variable {one final : Instance} {answers : List Answer} {now : Nat}

theorem query_well (scopes : List String) :
    (query scopes).YieldsUnder .flawless fun found => found.isOk = true := by
  induction scopes with
  | nil => exact rfl
  | cons scope rest ih =>
    intro outcome well
    cases outcome with
    | error fault => cases well
    | ok beans =>
      refine Dialogue.YieldsUnder.andThen ih fun others isOk => ?_
      cases others with
      | error fault => cases isOk
      | ok others => exact rfl

theorem findBeans_well (configurations : List Configuration) :
    (findBeans configurations).YieldsUnder .flawless fun found => found.isOk = true := by
  have sorted : ∀ found : Except ConnectionFault (List Bean), found.isOk = true →
      (Dialogue.done (found.map beanSet)).YieldsUnder .flawless fun found => found.isOk = true := by
    intro found isOk
    cases found with
    | error fault => cases isOk
    | ok beans => exact rfl
  unfold findBeans
  cases scopes? configurations with
  | none => exact fun outcome well => sorted outcome well
  | some scopes => exact (query_well scopes).andThen sorted

theorem connect_well (anew : Bool) : (connect anew now one).MeetsUnder .flawless (fun _ => True)
    fun _ result => result.isOk = true := by
  rw [connect, Operation.get_bind]
  split
  · exact rfl
  · rw [Operation.modify_bind]
    split
    case' isTrue => refine ⟨trivial, fun time outcome _ => ?_⟩
    all_goals
      refine ⟨trivial, fun time outcome well => ?_⟩
      cases outcome with
      | error fault => cases well
      | ok done => exact rfl

theorem connect_atOnce {anew : Bool} {result : Except InstanceFault Unit}
    (ends : (connect anew now one).EndsAtOnce now answers final result) :
    final = { one with isConnected := true } ∧ result = .ok () := by
  have well := ends.ends.meetsUnder ends.allowed (connect_well anew)
  cases result with
  | error fault => cases well
  | ok done => exact ⟨connect_inv ends.ends, rfl⟩

theorem refreshBeans_atOnce {result : Except InstanceFault Unit} (connected : one.isConnected = true)
    (ends : (refreshBeans now one).EndsAtOnce now answers final result) :
    ∃ beans, (findBeans one.configurations).Ends answers (.ok beans) ∧
      final = one.withBeans now beans ∧ result = .ok () := by
  have allowed := ends.allowed
  rw [refreshBeans, connectedOr_of_connected connected, Operation.get_bind] at ends
  obtain ⟨before, after, value, rfl, found, rest⟩ := Operation.atOnce_hold_inv ends
  have well := found.of_yieldsUnder (fun given member => allowed given (List.mem_append_left _ member))
    (findBeans_well _)
  cases value with
  | error fault => cases well
  | ok beans =>
    cases rest
    rw [List.append_nil]
    exact ⟨beans, found, rfl, rfl⟩

/-- Only a filter can keep attributes from being matched. -/
theorem matchAttributes_atOnce {action : Action} {result : Except InstanceFault Unit}
    (connected : one.isConnected = true)
    (ends : (matchAttributes action now one).EndsAtOnce now answers final result) :
    (result = .ok () ∧ ∃ pass,
        (MatchPass.overBeans (one.rules action) {} one.beans).Ends answers (.ok pass) ∧
        final = one.withPass pass) ∨
      ∃ cause, result = .error (.filter cause) ∧ final = one := by
  cases result with
  | ok done =>
    obtain ⟨_, pass, passed, same⟩ := matchAttributes_inv ends.ends
    exact .inl ⟨rfl, pass, passed, same⟩
  | error fault =>
    obtain ⟨same, fails⟩ := matchAttributes_error ends.ends
    cases fails with
    | unconnected never => cases connected.symm.trans never
    | unreachable isLast isFatal first =>
      have well := ends.allowed _ (isLast ▸ List.mem_append_right _ List.mem_cons_self)
      cases well
    | filter reached raised => exact .inr ⟨_, rfl, same⟩

/-- A refresh finds the beans; then their attributes are matched, or a filter fails. -/
theorem refresh_atOnce {result : Except InstanceFault Unit} (connected : one.isConnected = true)
    (ends : (refresh now one).EndsAtOnce now answers final result) :
    ∃ found asked beans, answers = found ++ asked ∧
      (findBeans one.configurations).Ends found (.ok beans) ∧
      ((result = .ok () ∧ ∃ pass,
          (MatchPass.overBeans (one.rules .collect) {} beans).Ends asked (.ok pass) ∧
          final = one.refreshedWith now beans pass) ∨
        ∃ cause, result = .error (.filter cause) ∧
          final = { one.withBeans now beans with refreshedSinceStart := true }) := by
  have clocked := refreshBeans_clocked now one (rfl : LastBegan one.lastCollection one)
  rw [refresh_eq] at ends
  obtain ⟨found, asked, _, _, rfl, refreshed, rest⟩ := ends.andThen_inv clocked
  obtain ⟨beans, isFound, rfl, rfl⟩ := refreshBeans_atOnce connected refreshed
  refine ⟨found, asked, beans, rfl, isFound, ?_⟩
  have connected₂ :
      ({ one.withBeans now beans with refreshedSinceStart := true } : Instance).isConnected = true :=
    connected
  rcases matchAttributes_atOnce connected₂ rest with ⟨well, pass, passed, same⟩ | failed
  · exact .inl ⟨well, pass, passed, same⟩
  · exact .inr failed

/-- Every matched attribute is read, and metrics come of it. -/
theorem collectMatched_atOnce {result : Except InstanceFault (List Metric)}
    (ends : (collectMatched now one).EndsAtOnce now answers final result) :
    ∃ attempts : List Attempt, attempts.map (·.bound) = one.matched ∧
      attempts.map (·.answer) = answers ∧ result = .ok (attempts.flatMap (·.metrics)) ∧
      final = one.collectedWith now (attempts.map (·.reading)) := by
  have allowed := ends.allowed
  obtain ⟨attempts, between, rfl, goes, rfl⟩ := collectMatched_goes ends.ends
  generalize placed : one.matched = list at goes
  cases goes with
  | through attempts mild => exact ⟨attempts, rfl, rfl, rfl, rfl⟩
  | @breaksOff attempts mild last cause outcome fatal rest =>
    have asked : last.answer ∈ (attempts ++ [last]).map (·.answer) :=
      List.mem_map_of_mem (List.mem_append_right _ List.mem_cons_self)
    have well : last.outcome.isOk = true := allowed _ asked
    rw [outcome] at well
    cases well

/-- A start replaces the beans; whether the attributes are replaced as well is up to the filters. -/
theorem start_atOnce {anew : Bool} {result : Except InstanceFault Unit}
    (ends : (BeanHarvest.Instance.start .collect anew now one).EndsAtOnce now answers final result) :
    ∃ beans, (result = .ok () ∧ ∃ pass, one.Discovers answers .collect beans pass ∧
        final = { one.startedWith now beans pass with phase := .connected }) ∨
      ∃ cause, result = .error (.filter cause) ∧
        final = { one.withBeans now beans with
          isConnected := true, phase := .connected, refreshedSinceStart := false } := by
  have clocked := connect_clocked anew now one (rfl : LastBegan one.lastCollection one)
  rw [BeanHarvest.Instance.start, followed_eq] at ends
  obtain ⟨before, after, _, _, rfl, connects, rest⟩ := ends.andThen_inv clocked
  obtain ⟨rfl, rfl⟩ := connect_atOnce connects
  let connected : Instance := { one with isConnected := true, phase := .connected }
  have clocked₂ := refreshBeans_clocked now connected (rfl : LastBegan connected.lastCollection connected)
  dsimp only at rest
  rw [Operation.modify_bind, followed_eq] at rest
  obtain ⟨found, asked, _, _, rfl, refreshed, rest⟩ := rest.andThen_inv clocked₂
  obtain ⟨beans, isFound, rfl, rfl⟩ := refreshBeans_atOnce rfl refreshed
  dsimp only at rest
  rw [Operation.modify_bind] at rest
  refine ⟨beans, ?_⟩
  rcases matchAttributes_atOnce rfl rest with ⟨well, pass, passed, same⟩ | failed
  · have discovers : one.Discovers (before ++ (found ++ asked)) .collect beans pass :=
      ⟨⟨found, by simp, isFound⟩, ⟨asked, by simp, passed⟩⟩
    exact .inl ⟨well, pass, discovers, same⟩
  · exact .inr failed

theorem init_atOnce {anew : Bool} {result : Except InstanceFault Unit}
    (ends : (init .collect anew now one).EndsAtOnce now answers final result) :
    ∃ beans, (result = .ok () ∧ ∃ pass, one.Discovers answers .collect beans pass ∧
        final = one.startedWith now beans pass) ∨
      ∃ cause, result = .error (.filter cause) ∧
        final = { one.withBeans now beans with
          isConnected := true, phase := .broken, refreshedSinceStart := false } := by
  obtain ⟨phase, same⟩ := begun_eq one
  let begun : Instance := { one with phase }
  have clocked := start_clocked .collect anew now begun (rfl : LastBegan begun.lastCollection begun)
  rw [init, Operation.modify_bind, same] at ends
  obtain ⟨before, after, _, _, rfl, started, rest⟩ := ends.andThen_inv clocked
  obtain ⟨beans, ⟨rfl, pass, discovers, rfl⟩ | ⟨cause, rfl, rfl⟩⟩ := start_atOnce started
  · cases rest
    rw [List.append_nil]
    exact ⟨beans, .inl ⟨rfl, pass, discovers, rfl⟩⟩
  · cases rest
    exact ⟨beans, .inr ⟨cause, rfl, rfl⟩⟩

theorem collect_clocked : collect.Clocked fun _ => True := by
  refine .connectedOr (Operation.Clocked.followed ?_ fun _ => ?_)
  · intro time one _
    exact (refreshIfDue_clocked time one (rfl : LastBegan one.lastCollection one)).imp
      fun _ _ => trivial
  · intro time one _
    exact (collectMatched_clocked time one).imp fun _ _ => trivial

/-- The instance behind a collection for which the beans were found anew and their attributes matched. -/
theorem collect_due_atOnce {result : Except InstanceFault (List Metric)}
    (connected : one.isConnected = true) (due : one.refreshDue now = true)
    (ends : (collect now one).EndsAtOnce now answers final result) :
    ∃ found rest beans, answers = found ++ rest ∧
      (findBeans one.configurations).Ends found (.ok beans) ∧
      ((∃ pass, ∃ attempts : List Attempt, one.Discovers answers .collect beans pass ∧
          attempts.map (·.bound) = pass.matched ∧ (∀ attempt ∈ attempts, attempt.answer ∈ answers) ∧
          result = .ok (attempts.flatMap (·.metrics)) ∧
          final = (one.refreshedWith now beans pass).collectedWith now (attempts.map (·.reading))) ∨
        ∃ cause, result = .error (.filter cause) ∧ final =
          { one.withBeans now beans with refreshedSinceStart := true, phase := .broken }) := by
  have clocked := refresh_clocked now one (rfl : LastBegan one.lastCollection one)
  rw [collect_due connected due] at ends
  obtain ⟨before, after, _, _, rfl, refreshed, rest⟩ := ends.andThen_inv clocked
  obtain ⟨found, asked, beans, rfl, isFound, ⟨rfl, pass, passed, rfl⟩ | ⟨cause, rfl, rfl⟩⟩ :=
    refresh_atOnce connected refreshed
  · obtain ⟨attempts, bounds, rfl, rfl, rfl⟩ := collectMatched_atOnce rest
    refine ⟨found, asked ++ attempts.map (·.answer), beans, List.append_assoc .., isFound, .inl
      ⟨pass, attempts, ⟨⟨found, by simp, isFound⟩, ⟨asked, ?_, passed⟩⟩, bounds, ?_, rfl, rfl⟩⟩
    · exact List.Subset.trans (List.subset_append_right _ _) (List.subset_append_left _ _)
    · exact fun attempt member => List.mem_append_right _ (List.mem_map_of_mem member)
  · cases rest
    exact ⟨found, asked, beans, List.append_nil _, isFound, .inr ⟨cause, rfl, rfl⟩⟩

end BeanHarvest.Instance
