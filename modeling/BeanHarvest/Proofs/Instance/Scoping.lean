import BeanHarvest.Proofs.Each
import BeanHarvest.Proofs.Filter.Selecting
import BeanHarvest.Proofs.Instance.Matching
import BeanHarvest.Proofs.Sorted

/-! Scopes narrow down what a target is asked for, and no more: a pass over the beans of the scopes
comes to the same as one over all beans, since the beans that are missing are selected by nothing. -/
namespace BeanHarvest

/-- Whether a target honors scopes: a bean is what its name says, there are no beans in a scope but
those that there are, and those among them that the scope stands for are in it. -/
structure Answers.HonorsScopes (answers : Answers) : Prop where
  named : ∀ bean ∈ answers (.query none), Bean.parse? bean.name = some bean
  among : ∀ scope, ∀ bean ∈ answers (.query (some scope)), bean ∈ answers (.query none)
  wide : ∀ scope, ∀ bean ∈ answers (.query none), bean.InScope scope →
    bean ∈ answers (.query (some scope))

namespace Instance

variable {configurations : List Configuration} {answers : Answers} {bean : Bean}

section
variable {beans some_beans : List Bean}

theorem beanSet_ascending (beans : List Bean) :
    (beanSet beans).Pairwise fun a b => a.name < b.name :=
  withoutRepeats_ascending (mergeSort_ascending (·.name) beans)

theorem mem_of_mem_beanSet (member : bean ∈ beanSet beans) : bean ∈ beans :=
  List.mem_mergeSort.mp ((withoutRepeats_sublist _ _).subset member)

/-- No bean is lost where a name has one bean. -/
theorem mem_beanSet (unique : ∀ a ∈ beans, ∀ b ∈ beans, a.name = b.name → a = b) :
    bean ∈ beanSet beans ↔ bean ∈ beans := by
  refine ⟨mem_of_mem_beanSet, fun member => ?_⟩
  have sorted : bean ∈ beans.mergeSort fun a b => a.name ≤ b.name := List.mem_mergeSort.mpr member
  obtain ⟨kept, present, same⟩ : ∃ kept ∈ beanSet beans, kept.name = bean.name :=
    key_mem_withoutRepeats sorted
  exact unique kept (mem_of_mem_beanSet present) bean member same ▸ present

/-- Beans whose names ascend stay as they are. -/
theorem beanSet_of_ascending (sorted : beans.Pairwise fun a b => a.name < b.name) :
    beanSet beans = beans := by
  have names : (beans.map (·.name)).Nodup := List.pairwise_map.mpr (sorted.imp ne_of_lt)
  exact eq_of_ascending (beanSet_ascending beans) sorted fun _ =>
    mem_beanSet fun _ first _ second same => List.inj_on_of_nodup_map names first second same

/-- A set of some beans is what is left of the set of all. -/
theorem beanSet_eq_filter (unique : ∀ a ∈ beans, ∀ b ∈ beans, a.name = b.name → a = b)
    (among : ∀ bean ∈ some_beans, bean ∈ beans) :
    beanSet some_beans = (beanSet beans).filter fun bean => bean ∈ some_beans := by
  refine eq_of_ascending (beanSet_ascending some_beans) ((beanSet_ascending beans).filter _) ?_
  intro bean
  rw [List.mem_filter, mem_beanSet unique, decide_eq_true_iff,
    mem_beanSet fun a first b second => unique a (among a first) b (among b second)]
  exact ⟨fun member => ⟨among bean member, member⟩, And.right⟩

end

def inScopes (configurations : List Configuration) (answers : Answers) : List Bean :=
  match scopes? configurations with
  | some scopes => scopes.flatMap fun scope => answers (.query (some scope))
  | none => answers (.query none)

theorem result_query (answers : Answers) (scopes : List String) :
    (query scopes).result answers.outcome =
      .ok (scopes.flatMap fun scope => answers (.query (some scope))) := by
  induction scopes with
  | nil => rfl
  | cons scope rest ih =>
    rw [query, Dialogue.result_ask]
    dsimp only
    rw [Dialogue.result_andThen, ih]
    rfl

theorem result_findBeans (answers : Answers) (configurations : List Configuration) :
    (findBeans configurations).result answers.outcome =
      .ok (beanSet (inScopes configurations answers)) := by
  unfold findBeans inScopes
  cases scopes? configurations with
  | none => rfl
  | some scopes =>
    dsimp only
    rw [Dialogue.result_andThen, result_query]
    rfl

/-- The scopes of a configuration are among those of all. -/
theorem scopes?_inv {scopes : List String} (narrowed : scopes? configurations = some scopes)
    {configuration : Configuration} (member : configuration ∈ configurations) :
    ∃ own, configuration.included.scopes? = some own ∧ ∀ scope ∈ own, scope ∈ scopes := by
  obtain ⟨all, each, rfl⟩ := Option.map_eq_some_iff.mp narrowed
  obtain ⟨own, present, same⟩ := mem_of_mapM each member
  refine ⟨own, same, fun scope member => ?_⟩
  exact mem_sortedSet.mpr (List.mem_flatten.mpr ⟨own, present, member⟩)

theorem selecting_inv {engine : Pattern.Engine} {className : Option String} {found : List BeanMatch}
    {one : BeanMatch}
    (selected : selecting engine configurations bean className = .ok found) (member : one ∈ found) :
    one.configuration ∈ configurations ∧
      one.configuration.matchBean engine bean className = .ok (some one.params) := by
  induction configurations generalizing found with
  | nil =>
    cases selected
    cases member
  | cons configuration rest ih =>
    unfold selecting at selected
    split at selected
    · cases selected
    · next own isMatched =>
      cases behind : selecting engine rest bean className with
      | error fault =>
        rw [behind] at selected
        cases selected
      | ok others =>
        rw [behind] at selected
        cases selected
        rcases List.mem_append.mp member with first | later
        · obtain ⟨params, same, rfl⟩ := Option.map_eq_some_iff.mp (Option.mem_toList.mp first)
          exact ⟨List.mem_cons_self, same ▸ isMatched⟩
        · obtain ⟨present, same⟩ := ih behind later
          exact ⟨List.mem_cons_of_mem _ present, same⟩

/-- A bean that is not in the scopes is selected by nothing. -/
theorem selecting_nil_of_not_inScopes (honors : answers.HonorsScopes)
    (present : bean ∈ answers (.query none)) (missing : bean ∉ inScopes configurations answers)
    {engine : Pattern.Engine} {className : Option String} {found : List BeanMatch}
    (selected : selecting engine configurations bean className = .ok found) : found = [] := by
  refine List.eq_nil_iff_forall_not_mem.mpr fun one member => missing ?_
  obtain ⟨configured, isMatched⟩ := selecting_inv selected member
  unfold inScopes
  split
  · next scopes narrowed =>
    obtain ⟨own, ownScopes, wanted⟩ := scopes?_inv narrowed configured
    obtain ⟨included, compiled, ofDomain, isIncluded⟩ := Configuration.matchBean_inv isMatched
    obtain ⟨scope, inOwn, inScope⟩ :=
      Filter.inScope_of_included compiled ofDomain isIncluded ownScopes
    exact List.mem_flatMap.mpr ⟨scope, wanted scope inOwn, honors.wide scope bean present inScope⟩
  · exact present

/-- What is found for some configurations is the rest of all beans. -/
theorem beanSet_inScopes (honors : answers.HonorsScopes) (configurations : List Configuration) :
    beanSet (inScopes configurations answers) =
      (beanSet (answers (.query none))).filter fun bean =>
        bean ∈ inScopes configurations answers := by
  refine beanSet_eq_filter (fun a first b second same => ?_) fun bean member => ?_
  · have parsed := (same ▸ honors.named a first).symm.trans (honors.named b second)
    exact Option.some.inj parsed
  · unfold inScopes at member
    split at member
    · obtain ⟨scope, _, present⟩ := List.mem_flatMap.mp member
      exact honors.among scope bean present
    · exact member

end Instance

/-- A pass that collects comes to the same without some beans that nothing selects. -/
theorem MatchPass.overBeans_filter {rules : MatchRules} {pass later : MatchPass}
    {answers : Answers} {beans : List Bean} (collects : rules.action = .collect)
    (keep : Bean → Bool)
    (idle : ∀ bean ∈ beans, keep bean = false → ∀ selecting,
      answers.selecting rules.engine rules.configurations bean = .ok selecting → selecting = [])
    (passed : (overBeans rules pass beans).result answers.outcome = .ok later) :
    (overBeans rules pass (beans.filter keep)).result answers.outcome = .ok later := by
  induction beans generalizing pass with
  | nil => exact passed
  | cons bean rest ih =>
    have idle_rest := fun other member => idle other (List.mem_cons_of_mem bean member)
    rw [result_overBeans_cons] at passed
    cases selected : answers.selecting rules.engine rules.configurations bean with
    | error fault =>
      rw [selected] at passed
      cases passed
    | ok selecting =>
      rw [selected] at passed
      dsimp only at passed
      cases kept : keep bean with
      | true =>
        rw [List.filter_cons_of_pos kept, result_overBeans_cons, selected]
        dsimp only
        split at passed
        · next nothing =>
          rw [if_pos nothing]
          exact ih idle_rest passed
        · next something =>
          rw [if_neg something]
          cases gone : (overAttributes rules bean selecting pass
              (answers (.attributes bean))).result answers.outcome with
          | error fault =>
            rw [gone] at passed
            cases passed
          | ok next =>
            rw [gone] at passed
            dsimp only at passed ⊢
            split at passed
            · next ended =>
              rw [if_pos ended]
              exact passed
            · next goes =>
              rw [if_neg goes]
              exact ih idle_rest passed
      | false =>
        -- To collect, a bean that nothing selects is passed by: the pass goes on as it was.
        have nothing : (selecting.isEmpty && !rules.action.listsUnmatched) = true := by
          rw [idle bean List.mem_cons_self kept selecting selected, collects]
          rfl
        rw [if_pos nothing] at passed
        rw [List.filter_cons_of_neg (by simp [kept])]
        exact ih idle_rest passed

namespace Instance

variable {one : Instance} {answers : Answers} {time : Nat}

/-- To find the beans is to have those in the scopes. -/
theorem finish_refreshBeans {α : Type} (connected : one.isConnected = true) (time : Nat)
    (next : Unit → Operation Instance (Except InstanceFault α)) :
    (followed refreshBeans next time one).finish answers.outcome time =
      (next () time (one.withBeans time (beanSet (inScopes one.configurations answers)))).finish
        answers.outcome time := by
  have opened : ∀ {β : Type} (work : Operation Instance (Except InstanceFault Unit))
      (later : Except InstanceFault Unit → Operation Instance β),
      (connectedOr work >>= later) time one = (work >>= later) time one := fun work later =>
    congrArg (Session.andThen · _) (connectedOr_of_connected connected time)
  rw [followed, refreshBeans, opened, Operation.bind_bind, Operation.get_bind, Operation.bind_bind,
    Operation.finish_hold_bind, result_findBeans]
  rfl

theorem overBeans_inScopes (honors : answers.HonorsScopes) {rules : MatchRules}
    {start pass : MatchPass} (collects : rules.action = .collect)
    (passed : (MatchPass.overBeans rules start (beanSet (answers (.query none)))).result
      answers.outcome = .ok pass) :
    (MatchPass.overBeans rules start (beanSet (inScopes rules.configurations answers))).result
      answers.outcome = .ok pass := by
  rw [beanSet_inScopes honors]
  refine MatchPass.overBeans_filter collects _ ?_ passed
  intro bean member missing selecting selected
  exact selecting_nil_of_not_inScopes honors (mem_of_mem_beanSet member)
    (of_decide_eq_false missing) selected

/-- Scopes lose nothing: if the attributes of all beans can be matched, then with the beans in the
scopes the same attributes are matched, in the same order, and the limit is reached or not alike; and
they can be matched wherever all patterns can be prepared. -/
theorem scopes_lose_nothing (one : Instance) (answers : Answers) (time : Nat)
    (connected : one.isConnected = true) (honors : answers.HonorsScopes) :
    let unscoped := one.withBeans time (beanSet (answers (.query none)))
    (∀ whole, (matchAttributes .collect time unscoped).finish answers.outcome time =
        (whole, .ok ()) →
      ∃ narrowed, (followed refreshBeans (fun _ => matchAttributes .collect) time one).finish
          answers.outcome time = (narrowed, .ok ()) ∧
        narrowed.matched = whole.matched ∧ narrowed.limitReached = whole.limitReached) ∧
    ((∀ configuration ∈ one.configurations,
        ∃ compiled, configuration.compile one.engine = .ok compiled) →
      ∃ whole, (matchAttributes .collect time unscoped).finish answers.outcome time =
        (whole, .ok ())) := by
  intro unscoped
  have connected₂ : unscoped.isConnected = true := connected
  constructor
  · intro whole finished
    rw [finish_matchAttributes connected₂] at finished
    split at finished
    · cases finished
    · next pass passed =>
      obtain ⟨rfl, _⟩ := Prod.mk.inj finished
      let inside := one.withBeans time (beanSet (inScopes one.configurations answers))
      have passed₂ : (MatchPass.overBeans (inside.rules .collect) {} inside.beans).result
          answers.outcome = .ok pass := overBeans_inScopes honors rfl passed
      have connected₃ : inside.isConnected = true := connected
      refine ⟨inside.withPass pass, ?_, rfl, rfl⟩
      rw [finish_refreshBeans connected, finish_matchAttributes connected₃, passed₂]
  · intro valid
    have faultless : unscoped.Faultless answers :=
      fun bean _ => Answers.faultless_of_compile valid bean
    obtain ⟨pass, finished, _⟩ := matchAttributes_gathers connected₂ faultless .collect time
    exact ⟨_, finished⟩

theorem machineAnswers_honors : machineAnswers.HonorsScopes where
  named := by decide
  among := fun _ _ member => (List.mem_filter.mp member).1
  wide := by
    intro scope bean present inScope
    refine List.mem_filter.mpr ⟨present, ?_⟩
    cases inScope with
    | byName => simp
    | byDomain pairs has =>
      have whole : (domainScope bean.domain pairs).toList = (bean.domain ++ ":").toList ++
          ((String.join (pairs.map parameterText)).toList ++ ['*']) := by
        simp [domainScope]
      have begins : (bean.domain ++ ":").toList.isPrefixOf (domainScope bean.domain pairs).toList =
          true := by
        rw [whole, List.isPrefixOf_iff_prefix]
        exact List.prefix_append _ _
      have ends : (domainScope bean.domain pairs).toList.getLast? = some '*' := by
        rw [whole, ← List.append_assoc, List.getLast?_concat]
      simp only [begins, ends, decide_true, Bool.and_true, Bool.or_true]

theorem machine_beans : beanSet (machineAnswers (.query none)) = [collections, disk] :=
  beanSet_of_ascending (by decide)

theorem scopes_lose_nothing_machine :
    let one := machine 1 [including "app" [] none, including "db" ["db:type=Pool"] none]
    one.isConnected = true ∧ machineAnswers.HonorsScopes ∧
      ∃ narrowed, (followed refreshBeans (fun _ => matchAttributes .collect) 0 one).finish
          machineAnswers.outcome 0 = (narrowed, .ok ()) ∧
        narrowed.limitReached = true := by
  intro one
  obtain ⟨same, _⟩ := scopes_lose_nothing one machineAnswers 0 rfl machineAnswers_honors
  rw [machine_beans] at same
  obtain ⟨narrowed, finished, _, limitReached⟩ := same _ rfl
  exact ⟨rfl, machineAnswers_honors, narrowed, finished, limitReached⟩

/-- A filter may fail at a bean that is in no scope: then the attributes of the beans in the scopes
are matched, but those of all beans cannot be. -/
theorem unscoped_fails_beside_scopes :
    let one := machine 2 [including "app" [] none, including "db" ["db:type=Pool"] (some "(?=x)")]
    let unscoped := one.withBeans 0 (beanSet (machineAnswers (.query none)))
    one.isConnected = true ∧ machineAnswers.HonorsScopes ∧ ∃ narrowed fault,
      (followed refreshBeans (fun _ => matchAttributes .collect) 0 one).finish
          machineAnswers.outcome 0 = (narrowed, .ok ()) ∧
        narrowed.matched.map (·.key) = ["app:type=Gc#Count", "app:type=Gc#Time"] ∧
      (matchAttributes .collect 0 unscoped).finish machineAnswers.outcome 0 =
          (unscoped, .error (.filter fault)) ∧
        unscoped.matched = [] := by
  intro one unscoped
  have scopes : scopes? one.configurations = some ["app:*", "db:type=Pool"] := by
    have sorted : sortedSet ["app:*", "db:type=Pool"] = ["app:*", "db:type=Pool"] :=
      sortedSet_of_ascending (by decide)
    exact congrArg some sorted
  have inside : beanSet (inScopes one.configurations machineAnswers) = [collections] := by
    have found : inScopes one.configurations machineAnswers = [collections] := by
      rw [inScopes, scopes]
      decide
    rw [found]
    exact beanSet_of_ascending (List.pairwise_singleton _ _)
  have all : unscoped = one.withBeans 0 [collections, disk] := by rw [← machine_beans]
  rw [finish_refreshBeans rfl, inside, all]
  exact ⟨rfl, machineAnswers_honors, _, .unsupported "(?=x)" .positiveLookahead, rfl, rfl, rfl, rfl⟩

end Instance
end BeanHarvest
