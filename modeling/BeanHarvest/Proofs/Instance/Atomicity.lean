import BeanHarvest.Proofs.Instance.Eviction
import BeanHarvest.Proofs.Instance.Stamps
import BeanHarvest.Proofs.Target.Answers
import BeanHarvest.Proofs.Target.Sequence
import BeanHarvest.Target.Rehearsal

/-! Discovery as a whole or not at all. Beans and attributes are replaced when all of them are known, so
whatever goes wrong before that leaves the instance as it was. A pass over the attributes breaks off at
the first answer that says that the target cannot be reached, and at no other answer: what concerns a
single bean or attribute only leaves that out. -/
namespace BeanHarvest

/-- Whether an answer says that the target cannot be reached. -/
def Answer.IsFatal (answer : Answer) : Prop :=
  ∃ fault, answer.outcome = .error fault ∧ fault.isFatal = true

theorem Answer.ok_not_isFatal {call : Call} (value : call.Answer) :
    ¬ Answer.IsFatal ⟨call, .ok value⟩ := by
  rintro ⟨_, same, _⟩
  cases same

theorem Answer.error_isFatal_iff {call : Call} {fault : ConnectionFault} :
    Answer.IsFatal ⟨call, .error fault⟩ ↔ fault.isFatal = true := by
  constructor
  · rintro ⟨_, same, isFatal⟩
    cases same
    exact isFatal
  · intro isFatal
    exact ⟨fault, rfl, isFatal⟩

namespace Dialogue

variable {α β : Type} {broken : ConnectionFault → α} {going : α → Prop} {dialogue : Dialogue α}

/-- Whether a conversation is over, with what is made of the fault, as soon as an answer says that the
target cannot be reached; if no answer does, what it comes to has a property. -/
def StopsWhenFatal (broken : ConnectionFault → α) (going : α → Prop) : Dialogue α → Prop
  | done result => going result
  | ask _ next =>
    (∀ value, (next (.ok value)).StopsWhenFatal broken going) ∧
      (∀ fault : ConnectionFault, fault.isFatal = true → next (.error fault) = done (broken fault)) ∧
      ∀ fault : ConnectionFault, fault.isFatal = false →
        (next (.error fault)).StopsWhenFatal broken going

/-- A first conversation that stops has to stop what follows; else the rest does. -/
theorem StopsWhenFatal.andThen {later : ConnectionFault → β} {others : β → Prop}
    {next : α → Dialogue β} (stops : dialogue.StopsWhenFatal broken going)
    (handed : ∀ fault, fault.isFatal = true → next (broken fault) = done (later fault))
    (rest : ∀ result, going result → (next result).StopsWhenFatal later others) :
    (dialogue.andThen next).StopsWhenFatal later others := by
  induction dialogue with
  | done result => exact rest result stops
  | ask call following ih =>
    obtain ⟨well, fatal, mild⟩ := stops
    refine ⟨fun value => ih _ (well value), fun fault isFatal => ?_, fun fault isMild =>
      ih _ (mild fault isMild)⟩
    dsimp only
    rw [fatal fault isFatal]
    exact handed fault isFatal

/-- How a conversation ends that stops when the target cannot be reached. -/
inductive StopsAt (broken : ConnectionFault → α) (going : α → Prop) (answers : List Answer) :
    α → Prop where
  | fatal {before : List Answer} {call : Call} {fault : ConnectionFault}
      (isLast : answers = before ++ [⟨call, .error fault⟩]) (isFatal : fault.isFatal = true)
      (first : ∀ answer ∈ before, ¬ answer.IsFatal) : StopsAt broken going answers (broken fault)
  | going {result : α} (never : ∀ answer ∈ answers, ¬ answer.IsFatal) (holds : going result) :
      StopsAt broken going answers result

theorem StopsAt.cons {answers : List Answer} {result : α} {answer : Answer}
    (mild : ¬ answer.IsFatal) (stopsAt : StopsAt broken going answers result) :
    StopsAt broken going (answer :: answers) result := by
  cases stopsAt with
  | fatal isLast isFatal first =>
    subst isLast
    exact .fatal (List.cons_append ..).symm isFatal (List.forall_mem_cons.mpr ⟨mild, first⟩)
  | going never holds => exact .going (List.forall_mem_cons.mpr ⟨mild, never⟩) holds

theorem Ends.stopsAt {answers : List Answer} {result : α} (ends : dialogue.Ends answers result)
    (stops : dialogue.StopsWhenFatal broken going) : StopsAt broken going answers result := by
  induction ends with
  | done result => exact .going nofun stops
  | @ask call next answers result outcome rest ih =>
    obtain ⟨well, fatal, mild⟩ := stops
    cases outcome with
    | ok value =>
      apply StopsAt.cons (Answer.ok_not_isFatal value)
      exact ih (well value)
    | error fault =>
      by_cases isFatal : fault.isFatal = true
      · rw [fatal fault isFatal] at rest
        obtain ⟨rfl, rfl⟩ := rest.done_inv
        exact .fatal (List.nil_append _).symm isFatal nofun
      · apply StopsAt.cons (fun among => isFatal (Answer.error_isFatal_iff.mp among))
        exact ih (mild fault (Bool.not_eq_true _ ▸ isFatal))

end Dialogue

/-- Whether something has gone well, or wrong with a fault of one bean or attribute. -/
def StaysReachable {α : Type} (result : Except ConnectionFault α) : Prop :=
  ∀ fault, result = .error fault → fault.isFatal = false

theorem staysReachable_ok {α : Type} (value : α) : StaysReachable (.ok value) := nofun

theorem staysReachable_error {α : Type} {fault : ConnectionFault} (isMild : fault.isFatal = false) :
    StaysReachable (.error fault : Except ConnectionFault α) := by
  rintro _ ⟨⟩
  exact isMild

theorem Offer.settle_stops {bean : Bean} {name : String} {live : Option LiveValue}
    (offers : List Offer) : (settle bean name live offers).StopsWhenFatal .error StaysReachable := by
  induction offers generalizing live with
  | nil => exact staysReachable_ok none
  | cons offer rest ih =>
    cases offer with
    | pass => exact ih
    | take matched => exact staysReachable_ok (some matched)
    | look decide =>
      have gone : ∀ value, (settle bean name (some value) (look decide :: rest)).StopsWhenFatal
          .error StaysReachable := by
        intro value
        rw [settle]
        dsimp only
        split
        · exact staysReachable_ok _
        · exact ih
      cases live with
      | some value => exact gone value
      | none => exact ⟨gone, fun _ _ => rfl, fun _ isMild => staysReachable_error isMild⟩

theorem Candidate.bind_stops (candidate : Candidate) (context : InstanceContext)
    (selecting : List BeanMatch) :
    (candidate.bind context selecting).StopsWhenFatal .error StaysReachable := by
  unfold Candidate.bind
  split
  · exact staysReachable_ok none
  · split
    · exact Offer.settle_stops _
    · split
      · exact staysReachable_ok none
      · refine ⟨fun value => ?_, fun _ _ => rfl, fun _ isMild => staysReachable_error isMild⟩
        dsimp only
        split
        · exact Offer.settle_stops _
        · exact staysReachable_ok none

/-- Whether something has gone well. -/
def GoneWell {ε α : Type} (result : Except ε α) : Prop := ∃ value, result = .ok value

theorem Instance.classOf_stops (isNeeded : Bool) (bean : Bean) :
    (classOf isNeeded bean).StopsWhenFatal .error GoneWell := by
  unfold classOf
  split
  · refine ⟨fun name => ⟨some name, rfl⟩, fun fault isFatal => ?_, fun fault isMild => ⟨none, ?_⟩⟩
    · simp only [isFatal, if_true]
    · simp [isMild]
  · exact ⟨none, rfl⟩

namespace MatchPass

variable {rules : MatchRules}

theorem overAttributes_stops (bean : Bean) (selecting : List BeanMatch) (pass : MatchPass)
    (infos : List AttributeInfo) :
    (overAttributes rules bean selecting pass infos).StopsWhenFatal .error GoneWell := by
  induction infos generalizing pass with
  | nil => exact ⟨pass, rfl⟩
  | cons info rest ih =>
    have next : ∀ found, (if (pass.add rules ⟨bean, info⟩ found).isOver rules.action then
        .done (.ok (pass.add rules ⟨bean, info⟩ found))
        else overAttributes rules bean selecting (pass.add rules ⟨bean, info⟩ found) rest :
          Dialogue (Except ConnectionFault MatchPass)).StopsWhenFatal .error GoneWell := by
      intro found
      split
      · exact ⟨_, rfl⟩
      · exact ih _
    rw [overAttributes]
    refine (Candidate.bind_stops ..).andThen (fun fault isFatal => ?_) fun result staysReachable => ?_
    · exact if_pos isFatal
    · cases result with
      | ok found => exact next found
      | error fault =>
        have isMild := staysReachable fault rfl
        simp only [isMild, Bool.false_eq_true, if_false]
        exact next none

/-- Whether a pass over some beans has gone well, or wrong at a filter that fails at one of them. -/
def WellOrFiltered (rules : MatchRules) (beans : List Bean) (result : Except InstanceFault MatchPass) :
    Prop :=
  ∀ fault, result = .error fault → ∃ cause, fault = .filter cause ∧ ∃ bean ∈ beans, ∃ className,
    Instance.selecting rules.engine rules.configurations bean className = .error cause

/-- A pass breaks off where the target cannot be reached; else nothing but a filter makes it fail. -/
theorem overBeans_stops (pass : MatchPass) {beans all : List Bean} (among : beans ⊆ all) :
    (overBeans rules pass beans).StopsWhenFatal (fun fault => .error (.connection fault))
      (WellOrFiltered rules all) := by
  induction beans generalizing pass with
  | nil => exact nofun
  | cons bean rest ih =>
    obtain ⟨member, restAmong⟩ := List.cons_subset.mp among
    have others := fun later => ih later restAmong
    rw [overBeans]
    refine (Instance.classOf_stops ..).andThen (fun fault _ => rfl) ?_
    rintro _ ⟨className, rfl⟩
    dsimp only
    split
    · next cause raised =>
      rintro _ ⟨⟩
      exact ⟨cause, rfl, bean, member, className, raised⟩
    · next selecting selected =>
      split
      · exact others pass
      · refine ⟨fun infos => ?_, fun fault isFatal => if_pos isFatal, fun fault isMild => ?_⟩
        · refine (overAttributes_stops bean selecting pass infos).andThen (fun fault _ => rfl) ?_
          rintro _ ⟨later, rfl⟩
          dsimp only
          split
          · exact nofun
          · exact others later
        · simp only [isMild, Bool.false_eq_true, if_false]
          exact others pass

end MatchPass

namespace Instance

variable {τ : Type} {target : Target τ} {world middle after : τ} {one final between : Instance}
  {answers : List Answer} {start last : Nat} {fault : InstanceFault}

theorem refreshBeans_error
    (ends : (refreshBeans start one).Ends answers last final (.error fault)) : final = one := by
  by_cases connected : one.isConnected = true
  · rw [refreshBeans, connectedOr_of_connected connected, Operation.get_bind] at ends
    obtain ⟨_, _, _, _, result, _, held, ends⟩ := Operation.bind_ends_inv ends
    obtain ⟨rfl, _⟩ := Operation.hold_ends_inv held
    cases result with
    | error cause => exact (Operation.pure_ends_inv ends).2.1
    | ok beans => cases ends
  · rw [refreshBeans, connectedOr_of_unconnected connected] at ends
    cases ends
    rfl

/-- How matching the attributes of an instance can go wrong: there is no connection; or the target
cannot be reached any more, as the last of the answers says; or, as long as it can be reached, a filter
fails at one of the beans. -/
inductive MatchingFails (one : Instance) (answers : List Answer) : InstanceFault → Prop where
  | unconnected (never : one.isConnected = false) : MatchingFails one answers (.notInitialized one.name)
  | unreachable {before : List Answer} {call : Call} {cause : ConnectionFault}
      (isLast : answers = before ++ [⟨call, .error cause⟩]) (isFatal : cause.isFatal = true)
      (first : ∀ answer ∈ before, ¬ answer.IsFatal) : MatchingFails one answers (.connection cause)
  | filter {cause : Pattern.Fault} (reached : ∀ answer ∈ answers, ¬ answer.IsFatal)
      (raised : ∃ bean ∈ one.beans, ∃ className,
        selecting one.engine one.configurations bean className = .error cause) :
      MatchingFails one answers (.filter cause)

theorem matchAttributes_error {action : Action}
    (ends : (matchAttributes action start one).Ends answers last final (.error fault)) :
    final = one ∧ one.MatchingFails answers fault := by
  by_cases connected : one.isConnected = true
  · rw [matchAttributes, connectedOr_of_connected connected, Operation.get_bind] at ends
    obtain ⟨before, _, _, _, result, rfl, held, ends⟩ := Operation.bind_ends_inv ends
    obtain ⟨kept, passed⟩ := Operation.hold_ends_inv held
    rw [kept] at ends
    cases result with
    | ok pass => cases ends
    | error cause =>
      obtain ⟨rfl, same, isCause⟩ := Operation.pure_ends_inv ends
      cases isCause
      refine ⟨same, ?_⟩
      rw [List.append_nil]
      have stops : (MatchPass.overBeans (one.rules action) {} one.beans).StopsWhenFatal _ _ :=
        MatchPass.overBeans_stops {} (List.Subset.refl one.beans)
      generalize isResult : (Except.error fault : Except InstanceFault MatchPass) = result at passed
      cases passed.stopsAt stops with
      | fatal isLast isFatal first =>
        cases isResult
        exact .unreachable isLast isFatal first
      | going never holds =>
        obtain ⟨cause, rfl, raised⟩ := holds fault isResult.symm
        exact .filter never raised
  · rw [matchAttributes, connectedOr_of_unconnected connected] at ends
    cases ends
    exact ⟨rfl, .unconnected (Bool.not_eq_true _ ▸ connected)⟩

theorem followed_eq {ε α β : Type} (first : Operation Instance (Except ε α))
    (next : α → Operation Instance (Except ε β)) : followed first next start one =
      (first start one).andThen fun time state result =>
        match result with
        | .ok value => next value time state
        | .error fault => .done time state (.error fault) := by
  refine congrArg (Session.andThen (first start one)) ?_
  funext time state result
  cases result <;> rfl

theorem refresh_eq : refresh start one =
    (refreshBeans start one).andThen fun time state result =>
      match result with
      | .ok _ => matchAttributes .collect time { state with refreshedSinceStart := true }
      | .error fault => .done time state (.error fault) := by
  rw [refresh, followed_eq]
  refine congrArg (Session.andThen (refreshBeans start one)) ?_
  funext time state result
  cases result <;> rfl

/-- A collection for which it is time to find the beans anew does so first. -/
theorem collect_due (connected : one.isConnected = true) (due : one.refreshDue start = true) :
    collect start one = (refresh start one).andThen fun time state result =>
      match result with
      | .ok () => collectMatched time state
      | .error fault => .done time state.markBroken (.error fault) := by
  have refreshes : refreshIfDue start one = (refresh start one).andThen fun time state result =>
      match result with
      | .ok () => .done time state (.ok ())
      | .error fault => .done time state.markBroken (.error fault) := by
    rw [refreshIfDue, Operation.get_bind, Operation.now_bind, if_pos due]
    refine congrArg (Session.andThen (refresh start one)) ?_
    funext time state result
    cases result <;> rfl
  rw [collect, connectedOr_of_connected connected, followed_eq, refreshes, Session.andThen_assoc]
  refine congrArg (Session.andThen (refresh start one)) ?_
  funext time state result
  cases result <;> rfl

theorem refresh_clocked {stamp : Option Nat} : refresh.Clocked (LastBegan stamp) :=
  refreshBeans_clocked.followed fun _ =>
    clocked_modify_then (fun _ => rfl) (matchAttributes_clocked _)

theorem collect_of_refresh_error (connected : one.isConnected = true)
    (due : one.refreshDue start = true)
    (ran : target.run none world start (refresh start one) = .ended last between after (.error fault)) :
    target.run none world start (collect start one) =
        .ended last between.markBroken after (.error fault) ∧
      target.transcript world start (collect start one) =
        target.transcript world start (refresh start one) := by
  have clocked := refresh_clocked start one (rfl : LastBegan one.lastCollection one)
  rw [collect_due connected due]
  constructor
  · exact Target.run_andThen clocked ran
  · rw [Target.transcript_andThen clocked ran, Target.transcript, List.append_nil]

/-- A refresh begins with finding the beans; if that fails it is all. -/
theorem refresh_of_error
    (ran : target.run none world start (refreshBeans start one) = .ended last between after (.error fault)) :
    target.run none world start (refresh start one) = .ended last between after (.error fault) ∧
      target.transcript world start (refresh start one) =
        target.transcript world start (refreshBeans start one) := by
  have clocked := refreshBeans_clocked start one (rfl : LastBegan one.lastCollection one)
  rw [refresh_eq]
  constructor
  · exact Target.run_andThen clocked ran
  · rw [Target.transcript_andThen clocked ran, Target.transcript, List.append_nil]

/-- With the beans found, a refresh comes to what matching their attributes comes to. -/
theorem refresh_of_found {found : Instance} {now : Nat}
    (ran : target.run none world start (refreshBeans start one) = .ended now found middle (.ok ())) :
    let known : Instance := { found with refreshedSinceStart := true }
    target.run none world start (refresh start one) =
        target.run none middle now (matchAttributes .collect now known) ∧
      target.transcript world start (refresh start one) =
        target.transcript world start (refreshBeans start one) ++
          target.transcript middle now (matchAttributes .collect now known) := by
  have clocked := refreshBeans_clocked start one (rfl : LastBegan one.lastCollection one)
  rw [refresh_eq]
  exact ⟨Target.run_andThen clocked ran, Target.transcript_andThen clocked ran⟩

/-- If the beans cannot be found, the instance is as before, and a collection that was to find them
breaks it and asks for nothing more. If the attributes cannot be matched, the instance is as before as
well, and that is for want of a connection or of a filter, or because the target cannot be reached any
more, never because of a fault of one bean or attribute; a collection that was to match them breaks the
instance, with the beans just found, and asks for nothing more. -/
theorem discovery_atomic {τ : Type} (target : Target τ) (world : τ) (one : Instance) (start : Nat) :
    (∀ last final after fault,
      target.run none world start (refreshBeans start one) = .ended last final after (.error fault) →
      final = one ∧
      (one.isConnected = true → one.refreshDue start = true →
        target.run none world start (collect start one) =
          .ended last one.markBroken after (.error fault) ∧
        target.transcript world start (collect start one) =
          target.transcript world start (refreshBeans start one))) ∧
    (∀ action last final after fault,
      target.run none world start (matchAttributes action start one) =
        .ended last final after (.error fault) →
      final = one ∧
      one.MatchingFails (target.transcript world start (matchAttributes action start one)) fault) ∧
    (∀ now found middle last final after fault, one.refreshDue start = true →
      target.run none world start (refreshBeans start one) = .ended now found middle (.ok ()) →
      let known : Instance := { found with refreshedSinceStart := true }
      target.run none middle now (matchAttributes .collect now known) =
        .ended last final after (.error fault) →
      (∃ since beans, found = one.withBeans since beans) ∧
      target.run none world start (collect start one) =
        .ended last known.markBroken after (.error fault) ∧
      target.transcript world start (collect start one) =
        target.transcript world start (refreshBeans start one) ++
          target.transcript middle now (matchAttributes .collect now known)) := by
  refine ⟨?found, ?matched, ?both⟩
  case found =>
    intro last final after fault ran
    have same : final = one := refreshBeans_error (Target.transcript_ends ran)
    subst same
    refine ⟨rfl, fun connected due => ?_⟩
    obtain ⟨refreshed, asked⟩ := refresh_of_error ran
    rw [← asked]
    exact collect_of_refresh_error connected due refreshed
  case matched =>
    intro action last final after fault ran
    exact matchAttributes_error (Target.transcript_ends ran)
  case both =>
    intro now found middle last final after fault due ran known failed
    obtain ⟨connected, since, beans, _, rfl⟩ := refreshBeans_inv (Target.transcript_ends ran)
    obtain ⟨refreshed, asked⟩ := refresh_of_found ran
    have same : final = known := (matchAttributes_error (Target.transcript_ends failed)).1
    subst same
    rw [← asked]
    exact ⟨⟨since, beans, rfl⟩, collect_of_refresh_error connected due (refreshed.trans failed)⟩

/-- An instance with room for one metric, which has to find its beans anew each second. -/
def crowded : Instance := { watched with schedule := ⟨some 1000, none, none, 1⟩ }

/-- A target with a bean of two attributes. -/
def counting : Rehearsal where
  beans := [(threading.name, ⟨"test.Fake",
    [(⟨"ThreadCount", "int"⟩, .integer 7), (⟨"PeakThreadCount", "int"⟩, .integer 9)]⟩)]

def crowdedStarted (bound : MatchedAttribute) : Instance :=
  crowded.startedWith 0 [threading]
    { matched := [bound], metricCount := 1, report := { limitReached := true } }

/-- The instance after a collection in which its attribute could not be read. It has to find its beans
again one second after the start. -/
def overdue (bound : MatchedAttribute) : Instance :=
  (crowdedStarted bound).collectedWith 0 [unavailable bound]

theorem overdue_follows : ∃ bound, bound.key = threadCount ∧
    (init .collect false 0 crowded).CanEnd (crowdedStarted bound) (.ok ()) ∧
    ∃ metrics, (collect 0 (crowdedStarted bound)).CanEnd (overdue bound) (.ok metrics) := by
  have started : ∃ bound after, bound.key = threadCount ∧
      Rehearsal.asTarget.run none counting 0 (init .collect false 0 crowded) =
        .ended 0 (crowdedStarted bound) after (.ok ()) := by
    with_unfolding_all exact ⟨_, _, rfl, rfl⟩
  obtain ⟨bound, after, key, ran⟩ := started
  have mild : ∀ reading ∈ [unavailable bound], reading.IsMild := by
    simpa using unavailable_isMild bound
  have connected : (crowdedStarted bound).isConnected = true := rfl
  have settled : (crowdedStarted bound).refreshDue 0 = false := rfl
  obtain ⟨last, metrics, ends⟩ := collect_ends connected settled rfl mild
  exact ⟨bound, key, (Target.transcript_ends ran).canEnd, metrics, ends.canEnd⟩

/-- A target with the bean, which cannot be reached from the start or when the bean's attributes are
asked for, and was asked for some things before. -/
def outOfReach (fromStart : Bool) (counts : CallCounts) : Rehearsal :=
  { counting with
    down := if fromStart then some fun _ _ => .closed else none
    failingLists := if fromStart then [] else [(threading.name, fun _ _ => .closed)]
    counts }

/-- The beans of an overdue instance cannot be found, or they are found but their attributes cannot be
matched. What it collects is as before in either case, and that there was no room for more. -/
theorem discovery_atomic_overdue : ∃ bound,
    ((overdue bound).beans = [threading] ∧ (overdue bound).matched = [bound] ∧
      (overdue bound).failing = [threadCount] ∧ (overdue bound).report.limitReached = true) ∧
    (overdue bound).isConnected = true ∧ (overdue bound).refreshDue 1000 = true ∧
    (∃ fault, Rehearsal.asTarget.run none (outOfReach true {}) 1000 (collect 1000 (overdue bound)) =
      .ended 1000 (overdue bound).markBroken (outOfReach true ⟨0, 1, 0, 0, 0⟩) (.error fault)) ∧
    ∃ (known : Instance) (fault : InstanceFault),
      known.beans = [threading] ∧ known.matched = [bound] ∧ known.report.limitReached = true ∧
      known.MatchingFails [⟨.attributes threading, .error .closed⟩] fault ∧
      Rehearsal.asTarget.run none (outOfReach false {}) 1000 (collect 1000 (overdue bound)) =
        .ended 1000 known.markBroken (outOfReach false ⟨0, 1, 1, 0, 0⟩) (.error fault) := by
  obtain ⟨bound, key, -⟩ := overdue_follows
  let found : Instance := (overdue bound).withBeans 1000 [threading]
  let known : Instance := { found with refreshedSinceStart := true }
  have lost :
      Rehearsal.asTarget.run none (outOfReach true {}) 1000 (refreshBeans 1000 (overdue bound)) =
        .ended 1000 (overdue bound) (outOfReach true ⟨0, 1, 0, 0, 0⟩)
          (.error (.connection .closed)) := by
    with_unfolding_all rfl
  have isFound :
      Rehearsal.asTarget.run none (outOfReach false {}) 1000 (refreshBeans 1000 (overdue bound)) =
        .ended 1000 found (outOfReach false ⟨0, 1, 0, 0, 0⟩) (.ok ()) := by
    with_unfolding_all rfl
  have unmatched : Rehearsal.asTarget.run none (outOfReach false ⟨0, 1, 0, 0, 0⟩) 1000
      (matchAttributes .collect 1000 known) =
      .ended 1000 known (outOfReach false ⟨0, 1, 1, 0, 0⟩) (.error (.connection .closed)) := by
    with_unfolding_all rfl
  have due : (overdue bound).refreshDue 1000 = true := rfl
  have first :=
    (discovery_atomic Rehearsal.asTarget (outOfReach true {}) (overdue bound) 1000).1 _ _ _ _ lost
  have second := (discovery_atomic Rehearsal.asTarget (outOfReach false ⟨0, 1, 0, 0, 0⟩) known
    1000).2.1 _ _ _ _ _ unmatched
  have third := (discovery_atomic Rehearsal.asTarget (outOfReach false {}) (overdue bound) 1000).2.2
    _ _ _ _ _ _ _ due isFound unmatched
  have failing : (overdue bound).failing = [threadCount] := key ▸ rfl
  exact ⟨bound, ⟨rfl, rfl, failing, rfl⟩, rfl, due, ⟨_, (first.2 rfl due).1⟩, known, _, rfl, rfl, rfl,
    second.2, third.2.1⟩

end Instance
end BeanHarvest
