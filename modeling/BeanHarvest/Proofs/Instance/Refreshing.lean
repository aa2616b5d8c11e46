import BeanHarvest.Proofs.Instance.Matching
import BeanHarvest.Proofs.Instance.Promptness
import BeanHarvest.Proofs.Instance.Working
import Mathlib.Data.List.Induction

/-! When beans are found anew. Time is counted from the visit that has found them last: they are good for
a period, and the first call behind it finds them anew. The period after a start may be another one than
the periods after that. -/
namespace BeanHarvest

/-- A visit to a target: when it was, what was answered, and whether it went well. -/
structure Visit where
  time : Nat
  answers : List Answer
  isWell : Bool

/-- How things stand with the beans: the visit that has found them last, and the period for which they
are good. -/
structure Cycle where
  since : Visit
  period : Option Nat

namespace Cycle

/-- Whether the period is over. Where there is none, it never is. -/
def isDue (cycle : Cycle) (now : Nat) : Bool :=
  cycle.period.any fun period => cycle.since.time + period ≤ now

/-- A call behind the period finds the beans anew, and they are good for the regular period from then on;
any other call leaves things as they stand. -/
def next (schedule : Schedule) (cycle : Cycle) (call : Visit) : Cycle :=
  if cycle.isDue call.time then ⟨call, schedule.refreshPeriod⟩ else cycle

/-- What is found is good for any positive period from now on, and until then for the present one. -/
theorem lt_of_not_isDue {cycle : Cycle} {now period : Nat} (early : cycle.isDue now = false)
    (applies : cycle.period = some period) : now < cycle.since.time + period := by
  simpa [isDue, applies] using early

end Cycle

/-- How things stand after a start and calls to collect. The beans that a start has found are good for
the initial period if there is one. -/
def Schedule.cycle (schedule : Schedule) (begun : Visit) (calls : List Visit) : Cycle :=
  calls.foldl (Cycle.next schedule)
    ⟨begun, schedule.initialRefreshPeriod <|> schedule.refreshPeriod⟩

namespace Schedule

variable {schedule : Schedule} {begun call : Visit} {calls : List Visit}

theorem cycle_snoc : schedule.cycle begun (calls ++ [call]) =
    (schedule.cycle begun calls).next schedule call := List.foldl_concat ..

theorem since_mem : (schedule.cycle begun calls).since ∈ begun :: calls := by
  induction calls using List.reverseRecOn with
  | nil => exact List.mem_cons_self
  | append_singleton calls call ih =>
    rw [cycle_snoc, Cycle.next, ← List.cons_append]
    split
    · exact List.mem_append_right _ List.mem_cons_self
    · exact List.mem_append_left _ ih

end Schedule

theorem MatchedAttribute.withCache_withCache (bound : MatchedAttribute) (cache other : MetricCache) :
    (bound.withCache cache).withCache other = bound.withCache other := by
  obtain ⟨bean, name, type, params, shape, count⟩ := bound
  cases shape <;> rfl

theorem Attempt.result_alike (attempt : Attempt) :
    attempt.result.2.withCache [] = attempt.bound.withCache [] := by
  obtain ⟨bound, outcome⟩ := attempt
  cases outcome with
  | error fault => rfl
  | ok value =>
    obtain ⟨cache, same⟩ := bound.exists_extract_eq value
    have left : (Attempt.result ⟨bound, .ok value⟩).2 = bound.withCache cache := same
    rw [left]
    exact bound.withCache_withCache cache []

namespace Instance

variable {one final : Instance} {answers : List Answer} {now : Nat} {cycle : Cycle}
  {attempts : List Attempt}

/-- Whether attributes were matched, but for the metrics they keep, by a pass over beans, where both come
of some answers. -/
def DrawnFrom (one : Instance) (answers : List Answer) (list : List MatchedAttribute) : Prop :=
  ∃ beans pass, one.Discovers answers .collect beans pass ∧
    ∀ bound ∈ list, ∃ first ∈ pass.matched, bound.withCache [] = first.withCache []

theorem drawnFrom_of_pass {beans : List Bean} {pass : MatchPass}
    (discovers : one.Discovers answers .collect beans pass) : one.DrawnFrom answers pass.matched :=
  ⟨beans, pass, discovers, fun bound member => ⟨bound, member, rfl⟩⟩

/-- What a collection leaves is drawn from the same as what it has begun with. -/
theorem DrawnFrom.collected (drawn : one.DrawnFrom answers (attempts.map (·.bound))) :
    one.DrawnFrom answers (one.collectedWith now (attempts.map (·.reading))).matched := by
  obtain ⟨beans, pass, discovers, each⟩ := drawn
  refine ⟨beans, pass, discovers, fun bound member => ?_⟩
  have kept := (Reading.survivors_sublist one.failing (attempts.map (·.reading))).subset member
  rw [List.map_map] at kept
  obtain ⟨attempt, made, rfl⟩ := List.mem_map.mp kept
  obtain ⟨first, isMatched, same⟩ := each attempt.bound (List.mem_map_of_mem made)
  exact ⟨first, isMatched, attempt.result_alike.trans same⟩

/-- An instance with which things stand in a certain way. -/
structure OnCycle (cycle : Cycle) (one : Instance) : Prop where
  connected : one.isConnected = true
  stamped : one.lastRefresh = some cycle.since.time
  period : (if one.refreshedSinceStart then one.schedule.refreshPeriod
    else one.schedule.initialRefreshPeriod <|> one.schedule.refreshPeriod) = cycle.period
  drawn : cycle.since.isWell = true → one.DrawnFrom cycle.since.answers one.matched

theorem OnCycle.refreshDue (on : one.OnCycle cycle) (now : Nat) :
    one.refreshDue now = cycle.isDue now := by
  simp only [Instance.refreshDue, on.period, on.stamped, Cycle.isDue]
  cases cycle.period <;> rfl

theorem onCycle_init {anew : Bool} {result : Except InstanceFault Unit}
    (ends : (init .collect anew now one).EndsAtOnce now answers final result) :
    final.OnCycle (one.schedule.cycle ⟨now, answers, result.isOk⟩ []) ∧
      final.schedule = one.schedule := by
  obtain ⟨beans, ⟨rfl, pass, discovers, rfl⟩ | ⟨cause, rfl, rfl⟩⟩ := init_atOnce ends
  · exact ⟨⟨rfl, rfl, rfl, fun _ => drawnFrom_of_pass discovers⟩, rfl⟩
  · exact ⟨⟨rfl, rfl, rfl, nofun⟩, rfl⟩

/-- What one collection does, and how things stand after it. -/
theorem OnCycle.collected {result : Except InstanceFault (List Metric)} (on : one.OnCycle cycle)
    (ends : (collect now one).EndsAtOnce now answers final result) :
    final.OnCycle (cycle.next one.schedule ⟨now, answers, result.isOk⟩) ∧
      final.schedule = one.schedule := by
  by_cases due : cycle.isDue now = true
  · obtain ⟨found, rest, beans, rfl, isFound, came⟩ :=
      collect_due_atOnce on.connected ((on.refreshDue now).trans due) ends
    rw [Cycle.next, if_pos due]
    rcases came with ⟨pass, attempts, discovers, bounds, asked, rfl, rfl⟩ | ⟨cause, rfl, rfl⟩
    · have drawn : (one.refreshedWith now beans pass).DrawnFrom (found ++ rest) pass.matched :=
        drawnFrom_of_pass discovers
      rw [← bounds] at drawn
      exact ⟨⟨on.connected, rfl, rfl, fun _ => drawn.collected⟩, rfl⟩
    · exact ⟨⟨on.connected, rfl, rfl, nofun⟩, rfl⟩
  · have early : one.refreshDue now = false := (on.refreshDue now).trans (Bool.eq_false_iff.mpr due)
    rw [collect_eq on.connected early] at ends
    obtain ⟨attempts, bounds, rfl, rfl, rfl⟩ := collectMatched_atOnce ends
    rw [Cycle.next, if_neg due]
    refine ⟨⟨on.connected, on.stamped, on.period, fun well => ?_⟩, rfl⟩
    have drawn := on.drawn well
    rw [← bounds] at drawn
    exact drawn.collected

/-- What comes of a start that goes well and of collections and further starts after it, one not before
the other, all of them answered at once and without faults: the latest start, the calls to collect after
it, and the instance then. -/
inductive Tour : Visit → List Visit → Instance → Prop where
  | started {given one : Instance} {answers : List Answer} {now : Nat} (anew : Bool)
      (ends : (init .collect anew now given).EndsAtOnce now answers one (.ok ())) :
      Tour ⟨now, answers, true⟩ [] one
  | restarted {begun : Visit} {calls : List Visit} {one after : Instance} {answers : List Answer}
      {now : Nat} {result : Except InstanceFault Unit} (tour : Tour begun calls one)
      (later : ∀ visit ∈ begun :: calls, visit.time ≤ now) (anew : Bool)
      (ends : (init .collect anew now one).EndsAtOnce now answers after result) :
      Tour ⟨now, answers, result.isOk⟩ [] after
  | collected {begun : Visit} {calls : List Visit} {one after : Instance} {answers : List Answer}
      {now : Nat} {result : Except InstanceFault (List Metric)} (tour : Tour begun calls one)
      (later : ∀ visit ∈ begun :: calls, visit.time ≤ now)
      (ends : (collect now one).EndsAtOnce now answers after result) :
      Tour begun (calls ++ [⟨now, answers, result.isOk⟩]) after

variable {begun : Visit} {calls : List Visit}

/-- On a tour things stand with the instance as its schedule has them. -/
theorem Tour.onCycle (tour : Tour begun calls one) :
    one.OnCycle (one.schedule.cycle begun calls) := by
  induction tour with
  | started anew ends =>
    obtain ⟨on, same⟩ := onCycle_init ends
    exact same ▸ on
  | restarted tour later anew ends ih =>
    obtain ⟨on, same⟩ := onCycle_init ends
    exact same ▸ on
  | collected tour later ends ih =>
    obtain ⟨on, same⟩ := ih.collected ends
    rw [same, Schedule.cycle_snoc]
    exact on

/-- The beans are found anew at some time: with the first of the answers of a call, which replace them. -/
def FindsAnew (one : Instance) (now : Nat) (answers : List Answer) (final : Instance) : Prop :=
  ∃ found rest beans, answers = found ++ rest ∧
    (findBeans one.configurations).Ends found (.ok beans) ∧
    final.beans = beans ∧ final.lastRefresh = some now

/-- The beans stay as they are, and a call asks for nothing but values of matched attributes. -/
def LeavesBeans (one : Instance) (answers : List Answer) (final : Instance) : Prop :=
  final.beans = one.beans ∧ final.lastRefresh = one.lastRefresh ∧
    ∀ answer ∈ answers, ∃ bound ∈ one.matched, answer.call = .read bound.bean bound.name

/-- The metrics of a call are those of attributes that it has read and that were matched at a visit. -/
def CollectsFrom (one : Instance) (answers : List Answer) (visit : Visit) (metrics : List Metric) :
    Prop :=
  ∃ attempts : List Attempt, metrics = attempts.flatMap (·.metrics) ∧
    (∀ attempt ∈ attempts, attempt.answer ∈ answers) ∧
    one.DrawnFrom visit.answers (attempts.map (·.bound))

theorem OnCycle.due {result : Except InstanceFault (List Metric)} (on : one.OnCycle cycle)
    (due : cycle.isDue now = true) (ends : (collect now one).EndsAtOnce now answers final result) :
    one.FindsAnew now answers final ∧
      (∀ fault, result = .error fault →
        (∃ cause, fault = .filter cause) ∧ final.matched = one.matched) ∧
      ∀ metrics, result = .ok metrics → one.CollectsFrom answers ⟨now, answers, result.isOk⟩ metrics := by
  obtain ⟨found, rest, beans, rfl, isFound, came⟩ :=
    collect_due_atOnce on.connected ((on.refreshDue now).trans due) ends
  rcases came with ⟨pass, attempts, discovers, bounds, asked, rfl, rfl⟩ | ⟨cause, rfl, rfl⟩
  · refine ⟨⟨found, rest, beans, rfl, isFound, rfl, rfl⟩, nofun, ?_⟩
    rintro _ ⟨⟩
    exact ⟨attempts, rfl, asked, bounds ▸ drawnFrom_of_pass discovers⟩
  · refine ⟨⟨found, rest, beans, rfl, isFound, rfl, rfl⟩, ?_, nofun⟩
    rintro _ ⟨⟩
    exact ⟨⟨cause, rfl⟩, rfl⟩

theorem OnCycle.early {result : Except InstanceFault (List Metric)} (on : one.OnCycle cycle)
    (early : cycle.isDue now = false)
    (ends : (collect now one).EndsAtOnce now answers final result) :
    one.LeavesBeans answers final ∧ ∃ metrics, result = .ok metrics ∧
      (cycle.since.isWell = true → one.CollectsFrom answers cycle.since metrics) := by
  rw [collect_eq on.connected ((on.refreshDue now).trans early)] at ends
  obtain ⟨attempts, bounds, rfl, rfl, rfl⟩ := collectMatched_atOnce ends
  refine ⟨⟨rfl, rfl, fun answer member => ?_⟩, _, rfl, fun well => ?_⟩
  · obtain ⟨attempt, made, rfl⟩ := List.mem_map.mp member
    exact ⟨attempt.bound, bounds ▸ List.mem_map_of_mem made, rfl⟩
  · refine ⟨attempts, rfl, fun attempt made => List.mem_map_of_mem made, ?_⟩
    rw [bounds]
    exact on.drawn well

/-- On a tour, a call to collect finds the beans anew if the period for which they are good is over, and
leaves them as they are otherwise. All that it can fail for is a filter, when it finds them anew; then
the attributes that were matched before stay. The metrics that it gives are of attributes that were
matched when beans were found less than a period ago, unless a filter has kept them from being matched
then. A start finds the beans in any case, and the schedule begins anew. -/
theorem refresh_schedule (tour : Tour begun calls one)
    (later : ∀ visit ∈ begun :: calls, visit.time ≤ now) {τ : Type} (target : Target τ) (world : τ) :
    (target.Prompt world now (collect now one) →
      let cycle := one.schedule.cycle begun calls
      let answers := target.transcript world now (collect now one)
      ∃ final after result,
        target.run none world now (collect now one) = .ended now final after result ∧
        Tour begun (calls ++ [⟨now, answers, result.isOk⟩]) final ∧
        (cycle.isDue now = true → one.FindsAnew now answers final) ∧
        (cycle.isDue now = false → one.LeavesBeans answers final) ∧
        (∀ fault, result = .error fault → cycle.isDue now = true ∧
          (∃ cause, fault = .filter cause) ∧ final.matched = one.matched) ∧
        ∀ metrics, result = .ok metrics → cycle.isDue now = true ∨ cycle.since.isWell = true →
          ∃ visit ∈ begun :: (calls ++ [⟨now, answers, result.isOk⟩]),
            one.CollectsFrom answers visit metrics ∧
            ∀ period, cycle.period = some period → 0 < period → now < visit.time + period) ∧
    ∀ anew, target.Prompt world now (init .collect anew now one) →
      let answers := target.transcript world now (init .collect anew now one)
      ∃ final after result,
        target.run none world now (init .collect anew now one) = .ended now final after result ∧
        Tour ⟨now, answers, result.isOk⟩ [] final ∧ final.lastRefresh = some now := by
  constructor
  · intro prompt cycle answers
    obtain ⟨final, after, result, ran, ends⟩ := prompt.run (collect_clocked now one trivial)
    have on : one.OnCycle cycle := tour.onCycle
    refine ⟨final, after, result, ran, tour.collected later ends, ?_⟩
    by_cases due : cycle.isDue now = true
    · obtain ⟨finds, filtered, collects⟩ := on.due due ends
      refine ⟨fun _ => finds, fun early => ?_, fun fault failed => ⟨due, filtered fault failed⟩, ?_⟩
      · cases due.symm.trans early
      · intro metrics came _
        refine ⟨_, ?_, collects metrics came, fun period _ positive => Nat.lt_add_of_pos_right positive⟩
        exact List.mem_cons_of_mem _ (List.mem_append_right _ List.mem_cons_self)
    · have early : cycle.isDue now = false := Bool.eq_false_iff.mpr due
      obtain ⟨leaves, metrics, rfl, collects⟩ := on.early early ends
      refine ⟨fun isDue => absurd isDue due, fun _ => leaves, nofun, ?_⟩
      rintro _ ⟨⟩ whole
      have well : cycle.since.isWell = true := whole.resolve_left due
      refine ⟨cycle.since, ?_, collects well, fun period applies _ => cycle.lt_of_not_isDue early applies⟩
      exact List.mem_append_left _ Schedule.since_mem
  · intro anew prompt answers
    have clocked := init_clocked .collect anew now one (rfl : LastBegan one.lastCollection one)
    obtain ⟨final, after, result, ran, ends⟩ := prompt.run clocked
    exact ⟨final, after, result, ran, tour.restarted later anew ends, (onCycle_init ends).1.stamped⟩

variable {given : Instance}

/-- A start that goes well with some answers begins a tour. -/
theorem tour_of_answers {answers : Answers} {anew : Bool}
    (well : ((init .collect anew now given).finish answers.outcome now).2 = .ok ()) :
    Tour ⟨now, answers.asTarget.transcript () now (init .collect anew now given), true⟩ []
      ((init .collect anew now given).finish answers.outcome now).1 := by
  have ends := answers.endsAtOnce
    (init_clocked .collect anew now given (rfl : LastBegan given.lastCollection given))
  rw [well] at ends
  exact .started anew ends

def onlyAnswers (bean : Bean) : Answers
  | .query _ => [bean]
  | call => machineAnswers call

/-- An instance that finds its beans anew every ten seconds. -/
def everyTenSeconds (configurations : List Configuration) : Instance :=
  { machine 10 configurations with schedule := ⟨some 10000, none, none, 10⟩ }

/-- What comes of a start against a target with one of the beans. -/
def begunWith (bean : Bean) (configurations : List Configuration) : Instance :=
  ((init .collect false 0 (everyTenSeconds configurations)).finish (onlyAnswers bean).outcome 0).1

theorem refresh_schedule_machine :
    let one := begunWith collections [including "app" [] none]
    let target := (onlyAnswers collections).asTarget
    let answers := target.transcript () 10000 (collect 10000 one)
    ∃ begun final metrics,
      Tour begun [] one ∧ begun.time = 0 ∧
      target.Prompt () 10000 (collect 10000 one) ∧
      target.run none () 10000 (collect 10000 one) = .ended 10000 final () (.ok metrics) ∧
      one.schedule.cycle begun [] = ⟨begun, some 10000⟩ ∧
      one.FindsAnew 10000 answers final ∧ metrics.length = 2 ∧
      (∃ visit, one.CollectsFrom answers visit metrics ∧ 10000 < visit.time + 10000) ∧
      target.Prompt () 10000 (init .collect true 10000 one) ∧
      ∃ left isWell,
        Tour ⟨10000, target.transcript () 10000 (init .collect true 10000 one), isWell⟩ [] left ∧
        left.lastRefresh = some 10000 := by
  intro one target answers
  obtain ⟨begun, atStart, tour⟩ : ∃ begun : Visit, begun.time = 0 ∧ Tour begun [] one :=
    ⟨_, rfl, tour_of_answers (by with_unfolding_all rfl)⟩
  have scheduled : one.schedule.cycle begun [] = ⟨begun, some 10000⟩ := by with_unfolding_all rfl
  have due : (Cycle.mk begun (some 10000)).isDue 10000 = true := by simp [Cycle.isDue, atStart]
  have prompt := (onlyAnswers collections).prompt 10000 (collect 10000 one)
  have promptToo := (onlyAnswers collections).prompt 10000 (init .collect true 10000 one)
  have later : ∀ visit ∈ [begun], visit.time ≤ 10000 := by simp [atStart]
  obtain ⟨collects, restarts⟩ := refresh_schedule tour later target ()
  obtain ⟨final, _, result, ran, _, finds, _, _, fresh⟩ := collects prompt
  obtain ⟨left, _, _, _, tourToo, stamped⟩ := restarts true promptToo
  have came := ran.symm.trans ((onlyAnswers collections).run (collect_clocked 10000 one trivial))
  obtain ⟨metrics, ok, two⟩ : ∃ metrics, ((collect 10000 one).finish
      (onlyAnswers collections).outcome 10000).2 = .ok metrics ∧ metrics.length = 2 :=
    ⟨_, by with_unfolding_all rfl, rfl⟩
  injection came with _ _ _ same
  cases same.trans ok
  rw [scheduled] at finds fresh
  obtain ⟨visit, _, collected, young⟩ := fresh metrics rfl (.inl due)
  exact ⟨begun, final, metrics, tour, atStart, prompt, ran, scheduled, finds due, two,
    ⟨visit, collected, young 10000 rfl (by decide)⟩, promptToo, left, _, tourToo, stamped⟩

/-- All beans, and those of a domain unless a pattern that is none keeps them out: a filter that fails as
soon as there is such a bean. -/
def fragile : List Configuration :=
  [⟨Filter.empty, Filter.empty, none, []⟩, including "db" [] (some "(?=x)")]

/-- What comes of a collection for which another bean is found than at the start. -/
def brokenByDisk : Instance :=
  ((collect 10000 (begunWith collections fragile)).finish (onlyAnswers disk).outcome 10000).1

theorem not_drawnFrom_disk {list : List MatchedAttribute}
    (allowed : ∀ given ∈ answers, (Promise.always (onlyAnswers disk).outcome).Allows given) :
    ¬ brokenByDisk.DrawnFrom answers list := by
  rintro ⟨beans, pass, ⟨⟨found, among, isFound⟩, asked, amongToo, passed⟩, -⟩
  have same := isFound.of_yieldsUnder (fun given member => allowed given (among member))
    (Dialogue.yields_result _)
  have isDisk : (findBeans brokenByDisk.configurations).result (onlyAnswers disk).outcome =
      .ok [disk] := by with_unfolding_all rfl
  cases same.trans isDisk
  have came := passed.of_yieldsUnder (fun given member => allowed given (amongToo member))
    (Dialogue.yields_result _)
  have fails : ((MatchPass.overBeans (brokenByDisk.rules .collect) {} [disk]).result
      (onlyAnswers disk).outcome).isOk = false := by with_unfolding_all rfl
  rw [← came] at fails
  cases fails

/-- Where a filter has failed after beans were found, the next call finds none anew and gives metrics of
attributes that were matched before that, more than a period ago. -/
theorem collects_stale_attributes : ∃ begun calls one answers final metrics,
    Tour begun calls one ∧ (∀ visit ∈ begun :: calls, visit.time ≤ 11000) ∧
    (one.schedule.cycle begun calls).period = some 10000 ∧
    (collect 11000 one).EndsAtOnce 11000 answers final (.ok metrics) ∧ metrics.length = 2 ∧
    ¬ ∃ visit ∈ begun :: (calls ++ [⟨11000, answers, true⟩]),
      one.CollectsFrom answers visit metrics ∧ 11000 < visit.time + 10000 := by
  obtain ⟨begun, atStart, tour⟩ :
      ∃ begun : Visit, begun.time = 0 ∧ Tour begun [] (begunWith collections fragile) :=
    ⟨_, rfl, tour_of_answers (by with_unfolding_all rfl)⟩
  have fails := (onlyAnswers disk).endsAtOnce
    (collect_clocked 10000 (begunWith collections fragile) trivial)
  have tour₂ := tour.collected (by simp [atStart]) fails
  have ends := (onlyAnswers disk).endsAtOnce (collect_clocked 11000 brokenByDisk trivial)
  obtain ⟨metrics, ok, two⟩ : ∃ metrics, ((collect 11000 brokenByDisk).finish
      (onlyAnswers disk).outcome 11000).2 = .ok metrics ∧ metrics.length = 2 :=
    ⟨_, by with_unfolding_all rfl, rfl⟩
  rw [ok] at ends
  refine ⟨begun, _, brokenByDisk, _, _, metrics, tour₂, by simp [atStart], ?_, ends, two, ?_⟩
  · exact tour₂.onCycle.period.symm.trans (by with_unfolding_all rfl)
  · rintro ⟨visit, member, ⟨attempts, -, -, drawn⟩, young⟩
    simp only [List.nil_append, List.mem_cons, List.not_mem_nil, or_false, List.cons_append] at member
    rcases member with rfl | rfl | rfl
    · rw [atStart] at young
      omega
    all_goals exact not_drawnFrom_disk (Answers.transcript_allowed _ _ _) drawn

end Instance
end BeanHarvest
