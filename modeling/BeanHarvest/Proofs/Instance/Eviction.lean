import BeanHarvest.Pattern.Search
import BeanHarvest.Proofs.Instance.Collecting

/-! Eviction: over any number of calls that neither look for beans nor break off, an attribute is dropped
just when it fails in two calls in a row, and it is failing just when it failed in the latest one. -/
namespace BeanHarvest.Instance

/-- How an instance comes to have its beans found and their attributes matched a moment ago. -/
inductive JustMatched : Instance → Prop where
  | started {one final : Instance} (action : Action) (anew : Bool) (start : Nat)
      (ends : (init action anew start one).CanEnd final (.ok ())) : JustMatched final
  | refreshed {one final : Instance} (start : Nat)
      (ends : (refresh start one).CanEnd final (.ok ())) : JustMatched final
  | byHand {one between final : Instance} (action : Action) (start later : Nat)
      (found : (refreshBeans start one).CanEnd between (.ok ()))
      (ends : (matchAttributes action later between).CanEnd final (.ok ())) : JustMatched final

/-- A call to collect: the instance before it, what it was answered, and the instance behind it. -/
structure CollectCall where
  before : Instance
  answers : List Answer
  after : Instance

namespace CollectCall

/-- Whether a call gives metrics, without looking for beans. -/
def IsPlain (call : CollectCall) : Prop :=
  ∃ start last metrics, call.before.refreshDue start = false ∧
    (collect start call.before).Ends call.answers last call.after (.ok metrics)

/-- Whether an attribute under a key failed in a call. There is an answer for every matched attribute,
in their order. -/
def Failed (key : String) (call : CollectCall) : Prop :=
  ∃ entry ∈ call.before.matched.zip call.answers, entry.1.key = key ∧
    ∃ fault after, entry.1.collect.Ends [entry.2] (.error fault, after)

end CollectCall

/-- Plain calls one after the other, from one instance to another. -/
inductive CollectRun (first : Instance) : List CollectCall → Instance → Prop where
  | start : CollectRun first [] first
  | collect {log : List CollectCall} {call : CollectCall} (run : CollectRun first log call.before)
      (plain : call.IsPlain) : CollectRun first (log ++ [call]) call.after

/-- Whether an attribute under a key failed in a call of a run, where the calls are counted from zero. -/
def FailedAt (log : List CollectCall) (key : String) (place : Nat) : Prop :=
  ∃ call, log[place]? = some call ∧ call.Failed key

/-- Whether an attribute under a key failed in two calls in a row. -/
def TwoStrikes (log : List CollectCall) (key : String) : Prop :=
  ∃ place, FailedAt log key place ∧ FailedAt log key (place + 1)

/-- Whether an attribute under a key failed in the latest call. -/
def FailedLast (log : List CollectCall) (key : String) : Prop :=
  ∃ place, place + 1 = log.length ∧ FailedAt log key place

variable {first last one : Instance} {log : List CollectCall} {call : CollectCall} {key : String}

theorem JustMatched.failing_nil (fresh : JustMatched first) : first.failing = [] := by
  cases fresh with
  | started action anew start canEnd =>
    obtain ⟨_, _, ends⟩ := canEnd.ends
    obtain ⟨now, beans, pass, _, rfl⟩ := init_inv ends
    rfl
  | refreshed start canEnd =>
    obtain ⟨_, _, ends⟩ := canEnd.ends
    obtain ⟨now, beans, pass, _, rfl⟩ := refresh_inv ends
    rfl
  | byHand action start later found canEnd =>
    obtain ⟨_, _, refreshed⟩ := found.ends
    obtain ⟨_, now, beans, _, rfl⟩ := refreshBeans_inv refreshed
    obtain ⟨_, _, isMatched⟩ := canEnd.ends
    obtain ⟨_, pass, _, rfl⟩ := matchAttributes_inv isMatched
    rfl

/-- The readings of a plain call: one of every matched attribute, in their order. -/
theorem CollectCall.IsPlain.readings (plain : call.IsPlain) :
    ∃ readings : List Reading, readings.map (·.bound) = call.before.matched ∧
      readings.map (·.answer) = call.answers ∧ (∀ reading ∈ readings, reading.Happens) ∧
      call.after.matched = (Reading.survivors call.before.failing readings).1 ∧
      call.after.failing = (Reading.survivors call.before.failing readings).2 := by
  obtain ⟨start, last, metrics, settled, ends⟩ := plain
  obtain ⟨readings, bounds, answers, happen, after⟩ := collect_inv ends settled
  exact ⟨readings, bounds, answers, happen, by rw [after]; rfl, by rw [after]; rfl⟩

private theorem failed_iff {readings : List Reading}
    (bounds : readings.map (·.bound) = call.before.matched)
    (answers : readings.map (·.answer) = call.answers)
    (happen : ∀ reading ∈ readings, reading.Happens) :
    call.Failed key ↔ Reading.FailedIn key readings := by
  have entries : call.before.matched.zip call.answers =
      readings.map fun reading => (reading.bound, reading.answer) := by
    rw [← bounds, ← answers, List.zip_map']
  unfold CollectCall.Failed
  rw [entries]
  constructor
  · rintro ⟨entry, member, same, fault, after, ends⟩
    obtain ⟨reading, present, rfl⟩ := List.mem_map.mp member
    obtain ⟨result, collected, failed⟩ := happen reading present
    cases collected.unique ends
    refine ⟨reading, present, ?_, failed⟩
    rw [(happen reading present).key_eq, same]
  · rintro ⟨reading, present, same, failed⟩
    obtain ⟨result, collected, isFailed⟩ := happen reading present
    rw [failed] at isFailed
    cases result with
    | ok metrics => cases isFailed
    | error fault =>
      refine ⟨_, List.mem_map.mpr ⟨reading, present, rfl⟩, ?_, fault, reading.after, collected⟩
      rw [← (happen reading present).key_eq, same]

theorem failedAt_snoc {place : Nat} : FailedAt (log ++ [call]) key place ↔
    FailedAt log key place ∨ place = log.length ∧ call.Failed key := by
  unfold FailedAt
  rcases Nat.lt_trichotomy place log.length with within | rfl | beyond
  · rw [List.getElem?_append_left within]
    simp [Nat.ne_of_lt within]
  · simp
  · have outside : (log ++ [call]).length ≤ place := by
      rw [List.length_append]
      exact beyond
    rw [List.getElem?_eq_none outside, List.getElem?_eq_none (Nat.le_of_lt beyond)]
    simp [Nat.ne_of_gt beyond]

theorem FailedAt.lt_length {place : Nat} (failed : FailedAt log key place) : place < log.length := by
  obtain ⟨call, found, _⟩ := failed
  exact (List.getElem?_eq_some_iff.mp found).1

theorem failedLast_snoc : FailedLast (log ++ [call]) key ↔ call.Failed key := by
  unfold FailedLast
  constructor
  · rintro ⟨place, latest, failed⟩
    rcases failedAt_snoc.mp failed with earlier | ⟨_, failed⟩
    · have within := earlier.lt_length
      simp at latest
      omega
    · exact failed
  · intro failed
    exact ⟨log.length, by simp, failedAt_snoc.mpr (.inr ⟨rfl, failed⟩)⟩

theorem twoStrikes_snoc : TwoStrikes (log ++ [call]) key ↔
    TwoStrikes log key ∨ FailedLast log key ∧ call.Failed key := by
  constructor
  · rintro ⟨place, first, second⟩
    rcases failedAt_snoc.mp second with earlier | ⟨latest, failed⟩
    · rcases failedAt_snoc.mp first with first | ⟨rfl, _⟩
      · exact .inl ⟨place, first, earlier⟩
      · exact absurd earlier.lt_length (by omega)
    · rcases failedAt_snoc.mp first with first | ⟨rfl, _⟩
      · exact .inr ⟨⟨place, latest, first⟩, failed⟩
      · omega
  · rintro (⟨place, first, second⟩ | ⟨⟨place, latest, first⟩, failed⟩)
    · exact ⟨place, failedAt_snoc.mpr (.inl first), failedAt_snoc.mpr (.inl second)⟩
    · exact ⟨place, failedAt_snoc.mpr (.inl first), failedAt_snoc.mpr (.inr ⟨latest, failed⟩)⟩

/-- What a run says of the attribute under a key that only one attribute had at first. -/
structure Strikes (log : List CollectCall) (key : String) (one : Instance) : Prop where
  dropped : TwoStrikes log key → one.matched.countP (·.key = key) = 0
  kept : ¬ TwoStrikes log key → one.matched.countP (·.key = key) = 1
  failing : key ∈ one.failing ↔ ¬ TwoStrikes log key ∧ FailedLast log key

/-- A plain call goes on with what a run says. -/
theorem Strikes.collect (strikes : Strikes log key call.before) (plain : call.IsPlain) :
    Strikes (log ++ [call]) key call.after := by
  obtain ⟨readings, bounds, answers, happen, matched, failing⟩ := plain.readings
  have failed : call.Failed key ↔ Reading.FailedIn key readings := failed_iff bounds answers happen
  have count : readings.countP (·.after.key = key) = call.before.matched.countP (·.key = key) := by
    rw [← bounds, List.countP_map]
    refine List.countP_congr fun reading member => ?_
    simp [(happen reading member).key_eq]
  by_cases struck : TwoStrikes log key
  · have absent : ∀ reading ∈ readings, reading.after.key ≠ key := by
      simpa using List.countP_eq_zero.mp (count.trans (strikes.dropped struck))
    obtain ⟨gone, same⟩ := Reading.survivors_other call.before.failing absent
    have still : TwoStrikes (log ++ [call]) key := twoStrikes_snoc.mpr (.inl struck)
    refine ⟨fun _ => ?_, fun never => absurd still never, ?_⟩
    · rw [matched, gone]
    · rw [failing, same, strikes.failing]
      exact ⟨fun held => absurd struck held.1, fun held => absurd still held.1⟩
  · obtain ⟨dropped, kept, left⟩ :=
      Reading.survivors_own call.before.failing (count.trans (strikes.kept struck))
    have known : key ∈ call.before.failing ↔ FailedLast log key := by
      rw [strikes.failing]
      exact and_iff_right struck
    have two : TwoStrikes (log ++ [call]) key ↔
        Reading.FailedIn key readings ∧ key ∈ call.before.failing := by
      rw [twoStrikes_snoc, known, ← failed, or_iff_right struck]
      exact and_comm
    refine ⟨fun now => ?_, fun never => ?_, ?_⟩
    · rw [matched]
      exact dropped (two.mp now)
    · rw [matched]
      exact kept fun now => never (two.mpr now)
    · rw [failing, left, two, failedLast_snoc, failed]
      constructor
      · exact fun ⟨now, before⟩ => ⟨fun both => before both.2, now⟩
      · exact fun ⟨never, now⟩ => ⟨now, fun before => never ⟨now, before⟩⟩

theorem CollectRun.strikes (run : CollectRun first log last) (none : first.failing = [])
    (unique : first.matched.countP (·.key = key) = 1) : Strikes log key last := by
  induction run with
  | start =>
    have never : ∀ place, ¬ FailedAt [] key place := by
      rintro place ⟨call, found, _⟩
      simp at found
    refine ⟨?_, fun _ => unique, ?_⟩
    · rintro ⟨place, failed, _⟩
      exact absurd failed (never place)
    · constructor
      · intro member
        simp [none] at member
      · rintro ⟨_, place, _, failed⟩
        exact absurd failed (never place)
  | collect run plain ih => exact ih.collect plain

theorem CollectRun.upTo (run : CollectRun first log last) {place : Nat}
    (found : log[place]? = some call) : CollectRun first (log.take (place + 1)) call.after := by
  induction run with
  | start => simp at found
  | @collect log latest run plain ih =>
    by_cases within : place < log.length
    · rw [List.getElem?_append_left within] at found
      rw [List.take_append_of_le_length within]
      exact ih found
    · have bound := (List.getElem?_eq_some_iff.mp found).1
      rw [List.length_append, List.length_singleton] at bound
      have same : place = log.length := by omega
      subst place
      have whole : (log ++ [latest]).take (log.length + 1) = log ++ [latest] :=
        List.take_of_length_le (by simp)
      simp only [List.getElem?_concat_length, Option.some.injEq] at found
      subst call
      rw [whole]
      exact run.collect plain

/-- Strikes do not go away. -/
theorem TwoStrikes.later {place other : Nat} (struck : TwoStrikes (log.take place) key)
    (ordered : place ≤ other) : TwoStrikes (log.take other) key := by
  have failed : ∀ at_, FailedAt (log.take place) key at_ → FailedAt (log.take other) key at_ := by
    rintro at_ ⟨call, found, failed⟩
    refine ⟨call, ?_, failed⟩
    rw [List.getElem?_take] at found ⊢
    split at found
    · next within => rwa [if_pos (Nat.lt_of_lt_of_le within ordered)]
    · cases found
  obtain ⟨at_, first, second⟩ := struck
  exact ⟨at_, failed _ first, failed _ second⟩

private theorem Strikes.isMatched_iff (strikes : Strikes log key one) :
    key ∈ one.matched.map (·.key) ↔ ¬ TwoStrikes log key := by
  have counted : key ∈ one.matched.map (·.key) ↔ 0 < one.matched.countP (·.key = key) := by
    rw [List.countP_pos_iff]
    simp
  rw [counted]
  constructor
  · intro present struck
    simp [strikes.dropped struck] at present
  · intro never
    simp [strikes.kept never]

/-- After any plain calls behind a match, an attribute whose key no other one had is matched just when it
never failed in two calls in a row, and failing just when it is matched and failed in the latest call;
once it is not matched any more, it stays so. -/
theorem two_strikes_evict (fresh : JustMatched first)
    (unique : first.matched.countP (·.key = key) = 1) (run : CollectRun first log last) :
    (key ∈ last.matched.map (·.key) ↔
      ¬ ∃ place, FailedAt log key place ∧ FailedAt log key (place + 1)) ∧
    (key ∈ last.failing ↔ key ∈ last.matched.map (·.key) ∧
      ∃ place, place + 1 = log.length ∧ FailedAt log key place) ∧
    (∀ (place other : Nat) (earlier later : CollectCall), place ≤ other →
      log[place]? = some earlier → log[other]? = some later →
        key ∉ earlier.after.matched.map (·.key) → key ∉ later.after.matched.map (·.key)) := by
  have strikes := fun {log last} (run : CollectRun first log last) =>
    run.strikes fresh.failing_nil unique
  refine ⟨(strikes run).isMatched_iff, ?_, ?_⟩
  · rw [(strikes run).isMatched_iff]
    exact (strikes run).failing
  · intro place other earlier later ordered found₁ found₂ gone present
    have struck : TwoStrikes (log.take (place + 1)) key := Classical.byContradiction fun never =>
      gone ((strikes (run.upTo found₁)).isMatched_iff.mpr never)
    exact (strikes (run.upTo found₂)).isMatched_iff.mp present
      (struck.later (Nat.succ_le_succ ordered))

/-- A bean of one attribute, and the key of that attribute. -/
def threading : Bean := ⟨"java.lang", [("type", "Threading")], "java.lang:type=Threading"⟩

def threadCount : String := "java.lang:type=Threading#ThreadCount"

/-- An instance that collects whatever attributes there are. -/
def watched : Instance where
  settings := { name := "east" }
  configurations := [⟨Filter.empty, Filter.empty, none, []⟩]
  schedule := ⟨none, none, none, 10⟩
  engine := Pattern.engine

theorem watched_found {found : Call.Outcome (.query none)} (well : found = .ok [threading]) :
    (findBeans watched.configurations).Ends [⟨.query none, found⟩] (.ok [threading]) := by
  have same : beanSet [threading] = [threading] := by
    simp only [beanSet, List.mergeSort_singleton]
    rfl
  have settled : Dialogue.Ends (.done (Except.map beanSet (.ok [threading])))
      [] (.ok [threading] : Except ConnectionFault (List Bean)) := by
    rw [Except.map, same]
    exact .done _
  subst well
  exact .ask _ settled

theorem watched_matched {given : Call.Outcome (.attributes threading)}
    (well : given = .ok [⟨"ThreadCount", "int"⟩]) :
    ∃ bound, bound.key = threadCount ∧
      (MatchPass.overBeans (watched.rules .collect) {} [threading]).Ends
        [⟨.attributes threading, given⟩] (.ok { matched := [bound], metricCount := 1 }) := by
  subst well
  exact ⟨_, rfl, .ask _ (.done _)⟩

def unavailable (bound : MatchedAttribute) : Reading where
  bound
  answer := ⟨.read bound.bean bound.name,
    .error (.attributeUnavailable bound.bean.name bound.name "gone")⟩
  failed := true
  after := bound

theorem unavailable_isMild (bound : MatchedAttribute) : (unavailable bound).IsMild := by
  refine ⟨_, .ask _ (.done _), rfl, fun fault same => ?_⟩
  cases same
  rfl

/-- An attribute that is never there is dropped by the second call. -/
theorem two_strikes_evict_threadCount : ∃ first log last, JustMatched first ∧
    first.matched.countP (·.key = threadCount) = 1 ∧ CollectRun first log last ∧
      log.length = 2 ∧ threadCount ∉ last.matched.map (·.key) := by
  obtain ⟨bound, key, passed⟩ := watched_matched rfl
  obtain ⟨now, _, ends⟩ := init_ends rfl rfl (watched_found rfl) passed false 0
  let first := watched.startedWith now [threading] { matched := [bound], metricCount := 1 }
  let readings := [unavailable bound]
  let answers := readings.map (·.answer)
  let second := first.collectedWith 0 readings
  let third := second.collectedWith 0 readings
  have fresh : JustMatched first := .started .collect false 0 ends.canEnd
  have unique : first.matched.countP (·.key = threadCount) = 1 := by
    have single : first.matched = [bound] := rfl
    rw [single]
    simp [key]
  have mild : ∀ reading ∈ readings, reading.IsMild := by
    simpa [readings] using unavailable_isMild bound
  have plain : ∀ {one : Instance}, one.isConnected = true → one.refreshDue 0 = false →
      one.matched = [bound] →
        (CollectCall.mk one answers (one.collectedWith 0 readings)).IsPlain := by
    intro one connected settled single
    have bounds : readings.map (·.bound) = one.matched := single.symm
    obtain ⟨last, metrics, ends⟩ := collect_ends connected settled bounds mild
    exact ⟨0, last, metrics, settled, ends⟩
  have failed : ∀ before after, before.matched = [bound] →
      (CollectCall.mk before answers after).Failed threadCount := by
    intro before after single
    refine ⟨(bound, (unavailable bound).answer), ?_, key, _, bound, .ask _ (.done _)⟩
    simp [single, answers, readings]
  have run : CollectRun first
      ([] ++ [⟨first, answers, second⟩] ++ [⟨second, answers, third⟩]) third :=
    .collect (.collect .start (plain rfl rfl rfl)) (plain rfl rfl rfl)
  refine ⟨first, _, third, fresh, unique, run, rfl, fun present => ?_⟩
  exact (two_strikes_evict fresh unique run).1.mp present
    ⟨0, ⟨_, rfl, failed _ _ rfl⟩, ⟨_, rfl, failed _ _ rfl⟩⟩

end BeanHarvest.Instance
