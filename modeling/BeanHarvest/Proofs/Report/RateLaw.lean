import BeanHarvest.Proofs.Report.Baselines
import Mathlib.Data.List.Induction

/-! The law of rates, over all that was ever sent or forgotten. The baseline of a series is its last
finite sample, as long as the instance was not forgotten and no later batch of it was without the
series. -/
namespace BeanHarvest.Pipeline

/-- What is done with a pipeline: the batch of an instance is sent at some time, or the baselines of an
instance are forgotten. -/
inductive Event where
  | send (name : String) (metrics : List Metric) (time : Int)
  | clear (name : String)

namespace Event

def name : Event → String
  | send name .. => name
  | clear name => name

def after (baselines : Baselines) : Event → Baselines
  | send name metrics time => (Pipeline.send baselines name metrics time).2
  | clear name => baselines.clear name

/-- Whether an event spares the baseline of a series: it is about another instance, or a batch that has
the series, but no finite sample of it. -/
def Spares (name identity : String) : Event → Prop
  | send other metrics _ =>
    other = name → identity ∈ ratedSeries metrics ∧ lastSample? identity metrics = none
  | clear other => other ≠ name

end Event

def baselinesAfter (history : List Event) : Baselines := history.foldl Event.after []

/-- The baseline of a series behind events: the last finite sample of some batch, if all later events
spare it. -/
def IsBaseline (history : List Event) (name identity : String) (baseline : Baseline) : Prop :=
  ∃ before metrics time later sample, history = before ++ .send name metrics time :: later ∧
    lastSample? identity metrics = some sample ∧ baseline = ⟨sample.value, time⟩ ∧
    ∀ event ∈ later, event.Spares name identity

/-- The baseline of a series when a part of a batch has been taken in: the last finite sample in that
part, or else the baseline behind the events before the batch. -/
def HasBaseline (history : List Event) (name : String) (part : List Metric) (time : Int)
    (identity : String) (baseline : Baseline) : Prop :=
  (∃ sample, lastSample? identity part = some sample ∧ baseline = ⟨sample.value, time⟩) ∨
    lastSample? identity part = none ∧ IsBaseline history name identity baseline

/-- Whether a point is handed over for a metric behind a part of a batch: a finite gauge is, with its
own value; anything else is if it is finite and the rate from the baseline of its series is. -/
def HandsOver (history : List Event) (name : String) (part : List Metric) (time : Int)
    (metric : Metric) (handed : MetricPoint) : Prop :=
  isFinite metric.value = true ∧
    (metric.type.isGauge = true ∧ handed = point metric metric.value ∨
      metric.type.isGauge = false ∧ ∃ before rate,
        HasBaseline history name part time metric.identity before ∧
          before.rate? metric.value time = some rate ∧ handed = point metric rate)

variable {history : List Event} {name identity : String} {metrics : List Metric} {time : Int}
  {baseline : Baseline}

/-- The last sample of a series stands in the batch, and is no gauge. -/
theorem of_lastSample? {sample : Metric} (found : lastSample? identity metrics = some sample) :
    sample ∈ metrics ∧ sample.type.isGauge = false ∧ sample.identity = identity := by
  obtain ⟨member, isSample⟩ := List.mem_filter.mp (List.mem_of_getLast? found)
  simp only [Metric.isSampleOf, Bool.and_eq_true, Bool.not_eq_true', decide_eq_true_eq] at isSample
  obtain ⟨⟨rated, _⟩, same⟩ := isSample
  exact ⟨member, rated, same⟩

theorem mem_ratedSeries_of_lastSample? {sample : Metric}
    (found : lastSample? identity metrics = some sample) : identity ∈ ratedSeries metrics := by
  obtain ⟨member, rated, rfl⟩ := of_lastSample? found
  exact List.mem_map_of_mem (List.mem_filter.mpr ⟨member, by simp [rated]⟩)

/-- An event either sets a baseline or spares it. -/
theorem isBaseline_snoc {event : Event} :
    IsBaseline (history ++ [event]) name identity baseline ↔
      (∃ metrics time sample, event = .send name metrics time ∧
        lastSample? identity metrics = some sample ∧ baseline = ⟨sample.value, time⟩) ∨
      event.Spares name identity ∧ IsBaseline history name identity baseline := by
  constructor
  · rintro ⟨before, metrics, time, later, sample, split, found, same, spared⟩
    rcases List.eq_nil_or_concat later with rfl | ⟨rest, last, rfl⟩
    · obtain ⟨_, one⟩ := List.append_inj' split rfl
      cases one
      exact .inl ⟨metrics, time, sample, rfl, found, same⟩
    · rw [List.concat_eq_append] at split spared
      rw [← List.cons_append, ← List.append_assoc] at split
      obtain ⟨earlier, one⟩ := List.append_inj' split rfl
      cases one
      refine .inr ⟨spared event (by simp), before, metrics, time, rest, sample, earlier, found, same, ?_⟩
      exact fun other member => spared other (List.mem_append_left _ member)
  · rintro (⟨metrics, time, sample, rfl, found, same⟩ |
      ⟨spares, before, metrics, time, later, sample, rfl, found, same, spared⟩)
    · exact ⟨history, metrics, time, [], sample, rfl, found, same, by simp⟩
    · refine ⟨before, metrics, time, later ++ [event], sample, by simp, found, same, ?_⟩
      intro other member
      rcases List.mem_append.mp member with earlier | last
      · exact spared other earlier
      · exact List.mem_singleton.mp last ▸ spares

/-- What an event makes of the baseline of a series. -/
theorem after_get?_iff (baselines : Baselines) (event : Event) :
    (event.after baselines).get? name identity = some baseline ↔
      (∃ metrics time sample, event = .send name metrics time ∧
        lastSample? identity metrics = some sample ∧ baseline = ⟨sample.value, time⟩) ∨
      event.Spares name identity ∧ baselines.get? name identity = some baseline := by
  cases event with
  | send other metrics time =>
    by_cases same : other = name
    · subst other
      simp only [Event.after, send_get?]
      cases found : lastSample? identity metrics with
      | some sample =>
        have rated := mem_ratedSeries_of_lastSample? found
        simp [rated, Event.Spares, found, eq_comm]
      | none =>
        simp [Event.Spares, found]
    · have unchanged : ((Event.send other metrics time).after baselines).get? name identity =
          baselines.get? name identity :=
        congrArg (Keyed.get? · identity) (send_other (Ne.symm same))
      rw [unchanged]
      simp [Event.Spares, same]
  | clear other =>
    have cleared : ((Event.clear other).after baselines).get? name identity =
        if name = other then none else baselines.get? name identity := by
      simp only [Event.after, Baselines.get?, Baselines.ofInstance_clear]
      split <;> rfl
    rw [cleared]
    by_cases same : name = other
    · simp [Event.Spares, same]
    · simp [Event.Spares, same, Ne.symm same]

theorem get?_iff_isBaseline :
    (baselinesAfter history).get? name identity = some baseline ↔
      IsBaseline history name identity baseline := by
  induction history using List.reverseRecOn with
  | nil =>
    constructor
    · intro found
      cases found
    · rintro ⟨before, _, _, _, _, split, _⟩
      simp at split
  | append_singleton history event ih =>
    have last : baselinesAfter (history ++ [event]) = event.after (baselinesAfter history) := by
      simp [baselinesAfter]
    rw [last, after_get?_iff, isBaseline_snoc, ih]

theorem IsBaseline.unique {other : Baseline} (first : IsBaseline history name identity baseline)
    (second : IsBaseline history name identity other) : baseline = other :=
  Option.some.inj ((get?_iff_isBaseline.mpr first).symm.trans (get?_iff_isBaseline.mpr second))

/-- The baseline of a series when a part of a batch has been taken in. -/
theorem steps_get?_iff {part : List Metric} :
    (steps name time (baselinesAfter history) part).2.get? name identity = some baseline ↔
      HasBaseline history name part time identity baseline := by
  rw [steps_get?, HasBaseline, ← get?_iff_isBaseline]
  cases lastSample? identity part with
  | some sample => simp [eq_comm]
  | none => simp

theorem baselinesAfter_ordered (history : List Event) : (baselinesAfter history).Ordered := by
  induction history using List.reverseRecOn with
  | nil => exact fun _ => .nil
  | append_singleton history event ih =>
    rw [baselinesAfter, List.foldl_append]
    cases event with
    | send name metrics time => exact send_ordered ih
    | clear name => exact ih.clear

theorem finite_of_step {baselines : Baselines} {metric : Metric} {handed : MetricPoint}
    (given : (step name time baselines metric).1 = some handed) : isFinite handed.value = true := by
  obtain ⟨finite, ⟨_, rfl⟩ | ⟨_, before, rate, _, found, rfl⟩⟩ := step_fst_iff.mp given
  · exact finite
  · exact Baseline.finite_of_rate? found

/-- An event leaves the baselines of other instances alone. -/
theorem Event.after_other {baselines : Baselines} {event : Event} (different : event.name ≠ name) :
    (event.after baselines).ofInstance name = baselines.ofInstance name := by
  cases event with
  | send other metrics time => exact send_other (Ne.symm different)
  | clear other => exact Baselines.ofInstance_clear.trans (if_neg (Ne.symm different))

/-- The baselines of an instance depend only on what was done with it. -/
theorem ofInstance_of_own (history : List Event) (name : String) :
    (baselinesAfter (history.filter (·.name = name))).ofInstance name =
      (baselinesAfter history).ofInstance name := by
  induction history using List.reverseRecOn with
  | nil => rfl
  | append_singleton history event ih =>
    have last : ∀ events, baselinesAfter (events ++ [event]) = event.after (baselinesAfter events) :=
      fun events => by simp [baselinesAfter]
    rw [List.filter_append]
    by_cases same : event.name = name
    · rw [List.filter_cons_of_pos (by simpa using same), List.filter_nil, last, last]
      cases event with
      | send other metrics time =>
        cases same
        exact (send_congr ih).2
      | clear other =>
        cases same
        simp only [Event.after, Baselines.ofInstance_clear, ih]
    · rw [List.filter_cons_of_neg (by simpa using same), List.filter_nil, List.append_nil, ih, last]
      exact (Event.after_other same).symm

/-- Whatever was sent and forgotten before: of a batch just those metrics are handed over that the law
hands over, in their order; nothing that is not finite is; other instances make no difference; and
behind the batch there are at most as many baselines as it has series. -/
theorem rate_law (history : List Event) (name : String) (metrics : List Metric) (time : Int) :
    (∃ given : List (Option MetricPoint), given.length = metrics.length ∧
      (send (baselinesAfter history) name metrics time).1 = given.filterMap id ∧
      ∀ place metric, metrics[place]? = some metric → ∀ handed,
        given[place]? = some (some handed) ↔
          HandsOver history name (metrics.take place) time metric handed) ∧
    (∀ handed ∈ (send (baselinesAfter history) name metrics time).1,
      isFinite handed.value = true) ∧
    (send (baselinesAfter history) name metrics time).1 =
      (send (baselinesAfter (history.filter (·.name = name))) name metrics time).1 ∧
    (baselinesAfter history).ofInstance name =
      (baselinesAfter (history.filter (·.name = name))).ofInstance name ∧
    (baselinesAfter (history ++ [.send name metrics time])).tracked name ≤
      (ratedSeries metrics).dedup.length := by
  let before := baselinesAfter history
  have sent : (send before name metrics time).1 = (handed name time before metrics).filterMap id :=
    steps_fst
  have own := (ofInstance_of_own history name).symm
  refine ⟨⟨handed name time before metrics, length_handed, sent, ?_⟩, ?_, (send_congr own).1, own, ?_⟩
  · intro place metric found point
    rw [handed_get? place found, Option.some.injEq, step_fst_iff, HandsOver]
    simp only [before, steps_get?_iff]
  · intro point member
    rw [sent, List.mem_filterMap] at member
    obtain ⟨given, member, same⟩ := member
    obtain ⟨behind, metric, rfl⟩ := mem_handed member
    exact finite_of_step same
  · have last : baselinesAfter (history ++ [.send name metrics time]) =
        (send before name metrics time).2 := by
      simp [baselinesAfter, Event.after, before]
    rw [last]
    exact tracked_send (baselinesAfter_ordered history)

end BeanHarvest.Pipeline
