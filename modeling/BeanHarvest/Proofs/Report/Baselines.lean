import BeanHarvest.Proofs.Keyed
import BeanHarvest.Report.Pipeline
import Mathlib.Data.List.Dedup
import Mathlib.Data.List.Perm.Subperm

/-! What a batch does to baselines. Each metric changes at most the baseline of its own series, to its
own value; the end of the batch takes away those of the series that are not in it. -/
namespace BeanHarvest

namespace Keyed

theorem get?_map {α β : Type} (entries : Keyed α) (change : String → α → β) (sought : String) :
    get? (entries.map fun entry => (entry.1, change entry.1 entry.2)) sought =
      (entries.get? sought).map (change sought) := by
  induction entries with
  | nil => rfl
  | cons entry rest ih =>
    obtain ⟨key, value⟩ := entry
    rw [List.map_cons, get?_cons, get?_cons, ih]
    by_cases same : key = sought
    · subst sought
      simp
    · simp [same]

end Keyed

theorem Baseline.finite_of_rate? {before : Baseline} {value rate : Float} {time : Int}
    (found : before.rate? value time = some rate) : isFinite rate = true := by
  unfold rate? at found
  dsimp only at found
  split at found
  · next finite =>
    cases found
    exact finite
  · cases found

namespace Baselines

variable {baselines : Baselines} {name other identity : String} {value : Float} {time : Int}

theorem ofInstance_observe :
    (baselines.observe name identity value time).2.ofInstance other =
      if other = name then (baselines.ofInstance name).insert identity ⟨value, time⟩
      else baselines.ofInstance other := by
  simp only [observe, ofInstance, Keyed.get?_insert]
  by_cases same : other = name
  · subst other
    simp
  · simp [same, Ne.symm same]

theorem ofInstance_clear :
    (baselines.clear name).ofInstance other = if other = name then [] else baselines.ofInstance other := by
  have found := Keyed.get?_filter baselines (fun key => decide (key ≠ name)) other
  unfold ofInstance clear
  rw [found]
  by_cases same : other = name
  · simp [same]
  · simp [same]

theorem ofInstance_retain (live : List String) :
    (baselines.retain name live).ofInstance other =
      if other = name then (baselines.ofInstance name).filter fun entry => live.contains entry.1
      else baselines.ofInstance other := by
  have shape : baselines.retain name live = baselines.map fun entry =>
      (entry.1, if entry.1 = name then entry.2.filter fun entry => live.contains entry.1 else entry.2) := by
    unfold retain
    refine List.map_congr_left fun entry _ => ?_
    by_cases same : entry.1 = name
    · simp [same]
    · simp [same]
  have found := Keyed.get?_map baselines (fun key series =>
    if key = name then series.filter fun entry => live.contains entry.1 else series) other
  unfold ofInstance
  rw [shape, found]
  by_cases same : other = name
  · subst other
    cases Keyed.get? baselines name <;> simp
  · cases Keyed.get? baselines other <;> simp [same]

/-- The series of every instance ascend. -/
def Ordered (baselines : Baselines) : Prop := ∀ name, (baselines.ofInstance name).Ascending

theorem Ordered.observe (ordered : baselines.Ordered) :
    (baselines.observe name identity value time).2.Ordered := by
  intro other
  rw [ofInstance_observe]
  split
  · exact (ordered name).insert identity _
  · exact ordered other

theorem Ordered.clear (ordered : baselines.Ordered) : (baselines.clear name).Ordered := by
  intro other
  rw [ofInstance_clear]
  split
  · exact .nil
  · exact ordered other

theorem Ordered.retain (ordered : baselines.Ordered) (live : List String) :
    (baselines.retain name live).Ordered := by
  intro other
  rw [ofInstance_retain]
  split
  · exact (ordered name).filter _
  · exact ordered other

end Baselines

/-- Whether a metric is a sample of a series: a finite value that is reported as a rate. -/
def Metric.isSampleOf (identity : String) (metric : Metric) : Bool :=
  !metric.type.isGauge && isFinite metric.value && metric.identity = identity

namespace Pipeline

variable {baselines : Baselines} {name other identity : String} {time : Int} {metric : Metric}
  {metrics : List Metric}

/-- The last finite sample of a series among metrics. -/
def lastSample? (identity : String) (metrics : List Metric) : Option Metric :=
  (metrics.filter (·.isSampleOf identity)).getLast?

theorem lastSample?_cons :
    lastSample? identity (metric :: metrics) =
      (lastSample? identity metrics).or
        (if metric.isSampleOf identity then some metric else none) := by
  unfold lastSample?
  by_cases isSample : metric.isSampleOf identity = true
  · rw [List.filter_cons_of_pos isSample, if_pos isSample, List.getLast?_cons]
    cases (metrics.filter (·.isSampleOf identity)).getLast? <;> rfl
  · rw [List.filter_cons_of_neg isSample, if_neg isSample, Option.or_none]

/-- A metric leaves all baselines alone unless it is a sample of its series; then it is the baseline. -/
theorem step_snd : (step name time baselines metric).2 =
    if metric.isSampleOf metric.identity then
      (baselines.observe name metric.identity metric.value time).2
    else baselines := by
  unfold step Metric.isSampleOf
  cases isFinite metric.value <;> cases metric.type.isGauge <;> simp

theorem step_get? : (step name time baselines metric).2.get? name identity =
    if metric.isSampleOf identity then some ⟨metric.value, time⟩
    else baselines.get? name identity := by
  rw [step_snd]
  by_cases same : metric.identity = identity
  · subst identity
    split
    · simp [Baselines.get?, Baselines.ofInstance_observe, Keyed.get?_insert]
    · rfl
  · have never : metric.isSampleOf identity = false := by simp [Metric.isSampleOf, same]
    rw [never]
    split
    · simp [Baselines.get?, Baselines.ofInstance_observe, Keyed.get?_insert, same]
    · rfl

theorem step_other (different : other ≠ name) :
    (step name time baselines metric).2.ofInstance other = baselines.ofInstance other := by
  rw [step_snd]
  split
  · rw [Baselines.ofInstance_observe, if_neg different]
  · rfl

theorem step_ordered (ordered : baselines.Ordered) :
    (step name time baselines metric).2.Ordered := by
  rw [step_snd]
  split
  · exact ordered.observe
  · exact ordered

/-- What is handed over for a metric: a finite gauge as it is; for a sample of a series that has a
baseline, the rate if it is finite. -/
theorem step_fst_iff {handed : MetricPoint} :
    (step name time baselines metric).1 = some handed ↔
      isFinite metric.value = true ∧
        (metric.type.isGauge = true ∧ handed = point metric metric.value ∨
          metric.type.isGauge = false ∧ ∃ before rate,
            baselines.get? name metric.identity = some before ∧
              before.rate? metric.value time = some rate ∧ handed = point metric rate) := by
  unfold step
  cases isFinite metric.value with
  | false => simp
  | true =>
    cases metric.type.isGauge with
    | true => simp [eq_comm]
    | false =>
      simp only [Baselines.observe]
      cases baselines.get? name metric.identity with
      | none => simp
      | some before =>
        constructor
        · intro same
          obtain ⟨rate, found, rfl⟩ := Option.map_eq_some_iff.mp same
          exact ⟨trivial, .inr ⟨trivial, before, rate, rfl, found, rfl⟩⟩
        · rintro ⟨_, ⟨⟨⟩, _⟩ | ⟨_, _, rate, ⟨⟩, found, rfl⟩⟩
          exact Option.map_eq_some_iff.mpr ⟨rate, found, rfl⟩

/-- What is handed over for each metric of a batch. -/
def handed (name : String) (time : Int) (baselines : Baselines) :
    List Metric → List (Option MetricPoint)
  | [] => []
  | metric :: rest =>
    (step name time baselines metric).1 ::
      handed name time (step name time baselines metric).2 rest

theorem steps_fst : (steps name time baselines metrics).1 =
    (handed name time baselines metrics).filterMap id := by
  induction metrics generalizing baselines with
  | nil => rfl
  | cons metric rest ih =>
    simp only [steps, handed, ih, List.filterMap_cons]
    cases (step name time baselines metric).1 <;> rfl

theorem length_handed : (handed name time baselines metrics).length = metrics.length := by
  induction metrics generalizing baselines with
  | nil => rfl
  | cons metric rest ih => simp [handed, ih]

theorem mem_handed {given : Option MetricPoint}
    (member : given ∈ handed name time baselines metrics) :
    ∃ behind metric, given = (step name time behind metric).1 := by
  induction metrics generalizing baselines with
  | nil => cases member
  | cons metric rest ih =>
    rcases List.mem_cons.mp member with same | later
    · exact ⟨baselines, metric, same⟩
    · exact ih later

/-- For a metric is handed over what it gives behind the metrics in front of it. -/
theorem handed_get? (place : Nat) (found : metrics[place]? = some metric) :
    (handed name time baselines metrics)[place]? =
      some (step name time (steps name time baselines (metrics.take place)).2 metric).1 := by
  induction metrics generalizing baselines place with
  | nil => cases found
  | cons first rest ih =>
    cases place with
    | zero =>
      cases found
      rfl
    | succ place =>
      simp only [List.getElem?_cons_succ] at found
      simpa [handed, steps] using ih place found

theorem steps_get? : (steps name time baselines metrics).2.get? name identity =
    ((lastSample? identity metrics).map fun sample => ⟨sample.value, time⟩).or
      (baselines.get? name identity) := by
  induction metrics generalizing baselines with
  | nil => rfl
  | cons metric rest ih =>
    have unfolded : (steps name time baselines (metric :: rest)).2 =
        (steps name time (step name time baselines metric).2 rest).2 := rfl
    rw [unfolded, ih, step_get?, lastSample?_cons]
    cases lastSample? identity rest with
    | some sample => rfl
    | none => split <;> simp_all

theorem steps_other (different : other ≠ name) :
    (steps name time baselines metrics).2.ofInstance other = baselines.ofInstance other := by
  induction metrics generalizing baselines with
  | nil => rfl
  | cons metric rest ih => exact ih.trans (step_other different)

theorem steps_ordered (ordered : baselines.Ordered) :
    (steps name time baselines metrics).2.Ordered := by
  induction metrics generalizing baselines with
  | nil => exact ordered
  | cons metric rest ih => exact ih (step_ordered ordered)

/-- The end of a batch keeps the baselines of the series that are in it. -/
theorem ofInstance_send : (send baselines name metrics time).2.ofInstance name =
    ((steps name time baselines metrics).2.ofInstance name).filter
      fun entry => (ratedSeries metrics).contains entry.1 :=
  (Baselines.ofInstance_retain (ratedSeries metrics)).trans (if_pos rfl)

theorem send_get? : (send baselines name metrics time).2.get? name identity =
    if identity ∈ ratedSeries metrics then
      ((lastSample? identity metrics).map fun sample => ⟨sample.value, time⟩).or
        (baselines.get? name identity)
    else none := by
  have kept := Keyed.get?_filter ((steps name time baselines metrics).2.ofInstance name)
    (ratedSeries metrics).contains identity
  rw [Baselines.get?, ofInstance_send, kept, ← steps_get?]
  simp only [List.contains_iff_mem]
  rfl

theorem send_other (different : other ≠ name) :
    (send baselines name metrics time).2.ofInstance other = baselines.ofInstance other :=
  ((Baselines.ofInstance_retain (ratedSeries metrics)).trans (if_neg different)).trans
    (steps_other different)

theorem send_ordered (ordered : baselines.Ordered) :
    (send baselines name metrics time).2.Ordered := (steps_ordered ordered).retain _

/-- Behind a batch there are at most as many baselines as the batch has series. -/
theorem tracked_send (ordered : baselines.Ordered) :
    (send baselines name metrics time).2.tracked name ≤ (ratedSeries metrics).dedup.length := by
  have nodup : ((send baselines name metrics time).2.ofInstance name).keys.Nodup :=
    (send_ordered ordered name).nodup
  have within : ((send baselines name metrics time).2.ofInstance name).keys ⊆
      (ratedSeries metrics).dedup := by
    intro identity member
    obtain ⟨entry, kept, rfl⟩ := List.mem_map.mp member
    rw [ofInstance_send] at kept
    simpa using (List.mem_filter.mp kept).2
  have fewer := (List.subperm_of_subset nodup within).length_le
  simpa [Baselines.tracked, Keyed.keys] using fewer

variable {first second : Baselines}

theorem step_congr (same : first.ofInstance name = second.ofInstance name) (metric : Metric)
    (time : Int) :
    (step name time first metric).1 = (step name time second metric).1 ∧
      (step name time first metric).2.ofInstance name =
        (step name time second metric).2.ofInstance name := by
  have baseline : first.get? name metric.identity = second.get? name metric.identity :=
    congrArg (Keyed.get? · metric.identity) same
  constructor
  · refine Option.ext fun handed => ?_
    rw [step_fst_iff, step_fst_iff, baseline]
  · rw [step_snd, step_snd]
    split
    · rw [Baselines.ofInstance_observe, Baselines.ofInstance_observe, same]
    · exact same

/-- What is handed over for an instance depends on no other instance's baselines. -/
theorem send_congr (same : first.ofInstance name = second.ofInstance name) :
    (send first name metrics time).1 = (send second name metrics time).1 ∧
      (send first name metrics time).2.ofInstance name =
        (send second name metrics time).2.ofInstance name := by
  have stepped : (steps name time first metrics).1 = (steps name time second metrics).1 ∧
      (steps name time first metrics).2.ofInstance name =
        (steps name time second metrics).2.ofInstance name := by
    induction metrics generalizing first second with
    | nil => exact ⟨rfl, same⟩
    | cons metric rest ih =>
      obtain ⟨handed, next⟩ := step_congr same metric time
      obtain ⟨others, final⟩ := ih next
      refine ⟨?_, final⟩
      simp only [steps, handed, others]
  refine ⟨stepped.1, ?_⟩
  rw [ofInstance_send, ofInstance_send, stepped.2]

end Pipeline
end BeanHarvest
