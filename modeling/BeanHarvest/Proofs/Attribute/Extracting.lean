import BeanHarvest.Attribute.Matched

/-! Extracting: what a live value comes to. Whatever goes wrong with a value that was read concerns its
attribute alone, never the connection to the target; and of the attribute only the metrics that are kept
change. -/
namespace BeanHarvest

/-- Whether an extraction went well, or wrong with a fault of its attribute alone. -/
def WellOrMild {α : Type} (result : Except ExtractionFault α) : Prop :=
  ∀ fault, result = .error fault → fault.isFatal = false

theorem wellOrMild_ok {α : Type} (result : α) : WellOrMild (.ok result) := nofun

theorem wellOrMild_error {α : Type} {fault : ExtractionFault} (mild : fault.isFatal = false) :
    WellOrMild (.error fault : Except ExtractionFault α) := by
  rintro _ ⟨⟩
  exact mild

theorem WellOrMild.map {α β : Type} {result : Except ExtractionFault α} (mild : WellOrMild result)
    (change : α → β) : WellOrMild (result.map change) := by
  rintro fault same
  cases result with
  | ok value => cases same
  | error cause =>
    cases same
    exact mild fault rfl

/-- What went well after a change went well before. -/
theorem exists_of_map_eq_ok {ε α β : Type} {result : Except ε α} {change : α → β} {changed : β}
    (same : result.map change = .ok changed) : ∃ value, result = .ok value ∧ change value = changed := by
  cases result with
  | error fault => cases same
  | ok value => exact ⟨value, rfl, Except.ok.inj same⟩

theorem Extraction.toNumber_mild (name : String) (values : Keyed Double) (value : LiveValue) :
    WellOrMild (Extraction.toNumber name values value) := by
  intro fault same
  unfold Extraction.toNumber Extraction.coerce at same
  split at same
  · cases same
  · dsimp only at same
    split at same
    · split at same <;> cases same
      rfl
    all_goals cases same
    rfl

namespace Column

variable (samples : Column → List Sample) (name : String) (params : Bindings)

theorem collect_mild (column : Column) (metrics : SeenMetrics) (list : List Sample) :
    WellOrMild (column.collect name params metrics list).1 := by
  induction list generalizing metrics with
  | nil => exact wellOrMild_ok []
  | cons sample rest ih =>
    have number := Extraction.toNumber_mild (name ++ "." ++ column.leaf.path) column.leaf.values
      sample.value
    unfold collect
    split
    · next fault same => exact wellOrMild_error (number fault same)
    · exact (ih _).map _

theorem collectAll_mild (metrics : SeenMetrics) (columns : List Column) :
    WellOrMild (collectAll samples name params metrics columns).1 := by
  induction columns generalizing metrics with
  | nil => exact wellOrMild_ok []
  | cons column rest ih =>
    have first := collect_mild name params column metrics (samples column)
    unfold collectAll
    split
    · next fault after same =>
      rw [same] at first
      exact wellOrMild_error (first fault rfl)
    · exact (ih _).map _

theorem collectCached_mild (columns : List Column) (cache : MetricCache) :
    WellOrMild (collectCached samples name params columns cache).1 := by
  have all := collectAll_mild samples name params ⟨cache, []⟩ columns
  unfold collectCached
  split
  · exact wellOrMild_ok _
  · next fault after same =>
    rw [same] at all
    exact wellOrMild_error (all fault rfl)

end Column

theorem Leaf.collectEntries_mild (name : String) (entries : List (String × LiveValue))
    (leaves : List Leaf) : WellOrMild (Leaf.collectEntries name entries leaves) := by
  induction leaves with
  | nil => exact wellOrMild_ok []
  | cons leaf rest ih =>
    unfold Leaf.collectEntries
    split
    · exact wellOrMild_error rfl
    · next value _ =>
      have number := Extraction.toNumber_mild (name ++ "." ++ leaf.path) leaf.values value
      cases same : Extraction.toNumber (name ++ "." ++ leaf.path) leaf.values value with
      | error fault => exact wellOrMild_error (number fault same)
      | ok x => exact ih.map _

namespace MatchedAttribute

/-- What goes wrong with a value that was read leaves the target reachable. -/
theorem extract_mild (bound : MatchedAttribute) (value : LiveValue) :
    WellOrMild (bound.extract value).1 := by
  unfold extract
  split
  · exact (Extraction.toNumber_mild _ _ _).map _
  · split
    · exact Leaf.collectEntries_mild _ _ _
    · exact wellOrMild_error rfl
  · split
    · exact Column.collectCached_mild _ _ _ _ _
    · exact wellOrMild_error rfl
  · split
    · exact Column.collectCached_mild _ _ _ _ _
    · exact wellOrMild_error rfl

def withCache (bound : MatchedAttribute) (cache : MetricCache) : MatchedAttribute :=
  { bound with
    shape := match bound.shape with
      | .simple leaf => .simple leaf
      | .composite leaves => .composite leaves
      | .tabular columns _ => .tabular columns cache
      | .statistics columns _ => .statistics columns cache }

/-- Extraction changes nothing but what is kept. -/
theorem exists_extract_eq (bound : MatchedAttribute) (value : LiveValue) :
    ∃ cache, (bound.extract value).2 = bound.withCache cache := by
  obtain ⟨bean, name, type, params, shape, count⟩ := bound
  unfold extract
  cases shape with
  | simple leaf => exact ⟨[], rfl⟩
  | composite leaves =>
    dsimp only
    split <;> exact ⟨[], rfl⟩
  | tabular columns cache =>
    dsimp only
    split
    · exact ⟨_, rfl⟩
    · exact ⟨cache, rfl⟩
  | statistics columns cache =>
    dsimp only
    split
    · exact ⟨_, rfl⟩
    · exact ⟨cache, rfl⟩

end MatchedAttribute
end BeanHarvest
