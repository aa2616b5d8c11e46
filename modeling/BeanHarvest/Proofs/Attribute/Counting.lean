import BeanHarvest.Proofs.Attribute.Binding
import BeanHarvest.Proofs.Attribute.Extracting
import Mathlib.Algebra.GroupWithZero.Nat

/-! Counting: how many metrics an attribute gives. What was counted when an attribute was bound is what
every extraction gives that goes well, as long as the live value stays what it was, whatever metrics are
kept. -/
namespace BeanHarvest

/-- Whether an extraction gives so many metrics, unless it goes wrong. -/
def GivesCount (count : Nat) (result : Except ExtractionFault (List Metric)) : Prop :=
  ∀ metrics, result = .ok metrics → metrics.length = count

theorem givesCount_ok (metrics : List Metric) : GivesCount metrics.length (.ok metrics) := by
  rintro _ ⟨⟩
  rfl

theorem givesCount_error {count : Nat} (fault : ExtractionFault) :
    GivesCount count (.error fault) := nofun

theorem GivesCount.append {count : Nat} {result : Except ExtractionFault (List Metric)}
    (gives : GivesCount count result) (batch : List Metric) :
    GivesCount (batch.length + count) (result.map (batch ++ ·)) := by
  rintro _ same
  cases result with
  | error fault => cases same
  | ok others =>
    cases same
    rw [List.length_append, gives others rfl]

/-- As many metrics are kept as the column's limit allows. -/
theorem Extraction.length_limited (column : Column) (batch : List Metric) :
    (Extraction.limited batch column.limit column.order).length =
      Candidate.withinLimit column batch.length := by
  unfold Extraction.limited Candidate.withinLimit
  cases column.limit with
  | none => rfl
  | some limit =>
    dsimp only
    rw [List.length_take, List.length_mergeSort, Nat.min_comm]

namespace Column

variable (samples : Column → List Sample) (name : String) (params : Bindings)

theorem collect_gives (column : Column) (metrics : SeenMetrics) (list : List Sample) :
    GivesCount list.length (column.collect name params metrics list).1 := by
  induction list generalizing metrics with
  | nil => exact givesCount_ok []
  | cons sample rest ih =>
    unfold collect
    split
    · exact givesCount_error _
    · rw [List.length_cons, Nat.add_comm]
      exact (ih _).append [_]

/-- Columns give the metrics of their values, each column within its limit. -/
theorem collectAll_gives (metrics : SeenMetrics) (columns : List Column) :
    GivesCount (columns.map fun column => Candidate.withinLimit column (samples column).length).sum
      (collectAll samples name params metrics columns).1 := by
  induction columns generalizing metrics with
  | nil => exact givesCount_ok []
  | cons column rest ih =>
    have first := collect_gives name params column metrics (samples column)
    unfold collectAll
    split
    · exact givesCount_error _
    · next batch after same =>
      rw [same] at first
      rw [List.map_cons, List.sum_cons, ← first batch rfl, ← Extraction.length_limited]
      exact (ih _).append _

theorem collectCached_gives (columns : List Column) (cache : MetricCache) :
    GivesCount (columns.map fun column => Candidate.withinLimit column (samples column).length).sum
      (collectCached samples name params columns cache).1 := by
  have all := collectAll_gives samples name params ⟨cache, []⟩ columns
  unfold collectCached
  split
  · next metrics after same =>
    rw [same] at all
    exact all
  · exact givesCount_error _

theorem length_rowSamples (column : Column) (table : Table LiveValue) :
    (column.rowSamples table).length =
      table.rows.countP fun row => (row.atPath? column.leaf.path).isSome := by
  unfold rowSamples
  rw [List.length_filterMap_eq_countP]
  exact List.countP_congr fun row _ => by rw [Option.isSome_map]

end Column

/-- The metrics of a composite value are as many as its paths. -/
theorem Leaf.collectEntries_gives (name : String) (entries : List (String × LiveValue))
    (leaves : List Leaf) : GivesCount leaves.length (Leaf.collectEntries name entries leaves) := by
  induction leaves with
  | nil => exact givesCount_ok []
  | cons leaf rest ih =>
    unfold Leaf.collectEntries
    split
    · exact givesCount_error _
    · next value _ =>
      cases Extraction.toNumber (name ++ "." ++ leaf.path) leaf.values value with
      | error fault => exact givesCount_error fault
      | ok x =>
        rw [List.length_cons, Nat.add_comm]
        exact ih.append [leaf.template.withValue x]

namespace MatchedAttribute

variable {bound : MatchedAttribute}

/-- The number of metrics that a live value gives if it can be extracted. -/
def metricsIn (bound : MatchedAttribute) (value : LiveValue) : Nat :=
  match bound.shape with
  | .simple _ => 1
  | .composite leaves => leaves.length
  | .tabular columns _ =>
    match value with
    | .tabular table =>
      (columns.map fun column => Candidate.withinLimit column (column.rowSamples table).length).sum
    | _ => 0
  | .statistics columns _ =>
    (columns.map fun column => Candidate.withinLimit column (column.groupSamples value).length).sum

theorem extract_gives (bound : MatchedAttribute) (value : LiveValue) :
    GivesCount (bound.metricsIn value) (bound.extract value).1 := by
  unfold extract metricsIn
  cases bound.shape with
  | simple leaf =>
    dsimp only
    cases Extraction.toNumber bound.name leaf.values value with
    | error fault => exact givesCount_error fault
    | ok x => exact givesCount_ok [_]
  | composite leaves =>
    dsimp only
    split
    · exact Leaf.collectEntries_gives _ _ _
    · exact givesCount_error _
  | tabular columns cache =>
    cases value with
    | tabular table => exact Column.collectCached_gives _ _ _ _ _
    | _ => exact givesCount_error _
  | statistics columns cache =>
    dsimp only
    split
    · exact Column.collectCached_gives _ _ _ _ _
    · exact givesCount_error _

/-- Whether an attribute counts as many metrics as its value gives. -/
def Counts (values : Bean → String → LiveValue) (bound : MatchedAttribute) : Prop :=
  bound.metricCount = bound.metricsIn (values bound.bean bound.name)

/-- What is kept makes no difference. -/
theorem Counts.withCache {values : Bean → String → LiveValue} (counts : bound.Counts values)
    (cache : MetricCache) : (bound.withCache cache).Counts values := by
  obtain ⟨bean, name, type, params, shape, count⟩ := bound
  cases shape <;> exact counts

end MatchedAttribute

namespace Candidate

variable {candidate : Candidate} {kind : AttributeKind} {context : InstanceContext}
  {found : BeanMatch} {value : LiveValue} {bound : MatchedAttribute}

/-- The metrics that the columns of a table give are those that were counted. -/
theorem sum_rowSamples (table : Table LiveValue) (columns : List Column) :
    (columns.map fun column => withinLimit column (column.rowSamples table).length).sum =
      columns.foldl (· + rowCount table ·) 0 := by
  simp only [Column.length_rowSamples]
  rw [List.sum_eq_foldl, List.foldl_map]
  rfl

/-- What a configuration makes of a value counts the metrics of the value. -/
theorem metricCount_bindNested (nested : kind ≠ .simple) (known : kind ≠ .statistics)
    (isBound : candidate.bindNested kind context found value = some bound) :
    bound.metricCount = bound.metricsIn value := by
  unfold bindNested at isBound
  dsimp only at isBound
  split at isBound
  · cases isBound
  · cases kind with
    | simple => exact absurd rfl nested
    | statistics => exact absurd rfl known
    | composite =>
      cases isBound
      exact (List.length_map _).symm
    | tabular =>
      cases isBound
      cases value with
      | tabular table =>
        exact (sum_rowSamples table _).symm
      | _ => rfl

/-- An attribute that is known by its declared type counts the metrics of the value for which it is
taken. -/
theorem metricCount_of_taken (known : kind ≠ .statistics)
    (taken : (candidate.offer kind context found).takenAt value = some bound) :
    bound.metricCount = bound.metricsIn value := by
  by_cases single : kind = .simple
  · subst single
    simp only [offer, offerSimple] at taken
    split at taken
    · cases taken
    · split at taken <;> cases taken <;> rfl
  · rw [offer_of_nested candidate context found single, offerNested_takenAt] at taken
    exact metricCount_bindNested single known taken

/-- No declared type tells of statistics. -/
theorem kind?_ne_statistics (candidate : Candidate) : candidate.kind? ≠ some .statistics := by
  unfold kind? AttributeKind.ofType?
  split
  · nofun
  · split
    · nofun
    · split <;> nofun

end Candidate
end BeanHarvest
