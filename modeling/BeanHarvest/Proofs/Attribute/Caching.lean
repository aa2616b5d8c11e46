import BeanHarvest.Proofs.Attribute.Binding
import BeanHarvest.Proofs.Attribute.Extracting
import BeanHarvest.Proofs.Keyed
import BeanHarvest.Proofs.Sorted
import BeanHarvest.Proofs.Target.Answers

/-! What was collected before: the metrics that an attribute keeps for its rows and groups make no
difference to the numbers, and none at all as long as values that are kept under one text have one
metric. -/
namespace BeanHarvest

/-- Where a metric is seen: a column, and a value that it has. -/
structure Place where
  column : Column
  sample : Sample

namespace Place

def key (params : Bindings) (place : Place) : String := place.column.key params place.sample

def fresh (params : Bindings) (place : Place) : Metric := place.column.fresh params place.sample

def ofColumns (samples : Column → List Sample) (columns : List Column) : List Place :=
  columns.flatMap fun column => (samples column).map (Place.mk column)

end Place

/-- Whether places have no other metric kept than the one with which each begins. -/
def MetricCache.Fits (params : Bindings) (places : List Place) (kept : MetricCache) : Prop :=
  ∀ place ∈ places, ∀ metric, lookup? kept (place.key params) = some metric →
    metric = place.fresh params

/-- Whether metrics were first seen at some places. -/
def MetricCache.Rooted (params : Bindings) (places : List Place) (cache : MetricCache) : Prop :=
  ∀ entry ∈ cache, ∃ place ∈ places, entry = (place.key params, place.fresh params)

namespace SeenMetrics

variable {metrics : SeenMetrics} {key : String} {fresh metric : Metric} {params : Bindings}
  {places : List Place}

/-- The metrics without those that were kept. -/
def forget (metrics : SeenMetrics) : SeenMetrics := ⟨[], metrics.seen⟩

/-- A metric that is kept makes no difference if it is the one that is seen for the first time. -/
theorem see_forget (fits : ∀ metric, lookup? metrics.kept key = some metric → metric = fresh) :
    metrics.forget.see key fresh = ((metrics.see key fresh).1, (metrics.see key fresh).2.forget) := by
  unfold see forget
  cases seen : lookup? metrics.seen key with
  | some metric => rfl
  | none =>
    cases kept : lookup? metrics.kept key with
    | none => rfl
    | some metric =>
      cases fits metric kept
      rfl

theorem lookup?_see_kept {sought : String}
    (found : lookup? (metrics.see key fresh).2.kept sought = some metric) :
    lookup? metrics.kept sought = some metric := by
  unfold see at found
  split at found
  · exact found
  · split at found
    · unfold lookup? at found
      rw [Keyed.get?_filter metrics.kept (fun other => other ≠ key)] at found
      split at found
      · exact found
      · cases found
    · exact found

theorem fits_see (fits : MetricCache.Fits params places metrics.kept) :
    MetricCache.Fits params places (metrics.see key fresh).2.kept :=
  fun place member metric found => fits place member metric (lookup?_see_kept found)

def Rooted (params : Bindings) (places : List Place) (metrics : SeenMetrics) : Prop :=
  MetricCache.Rooted params places (metrics.kept ++ metrics.seen)

theorem see_rooted {column : Column} {sample : Sample} (rooted : metrics.Rooted params places)
    (present : ⟨column, sample⟩ ∈ places) :
    (metrics.see (column.key params sample) (column.fresh params sample)).2.Rooted params places := by
  unfold see
  split
  · exact rooted
  · split
    · next metric kept =>
      intro entry member
      rcases List.mem_append.mp member with old | new
      · exact rooted entry (List.mem_append_left _ (List.mem_filter.mp old).1)
      rcases List.mem_append.mp new with seen | last
      · exact rooted entry (List.mem_append_right _ seen)
      · rw [List.mem_singleton.mp last]
        exact rooted _ (List.mem_append_left _ (Keyed.mem_of_get? kept))
    · intro entry member
      rw [← List.append_assoc] at member
      rcases List.mem_append.mp member with old | last
      · exact rooted entry old
      · exact ⟨⟨column, sample⟩, present, List.mem_singleton.mp last⟩

end SeenMetrics

namespace Column

variable {column : Column} {columns : List Column} {name : String} {params : Bindings}
  {metrics : SeenMetrics} {samples : Column → List Sample} {list : List Sample}

/-- Kept metrics that fit make no difference to what is collected, nor to what was seen. -/
theorem collect_forget
    (fits : MetricCache.Fits params (list.map (Place.mk column)) metrics.kept) :
    column.collect name params metrics.forget list =
      ((column.collect name params metrics list).1,
        (column.collect name params metrics list).2.forget) := by
  induction list generalizing metrics with
  | nil => rfl
  | cons sample rest ih =>
    have fits_first : ∀ metric, lookup? metrics.kept (column.key params sample) = some metric →
        metric = column.fresh params sample :=
      fits ⟨column, sample⟩ List.mem_cons_self
    have fits_rest : MetricCache.Fits params (rest.map (Place.mk column)) metrics.kept :=
      fun place member => fits place (List.mem_cons_of_mem _ member)
    simp only [collect]
    split
    · rfl
    · rw [SeenMetrics.see_forget fits_first, ih (SeenMetrics.fits_see fits_rest)]

theorem fits_collect {places : List Place} (fits : MetricCache.Fits params places metrics.kept) :
    MetricCache.Fits params places (column.collect name params metrics list).2.kept := by
  induction list generalizing metrics with
  | nil => exact fits
  | cons sample rest ih =>
    simp only [collect]
    split
    · exact fits
    · exact ih (SeenMetrics.fits_see fits)

theorem collectAll_forget
    (fits : MetricCache.Fits params (Place.ofColumns samples columns) metrics.kept) :
    collectAll samples name params metrics.forget columns =
      ((collectAll samples name params metrics columns).1,
        (collectAll samples name params metrics columns).2.forget) := by
  induction columns generalizing metrics with
  | nil => rfl
  | cons column rest ih =>
    have fits_first : MetricCache.Fits params ((samples column).map (Place.mk column)) metrics.kept :=
      fun place member => fits place (List.mem_append_left _ member)
    have fits_rest : MetricCache.Fits params (Place.ofColumns samples rest) metrics.kept :=
      fun place member => fits place (List.mem_append_right _ member)
    have later : MetricCache.Fits params (Place.ofColumns samples rest)
        (column.collect name params metrics (samples column)).2.kept := fits_collect fits_rest
    simp only [collectAll]
    rw [collect_forget fits_first]
    generalize column.collect name params metrics (samples column) = collected at later ⊢
    obtain ⟨result, next⟩ := collected
    cases result with
    | error fault => rfl
    | ok batch =>
      dsimp only
      rw [ih later]

theorem collect_rooted {places : List Place} (rooted : metrics.Rooted params places)
    (among : ∀ sample ∈ list, Place.mk column sample ∈ places) :
    (column.collect name params metrics list).2.Rooted params places := by
  induction list generalizing metrics with
  | nil => exact rooted
  | cons sample rest ih =>
    have present : Place.mk column sample ∈ places := among sample List.mem_cons_self
    have among_rest : ∀ other ∈ rest, Place.mk column other ∈ places :=
      fun other member => among other (List.mem_cons_of_mem _ member)
    simp only [collect]
    split
    · exact rooted
    · exact ih (SeenMetrics.see_rooted rooted present) among_rest

theorem collectAll_rooted {places : List Place} (rooted : metrics.Rooted params places)
    (among : ∀ place ∈ Place.ofColumns samples columns, place ∈ places) :
    (collectAll samples name params metrics columns).2.Rooted params places := by
  induction columns generalizing metrics with
  | nil => exact rooted
  | cons column rest ih =>
    have among_rest : ∀ place ∈ Place.ofColumns samples rest, place ∈ places :=
      fun place member => among place (List.mem_append_right _ member)
    have later : (column.collect name params metrics (samples column)).2.Rooted params places :=
      collect_rooted rooted fun sample member =>
        among _ (List.mem_append_left _ (List.mem_map_of_mem member))
    simp only [collectAll]
    generalize column.collect name params metrics (samples column) = collected at later ⊢
    obtain ⟨result, next⟩ := collected
    cases result with
    | error fault => exact later
    | ok batch => exact ih later among_rest

/-- A cache goes on with what was seen at earlier places or at the present ones. -/
theorem collectCached_rooted {places : List Place} {cache : MetricCache}
    (rooted : cache.Rooted params places) :
    (collectCached samples name params columns cache).2.Rooted params
      (places ++ Place.ofColumns samples columns) := by
  have later : (collectAll samples name params ⟨cache, []⟩ columns).2.Rooted params
      (places ++ Place.ofColumns samples columns) := by
    refine collectAll_rooted (fun entry member => ?_) fun place => List.mem_append_right _
    rw [List.append_nil] at member
    obtain ⟨place, present, same⟩ := rooted entry member
    exact ⟨place, List.mem_append_left _ present, same⟩
  unfold collectCached
  generalize collectAll samples name params ⟨cache, []⟩ columns = collected at later ⊢
  obtain ⟨result, metrics⟩ := collected
  cases result with
  | error fault => exact fun entry member => later entry (List.mem_append_left _ member)
  | ok list => exact fun entry member => later entry (List.mem_append_right _ member)

theorem collectCached_forget {cache : MetricCache}
    (fits : cache.Fits params (Place.ofColumns samples columns)) :
    (collectCached samples name params columns cache).1 =
      (collectCached samples name params columns []).1 := by
  let metrics : SeenMetrics := ⟨cache, []⟩
  have same : collectAll samples name params metrics.forget columns =
      ((collectAll samples name params metrics columns).1,
        (collectAll samples name params metrics columns).2.forget) := collectAll_forget fits
  have empty : metrics.forget = ⟨[], []⟩ := rfl
  rw [empty] at same
  unfold collectCached
  rw [same]
  generalize collectAll samples name params ⟨cache, []⟩ columns = collected
  obtain ⟨result, metrics⟩ := collected
  cases result <;> rfl

/-- The numbers of metrics, or the fault that there is instead. -/
def numbers (result : Except ExtractionFault (List Metric)) : Except ExtractionFault (List Double) :=
  result.map (·.map (·.value))

theorem numbers_cons (metric : Metric) (x : Double)
    (result : Except ExtractionFault (List Metric)) :
    numbers (result.map (metric.withValue x :: ·)) = (numbers result).map (x :: ·) := by
  cases result <;> rfl

theorem numbers_append (batch : List Metric) (result : Except ExtractionFault (List Metric)) :
    numbers (result.map (batch ++ ·)) = (numbers result).map (batch.map (·.value) ++ ·) := by
  cases result with
  | error fault => rfl
  | ok metrics => simp [numbers, Except.map]

/-- Whatever was kept and seen, the numbers are those of the samples. -/
theorem collect_numbers (column : Column) (name : String) (params : Bindings)
    (metrics others : SeenMetrics) (list : List Sample) :
    numbers (column.collect name params metrics list).1 =
      numbers (column.collect name params others list).1 := by
  induction list generalizing metrics others with
  | nil => rfl
  | cons sample rest ih =>
    simp only [collect]
    split
    · rfl
    · rw [numbers_cons, numbers_cons, ih]

theorem limited_numbers {metrics others : List Metric} (limit : Option Nat) (order : SortOrder)
    (same : metrics.map (·.value) = others.map (·.value)) :
    (Extraction.limited metrics limit order).map (·.value) =
      (Extraction.limited others limit order).map (·.value) := by
  let before : Double → Double → Bool := fun x y =>
    Extraction.inOrder order (Metric.withValue default x) (Metric.withValue default y)
  have sorted : ∀ list : List Metric,
      (list.mergeSort (Extraction.inOrder order)).map (·.value) =
        (list.map (·.value)).mergeSort before := by
    intro list
    refine List.map_mergeSort fun a _ b _ => ?_
    cases order <;> rfl
  cases limit with
  | none => exact same
  | some limit =>
    unfold Extraction.limited
    dsimp only
    rw [List.map_take, List.map_take, sorted, sorted, same]

theorem collectAll_numbers (samples : Column → List Sample) (name : String) (params : Bindings)
    (metrics others : SeenMetrics) (columns : List Column) :
    numbers (collectAll samples name params metrics columns).1 =
      numbers (collectAll samples name params others columns).1 := by
  induction columns generalizing metrics others with
  | nil => rfl
  | cons column rest ih =>
    have first := collect_numbers column name params metrics others (samples column)
    simp only [collectAll]
    generalize column.collect name params metrics (samples column) = collected at first ⊢
    generalize column.collect name params others (samples column) = collected₂ at first ⊢
    obtain ⟨result, metrics⟩ := collected
    obtain ⟨result₂, others⟩ := collected₂
    cases result with
    | error fault =>
      cases result₂ with
      | error fault₂ => cases first; rfl
      | ok batch₂ => cases first
    | ok batch =>
      cases result₂ with
      | error fault₂ => cases first
      | ok batch₂ =>
        have same : batch.map (·.value) = batch₂.map (·.value) := Except.ok.inj first
        dsimp only
        rw [numbers_append, numbers_append, limited_numbers _ _ same, ih metrics others]

theorem collectCached_numbers (samples : Column → List Sample) (name : String)
    (params : Bindings) (columns : List Column) (cache other : MetricCache) :
    numbers (collectCached samples name params columns cache).1 =
      numbers (collectCached samples name params columns other).1 := by
  have cached : ∀ cache, (collectCached samples name params columns cache).1 =
      (collectAll samples name params ⟨cache, []⟩ columns).1 := by
    intro cache
    unfold collectCached
    split <;> next same => rw [same]
  rw [cached, cached]
  exact collectAll_numbers ..

end Column

namespace MatchedAttribute

variable {bound : MatchedAttribute} {cache : MetricCache} {value : LiveValue}

/-- Where metrics of the attribute are seen in a live value. -/
def places (bound : MatchedAttribute) (value : LiveValue) : List Place :=
  match bound.shape with
  | .simple _ | .composite _ => []
  | .tabular columns _ =>
    match value with
    | .tabular table => Place.ofColumns (·.rowSamples table) columns
    | _ => []
  | .statistics columns _ =>
    if Statistics.isStatistics value then Place.ofColumns (·.groupSamples value) columns else []

/-- Where they are seen in what the reading of the attribute is answered. -/
def placesIn (bound : MatchedAttribute) (answer : (call : Call) → call.Outcome) : List Place :=
  match answer (.read bound.bean bound.name) with
  | .ok value => bound.places value
  | .error _ => []

/-- The attribute after it was collected several times, with what the target answered each time. -/
def after (bound : MatchedAttribute) (history : List ((call : Call) → call.Outcome)) :
    MatchedAttribute :=
  history.foldl (fun bound answer => (bound.collect.result answer).2) bound

theorem result_collect (bound : MatchedAttribute) (answer : (call : Call) → call.Outcome) :
    bound.collect.result answer =
      match answer (.read bound.bean bound.name) with
      | .ok value => bound.extract value
      | .error fault => (.error (.connection fault), bound) := by
  unfold collect Dialogue.result
  cases answer (.read bound.bean bound.name) <;> rfl

/-- Extraction changes nothing but what is kept, and what is kept was seen. -/
theorem extract_withCache (bound : MatchedAttribute) (value : LiveValue) {places : List Place}
    (rooted : cache.Rooted bound.params places) :
    ∃ later : MetricCache, ((bound.withCache cache).extract value).2 = bound.withCache later ∧
      later.Rooted bound.params (places ++ bound.places value) := by
  have unchanged : cache.Rooted bound.params (places ++ bound.places value) := by
    intro entry member
    obtain ⟨place, present, same⟩ := rooted entry member
    exact ⟨place, List.mem_append_left _ present, same⟩
  obtain ⟨bean, name, type, params, shape, count⟩ := bound
  cases shape with
  | simple leaf => exact ⟨cache, rfl, unchanged⟩
  | composite leaves =>
    refine ⟨cache, ?_, unchanged⟩
    unfold extract withCache
    dsimp only
    split <;> rfl
  | tabular columns kept =>
    cases value with
    | tabular table => exact ⟨_, rfl, Column.collectCached_rooted rooted⟩
    | _ => exact ⟨cache, rfl, unchanged⟩
  | statistics columns kept =>
    by_cases isOne : Statistics.isStatistics value = true
    · refine ⟨(Column.collectCached (·.groupSamples value) name params columns cache).2, ?_, ?_⟩
      · unfold extract withCache
        dsimp only
        rw [if_pos isOne]
      · unfold MatchedAttribute.places
        dsimp only
        rw [if_pos isOne]
        exact Column.collectCached_rooted rooted
    · refine ⟨cache, ?_, unchanged⟩
      unfold extract withCache
      dsimp only
      rw [if_neg isOne]

theorem collect_withCache (bound : MatchedAttribute) (answer : (call : Call) → call.Outcome)
    {places : List Place} (rooted : cache.Rooted bound.params places) :
    ∃ later : MetricCache, ((bound.withCache cache).collect.result answer).2 = bound.withCache later ∧
      later.Rooted bound.params (places ++ bound.placesIn answer) := by
  have read : (bound.withCache cache).bean = bound.bean ∧ (bound.withCache cache).name = bound.name :=
    ⟨rfl, rfl⟩
  rw [result_collect, read.1, read.2]
  unfold placesIn
  cases answer (.read bound.bean bound.name) with
  | ok value => exact extract_withCache bound value rooted
  | error fault => exact ⟨cache, rfl, by simpa using rooted⟩

/-- What is kept after some collections was seen in one of them. -/
theorem after_withCache (bound : MatchedAttribute)
    (history : List ((call : Call) → call.Outcome)) {places : List Place}
    (rooted : cache.Rooted bound.params places) :
    ∃ later : MetricCache, (bound.withCache cache).after history = bound.withCache later ∧
      later.Rooted bound.params (places ++ history.flatMap bound.placesIn) := by
  induction history generalizing cache places with
  | nil => exact ⟨cache, rfl, by simpa using rooted⟩
  | cons answer rest ih =>
    obtain ⟨next, collected, rooted⟩ := collect_withCache bound answer rooted
    obtain ⟨later, went, rooted⟩ := ih rooted
    refine ⟨later, ?_, ?_⟩
    · rw [after, List.foldl_cons, collected]
      exact went
    · rw [List.flatMap_cons, ← List.append_assoc]
      exact rooted

theorem extract_numbers (bound : MatchedAttribute) (cache other : MetricCache)
    (value : LiveValue) :
    Column.numbers ((bound.withCache cache).extract value).1 =
      Column.numbers ((bound.withCache other).extract value).1 := by
  obtain ⟨bean, name, type, params, shape, count⟩ := bound
  cases shape with
  | simple leaf => rfl
  | composite leaves => rfl
  | tabular columns kept =>
    cases value with
    | tabular table => exact Column.collectCached_numbers ..
    | _ => rfl
  | statistics columns kept =>
    unfold extract withCache
    dsimp only
    split
    · exact Column.collectCached_numbers ..
    · rfl

theorem extract_forget (bound : MatchedAttribute) (value : LiveValue)
    (fits : cache.Fits bound.params (bound.places value)) :
    ((bound.withCache cache).extract value).1 = ((bound.withCache []).extract value).1 := by
  obtain ⟨bean, name, type, params, shape, count⟩ := bound
  cases shape with
  | simple leaf => rfl
  | composite leaves => rfl
  | tabular columns kept =>
    cases value with
    | tabular table => exact Column.collectCached_forget fits
    | _ => rfl
  | statistics columns kept =>
    unfold places at fits
    unfold extract withCache
    dsimp only at fits ⊢
    split
    · next isOne =>
      rw [if_pos isOne] at fits
      exact Column.collectCached_forget fits
    · rfl

/-- Whatever was collected before, an attribute gives the same numbers in the same order, or the same
fault, as when it was just bound; and it gives the same metrics as long as no value is kept under the
text of an earlier one that had another metric. -/
theorem collect_after (bound : MatchedAttribute) (history : List ((call : Call) → call.Outcome))
    (answer : (call : Call) → call.Outcome) :
    let first := bound.withCache []
    Column.numbers ((first.after history).collect.result answer).1 =
        Column.numbers (first.collect.result answer).1 ∧
      ((∀ earlier ∈ history.flatMap bound.placesIn, ∀ now ∈ bound.placesIn answer,
          earlier.key bound.params = now.key bound.params →
            earlier.fresh bound.params = now.fresh bound.params) →
        ((first.after history).collect.result answer).1 = (first.collect.result answer).1) := by
  intro first
  have empty : MetricCache.Rooted bound.params [] [] := fun entry member => nomatch member
  obtain ⟨later, went, rooted⟩ := after_withCache bound history empty
  have went₂ : first.after history = bound.withCache later := went
  have read : ∀ cache, (bound.withCache cache).bean = bound.bean ∧
      (bound.withCache cache).name = bound.name := fun _ => ⟨rfl, rfl⟩
  rw [went₂, result_collect, result_collect, (read later).1, (read later).2, (read []).1, (read []).2]
  unfold placesIn at rooted ⊢
  cases answer (.read bound.bean bound.name) with
  | error fault => exact ⟨rfl, fun _ => rfl⟩
  | ok value =>
    refine ⟨extract_numbers bound later [] value, fun agree => extract_forget bound value ?_⟩
    intro now member metric found
    -- A metric that is kept for this place was first seen at an earlier one under the same text.
    obtain ⟨earlier, seen, same⟩ := rooted _ (Keyed.mem_of_get? found)
    obtain ⟨sameKey, rfl⟩ := Prod.mk.inj same
    exact agree earlier seen now member sameKey.symm

/-- A table with one row, under an index of some name. -/
def poolTable (index : String) (count : Int) : LiveValue :=
  .tabular ⟨[index], [⟨["eden"], [("count", .integer count), ("pool", .string "eden")]⟩]⟩

def pools : Candidate :=
  ⟨⟨"app", [("type", "Gc")], "app:type=Gc"⟩,
    ⟨"Pools", "javax.management.openmbean.TabularData"⟩⟩

def reading (value : LiveValue) : (call : Call) → call.Outcome
  | .read _ _ => .ok value
  | _ => .error .closed

/-- A row that is seen again under an index of another name keeps the tags of the first name. -/
theorem collect_keeps_first_tags :
    let context : InstanceContext := ⟨"east", "jmx", [], false, false⟩
    let earlier := reading (poolTable "pool" 1)
    let now := reading (poolTable "area" 2)
    ∃ bound stale current,
      (pools.bind context [Candidate.naming (some ["Pools.count"]) none]).result earlier =
        .ok (some bound) ∧ bound.withCache [] = bound ∧
      ((bound.after [earlier]).collect.result now).1 = .ok [stale] ∧
      (bound.collect.result now).1 = .ok [current] ∧
      "pool:eden" ∈ stale.tags ∧ "pool:eden" ∉ current.tags := by
  intro context earlier now
  let found := Candidate.naming (some ["Pools.count"]) none
  let column := pools.column .tabular context found (poolTable "pool" 1) "count"
  let bound := pools.matched found (.tabular [column] []) 1
  have read : earlier (.read pools.bean pools.name) = .ok (poolTable "pool" 1) := rfl
  have isBound : pools.bindNested .tabular context found (poolTable "pool" 1) = some bound := by
    have single : sortedSet ["count"] = ["count"] :=
      sortedSet_of_ascending (List.pairwise_singleton _ _)
    have paths : Candidate.subPaths .tabular (poolTable "pool" 1) = ["count"] := single
    have selected : pools.selectedPaths .tabular found ["count"] = ["count"] := by
      rw [Candidate.selectedPaths_eq]
      decide
    unfold Candidate.bindNested
    rw [paths, selected]
    rfl
  have binds : (pools.bind context [found]).result earlier = .ok (some bound) := by
    have known : pools.kindAt? context (poolTable "pool" 1) = some .tabular := by decide
    rw [Candidate.bind_result pools context [found] read, known]
    have taken : (pools.offer .tabular context found).takenAt (poolTable "pool" 1) = some bound :=
      (Candidate.offerNested_takenAt ..).trans isBound
    simp [taken]
  refine ⟨bound, _, _, binds, rfl, rfl, rfl, ?_, ?_⟩
  · exact mem_sortedSet.mpr (List.mem_append_right _ List.mem_cons_self)
  · intro member
    rcases List.mem_append.mp (mem_sortedSet.mp member) with base | own
    · exact absurd (mem_sortedSet.mp base) (by decide)
    · exact absurd own (by decide)

end MatchedAttribute
end BeanHarvest
