import BeanHarvest.Proofs.Attribute.Caching
import BeanHarvest.Proofs.Each
import BeanHarvest.Proofs.Text

/-! Rows of tables: what an attribute that was just bound gives for a table. Every row in which a column
has a value gives one metric with its own number. The tags are those of the first row that was kept under
the same text; they are the row's own as long as no other tags were kept under that text, and always so
where the index values have no commas and no bars. -/
namespace BeanHarvest

namespace Place

variable {params : Bindings} {before after places : List Place} {place : Place}

/-- The first of some places that is kept under the text of this one. -/
def first (params : Bindings) (places : List Place) (place : Place) : Place :=
  (places.find? fun other => other.key params = place.key params).getD place

theorem key_first : (place.first params places).key params = place.key params := by
  unfold first
  cases found : places.find? fun other => other.key params = place.key params with
  | none => rfl
  | some other =>
    have same := List.find?_some found
    rwa [decide_eq_true_iff] at same

theorem first_mem (member : place ∈ places) : place.first params places ∈ places := by
  unfold first
  cases found : places.find? fun other => other.key params = place.key params with
  | none => exact member
  | some other => exact List.mem_of_find?_eq_some found

/-- What comes behind a place is not the first under its text. -/
theorem first_append (member : place ∈ before) :
    place.first params (before ++ after) = place.first params before := by
  unfold first
  obtain ⟨other, found⟩ : ∃ other,
      before.find? (fun other => other.key params = place.key params) = some other :=
    Option.isSome_iff_exists.mp (List.find?_isSome.mpr ⟨place, member, decide_eq_true rfl⟩)
  rw [List.find?_append, found, Option.some_or]

/-- Whether places that are kept under one text have one metric. -/
def Agree (params : Bindings) (places : List Place) : Prop :=
  ∀ place ∈ places, ∀ other ∈ places, place.key params = other.key params →
    place.fresh params = other.fresh params

def number (name : String) (place : Place) : Except ExtractionFault Double :=
  Extraction.toNumber (name ++ "." ++ place.column.leaf.path) place.column.leaf.values
    place.sample.value

/-- The metric of a place among others: its own number, under the metric of the first with its text. -/
def metric (name : String) (params : Bindings) (places : List Place) (place : Place) :
    Except ExtractionFault Metric :=
  (place.number name).map ((place.first params places).fresh params).withValue

end Place

namespace SeenMetrics

variable {params : Bindings} {places : List Place} {metrics : SeenMetrics}

/-- Whether some places were seen from the start: under each text there is the metric of the first of
them. -/
structure Covers (params : Bindings) (places : List Place) (metrics : SeenMetrics) : Prop where
  kept : metrics.kept = []
  seen : ∀ key, lookup? metrics.seen key =
    (places.find? fun place => place.key params = key).map (·.fresh params)

theorem covers_nil : Covers params [] ⟨[], []⟩ := ⟨rfl, fun _ => rfl⟩

/-- A place is seen with the metric of the first that has its text, which may be itself. -/
theorem Covers.see (covers : metrics.Covers params places) (place : Place) :
    (metrics.see (place.key params) (place.fresh params)).1 =
        (place.first params (places ++ [place])).fresh params ∧
      (metrics.see (place.key params) (place.fresh params)).2.Covers params (places ++ [place]) := by
  have known := covers.seen (place.key params)
  unfold Place.first
  rw [List.find?_append]
  cases found : places.find? fun other => other.key params = place.key params with
  | some other =>
    have shown : metrics.see (place.key params) (place.fresh params) = (other.fresh params, metrics) := by
      simp [SeenMetrics.see, known, found]
    rw [shown]
    refine ⟨rfl, covers.kept, fun key => ?_⟩
    rw [covers.seen key, List.find?_append]
    by_cases same : place.key params = key
    · rw [← same, found, Option.some_or]
    · simp [same]
  | none =>
    have shown : metrics.see (place.key params) (place.fresh params) =
        (place.fresh params,
          ⟨[], metrics.seen ++ [(place.key params, place.fresh params)]⟩) := by
      have nothing : lookup? ([] : MetricCache) (place.key params) = none := rfl
      simp [SeenMetrics.see, known, found, covers.kept, nothing]
    rw [shown]
    refine ⟨by simp, rfl, fun key => ?_⟩
    have before := covers.seen key
    unfold lookup? Keyed.get? at before ⊢
    rw [List.find?_append, Option.map_or, before, List.find?_append, Option.map_or]
    by_cases same : place.key params = key
    · simp [same]
    · simp [same]

end SeenMetrics

namespace Column

variable {column : Column} {columns : List Column} {name : String} {params : Bindings}
  {metrics : SeenMetrics} {samples : Column → List Sample} {list : List Sample}
  {before places : List Place}

/-- The metrics of some values of a column among others, before the limit of the column. -/
def unlimited (name : String) (params : Bindings) (places : List Place) (list : List Sample)
    (column : Column) : Except ExtractionFault (List Metric) :=
  list.mapM fun sample => (Place.mk column sample).metric name params places

/-- What is collected of a column is one metric for each value, and then all of them are seen. -/
theorem collect_covers (name : String) (covers : metrics.Covers params before)
    (within : before ++ list.map (Place.mk column) <+: places) :
    (column.collect name params metrics list).1 = column.unlimited name params places list ∧
      ∀ batch, (column.collect name params metrics list).1 = .ok batch →
        (column.collect name params metrics list).2.Covers params
          (before ++ list.map (Place.mk column)) := by
  induction list generalizing metrics before with
  | nil => exact ⟨rfl, fun _ _ => by simpa [collect] using covers⟩
  | cons sample rest ih =>
    obtain ⟨shown, covers⟩ := covers.see ⟨column, sample⟩
    rw [List.map_cons, List.append_cons] at within ⊢
    obtain ⟨others, later⟩ := ih covers within
    obtain ⟨beyond, whole⟩ := within
    have firstAmong : (Place.mk column sample).first params places =
        (Place.mk column sample).first params (before ++ [⟨column, sample⟩]) := by
      rw [← whole, List.append_assoc]
      exact Place.first_append (List.mem_append_right _ List.mem_cons_self)
    unfold unlimited at others ⊢
    rw [List.mapM_cons, ← others, Place.metric, firstAmong, ← shown, Place.number]
    simp only [collect, Place.key, Place.fresh] at *
    cases Extraction.toNumber (name ++ "." ++ column.leaf.path) column.leaf.values sample.value with
    | error fault =>
      refine ⟨rfl, ?_⟩
      intro batch failed
      cases failed
    | ok x =>
      dsimp only at *
      generalize column.collect name params _ rest = collected at later ⊢
      obtain ⟨result, metrics⟩ := collected
      cases result with
      | error fault =>
        refine ⟨rfl, ?_⟩
        intro batch failed
        cases failed
      | ok batch => exact ⟨rfl, fun _ _ => later batch rfl⟩

/-- What is collected of all columns is what each gives within its limit, one column after the
other. -/
theorem collectAll_covers (covers : metrics.Covers params before)
    (within : before ++ Place.ofColumns samples columns <+: places) :
    (collectAll samples name params metrics columns).1 =
      (columns.mapM fun column : Column => (column.unlimited name params places (samples column)).map
        (Extraction.limited · column.limit column.order)).map List.flatten := by
  induction columns generalizing metrics before with
  | nil => rfl
  | cons column rest ih =>
    have split : Place.ofColumns samples (column :: rest) =
        (samples column).map (Place.mk column) ++ Place.ofColumns samples rest := rfl
    rw [split, ← List.append_assoc] at within
    obtain ⟨here, covered⟩ := collect_covers name covers
      ((List.prefix_append _ _).trans within)
    rw [List.mapM_cons, ← here]
    simp only [collectAll]
    generalize column.collect name params metrics (samples column) = collected at covered ⊢
    obtain ⟨result, metrics⟩ := collected
    cases result with
    | error fault => rfl
    | ok batch =>
      dsimp only
      rw [ih (covered batch rfl) within]
      generalize (rest.mapM _ : Except ExtractionFault (List (List Metric))) = others
      cases others <;> rfl

theorem collectCached_covers (samples : Column → List Sample) (name : String) (params : Bindings)
    (columns : List Column) : (collectCached samples name params columns []).1 =
      (columns.mapM fun column : Column =>
        (column.unlimited name params (Place.ofColumns samples columns) (samples column)).map
          (Extraction.limited · column.limit column.order)).map List.flatten := by
  rw [← collectAll_covers SeenMetrics.covers_nil (List.prefix_rfl (l := Place.ofColumns samples columns))]
  unfold collectCached
  split <;> next same => rw [same]

/-- What a row gives at a column: its own number under the name, type and check of the column, with the
tags of the column, of the row and of the options, in ascending order and each once. -/
structure Gives (column : Column) (name : String) (params : Bindings) (index : List String)
    (row : Row LiveValue) (metric : Metric) : Prop where
  number : ∃ value, row.atPath? column.leaf.path = some value ∧
    Extraction.toNumber (name ++ "." ++ column.leaf.path) column.leaf.values value = .ok metric.value
  alike : metric.name = column.leaf.template.name ∧ metric.type = column.leaf.template.type ∧
    metric.check = column.leaf.template.check
  ascending : metric.tags.Pairwise (· < ·)
  tags : ∀ tag, tag ∈ metric.tags ↔ tag ∈ column.leaf.template.tags ∨ tag ∈ rowTags index row ∨
    tag ∈ Tags.render column.tags params
      (row.values.filterMap fun (name, value) => value.scalarText?.map (name, ·))

/-- Where places with one text have one metric, the metrics of a column before its limit are those that
its rows give, in their order. -/
theorem unlimited_gives {table : Table LiveValue} {batch : List Metric}
    (agree : Place.Agree params places)
    (among : ∀ sample ∈ column.rowSamples table, Place.mk column sample ∈ places)
    (all : column.unlimited name params places (column.rowSamples table) = .ok batch) :
    List.Forall₂ (column.Gives name params table.index)
      (table.rows.filter fun row => (row.atPath? column.leaf.path).isSome) batch := by
  have given : List.Forall₂ (column.Gives name params table.index)
      (table.rows.filter fun row => ((row.atPath? column.leaf.path).map _).isSome) batch :=
    forall₂_of_filterMap (fun row member sample metric seen made => ?_) (mapM_eq_ok_iff.mp all)
  · simpa using given
  have present := among sample (List.mem_filterMap.mpr ⟨row, member, seen⟩)
  have own : ((Place.mk column sample).first params places).fresh params =
      (Place.mk column sample).fresh params :=
    agree _ (Place.first_mem present) _ present Place.key_first
  obtain ⟨value, here, rfl⟩ := Option.map_eq_some_iff.mp seen
  rw [Place.metric, own] at made
  cases number : Place.number name (Place.mk column _) with
  | error fault => rw [number] at made; cases made
  | ok x =>
    rw [number] at made
    cases made
    exact {
      number := ⟨value, here, number⟩
      alike := ⟨rfl, rfl, rfl⟩
      ascending := sortedSet_ascending _
      tags := fun tag => mem_sortedSet.trans (by simp [optionTags]) }

end Column

namespace Table

variable {table : Table LiveValue} {columns : List Column}

/-- Whether a table shows its rows apart at some columns: no index value has a comma or a bar and no path
a bar, and neither the rows nor the paths repeat. -/
structure Plain (table : Table LiveValue) (columns : List Column) : Prop where
  rows : (table.rows.map (·.key)).Nodup
  keys : ∀ row ∈ table.rows, row.key ≠ [] ∧
    ∀ text ∈ row.key, ',' ∉ text.toList ∧ '|' ∉ text.toList
  paths : (columns.map (·.leaf.path)).Nodup
  bars : ∀ column ∈ columns, '|' ∉ column.leaf.path.toList

/-- What stands in front of the first bar is settled by the whole. -/
theorem append_bar_inj {front other rest last : List Char} (plain : '|' ∉ front)
    (plain₂ : '|' ∉ other) (same : front ++ '|' :: rest = other ++ '|' :: last) :
    front = other ∧ rest = last := by
  have free : ∀ text : List Char, '|' ∉ text → ∀ c ∈ text, decide (c = '|') = false :=
    fun text plain c member => decide_eq_false fun bar => plain (bar ▸ member)
  have cut : Text.cut? (· = '|') (front ++ '|' :: rest) = some (front, rest) :=
    Text.cut?_append (free front plain) (decide_eq_true rfl) rest
  rw [same, Text.cut?_append (free other plain₂) (decide_eq_true rfl) last] at cut
  obtain ⟨rfl, rfl⟩ := Prod.mk.inj (Option.some.inj cut)
  exact ⟨rfl, rfl⟩

theorem Plain.keyText_inj (plain : table.Plain columns) {row other : Row LiveValue}
    (member : row ∈ table.rows) (member₂ : other ∈ table.rows)
    (same : row.keyText.toList = other.keyText.toList) : row = other := by
  have nonempty : ∀ row ∈ table.rows, row.key ≠ [] := fun row member => (plain.keys row member).1
  have free : ∀ row ∈ table.rows, ∀ text ∈ row.key, ',' ∉ text.toList :=
    fun row member text listed => ((plain.keys row member).2 text listed).1
  have sameKey : row.key = other.key := Text.intercalate_comma_inj (nonempty row member)
    (nonempty other member₂) (free row member) (free other member₂) same
  exact List.inj_on_of_nodup_map plain.rows member member₂ sameKey

theorem Plain.bar_not_mem_keyText (plain : table.Plain columns) {row : Row LiveValue}
    (member : row ∈ table.rows) : '|' ∉ row.keyText.toList := by
  unfold Row.keyText
  rw [String.toList_intercalate]
  intro bar
  rcases Text.mem_of_mem_intercalate bar with comma | ⟨part, among, inside⟩
  · exact absurd comma (by decide)
  · obtain ⟨text, listed, rfl⟩ := List.mem_map.mp among
    exact ((plain.keys row member).2 text listed).2 inside

/-- In a table that shows its rows apart no two places have one text. -/
theorem Plain.agree (plain : table.Plain columns) (params : Bindings) :
    Place.Agree params (Place.ofColumns (·.rowSamples table) columns) := by
  intro place member other member₂ same
  obtain ⟨column, among, member⟩ := List.mem_flatMap.mp member
  obtain ⟨sample, seen, rfl⟩ := List.mem_map.mp member
  obtain ⟨row, listed, seen⟩ := List.mem_filterMap.mp seen
  obtain ⟨value, here, rfl⟩ := Option.map_eq_some_iff.mp seen
  obtain ⟨column₂, among₂, member₂⟩ := List.mem_flatMap.mp member₂
  obtain ⟨sample₂, seen₂, rfl⟩ := List.mem_map.mp member₂
  obtain ⟨row₂, listed₂, seen₂⟩ := List.mem_filterMap.mp seen₂
  obtain ⟨value₂, here₂, rfl⟩ := Option.map_eq_some_iff.mp seen₂
  have texts := congrArg String.toList same
  simp only [Place.key, Column.key, String.toList_append, List.append_assoc] at texts
  obtain ⟨rowText, texts⟩ := append_bar_inj (plain.bar_not_mem_keyText listed)
    (plain.bar_not_mem_keyText listed₂) texts
  obtain ⟨pathText, -⟩ := append_bar_inj (plain.bars column among) (plain.bars column₂ among₂) texts
  cases plain.keyText_inj listed listed₂ rowText
  cases List.inj_on_of_nodup_map plain.paths among among₂ (String.toList_inj.mp pathText)
  cases here.symm.trans here₂
  rfl

end Table

namespace MatchedAttribute

/-- An attribute that was just bound gives for a table, column by column and in the order of the rows, one
metric with its own number for each row that has a value there, under the metric that was made for the
first row with the same text, and of those what the limit of the column leaves. As long as rows that are
kept under one text have one metric the tags are the row's own, and that is so in any table whose index
values have neither commas nor bars. -/
theorem extract_rows {bound : MatchedAttribute} {columns : List Column}
    (fresh : bound.shape = .tabular columns []) (table : Table LiveValue) :
    let places := Place.ofColumns (·.rowSamples table) columns
    (bound.extract (.tabular table)).1 =
        (columns.mapM fun column : Column =>
          (column.unlimited bound.name bound.params places (column.rowSamples table)).map
            (Extraction.limited · column.limit column.order)).map List.flatten ∧
      (Place.Agree bound.params places → ∀ column ∈ columns, ∀ batch,
        column.unlimited bound.name bound.params places (column.rowSamples table) = .ok batch →
          List.Forall₂ (column.Gives bound.name bound.params table.index)
            (table.rows.filter fun row => (row.atPath? column.leaf.path).isSome) batch) ∧
      (table.Plain columns → Place.Agree bound.params places) := by
  intro places
  refine ⟨?_, fun agree column member batch all => ?_, fun plain => plain.agree bound.params⟩
  · unfold extract
    rw [fresh]
    exact Column.collectCached_covers (·.rowSamples table) bound.name bound.params columns
  · refine Column.unlimited_gives agree (fun sample seen => ?_) all
    exact List.mem_flatMap.mpr ⟨column, member, List.mem_map_of_mem seen⟩

def twoPools (first second : String × String) : Table LiveValue :=
  let row : String × String → Int → Row LiveValue := fun (area, pool) count =>
    ⟨[area, pool], [("area", .string area), ("count", .integer count), ("pool", .string pool)]⟩
  ⟨["area", "pool"], [row first 1, row second 2]⟩

/-- A configuration that lists their counts, and an instance for it. -/
def listingCounts : BeanMatch := Candidate.naming (some ["Pools.count"]) none

def listingContext : InstanceContext := ⟨"east", "jmx", [], false, false⟩

def poolCount (table : Table LiveValue) : Column :=
  pools.column .tabular listingContext listingCounts (.tabular table) "count"

theorem bind_twoPools (first second : String × String) :
    (pools.bind listingContext [listingCounts]).result
        (reading (.tabular (twoPools first second))) =
      .ok (some (pools.matched listingCounts
        (.tabular [poolCount (twoPools first second)] []) 2)) := by
  let value : LiveValue := .tabular (twoPools first second)
  let column := poolCount (twoPools first second)
  have paths : Candidate.subPaths .tabular value = ["count"] :=
    sortedSet_eq_of_ascending (List.pairwise_singleton _ _) fun path => by
      simp [twoPools, Table.pathsOf, LiveValue.isScalar]
  have selected : pools.selectedPaths .tabular listingCounts ["count"] = ["count"] := by
    rw [Candidate.selectedPaths_eq]
    decide
  have isBound : pools.bindNested .tabular listingContext listingCounts value =
      some (pools.matched listingCounts (.tabular [column] []) 2) := by
    unfold Candidate.bindNested
    rw [paths, selected]
    rfl
  have read : reading value (.read pools.bean pools.name) = .ok value := rfl
  have known : pools.kindAt? listingContext value = some .tabular := rfl
  have taken : (pools.offer .tabular listingContext listingCounts).takenAt value =
      some (pools.matched listingCounts (.tabular [column] []) 2) :=
    (Candidate.offerNested_takenAt ..).trans isBound
  rw [Candidate.bind_result pools listingContext [listingCounts] read, known]
  simp [taken, column]

/-- Two rows with other index values are kept under one text if a comma stands in the values: the second
shows the tags of the first. -/
theorem extract_crosses_rows :
    let table := twoPools ("a,b", "c") ("a", "b,c")
    ∃ bound first second,
      (pools.bind listingContext [listingCounts]).result
          (reading (.tabular table)) = .ok (some bound) ∧
      (bound.extract (.tabular table)).1 = .ok [first, second] ∧
      first.tags = second.tags ∧ "pool:c" ∈ second.tags ∧ "pool:b,c" ∉ second.tags := by
  intro table
  let first : Sample := ⟨"a,b,c", ["area:a,b", "pool:c"],
    [("area", "a,b"), ("count", "1"), ("pool", "c")], .integer 1⟩
  let bound := pools.matched listingCounts (.tabular [poolCount table] []) 2
  let shown := (poolCount table).fresh [] first
  have gives : (bound.extract (.tabular table)).1 = .ok [
      shown.withValue (.ofFloat (Number.toFloat (.whole 1))),
      shown.withValue (.ofFloat (Number.toFloat (.whole 2)))] := rfl
  have same : ∀ x, (shown.withValue x).tags = shown.tags := fun _ => rfl
  refine ⟨bound, _, _, bind_twoPools ("a,b", "c") ("a", "b,c"), gives, ?_, ?_, ?_⟩
  · rw [same, same]
  · exact mem_sortedSet.mpr (List.mem_append_right _ (by decide))
  · intro member
    rcases List.mem_append.mp (mem_sortedSet.mp member) with base | own
    · exact absurd (mem_sortedSet.mp base) (by decide)
    · exact absurd own (by decide)

theorem extract_rows_apart :
    let table := twoPools ("heap", "eden") ("heap", "old")
    let column := poolCount table
    let bound := pools.matched listingCounts (.tabular [column] []) 2
    ∃ batch, (bound.extract (.tabular table)).1 = .ok batch ∧
      List.Forall₂ (column.Gives bound.name bound.params ["area", "pool"]) table.rows batch := by
  intro table column bound
  have fresh : bound.shape = .tabular [column] [] := rfl
  obtain ⟨given, own, plain⟩ := extract_rows fresh table
  have apart : table.Plain [column] :=
    ⟨by decide, by decide, List.nodup_singleton _, by decide⟩
  obtain ⟨batch, all⟩ : ∃ batch, column.unlimited bound.name bound.params
      (Place.ofColumns (·.rowSamples table) [column]) (column.rowSamples table) = .ok batch := ⟨_, rfl⟩
  have noLimit : column.limit = none := rfl
  refine ⟨batch, ?_, own (plain apart) column List.mem_cons_self batch all⟩
  rw [given, List.mapM_cons, List.mapM_nil, all, noLimit]
  exact congrArg Except.ok (List.append_nil batch)

end MatchedAttribute
end BeanHarvest
