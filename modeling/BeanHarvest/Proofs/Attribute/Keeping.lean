import BeanHarvest.Proofs.Attribute.Settled

/-! What is kept of rows and groups. Behind a collection that goes well there is one metric for each text
of the places it came upon, and no other; one that goes wrong leaves some of those there were. So however
often an attribute is collected and whatever rows come and go, there are never more metrics than the last
collection that went well had places. -/
namespace BeanHarvest

namespace MetricCache

variable {texts : List String} {text : String} {cache fewer : MetricCache}

/-- Whether metrics are kept under some texts only, and once under each. -/
structure Within (texts : List String) (cache : MetricCache) : Prop where
  once : (Keyed.keys cache).Nodup
  among : Keyed.keys cache ⊆ texts

/-- Whether one metric is kept under each of some texts, and nothing else is. -/
structure Follows (texts : List String) (cache : MetricCache) : Prop where
  once : (Keyed.keys cache).Nodup
  just : ∀ text, text ∈ Keyed.keys cache ↔ text ∈ texts

theorem Follows.within (follows : cache.Follows texts) : cache.Within texts :=
  ⟨follows.once, fun text => (follows.just text).mp⟩

theorem Within.sublist (within : cache.Within texts)
    (less : (Keyed.keys fewer).Sublist (Keyed.keys cache)) : fewer.Within texts :=
  ⟨within.once.sublist less, fun _ member => within.among (less.subset member)⟩

theorem Within.length_le (within : cache.Within texts) : cache.length ≤ texts.length := by
  simpa [Keyed.keys] using (List.subperm_of_subset within.once within.among).length_le

theorem follows_nil : Follows [] [] := ⟨List.nodup_nil, fun _ => Iff.rfl⟩

theorem Follows.again (follows : cache.Follows texts) (known : text ∈ Keyed.keys cache) :
    cache.Follows (texts ++ [text]) where
  once := follows.once
  just other := by
    rw [List.mem_append, List.mem_singleton, ← follows.just]
    exact ⟨.inl, fun member => member.elim id (· ▸ known)⟩

theorem Follows.snoc (follows : cache.Follows texts) (unknown : text ∉ Keyed.keys cache)
    (metric : Metric) : Follows (texts ++ [text]) (cache ++ [(text, metric)]) := by
  have keys : Keyed.keys (cache ++ [(text, metric)]) = Keyed.keys cache ++ [text] := List.map_append
  constructor
  · rw [keys]
    exact follows.once.append (List.nodup_singleton _) (List.disjoint_singleton.mpr unknown)
  · intro other
    rw [keys, List.mem_append, List.mem_append, follows.just]

end MetricCache

namespace SeenMetrics

variable {metrics : SeenMetrics} {texts : List String}

/-- What was seen follows the texts under which it was seen. -/
theorem see_follows (follows : metrics.seen.Follows texts) (key : String) (fresh : Metric) :
    (metrics.see key fresh).2.seen.Follows (texts ++ [key]) := by
  unfold see
  split
  · next metric found => exact follows.again (List.mem_map_of_mem (Keyed.mem_of_get? found))
  · next nothing =>
    have unknown : key ∉ Keyed.keys metrics.seen := by
      intro member
      obtain ⟨⟨text, metric⟩, present, rfl⟩ := List.mem_map.mp member
      obtain ⟨other, found⟩ := Keyed.exists_get? present
      exact nomatch nothing.symm.trans found
    split
    · exact follows.snoc unknown _
    · exact follows.snoc unknown _

/-- Seeing a metric may take it out of what is kept, and takes nothing in. -/
theorem see_sublist (metrics : SeenMetrics) (key : String) (fresh : Metric) :
    (metrics.see key fresh).2.kept.Sublist metrics.kept := by
  unfold see
  split
  · exact List.Sublist.refl _
  · split
    · exact List.filter_sublist
    · exact List.Sublist.refl _

end SeenMetrics

namespace Column

variable {column : Column} {columns : List Column} {name : String} {params : Bindings}
  {metrics : SeenMetrics} {samples : Column → List Sample} {list : List Sample}
  {texts : List String} {batch : List Metric}

theorem collect_sublist (column : Column) (name : String) (params : Bindings) (metrics : SeenMetrics)
    (list : List Sample) : (column.collect name params metrics list).2.kept.Sublist metrics.kept := by
  induction list generalizing metrics with
  | nil => exact List.Sublist.refl _
  | cons sample rest ih =>
    simp only [collect]
    split
    · exact List.Sublist.refl _
    · exact (ih _).trans (SeenMetrics.see_sublist _ _ _)

/-- A column that is collected to its end has the texts of all its values seen. -/
theorem collect_follows (follows : metrics.seen.Follows texts)
    (all : (column.collect name params metrics list).1 = .ok batch) :
    (column.collect name params metrics list).2.seen.Follows
      (texts ++ list.map (column.key params)) := by
  induction list generalizing metrics texts batch with
  | nil => simpa [collect] using follows
  | cons sample rest ih =>
    rw [List.map_cons, List.append_cons]
    simp only [collect] at all ⊢
    split at all
    · cases all
    · obtain ⟨others, collected, -⟩ := exists_of_map_eq_ok all
      exact ih (SeenMetrics.see_follows follows _ _) collected

theorem collectAll_sublist (samples : Column → List Sample) (name : String) (params : Bindings)
    (metrics : SeenMetrics) (columns : List Column) :
    (collectAll samples name params metrics columns).2.kept.Sublist metrics.kept := by
  induction columns generalizing metrics with
  | nil => exact List.Sublist.refl _
  | cons column rest ih =>
    have first := collect_sublist column name params metrics (samples column)
    simp only [collectAll]
    split
    · next fault after same =>
      rw [same] at first
      exact first
    · next batch after same =>
      rw [same] at first
      exact (ih after).trans first

theorem collectAll_follows (follows : metrics.seen.Follows texts)
    (all : (collectAll samples name params metrics columns).1 = .ok batch) :
    (collectAll samples name params metrics columns).2.seen.Follows
      (texts ++ (Place.ofColumns samples columns).map (·.key params)) := by
  -- The texts in front are an argument: a column may come upon a text of another one, and adds nothing then.
  induction columns generalizing metrics texts batch with
  | nil => simpa [collectAll, Place.ofColumns] using follows
  | cons column rest ih =>
    have first := @collect_follows column name params metrics (samples column) texts
    have texts_cons : (Place.ofColumns samples (column :: rest)).map (·.key params) =
        (samples column).map (column.key params) ++
          (Place.ofColumns samples rest).map (·.key params) := by
      simp [Place.ofColumns, Place.key]
    rw [texts_cons, ← List.append_assoc]
    simp only [collectAll] at all ⊢
    generalize column.collect name params metrics (samples column) = collected at all first ⊢
    obtain ⟨result, next⟩ := collected
    cases result with
    | error fault => cases all
    | ok batch =>
      obtain ⟨others, went, -⟩ := exists_of_map_eq_ok all
      exact ih (first follows rfl) went

/-- Behind columns that were collected well the cache follows their places. -/
theorem collectCached_follows {cache : MetricCache}
    (all : (collectCached samples name params columns cache).1 = .ok batch) :
    (collectCached samples name params columns cache).2.Follows
      ((Place.ofColumns samples columns).map (·.key params)) := by
  have seen := @collectAll_follows columns name params ⟨cache, []⟩ samples [] batch
    MetricCache.follows_nil
  unfold collectCached at all ⊢
  generalize collectAll samples name params ⟨cache, []⟩ columns = collected at all seen ⊢
  obtain ⟨result, after⟩ := collected
  cases result with
  | error fault => cases all
  | ok list => exact seen all

/-- Behind columns of which one went wrong there are some of the metrics that there were. -/
theorem collectCached_sublist {cache : MetricCache} {fault : ExtractionFault}
    (failed : (collectCached samples name params columns cache).1 = .error fault) :
    (collectCached samples name params columns cache).2.Sublist cache := by
  have kept := collectAll_sublist samples name params ⟨cache, []⟩ columns
  unfold collectCached at failed ⊢
  generalize collectAll samples name params ⟨cache, []⟩ columns = collected at failed kept ⊢
  obtain ⟨result, after⟩ := collected
  cases result with
  | error fault => exact kept
  | ok list => cases failed

/-- Every column has at most so many places as it has values. -/
theorem length_ofColumns_le {count : Nat} (few : ∀ column ∈ columns, (samples column).length ≤ count) :
    (Place.ofColumns samples columns).length ≤ columns.length * count := by
  induction columns with
  | nil => exact Nat.zero_le _
  | cons column rest ih =>
    have first := few column List.mem_cons_self
    have others := ih fun other member => few other (List.mem_cons_of_mem _ member)
    have split : Place.ofColumns samples (column :: rest) =
        (samples column).map (Place.mk column) ++ Place.ofColumns samples rest := rfl
    rw [split, List.length_append, List.length_map, List.length_cons, Nat.succ_mul]
    omega

end Column

namespace Place

variable {params : Bindings} {place other : Place}

/-- Whether the text of a place shows its parts: neither label nor path has a bar, and no tag of the options
has a comma. -/
structure Plain (params : Bindings) (place : Place) : Prop where
  label : '|' ∉ place.sample.label.toList
  path : '|' ∉ place.column.leaf.path.toList
  tags : ∀ tag ∈ place.column.optionTags params place.sample, ',' ∉ tag.toList

/-- Whether places are told apart by nothing that goes into their texts: label, column and tags of the
options are the same. -/
structure Alike (params : Bindings) (place other : Place) : Prop where
  label : place.sample.label = other.sample.label
  column : place.column = other.column
  tags : place.column.optionTags params place.sample = other.column.optionTags params other.sample

/-- So many tags without commas are settled by what they are with commas between them. -/
theorem tags_inj {tags others : List String} (sameNumber : tags.length = others.length)
    (plain : ∀ tag ∈ tags, ',' ∉ tag.toList) (plain₂ : ∀ tag ∈ others, ',' ∉ tag.toList)
    (same : (",".intercalate tags).toList = (",".intercalate others).toList) : tags = others := by
  -- No tags at all and a single empty one have the same text, so that the number is needed.
  by_cases empty : tags = []
  · subst empty
    exact (List.length_eq_zero_iff.mp sameNumber.symm).symm
  · have nonempty : others ≠ [] := fun none =>
      empty (List.length_eq_zero_iff.mp (sameNumber.trans (none ▸ rfl)))
    exact Text.intercalate_comma_inj empty nonempty plain plain₂ same

/-- Plain places with one text are alike, if no path repeats. -/
theorem Plain.alike {columns : List Column} (distinct : (columns.map (·.leaf.path)).Nodup)
    (among : place.column ∈ columns) (among₂ : other.column ∈ columns) (plain : place.Plain params)
    (plain₂ : other.Plain params) (same : place.key params = other.key params) :
    place.Alike params other := by
  have texts := congrArg String.toList same
  simp only [Place.key, Column.key, String.toList_append, List.append_assoc] at texts
  obtain ⟨label, texts⟩ := Table.append_bar_inj plain.label plain₂.label texts
  obtain ⟨path, tags⟩ := Table.append_bar_inj plain.path plain₂.path texts
  have column : place.column = other.column :=
    List.inj_on_of_nodup_map distinct among among₂ (String.toList_inj.mp path)
  have number : (place.column.optionTags params place.sample).length =
      (other.column.optionTags params other.sample).length := by
    rw [column]
    simp [Column.optionTags, Tags.render]
  exact ⟨String.toList_inj.mp label, column, tags_inj number plain.tags plain₂.tags tags⟩

end Place

namespace MatchedAttribute

variable {bound : MatchedAttribute} {value : LiveValue} {metrics : List Metric}
  {fault : ExtractionFault} {given answer : (call : Call) → call.Outcome} {texts : List String}

/-- The metrics that an attribute keeps for its rows or groups. -/
def cache (bound : MatchedAttribute) : MetricCache :=
  match bound.shape with
  | .simple _ | .composite _ => []
  | .tabular _ cache | .statistics _ cache => cache

theorem KeepsNothing.cache_eq (keepsNothing : bound.KeepsNothing) : bound.cache = [] := by
  rw [← keepsNothing]
  obtain ⟨bean, name, type, params, shape, count⟩ := bound
  cases shape <;> rfl

/-- The texts under which metrics are kept for what the reading of the attribute is answered: row or group,
path and tags of the options. -/
def textsIn (bound : MatchedAttribute) (answer : (call : Call) → call.Outcome) : List String :=
  (bound.placesIn answer).map (·.key bound.params)

theorem extract_follows (all : (bound.extract value).1 = .ok metrics) :
    (bound.extract value).2.cache.Follows ((bound.places value).map (·.key bound.params)) := by
  obtain ⟨bean, name, type, params, shape, count⟩ := bound
  cases shape with
  | simple leaf => exact MetricCache.follows_nil
  | composite leaves =>
    unfold extract at all ⊢
    dsimp only at all ⊢
    split <;> exact MetricCache.follows_nil
  | tabular columns cache =>
    cases value with
    | tabular table => exact Column.collectCached_follows all
    | _ => cases all
  | statistics columns cache =>
    unfold extract at all ⊢
    unfold places
    dsimp only at all ⊢
    split at all
    · next isOne =>
      rw [if_pos isOne, if_pos isOne]
      exact Column.collectCached_follows all
    · cases all

theorem extract_sublist (failed : (bound.extract value).1 = .error fault) :
    (bound.extract value).2.cache.Sublist bound.cache := by
  obtain ⟨bean, name, type, params, shape, count⟩ := bound
  cases shape with
  | simple leaf => exact List.Sublist.refl _
  | composite leaves =>
    unfold extract
    dsimp only
    split <;> exact List.Sublist.refl _
  | tabular columns cache =>
    cases value with
    | tabular table => exact Column.collectCached_sublist failed
    | _ => exact List.Sublist.refl _
  | statistics columns cache =>
    unfold extract at failed ⊢
    dsimp only at failed ⊢
    split at failed
    · next isOne =>
      rw [if_pos isOne]
      exact Column.collectCached_sublist failed
    · next isNone =>
      rw [if_neg isNone]

theorem collect_follows (all : (bound.collect.result answer).1 = .ok metrics) :
    (bound.collect.result answer).2.cache.Follows (bound.textsIn answer) := by
  unfold textsIn placesIn
  rw [result_collect] at all ⊢
  split at all
  · exact extract_follows all
  · cases all

theorem collect_sublist (failed : (bound.collect.result answer).1 = .error fault) :
    (bound.collect.result answer).2.cache.Sublist bound.cache := by
  rw [result_collect] at failed ⊢
  split at failed
  · exact extract_sublist failed
  · exact List.Sublist.refl _

/-- The texts of the last collection that went well, if there were some before the first. -/
def lastTexts (bound : MatchedAttribute) (before : List String) :
    List ((call : Call) → call.Outcome) → List String
  | [] => before
  | answer :: rest =>
    let collected := bound.collect.result answer
    collected.2.lastTexts (if collected.1.isOk then bound.textsIn answer else before) rest

theorem collect_within (within : bound.cache.Within texts) (answer : (call : Call) → call.Outcome) :
    (bound.collect.result answer).2.cache.Within
      (if (bound.collect.result answer).1.isOk then bound.textsIn answer else texts) := by
  cases went : (bound.collect.result answer).1 with
  | ok metrics => exact (collect_follows went).within
  | error fault => exact within.sublist ((collect_sublist went).map _)

/-- What is kept keeps within the texts of the last collection that went well. -/
theorem after_within (within : bound.cache.Within texts)
    (history : List ((call : Call) → call.Outcome)) :
    (bound.after history).cache.Within (bound.lastTexts texts history) := by
  induction history generalizing bound texts with
  | nil => exact within
  | cons answer rest ih => exact ih (collect_within within answer)

/-- Collecting changes nothing but what is kept. -/
theorem exists_collect_eq (bound : MatchedAttribute) (answer : (call : Call) → call.Outcome) :
    ∃ cache, (bound.collect.result answer).2 = bound.withCache cache := by
  rw [result_collect]
  split
  · exact bound.exists_extract_eq _
  · obtain ⟨bean, name, type, params, shape, count⟩ := bound
    cases shape with
    | simple leaf => exact ⟨[], rfl⟩
    | composite leaves => exact ⟨[], rfl⟩
    | tabular columns cache => exact ⟨cache, rfl⟩
    | statistics columns cache => exact ⟨cache, rfl⟩

theorem places_withCache (bound : MatchedAttribute) (cache : MetricCache) :
    (bound.withCache cache).places = bound.places := by
  obtain ⟨bean, name, type, params, shape, count⟩ := bound
  cases shape <;> rfl

theorem textsIn_withCache (bound : MatchedAttribute) (cache : MetricCache) :
    (bound.withCache cache).textsIn = bound.textsIn := by
  have read : (bound.withCache cache).bean = bound.bean ∧ (bound.withCache cache).name = bound.name :=
    ⟨rfl, rfl⟩
  funext answer
  unfold textsIn placesIn
  rw [read.1, read.2, places_withCache]
  cases answer (.read bound.bean bound.name) <;> rfl

theorem textsIn_collect (bound : MatchedAttribute) (answer : (call : Call) → call.Outcome) :
    (bound.collect.result answer).2.textsIn = bound.textsIn := by
  obtain ⟨cache, went⟩ := bound.exists_collect_eq answer
  rw [went, textsIn_withCache]

theorem textsIn_after (bound : MatchedAttribute) (history : List ((call : Call) → call.Outcome)) :
    (bound.after history).textsIn = bound.textsIn := by
  induction history generalizing bound with
  | nil => rfl
  | cons answer rest ih => exact (ih _).trans (textsIn_collect bound answer)

/-- The texts of the last collection that went well are those of one of the collections. -/
theorem lastTexts_eq (bound : MatchedAttribute) (before : List String)
    (history : List ((call : Call) → call.Outcome)) :
    bound.lastTexts before history = before ∨
      ∃ answer ∈ history, bound.lastTexts before history = bound.textsIn answer := by
  induction history generalizing bound before with
  | nil => exact .inl rfl
  | cons answer rest ih =>
    rw [lastTexts]
    rcases ih _ _ with same | ⟨other, member, same⟩
    · rw [same]
      split
      · exact .inr ⟨answer, List.mem_cons_self, rfl⟩
      · exact .inl rfl
    · exact .inr ⟨other, List.mem_cons_of_mem _ member, by rw [same, textsIn_collect]⟩

/-- The number of rows or groups in what the reading of the attribute is answered. -/
def breadth (bound : MatchedAttribute) (answer : (call : Call) → call.Outcome) : Nat :=
  match answer (.read bound.bean bound.name) with
  | .ok (.tabular table) => table.rows.length
  | .ok value => (Statistics.groups value).length
  | .error _ => 0

theorem length_textsIn_le (bound : MatchedAttribute) (answer : (call : Call) → call.Outcome) :
    (bound.textsIn answer).length ≤ bound.columns.length * bound.breadth answer := by
  unfold textsIn placesIn breadth
  rw [List.length_map]
  generalize answer (.read bound.bean bound.name) = outcome
  cases outcome with
  | error fault => exact Nat.zero_le _
  | ok value =>
    obtain ⟨bean, name, type, params, shape, count⟩ := bound
    cases shape with
    | simple leaf => exact Nat.zero_le _
    | composite leaves => exact Nat.zero_le _
    | tabular columns cache =>
      cases value with
      | tabular table =>
        exact Column.length_ofColumns_le fun column _ => List.length_filterMap_le _ _
      | _ => exact Nat.zero_le _
    | statistics columns cache =>
      have groups : (Place.ofColumns (·.groupSamples value) columns).length ≤
          columns.length * (Statistics.groups value).length :=
        Column.length_ofColumns_le fun column _ => List.length_filterMap_le _ _
      unfold places
      dsimp only
      split
      · next isOne =>
        cases value with
        | tabular table => cases isOne
        | _ => exact groups
      · exact Nat.zero_le _

theorem length_lastTexts_le (bound : MatchedAttribute) {history : List ((call : Call) → call.Outcome)}
    {count : Nat} (few : ∀ answer ∈ history, bound.breadth answer ≤ count) :
    (bound.lastTexts [] history).length ≤ bound.columns.length * count := by
  rcases lastTexts_eq bound [] history with same | ⟨answer, member, same⟩
  · rw [same]
    exact Nat.zero_le _
  · rw [same]
    exact (length_textsIn_le bound answer).trans (Nat.mul_le_mul_left _ (few answer member))

/-- Whatever an attribute was collected from before: behind a collection that goes well it keeps one metric
under each text of the places of the present value, and nothing else; behind one that goes wrong, some of
the metrics that it kept before. So nothing is kept but under texts of the last collection that went well,
and never more than each column has rows or groups at their most. A text stands for one label, one column
and the same tags of the options, if no bar stands in labels and paths and no comma in these tags. -/
theorem cache_follows {candidate : Candidate} {context : InstanceContext} {selecting : List BeanMatch}
    (isBound : (candidate.bind context selecting).result given = .ok (some bound))
    (history : List ((call : Call) → call.Outcome)) (answer : (call : Call) → call.Outcome) :
    let before := bound.after history
    let collected := before.collect.result answer
    (collected.1.isOk → collected.2.cache.Follows (bound.textsIn answer)) ∧
      (collected.1.isOk = false → collected.2.cache.Sublist before.cache) ∧
      before.cache.Within (bound.lastTexts [] history) ∧
      (∀ count, (∀ answer ∈ history, bound.breadth answer ≤ count) →
        before.cache.length ≤ bound.columns.length * count) ∧
      (∀ place ∈ bound.placesIn answer, ∀ other ∈ bound.placesIn answer, place.Plain bound.params →
        other.Plain bound.params → place.key bound.params = other.key bound.params →
          place.Alike bound.params other) := by
  intro before collected
  have nothing : bound.cache = [] := (keepsNothing_of_bind isBound).cache_eq
  have within : before.cache.Within (bound.lastTexts [] history) :=
    after_within (nothing ▸ MetricCache.follows_nil.within) history
  refine ⟨fun well => ?_, fun failed => ?_, within, fun count few => ?_, ?_⟩
  · cases ended : collected.1 with
    | ok metrics => exact textsIn_after bound history ▸ collect_follows ended
    | error fault => exact absurd (ended ▸ well) nofun
  · cases ended : collected.1 with
    | ok metrics => exact absurd (ended ▸ failed) nofun
    | error fault => exact collect_sublist ended
  · exact within.length_le.trans (length_lastTexts_le bound few)
  · intro place member other member₂ plain plain₂
    exact plain.alike (columnPaths_nodup isBound) (mem_placesIn member) (mem_placesIn member₂) plain₂

/-- Two rows of which one is new, collected behind a value of another shape and a table with another row. -/
theorem cache_follows_twoPools :
    let now := reading (.tabular (twoPools ("heap", "eden") ("heap", "old")))
    let history := [reading (.tabular (twoPools ("heap", "eden") ("heap", "young"))), reading (.integer 1)]
    let column := poolCount (twoPools ("heap", "eden") ("heap", "old"))
    let bound := pools.matched listingCounts (.tabular [column] []) 2
    (pools.bind listingContext [listingCounts]).result now = .ok (some bound) ∧
      (bound.after history).cache.length ≤ 2 ∧
      ((bound.after history).collect.result now).2.cache.Follows ["heap,eden|count|", "heap,old|count|"] := by
  intro now history column bound
  have isBound : (pools.bind listingContext [listingCounts]).result now = .ok (some bound) :=
    bind_twoPools ("heap", "eden") ("heap", "old")
  obtain ⟨follows, -, -, few, -⟩ := cache_follows isBound history now
  refine ⟨isBound, few 2 fun answer member => ?_, follows rfl⟩
  rcases List.mem_cons.mp member with rfl | later
  · exact Nat.le_refl 2
  · rw [List.mem_singleton.mp later]
    exact Nat.zero_le 2

end MatchedAttribute
end BeanHarvest
