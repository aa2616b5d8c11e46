import BeanHarvest.Proofs.Attribute.Caching
import BeanHarvest.Proofs.Attribute.Counting
import BeanHarvest.Proofs.Live.Statistics

/-! Groups of statistics: how many metrics an attribute gives for them. What is counted when the attribute
is bound are the groups that list a path; what gives metrics are the groups in which something is read at
it. -/
namespace BeanHarvest

open Statistics (Legible)

variable {candidate : Candidate} {context : InstanceContext} {found : BeanMatch}
  {selecting : List BeanMatch} {answer : (call : Call) → call.Outcome} {value : LiveValue}
  {bound : MatchedAttribute}

theorem Column.length_groupSamples (column : Column) (value : LiveValue) :
    (column.groupSamples value).length = (Statistics.groups value).countP
      fun group => (Statistics.read? value group column.leaf.path).isSome := by
  unfold groupSamples
  rw [List.length_filterMap_eq_countP]
  exact List.countP_congr fun group _ => by rw [Option.isSome_map]

namespace Candidate

/-- The paths into a statistics object are listed for its groups. -/
theorem mem_subPaths_statistics {path : String} (member : path ∈ subPaths .statistics value) :
    ∃ group, path ∈ Statistics.paths value group := by
  obtain ⟨group, _, listed⟩ := List.mem_flatMap.mp (mem_sortedSet.mp member)
  exact ⟨group, listed⟩

/-- The groups that are counted for a statistic are those that have a value for it. -/
theorem groupCount_eq (legible : Legible value) {column : Column} {group : String}
    (listed : column.leaf.path ∈ Statistics.paths value group) :
    groupCount value column = withinLimit column (column.groupSamples value).length := by
  rw [Column.length_groupSamples, groupCount]
  refine congrArg _ (List.countP_congr fun group _ => ?_)
  rw [List.contains_iff_mem]
  exact legible.mem_paths_iff listed

/-- The metrics that statistics give are those that were counted. -/
theorem sum_groupSamples (legible : Legible value) {columns : List Column}
    (listed : ∀ column ∈ columns, ∃ group, column.leaf.path ∈ Statistics.paths value group) :
    (columns.map fun column => withinLimit column (column.groupSamples value).length).sum =
      columns.foldl (· + groupCount value ·) 0 := by
  have each : columns.map (fun column => withinLimit column (column.groupSamples value).length) =
      columns.map (groupCount value) := by
    refine List.map_congr_left fun column member => ?_
    obtain ⟨group, present⟩ := listed column member
    exact (groupCount_eq legible present).symm
  rw [each, List.sum_eq_foldl, List.foldl_map]

/-- What a configuration makes of a statistics object counts the metrics of the value. -/
theorem metricCount_statistics (legible : Legible value)
    (isBound : candidate.bindNested .statistics context found value = some bound) :
    bound.metricCount = bound.metricsIn value := by
  unfold bindNested at isBound
  dsimp only at isBound
  split at isBound
  · cases isBound
  · cases isBound
    refine (sum_groupSamples legible fun column member => ?_).symm
    obtain ⟨path, selected, rfl⟩ := List.mem_map.mp member
    rw [selectedPaths_eq] at selected
    exact mem_subPaths_statistics (List.mem_filter.mp selected).1

/-- An attribute that is bound to a legible statistics object counts the metrics that every collection
gives that goes well, whatever metrics are kept. -/
theorem collect_givesCount (legible : Legible value)
    (read : answer (.read candidate.bean candidate.name) = .ok value)
    (isBound : (candidate.bind context selecting).result answer = .ok (some bound))
    (grouped : bound.kind = .statistics) (cache : MetricCache) :
    GivesCount bound.metricCount ((bound.withCache cache).collect.result answer).1 := by
  obtain ⟨kind, found, _, taken⟩ := exists_taken read isBound
  have boundBy := boundBy_of_taken taken
  obtain rfl : kind = .statistics := boundBy.kind_eq.symm.trans grouped
  have counts : bound.Counts fun _ _ => value := metricCount_statistics legible
    ((offerNested_takenAt candidate .statistics context found value).symm.trans taken)
  have same : (bound.withCache cache).metricCount = (bound.withCache cache).metricsIn value :=
    counts.withCache cache
  have reads : answer (.read (bound.withCache cache).bean (bound.withCache cache).name) = .ok value := by
    show answer (.read bound.bean bound.name) = .ok value
    rw [boundBy.bean_eq, boundBy.name_eq, read]
  rw [MatchedAttribute.result_collect, reads, show bound.metricCount = _ from same]
  exact MatchedAttribute.extract_gives (bound.withCache cache) value

end Candidate

namespace Statistics

/-- Listing against reading, for any live value. The listed paths of a group are those at which it measures
something, and what is read at a path is what the group shows there. A path into the first statistic of a
name without dots is read back as what is measured; groups of distinct names are named once each; a single
value is read only at paths that are listed for its group, as far as they are listed for any; and what is
counted when an attribute is bound to a legible value is what every collection gives that goes well. -/
theorem paths_read (value : LiveValue) :
    (∀ name path, path ∈ paths value name ↔
      ∃ group, group? value name = some group ∧ ∃ part, Measures group path part) ∧
    (∀ name path part, read? value name path = some part ↔
      ∃ group, group? value name = some group ∧ Shows group path part) ∧
    (∀ name group statistic fields field part, group? value name = some group →
      lookup? (statistics group) statistic = some fields → '.' ∉ statistic.toList →
      lookup? fields field = some part → field ∉ descriptiveFields → part.isScalar = true →
      statistic ++ "." ++ field ∈ paths value name ∧
        read? value name (statistic ++ "." ++ field) = some part) ∧
    (((namedGroups value).map (·.1)).Nodup →
      (groups value).Nodup ∧ ∀ name group, (name, group) ∈ namedGroups value →
        group? value name = some group ∧
          (name ∈ groups value ↔ name ≠ "" ∨ statistics group ≠ [])) ∧
    (∀ name other path part, path ∈ paths value other → read? value name path = some part →
      part.isScalar = true → path ∈ paths value name) ∧
    (Legible value →
      ∀ candidate context selecting bound cache, ∀ answer : (call : Call) → call.Outcome,
      answer (.read candidate.bean candidate.name) = .ok value →
      (Candidate.bind candidate context selecting).result answer = .ok (some bound) →
      bound.kind = .statistics →
      GivesCount bound.metricCount ((bound.withCache cache).collect.result answer).1) := by
  refine ⟨fun _ _ => mem_paths, fun _ _ _ => read?_eq_some_iff, ?_, groups_of_distinct, ?_, ?_⟩
  · intro name group statistic fields field part known first dotless found measuring single
    exact read?_of_first known first dotless found measuring single
  · intro name other path part listed found single
    exact mem_paths_of_read listed found single
  · intro legible candidate context selecting bound cache answer read isBound grouped
    exact Candidate.collect_givesCount legible read isBound grouped cache

def counter (name : String) (current : LiveValue) : LiveValue :=
  .composite [("current", current), ("name", .string name)]

/-- A statistics object: what it has at the top, and in groups below. -/
def stats (top : List LiveValue) (below : List (String × List LiveValue)) : LiveValue :=
  .composite [("statistics", .array top), ("subStats", .array (below.map fun (name, items) =>
    .composite [("name", .string name), ("statistics", .array items)]))]

/-- An attribute that only its value tells to be a statistics object, a configuration that wants all of it,
and an instance that looks for such. -/
def poolStats : Candidate :=
  ⟨⟨"app", [("type", "Pool")], "app:type=Pool"⟩, ⟨"stats", "app.PoolStats"⟩⟩

def wantingAll : BeanMatch := Candidate.naming none none

def detecting : InstanceContext := ⟨"east", "jmx", [], false, true⟩

def poolColumns (value : LiveValue) (paths : List String) : List Column :=
  paths.map (poolStats.column .statistics detecting wantingAll value)

theorem bind_poolStats (isOne : isStatistics value = true) {first : String} {rest : List String}
    (listed : Candidate.subPaths .statistics value = first :: rest) :
    (poolStats.bind detecting [wantingAll]).result (MatchedAttribute.reading value) =
      .ok (some (poolStats.matched wantingAll (.statistics (poolColumns value (first :: rest)) [])
        ((poolColumns value (first :: rest)).foldl (· + Candidate.groupCount value ·) 0))) := by
  have wants : ∀ path, poolStats.Wants .statistics wantingAll.configuration path := by
    intro path
    refine ⟨.inl rfl, ?_, ?_⟩ <;> exact not_false
  have selected : poolStats.selectedPaths .statistics wantingAll (first :: rest) = first :: rest := by
    rw [Candidate.selectedPaths_eq]
    exact List.filter_eq_self.mpr fun path _ => decide_eq_true (wants path)
  have isBound : poolStats.bindNested .statistics detecting wantingAll value =
      some (poolStats.matched wantingAll (.statistics (poolColumns value (first :: rest)) [])
        ((poolColumns value (first :: rest)).foldl (· + Candidate.groupCount value ·) 0)) := by
    unfold Candidate.bindNested
    rw [listed, selected]
    rfl
  have read : MatchedAttribute.reading value (.read poolStats.bean poolStats.name) = .ok value := rfl
  have known : poolStats.kindAt? detecting value = some .statistics := by
    have unknown : poolStats.kind? = none := by decide
    simp [Candidate.kindAt?, unknown, detecting, isOne]
  have taken : (poolStats.offer .statistics detecting wantingAll).takenAt value = _ :=
    (Candidate.offerNested_takenAt ..).trans isBound
  rw [Candidate.bind_result poolStats detecting [wantingAll] read, known]
  simp [taken]

/-- A statistic at the top and in a group below, with another one there. -/
def orders : LiveValue :=
  stats [counter "size" (.integer 12)]
    [("orders", [counter "size" (.integer 4), counter "waiting" (.integer 1)])]

theorem subPaths_orders :
    Candidate.subPaths .statistics orders = ["size.current", "waiting.current"] := by
  refine sortedSet_eq_of_ascending (by decide) fun path => ?_
  have listed : (groups orders).flatMap (paths orders) =
      ["size.current", "size.current", "waiting.current"] := by decide
  simp [listed]

theorem paths_read_orders :
    let answer := MatchedAttribute.reading orders
    read? orders "orders" ("waiting" ++ "." ++ "current") = some (.integer 1) ∧
      read? orders "" ("size" ++ "." ++ "current") = some (.integer 12) ∧
      "size" ++ "." ++ "current" ∈ paths orders "" ∧ (groups orders).Nodup ∧ "" ∈ groups orders ∧
      ∃ bound metrics, (poolStats.bind detecting [wantingAll]).result answer = .ok (some bound) ∧
        (bound.collect.result answer).1 = .ok metrics ∧ bound.metricCount = 3 ∧
        metrics.length = 3 := by
  intro answer
  obtain ⟨-, -, first_read, named_once, only_listed, counted⟩ := paths_read orders
  have legible : Legible orders := by decide
  obtain ⟨once, named⟩ := named_once (by decide)
  obtain ⟨-, waiting_read⟩ := first_read "orders" _ "waiting" _ "current" (.integer 1)
    rfl rfl (by decide) rfl (by decide) rfl
  have size_read : read? orders "" ("size" ++ "." ++ "current") = some (.integer 12) := rfl
  have size_listed : "size" ++ "." ++ "current" ∈ paths orders "orders" := by decide
  let bound := poolStats.matched wantingAll
    (.statistics (poolColumns orders ["size.current", "waiting.current"]) []) 3
  have isBound : (poolStats.bind detecting [wantingAll]).result answer = .ok (some bound) :=
    bind_poolStats rfl subPaths_orders
  have collects : bound.collect.result answer = bound.extract orders := rfl
  obtain ⟨metrics, extracted⟩ : ∃ metrics, (bound.extract orders).1 = .ok metrics := ⟨_, rfl⟩
  have collected : (bound.collect.result answer).1 = .ok metrics := by rw [collects, extracted]
  refine ⟨waiting_read, size_read, only_listed "" "orders" _ _ size_listed size_read rfl, once, ?_,
    bound, metrics, isBound, collected, rfl, ?_⟩
  · exact (named "" _ List.mem_cons_self).2.mpr (.inr (List.cons_ne_nil _ _))
  · exact counted legible poolStats detecting [wantingAll] bound [] answer rfl isBound rfl metrics
      collected

def dotted : LiveValue := stats [counter "pool.size" (.integer 10)] []

/-- A statistic with a dot in its name is listed and counted, but not read. Groups of one name are named
twice, and a value is read that is listed for another group only, where there it is a single one. -/
theorem paths_unread :
    let repeated := stats [] [("orders", []), ("orders", [])]
    let uneven := stats [counter "size" (.composite [])] [("orders", [counter "size" (.integer 4)])]
    ("" ∈ groups dotted ∧ "pool.size" ++ "." ++ "current" ∈ paths dotted "" ∧
      read? dotted "" ("pool.size" ++ "." ++ "current") = none ∧
      ∃ bound, (poolStats.bind detecting [wantingAll]).result (MatchedAttribute.reading dotted) =
          .ok (some bound) ∧ bound.metricCount = 1 ∧
        (bound.collect.result (MatchedAttribute.reading dotted)).1 = .ok []) ∧
    groups repeated = ["orders", "orders"] ∧
    ("" ∈ groups uneven ∧ "size" ++ "." ++ "current" ∈ paths uneven "orders" ∧
      "size" ++ "." ++ "current" ∉ paths uneven "" ∧
      (read? uneven "" ("size" ++ "." ++ "current")).isSome = true) := by
  intro repeated uneven
  have listed : Candidate.subPaths .statistics dotted = ["pool.size.current"] :=
    sortedSet_of_ascending (List.pairwise_singleton _ _)
  refine ⟨⟨by decide, by decide, rfl, _, bind_poolStats rfl listed, rfl, rfl⟩, rfl, ?_⟩
  exact ⟨by decide, by decide, by decide, rfl⟩

end Statistics
end BeanHarvest
