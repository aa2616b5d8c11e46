import BeanHarvest.Proofs.Report.RateLaw
import BeanHarvest.Proofs.Sorted

/-! Series and their identities. An identity joins a name and tags with bars and escapes nothing, so that
it tells what stands between bars, and no more. Where no bar stands in names and tags, metrics of one
identity are of one series, and no rate is taken across series. -/
namespace BeanHarvest

/-- What is joined by a separator falls apart where the parts do. -/
theorem splitOn_intercalate_flatMap {α : Type} [DecidableEq α] (sep : α) (first : List α)
    (others : List (List α)) :
    ([sep].intercalate (first :: others)).splitOn sep =
      (first :: others).flatMap (·.splitOn sep) := by
  induction others generalizing first with
  | nil => simp
  | cons second rest ih =>
    have joined : [sep].intercalate (first :: second :: rest) =
        first ++ sep :: [sep].intercalate (second :: rest) := by
      simp [List.intercalate_cons_cons]
    rw [joined, List.flatMap_cons, ← ih]
    simp only [List.splitOn_eq_splitOnP]
    exact List.splitOnP_append_cons _ _ (by simp)

namespace Metric

variable {metric one other : Metric} {given given₂ : List String}

/-- How a metric comes about, with all tags that it was ever given. -/
inductive Built : Metric → List String → Prop where
  | ofTags (name : String) (type : MetricType) (tags : List String) (check : String) :
      Built (ofTags name type tags check) tags
  | withValue {metric : Metric} {given : List String} (built : Built metric given) (value : Double) :
      Built (metric.withValue value) given
  | addTags {metric : Metric} {given : List String} (built : Built metric given)
      (extra : List String) : Built (metric.addTags extra) (given ++ extra)

/-- The tags of a metric are the set of those that it was given, whenever it got them. -/
theorem Built.tags_eq (built : metric.Built given) : metric.tags = sortedSet given := by
  induction built with
  | ofTags name type tags check => rfl
  | withValue built value ih => exact ih
  | @addTags metric given built extra ih =>
    have added : (metric.addTags extra).tags = sortedSet (metric.tags ++ extra) := rfl
    rw [added, ih]
    apply sortedSet_eq_of_ascending (sortedSet_ascending _)
    intro tag
    simp [mem_sortedSet]

theorem Built.tags_eq_iff (built : one.Built given) (built₂ : other.Built given₂) :
    one.tags = other.tags ↔ ∀ tag, tag ∈ given ↔ tag ∈ given₂ := by
  rw [built.tags_eq, built₂.tags_eq]
  constructor
  · intro same tag
    rw [← mem_sortedSet, same, mem_sortedSet]
  · intro alike
    apply sortedSet_eq_of_ascending (sortedSet_ascending _)
    intro tag
    rw [mem_sortedSet, alike]

/-- What stands between bars in the name and the tags of a metric. -/
def pieces (metric : Metric) : List (List Char) :=
  (metric.name :: metric.tags).flatMap (·.toList.splitOn '|')

theorem splitOn_identity (metric : Metric) :
    metric.identity.toList.splitOn '|' = metric.pieces := by
  have joined : metric.identity.toList =
      ['|'].intercalate (metric.name.toList :: metric.tags.map String.toList) := by
    simp [identity]
  rw [joined, splitOn_intercalate_flatMap, pieces, ← List.map_cons, List.flatMap_map]

/-- Identities are as good as the pieces between their bars. -/
theorem identity_eq_iff_pieces : one.identity = other.identity ↔ one.pieces = other.pieces := by
  constructor
  · intro same
    rw [← splitOn_identity, same, splitOn_identity]
  · intro same
    rw [← splitOn_identity, ← splitOn_identity] at same
    have joined := congrArg (['|'].intercalate ·) same
    simpa only [List.intercalate_splitOn, String.toList_inj] using joined

/-- Whether no bar stands in the name or in a tag of a metric. -/
def Barless (metric : Metric) : Prop := ∀ text ∈ metric.name :: metric.tags, '|' ∉ text.toList

instance (metric : Metric) : Decidable metric.Barless :=
  inferInstanceAs (Decidable (∀ text ∈ metric.name :: metric.tags, '|' ∉ text.toList))

theorem Built.barless (built : metric.Built given)
    (plain : ∀ text ∈ metric.name :: given, '|' ∉ text.toList) : metric.Barless := by
  intro text member
  apply plain text
  rcases List.mem_cons.mp member with isName | isTag
  · exact List.mem_cons.mpr (.inl isName)
  · rw [built.tags_eq, mem_sortedSet] at isTag
    exact List.mem_cons_of_mem _ isTag

theorem Barless.pieces_eq (barless : metric.Barless) :
    metric.pieces = (metric.name :: metric.tags).map String.toList := by
  have whole : ∀ text ∈ metric.name :: metric.tags, text.toList.splitOn '|' = [text.toList] := by
    intro text member
    have apart : ∀ part ∈ [text.toList], '|' ∉ part := by simpa using barless text member
    simpa using List.splitOn_intercalate '|' apart (List.cons_ne_nil _ _)
  rw [pieces, List.flatMap_congr whole, List.map_eq_flatMap]

theorem Barless.identity_eq_iff (barless : one.Barless) (barless₂ : other.Barless) :
    one.identity = other.identity ↔ one.name = other.name ∧ one.tags = other.tags := by
  have injective : Function.Injective (List.map String.toList) :=
    List.map_injective_iff.mpr fun _ _ => String.toList_inj.mp
  rw [identity_eq_iff_pieces, barless.pieces_eq, barless₂.pieces_eq, injective.eq_iff, List.cons.injEq]

end Metric

namespace Pipeline

variable {history : List Event} {name identity : String} {metrics part : List Metric} {time : Int}
  {before : Baseline} {handed : MetricPoint}

/-- Whether a metric was sent for an instance, at some time: in the part of a batch that has been taken
in, or in a batch before. -/
def SentBefore (history : List Event) (name : String) (part : List Metric) (time : Int)
    (sample : Metric) (sent : Int) : Prop :=
  sample ∈ part ∧ sent = time ∨ ∃ batch, .send name batch sent ∈ history ∧ sample ∈ batch

/-- Whether all metrics that go by their identities, which are those that are no gauges, are without
bars. -/
def RatedBarless (metrics : List Metric) : Prop :=
  ∀ metric ∈ metrics, metric.type.isGauge = false → metric.Barless

/-- A baseline is a rated metric that was sent before, under the same identity. -/
theorem HasBaseline.sentBefore (has : HasBaseline history name part time identity before) :
    ∃ sample sent, SentBefore history name part time sample sent ∧
      sample.type.isGauge = false ∧ sample.identity = identity ∧ before = ⟨sample.value, sent⟩ := by
  rcases has with ⟨sample, found, rfl⟩ | ⟨_, earlier, batch, sent, later, sample, rfl, found, rfl, _⟩
  · obtain ⟨member, rated, same⟩ := of_lastSample? found
    exact ⟨sample, time, .inl ⟨member, rfl⟩, rated, same, rfl⟩
  · obtain ⟨member, rated, same⟩ := of_lastSample? found
    refine ⟨sample, sent, .inr ⟨batch, ?_, member⟩, rated, same, rfl⟩
    exact List.mem_append_right _ List.mem_cons_self

/-- Every point of a batch is handed over for a metric of it, behind those in front. -/
theorem exists_step_of_send {baselines : Baselines}
    (member : handed ∈ (send baselines name metrics time).1) :
    ∃ place metric, metrics[place]? = some metric ∧
      (step name time (steps name time baselines (metrics.take place)).2 metric).1 = some handed := by
  have sent : (send baselines name metrics time).1 =
      (Pipeline.handed name time baselines metrics).filterMap id := steps_fst
  rw [sent] at member
  obtain ⟨given, among, same⟩ := List.mem_filterMap.mp member
  obtain ⟨place, found⟩ := List.mem_iff_getElem?.mp among
  have within : place < metrics.length := by
    have bound := (List.getElem?_eq_some_iff.mp found).1
    rwa [length_handed] at bound
  have here : metrics[place]? = some metrics[place] := List.getElem?_eq_getElem within
  refine ⟨place, metrics[place], here, ?_⟩
  rw [handed_get? place here] at found
  exact (Option.some.inj found).trans same

/-- Identities are one just where the pieces between bars are. As long as no bar stands in names and tags,
they are one just where the names are and the tags that were ever given; and then, whatever was sent and
forgotten before, every rate is taken from a metric of the same name and tags, sent before for the same
instance. -/
theorem rates_within_series (history : List Event) (name : String) (metrics : List Metric) (time : Int) :
    (∀ one other : Metric, one.identity = other.identity ↔ one.pieces = other.pieces) ∧
    (∀ one other given given₂, Metric.Built one given → Metric.Built other given₂ →
      one.Barless → other.Barless →
        (one.identity = other.identity ↔
          one.name = other.name ∧ ∀ tag, tag ∈ given ↔ tag ∈ given₂)) ∧
    ((∀ batch sent, Event.send name batch sent ∈ history → RatedBarless batch) →
      RatedBarless metrics →
        ∀ handed ∈ (send (baselinesAfter history) name metrics time).1,
          ∃ place metric, metrics[place]? = some metric ∧
            (metric.type.isGauge = true ∧ handed = point metric metric.value ∨
              ∃ sample sent rate,
                SentBefore history name (metrics.take place) time sample sent ∧
                  sample.name = metric.name ∧ sample.tags = metric.tags ∧
                  Baseline.rate? ⟨sample.value, sent⟩ metric.value time = some rate ∧
                  handed = point metric rate)) := by
  refine ⟨fun one other => Metric.identity_eq_iff_pieces, ?_, ?_⟩
  · intro one other given given₂ built built₂ barless barless₂
    rw [barless.identity_eq_iff barless₂, built.tags_eq_iff built₂]
  · intro earlier now handed member
    obtain ⟨place, metric, here, given⟩ := exists_step_of_send member
    refine ⟨place, metric, here, ?_⟩
    obtain ⟨_, gauge | ⟨rated, before, rate, found, ofRate, same⟩⟩ := step_fst_iff.mp given
    · exact .inl gauge
    · obtain ⟨sample, sent, sentBefore, sampleRated, alike, rfl⟩ :=
        (steps_get?_iff.mp found).sentBefore
      have barless : metric.Barless := now metric (List.mem_of_getElem? here) rated
      have sampleBarless : sample.Barless := by
        rcases sentBefore with ⟨inFront, _⟩ | ⟨batch, wasSent, inBatch⟩
        · exact now sample (List.mem_of_mem_take inFront) sampleRated
        · exact earlier batch sent wasSent sample inBatch sampleRated
      obtain ⟨sameName, sameTags⟩ := (sampleBarless.identity_eq_iff barless).mp alike
      exact .inr ⟨sample, sent, rate, sentBefore, sameName, sameTags, ofRate, same⟩

/-- A metric of a pool, with the tags of the pool and then those of its instance. -/
def poolUsed (pool : List String) : Metric :=
  (Metric.ofTags "jvm.pool.used" .rate pool "jmx").addTags ["instance:east"]

theorem poolUsed_built (pool : List String) :
    (poolUsed pool).Built (pool ++ ["instance:east"]) :=
  (Metric.Built.ofTags "jvm.pool.used" .rate pool "jmx").addTags ["instance:east"]

/-- Of two pools that come after the first, the one that was there before is handed over alone. -/
theorem rates_within_series_pools :
    (poolUsed ["pool:eden"]).identity ≠ (poolUsed ["pool:old"]).identity ∧
    ∀ handed ∈ (send (baselinesAfter [.send "east" [poolUsed ["pool:eden"]] 0]) "east"
        [poolUsed ["pool:eden"], poolUsed ["pool:old"]] 1000).1,
      handed.tags = (poolUsed ["pool:eden"]).tags := by
  obtain ⟨-, series, rates⟩ := rates_within_series
    [.send "east" [poolUsed ["pool:eden"]] 0] "east" [poolUsed ["pool:eden"], poolUsed ["pool:old"]] 1000
  have eden : (poolUsed ["pool:eden"]).Barless := (poolUsed_built _).barless (by decide)
  have old : (poolUsed ["pool:old"]).Barless := (poolUsed_built _).barless (by decide)
  have apart : ¬ ∀ tag, tag ∈ ["pool:eden"] ++ ["instance:east"] ↔
      tag ∈ ["pool:old"] ++ ["instance:east"] := by
    intro alike
    exact absurd ((alike "pool:eden").mp (by decide)) (by decide)
  have different : (poolUsed ["pool:eden"]).tags ≠ (poolUsed ["pool:old"]).tags := by
    rwa [ne_eq, (poolUsed_built _).tags_eq_iff (poolUsed_built _)]
  constructor
  · intro same
    exact apart ((series _ _ _ _ (poolUsed_built _) (poolUsed_built _) eden old).mp same).2
  · intro handed member
    have earlier : ∀ batch sent, Event.send "east" batch sent ∈
        [Event.send "east" [poolUsed ["pool:eden"]] 0] → RatedBarless batch := by
      intro batch sent wasSent metric inBatch _
      cases List.mem_singleton.mp wasSent
      exact List.mem_singleton.mp inBatch ▸ eden
    have now : RatedBarless [poolUsed ["pool:eden"], poolUsed ["pool:old"]] := by
      intro metric inBatch _
      rcases List.mem_pair.mp inBatch with rfl | rfl
      · exact eden
      · exact old
    obtain ⟨place, metric, here, gauge | ⟨sample, sent, rate, before, _, sameTags, _, rfl⟩⟩ :=
      rates earlier now handed member
    · rcases List.mem_pair.mp (List.mem_of_getElem? here) with rfl | rfl
      · cases gauge.1
      · cases gauge.1
    · match place, here with
      | 0, here =>
        cases here
        rfl
      | 1, here =>
        cases here
        have sampleEden : sample = poolUsed ["pool:eden"] := by
          rcases before with ⟨inFront, _⟩ | ⟨batch, wasSent, inBatch⟩
          · exact List.mem_singleton.mp inFront
          · cases List.mem_singleton.mp wasSent
            exact List.mem_singleton.mp inBatch
        exact absurd (sampleEden ▸ sameTags) different

/-- Tags in which bars stand are taken for others: two metrics whose tags differ have one identity. -/
theorem identity_crosses_series :
    ∃ one other given given₂, Metric.Built one given ∧ Metric.Built other given₂ ∧
      one.identity = other.identity ∧ one.name = other.name ∧
      "pool:eden|zone:old" ∈ given ∧ "pool:eden|zone:old" ∉ given₂ := by
  have crossed := Metric.Built.ofTags "jvm.pool.used" .rate ["pool:eden|zone:old"] "jmx"
  have plain := Metric.Built.ofTags "jvm.pool.used" .rate ["pool:eden", "zone:old"] "jmx"
  refine ⟨_, _, _, _, crossed, plain, ?_, rfl, by decide, by decide⟩
  have one : sortedSet ["pool:eden|zone:old"] = ["pool:eden|zone:old"] :=
    sortedSet_of_ascending (List.pairwise_singleton _ _)
  have two : sortedSet ["pool:eden", "zone:old"] = ["pool:eden", "zone:old"] :=
    sortedSet_of_ascending (by decide)
  simp only [Metric.identity, Metric.ofTags, one, two]
  decide

end Pipeline
end BeanHarvest
