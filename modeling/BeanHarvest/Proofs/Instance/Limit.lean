import BeanHarvest.Proofs.Attribute.Counting
import BeanHarvest.Proofs.Instance.Steady
import BeanHarvest.Proofs.Instance.Working
import BeanHarvest.Target.Rehearsal

/-! The limit of metrics at collection. As long as the live values of a target stay what they were when
its attributes were matched, every attribute gives as many metrics as were counted for it, whatever is
done with the instance in between; so no collection gives more metrics than the instance may return. -/
namespace BeanHarvest

/-- The promise of a target whose attributes have fixed values. It may fail to say them. -/
def serving (values : Bean → String → LiveValue) : Promise
  | .read bean name, .ok value => value = values bean name
  | _, _ => True

variable {values : Bean → String → LiveValue}

/-- An attribute that is bound while the values are fixed counts the metrics of its value. -/
theorem Candidate.bind_counts (candidate : Candidate) {context : InstanceContext}
    (plain : context.detectStatistics = false) (selecting : List BeanMatch) :
    (candidate.bind context selecting).YieldsUnder (serving values) fun result =>
      ∀ bound, result = .ok (some bound) → bound.Counts values := by
  have promised : ∀ value, serving values (.read candidate.bean candidate.name) (.ok value) →
      value = values candidate.bean candidate.name := fun _ served => served
  have possible : ∃ value, value = values candidate.bean candidate.name := ⟨_, rfl⟩
  refine bind_yieldsUnder possible promised ?_
  rintro kind mayBe found _ rfl bound taken
  have known : kind ≠ .statistics := by
    rintro rfl
    rcases mayBe with declared | ⟨detects, _⟩
    · exact candidate.kind?_ne_statistics declared
    · exact absurd (plain.symm.trans detects) Bool.false_ne_true
  have boundBy := boundBy_of_taken taken
  unfold MatchedAttribute.Counts
  rw [boundBy.bean_eq, boundBy.name_eq]
  exact metricCount_of_taken known taken

theorem MatchPass.counts_addsUnder {rules : MatchRules}
    (plain : rules.context.detectStatistics = false) (bean : Bean) :
    AddsUnder (serving values) rules
      (fun pass => ∀ bound ∈ pass.matched, bound.Counts values) bean := by
  intro pass info selecting counted
  refine (Candidate.bind_counts ⟨bean, info⟩ plain selecting).imp fun result counts found came => ?_
  intro bound member
  rcases mem_add_matched member with before | rfl
  · exact counted bound before
  · rcases came with same | same
    · exact counts bound same
    · cases same

theorem MatchedAttribute.Counts.collect {bound : MatchedAttribute} (counts : bound.Counts values) :
    bound.collect.Yields fun read =>
      read.2.Counts values ∧ read.2.metricCount = bound.metricCount := by
  intro outcome
  cases outcome with
  | ok value =>
    obtain ⟨cache, same⟩ := bound.exists_extract_eq value
    change (bound.extract value).2.Counts values ∧ (bound.extract value).2.metricCount = _
    rw [same]
    exact ⟨counts.withCache cache, rfl⟩
  | error fault => exact ⟨counts, rfl⟩

namespace Instance

/-- An instance of which every attribute counts the metrics of its value, and all together are within a
limit. -/
structure Counted (values : Bean → String → LiveValue) (limit : Nat) (one : Instance) : Prop where
  plain : one.settings.detectStatistics = false
  limit_eq : one.schedule.maxMetrics = limit
  counts : ∀ bound ∈ one.matched, bound.Counts values
  within : totalMetrics one.matched ≤ limit

/-- Whatever was matched before, an instance without statistics is counted when its attributes were
matched. -/
theorem pass_counted {one : Instance} (plain : one.settings.detectStatistics = false) (action : Action)
    (beans : List Bean) :
    (MatchPass.overBeans (one.rules action) {} beans).YieldsUnder (serving values) fun result =>
      ∀ pass, result = .ok pass → (one.withPass pass).Counted values one.schedule.maxMetrics := by
  have sound := MatchPass.Sound.start (one.rules action).limit beans
  have none_matched : ∀ bound ∈ ({} : MatchPass).matched, bound.Counts values := nofun
  have adds : ∀ bean ∈ beans, MatchPass.AddsUnder (serving values) (one.rules action)
      (fun pass => pass.Sound (one.rules action).limit beans ∧
        ∀ bound ∈ pass.matched, bound.Counts values) bean :=
    fun bean member => (MatchPass.Sound.addsUnder member).and
      (MatchPass.counts_addsUnder plain bean)
  refine (MatchPass.overBeans_keeps adds ⟨sound, none_matched⟩).imp fun _ comesOut pass same => ?_
  obtain ⟨sound, counts⟩ := comesOut.1 pass same
  exact ⟨plain, rfl, counts, sound.within⟩

/-- Nothing that is done with an instance makes its attributes count otherwise. -/
theorem counted_steady (limit : Nat) : Steady (serving values) (Counted values limit) where
  congr := by
    intro one other counted akin
    obtain ⟨plain, limit_eq, counts, within⟩ := counted
    exact ⟨akin.settings ▸ plain, akin.schedule ▸ limit_eq, akin.isMatched ▸ counts,
      akin.isMatched ▸ within⟩
  drops := by
    intro one fewer counted part
    obtain ⟨plain, limit_eq, counts, within⟩ := counted
    exact ⟨plain, limit_eq, fun bound member => counts bound (part.subset member),
      (totalMetrics_sublist part).trans within⟩
  passes := by
    intro one action counted
    obtain ⟨plain, rfl, _, _⟩ := counted
    exact pass_counted plain action one.beans
  reads := by
    intro one before rest bound counted placed
    obtain ⟨plain, limit_eq, counts, within⟩ := counted
    have own := counts bound (placed ▸ List.mem_append_right before List.mem_cons_self)
    refine own.collect.under.imp fun read ⟨countsStill, sameCount⟩ => ?_
    refine ⟨plain, limit_eq, fun other member => ?_, ?_⟩
    · rcases List.mem_append.mp member with front | member
      · exact counts other (placed ▸ List.mem_append_left _ front)
      · rcases List.mem_cons.mp member with rfl | behind
        · exact countsStill
        · have member := List.mem_append_right before (List.mem_cons_of_mem bound behind)
          exact counts other (placed ▸ member)
    · rw [placed, totalMetrics_append, totalMetrics_cons] at within
      rw [totalMetrics_append, totalMetrics_cons, sameCount]
      exact within

end Instance

/-- An attempt at an attribute gives the metrics that were counted, unless it goes wrong. -/
theorem Attempt.gives {attempt : Attempt} (counts : attempt.bound.Counts values)
    (allowed : (serving values).Allows attempt.answer) :
    GivesCount attempt.bound.metricCount attempt.result.1 := by
  obtain ⟨bound, outcome⟩ := attempt
  cases outcome with
  | error fault => exact givesCount_error _
  | ok value =>
    have same : value = values bound.bean bound.name := allowed
    have gives := bound.extract_gives value
    rw [same, ← counts] at gives
    subst value
    exact gives

theorem Attempt.length_metrics_le {attempt : Attempt} {count : Nat}
    (gives : GivesCount count attempt.result.1) : attempt.metrics.length ≤ count := by
  unfold metrics
  split
  · next metrics came => exact Nat.le_of_eq (gives metrics came)
  · exact Nat.zero_le count

theorem Attempt.length_flatMap_metrics_le {attempts : List Attempt}
    (give : ∀ attempt ∈ attempts, GivesCount attempt.bound.metricCount attempt.result.1) :
    (attempts.flatMap (·.metrics)).length ≤ totalMetrics (attempts.map (·.bound)) := by
  induction attempts with
  | nil => exact Nat.le_refl 0
  | cons attempt rest ih =>
    obtain ⟨own, others⟩ := List.forall_mem_cons.mp give
    rw [List.flatMap_cons, List.length_append, List.map_cons, totalMetrics_cons]
    exact Nat.add_le_add (length_metrics_le own) (ih others)

namespace Instance

variable {one final : Instance} {limit start last : Nat} {answers : List Answer}
  {metrics : List Metric}

theorem Counted.collectMatched (counted : one.Counted values limit)
    (ends : (collectMatched start one).Ends answers last final (.ok metrics))
    (allowed : ∀ answer ∈ answers, (serving values).Allows answer) : metrics.length ≤ limit := by
  obtain ⟨attempts, _, rfl, goes, _⟩ := collectMatched_goes ends
  obtain ⟨_, _, counts, within⟩ := counted
  generalize one.matched = list at goes counts within
  cases goes with
  | through attempts mild =>
    refine (Attempt.length_flatMap_metrics_le fun attempt member => ?_).trans within
    exact attempt.gives (counts _ (List.mem_map_of_mem member))
      (allowed _ (List.mem_map_of_mem member))

/-- A collection gives no more metrics than the limit, whether it matches the attributes anew or not. -/
theorem Counted.collect (counted : one.Counted values limit)
    (ends : (collect start one).Ends answers last final (.ok metrics))
    (allowed : ∀ answer ∈ answers, (serving values).Allows answer) : metrics.length ≤ limit := by
  rw [BeanHarvest.Instance.collect, connectedOr_of_connected (connected_of_ends ends)] at ends
  obtain ⟨before, after, middle, between, _, rfl, refreshed, collected⟩ := followed_inv ends
  obtain ⟨first, second⟩ := List.forall_mem_append.mp allowed
  have still := refreshed.meetsUnder first ((counted_steady limit).refreshIfDue start one counted)
  exact still.collectMatched collected second

/-- An instance without statistics is counted when its attributes were matched or it was started. -/
theorem counted_of_matching {work : Operation Instance (Except InstanceFault Unit)} {action : Action}
    (matching : work = matchAttributes action ∨ ∃ anew, work = init action anew)
    (plain : one.settings.detectStatistics = false)
    (ends : (work start one).Ends answers last final (.ok ()))
    (allowed : ∀ answer ∈ answers, (serving values).Allows answer) :
    final.Counted values one.schedule.maxMetrics := by
  rcases matching with rfl | ⟨anew, rfl⟩
  · obtain ⟨_, pass, passed, rfl⟩ := matchAttributes_inv ends
    exact passed.of_yieldsUnder allowed (pass_counted plain action one.beans) pass rfl
  · obtain ⟨now, beans, pass, ⟨_, asked, among, passed⟩, rfl⟩ := init_inv ends
    have counted := passed.of_yieldsUnder (fun answer member => allowed answer (among member))
      (pass_counted plain action beans) pass rfl
    exact (counted_steady one.schedule.maxMetrics).congr counted {}

end Instance

def Rehearsal.live (target : Rehearsal) (bean : Bean) (name : String) : LiveValue :=
  match target.answer (.read bean name) with
  | .ok value => value
  | .error _ => .null

/-- Rehearsals do not change by being asked. -/
theorem Rehearsal.honours (target : Rehearsal) :
    Rehearsal.asTarget.Honours (serving target.live) target := by
  have counted : ∀ calls (counts : CallCounts), ∃ later : CallCounts,
      asTarget.worldAfter { target with counts } calls = { target with counts := later } := by
    intro calls
    induction calls with
    | nil => exact fun counts => ⟨counts, rfl⟩
    | cons call rest ih => exact fun counts => ih (Rehearsal.counted counts call)
  intro calls call
  obtain ⟨later, same⟩ := counted calls target.counts
  have unchanged : asTarget.worldAfter target calls = { target with counts := later } := same
  rw [unchanged]
  cases call with
  | read bean name =>
    change serving target.live (.read bean name) (target.answer (.read bean name))
    cases came : target.answer (.read bean name) with
    | error fault => trivial
    | ok value =>
      change value = target.live bean name
      rw [live, came]
  | _ => trivial

namespace Instance

variable {τ : Type} {target : Target τ}

/-- An instance without statistics has its attributes matched, against a target whose values stay the
same from then on. Whatever is done with it afterwards, and wherever that is cut short, every attribute
that is collected gives just the metrics that it counts, unless that goes wrong; and no collection of
the instance gives more than it may return. -/
theorem collect_within_limit {one final : Instance} {world after : τ} {deadline : Option Nat}
    {start last : Nat} {action : Action} {work : Operation Instance (Except InstanceFault Unit)}
    (plain : one.settings.detectStatistics = false)
    (honours : target.Honours (serving values) world)
    (matching : work = matchAttributes action ∨ ∃ anew, work = init action anew)
    (isMatched : target.run deadline world start (work start one) = .ended last final after (.ok ()))
    {later : Instance} {world₂ : τ}
    (leads : target.Leads (serving values) (final, after) (later, world₂)) :
    (∀ bound ∈ later.matched, ∀ deadline time last left behind metrics read,
      target.run deadline world₂ time (Operation.hold bound.collect time later) =
        .ended last left behind (.ok metrics, read) → metrics.length = bound.metricCount) ∧
    ∀ deadline time last left behind metrics,
      target.run deadline world₂ time (collect time later) =
        .ended last left behind (.ok metrics) → metrics.length ≤ one.schedule.maxMetrics := by
  obtain ⟨honoursStill, answers, ends, allowed⟩ := Target.ends_of_run honours isMatched
  have begun := counted_of_matching matching plain ends allowed
  obtain ⟨counted, honoursLater⟩ :=
    (counted_steady one.schedule.maxMetrics).leads leads begun honoursStill
  constructor
  · intro bound member deadline time last left behind metrics read ran
    obtain ⟨_, answers, ends, allowed⟩ := Target.ends_of_run honoursLater ran
    obtain ⟨attempt, rfl, rfl, same⟩ := Attempt.exists_of_ends (Operation.hold_ends_inv ends).2
    have gives := attempt.gives (counted.counts _ member) (allowed _ List.mem_cons_self)
    rw [← same] at gives
    exact gives metrics rfl
  · intro deadline time last left behind metrics ran
    obtain ⟨_, answers, ends, allowed⟩ := Target.ends_of_run honoursLater ran
    exact counted.collect ends allowed

open Candidate (heap heapUsage)
open MatchedAttribute (pools poolTable)

/-- A configuration that collects an attribute with three values, and up to two rows of a table. -/
def measured : Configuration where
  included := { Filter.empty with
    attributes := some (.detailed [("HeapMemoryUsage", none),
      ("Pools.count", some { AttributeOptions.default with limit := some 2 })]) }
  excluded := Filter.empty
  metricPrefix := none
  renamedTags := []

/-- An instance that may return just as many metrics as there are. -/
def measuring : Instance where
  settings := { name := "east" }
  configurations := [measured]
  schedule := ⟨none, none, none, 4⟩
  engine := Pattern.engine
  isConnected := true
  beans := [pools.bean, heap.bean]

def memory : Rehearsal where
  beans := [(pools.bean.name, ⟨"", [(pools.info, poolTable "pool" 1)]⟩),
    (heap.bean.name, ⟨"", [(heap.info, heapUsage)]⟩)]

def foundIn (bean : Bean) : BeanMatch := ⟨measured, bean.parameters⟩

def boundPools : MatchedAttribute :=
  pools.matched (foundIn pools.bean)
    (.tabular [pools.column .tabular measuring.context (foundIn pools.bean) (poolTable "pool" 1)
      "count"] []) 1

def boundHeap : MatchedAttribute :=
  heap.matched (foundIn heap.bean)
    (.composite (["committed", "max", "used"].map fun path =>
      (heap.column .composite measuring.context (foundIn heap.bean) heapUsage path).leaf)) 3

theorem run_measuring : Rehearsal.asTarget.run none memory 0 (matchAttributes .collect 0 measuring) =
    .ended 0 (measuring.withPass { matched := [boundPools, boundHeap], metricCount := 4 })
      { memory with counts := ⟨0, 0, 2, 0, 2⟩ } (.ok ()) := by
  with_unfolding_all rfl

theorem collect_within_limit_measuring :
    measuring.settings.detectStatistics = false ∧
    Rehearsal.asTarget.Honours (serving memory.live) memory ∧
    ∃ final after, Rehearsal.asTarget.run none memory 0 (matchAttributes .collect 0 measuring) =
        .ended 0 final after (.ok ()) ∧
      final.matched.map (·.metricCount) = [1, 3] ∧
      ∃ last left behind metrics, Rehearsal.asTarget.run none after 0 (collect 0 final) =
          .ended last left behind (.ok metrics) ∧ metrics.length ≤ 4 := by
  have plain : measuring.settings.detectStatistics = false := rfl
  have honours := Rehearsal.honours memory
  have collected : ∃ last left behind metrics,
      Rehearsal.asTarget.run none { memory with counts := ⟨0, 0, 2, 0, 2⟩ } 0
        (collect 0 (measuring.withPass { matched := [boundPools, boundHeap], metricCount := 4 })) =
          .ended last left behind (.ok metrics) :=
    ⟨_, _, _, _, by with_unfolding_all rfl⟩
  obtain ⟨last, left, behind, metrics, ran⟩ := collected
  obtain ⟨_, within⟩ := collect_within_limit plain honours (.inl rfl) run_measuring .begun
  exact ⟨plain, honours, _, _, run_measuring, rfl, last, left, behind, metrics, ran,
    within none 0 last left behind metrics ran⟩

end Instance
end BeanHarvest
