import BeanHarvest.Proofs.Instance.Eviction
import BeanHarvest.Proofs.Instance.Faults

/-! Working instances: ready, connected, and with attributes of the beans that they know, within the
limit. An instance that was started well is working, and one that has given metrics is so still; a
collection that goes wrong breaks the instance. -/
namespace BeanHarvest

namespace Reading

variable {reading : Reading} {failing : List String} {readings : List Reading}

theorem extract_keeps (matched : MatchedAttribute) (value : LiveValue) :
    (matched.extract value).2.bean = matched.bean ∧
      (matched.extract value).2.metricCount = matched.metricCount := by
  obtain ⟨cache, same⟩ := matched.exists_extract_eq value
  rw [same]
  exact ⟨rfl, rfl⟩

theorem collect_keeps (bound : MatchedAttribute) : bound.collect.Yields fun read =>
    read.2.bean = bound.bean ∧ read.2.metricCount = bound.metricCount := by
  intro outcome
  cases outcome with
  | ok value => exact extract_keeps bound value
  | error fault => exact ⟨rfl, rfl⟩

theorem Happens.keeps (happens : reading.Happens) :
    reading.after.bean = reading.bound.bean ∧
      reading.after.metricCount = reading.bound.metricCount := by
  obtain ⟨result, ends, _⟩ := happens
  exact ends.of_yields (collect_keeps reading.bound)

theorem survivors_sublist (failing : List String) (readings : List Reading) :
    (survivors failing readings).1.Sublist (readings.map (·.after)) := by
  induction readings generalizing failing with
  | nil => exact .slnil
  | cons reading rest ih =>
    simp only [survivors, List.map_cons]
    split
    · exact (ih _).cons_cons _
    · exact (ih _).cons _

/-- Readings leave as many metrics in total as there were. -/
theorem totalMetrics_after (happen : ∀ reading ∈ readings, reading.Happens) :
    totalMetrics (readings.map (·.after)) = totalMetrics (readings.map (·.bound)) := by
  induction readings with
  | nil => rfl
  | cons reading rest ih =>
    have others := ih fun other member => happen other (List.mem_cons_of_mem _ member)
    have own := (happen reading List.mem_cons_self).keeps.2
    simp only [List.map_cons, totalMetrics_cons, others, own]

end Reading

namespace Instance

structure Working (one : Instance) : Prop where
  ready : one.phase = .ready
  connected : one.isConnected = true
  ascending : one.beans.Pairwise fun a b => a.name < b.name
  among : ∀ bound ∈ one.matched, bound.bean ∈ one.beans
  within : totalMetrics one.matched ≤ one.schedule.maxMetrics

variable {one final : Instance} {answers : List Answer} {start last : Nat} {action : Action}
  {beans : List Bean} {pass : MatchPass}

theorem Discovers.sound (discovers : one.Discovers answers action beans pass) :
    beans.Pairwise (fun a b => a.name < b.name) ∧ pass.Sound one.schedule.maxMetrics beans := by
  obtain ⟨⟨_, _, found⟩, ⟨_, _, passed⟩⟩ := discovers
  exact ⟨found.of_yields (findBeans_yields one.configurations) beans rfl,
    passed.of_yields (rules_yields one action beans)⟩

theorem working_of_init {anew : Bool} (ends : (init action anew start one).CanEnd final (.ok ())) :
    final.Working := by
  obtain ⟨_, _, ends⟩ := ends.ends
  obtain ⟨now, beans, pass, discovers, rfl⟩ := init_inv ends
  obtain ⟨ascending, sound⟩ := discovers.sound
  exact ⟨rfl, rfl, ascending, sound.among, sound.within⟩

theorem Working.refreshed (working : one.Working) (discovers : one.Discovers answers action beans pass)
    (now : Nat) : (one.refreshedWith now beans pass).Working := by
  obtain ⟨ascending, sound⟩ := discovers.sound
  exact ⟨working.ready, working.connected, ascending, sound.among, sound.within⟩

/-- If it is not time to refresh, or the refresh goes well, an instance is still working. -/
theorem Working.refreshIfDue (working : one.Working)
    (ends : (refreshIfDue start one).Ends answers last final (.ok ())) : final.Working := by
  rw [BeanHarvest.Instance.refreshIfDue, Operation.get_bind, Operation.now_bind] at ends
  split at ends
  · obtain ⟨_, _, _, between, result, _, refreshed, ends⟩ := Operation.bind_ends_inv ends
    cases result with
    | error fault => cases (Operation.pure_ends_inv ends).2.2
    | ok done =>
      obtain ⟨_, rfl, _⟩ := Operation.pure_ends_inv ends
      obtain ⟨now, beans, pass, discovers, rfl⟩ := refresh_inv refreshed
      exact working.refreshed discovers now
  · obtain ⟨_, rfl, _⟩ := Operation.pure_ends_inv ends
    exact working

/-- Readings only drop attributes. -/
theorem Working.collected (working : one.Working) {readings : List Reading}
    (bounds : readings.map (·.bound) = one.matched)
    (happen : ∀ reading ∈ readings, reading.Happens) (start : Nat) :
    (one.collectedWith start readings).Working := by
  have kept := Reading.survivors_sublist one.failing readings
  refine ⟨rfl, working.connected, working.ascending, ?_, ?_⟩
  · intro bound member
    obtain ⟨reading, present, rfl⟩ := List.mem_map.mp (kept.subset member)
    rw [(happen reading present).keeps.1]
    exact working.among _ (bounds ▸ List.mem_map_of_mem present)
  · refine Nat.le_trans (totalMetrics_sublist kept) ?_
    rw [Reading.totalMetrics_after happen, bounds]
    exact working.within

/-- A working instance that gives metrics is still working. -/
theorem Working.collect (working : one.Working) {metrics : List Metric}
    (ends : (collect start one).CanEnd final (.ok metrics)) : final.Working := by
  obtain ⟨_, _, ends⟩ := ends.ends
  rw [BeanHarvest.Instance.collect, connectedOr_of_connected working.connected] at ends
  obtain ⟨_, _, middle, between, _, _, refreshed, ends⟩ := followed_inv ends
  obtain ⟨readings, bounds, _, happen, rfl⟩ := collectMatched_inv ends
  exact (working.refreshIfDue refreshed).collected bounds happen middle

/-- Whether work has gone well, or so that the instance is broken. -/
def WellOrBroken {α : Type} (result : Except InstanceFault α) : Prop :=
  ∀ fault, result = .error fault → (Failure.ofInstance fault).marksBroken = true

/-- All work on an instance goes well or wrong with a fault of the instance. -/
theorem confining_outward : Confining (fun _ => True) InstanceFault.IsOutward where
  steady := {
    congr := fun _ _ => trivial
    drops := fun _ _ => trivial
    passes := fun _ _ => Dialogue.yieldsUnder_of_forall fun _ _ _ => trivial
    reads := fun _ _ => Dialogue.yieldsUnder_of_forall fun _ => trivial }
  connection := fun _ => nofun
  notInitialized := fun _ => nofun
  raised := fun _ _ _ raises => raises.isOutward

/-- A collection that goes wrong breaks the instance. -/
theorem collect_breaks : collect.Yields WellOrBroken :=
  confining_outward.collect.yields.imp fun _ outward fault same => (outward fault same).marksBroken

end Instance
end BeanHarvest
