import BeanHarvest.Proofs.Instance.Working
import BeanHarvest.Target.Rehearsal

/-! Readings against a target: a collection for which no beans are looked for reads the matched attributes
one after the other, each once, and gives the metrics of those that went well; it breaks off at the first
that makes the target unreachable, and leaves those behind it as they are. -/
namespace BeanHarvest.Instance

variable {one final : Instance} {start : Nat} {attempts : List Attempt}
  {result : Except InstanceFault (List Metric)}

/-- A collection that goes through: every matched attribute is read, in their order, and none makes the
target unreachable. What is kept and what is failing is settled by the readings one after the other. -/
structure GoesThrough (one : Instance) (start : Nat) (attempts : List Attempt) (final : Instance)
    (result : Except InstanceFault (List Metric)) : Prop where
  reads : attempts.map (·.bound) = one.matched
  mild : ∀ attempt ∈ attempts, attempt.isFatal = false
  gives : result = .ok (attempts.flatMap (·.metrics))
  leaves : final = { one with
    matched := (Reading.survivors one.failing (attempts.map (·.reading))).1
    failing := (Reading.survivors one.failing (attempts.map (·.reading))).2
    phase := .ready
    lastCollection := some start }

/-- A collection that breaks off at an attribute that is the first to make the target unreachable. It and
those behind it stay as they are, and so do all marks that no attribute in front of it shares. -/
def BreaksOff (one : Instance) (start : Nat) (attempts : List Attempt) (final : Instance)
    (result : Except InstanceFault (List Metric)) : Prop :=
  ∃ front last cause rest, attempts = front ++ [last] ∧
    one.matched = front.map (·.bound) ++ last.bound :: rest ∧
    (∀ attempt ∈ front, attempt.isFatal = false) ∧
    last.outcome = .error cause ∧ cause.isFatal = true ∧
    result = .error (.connection cause) ∧
    final = { one with
      matched := (Reading.survivors one.failing (front.map (·.reading))).1 ++ last.bound :: rest
      failing := (Reading.survivors one.failing (front.map (·.reading))).2
      phase := .broken
      lastCollection := some start } ∧
    ∀ key, (∀ attempt ∈ front, attempt.bound.key ≠ key) → (key ∈ final.failing ↔ key ∈ one.failing)

/-- Attempts at attributes under other keys leave a mark alone. -/
theorem mark_of_other {failing : List String} {key : String}
    (others : ∀ attempt ∈ attempts, attempt.bound.key ≠ key) :
    key ∈ (Reading.survivors failing (attempts.map (·.reading))).2 ↔ key ∈ failing := by
  refine (Reading.survivors_other failing fun reading member => ?_).2
  obtain ⟨attempt, present, rfl⟩ := List.mem_map.mp member
  rw [attempt.reading_happens.key_eq]
  exact others attempt present

/-- However a collection of matched attributes ends, it has gone through or was broken off. -/
theorem collectMatched_cases {answers : List Answer} {last : Nat}
    (ends : (collectMatched start one).Ends answers last final result) :
    ∃ attempts : List Attempt, attempts.map (·.answer) = answers ∧
      (one.GoesThrough start attempts final result ∨ one.BreaksOff start attempts final result) := by
  obtain ⟨attempts, between, rfl, goes, left⟩ := collectMatched_goes ends
  refine ⟨attempts, rfl, ?_⟩
  generalize placed : one.matched = list at goes
  cases goes with
  | through attempts mild => exact .inl ⟨placed.symm, mild, rfl, left⟩
  | @breaksOff front mild last cause outcome fatal rest =>
    subst left
    exact .inr ⟨front, last, cause, rest, rfl, placed, mild, outcome, fatal, rfl, rfl,
      fun key others => mark_of_other others⟩

/-- Against any target, a connected instance whose beans are not due comes through with its collection or
breaks it off; and whatever goes wrong when any instance is collected or started breaks it, so that no
fault of a single attribute leaves an instance. -/
theorem collect_reads_in_order {τ : Type} (target : Target τ) (world : τ)
    (connected : one.isConnected = true) (settled : one.refreshDue start = false) :
    (∃ attempts last final after result,
      target.run none world start (collect start one) = .ended last final after result ∧
      target.transcript world start (collect start one) = attempts.map (·.answer) ∧
      (one.GoesThrough start attempts final result ∨ one.BreaksOff start attempts final result)) ∧
    ∀ (other : Instance) (time : Nat) (final : Instance) (fault : InstanceFault),
      ((collect time other).CanEnd final (.error fault) ∨
        ∃ action anew, (init action anew time other).CanEnd final (.error fault)) →
      (Failure.ofInstance fault).marksBroken = true ∧ (∀ cause, fault ≠ .extraction cause) ∧
        ∀ reason, Failure.ofInstance fault ≠ .transient reason := by
  constructor
  · obtain ⟨last, final, after, result, ran, ends⟩ :=
      target.run_ends world start (collect start one)
    rw [collect_eq connected settled] at ran ends ⊢
    obtain ⟨attempts, asked, cases⟩ := collectMatched_cases ends
    exact ⟨attempts, last, final, after, result, ran, asked.symm, cases⟩
  · intro other time final fault ends
    have outward : fault.IsOutward := by
      rcases ends with collected | ⟨action, anew, started⟩
      · exact confining_outward.collect.of_canEnd trivial collected
      · exact (confining_outward.init action anew).of_canEnd trivial started
    refine ⟨outward.marksBroken, outward, fun reason transient => ?_⟩
    have broken := outward.marksBroken
    rw [transient] at broken
    cases broken

def gc : Bean := ⟨"app", [("type", "Gc")], "app:type=Gc"⟩

def gcX : Bean := ⟨"app", [("type", "Gc#x")], "app:type=Gc#x"⟩

def single (bean : Bean) (name : String) : MatchedAttribute :=
  ⟨bean, name, "long", [], .simple ⟨"", Metric.ofTags name .gauge [] "jmx", []⟩, 1⟩

/-- An instance whose last attribute failed in the latest collection. -/
def sharing : Instance :=
  { watched with
    isConnected := true
    phase := .ready
    matched := [single gc "x#Count", single gc "Time", single gcX "Count"]
    failing := [(single gcX "Count").key] }

/-- A target that cannot be reached any more once an attribute is read. -/
def stumbling : Rehearsal where
  beans := [("app:type=Gc", ⟨"", [(⟨"x#Count", "long"⟩, .integer 1), (⟨"Time", "long"⟩, .integer 2)]⟩),
    ("app:type=Gc#x", ⟨"", [(⟨"Count", "long"⟩, .integer 3)]⟩)]
  failingReads := [(("app:type=Gc", "Time"), fun _ _ => .io "connection refused")]

theorem run_sharing : Rehearsal.asTarget.run none stumbling 0 (collect 0 sharing) =
    .ended 0 { sharing with failing := [], phase := .broken, lastCollection := some 0 }
      { stumbling with counts := ⟨0, 0, 0, 0, 2⟩ } (.error (.connection (.io "connection refused"))) := by
  with_unfolding_all rfl

theorem collect_reads_in_order_sharing :
    sharing.isConnected = true ∧ sharing.refreshDue 0 = false ∧ ∃ attempts final after,
      Rehearsal.asTarget.run none stumbling 0 (collect 0 sharing) =
        .ended 0 final after (.error (.connection (.io "connection refused"))) ∧
      Rehearsal.asTarget.transcript stumbling 0 (collect 0 sharing) = attempts.map (·.answer) ∧
      sharing.BreaksOff 0 attempts final (.error (.connection (.io "connection refused"))) := by
  have connected : sharing.isConnected = true := rfl
  have settled : sharing.refreshDue 0 = false := rfl
  obtain ⟨⟨attempts, last, final, after, result, ran, asked, came⟩, _⟩ :=
    collect_reads_in_order Rehearsal.asTarget stumbling connected settled
  cases run_sharing.symm.trans ran
  refine ⟨connected, settled, attempts, _, _, run_sharing, asked, ?_⟩
  rcases came with through | breaksOff
  · cases through.gives
  · exact breaksOff

/-- The mark of an attribute behind the one at which a collection breaks off is taken away by an attribute
in front of it that has the same key. -/
theorem collect_unmarks_shared_key : ∃ attempts : List Attempt, ∃ rest final after,
    Rehearsal.asTarget.run none stumbling 0 (collect 0 sharing) =
      .ended 0 final after (.error (.connection (.io "connection refused"))) ∧
    Rehearsal.asTarget.transcript stumbling 0 (collect 0 sharing) = attempts.map (·.answer) ∧
    sharing.matched = attempts.map (·.bound) ++ rest ∧
    ∃ bound ∈ rest, bound.key ∈ sharing.failing ∧ bound.key ∉ final.failing := by
  let attempts : List Attempt :=
    [⟨single gc "x#Count", .ok (.integer 1)⟩, ⟨single gc "Time", .error (.io "connection refused")⟩]
  refine ⟨attempts, [single gcX "Count"], _, _, run_sharing, ?_, rfl, ?_⟩
  · with_unfolding_all rfl
  · exact ⟨single gcX "Count", List.mem_cons_self, List.mem_cons_self, List.not_mem_nil⟩

end BeanHarvest.Instance
