import BeanHarvest.Proofs.Attribute.Extracting
import BeanHarvest.Proofs.Instance.Starting

/-! Collecting: what one call leaves of the matched attributes. Each of them is read once, in their
order; one that fails for the first time is kept and remembered, one that fails once more is dropped. A
call breaks off at the first attribute that makes the target unreachable. -/
namespace BeanHarvest

/-- The reading of a matched attribute: the answer, whether the extraction failed, and the attribute as
it is afterwards. -/
structure Reading where
  bound : MatchedAttribute
  answer : Answer
  failed : Bool
  after : MatchedAttribute

namespace Reading

def Happens (reading : Reading) : Prop :=
  ∃ result, reading.bound.collect.Ends [reading.answer] (result, reading.after) ∧
    reading.failed = result.toOption.isNone

/-- Whether a reading can be, and leaves the target reachable. -/
def IsMild (reading : Reading) : Prop :=
  ∃ result, reading.bound.collect.Ends [reading.answer] (result, reading.after) ∧
    reading.failed = result.toOption.isNone ∧ ∀ fault, result = .error fault → fault.isFatal = false

/-- Whether the attribute is kept after a reading, and the keys that are failing then. -/
def outcome (failing : List String) (reading : Reading) : Bool × List String :=
  if reading.failed then
    if failing.contains reading.after.key then
      (false, failing.filter (· ≠ reading.after.key))
    else (true, failing ++ [reading.after.key])
  else (true, failing.filter (· ≠ reading.after.key))

/-- The attributes that are kept after readings, and the keys that are failing then. -/
def survivors (failing : List String) : List Reading → List MatchedAttribute × List String
  | [] => ([], failing)
  | reading :: rest =>
    let (isKept, failing) := reading.outcome failing
    let (kept, failing) := survivors failing rest
    (if isKept then reading.after :: kept else kept, failing)

variable {reading : Reading} {failing : List String} {key : String}

theorem extract_key (matched : MatchedAttribute) (value : LiveValue) :
    (matched.extract value).2.key = matched.key := by
  obtain ⟨cache, same⟩ := matched.exists_extract_eq value
  rw [same]
  rfl

theorem collect_inv {bound after : MatchedAttribute} {answers : List Answer}
    {result : Except ExtractionFault (List Metric)}
    (ends : bound.collect.Ends answers (result, after)) :
    after.key = bound.key ∧
      ∃ outcome, answers = [⟨.read bound.bean bound.name, outcome⟩] := by
  obtain ⟨outcome, rest, rfl, settled⟩ := ends.ask_inv
  cases outcome with
  | ok value =>
    obtain ⟨rfl, same⟩ := settled.done_inv
    have kept := extract_key bound value
    rw [← same] at kept
    exact ⟨kept, _, rfl⟩
  | error fault =>
    obtain ⟨rfl, same⟩ := settled.done_inv
    cases same
    exact ⟨rfl, _, rfl⟩

theorem Happens.key_eq (happens : reading.Happens) : reading.after.key = reading.bound.key := by
  obtain ⟨result, ends, _⟩ := happens
  exact (collect_inv ends).1

theorem outcome_kept : (reading.outcome failing).1 = true ↔
    ¬ (reading.failed = true ∧ reading.after.key ∈ failing) := by
  unfold outcome
  split
  · next failed =>
    split
    · next known => simpa [failed] using known
    · next unknown => simpa [failed] using unknown
  · next well => simp [well]

theorem outcome_own : reading.after.key ∈ (reading.outcome failing).2 ↔
    reading.failed = true ∧ reading.after.key ∉ failing := by
  unfold outcome
  split
  · next failed =>
    split
    · next known => simpa [failed] using known
    · next unknown => simpa [failed] using unknown
  · next well => simp [well]

theorem outcome_other (different : reading.after.key ≠ key) :
    key ∈ (reading.outcome failing).2 ↔ key ∈ failing := by
  unfold outcome
  split
  · split
    · simp [Ne.symm different]
    · simp [Ne.symm different]
  · simp [Ne.symm different]

/-- Whether an attribute under a key failed in some readings. -/
def FailedIn (key : String) (readings : List Reading) : Prop :=
  ∃ reading ∈ readings, reading.after.key = key ∧ reading.failed = true

variable {readings rest : List Reading}

theorem failedIn_cons : FailedIn key (reading :: rest) ↔
    reading.after.key = key ∧ reading.failed = true ∨ FailedIn key rest := by
  simp [FailedIn]

theorem countP_survivors_cons : (survivors failing (reading :: rest)).1.countP (·.key = key) =
    (survivors (reading.outcome failing).2 rest).1.countP (·.key = key) +
      if (reading.outcome failing).1 = true ∧ reading.after.key = key then 1 else 0 := by
  simp only [survivors]
  split
  · next kept => simp [List.countP_cons, kept]
  · next dropped => simp [dropped]

theorem survivors_other (failing : List String)
    (absent : ∀ reading ∈ readings, reading.after.key ≠ key) :
    (survivors failing readings).1.countP (·.key = key) = 0 ∧
      (key ∈ (survivors failing readings).2 ↔ key ∈ failing) := by
  induction readings generalizing failing with
  | nil => simp [survivors]
  | cons reading rest ih =>
    have different := absent reading List.mem_cons_self
    obtain ⟨dropped, same⟩ := ih (reading.outcome failing).2 fun other member =>
      absent other (List.mem_cons_of_mem _ member)
    refine ⟨?_, same.trans (outcome_other different)⟩
    rw [countP_survivors_cons, dropped, if_neg fun both => different both.2]

/-- Readings of which just one is of an attribute under a key: the attribute is dropped if it failed and
was failing before, and it is failing afterwards if it failed and was not. -/
theorem survivors_own (failing : List String)
    (unique : readings.countP (·.after.key = key) = 1) :
    (FailedIn key readings ∧ key ∈ failing →
      (survivors failing readings).1.countP (·.key = key) = 0) ∧
    (¬ (FailedIn key readings ∧ key ∈ failing) →
      (survivors failing readings).1.countP (·.key = key) = 1) ∧
    (key ∈ (survivors failing readings).2 ↔ FailedIn key readings ∧ key ∉ failing) := by
  induction readings generalizing failing with
  | nil => simp at unique
  | cons reading rest ih =>
    by_cases own : reading.after.key = key
    · subst key
      have absent : ∀ other ∈ rest, other.after.key ≠ reading.after.key := by
        rw [List.countP_cons_of_pos (by simp)] at unique
        have none : rest.countP (·.after.key = reading.after.key) = 0 := by omega
        simpa using List.countP_eq_zero.mp none
      obtain ⟨none, same⟩ := survivors_other (reading.outcome failing).2 absent
      have failedIn : FailedIn reading.after.key (reading :: rest) ↔ reading.failed = true := by
        have later : ¬ FailedIn reading.after.key rest :=
          fun ⟨other, member, found, _⟩ => absent other member found
        simp [failedIn_cons, later]
      rw [failedIn, countP_survivors_cons, none]
      refine ⟨fun struck => ?_, fun spared => ?_, same.trans outcome_own⟩
      · rw [if_neg fun kept => outcome_kept.mp kept.1 struck]
      · rw [if_pos ⟨outcome_kept.mpr spared, rfl⟩]
    · rw [List.countP_cons_of_neg (by simpa using own)] at unique
      have failedIn : FailedIn key (reading :: rest) ↔ FailedIn key rest := by
        simp [failedIn_cons, own]
      rw [failedIn, countP_survivors_cons, if_neg fun both => own both.2, Nat.add_zero,
        ← outcome_other own]
      exact ih (reading.outcome failing).2 unique

end Reading

/-- A matched attribute, and what the target says when it is read. -/
structure Attempt where
  bound : MatchedAttribute
  outcome : Except ConnectionFault LiveValue

namespace Attempt

variable {attempt : Attempt}

def answer (attempt : Attempt) : Answer :=
  ⟨.read attempt.bound.bean attempt.bound.name, attempt.outcome⟩

/-- What comes of an attempt: metrics or a fault, and the attribute as it is afterwards. -/
def result (attempt : Attempt) : Except ExtractionFault (List Metric) × MatchedAttribute :=
  match attempt.outcome with
  | .ok value => attempt.bound.extract value
  | .error fault => (.error (.connection fault), attempt.bound)

/-- The metrics that come of an attempt; none if it fails. -/
def metrics (attempt : Attempt) : List Metric :=
  match attempt.result.1 with
  | .ok metrics => metrics
  | .error _ => []

/-- Whether an attempt makes the target unreachable. -/
def isFatal (attempt : Attempt) : Bool :=
  match attempt.result.1 with
  | .ok _ => false
  | .error fault => fault.isFatal

def reading (attempt : Attempt) : Reading :=
  ⟨attempt.bound, attempt.answer, attempt.result.1.toOption.isNone, attempt.result.2⟩

theorem ends (attempt : Attempt) :
    attempt.bound.collect.Ends [attempt.answer] attempt.result := by
  obtain ⟨bound, outcome⟩ := attempt
  cases outcome with
  | ok value => exact .ask _ (.done _)
  | error fault => exact .ask _ (.done _)

/-- What comes of the collection of an attribute is what comes of an attempt. -/
theorem exists_of_ends {bound : MatchedAttribute} {answers : List Answer}
    {read : Except ExtractionFault (List Metric) × MatchedAttribute}
    (ends : bound.collect.Ends answers read) :
    ∃ attempt : Attempt, attempt.bound = bound ∧ answers = [attempt.answer] ∧
      read = attempt.result := by
  obtain ⟨outcome, rest, rfl, settled⟩ := ends.ask_inv
  refine ⟨⟨bound, outcome⟩, rfl, ?_⟩
  cases outcome with
  | ok value =>
    obtain ⟨rfl, same⟩ := settled.done_inv
    exact ⟨rfl, same⟩
  | error fault =>
    obtain ⟨rfl, same⟩ := settled.done_inv
    exact ⟨rfl, same⟩

theorem reading_happens (attempt : Attempt) : attempt.reading.Happens :=
  ⟨attempt.result.1, attempt.ends, rfl⟩

theorem of_ok {metrics : List Metric} (came : attempt.result.1 = .ok metrics) :
    attempt.isFatal = false ∧ attempt.reading.failed = false ∧ attempt.metrics = metrics := by
  unfold isFatal reading Attempt.metrics
  rw [came]
  exact ⟨rfl, rfl, rfl⟩

theorem of_error {fault : ExtractionFault} (came : attempt.result.1 = .error fault) :
    attempt.isFatal = fault.isFatal ∧ attempt.reading.failed = true ∧ attempt.metrics = [] := by
  unfold isFatal reading Attempt.metrics
  rw [came]
  exact ⟨rfl, rfl, rfl⟩

theorem result_of_outcome {cause : ConnectionFault} (outcome : attempt.outcome = .error cause) :
    attempt.result = (.error (.connection cause), attempt.bound) := by
  unfold Attempt.result
  rw [outcome]

/-- Only a reading that was answered with a fault of the connection makes the target unreachable. -/
theorem outcome_of_isFatal (fatal : attempt.isFatal = true) :
    ∃ cause, attempt.outcome = .error cause ∧ cause.isFatal = true := by
  obtain ⟨bound, outcome⟩ := attempt
  cases outcome with
  | error cause => exact ⟨cause, rfl, fatal⟩
  | ok value =>
    have mild := bound.extract_mild value
    unfold isFatal result at fatal
    dsimp only at fatal
    split at fatal
    · cases fatal
    · next fault same => exact absurd fatal (by simp [mild fault same])

end Attempt

namespace Instance

variable {one final : Instance} {answers : List Answer} {start last : Nat} {metrics : List Metric}

/-- The instance after readings, behind attributes that were kept before. -/
def afterReadings (one : Instance) (before : List MatchedAttribute) (readings : List Reading) :
    Instance :=
  { one with
    matched := before ++ (Reading.survivors one.failing readings).1
    failing := (Reading.survivors one.failing readings).2 }

section
variable (reading : Reading) (before rest : List MatchedAttribute) (readings : List Reading)

theorem afterReadings_nil {before : List MatchedAttribute} (placed : one.matched = before) :
    one.afterReadings before [] = one := by
  subst before
  simp only [afterReadings, Reading.survivors, List.append_nil]

theorem afterSuccess_matched (bound : MatchedAttribute) :
    (one.afterSuccess before bound rest).matched = (before ++ [bound]) ++ rest := by
  simp only [afterSuccess, List.append_assoc, List.singleton_append]

theorem afterFirstFailure_matched (bound : MatchedAttribute) :
    (one.afterFirstFailure before bound rest).matched = (before ++ [bound]) ++ rest := by
  simp only [afterFirstFailure, List.append_assoc, List.singleton_append]

theorem afterSecondFailure_matched (bound : MatchedAttribute) :
    (one.afterSecondFailure before bound rest).matched = before ++ rest := rfl

theorem afterReadings_success (well : reading.failed = false) :
    (one.afterSuccess before reading.after rest).afterReadings (before ++ [reading.after]) readings =
      one.afterReadings before (reading :: readings) := by
  simp [afterReadings, afterSuccess, Reading.survivors, Reading.outcome, well]

theorem afterReadings_first (failed : reading.failed = true)
    (unknown : ¬ one.failing.contains reading.after.key = true) :
    (one.afterFirstFailure before reading.after rest).afterReadings (before ++ [reading.after])
        readings = one.afterReadings before (reading :: readings) := by
  simp only [afterReadings, afterFirstFailure, Reading.survivors, Reading.outcome, if_pos failed,
    if_neg unknown, if_true, List.append_assoc, List.singleton_append]

theorem afterReadings_second (failed : reading.failed = true)
    (known : one.failing.contains reading.after.key = true) :
    (one.afterSecondFailure before reading.after rest).afterReadings before readings =
      one.afterReadings before (reading :: readings) := by
  simp only [afterReadings, afterSecondFailure, Reading.survivors, Reading.outcome, if_pos failed,
    if_pos known, Bool.false_eq_true, if_false]

end

theorem ofExtraction_of_mild {fault : ExtractionFault} (mild : fault.isFatal = false) :
    ∃ reason, Failure.ofExtraction fault = .transient reason := by
  cases fault with
  | connection fault =>
    cases fault with
    | beanNotFound bean => exact ⟨_, rfl⟩
    | attributeUnavailable bean name reason => exact ⟨_, rfl⟩
    | invalidBeanName name => exact ⟨_, rfl⟩
    | protocol reason => exact ⟨_, rfl⟩
    | _ => cases mild
  | _ => exact ⟨_, rfl⟩

/-- A fault of a connection that makes the target unreachable is not. -/
theorem ofExtraction_of_fatal {cause : ConnectionFault} (fatal : cause.isFatal = true)
    (reason : String) : Failure.ofExtraction (.connection cause) ≠ .transient reason := by
  cases cause with
  | authentication reason => exact nofun
  | clientSetup reason => exact nofun
  | io reason => exact nofun
  | timeout milliseconds => exact nofun
  | closed => exact nofun
  | _ => cases fatal

/-- The instance when its collection breaks off after readings, with an attribute and those behind it
that were kept. -/
def brokenAfter (one : Instance) (before : List MatchedAttribute) (readings : List Reading)
    (rest : List MatchedAttribute) : Instance :=
  { one.afterReadings before readings with
    matched := (one.afterReadings before readings).matched ++ rest
    phase := .broken }

/-- How attributes in a row are collected, behind those that were kept before: attempts are made at all
of them, and none is fatal; or the first fatal attempt is the last. -/
inductive Goes (one : Instance) (before : List MatchedAttribute) : List MatchedAttribute →
    List Attempt → Instance → Except InstanceFault (List Metric) → Prop where
  | through (attempts : List Attempt) (mild : ∀ attempt ∈ attempts, attempt.isFatal = false) :
      Goes one before (attempts.map (·.bound)) attempts
        (one.afterReadings before (attempts.map (·.reading))) (.ok (attempts.flatMap (·.metrics)))
  | breaksOff (attempts : List Attempt) (mild : ∀ attempt ∈ attempts, attempt.isFatal = false)
      {last : Attempt} {cause : ConnectionFault} (outcome : last.outcome = .error cause)
      (fatal : cause.isFatal = true) (rest : List MatchedAttribute) :
      Goes one before (attempts.map (·.bound) ++ last.bound :: rest) (attempts ++ [last])
        (one.brokenAfter before (attempts.map (·.reading)) (last.bound :: rest))
        (.error (.connection cause))

private theorem Goes.cons {between : Instance} {before front list : List MatchedAttribute}
    {attempts : List Attempt} {attempt : Attempt} {result : Except InstanceFault (List Metric)}
    (goes : Goes between front list attempts final result) (mild : attempt.isFatal = false)
    (same : ∀ readings, between.afterReadings front readings =
      one.afterReadings before (attempt.reading :: readings)) :
    Goes one before (attempt.bound :: list) (attempt :: attempts) final
      (result.map (attempt.metrics ++ ·)) := by
  cases goes with
  | through attempts others =>
    rw [same]
    exact .through (attempt :: attempts) (List.forall_mem_cons.mpr ⟨mild, others⟩)
  | breaksOff attempts others outcome fatal rest =>
    unfold brokenAfter
    rw [same]
    exact .breaksOff (attempt :: attempts) (List.forall_mem_cons.mpr ⟨mild, others⟩) outcome fatal rest

/-- What one attribute of a row adds: an attempt that is not fatal, behind which the row goes on as from
an instance that has this reading behind it; or a fatal one, with which it ends. -/
theorem collectAll_cons_inv {bound : MatchedAttribute} {before rest : List MatchedAttribute}
    {result : Except InstanceFault (List Metric)}
    (ends : (collectAll before (bound :: rest) start one).Ends answers last final result) :
    ∃ attempt : Attempt, ∃ others, attempt.bound = bound ∧ answers = attempt.answer :: others ∧
      ((attempt.isFatal = false ∧ ∃ front between middle ended later,
          between.matched = front ++ rest ∧
          (∀ readings, between.afterReadings front readings =
            one.afterReadings before (attempt.reading :: readings)) ∧
          (collectAll front rest middle between).Ends others ended final later ∧
          result = later.map (attempt.metrics ++ ·)) ∨
        ∃ cause, attempt.outcome = .error cause ∧ cause.isFatal = true ∧ others = [] ∧
          final = { one with matched := before ++ bound :: rest, phase := .broken } ∧
          result = .error (.connection cause)) := by
  obtain ⟨_, others, middle, between, read, rfl, held, ends⟩ := Operation.bind_ends_inv ends
  obtain ⟨rfl, collected⟩ := Operation.hold_ends_inv held
  obtain ⟨attempt, rfl, rfl, rfl⟩ := Attempt.exists_of_ends collected
  refine ⟨attempt, others, rfl, rfl, ?_⟩
  have after : attempt.result.2 = attempt.reading.after := rfl
  cases came : attempt.result.1 with
  | ok metrics =>
    obtain ⟨mild, well, gives⟩ := attempt.of_ok came
    simp only [came, after] at ends
    rw [Operation.modify_bind] at ends
    obtain ⟨_, _, _, _, later, rfl, collected, ended⟩ := Operation.bind_ends_inv ends
    obtain ⟨rfl, rfl, rfl⟩ := Operation.pure_ends_inv ended
    rw [List.append_nil]
    exact .inl ⟨mild, _, _, _, _, later, afterSuccess_matched .., fun readings =>
      afterReadings_success attempt.reading before rest readings well, collected, by rw [gives]⟩
  | error fault =>
    obtain ⟨fatality, failed, nothing⟩ := attempt.of_error came
    have same : ∀ later : Except InstanceFault (List Metric),
        later = later.map (attempt.metrics ++ ·) := by
      intro later
      rw [nothing]
      cases later <;> rfl
    cases fatal : fault.isFatal with
    | false =>
      rw [fatal] at fatality
      obtain ⟨reason, classified⟩ := ofExtraction_of_mild fatal
      simp only [came, after, classified] at ends
      rw [Operation.get_bind] at ends
      refine .inl ⟨fatality, ?_⟩
      by_cases known : between.failing.contains attempt.reading.after.key = true
      · rw [if_pos known, Operation.modify_bind] at ends
        exact ⟨_, _, _, _, _, afterSecondFailure_matched .., fun readings =>
          afterReadings_second attempt.reading before rest readings failed known, ends, same result⟩
      · rw [if_neg known, Operation.modify_bind] at ends
        exact ⟨_, _, _, _, _, afterFirstFailure_matched .., fun readings =>
          afterReadings_first attempt.reading before rest readings failed known, ends, same result⟩
    | true =>
      obtain ⟨cause, outcome, isFatal⟩ := Attempt.outcome_of_isFatal (fatality.trans fatal)
      rw [attempt.result_of_outcome outcome] at ends
      dsimp only at ends
      cases classified : Failure.ofExtraction (.connection cause) with
      | transient reason => exact absurd classified (ofExtraction_of_fatal isFatal reason)
      | _ =>
        simp only [classified] at ends
        rw [Operation.modify_bind] at ends
        obtain ⟨rfl, rfl, rfl⟩ := Operation.pure_ends_inv ends
        exact .inr ⟨cause, outcome, isFatal, rfl, rfl, rfl⟩

/-- Whatever comes of a row of attributes, they were collected one after the other. -/
theorem collectAll_goes {before list : List MatchedAttribute}
    {result : Except InstanceFault (List Metric)}
    (ends : (collectAll before list start one).Ends answers last final result)
    (placed : one.matched = before ++ list) :
    ∃ attempts : List Attempt, attempts.map (·.answer) = answers ∧
      Goes one before list attempts final result := by
  induction list generalizing before one answers start last result with
  | nil =>
    obtain ⟨rfl, rfl, rfl⟩ := Operation.pure_ends_inv ends
    rw [List.append_nil] at placed
    have goes : Goes final before [] [] _ _ := .through [] (by simp)
    rw [List.map_nil, afterReadings_nil placed] at goes
    exact ⟨[], rfl, goes⟩
  | cons bound rest ih =>
    obtain ⟨attempt, others, rfl, rfl, goesOn | breaksOff⟩ := collectAll_cons_inv ends
    · obtain ⟨mild, front, between, middle, ended, later, placed, same, collected, rfl⟩ := goesOn
      obtain ⟨attempts, rfl, goes⟩ := ih collected placed
      exact ⟨attempt :: attempts, rfl, goes.cons mild same⟩
    · obtain ⟨cause, outcome, fatal, rfl, rfl, rfl⟩ := breaksOff
      have goes : Goes one before (attempt.bound :: rest) [attempt] _ _ :=
        .breaksOff [] (by simp) outcome fatal rest
      refine ⟨[attempt], rfl, ?_⟩
      simpa [brokenAfter, afterReadings, Reading.survivors] using goes

/-- Metrics come of a row of attributes if each of them is read and no fault is fatal. -/
theorem collectAll_ends {readings : List Reading} (mild : ∀ reading ∈ readings, reading.IsMild)
    {before : List MatchedAttribute}
    (placed : one.matched = before ++ readings.map (·.bound)) (start : Nat) :
    ∃ last metrics, (collectAll before (readings.map (·.bound)) start one).Ends
      (readings.map (·.answer)) last (one.afterReadings before readings) (.ok metrics) := by
  induction readings generalizing before start one with
  | nil =>
    rw [List.map_nil, List.append_nil] at placed
    rw [afterReadings_nil placed]
    exact ⟨start, [], .done _ _ _⟩
  | cons reading rest ih =>
    have others := fun other member => mild other (List.mem_cons_of_mem _ member)
    obtain ⟨result, collected, failed, nonFatal⟩ := mild reading List.mem_cons_self
    obtain ⟨middle, held⟩ := Operation.hold_ends collected start one
    cases result with
    | ok own =>
      obtain ⟨last, metrics, ends⟩ := ih others (afterSuccess_matched before _ _) middle
      rw [afterReadings_success reading before (rest.map (·.bound)) rest failed] at ends
      refine ⟨last, own ++ metrics, held.andThen ?_⟩
      rw [← List.append_nil (rest.map (·.answer))]
      exact ends.andThen (.done _ _ _)
    | error fault =>
      obtain ⟨reason, classified⟩ := ofExtraction_of_mild (nonFatal fault rfl)
      by_cases known : one.failing.contains reading.after.key = true
      · obtain ⟨last, metrics, ends⟩ := ih others (afterSecondFailure_matched before _ _) middle
        rw [afterReadings_second reading before (rest.map (·.bound)) rest failed known] at ends
        refine ⟨last, metrics, held.andThen ?_⟩
        simp only [classified]
        rw [Operation.get_bind, if_pos known, Operation.modify_bind]
        exact ends
      · obtain ⟨last, metrics, ends⟩ := ih others (afterFirstFailure_matched before _ _) middle
        rw [afterReadings_first reading before (rest.map (·.bound)) rest failed known] at ends
        refine ⟨last, metrics, held.andThen ?_⟩
        simp only [classified]
        rw [Operation.get_bind, if_neg known, Operation.modify_bind]
        exact ends

def collectedWith (one : Instance) (start : Nat) (readings : List Reading) : Instance :=
  { one.afterReadings [] readings with phase := .ready, lastCollection := some start }

theorem refreshIfDue_eq (settled : one.refreshDue start = false) :
    refreshIfDue start one = .done start one (.ok ()) := by
  rw [refreshIfDue, Operation.get_bind, Operation.now_bind, if_neg (by simp [settled])]
  rfl

/-- A connected instance whose beans are not due collects what is matched. -/
theorem collect_eq (connected : one.isConnected = true) (settled : one.refreshDue start = false) :
    collect start one = collectMatched start one := by
  have unfolded : followed refreshIfDue (fun _ => collectMatched) start one =
      collectMatched start one := by
    simp only [followed, bind, refreshIfDue_eq settled, Session.andThen]
  rw [collect, connectedOr_of_connected connected, unfolded]

/-- Matched attributes are collected in a row; the instance is ready if none was fatal. -/
theorem collectMatched_goes {result : Except InstanceFault (List Metric)}
    (ends : (collectMatched start one).Ends answers last final result) :
    ∃ attempts between, attempts.map (·.answer) = answers ∧
      Goes { one with phase := .collecting, lastCollection := some start } [] one.matched attempts
        between result ∧
      final = if result.isOk then { between with phase := .ready } else between := by
  rw [collectMatched, Operation.now_bind, Operation.modify_bind, Operation.get_bind] at ends
  obtain ⟨_, _, _, between, came, rfl, collected, ended⟩ := Operation.bind_ends_inv ends
  obtain ⟨attempts, rfl, goes⟩ := collectAll_goes collected rfl
  cases came with
  | ok metrics =>
    dsimp only at ended
    rw [Operation.modify_bind] at ended
    obtain ⟨rfl, rfl, rfl⟩ := Operation.pure_ends_inv ended
    exact ⟨attempts, between, (List.append_nil _).symm, goes, rfl⟩
  | error fault =>
    obtain ⟨rfl, rfl, rfl⟩ := Operation.pure_ends_inv ended
    exact ⟨attempts, final, (List.append_nil _).symm, goes, rfl⟩

/-- What gives metrics has read every matched attribute once. -/
theorem collectMatched_inv
    (ends : (collectMatched start one).Ends answers last final (.ok metrics)) :
    ∃ readings : List Reading, readings.map (·.bound) = one.matched ∧
      readings.map (·.answer) = answers ∧ (∀ reading ∈ readings, reading.Happens) ∧
      final = one.collectedWith start readings := by
  obtain ⟨attempts, between, rfl, goes, rfl⟩ := collectMatched_goes ends
  generalize placed : one.matched = list at goes
  cases goes with
  | through attempts mild =>
    refine ⟨attempts.map (·.reading), ?_, ?_, ?_, rfl⟩
    · rw [List.map_map]
      rfl
    · rw [List.map_map]
      rfl
    · intro reading member
      obtain ⟨attempt, _, rfl⟩ := List.mem_map.mp member
      exact attempt.reading_happens

/-- A call that gives metrics without looking for beans has read every matched attribute once. -/
theorem collect_inv (ends : (collect start one).Ends answers last final (.ok metrics))
    (settled : one.refreshDue start = false) :
    ∃ readings : List Reading, readings.map (·.bound) = one.matched ∧
      readings.map (·.answer) = answers ∧ (∀ reading ∈ readings, reading.Happens) ∧
      final = one.collectedWith start readings := by
  rw [collect_eq (connected_of_ends ends) settled] at ends
  exact collectMatched_inv ends

/-- A connected instance whose beans are not due goes through a collection if every matched attribute is
read and no fault is fatal. -/
theorem collect_ends {readings : List Reading} (connected : one.isConnected = true)
    (settled : one.refreshDue start = false)
    (bounds : readings.map (·.bound) = one.matched)
    (mild : ∀ reading ∈ readings, reading.IsMild) :
    ∃ last metrics, (collect start one).Ends (readings.map (·.answer)) last
      (one.collectedWith start readings) (.ok metrics) := by
  let begun : Instance := { one with phase := .collecting, lastCollection := some start }
  have placed : begun.matched = [] ++ readings.map (·.bound) := bounds.symm
  obtain ⟨last, metrics, ends⟩ := collectAll_ends mild placed start
  refine ⟨last, metrics, ?_⟩
  rw [bounds] at ends
  rw [collect_eq connected settled, ← List.append_nil (readings.map (·.answer))]
  exact followed_ends ends (.done _ _ _)

end Instance
end BeanHarvest
