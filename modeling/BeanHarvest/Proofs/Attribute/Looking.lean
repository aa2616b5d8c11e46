import BeanHarvest.Proofs.Attribute.Binding
import BeanHarvest.Proofs.Substitution
import BeanHarvest.Proofs.Target.Transcript

/-! Looking at live values: how often a candidate is read while it is bound. It is read once at most, and
whether it is read is settled by its type and the filters alone. -/
namespace BeanHarvest

open AttributeFilter (Lists contains_iff)

/-- Whether the answers are one to a reading of an attribute if it is looked at, and none otherwise. -/
def ReadIf (bean : Bean) (name : String) (looked : Prop) (answers : List Answer) : Prop :=
  (looked → ∃ seen, answers = [⟨.read bean name, seen⟩]) ∧ (¬ looked → answers = [])

theorem ReadIf.once {bean : Bean} {name : String} {looked : Prop} {answers : List Answer}
    (read : ReadIf bean name looked answers) :
    answers = [] ∨ ∃ seen, answers = [⟨.read bean name, seen⟩] := by
  by_cases holds : looked
  · exact .inr (read.1 holds)
  · exact .inl (read.2 holds)

theorem ReadIf.eq_nil_iff {bean : Bean} {name : String} {looked : Prop} {answers : List Answer}
    (read : ReadIf bean name looked answers) : answers = [] ↔ ¬ looked := by
  refine ⟨fun empty holds => ?_, read.2⟩
  obtain ⟨seen, one⟩ := read.1 holds
  simp [one] at empty

namespace Offer

variable {bean : Bean} {name : String} {answers : List Answer}
  {outcome : Except ConnectionFault (Option MatchedAttribute)} {offers : List Offer}

/-- Whether the live value is looked at before an offer is taken. -/
def looksFirst : List Offer → Prop
  | [] => False
  | pass :: rest => looksFirst rest
  | take _ :: _ => False
  | look _ :: _ => True

/-- A live value that was seen is not read again. -/
theorem answers_of_seen {live : LiveValue}
    (ends : (settle bean name (some live) offers).Ends answers outcome) : answers = [] := by
  induction offers with
  | nil => exact ends.done_inv.1
  | cons offer rest ih =>
    cases offer with
    | pass => exact ih ends
    | take bound => exact ends.done_inv.1
    | look decide =>
      simp only [settle] at ends
      split at ends
      · exact ends.done_inv.1
      · exact ih ends

/-- A live value that was not seen is read once if it is looked at, and not otherwise. -/
theorem answers_of_unseen (ends : (settle bean name none offers).Ends answers outcome) :
    ReadIf bean name (looksFirst offers) answers := by
  induction offers with
  | nil => exact ⟨False.elim, fun _ => ends.done_inv.1⟩
  | cons offer rest ih =>
    cases offer with
    | pass => exact ih ends
    | take bound => exact ⟨False.elim, fun _ => ends.done_inv.1⟩
    | look decide =>
      refine ⟨fun _ => ?_, fun idle => absurd trivial idle⟩
      obtain ⟨seen, others, rfl, further⟩ := ends.ask_inv
      suffices others = [] from ⟨seen, by rw [this]⟩
      cases seen with
      | error fault => exact further.done_inv.1
      | ok value =>
        dsimp only at further
        split at further
        · exact further.done_inv.1
        · exact answers_of_seen further

end Offer

namespace Candidate

variable {candidate : Candidate} {kind : AttributeKind} {context : InstanceContext}
  {configuration : Configuration} {found : BeanMatch} {selecting : List BeanMatch}

def SelectsSingle (candidate : Candidate) (configuration : Configuration) : Prop :=
  (configuration.included.attributes = none ∨
      Lists configuration.included.attributes candidate.name) ∧
    ¬ Lists configuration.excluded.attributes candidate.name

/-- Whether the template that a configuration has for a candidate asks for the live value. -/
def AsksValue (candidate : Candidate) (configuration : Configuration) : Prop :=
  ∃ options template,
    configuration.included.attributes.bind (·.options? candidate.name) = some options ∧
      options.template = some template ∧ "$value".toList <:+: template.toList

/-- Whether nothing under the name of a candidate is listed for inclusion. For columns of tables a filter
that is not set lists nothing, for other parts it leaves all open. -/
def Unlisted (candidate : Candidate) (kind : AttributeKind) (configuration : Configuration) : Prop :=
  match configuration.included.attributes with
  | none => kind = .tabular
  | some filter => ∀ name ∈ filter.listed,
      name ≠ candidate.name ∧ ¬ (candidate.name ++ ".").toList <+: name.toList

theorem needsValue_iff {template : Option String} : Alias.needsValue template = true ↔
    ∃ text, template = some text ∧ "$value".toList <:+: text.toList := by
  cases template with
  | none => exact ⟨nofun, nofun⟩
  | some text =>
    refine Text.occurs_iff.trans ⟨fun occurs => ⟨text, rfl, occurs⟩, ?_⟩
    rintro ⟨_, ⟨⟩, occurs⟩
    exact occurs

theorem asksValue_iff (candidate : Candidate) (configuration : Configuration) :
    candidate.AsksValue configuration ↔ Alias.needsValue
      ((configuration.included.attributes.bind (·.options? candidate.name)).bind (·.template)) =
        true := by
  rw [needsValue_iff]
  constructor
  · rintro ⟨options, template, known, written, occurs⟩
    exact ⟨template, Option.bind_eq_some_iff.mpr ⟨options, known, written⟩, occurs⟩
  · rintro ⟨template, known, occurs⟩
    obtain ⟨options, known, written⟩ := Option.bind_eq_some_iff.mp known
    exact ⟨options, template, known, written, occurs⟩

/-- What a configuration makes of a single value: it passes it by, or looks at it, or takes it unseen. -/
theorem offerSimple_cases (candidate : Candidate) (context : InstanceContext) (found : BeanMatch) :
    (¬ candidate.SelectsSingle found.configuration ∧ candidate.offerSimple context found = .pass) ∨
      (candidate.SelectsSingle found.configuration ∧ candidate.AsksValue found.configuration ∧
        ∃ decide, candidate.offerSimple context found = .look decide) ∨
      (candidate.SelectsSingle found.configuration ∧ ¬ candidate.AsksValue found.configuration ∧
        ∃ bound, candidate.offerSimple context found = .take bound) := by
  have refuses := refuses_iff candidate found .null
  have asks := candidate.asksValue_iff found.configuration
  unfold offerSimple
  dsimp only
  split
  · next refused => exact .inl ⟨refuses.mp refused, rfl⟩
  · next accepted =>
    have selects : candidate.SelectsSingle found.configuration :=
      Classical.not_not.mp fun others => accepted (refuses.mpr others)
    split
    · next needed => exact .inr (.inl ⟨selects, asks.mpr needed, _, rfl⟩)
    · next idle => exact .inr (.inr ⟨selects, fun value => idle (asks.mp value), _, rfl⟩)

/-- A single value is looked at if the first configuration that selects it asks for it. -/
theorem looksFirst_simple (candidate : Candidate) (context : InstanceContext)
    (selecting : List BeanMatch) :
    Offer.looksFirst (selecting.map (candidate.offer .simple context)) ↔
      ∃ before found after, selecting = before ++ found :: after ∧
        (∀ earlier ∈ before, ¬ candidate.SelectsSingle earlier.configuration) ∧
        candidate.SelectsSingle found.configuration ∧ candidate.AsksValue found.configuration := by
  induction selecting with
  | nil =>
    refine ⟨False.elim, ?_⟩
    rintro ⟨before, found, after, parts, -⟩
    simp at parts
  | cons first rest ih =>
    have single : candidate.offer .simple context first = candidate.offerSimple context first := rfl
    rw [List.map_cons, single]
    rcases candidate.offerSimple_cases context first with
      ⟨others, passed⟩ | ⟨selects, asks, decide, looks⟩ | ⟨selects, idle, bound, takes⟩
    · rw [passed, Offer.looksFirst, ih]
      constructor
      · rintro ⟨before, found, after, rfl, refused, selected⟩
        exact ⟨first :: before, found, after, rfl, List.forall_mem_cons.mpr ⟨others, refused⟩, selected⟩
      · rintro ⟨before, found, after, parts, refused, selects, asks⟩
        cases before with
        | nil =>
          obtain ⟨rfl, -⟩ := List.cons.inj parts
          exact absurd selects others
        | cons earlier before =>
          obtain ⟨-, parts⟩ := List.cons.inj parts
          exact ⟨before, found, after, parts, (List.forall_mem_cons.mp refused).2, selects, asks⟩
    · rw [looks]
      exact ⟨fun _ => ⟨[], first, rest, rfl, by simp, selects, asks⟩, fun _ => trivial⟩
    · rw [takes]
      refine ⟨False.elim, ?_⟩
      rintro ⟨before, found, after, parts, refused, -, asks⟩
      cases before with
      | nil =>
        obtain ⟨rfl, -⟩ := List.cons.inj parts
        exact idle asks
      | cons earlier before =>
        obtain ⟨rfl, -⟩ := List.cons.inj parts
        exact refused _ List.mem_cons_self selects

theorem mayList_iff {filter : AttributeFilter} {name : String} : mayList filter name = true ↔
    ∃ listed ∈ filter.listed, listed = name ∨ (name ++ ".").toList <+: listed.toList := by
  unfold mayList
  rw [Bool.or_eq_true, contains_iff, List.any_eq_true]
  constructor
  · rintro (whole | ⟨listed, member, begins⟩)
    · exact ⟨name, whole, .inl rfl⟩
    · exact ⟨listed, member, .inr (String.startsWith_string_iff.mp begins)⟩
  · rintro ⟨listed, member, rfl | begins⟩
    · exact .inl member
    · exact .inr ⟨listed, member, String.startsWith_string_iff.mpr begins⟩

theorem not_worthLooking_iff (candidate : Candidate) (kind : AttributeKind)
    (configuration : Configuration) :
    ¬ candidate.worthLooking kind configuration = true ↔ candidate.Unlisted kind configuration := by
  unfold worthLooking Unlisted
  cases configuration.included.attributes with
  | none => simp
  | some filter =>
    dsimp only
    rw [mayList_iff]
    push Not
    rfl

/-- A value with parts is looked at if anything may be listed of it. -/
theorem looksFirst_nested (candidate : Candidate) (context : InstanceContext)
    (selecting : List BeanMatch) (nested : kind ≠ .simple) :
    Offer.looksFirst (selecting.map (candidate.offer kind context)) ↔
      ∃ found ∈ selecting, ¬ candidate.Unlisted kind found.configuration := by
  induction selecting with
  | nil => simp [Offer.looksFirst]
  | cons first rest ih =>
    have unfolded : candidate.offer kind context first =
        if candidate.worthLooking kind first.configuration then
          .look (candidate.bindNested kind context first) else .pass :=
      offer_of_nested candidate context first nested
    have idle := candidate.not_worthLooking_iff kind first.configuration
    rw [List.map_cons, unfolded, List.exists_mem_cons_iff]
    split
    · next looks => exact ⟨fun _ => .inl fun unlisted => idle.mpr unlisted looks, fun _ => trivial⟩
    · next passed =>
      rw [Offer.looksFirst, ih]
      exact ⟨.inr, fun found => found.resolve_left (not_not_intro (idle.mp passed))⟩

variable {answers : List Answer} {outcome : Except ConnectionFault (Option MatchedAttribute)}

theorem answers_of_declared (declared : candidate.kind? = some kind)
    (ends : (candidate.bind context selecting).Ends answers outcome) :
    ReadIf candidate.bean candidate.name
      (Offer.looksFirst (selecting.map (candidate.offer kind context))) answers := by
  unfold bind at ends
  split at ends
  · next empty =>
    rw [List.isEmpty_iff.mp empty]
    exact ⟨False.elim, fun _ => ends.done_inv.1⟩
  · rw [declared] at ends
    exact Offer.answers_of_unseen ends

/-- A candidate whose type tells nothing is read if the instance looks for statistics, whatever the
configurations say. -/
theorem answers_of_undeclared (undeclared : candidate.kind? = none)
    (ends : (candidate.bind context selecting).Ends answers outcome) :
    ReadIf candidate.bean candidate.name (selecting ≠ [] ∧ context.detectStatistics = true)
      answers := by
  unfold bind at ends
  split at ends
  · next empty => exact ⟨fun some => absurd (List.isEmpty_iff.mp empty) some.1, fun _ => ends.done_inv.1⟩
  · next nonempty =>
    rw [undeclared] at ends
    dsimp only at ends
    split at ends
    · next detectsNot =>
      refine ⟨fun some => ?_, fun _ => ends.done_inv.1⟩
      simp [some.2] at detectsNot
    · next detects =>
      have looks : selecting ≠ [] ∧ context.detectStatistics = true :=
        ⟨fun empty => nonempty (List.isEmpty_iff.mpr empty), by simpa using detects⟩
      refine ⟨fun _ => ?_, fun idle => absurd looks idle⟩
      obtain ⟨seen, others, rfl, further⟩ := ends.ask_inv
      suffices others = [] from ⟨seen, by rw [this]⟩
      cases seen with
      | error fault => exact further.done_inv.1
      | ok value =>
        dsimp only at further
        split at further
        · exact Offer.answers_of_seen further
        · exact further.done_inv.1

/-- Binding reads the candidate once at most and asks nothing else, whatever it is answered. It reads
nothing without configurations. A single value is read just if the first configuration that selects it
has a template with `$value`, a value with parts just if something under its name may be listed in some
configuration, and a candidate of no declared kind just if the instance looks for statistics. -/
theorem bind_frugal (candidate : Candidate) (context : InstanceContext) (selecting : List BeanMatch)
    {answers : List Answer} {outcome : Except ConnectionFault (Option MatchedAttribute)}
    (ends : (candidate.bind context selecting).Ends answers outcome) :
    (answers = [] ∨ ∃ seen, answers = [⟨.read candidate.bean candidate.name, seen⟩]) ∧
      (selecting = [] → answers = []) ∧
      (candidate.kind? = some .simple → (answers = [] ↔
        ∀ before found after, selecting = before ++ found :: after →
          (∀ earlier ∈ before, ¬ candidate.SelectsSingle earlier.configuration) →
          candidate.SelectsSingle found.configuration → ¬ candidate.AsksValue found.configuration)) ∧
      (∀ kind, candidate.kind? = some kind → kind ≠ .simple → (answers = [] ↔
        ∀ found ∈ selecting, candidate.Unlisted kind found.configuration)) ∧
      (candidate.kind? = none →
        (answers = [] ↔ selecting = [] ∨ context.detectStatistics = false)) := by
  cases declared : candidate.kind? with
  | none =>
    have read := answers_of_undeclared declared ends
    have unread : answers = [] ↔ selecting = [] ∨ context.detectStatistics = false := by
      rw [read.eq_nil_iff, Classical.not_and_iff_not_or_not, Classical.not_not, Bool.not_eq_true]
    exact ⟨read.once, fun empty => unread.mpr (.inl empty), nofun, nofun, fun _ => unread⟩
  | some kind =>
    have read := answers_of_declared declared ends
    refine ⟨read.once, fun empty => read.2 ?_, fun single => ?_, fun other same nested => ?_, nofun⟩
    · rw [empty]
      exact id
    · cases single
      rw [read.eq_nil_iff, looksFirst_simple]
      push Not
      rfl
    · cases same
      rw [read.eq_nil_iff, looksFirst_nested candidate context selecting nested]
      push Not
      rfl

/-- A configuration that names a part that is not there looks at the live value in vain, and the next one
goes on with what was seen. -/
theorem bind_frugal_heap :
    let context : InstanceContext := ⟨"east", "jmx", [], false, false⟩
    let selecting := [naming (some ["HeapMemoryUsage.free"]) none,
      naming (some ["HeapMemoryUsage.used"]) none]
    let answers : List Answer := [⟨.read heap.bean heap.name, .ok heapUsage⟩]
    heap.kind? = some .composite ∧
      (∃ bound, (heap.bind context selecting).Ends answers (.ok (some bound))) ∧
      ∃ found ∈ selecting, ¬ heap.Unlisted .composite found.configuration := by
  intro context selecting answers
  let vain := naming (some ["HeapMemoryUsage.free"]) none
  let used := naming (some ["HeapMemoryUsage.used"]) none
  have declared : heap.kind? = some .composite := by decide
  have refused : heap.bindNested .composite context vain heapUsage = none :=
    bindNested_eq_none context (by decide)
  obtain ⟨bound, taken, -⟩ :=
    @bindNested_takenAt heap .composite used heapUsage context (by decide) (by decide)
  have looksInVain : heap.offer .composite context vain =
      .look (heap.bindNested .composite context vain) :=
    if_pos (mayList_iff.mpr ⟨_, List.mem_cons_self, .inr (by decide)⟩)
  have looksAgain : heap.offer .composite context used =
      .look (heap.bindNested .composite context used) :=
    if_pos (mayList_iff.mpr ⟨_, List.mem_cons_self, .inr (by decide)⟩)
  have ends : (heap.bind context selecting).Ends answers (.ok (some bound)) := by
    have unfolded : heap.bind context selecting = Offer.settle heap.bean heap.name none
        [heap.offer .composite context vain, heap.offer .composite context used] := rfl
    rw [unfolded, looksInVain, looksAgain]
    refine .ask _ ?_
    simp only [Offer.settle, refused, taken]
    exact .done _
  obtain ⟨-, -, -, nested, -⟩ := bind_frugal heap context selecting ends
  have looked := mt (nested .composite declared (by decide)).mpr (List.cons_ne_nil _ _)
  refine ⟨declared, ⟨bound, ends⟩, ?_⟩
  simpa using looked

end Candidate
end BeanHarvest
