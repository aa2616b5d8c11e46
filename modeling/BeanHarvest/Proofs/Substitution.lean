import BeanHarvest.Alias
import BeanHarvest.Proofs.Text
import Mathlib.Data.List.Infix
import Mathlib.Data.List.Nodup
import Mathlib.Data.String.Basic

/-! Substitution: what templates come to. Placeholders are replaced one after the other, the longer
first, each in the text that the ones before have left. That is what one scan of the template from left
to right gives, as long as no placeholder begins in a value, inside of another placeholder, or with what
stands in front of a placeholder. A value in which one begins is scanned again. -/
namespace BeanHarvest

namespace Text

/-- A word begins nowhere in a text, whatever follows the text. -/
def Avoids (text word : List Char) : Prop :=
  ∀ tail ∈ text.tails, tail ≠ [] → ¬ word <+: tail ∧ ¬ tail <+: word

instance (text word : List Char) : Decidable (Avoids text word) :=
  inferInstanceAs (Decidable (∀ tail ∈ text.tails, tail ≠ [] → ¬ _ ∧ ¬ _))

variable {word value text front rest : List Char}

theorem afterPrefix?_isSome_iff : (afterPrefix? word text).isSome = true ↔ word <+: text := by
  induction word generalizing text with
  | nil => simp [afterPrefix?]
  | cons w word ih =>
    cases text with
    | nil => simp [afterPrefix?]
    | cons c text =>
      rw [afterPrefix?, List.cons_prefix_cons]
      by_cases same : w = c
      · simp [same, ih]
      · simp [same]

/-- A word occurs in a text where it begins at some place. -/
theorem occurs_iff : occurs word text = true ↔ word <:+: text := by
  induction text with
  | nil => simp [occurs]
  | cons c rest ih =>
    rw [occurs, Bool.or_eq_true, afterPrefix?_isSome_iff, ih, List.infix_cons_iff]

theorem Avoids.not_begins (avoids : Avoids text word) {tail : List Char} (part : tail <:+ text)
    (nonempty : tail ≠ []) (more : List Char) : ¬ word <+: tail ++ more := by
  intro begins
  obtain ⟨inside, beyond⟩ := avoids tail ((List.mem_tails tail text).mpr part) nonempty
  rcases List.prefix_or_prefix_of_prefix begins (List.prefix_append tail more) with within | longer
  · exact inside within
  · exact beyond longer

theorem eq_or_suffix_tail {tail : List Char} (part : tail <:+ text) :
    tail = text ∨ tail <:+ text.tail := by
  cases text with
  | nil => exact .inl (List.suffix_nil.mp part)
  | cons c rest => exact List.suffix_cons_iff.mp part

theorem replaceFrom_skip (word value : List Char) (skip : Nat) (text : List Char) :
    replaceFrom word value skip text = replaceFrom word value 0 (text.drop skip) := by
  induction skip generalizing text with
  | zero => rfl
  | succ skip ih =>
    cases text with
    | nil => rfl
    | cons c rest => exact ih rest

theorem replace_nil (nonempty : word ≠ []) : replace word value [] = [] := by
  simp [replace, nonempty, replaceFrom]

/-- A character is copied if the word does not begin with it. -/
theorem replace_cons_of_not_prefix (nonempty : word ≠ []) {c : Char}
    (others : ¬ word <+: c :: rest) : replace word value (c :: rest) = c :: replace word value rest := by
  rw [← afterPrefix?_isSome_iff] at others
  simp [replace, nonempty, replaceFrom, others]

/-- The word is replaced where it begins, and the scan goes on behind it. -/
theorem replace_append (nonempty : word ≠ []) :
    replace word value (word ++ rest) = value ++ replace word value rest := by
  cases word with
  | nil => exact absurd rfl nonempty
  | cons w others =>
    have begins : (afterPrefix? (w :: others) (w :: (others ++ rest))).isSome = true :=
      afterPrefix?_isSome_iff.mpr (List.prefix_append (w :: others) rest)
    simp only [replace, List.isEmpty_cons, Bool.false_eq_true, if_false, List.cons_append,
      replaceFrom, begins, if_true]
    rw [replaceFrom_skip]
    simp

/-- A text in which the word begins nowhere is copied. -/
theorem replace_append_of_avoids (nonempty : word ≠ []) (avoids : Avoids front word) :
    replace word value (front ++ rest) = front ++ replace word value rest := by
  suffices copied : ∀ tail, tail <:+ front →
      replace word value (tail ++ rest) = tail ++ replace word value rest from
    copied front List.suffix_rfl
  intro tail part
  induction tail with
  | nil => rfl
  | cons c others ih =>
    have begins : ¬ word <+: c :: (others ++ rest) :=
      avoids.not_begins part (List.cons_ne_nil c others) rest
    rw [List.cons_append, replace_cons_of_not_prefix nonempty begins,
      ih ((List.suffix_cons c others).trans part), List.cons_append]

end Text

namespace Alias

/-- One scan of a text from left to right: where placeholders begin, the longest of them gives way to its
value, and behind it the scan goes on; anything else is copied. -/
inductive Scans (bindings : List (String × String)) : List Char → List Char → Prop where
  | done : Scans bindings [] []
  | copy (c : Char) {rest out : List Char}
      (others : ∀ binding ∈ bindings, ¬ binding.1.toList <+: c :: rest)
      (scans : Scans bindings rest out) : Scans bindings (c :: rest) (c :: out)
  | replace {binding : String × String} {rest out : List Char} (member : binding ∈ bindings)
      (longest : ∀ other ∈ bindings, other.1.toList <+: binding.1.toList ++ rest →
        other.1.toList.length ≤ binding.1.toList.length)
      (scans : Scans bindings rest out) :
      Scans bindings (binding.1.toList ++ rest) (binding.2.toList ++ out)

/-- Whether no placeholder can come about by a replacement, nor overlap with another one: none begins in
a value or inside of a placeholder, and in front of a placeholder the template has no beginning of
one. -/
structure Separate (template : List Char) (bindings : List (String × String)) : Prop where
  inValues : ∀ binding ∈ bindings, ∀ other ∈ bindings,
    Text.Avoids binding.2.toList other.1.toList
  inPlaceholders : ∀ binding ∈ bindings, ∀ other ∈ bindings,
    Text.Avoids binding.1.toList.tail other.1.toList
  inFront : ∀ binding ∈ bindings, ∀ other ∈ bindings, ∀ front ∈ other.1.toList.inits,
    front ≠ [] → front ≠ other.1.toList → ¬ (front ++ binding.1.toList) <:+: template

variable {template text out front rest : List Char} {bindings done todo : List (String × String)}
  {last : String × String}

/-- Whether all placeholders begin with a dollar sign. -/
def Marked (bindings : List (String × String)) : Prop :=
  ∀ binding ∈ bindings, ∃ key, binding.1 = "$" ++ key

theorem Marked.toList_eq (marked : Marked bindings) {binding : String × String}
    (member : binding ∈ bindings) : ∃ key, binding.1.toList = '$' :: key := by
  obtain ⟨key, same⟩ := marked binding member
  exact ⟨key.toList, by simp [same]⟩

theorem Marked.ne_nil (marked : Marked bindings) {binding : String × String}
    (member : binding ∈ bindings) : binding.1.toList ≠ [] := by
  obtain ⟨key, same⟩ := marked.toList_eq member
  simp [same]

/-- Bindings matter by what they are, not by their order. -/
theorem Scans.congr {others : List (String × String)} (scans : Scans bindings text out)
    (same : ∀ binding, binding ∈ bindings ↔ binding ∈ others) : Scans others text out := by
  induction scans with
  | done => exact .done
  | copy c free _ ih => exact .copy c (fun binding member => free binding ((same binding).mpr member)) ih
  | replace member longest _ ih =>
    exact .replace ((same _).mp member)
      (fun other present => longest other ((same other).mpr present)) ih

/-- A text in which no placeholder begins is copied. -/
theorem Scans.self (free : ∀ tail, tail <:+ text → ∀ binding ∈ bindings, ¬ binding.1.toList <+: tail) :
    Scans bindings text text := by
  induction text with
  | nil => exact .done
  | cons c rest ih =>
    refine .copy c (free _ List.suffix_rfl) (ih fun tail part => ?_)
    exact free tail (part.trans (List.suffix_cons c rest))

/-- The scan copies what stands in front of the first placeholder. -/
theorem Scans.append_inv (scans : Scans bindings (front ++ rest) out)
    (free : ∀ tail, tail <:+ front → tail ≠ [] → ∀ binding ∈ bindings,
      ¬ binding.1.toList <+: tail ++ rest) :
    ∃ later, out = front ++ later ∧ Scans bindings rest later := by
  induction front generalizing out with
  | nil => exact ⟨out, rfl, scans⟩
  | cons c front ih =>
    have here := free (c :: front) List.suffix_rfl (List.cons_ne_nil c front)
    rw [List.cons_append] at scans here
    generalize same : c :: (front ++ rest) = whole at scans here
    cases scans with
    | done => cases same
    | copy d _ others =>
      obtain ⟨rfl, rfl⟩ := List.cons.inj same
      obtain ⟨later, rfl, behind⟩ := ih others fun tail part =>
        free tail (part.trans (List.suffix_cons c front))
      exact ⟨later, rfl, behind⟩
    | replace member _ _ => exact absurd (List.prefix_append _ _) (here _ member)

/-- What the result of a scan begins with, the text begins with too, unless it reaches beyond a place at
which something was replaced. -/
theorem Scans.prefix_inv (scans : Scans bindings text out) {word : List Char}
    (begins : word <+: out) : word <+: text ∨ ∃ front binding, binding ∈ bindings ∧
      front <+: word ∧ front ≠ word ∧ front ++ binding.1.toList <+: text := by
  induction scans generalizing word with
  | done => exact .inl begins
  | @copy c rest out _ _ ih =>
    cases word with
    | nil => exact .inl List.nil_prefix
    | cons w word =>
      obtain ⟨rfl, follows⟩ := List.cons_prefix_cons.mp begins
      rcases ih follows with within | ⟨front, binding, member, part, proper, reaches⟩
      · exact .inl (List.cons_prefix_cons.mpr ⟨rfl, within⟩)
      · refine .inr ⟨w :: front, binding, member, ?_, ?_, ?_⟩
        · exact List.cons_prefix_cons.mpr ⟨rfl, part⟩
        · simpa using proper
        · exact List.cons_prefix_cons.mpr ⟨rfl, reaches⟩
  | @replace binding rest out member _ _ _ =>
    cases word with
    | nil => exact .inl List.nil_prefix
    | cons w word =>
      exact .inr ⟨[], binding, member, List.nil_prefix, List.cons_ne_nil w word |>.symm,
        List.prefix_append _ _⟩

/-- Where placeholders are told apart, a scan has one result. -/
theorem Scans.unique (marked : Marked bindings) (distinct : (bindings.map (·.1)).Nodup)
    {other : List Char} (first : Scans bindings text out) (second : Scans bindings text other) :
    out = other := by
  induction first generalizing other with
  | done =>
    generalize same : ([] : List Char) = whole at second
    cases second with
    | done => rfl
    | copy => cases same
    | replace member =>
      exact absurd (List.append_eq_nil_iff.mp same.symm).1 (marked.ne_nil member)
  | @copy c rest out free _ ih =>
    generalize same : c :: rest = whole at second
    cases second with
    | done => cases same
    | copy d _ second =>
      obtain ⟨rfl, rfl⟩ := List.cons.inj same
      rw [ih second]
    | @replace binding _ _ member =>
      exact absurd (same ▸ List.prefix_append _ _) (free binding member)
  | @replace binding rest out member longest _ ih =>
    generalize same : binding.1.toList ++ rest = whole at second
    cases second with
    | done => exact absurd (List.append_eq_nil_iff.mp same).1 (marked.ne_nil member)
    | copy d free => exact absurd (same ▸ List.prefix_append _ _) (free binding member)
    | @replace binding₂ rest₂ out₂ member₂ longest₂ second =>
      have below : binding₂.1.toList.length ≤ binding.1.toList.length :=
        longest binding₂ member₂ (same ▸ List.prefix_append _ _)
      have above : binding.1.toList.length ≤ binding₂.1.toList.length :=
        longest₂ binding member (same ▸ List.prefix_append _ _)
      obtain ⟨alike, rfl⟩ := List.append_inj same (Nat.le_antisymm above below)
      have equal : binding = binding₂ :=
        List.inj_on_of_nodup_map distinct member member₂ (String.toList_inj.mp alike)
      rw [equal, ih second]

/-- A placeholder that begins where a longer or equal one stands is no longer than that. -/
theorem length_le_of_prefix {word other : String} (size : word.utf8ByteSize ≤ other.utf8ByteSize)
    (begins : word.toList <+: other.toList ++ rest) : word.toList.length ≤ other.toList.length := by
  rcases List.prefix_or_prefix_of_prefix begins (List.prefix_append _ rest) with within | ⟨more, same⟩
  · exact within.length_le
  · have whole : word = other ++ String.ofList more := by
      rw [← String.toList_inj, String.toList_append, String.toList_ofList, same]
    rw [whole, String.utf8ByteSize_append] at size
    have empty : String.ofList more = "" := String.utf8ByteSize_eq_zero_iff.mp (by omega)
    rw [whole, empty, String.append_empty]

/-- Replacing a placeholder in what a scan for longer ones has left is scanning for it as well. -/
theorem Scans.concat (scans : Scans done text out) (part : text <:+ template)
    (marked : Marked (done ++ [last])) (separate : Separate template (done ++ [last]))
    (longer : ∀ binding ∈ done, last.1.utf8ByteSize ≤ binding.1.utf8ByteSize) :
    Scans (done ++ [last]) text (Text.replace last.1.toList last.2.toList out) := by
  have new : last ∈ done ++ [last] := List.mem_append_right _ (List.mem_singleton_self last)
  have among : ∀ binding ∈ done, binding ∈ done ++ [last] := fun _ => List.mem_append_left _
  have nonempty : last.1.toList ≠ [] := marked.ne_nil new
  induction length : text.length using Nat.strong_induction_on generalizing text out with
  | _ size ih =>
    subst size
    cases scans with
    | done =>
      rw [Text.replace_nil nonempty]
      exact .done
    | @replace binding rest out member longest scans =>
      rw [Text.replace_append_of_avoids nonempty
        (separate.inValues binding (among binding member) last new)]
      refine .replace (among binding member) ?_ (ih _ ?_ scans ?_ rfl)
      · intro other present begins
        rcases List.mem_append.mp present with before | same
        · exact longest other before begins
        · cases List.mem_singleton.mp same
          exact length_le_of_prefix (longer binding member) begins
      · have filled := List.length_pos_iff.mpr (marked.ne_nil (among binding member))
        rw [List.length_append]
        omega
      · exact (List.suffix_append _ rest).trans part
    | @copy c rest out free scans =>
      by_cases begins : last.1.toList <+: c :: rest
      · -- The placeholder was copied as a whole: no longer one begins with it or inside of it.
        obtain ⟨after, same⟩ := begins
        have whole : Scans done (last.1.toList ++ after) (c :: out) := same ▸ .copy c free scans
        obtain ⟨later, copied, scans⟩ := whole.append_inv fun tail part nonempty binding member => by
          rcases Text.eq_or_suffix_tail part with rfl | inside
          · exact same ▸ free binding member
          · exact (separate.inPlaceholders last new binding (among binding member)).not_begins
              inside nonempty after
        rw [copied, ← same, Text.replace_append nonempty]
        refine .replace new ?_ (ih _ ?_ scans ?_ rfl)
        · intro other present begins
          rcases List.mem_append.mp present with before | same₂
          · exact absurd (same ▸ begins) (free other before)
          · rw [List.mem_singleton.mp same₂]
        · have filled := List.length_pos_iff.mpr nonempty
          rw [← same, List.length_append]
          omega
        · exact (List.suffix_append _ after).trans (same ▸ part)
      · -- Nor has the placeholder come about by a replacement behind this character.
        have absent : ¬ last.1.toList <+: c :: out := by
          intro reached
          obtain ⟨key, marks⟩ := marked.toList_eq new
          rw [marks] at reached begins
          obtain ⟨rfl, follows⟩ := List.cons_prefix_cons.mp reached
          rcases scans.prefix_inv follows with within | ⟨front, binding, member, part₂, proper, reaches⟩
          · exact begins (List.cons_prefix_cons.mpr ⟨rfl, within⟩)
          · refine separate.inFront binding (among binding member) last new ('$' :: front) ?_
              (List.cons_ne_nil _ _) ?_ ?_
            · rw [marks, List.mem_inits]
              exact List.cons_prefix_cons.mpr ⟨rfl, part₂⟩
            · rw [marks]
              simpa using proper
            · have reaches₂ : '$' :: front ++ binding.1.toList <+: '$' :: rest :=
                List.cons_prefix_cons.mpr ⟨rfl, reaches⟩
              exact reaches₂.isInfix.trans part.isInfix
        rw [Text.replace_cons_of_not_prefix nonempty absent]
        refine .copy c ?_ (ih _ (by simp) scans ((List.suffix_cons c rest).trans part) rfl)
        intro binding present
        rcases List.mem_append.mp present with before | same
        · exact free binding before
        · rw [List.mem_singleton.mp same]
          exact begins

theorem Separate.mono {others : List (String × String)} (separate : Separate template others)
    (among : ∀ binding ∈ bindings, binding ∈ others) : Separate template bindings where
  inValues binding member other present :=
    separate.inValues binding (among binding member) other (among other present)
  inPlaceholders binding member other present :=
    separate.inPlaceholders binding (among binding member) other (among other present)
  inFront binding member other present :=
    separate.inFront binding (among binding member) other (among other present)

/-- Placeholders are replaced in the order of their lengths. -/
theorem mergeSort_shortening (bindings : List (String × String)) :
    (bindings.mergeSort replacedBefore).Pairwise fun a b => b.1.utf8ByteSize ≤ a.1.utf8ByteSize := by
  have transitive : ∀ a b c : String × String, replacedBefore a b = true → replacedBefore b c = true →
      replacedBefore a c = true := by
    intro a b c before after
    simp only [replacedBefore, Bool.or_eq_true, Bool.and_eq_true, decide_eq_true_eq, beq_iff_eq]
      at before after ⊢
    rcases before with longer | ⟨equal, least⟩
    · left
      omega
    · rcases after with longer | ⟨equal₂, least₂⟩
      · left
        omega
      · exact .inr ⟨equal.trans equal₂, le_trans least least₂⟩
  have total : ∀ a b : String × String, (replacedBefore a b || replacedBefore b a) = true := by
    intro a b
    simp only [replacedBefore, Bool.or_eq_true, Bool.and_eq_true, decide_eq_true_eq, beq_iff_eq]
    rcases Nat.lt_trichotomy a.1.utf8ByteSize b.1.utf8ByteSize with below | equal | above
    · exact .inr (.inl below)
    · rcases le_total a.1 b.1 with least | greatest
      · exact .inl (.inr ⟨equal, least⟩)
      · exact .inr (.inr ⟨equal.symm, greatest⟩)
    · exact .inl (.inl above)
  refine (List.pairwise_mergeSort transitive total bindings).imp fun {a b} before => ?_
  simp only [replacedBefore, Bool.or_eq_true, Bool.and_eq_true, decide_eq_true_eq, beq_iff_eq] at before
  omega

/-- Replacing placeholders one after the other, each no longer than those before, is one scan for all of
them. -/
theorem Scans.foldl (scans : Scans done template out) (marked : Marked (done ++ todo))
    (separate : Separate template (done ++ todo))
    (shortening : (done ++ todo).Pairwise fun a b => b.1.utf8ByteSize ≤ a.1.utf8ByteSize) :
    Scans (done ++ todo) template (todo.foldl
      (fun text binding => Text.replace binding.1.toList binding.2.toList text) out) := by
  induction todo generalizing done out with
  | nil => rwa [List.append_nil]
  | cons last rest ih =>
    have among : ∀ binding ∈ done ++ [last], binding ∈ done ++ last :: rest := by
      intro binding member
      rcases List.mem_append.mp member with before | same
      · exact List.mem_append_left _ before
      · exact List.mem_append_right _ (List.mem_singleton.mp same ▸ List.mem_cons_self)
    have step : Scans (done ++ [last]) template (Text.replace last.1.toList last.2.toList out) := by
      refine scans.concat List.suffix_rfl (fun binding member => marked binding (among binding member))
        (separate.mono among) fun binding member => ?_
      exact (List.pairwise_append.mp shortening).2.2 binding member last List.mem_cons_self
    have whole : done ++ last :: rest = done ++ [last] ++ rest := by simp
    rw [whole] at marked separate shortening ⊢
    exact ih step marked separate shortening

/-- A template in which no placeholder is replaced anew comes to what one scan gives. -/
theorem scans_substitute {template : String} (marked : Marked bindings)
    (separate : Separate template.toList bindings) :
    Scans bindings template.toList (substitute template bindings).toList := by
  unfold substitute
  split
  · rw [String.toList_ofList]
    have same : ∀ binding, binding ∈ [] ++ bindings.mergeSort replacedBefore ↔ binding ∈ bindings :=
      fun binding => List.mem_mergeSort
    have start : Scans [] template.toList template.toList := .self fun _ _ _ member => nomatch member
    exact (start.foldl (fun binding member => marked binding ((same binding).mp member))
      (separate.mono fun binding member => (same binding).mp member)
      (mergeSort_shortening bindings)).congr same
  · next unmarked =>
    refine .self fun tail part binding member begins => unmarked ?_
    obtain ⟨key, marks⟩ := marked.toList_eq member
    rw [marks] at begins
    exact List.contains_iff_mem.mpr (part.subset (begins.subset List.mem_cons_self))

/-- A placeholder that does not occur makes no difference to a scan. -/
theorem Scans.drop (scans : Scans bindings text out) {placeholder : String}
    (absent : ¬ placeholder.toList <:+: text) :
    Scans (bindings.filter (·.1 ≠ placeholder)) text out := by
  induction scans with
  | done => exact .done
  | @copy c rest out free _ ih =>
    refine .copy c (fun binding member => free binding (List.mem_filter.mp member).1) (ih fun part => ?_)
    exact absent (part.trans (List.suffix_cons c rest).isInfix)
  | @replace binding rest out member longest _ ih =>
    refine .replace (List.mem_filter.mpr ⟨member, ?_⟩) ?_ (ih fun part => ?_)
    · rw [decide_eq_true_iff]
      rintro rfl
      exact absent (List.prefix_append _ rest).isInfix
    · exact fun other present => longest other (List.mem_filter.mp present).1
    · exact absent (part.trans (List.suffix_append _ rest).isInfix)

/-- What a template comes to is the result of one scan, and a placeholder that the template has not makes
no difference to it. -/
theorem substitute_single_pass (template : String) (bindings : List (String × String))
    (marked : Marked bindings) (distinct : (bindings.map (·.1)).Nodup)
    (separate : Separate template.toList bindings) :
    (∀ out : String, Scans bindings template.toList out.toList ↔ out = substitute template bindings) ∧
    ∀ placeholder : String, ¬ placeholder.toList <:+: template.toList →
      substitute template (bindings.filter (·.1 ≠ placeholder)) = substitute template bindings := by
  have scans := scans_substitute marked separate
  refine ⟨fun out => ⟨fun other => ?_, fun same => same ▸ scans⟩, fun placeholder absent => ?_⟩
  · exact String.toList_inj.mp (other.unique marked distinct scans)
  · have among : ∀ binding ∈ bindings.filter (·.1 ≠ placeholder), binding ∈ bindings :=
      fun binding member => (List.mem_filter.mp member).1
    have marked₂ : Marked (bindings.filter (·.1 ≠ placeholder)) :=
      fun binding member => marked binding (among binding member)
    have distinct₂ : ((bindings.filter (·.1 ≠ placeholder)).map (·.1)).Nodup :=
      distinct.sublist (List.filter_sublist.map _)
    have scans₂ := scans_substitute marked₂ (separate.mono among)
    exact String.toList_inj.mp (scans₂.unique marked₂ distinct₂ (scans.drop absent))

/-- Keys of which one begins another, and a value with a dollar sign of its own. -/
def orders : List (String × String) :=
  [("$domain", "kafka.server"), ("$name2", "Outer$Inner"), ("$name", "orders")]

theorem substitute_single_pass_orders : Marked orders ∧ (orders.map (·.1)).Nodup ∧
    Separate "$domain.$name2.$name.count".toList orders ∧
      Scans orders "$domain.$name2.$name.count".toList
        "kafka.server.Outer$Inner.orders.count".toList := by
  have marked : Marked orders := by
    simp only [orders, Marked, List.forall_mem_cons]
    exact ⟨⟨"domain", rfl⟩, ⟨"name2", rfl⟩, ⟨"name", rfl⟩, fun _ member => nomatch member⟩
  have distinct : (orders.map (·.1)).Nodup := by decide
  have separate : Separate "$domain.$name2.$name.count".toList orders :=
    ⟨by decide, by decide, by decide⟩
  have computed : substitute "$domain.$name2.$name.count" orders =
      "kafka.server.Outer$Inner.orders.count" := by
    unfold substitute
    rw [List.mergeSort_of_pairwise (by decide)]
    decide
  refine ⟨marked, distinct, separate, ?_⟩
  exact ((substitute_single_pass _ orders marked distinct separate).1 _).mpr computed.symm

/-- A value in which a placeholder begins is scanned again: a template that does not name the live value
comes to the live value. -/
theorem substitute_scans_values :
    let bindings := [("$service", "$value"), ("$value", "RUNNING")]
    substitute "$service" bindings = "RUNNING" ∧
      Scans bindings "$service".toList "$value".toList ∧
      ¬ Scans bindings "$service".toList "RUNNING".toList := by
  intro bindings
  have computed : substitute "$service" bindings = "RUNNING" := by
    unfold substitute
    rw [List.mergeSort_of_pairwise (by decide)]
    decide
  have marked : Marked bindings := by
    simp only [bindings, Marked, List.forall_mem_cons]
    exact ⟨⟨"service", rfl⟩, ⟨"value", rfl⟩, fun _ member => nomatch member⟩
  have scans : Scans bindings ("$service".toList ++ []) ("$value".toList ++ []) :=
    .replace List.mem_cons_self (by decide) .done
  rw [List.append_nil, List.append_nil] at scans
  refine ⟨computed, scans, fun other => ?_⟩
  exact absurd (other.unique marked (by decide) scans) (by decide)

end Alias
end BeanHarvest
