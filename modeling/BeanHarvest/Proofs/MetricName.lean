import BeanHarvest.MetricName
import Mathlib.Data.List.Chain

/-! Normal names. What normalising makes of a name is in normal form, whatever the name was, and it
leaves alone what is in normal form: no pass brings back what an earlier one has removed. -/
namespace BeanHarvest.MetricName

variable {name text : List Char}

/-- Two characters that may stand beside each other: not an underscore and a dot. -/
def MayMeet (c d : Char) : Prop := ¬(c = '_' ∧ d = '.') ∧ ¬(c = '.' ∧ d = '_')

/-- Names in normal form. A name that is neither empty nor an underscore begins with a small letter,
or with one underscore and a small letter. -/
structure IsNormal (name : List Char) : Prop where
  legal : ∀ c ∈ name, isLower c ∨ isDigit c ∨ c = '_' ∨ c = '.'
  begins : name = [] ∨ name = ['_'] ∨
    ∃ c rest, isLower c ∧ (name = c :: rest ∨ name = '_' :: c :: rest)
  apart : name.IsChain MayMeet

theorem isLegal_iff (c : Char) :
    isLegal c = true ↔ isLower c ∨ isDigit c ∨ c = '_' ∨ c = '.' := by
  simp [isLegal, or_assoc]

theorem maskIllegal_legal (inRun : Bool) (text : List Char) :
    ∀ c ∈ maskIllegal inRun text, isLegal c = true := by
  induction text generalizing inRun with
  | nil => simp [maskIllegal]
  | cons d rest ih =>
    unfold maskIllegal
    split
    · next legal => exact List.forall_mem_cons.mpr ⟨legal, ih false⟩
    · split
      · exact ih true
      · exact List.forall_mem_cons.mpr ⟨rfl, ih true⟩

theorem tidyDots_sublist (afterDot : Bool) (text : List Char) :
    (tidyDots afterDot text).Sublist text := by
  induction text generalizing afterDot with
  | nil => exact List.Sublist.refl _
  | cons c rest ih =>
    unfold tidyDots
    split
    · exact (ih afterDot).cons c
    · exact (ih _).cons_cons c

/-- What `maskLead` makes of a text: the text itself, or an underscore before an end of it that is
empty or begins with a small letter. -/
theorem maskLead_cases (text : List Char) :
    (maskLead text = text ∧ (text = [] ∨ ∃ c rest, isLower c ∧ text = c :: rest)) ∨
      ∃ rest, rest <:+ text ∧ maskLead text = '_' :: rest ∧
        (rest = [] ∨ ∃ c more, isLower c ∧ rest = c :: more) := by
  cases text with
  | nil => exact .inl ⟨rfl, .inl rfl⟩
  | cons c rest =>
    by_cases small : isLower c = true
    · exact .inl ⟨by simp [maskLead, small], .inr ⟨c, rest, small, rfl⟩⟩
    · refine .inr ⟨rest.dropWhile (! isLower ·), ?_, by simp [maskLead, small], ?_⟩
      · exact (List.dropWhile_suffix _).trans (List.suffix_cons c rest)
      · cases found : rest.dropWhile (! isLower ·) with
        | nil => exact .inl rfl
        | cons d more =>
          have first := List.head_dropWhile_not (! isLower ·) (l := rest) (by simp [found])
          exact .inr ⟨d, more, by simpa [found] using first, rfl⟩

theorem breakWords_eq_nil (inWord : Bool) : breakWords inWord text = [] ↔ text = [] := by
  fun_cases breakWords inWord text <;> simp_all

theorem breakCapitals_eq_nil : breakCapitals text = [] ↔ text = [] := by
  fun_cases breakCapitals text <;> simp_all

theorem lower_eq_nil : Text.lower text = [] ↔ text = [] := by
  cases text with
  | nil => simp [Text.lower]
  | cons c rest =>
    have some_form : Text.lowerChar c ≠ [] := by
      fun_cases Text.lowerChar c <;> simp_all
    simp [Text.lower, some_form]

theorem maskIllegal_eq_nil : maskIllegal false text = [] ↔ text = [] := by
  cases text with
  | nil => simp [maskIllegal]
  | cons c rest =>
    unfold maskIllegal
    split <;> simp

/-- A dot that follows is kept, and so something is. -/
theorem tidyDots_ne_nil_of_dotFollows (afterDot : Bool) (follows : dotFollows text = true) :
    tidyDots afterDot text ≠ [] := by
  induction text with
  | nil => simp [dotFollows] at follows
  | cons c rest ih =>
    unfold tidyDots
    split
    · next dropped =>
      have underscore : c = '_' := by simp_all
      exact ih (by simpa [dotFollows, underscore] using follows)
    · simp

theorem tidyDots_eq_nil : tidyDots false text = [] ↔ text = [] := by
  cases text with
  | nil => simp [tidyDots]
  | cons c rest =>
    unfold tidyDots
    split
    · next dropped =>
      have follows : dotFollows rest = true := by simp_all
      simp [tidyDots_ne_nil_of_dotFollows false follows]
    · simp

theorem maskLead_eq_nil : maskLead text = [] ↔ text = [] := by
  cases text with
  | nil => simp [maskLead]
  | cons c rest =>
    simp only [maskLead]
    split <;> simp

theorem normalForm_eq_nil : normalForm name = [] ↔ name = [] := by
  rw [normalForm, maskLead_eq_nil, tidyDots_eq_nil, maskIllegal_eq_nil, lower_eq_nil,
    breakCapitals_eq_nil, breakWords_eq_nil]

theorem dotFollows_of_head (afterDot : Bool) (first : (tidyDots afterDot text).head? = some '.') :
    dotFollows text = true := by
  induction text with
  | nil => simp [tidyDots] at first
  | cons c rest ih =>
    unfold tidyDots at first
    split at first
    · next dropped =>
      have underscore : c = '_' := by simp_all
      simpa [dotFollows, underscore] using ih first
    · have dot : c = '.' := by simpa using first
      simp [dotFollows, dot]

theorem head_tidyDots_afterDot : (tidyDots true text).head? ≠ some '_' := by
  induction text with
  | nil => simp [tidyDots]
  | cons c rest ih =>
    unfold tidyDots
    split
    · exact ih
    · next kept =>
      intro first
      have underscore : c = '_' := by simpa using first
      simp [underscore] at kept

theorem tidyDots_apart (afterDot : Bool) : (tidyDots afterDot text).IsChain MayMeet := by
  induction text generalizing afterDot with
  | nil => exact List.isChain_nil
  | cons c rest ih =>
    unfold tidyDots
    split
    · exact ih afterDot
    · next kept =>
      refine List.isChain_cons.mpr ⟨fun d first => ⟨?_, ?_⟩, ih _⟩
      · -- An underscore is kept only where no dot follows.
        rintro ⟨rfl, rfl⟩
        have follows := dotFollows_of_head _ first
        simp [follows] at kept
      · rintro ⟨rfl, rfl⟩
        exact head_tidyDots_afterDot first

theorem dotFollows_of_apart (apart : List.IsChain MayMeet ('_' :: text)) : dotFollows text = false := by
  induction text with
  | nil => rfl
  | cons c rest ih =>
    obtain ⟨meet, apart⟩ := List.isChain_cons_cons.mp apart
    by_cases underscore : c = '_'
    · subst underscore
      simpa [dotFollows] using ih apart
    · have noDot : c ≠ '.' := fun dot => meet.1 ⟨rfl, dot⟩
      simp [dotFollows, underscore, noDot]

private theorem val_bounds {first last c : Char}
    (within : (first ≤ c && c ≤ last) = true) :
    first.val.toNat ≤ c.val.toNat ∧ c.val.toNat ≤ last.val.toNat := by
  simpa only [Bool.and_eq_true, decide_eq_true_eq, Char.le_def, UInt32.le_iff_toNat_le] using within

theorem ascii_of_isLegal {c : Char} (legal : isLegal c = true) :
    c.toNat < 128 ∧ ¬(c.val ≥ 'A'.val ∧ c.val ≤ 'Z'.val) := by
  simp only [ge_iff_le, UInt32.le_iff_toNat_le]
  have capitals : 'A'.val.toNat = 65 ∧ 'Z'.val.toNat = 90 := ⟨rfl, rfl⟩
  have same : c.toNat = c.val.toNat := rfl
  rcases (isLegal_iff c).mp legal with small | digit | rfl | rfl
  · have bounds := val_bounds small
    have ends : 'a'.val.toNat = 97 ∧ 'z'.val.toNat = 122 := ⟨rfl, rfl⟩
    omega
  · have bounds := val_bounds digit
    have ends : '0'.val.toNat = 48 ∧ '9'.val.toNat = 57 := ⟨rfl, rfl⟩
    omega
  · decide
  · decide

theorem isUpper_of_isLegal {c : Char} (legal : isLegal c = true) : isUpper c = false := by
  have noCapital := (ascii_of_isLegal legal).2
  simpa [isUpper, Char.le_def] using noCapital

theorem lowerChar_of_isLegal {c : Char} (legal : isLegal c = true) : Text.lowerChar c = [c] := by
  obtain ⟨ascii, noCapital⟩ := ascii_of_isLegal legal
  have kept : c.toLower = c := dif_neg noCapital
  rw [Text.lowerChar_ascii ascii, kept]

theorem breakWords_of_legal (inWord : Bool) (legal : ∀ c ∈ text, isLegal c = true) :
    breakWords inWord text = text := by
  fun_induction breakWords inWord text with
  | case1 inWord c u l after _ ih => rw [ih (List.forall_mem_cons.mp legal).2]
  | case2 inWord c u l after _ capital ih =>
    have small := isUpper_of_isLegal (legal u (by simp))
    simp [small] at capital
  | case3 inWord c u l after _ _ ih => rw [ih (List.forall_mem_cons.mp legal).2]
  | case4 => rfl

theorem breakCapitals_of_legal (legal : ∀ c ∈ text, isLegal c = true) :
    breakCapitals text = text := by
  fun_induction breakCapitals text with
  | case1 c u rest capital ih =>
    have small := isUpper_of_isLegal (legal u (by simp))
    simp [small] at capital
  | case2 c u rest _ ih => rw [ih (List.forall_mem_cons.mp legal).2]
  | case3 => rfl

theorem lower_of_legal (legal : ∀ c ∈ text, isLegal c = true) : Text.lower text = text := by
  induction text with
  | nil => rfl
  | cons c rest ih =>
    obtain ⟨first, legal⟩ := List.forall_mem_cons.mp legal
    have others : rest.flatMap Text.lowerChar = rest := ih legal
    simp [Text.lower, lowerChar_of_isLegal first, others]

theorem maskIllegal_of_legal (inRun : Bool) (legal : ∀ c ∈ text, isLegal c = true) :
    maskIllegal inRun text = text := by
  induction text generalizing inRun with
  | nil => rfl
  | cons c rest ih =>
    obtain ⟨first, legal⟩ := List.forall_mem_cons.mp legal
    simp [maskIllegal, first, ih false legal]

theorem tidyDots_of_apart (afterDot : Bool) (apart : text.IsChain MayMeet)
    (first : afterDot = true → text.head? ≠ some '_') : tidyDots afterDot text = text := by
  induction text generalizing afterDot with
  | nil => rfl
  | cons c rest ih =>
    obtain ⟨meet, others⟩ := List.isChain_cons.mp apart
    have kept : ¬(c = '_' && (afterDot || dotFollows rest)) = true := by
      intro dropped
      obtain ⟨underscore, beside⟩ : c = '_' ∧ (afterDot = true ∨ dotFollows rest = true) := by
        simpa using dropped
      subst underscore
      rcases beside with after | follows
      · exact first after rfl
      · simp [dotFollows_of_apart apart] at follows
    rw [tidyDots, if_neg kept, ih _ others]
    intro dot underscore
    exact (meet '_' underscore).2 ⟨by simpa using dot, rfl⟩

theorem maskLead_of_begins (begins : name = [] ∨ name = ['_'] ∨
    ∃ c rest, isLower c ∧ (name = c :: rest ∨ name = '_' :: c :: rest)) : maskLead name = name := by
  rcases begins with rfl | rfl | ⟨c, rest, small, rfl | rfl⟩
  · rfl
  · rfl
  · simp [maskLead, small]
  · have noLetter : isLower '_' = false := rfl
    simp [maskLead, noLetter, small]

theorem normalForm_of_isNormal (normal : IsNormal name) : normalForm name = name := by
  have legal : ∀ c ∈ name, isLegal c = true := fun c member =>
    (isLegal_iff c).mpr (normal.legal c member)
  rw [normalForm, breakWords_of_legal false legal, breakCapitals_of_legal legal,
    lower_of_legal legal, maskIllegal_of_legal false legal,
    tidyDots_of_apart false normal.apart (fun no => absurd no Bool.false_ne_true),
    maskLead_of_begins normal.begins]

theorem maskLead_isNormal (legal : ∀ c ∈ text, isLegal c = true) (apart : text.IsChain MayMeet) :
    IsNormal (maskLead text) := by
  have named : ∀ c ∈ text, isLower c ∨ isDigit c ∨ c = '_' ∨ c = '.' := fun c member =>
    (isLegal_iff c).mp (legal c member)
  rcases maskLead_cases text with ⟨same, first⟩ | ⟨rest, ending, masked, first⟩
  · rw [same]
    refine ⟨named, ?_, apart⟩
    rcases first with empty | ⟨c, rest, small, begins⟩
    · exact .inl empty
    · exact .inr (.inr ⟨c, rest, small, .inl begins⟩)
  · rw [masked]
    refine ⟨List.forall_mem_cons.mpr ⟨by simp, fun c member => named c (ending.subset member)⟩, ?_, ?_⟩
    · rcases first with rfl | ⟨c, more, small, rfl⟩
      · exact .inr (.inl rfl)
      · exact .inr (.inr ⟨c, more, small, .inr rfl⟩)
    · refine List.isChain_cons.mpr ⟨fun d head => ?_, apart.suffix ending⟩
      rcases first with rfl | ⟨c, more, small, rfl⟩
      · simp at head
      · obtain rfl : c = d := by simpa using head
        refine ⟨?_, by simp⟩
        rintro ⟨_, rfl⟩
        exact absurd small (by decide)

theorem normalForm_isNormal (name : List Char) : IsNormal (normalForm name) :=
  maskLead_isNormal
    (fun c member => maskIllegal_legal _ _ c ((tidyDots_sublist _ _).subset member))
    (tidyDots_apart false)

/-- Normalising leaves alone just the names in normal form. -/
theorem normalForm_eq_self_iff : normalForm name = name ↔ IsNormal name :=
  ⟨fun same => same ▸ normalForm_isNormal name, normalForm_of_isNormal⟩

/-- Every normalised name is in normal form, is empty only where the name was, and is stable. -/
theorem normalize_isNormal (name : String) :
    IsNormal (normalize name).toList ∧ (normalize name = "" ↔ name = "") ∧
      normalize (normalize name) = normalize name := by
  have chars : (normalize name).toList = normalForm name.toList := String.toList_ofList
  refine ⟨chars ▸ normalForm_isNormal _, ?_, ?_⟩
  · rw [← String.toList_eq_nil_iff, chars, normalForm_eq_nil, String.toList_eq_nil_iff]
  · rw [normalize, chars, normalForm_eq_self_iff.mpr (normalForm_isNormal _), normalize]

end BeanHarvest.MetricName
