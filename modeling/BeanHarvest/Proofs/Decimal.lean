import BeanHarvest.Report.Exposition

/-! Texts of numbers. However a number is written, its text is one word: it is not empty, and nothing
in it could end a word, a line or a quoted text. -/
namespace BeanHarvest

/-- Characters that end neither a word nor a line nor a quoted text. -/
abbrev Unbreaking (c : Char) : Prop := c ≠ ' ' ∧ c ≠ '\n' ∧ c ≠ '"'

/-- Whether a text is one word that needs no quotes. -/
structure IsWord (text : List Char) : Prop where
  nonempty : text ≠ []
  unbroken : ∀ c ∈ text, Unbreaking c

namespace IsWord

variable {front back : List Char}

theorem append (first : IsWord front) (second : ∀ c ∈ back, Unbreaking c) :
    IsWord (front ++ back) where
  nonempty := by simp [first.nonempty]
  unbroken c member := (List.mem_append.mp member).elim (first.unbroken c) (second c)

theorem of_all {text : List Char} (nonempty : text ≠ [])
    (unbroken : (text.all fun c => decide (Unbreaking c)) = true) : IsWord text where
  nonempty := nonempty
  unbroken := by simpa using unbroken

theorem cons {c : Char} (first : Unbreaking c)
    (others : ∀ d ∈ back, Unbreaking d) : IsWord (c :: back) where
  nonempty := List.cons_ne_nil _ _
  unbroken := List.forall_mem_cons.mpr ⟨first, others⟩

end IsWord

theorem isWord_toDigits (n : Nat) : IsWord (Nat.toDigits 10 n) where
  nonempty := Nat.toDigits_ne_nil
  unbroken c member := by
    have digit := Nat.isDigit_of_mem_toDigits (by decide) (by decide) member
    refine ⟨?_, ?_, ?_⟩ <;> rintro rfl <;> simp at digit

theorem isWord_toString_nat (n : Nat) : IsWord (toString n).toList := by
  simpa using isWord_toDigits n

theorem isWord_toString (n : Int) : IsWord (toString n).toList := by
  rw [Int.toString_eq_repr]
  cases n with
  | ofNat size => simpa [Int.repr] using isWord_toDigits size
  | negSucc size =>
    simpa [Int.repr] using IsWord.cons (c := '-') (by decide) (isWord_toDigits (size + 1)).unbroken

namespace Decimal

private theorem zeros_unbroken (count : Nat) :
    ∀ c ∈ List.replicate count '0', Unbreaking c := by
  intro c member
  rw [(List.mem_replicate.mp member).2]
  decide

theorem isWord_positional (number : Decimal) : IsWord number.positional.toList := by
  have digits := isWord_toDigits number.digits
  unfold positional digitText
  dsimp only
  split
  · simpa using digits.append (zeros_unbroken _)
  · split
    · -- The point stands between the digits, so that neither half need have any.
      refine ⟨by simp, fun c member => ?_⟩
      simp only [String.toList_ofList, List.mem_append, List.mem_cons] at member
      rcases member with before | rfl | behind
      · exact digits.unbroken c (List.mem_of_mem_take before)
      · decide
      · exact digits.unbroken c (List.mem_of_mem_drop behind)
    · have zero : IsWord ['0', '.'] := .of_all (by decide) (by decide)
      have all (count : Nat) := (zero.append (zeros_unbroken count)).append digits.unbroken
      simpa using all _

theorem isWord_leading (number : Decimal) : IsWord number.leading.1 := by
  have digits := isWord_toDigits number.digits
  unfold leading digitText
  dsimp only
  split
  · next first second rest same =>
    rw [same] at digits
    obtain ⟨one, others⟩ := List.forall_mem_cons.mp digits.unbroken
    exact .cons one (List.forall_mem_cons.mpr ⟨by decide, others⟩)
  · exact digits

theorem isWord_scientific (number : Decimal) : IsWord number.scientific.toList := by
  have point : IsWord ['e'] := .of_all (by decide) (by decide)
  have power := point.append (isWord_toString number.leading.2).unbroken
  have whole := (isWord_leading number).append power.unbroken
  simpa [scientific] using whole

end Decimal

theorem isWord_signed (negative : Bool) {text : String} (word : IsWord text.toList) :
    IsWord (signed negative text).toList := by
  cases negative with
  | false => exact word
  | true => simpa [signed] using IsWord.cons (c := '-') (by decide) word.unbroken

theorem isWord_writeFloat (tie : Tie) {write : Decimal → String}
    (words : ∀ number, IsWord (write number).toList) (x : Float) :
    IsWord (writeFloat tie write x).toList := by
  unfold writeFloat
  split
  · exact .of_all (by decide) (by decide)
  · exact isWord_signed _ (.of_all (by decide) (by decide))
  · exact isWord_signed _ (words _)

theorem isWord_valueText (x : Float) : IsWord (Exposition.valueText x).toList := by
  unfold Exposition.valueText
  split
  · exact .of_all (by decide) (by decide)
  · split <;> exact .of_all (by decide) (by decide)
  · dsimp only
    split
    · split
      · exact .of_all (by decide) (by decide)
      · exact isWord_writeFloat _ Decimal.isWord_positional x
    · split
      · exact isWord_writeFloat _ Decimal.isWord_scientific x
      · exact isWord_writeFloat _ Decimal.isWord_positional x

end BeanHarvest
