import BeanHarvest.Text.Cut
import Mathlib.Data.List.Basic
import Mathlib.Data.List.TakeWhile

namespace BeanHarvest.Text

variable {text : List Char}

/-- Trimming takes blanks off the two ends, and nothing else. -/
theorem exists_trim (text : List Char) : ∃ before after, (∀ c ∈ before ++ after, isBlank c = true) ∧
    text = before ++ trim text ++ after := by
  refine ⟨text.takeWhile isBlank,
    ((text.dropWhile isBlank).reverse.takeWhile isBlank).reverse, ?_, ?_⟩
  · intro c member
    rcases List.mem_append.mp member with front | back
    · exact List.mem_takeWhile_imp front
    · exact List.mem_takeWhile_imp (List.mem_reverse.mp back)
  · rw [List.append_assoc, trim, ← List.reverse_append, List.takeWhile_append_dropWhile,
      List.reverse_reverse, List.takeWhile_append_dropWhile]

theorem dropWhile_of_head (first : ∀ c, text.head? = some c → isBlank c = false) :
    text.dropWhile isBlank = text := by
  cases text with
  | nil => rfl
  | cons c rest => simp [first c rfl]

/-- A text without blanks at its ends is left as it is. -/
theorem trim_of_ends (first : ∀ c, text.head? = some c → isBlank c = false)
    (last : ∀ c, text.getLast? = some c → isBlank c = false) : trim text = text := by
  rw [trim, dropWhile_of_head first, dropWhile_of_head (by simpa using last), List.reverse_reverse]

theorem cut?_append {sep : Char → Bool} {before : List Char} (plain : ∀ c ∈ before, sep c = false)
    {c : Char} (here : sep c = true) (after : List Char) :
    cut? sep (before ++ c :: after) = some (before, after) := by
  induction before with
  | nil => simp [cut?, here]
  | cons d rest ih =>
    obtain ⟨first, plain⟩ := List.forall_mem_cons.mp plain
    simp [cut?, first, ih plain]

/-- A cut drops the separator it was made at, the first one, and nothing else. -/
theorem cut?_inv {sep : Char → Bool} {before after : List Char}
    (cut : cut? sep text = some (before, after)) :
    ∃ c, sep c = true ∧ text = before ++ c :: after := by
  induction text generalizing before with
  | nil => simp [cut?] at cut
  | cons c rest ih =>
    unfold cut? at cut
    split at cut
    · next here =>
      cases cut
      exact ⟨c, here, rfl⟩
    · obtain ⟨⟨front, back⟩, found, same⟩ := Option.map_eq_some_iff.mp cut
      cases same
      obtain ⟨d, here, rfl⟩ := ih found
      exact ⟨d, here, rfl⟩

/-- There is no separator before the one at which a text is cut. -/
theorem cut?_before {sep : Char → Bool} {before after : List Char}
    (cut : cut? sep text = some (before, after)) : ∀ c ∈ before, sep c = false := by
  induction text generalizing before with
  | nil => simp [cut?] at cut
  | cons c rest ih =>
    unfold cut? at cut
    split at cut
    · cases cut
      exact fun _ member => absurd member List.not_mem_nil
    · next plain =>
      obtain ⟨⟨front, back⟩, found, same⟩ := Option.map_eq_some_iff.mp cut
      cases same
      exact List.forall_mem_cons.mpr ⟨Bool.eq_false_iff.mpr plain, ih found⟩

theorem pieces_of_forall {sep : Char → Bool} (whole : ∀ c ∈ text, sep c = false) :
    pieces sep text = [text] := by
  induction text with
  | nil => rfl
  | cons c rest ih =>
    obtain ⟨first, whole⟩ := List.forall_mem_cons.mp whole
    simp [pieces, first, ih whole]

theorem pieces_append {sep : Char → Bool} {before : List Char} (whole : ∀ c ∈ before, sep c = false)
    {c : Char} (here : sep c = true) (after : List Char) :
    pieces sep (before ++ c :: after) = before :: pieces sep after := by
  induction before with
  | nil => simp [pieces, here]
  | cons d rest ih =>
    obtain ⟨first, whole⟩ := List.forall_mem_cons.mp whole
    simp [pieces, first, ih whole]

theorem afterPrefix?_append (word rest : List Char) : afterPrefix? word (word ++ rest) = some rest := by
  induction word with
  | nil => rfl
  | cons c others ih => simp [afterPrefix?, ih]

/-- What stands in joined parts comes from a separator or from a part. -/
theorem mem_of_mem_intercalate {α : Type} {sep : List α} {parts : List (List α)} {one : α}
    (member : one ∈ sep.intercalate parts) : one ∈ sep ∨ ∃ part ∈ parts, one ∈ part := by
  induction parts with
  | nil => simp at member
  | cons first others ih =>
    cases others with
    | nil => exact .inr ⟨first, by simp, by simpa using member⟩
    | cons second others =>
      rw [List.intercalate_cons_cons, List.append_assoc, List.mem_append, List.mem_append] at member
      rcases member with here | between | later
      · exact .inr ⟨first, List.mem_cons_self, here⟩
      · exact .inl between
      · exact (ih later).imp_right fun ⟨part, present, inside⟩ =>
          ⟨part, List.mem_cons_of_mem _ present, inside⟩

/-- Texts without commas are settled by what they are with commas between them. -/
theorem intercalate_comma_inj {texts others : List String} (nonempty : texts ≠ [])
    (nonempty₂ : others ≠ []) (plain : ∀ text ∈ texts, ',' ∉ text.toList)
    (plain₂ : ∀ text ∈ others, ',' ∉ text.toList)
    (same : (",".intercalate texts).toList = (",".intercalate others).toList) : texts = others := by
  have split : ∀ list : List String, list ≠ [] → (∀ text ∈ list, ',' ∉ text.toList) →
      (",".intercalate list).toList.splitOn ',' = list.map String.toList := by
    intro list nonempty free
    rw [String.toList_intercalate]
    refine List.splitOn_intercalate ',' (fun part among => ?_) (by simpa using nonempty)
    obtain ⟨text, listed, rfl⟩ := List.mem_map.mp among
    exact free text listed
  have parts : texts.map String.toList = others.map String.toList := by
    rw [← split texts nonempty plain, same, split others nonempty₂ plain₂]
  exact List.map_injective_iff.mpr (fun _ _ => String.toList_inj.mp) parts

end BeanHarvest.Text
