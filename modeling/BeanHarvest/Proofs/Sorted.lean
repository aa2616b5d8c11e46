import BeanHarvest.Live.Table
import Mathlib.Data.List.Sort
import Mathlib.Data.String.Basic

/-! Lists that are sorted by a key and have each key once. They are settled by their members. -/
namespace BeanHarvest

variable {α : Type}

theorem eraseRepsBy_loop (same : α → α → Bool) (first : α) (list seen : List α) :
    List.eraseRepsBy.loop same first list seen =
      seen.reverse ++ (first :: list).eraseRepsBy same := by
  unfold List.eraseRepsBy
  induction list generalizing first seen with
  | nil => simp [List.eraseRepsBy.loop]
  | cons next rest ih =>
    simp only [List.eraseRepsBy.loop]
    split
    · exact ih first seen
    · rw [ih next (first :: seen), ih next [first]]
      simp

theorem eraseRepsBy_cons_cons (same : α → α → Bool) (first next : α) (list : List α) :
    (first :: next :: list).eraseRepsBy same =
      if same first next then (first :: list).eraseRepsBy same
      else first :: (next :: list).eraseRepsBy same := by
  have unfolded : (first :: next :: list).eraseRepsBy same =
      List.eraseRepsBy.loop same first (next :: list) [] := rfl
  rw [unfolded, List.eraseRepsBy.loop]
  split
  · next repeats => rw [if_pos repeats, eraseRepsBy_loop, List.reverse_nil, List.nil_append]
  · next differs =>
    rw [if_neg (by simp [differs]), eraseRepsBy_loop, List.reverse_singleton, List.singleton_append]

/-- A list without the values that have the key of the value in front of them. -/
def withoutRepeats (key : α → String) (list : List α) : List α :=
  list.eraseRepsBy fun a b => key a == key b

section
variable {key : α → String} {list : List α}

theorem withoutRepeats_cons_cons (key : α → String) (first next : α) (list : List α) :
    withoutRepeats key (first :: next :: list) =
      if key first = key next then withoutRepeats key (first :: list)
      else first :: withoutRepeats key (next :: list) := by
  unfold withoutRepeats
  rw [eraseRepsBy_cons_cons]
  simp only [beq_iff_eq]

theorem withoutRepeats_sublist (key : α → String) (list : List α) :
    (withoutRepeats key list).Sublist list := by
  cases list with
  | nil => exact List.Sublist.refl _
  | cons first list =>
    induction list generalizing first with
    | nil => exact List.Sublist.refl _
    | cons next rest ih =>
      rw [withoutRepeats_cons_cons]
      split
      · exact (ih first).trans ((List.sublist_cons_self next rest).cons_cons first)
      · exact (ih next).cons_cons first

theorem head_mem_withoutRepeats (key : α → String) (first : α) (list : List α) :
    first ∈ withoutRepeats key (first :: list) := by
  induction list with
  | nil => exact List.mem_cons_self
  | cons next rest ih =>
    rw [withoutRepeats_cons_cons]
    split
    · exact ih
    · exact List.mem_cons_self

theorem key_mem_withoutRepeats {value : α} (member : value ∈ list) :
    ∃ kept ∈ withoutRepeats key list, key kept = key value := by
  cases list with
  | nil => cases member
  | cons first list =>
    induction list generalizing first with
    | nil => exact ⟨value, member, rfl⟩
    | cons next rest ih =>
      rw [withoutRepeats_cons_cons]
      split
      · next repeats =>
        rcases List.mem_cons.mp member with rfl | later
        · exact ⟨value, head_mem_withoutRepeats key value rest, rfl⟩
        rcases List.mem_cons.mp later with rfl | last
        · exact ⟨first, head_mem_withoutRepeats key first rest, repeats⟩
        · exact ih first (List.mem_cons_of_mem first last)
      · rcases List.mem_cons.mp member with rfl | later
        · exact ⟨value, List.mem_cons_self, rfl⟩
        · obtain ⟨kept, present, same⟩ := ih next later
          exact ⟨kept, List.mem_cons_of_mem first present, same⟩

/-- What ascends has each key once when the repetitions are taken out. -/
theorem withoutRepeats_ascending (sorted : list.Pairwise fun a b => key a ≤ key b) :
    (withoutRepeats key list).Pairwise fun a b => key a < key b := by
  cases list with
  | nil => exact List.Pairwise.nil
  | cons first list =>
    induction list generalizing first with
    | nil => exact List.pairwise_singleton _ _
    | cons next rest ih =>
      obtain ⟨least, others⟩ := List.pairwise_cons.mp sorted
      rw [withoutRepeats_cons_cons]
      split
      · have fewer : (first :: rest).Sublist (first :: next :: rest) :=
          (List.sublist_cons_self next rest).cons_cons first
        exact ih first (sorted.sublist fewer)
      · next differs =>
        refine List.pairwise_cons.mpr ⟨fun value member => ?_, ih next others⟩
        have below : key first < key next :=
          lt_of_le_of_ne (least next List.mem_cons_self) differs
        rcases List.mem_cons.mp ((withoutRepeats_sublist key _).subset member) with rfl | later
        · exact below
        · exact lt_of_lt_of_le below ((List.pairwise_cons.mp others).1 value later)

/-- Lists in which the keys ascend are alike if they have the same members. -/
theorem eq_of_ascending {other : List α} (sorted : list.Pairwise fun a b => key a < key b)
    (sorted₂ : other.Pairwise fun a b => key a < key b)
    (alike : ∀ value, value ∈ list ↔ value ∈ other) : list = other := by
  have irreflexive : Std.Irrefl fun a b : α => key a < key b := ⟨fun _ => lt_irrefl _⟩
  have antisymmetric : Std.Antisymm fun a b : α => key a < key b :=
    ⟨fun _ _ below above => absurd (lt_trans below above) (lt_irrefl _)⟩
  exact sorted.eq_of_mem_iff sorted₂ alike

end

theorem mergeSort_ascending (key : α → String) (list : List α) :
    (list.mergeSort fun a b => key a ≤ key b).Pairwise fun a b => key a ≤ key b := by
  have transitive : ∀ a b c : α, decide (key a ≤ key b) = true → decide (key b ≤ key c) = true →
      decide (key a ≤ key c) = true := by
    intro a b c below above
    exact decide_eq_true (le_trans (of_decide_eq_true below) (of_decide_eq_true above))
  have total : ∀ a b : α, (decide (key a ≤ key b) || decide (key b ≤ key a)) = true := by
    intro a b
    simpa using le_total (key a) (key b)
  exact (List.pairwise_mergeSort transitive total list).imp of_decide_eq_true

theorem mem_sortedSet {text : String} {texts : List String} :
    text ∈ sortedSet texts ↔ text ∈ texts := by
  have unfolded : sortedSet texts = withoutRepeats id (texts.mergeSort fun a b => a ≤ b) := rfl
  rw [unfolded]
  constructor
  · intro member
    exact List.mem_mergeSort.mp ((withoutRepeats_sublist id _).subset member)
  · intro member
    have sorted : text ∈ texts.mergeSort fun a b => a ≤ b := List.mem_mergeSort.mpr member
    obtain ⟨kept, present, same⟩ : ∃ kept ∈ withoutRepeats id _, kept = text :=
      key_mem_withoutRepeats sorted
    exact same ▸ present

theorem sortedSet_ascending (texts : List String) : (sortedSet texts).Pairwise (· < ·) := by
  have ascending : (sortedSet texts).Pairwise fun a b => id a < id b :=
    withoutRepeats_ascending (mergeSort_ascending id texts)
  exact ascending

/-- Texts that ascend are the set of any texts among which are the same. -/
theorem sortedSet_eq_of_ascending {texts others : List String} (sorted : texts.Pairwise (· < ·))
    (alike : ∀ text, text ∈ others ↔ text ∈ texts) : sortedSet others = texts := by
  have ascending : (sortedSet others).Pairwise fun a b => id a < id b := sortedSet_ascending others
  exact eq_of_ascending ascending sorted fun text => mem_sortedSet.trans (alike text)

/-- Texts that ascend stay as they are. -/
theorem sortedSet_of_ascending {texts : List String} (sorted : texts.Pairwise (· < ·)) :
    sortedSet texts = texts := sortedSet_eq_of_ascending sorted fun _ => Iff.rfl

end BeanHarvest
