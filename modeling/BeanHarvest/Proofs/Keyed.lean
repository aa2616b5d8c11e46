import BeanHarvest.Keyed
import Mathlib.Data.String.Basic

/-! What is found in keyed values after a change, and that the keys go on ascending. -/
namespace BeanHarvest.Keyed

variable {α : Type}

theorem get?_cons (key : String) (value : α) (entries : Keyed α) (sought : String) :
    get? ((key, value) :: entries) sought = if key = sought then some value else get? entries sought := by
  by_cases same : key = sought
  · simp [get?, same]
  · simp [get?, same]

theorem mem_of_get? {entries : Keyed α} {key : String} {value : α}
    (found : entries.get? key = some value) : (key, value) ∈ entries := by
  obtain ⟨entry, first, rfl⟩ := Option.map_eq_some_iff.mp found
  have same := List.find?_some first
  rw [decide_eq_true_iff] at same
  exact same ▸ List.mem_of_find?_eq_some first

/-- Under the key of an entry something is found, if only what stands there first. -/
theorem exists_get? {entries : Keyed α} {key : String} {value : α} (member : (key, value) ∈ entries) :
    ∃ found, entries.get? key = some found := by
  have known : (entries.find? (·.1 = key)).isSome = true :=
    List.find?_isSome.mpr ⟨_, member, decide_eq_true rfl⟩
  obtain ⟨entry, first⟩ := Option.isSome_iff_exists.mp known
  exact ⟨entry.2, Option.map_eq_some_iff.mpr ⟨entry, first, rfl⟩⟩

theorem get?_insert (entries : Keyed α) (key : String) (value : α) (sought : String) :
    (entries.insert key value).get? sought = if key = sought then some value else entries.get? sought := by
  induction entries with
  | nil => exact get?_cons key value [] sought
  | cons entry rest ih =>
    obtain ⟨other, kept⟩ := entry
    unfold Keyed.insert
    split
    · next same =>
      subst other
      by_cases found : key = sought
      · simp [get?_cons, found]
      · simp [get?_cons, found]
    · next differs =>
      split
      · exact get?_cons key value _ sought
      · rw [get?_cons, ih, get?_cons]
        by_cases found : key = sought
        · subst sought
          simp [Ne.symm differs]
        · simp [found]

/-- What is taken out by its key is not found any more; the rest is. -/
theorem get?_filter (entries : Keyed α) (keep : String → Bool) (sought : String) :
    get? (entries.filter fun entry => keep entry.1) sought =
      if keep sought then entries.get? sought else none := by
  induction entries with
  | nil => simp [get?]
  | cons entry rest ih =>
    obtain ⟨key, value⟩ := entry
    rw [List.filter_cons, get?_cons]
    by_cases same : key = sought
    · subst sought
      by_cases kept : keep key = true
      · simp [kept, get?_cons]
      · simpa [kept] using ih
    · by_cases kept : keep key = true
      · simp [kept, get?_cons, same, ih]
      · simpa [kept, same] using ih

/-- The keys ascend, so that none repeats. -/
def Ascending (entries : Keyed α) : Prop := entries.keys.Pairwise (· < ·)

instance (entries : Keyed α) : Decidable entries.Ascending :=
  inferInstanceAs (Decidable (List.Pairwise _ _))

theorem mem_of_mem_insert {entries : Keyed α} {key : String} {value : α} {entry : String × α}
    (member : entry ∈ entries.insert key value) : entry = (key, value) ∨ entry ∈ entries := by
  induction entries with
  | nil => exact .inl (List.mem_singleton.mp member)
  | cons first rest ih =>
    obtain ⟨other, kept⟩ := first
    unfold Keyed.insert at member
    split at member
    · rcases List.mem_cons.mp member with same | later
      · exact .inl same
      · exact .inr (List.mem_cons_of_mem _ later)
    · split at member
      · rcases List.mem_cons.mp member with same | later
        · exact .inl same
        · exact .inr later
      · rcases List.mem_cons.mp member with same | later
        · exact .inr (List.mem_cons.mpr (.inl same))
        · rcases ih later with same | member
          · exact .inl same
          · exact .inr (List.mem_cons_of_mem _ member)

theorem mem_keys_insert {entries : Keyed α} {key other : String} {value : α}
    (member : other ∈ (entries.insert key value).keys) : other = key ∨ other ∈ entries.keys := by
  obtain ⟨entry, found, rfl⟩ := List.mem_map.mp member
  rcases mem_of_mem_insert found with rfl | present
  · exact .inl rfl
  · exact .inr (List.mem_map_of_mem present)

theorem Ascending.insert {entries : Keyed α} (ascending : entries.Ascending) (key : String)
    (value : α) : (entries.insert key value).Ascending := by
  induction entries with
  | nil => exact List.pairwise_singleton _ _
  | cons entry rest ih =>
    obtain ⟨first, kept⟩ := entry
    obtain ⟨least, rest_ascending⟩ := List.pairwise_cons.mp ascending
    unfold Keyed.insert
    split
    · next same =>
      subst first
      exact ascending
    · next differs =>
      split
      · next before =>
        refine List.pairwise_cons.mpr ⟨?_, ascending⟩
        intro other member
        rcases List.mem_cons.mp member with same | later
        · exact same ▸ before
        · exact before.trans (least other later)
      · next notBefore =>
        refine List.pairwise_cons.mpr ⟨?_, ih rest_ascending⟩
        intro other member
        rcases mem_keys_insert member with same | later
        · subst other
          exact (lt_trichotomy key first).resolve_left notBefore |>.resolve_left differs
        · exact least other later

theorem Ascending.foldl_insert {entries : Keyed α} (ascending : entries.Ascending)
    (pairs : List (String × α)) : (pairs.foldl
      (fun entries pair => entries.insert pair.1 pair.2) entries).Ascending := by
  induction pairs generalizing entries with
  | nil => exact ascending
  | cons pair rest ih => exact ih (ascending.insert pair.1 pair.2)

theorem ofList_ascending (pairs : List (String × α)) : (ofList pairs).Ascending :=
  @Ascending.foldl_insert α [] List.Pairwise.nil pairs

/-- Of pairs that are put in one after the other, the last one under a key is found. -/
theorem get?_foldl_insert (pairs : List (String × α)) (entries : Keyed α) (sought : String) :
    (pairs.foldl (fun entries pair => entries.insert pair.1 pair.2) entries).get? sought =
      ((pairs.reverse.find? (·.1 = sought)).map (·.2)).or (entries.get? sought) := by
  induction pairs generalizing entries with
  | nil => rfl
  | cons pair rest ih =>
    rw [List.foldl_cons, ih, get?_insert, List.reverse_cons, List.find?_append]
    cases rest.reverse.find? (·.1 = sought) with
    | some found => rfl
    | none => by_cases here : pair.1 = sought <;> simp [here]

theorem mem_of_mem_ofList {pairs : List (String × α)} {entry : String × α}
    (member : entry ∈ ofList pairs) : entry ∈ pairs := by
  suffices from_any : ∀ entries : Keyed α, entry ∈ pairs.foldl
      (fun entries pair => entries.insert pair.1 pair.2) entries → entry ∈ pairs ∨ entry ∈ entries
    from (from_any [] member).resolve_right (List.not_mem_nil)
  clear member
  induction pairs with
  | nil => exact fun entries member => .inr member
  | cons pair rest ih =>
    intro entries member
    rcases ih _ member with later | inserted
    · exact .inl (List.mem_cons_of_mem _ later)
    · rcases mem_of_mem_insert inserted with same | before
      · exact .inl (List.mem_cons.mpr (.inl same))
      · exact .inr before

theorem Ascending.filter {entries : Keyed α} (ascending : entries.Ascending)
    (keep : String × α → Bool) : Keyed.Ascending (entries.filter keep) :=
  List.Pairwise.sublist (List.filter_sublist.map _) ascending

theorem Ascending.map {β : Type} {entries : Keyed α} (ascending : entries.Ascending) (f : α → β) :
    Keyed.Ascending (entries.map fun (key, value) => (key, f value)) := by
  rw [Ascending, keys, List.map_map]
  exact ascending

theorem Ascending.nodup {entries : Keyed α} (ascending : entries.Ascending) :
    entries.keys.Nodup := ascending.imp fun before => before.ne

/-- Where no key repeats, what is found under a key is what stands there. -/
theorem find?_key_iff {β κ : Type} [DecidableEq κ] (key : β → κ) {items : List β}
    (nodup : (items.map key).Nodup) {sought : κ} {item : β} :
    items.find? (key · = sought) = some item ↔ item ∈ items ∧ key item = sought := by
  induction items with
  | nil => simp
  | cons first rest ih =>
    obtain ⟨alone, nodup⟩ := List.nodup_cons.mp nodup
    by_cases here : key first = sought
    · simp only [List.find?_cons, here, decide_true, Option.some.injEq, List.mem_cons]
      constructor
      · rintro rfl
        exact ⟨.inl rfl, here⟩
      · rintro ⟨rfl | later, same⟩
        · rfl
        · exact absurd (here.trans same.symm ▸ List.mem_map_of_mem later) alone
    · simp only [List.find?_cons, here, decide_false, ih nodup, List.mem_cons]
      refine ⟨fun found => ⟨.inr found.1, found.2⟩, ?_⟩
      rintro ⟨rfl | later, same⟩
      · exact absurd same here
      · exact ⟨later, same⟩

theorem get?_eq_some_iff {entries : Keyed α} (nodup : entries.keys.Nodup) {key : String} {value : α} :
    entries.get? key = some value ↔ (key, value) ∈ entries := by
  refine ⟨mem_of_get?, fun member => ?_⟩
  have found := (find?_key_iff Prod.fst nodup).mpr ⟨member, rfl⟩
  exact Option.map_eq_some_iff.mpr ⟨_, found, rfl⟩

theorem Ascending.get?_eq_some_iff {entries : Keyed α} (ascending : entries.Ascending) {key : String}
    {value : α} : entries.get? key = some value ↔ (key, value) ∈ entries :=
  Keyed.get?_eq_some_iff ascending.nodup

end BeanHarvest.Keyed
