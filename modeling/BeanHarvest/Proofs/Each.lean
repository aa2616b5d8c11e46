import Mathlib.Data.List.Forall2

/-! Reading every item of a list, where one item that cannot be read spoils the whole. -/
namespace BeanHarvest

variable {α β : Type} {read : α → Option β} {items : List α} {values : List β}

/-- All items are read as some values just if each is read as the value in its place. -/
theorem mapM_eq_some_iff : items.mapM read = some values ↔
    List.Forall₂ (fun item value => read item = some value) items values := by
  induction items generalizing values with
  | nil => simp [eq_comm]
  | cons item rest ih =>
    rw [List.mapM_cons]
    constructor
    · intro all
      obtain ⟨first, here, all⟩ := Option.bind_eq_some_iff.mp all
      obtain ⟨others, later, same⟩ := Option.bind_eq_some_iff.mp all
      cases same
      exact .cons here (ih.mp later)
    · rintro (_ | ⟨here, later⟩)
      simp [here, ih.mpr later]

theorem length_of_mapM (all : items.mapM read = some values) : values.length = items.length :=
  (mapM_eq_some_iff.mp all).length_eq.symm

theorem exists_mapM (all : ∀ item ∈ items, (read item).isSome) : ∃ values, items.mapM read = some values := by
  induction items with
  | nil => exact ⟨[], rfl⟩
  | cons item rest ih =>
    obtain ⟨first, others⟩ := List.forall_mem_cons.mp all
    obtain ⟨value, found⟩ := Option.isSome_iff_exists.mp first
    obtain ⟨values, more⟩ := ih others
    exact ⟨value :: values, by simp [List.mapM_cons, found, more]⟩

theorem mem_of_mapM (all : items.mapM read = some values) {item : α} (member : item ∈ items) :
    ∃ value ∈ values, read item = some value := by
  induction mapM_eq_some_iff.mp all with
  | nil => cases member
  | cons here later ih =>
    rcases List.mem_cons.mp member with rfl | behind
    · exact ⟨_, List.mem_cons_self, here⟩
    · obtain ⟨value, present, found⟩ := ih (mapM_eq_some_iff.mpr later) behind
      exact ⟨value, List.mem_cons_of_mem _ present, found⟩

/-- Where an item that cannot be read leaves a fault, all are read just if each is. -/
theorem mapM_eq_ok_iff {ε : Type} {read : α → Except ε β} : items.mapM read = .ok values ↔
    List.Forall₂ (fun item value => read item = .ok value) items values := by
  induction items generalizing values with
  | nil => simp [pure, Except.pure, eq_comm]
  | cons item rest ih =>
    rw [List.mapM_cons]
    constructor
    · intro all
      cases here : read item with
      | error fault => simp [here, bind, Except.bind] at all
      | ok first =>
        cases later : rest.mapM read with
        | error fault => simp [here, later, bind, Except.bind] at all
        | ok others =>
          simp only [here, later, bind, Except.bind, pure, Except.pure, Except.ok.injEq] at all
          exact all ▸ .cons here (ih.mp later)
    · rintro (_ | ⟨here, later⟩)
      simp [here, ih.mpr later, bind, Except.bind, pure, Except.pure]

theorem exists_of_forall₂ {meant : α → β → Prop} (all : List.Forall₂ meant items values) {value : β}
    (member : value ∈ values) : ∃ item ∈ items, meant item value := by
  induction all with
  | nil => cases member
  | cons here later ih =>
    rcases List.mem_cons.mp member with rfl | behind
    · exact ⟨_, List.mem_cons_self, here⟩
    · obtain ⟨item, present, meant⟩ := ih behind
      exact ⟨item, List.mem_cons_of_mem _ present, meant⟩

/-- What holds of the items that are in view holds place by place of those that have one. -/
theorem forall₂_of_filterMap {γ : Type} {view : α → Option γ} {seen : γ → β → Prop}
    {meant : α → β → Prop}
    (means : ∀ item ∈ items, ∀ one value, view item = some one → seen one value → meant item value)
    (all : List.Forall₂ seen (items.filterMap view) values) :
    List.Forall₂ meant (items.filter fun item => (view item).isSome) values := by
  induction items generalizing values with
  | nil => simpa using all
  | cons item rest ih =>
    have later := fun other member => means other (List.mem_cons_of_mem _ member)
    cases here : view item with
    | none =>
      rw [List.filterMap_cons_none here] at all
      simpa [here] using ih later all
    | some one =>
      rw [List.filterMap_cons_some here] at all
      obtain _ | ⟨first, others⟩ := all
      simpa [here] using
        List.Forall₂.cons (means item List.mem_cons_self _ _ here first) (ih later others)

end BeanHarvest
