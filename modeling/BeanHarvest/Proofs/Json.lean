import BeanHarvest.Json.Draft
import BeanHarvest.Proofs.Keyed

namespace BeanHarvest.Json

/-- Whether the keys ascend in every object of a value. -/
inductive Ordered : Json → Prop where
  | null : Ordered .null
  | bool (value : Bool) : Ordered (.bool value)
  | number (value : Number) : Ordered (.number value)
  | string (value : String) : Ordered (.string value)
  | array {items : List Json} (each : ∀ item ∈ items, Ordered item) : Ordered (.array items)
  | object {fields : List (String × Json)} (ascending : Keyed.Ascending fields)
      (each : ∀ field ∈ fields, Ordered field.2) : Ordered (.object fields)

attribute [simp] Ordered.null Ordered.bool Ordered.number Ordered.string

@[simp] theorem ordered_object_iff {fields : List (String × Json)} :
    Ordered (.object fields) ↔ Keyed.Ascending fields ∧ ∀ field ∈ fields, Ordered field.2 := by
  constructor
  · intro ordered
    cases ordered with
    | object ascending each => exact ⟨ascending, each⟩
  · rintro ⟨ascending, each⟩
    exact .object ascending each

/-- What holds of the fields of an object whenever it holds of the fields of all objects among them, holds of
the fields of every ordered object. -/
@[elab_as_elim]
theorem Ordered.object_induction {motive : List (String × Json) → Prop}
    {fields : List (String × Json)} (ordered : Ordered (.object fields))
    (step : ∀ fields, Keyed.Ascending fields → (∀ field ∈ fields, Ordered field.2) →
      (∀ key inner, (key, .object inner) ∈ fields → motive inner) → motive fields) :
    motive fields := by
  generalize whole : Json.object fields = json at ordered
  induction ordered generalizing fields with
  | @object fields ascending each ih =>
    cases whole
    exact step fields ascending each fun key inner stands => ih _ stands rfl
  | _ => cases whole

/-- The value that is reached by some keys, one after another. -/
def at? (json : Json) : List String → Option Json
  | [] => some json
  | key :: rest =>
    match json with
    | .object fields => (lookup? fields key).bind (·.at? rest)
    | _ => none

@[simp] theorem at?_nil (json : Json) : json.at? [] = some json := rfl

theorem at?_cons (fields : List (String × Json)) (key : String) (rest : List String) :
    at? (.object fields) (key :: rest) = (lookup? fields key).bind (·.at? rest) := rfl

theorem fields_of_at?_cons {json value : Json} {key : String} {rest : List String}
    (found : json.at? (key :: rest) = some value) :
    ∃ fields inner, json = .object fields ∧ lookup? fields key = some inner ∧
      inner.at? rest = some value := by
  cases json with
  | object fields =>
    obtain ⟨inner, here, there⟩ := Option.bind_eq_some_iff.mp found
    exact ⟨fields, inner, rfl, here, there⟩
  | _ => cases found

theorem Ordered.at? {json value : Json} (ordered : json.Ordered) {path : List String}
    (found : json.at? path = some value) : value.Ordered := by
  induction path generalizing json with
  | nil =>
    cases found
    exact ordered
  | cons key rest ih =>
    obtain ⟨fields, inner, rfl, here, there⟩ := fields_of_at?_cons found
    have each := (ordered_object_iff.mp ordered).2
    exact ih (each _ (Keyed.mem_of_get? here)) there

namespace Draft

mutual

theorem toJson?_ordered {levels : Nat} {draft : Draft} {json : Json}
    (read : draft.toJson? levels = some json) : Ordered json := by
  cases draft with
  | null =>
    cases read
    exact .null
  | bool value =>
    cases read
    exact .bool value
  | number value =>
    obtain ⟨number, -, rfl⟩ := Option.map_eq_some_iff.mp read
    exact .number number
  | string value =>
    obtain ⟨text, -, rfl⟩ := Option.map_eq_some_iff.mp read
    exact .string text
  | array items =>
    unfold toJson? at read
    split at read
    · cases read
    · obtain ⟨inner, taken, rfl⟩ := Option.map_eq_some_iff.mp read
      exact .array (toItems?_ordered taken)
  | object fields =>
    unfold toJson? at read
    split at read
    · cases read
    · obtain ⟨inner, taken, rfl⟩ := Option.map_eq_some_iff.mp read
      refine .object (Keyed.ofList_ascending inner) ?_
      intro field member
      exact toFields?_ordered taken field (Keyed.mem_of_mem_ofList member)

theorem toItems?_ordered {levels : Nat} {drafts : List Draft} {items : List Json}
    (read : toItems? levels drafts = some items) : ∀ item ∈ items, Ordered item := by
  cases drafts with
  | nil =>
    cases read
    exact fun item member => nomatch member
  | cons draft rest =>
    unfold toItems? at read
    obtain ⟨first, here, read⟩ := Option.bind_eq_some_iff.mp read
    obtain ⟨others, there, read⟩ := Option.bind_eq_some_iff.mp read
    cases read
    intro item member
    rcases List.mem_cons.mp member with rfl | later
    · exact toJson?_ordered here
    · exact toItems?_ordered there item later

theorem toFields?_ordered {levels : Nat} {drafts : List (Option String × Draft)}
    {fields : List (String × Json)} (read : toFields? levels drafts = some fields) :
    ∀ field ∈ fields, Ordered field.2 := by
  cases drafts with
  | nil =>
    cases read
    exact fun field member => nomatch member
  | cons draft rest =>
    obtain ⟨key, draft⟩ := draft
    unfold toFields? at read
    obtain ⟨name, -, read⟩ := Option.bind_eq_some_iff.mp read
    obtain ⟨value, here, read⟩ := Option.bind_eq_some_iff.mp read
    obtain ⟨others, there, read⟩ := Option.bind_eq_some_iff.mp read
    cases read
    intro field member
    rcases List.mem_cons.mp member with rfl | later
    · exact toJson?_ordered here
    · exact toFields?_ordered there field later

end

end Draft

end BeanHarvest.Json
