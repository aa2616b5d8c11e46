import BeanHarvest.Jolokia.Client
import BeanHarvest.Proofs.Json

/-! The rows of a table that came as nested objects. There is one for every way by keys down to the first
object that holds anything but objects, and they stand in the order of their keys. -/
namespace BeanHarvest

namespace Jolokia

variable {fields : List (String × Json.Draft)} {text name : String} {response : Response}
  {client : Client} {bean : Bean}

theorem Response.ordered_of_ofFields? (read : ofFields? fields = some response) :
    response.value.Ordered := by
  obtain ⟨value, taken, read⟩ := Option.bind_eq_some_iff.mp read
  obtain ⟨_, -, read⟩ := Option.bind_eq_some_iff.mp read
  obtain ⟨_, -, read⟩ := Option.bind_eq_some_iff.mp read
  obtain ⟨_, -, read⟩ := Option.bind_eq_some_iff.mp read
  cases read
  unfold optionalValue? at taken
  split at taken
  · cases taken
    exact .null
  · exact Json.Draft.toJson?_ordered taken

theorem Response.ordered_of_parse? (read : parse? text = some response) : response.value.Ordered := by
  obtain ⟨draft, -, read⟩ := Option.bind_eq_some_iff.mp read
  split at read
  · obtain ⟨fields, -, read⟩ := Option.bind_eq_some_iff.mp read
    split at read
    · cases read
    · exact ordered_of_ofFields? read
  · split at read
    · cases read
    · exact ordered_of_ofFields? read
  · cases read

/-- The value in a response is ordered, however the fields stand in the text. -/
theorem Client.ordered_of_responseOf {delivery : Delivery}
    (given : client.responseOf delivery = .ok response) : response.value.Ordered := by
  simp only [responseOf] at given
  split at given
  · cases given
  · cases given
  · split at given
    · cases given
    · split at given
      · cases given
      · split at given
        · rename_i parsed
          cases given
          exact Response.ordered_of_parse? parsed
        · cases given

theorem Response.eq_of_outcome {json : Json} {asked : Option String}
    (given : response.outcome text asked = .ok json) : response.value = json := by
  unfold outcome at given
  dsimp only at given
  split at given
  · exact Except.ok.inj given
  · split at given
    · cases given
    · split at given
      · cases given
      · split at given <;> cases given

theorem Exchange.run_map {α β : Type} (change : α → β) (exchange : Exchange α)
    (deliver : Request → Delivery) : (exchange.map change).run deliver = change (exchange.run deliver) := by
  cases exchange <;> rfl

theorem Client.ordered_of_send {deliver : Request → Delivery} {request : Request}
    (given : (client.send request).run deliver = .ok response) : response.value.Ordered := by
  unfold send at given
  split at given
  · cases given
  · exact client.ordered_of_responseOf given

/-- What a client reads is made of an ordered value, and a table if it is known to be one. -/
theorem Client.read_decodes {deliver : Request → Delivery} {value : LiveValue}
    (taken : (client.read bean name).run deliver = .ok value) : ∃ json : Json, json.Ordered ∧
      value = if client.knownKind? bean name = some .tabular then LiveValue.tableOfJson json
        else LiveValue.ofJson json := by
  simp only [Client.read, Exchange.run_map] at taken
  cases given : (client.send (.read bean.name name)).run deliver with
  | error fault => simp [given, bind, Except.bind] at taken
  | ok response =>
    cases told : response.outcome bean.name (some name) with
    | error fault => simp [given, told, bind, Except.bind] at taken
    | ok json =>
      have ordered := client.ordered_of_send given
      rw [response.eq_of_outcome told] at ordered
      simp only [given, told, bind, Except.bind] at taken
      refine ⟨json, ordered, ?_⟩
      split at taken <;> rename_i known
      · rw [if_pos known]
        exact (Except.ok.inj taken).symm
      · rw [if_neg known]
        exact (Except.ok.inj taken).symm

end Jolokia

namespace Table

variable {fields columns : List (String × Json)} {json : Json} {key path rest : List String}
  {segment : String} {row : Row LiveValue}

theorem ofFields_eq_map (fields : List (String × Json)) :
    LiveValue.ofFields fields = fields.map fun (name, value) => (name, LiveValue.ofJson value) := by
  induction fields with
  | nil => rfl
  | cons field rest ih =>
    obtain ⟨name, value⟩ := field
    rw [LiveValue.ofFields, ih, List.map_cons]

theorem isRow_iff : isRow fields = true ↔ ∃ field ∈ fields, field.2.isObject = false := by
  simp [isRow]

theorem isRow_eq_false_iff : isRow fields = false ↔ ∀ field ∈ fields, field.2.isObject = true := by
  simp [isRow]

/-- Whether an object has fields, and all of them are single values. -/
def HoldsScalars (fields : List (String × Json)) : Prop :=
  fields ≠ [] ∧ ∀ field ∈ fields, field.2.isObject = false ∧ field.2.isArray = false

theorem isFlat_iff : isFlat fields = true ↔ HoldsScalars fields := by
  simp [isFlat, HoldsScalars]

/-- Whether a way by keys leads from an object to one that is a row, past objects that hold only objects.
The object at the start may hold anything. -/
structure LeadsToRow (fields : List (String × Json)) (path : List String)
    (columns : List (String × Json)) : Prop where
  nonempty : path ≠ []
  reaches : Json.at? (.object fields) path = some (.object columns)
  row : ∃ column ∈ columns, column.2.isObject = false
  past : ∀ before, before ≠ [] → before <+: path → before ≠ path →
    ∃ inner, Json.at? (.object fields) before = some (.object inner) ∧
      ∀ field ∈ inner, field.2.isObject = true

/-- A way to a row ends with its first key, or goes on from an object that is no row. -/
theorem leadsToRow_cons_iff :
    LeadsToRow fields (segment :: rest) columns ↔
      ∃ inner, lookup? fields segment = some (.object inner) ∧
        (isRow inner = true ∧ rest = [] ∧ columns = inner ∨
          isRow inner = false ∧ LeadsToRow inner rest columns) := by
  constructor
  · rintro ⟨-, reaches, row, past⟩
    cases rest with
    | nil =>
      refine ⟨columns, ?_, .inl ⟨isRow_iff.mpr row, rfl, rfl⟩⟩
      simpa [Json.at?_cons] using reaches
    | cons next later =>
      obtain ⟨inner, found, objects⟩ := past [segment] (by simp) (by simp) (by simp)
      have here : lookup? fields segment = some (.object inner) := by
        simpa [Json.at?_cons] using found
      refine ⟨inner, here, .inr ⟨isRow_eq_false_iff.mpr objects, by simp, ?_, row, ?_⟩⟩
      · simpa [Json.at?_cons, here] using reaches
      · intro before some_keys starts proper
        have longer := past (segment :: before) (by simp)
          (List.cons_prefix_cons.mpr ⟨rfl, starts⟩) (by simpa using proper)
        simpa [Json.at?_cons, here] using longer
  · rintro ⟨inner, here, ⟨ends, rfl, rfl⟩ | ⟨goes_on, leads⟩⟩
    · refine ⟨by simp, by simp [Json.at?_cons, here], isRow_iff.mp ends, ?_⟩
      intro before some_keys starts proper
      have whole : before = [segment] :=
        (List.prefix_cons_iff.mp starts).elim (absurd · some_keys)
          fun ⟨after, split, nothing⟩ => by rw [split, List.prefix_nil.mp nothing]
      exact absurd whole proper
    · refine ⟨by simp, by simpa [Json.at?_cons, here] using leads.reaches, leads.row, ?_⟩
      intro before some_keys starts proper
      obtain ⟨after, rfl, within⟩ := (List.prefix_cons_iff.mp starts).resolve_left some_keys
      -- The object behind the first key is no row; those further on are on the way from it.
      by_cases first : after = []
      · subst after
        exact ⟨inner, by simp [Json.at?_cons, here], isRow_eq_false_iff.mp goes_on⟩
      · have further := leads.past after first within (by simpa using proper)
        simpa [Json.at?_cons, here] using further

theorem rowsBelow_eq_flatMap (key : List String) (fields : List (String × Json)) :
    rowsBelow key fields = fields.flatMap fun field => rowsAt (key ++ [field.1]) field.2 := by
  induction fields with
  | nil => rfl
  | cons field rest ih =>
    obtain ⟨segment, value⟩ := field
    rw [rowsBelow, ih, List.flatMap_cons]

theorem mem_rowsAt :
    row ∈ rowsAt key json ↔ ∃ inner, json = .object inner ∧
      (isRow inner = true ∧ row = ⟨key, LiveValue.ofFields inner⟩ ∨
        isRow inner = false ∧ row ∈ rowsBelow key inner) := by
  cases json with
  | object inner =>
    cases is_row : isRow inner with
    | true => simp [rowsAt, is_row]
    | false => simp [rowsAt, is_row]
  | _ => simp [rowsAt]

/-- There is a row for every way to one, and for nothing else. -/
theorem mem_rowsBelow (ordered : (Json.object fields).Ordered) (key : List String) :
    row ∈ rowsBelow key fields ↔ ∃ path columns, LeadsToRow fields path columns ∧
      row = ⟨key ++ path, LiveValue.ofFields columns⟩ := by
  revert key
  refine ordered.object_induction ?_
  intro fields ascending each ih key
  rw [rowsBelow_eq_flatMap, List.mem_flatMap]
  constructor
  · rintro ⟨⟨segment, value⟩, stands, member⟩
    obtain ⟨inner, rfl, how⟩ := mem_rowsAt.mp member
    have found : lookup? fields segment = some (.object inner) :=
      ascending.get?_eq_some_iff.mpr stands
    rcases how with ⟨ends, rfl⟩ | ⟨goes_on, below⟩
    · exact ⟨[segment], inner, leadsToRow_cons_iff.mpr ⟨inner, found, .inl ⟨ends, rfl, rfl⟩⟩, rfl⟩
    · obtain ⟨path, columns, leads, rfl⟩ := (ih segment inner stands _).mp below
      refine ⟨segment :: path, columns, ?_, by simp⟩
      exact leadsToRow_cons_iff.mpr ⟨inner, found, .inr ⟨goes_on, leads⟩⟩
  · rintro ⟨path, columns, leads, rfl⟩
    obtain ⟨segment, rest, rfl⟩ := List.exists_cons_of_ne_nil leads.nonempty
    obtain ⟨inner, found, how⟩ := leadsToRow_cons_iff.mp leads
    have stands : (segment, Json.object inner) ∈ fields := Keyed.mem_of_get? found
    refine ⟨_, stands, mem_rowsAt.mpr ⟨inner, rfl, ?_⟩⟩
    rcases how with ⟨ends, rfl, rfl⟩ | ⟨goes_on, leads⟩
    · exact .inl ⟨ends, rfl⟩
    · exact .inr ⟨goes_on, (ih segment inner stands _).mpr ⟨rest, columns, leads, by simp⟩⟩

/-- The keys on the way to a value stay in front in the rows of the value. -/
theorem key_of_mem_rowsAt (ordered : json.Ordered) (member : row ∈ rowsAt key json) :
    ∃ path, row.key = key ++ path := by
  obtain ⟨inner, rfl, ⟨-, rfl⟩ | ⟨-, below⟩⟩ := mem_rowsAt.mp member
  · exact ⟨[], (List.append_nil key).symm⟩
  · obtain ⟨path, columns, -, rfl⟩ := (mem_rowsBelow ordered key).mp below
    exact ⟨path, rfl⟩

theorem rowsBelow_ascending (ordered : (Json.object fields).Ordered) (key : List String) :
    (rowsBelow key fields).Pairwise (·.key < ·.key) := by
  revert key
  refine ordered.object_induction ?_
  intro fields ascending each ih key
  rw [rowsBelow_eq_flatMap, List.pairwise_flatMap]
  constructor
  · rintro ⟨segment, value⟩ stands
    cases value with
    | object inner =>
      rw [rowsAt]
      split
      · exact List.pairwise_singleton _ _
      · exact ih segment inner stands (key ++ [segment])
    | _ => exact List.Pairwise.nil
  -- The keys of rows below two fields part at the keys of the fields.
  · refine (List.pairwise_map.mp ascending).imp_of_mem ?_
    intro first second first_stands second_stands before row member other other_member
    obtain ⟨path, same⟩ := key_of_mem_rowsAt (each _ first_stands) member
    obtain ⟨other_path, other_same⟩ := key_of_mem_rowsAt (each _ second_stands) other_member
    rw [same, other_same, List.append_assoc, List.append_assoc]
    exact List.append_left_lt (List.cons_lt_cons_iff.mpr (.inl before))

/-- An object that was declared as a table becomes one, without a row too many or too few. Fields that are
all single values make a row each. Otherwise the rows are those that some way by keys leads to, each once,
in the order of their keys and with the fields that are there. Objects that come from a target are ordered,
by `Jolokia.Client.read_decodes`. -/
theorem tableOfJson_rows (ordered : (Json.object fields).Ordered) :
    ∃ table, LiveValue.tableOfJson (.object fields) = .tabular table ∧
      (HoldsScalars fields → table.rows = fields.map fun (name, value) =>
        ⟨[name], [("key", .string name), ("value", LiveValue.ofJson value)]⟩) ∧
      (¬ HoldsScalars fields →
        (∀ row, row ∈ table.rows ↔ ∃ columns, LeadsToRow fields row.key columns ∧
          row.values = columns.map fun (name, value) => (name, LiveValue.ofJson value)) ∧
        table.rows.Pairwise (·.key < ·.key)) := by
  refine ⟨ofFields fields, rfl, ?_, ?_⟩
  · intro flat
    rw [ofFields, if_pos (isFlat_iff.mpr flat)]
    rfl
  · intro not_flat
    have nested : (ofFields fields).rows = rowsBelow [] fields := by
      rw [ofFields, if_neg (not_flat ∘ isFlat_iff.mp)]
      rfl
    rw [nested]
    refine ⟨fun row => ?_, rowsBelow_ascending ordered []⟩
    rw [mem_rowsBelow ordered]
    constructor
    · rintro ⟨path, columns, leads, rfl⟩
      exact ⟨columns, leads, ofFields_eq_map columns⟩
    · rintro ⟨columns, leads, same⟩
      refine ⟨row.key, columns, leads, ?_⟩
      rw [ofFields_eq_map, ← same, List.nil_append]

/-- Memory pools in two groups, one of them empty, beside a field that leads nowhere. -/
def pools : List (String × Json) :=
  [("heap", .object [("eden", .object [("used", .whole 7)]), ("old", .object [("used", .null)])]),
    ("other", .object []), ("verbose", .bool true)]

theorem pools_ordered : (Json.object pools).Ordered := by
  simp +decide [pools, Json.whole]

theorem tableOfJson_rows_pools :
    (Json.object pools).Ordered ∧ ∃ table, LiveValue.tableOfJson (.object pools) = .tabular table ∧
      ⟨["heap", "eden"], [("used", .integer 7)]⟩ ∈ table.rows := by
  refine ⟨pools_ordered, ?_⟩
  obtain ⟨table, same, -, nested⟩ := tableOfJson_rows pools_ordered
  have not_flat : ¬ HoldsScalars pools := isFlat_iff.not.mp (by decide)
  refine ⟨table, same, ((nested not_flat).1 _).mpr ⟨[("used", .whole 7)], ?_, rfl⟩⟩
  refine leadsToRow_cons_iff.mpr ⟨_, rfl, .inr ⟨rfl, ?_⟩⟩
  exact leadsToRow_cons_iff.mpr ⟨_, rfl, .inl ⟨rfl, rfl, rfl⟩⟩

end Table
end BeanHarvest
