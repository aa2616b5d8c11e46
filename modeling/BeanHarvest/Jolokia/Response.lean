import BeanHarvest.Fault.Basic
import BeanHarvest.Json.Draft

/-! Responses of the Jolokia protocol. A response is an object, or a list of the same fields in a
fixed order; what else an object holds is of no concern. -/
namespace BeanHarvest.Jolokia

/-- A response. A value that is missing is null. -/
structure Response where
  value : Json
  status : Nat
  error : Option String
  errorType : Option String

namespace Response

open Json (Draft)

def fieldNames : List String := ["value", "status", "error", "error_type"]

/-- The levels of nesting that a value may have inside a response. -/
def valueLevels : Nat := Draft.maxLevels - 1

def status? : Draft → Option Nat
  | .number (some (.whole value)) =>
    if 0 ≤ value && value < Nat.pow 2 16 then some value.toNat else none
  | _ => none

def optionalText? : Option Draft → Option (Option String)
  | none | some .null => some none
  | some (.string text) => text.map some
  | some _ => none

/-- Read a value that may be missing. -/
def optionalValue? : Option Draft → Option Json
  | none => some .null
  | some draft => draft.toJson? valueLevels

/-- Read the fields of a response. The status is not optional. -/
def ofFields? (fields : List (String × Draft)) : Option Response := do
  let value ← optionalValue? (lookup? fields "value")
  let status ← lookup? fields "status" >>= status?
  let error ← optionalText? (lookup? fields "error")
  let errorType ← optionalText? (lookup? fields "error_type")
  some ⟨value, status, error, errorType⟩

/-- Whether a field of a response stands there more than once. -/
def repeats (fields : List (String × Draft)) : Bool :=
  fieldNames.any fun name => 1 < fields.countP (·.1 = name)

def parse? (text : String) : Option Response := do
  match ← Draft.ofText? text with
  | .object fields =>
    let fields ← fields.mapM fun (key, draft) => key.map (·, draft)
    if repeats fields then none else ofFields? fields
  | .array items =>
    if fieldNames.length < items.length then none else ofFields? (fieldNames.zip items)
  | _ => none

def beanMissing : String := "javax.management.InstanceNotFoundException"

/-- What a response says: its value, or a fault that concerns the target, the bean or, if one was
asked for, the attribute. -/
def outcome (response : Response) (bean : String) (name : Option String) :
    Except ConnectionFault Json :=
  let message := response.error.getD ("status " ++ toString response.status)
  if response.status = 200 then .ok response.value
  else if response.status = 401 || response.status = 403 then .error (.authentication message)
  else if response.errorType = some beanMissing then .error (.beanNotFound bean)
  else match name with
    | some name => .error (.attributeUnavailable bean name message)
    | none => .error (.protocol message)

end Response
end BeanHarvest.Jolokia
