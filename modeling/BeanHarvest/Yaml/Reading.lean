import BeanHarvest.Yaml.Value

/-! Reading typed fields from the nodes of a YAML text. A field of a known type looks at the text of
its scalar, whatever that text would mean by itself; a field whose shape decides its type looks at
the value of the node. -/
namespace BeanHarvest.Yaml

namespace Node

def text? : Node → Option String
  | .scalar text _ _ => some text
  | _ => none

def isBlank : Node → Bool
  | .scalar text plain _ => text.isEmpty && plain
  | _ => false

/-- Whether the node stands for nothing; a node tagged as null has to be one. -/
def absent? : Node → Option Bool
  | .scalar text true tag =>
    match tag >>= schemaTag with
    | some "null" => if isNull text then some true else none
    | _ => if tag.isSome then some false else some (text.isEmpty || isNull text)
  | _ => some false

def optional? {α : Type} (read? : Node → Option α) (node : Node) : Option (Option α) := do
  if ← node.absent? then some none else (read? node).map some

def bool? : Node → Option Bool
  | .scalar text true _ => Yaml.bool? text
  | _ => none

/-- Read a whole number below a bound, without a minus. -/
def below? (bound : Nat) : Node → Option Nat
  | .scalar text true _ =>
    if text.startsWith "-" then none
    else match whole? text.toList with
      | some value => if value.toNat < bound then some value.toNat else none
      | none => none
  | _ => none

def natural? : Node → Option Nat := below? (Nat.pow 2 64)

/-- The items of a sequence; a blank is an empty one. -/
def items? : Node → Option (List Node)
  | .sequence items _ => some items
  | node => if node.isBlank then some [] else none

def list? {α : Type} (read? : Node → Option α) (node : Node) : Option (List α) :=
  node.items? >>= (·.mapM read?)

/-- The parts of a mapping by the texts of their keys; a blank is an empty one. -/
def fields? : Node → Option (List (String × Node))
  | .mapping pairs _ =>
    pairs.mapM fun (key, value) => key.text?.map (·, value)
  | node => if node.isBlank then some [] else none

/-- Read texts by key; of several with one key the last stands. -/
def bindings? (node : Node) : Option (List (String × String)) := do
  (← node.fields?).mapM fun (key, value) => value.text?.map (key, ·)

/-- The value of a node without tags of the document's own. -/
def value? (node : Node) : Option Yaml :=
  (ofNode? node).filter isUntagged

end Node

/-- Whether some known key stands twice among the fields. -/
def repeats {α : Type} (known : List String) (fields : List (String × α)) : Bool :=
  known.any fun key => 1 < fields.countP (·.1 = key)

def optionalField? {α : Type} (fields : List (String × Node)) (key : String) (absent : α)
    (read? : Node → Option α) : Option α :=
  match fields.find? (·.1 = key) with
  | some (_, node) => read? node
  | none => some absent

def requiredField? {α : Type} (fields : List (String × Node)) (key : String)
    (read? : Node → Option α) : Option α :=
  match fields.find? (·.1 = key) with
  | some (_, node) => read? node
  | none => none

def text? : Yaml → Option String
  | .string text => some text
  | _ => none

def textList? : Yaml → Option (List String)
  | .sequence items => items.mapM text?
  | _ => none

def textOrList? : Yaml → Option (List String)
  | .string text => some [text]
  | value => textList? value

def textPairs? : Yaml → Option (List (String × String))
  | .mapping pairs => pairs.mapM fun (key, value) => do some (← text? key, ← text? value)
  | _ => none

def optional? {α : Type} (read? : Yaml → Option α) : Yaml → Option (Option α)
  | .null => some none
  | value => (read? value).map some

def natural? : Yaml → Option Nat
  | .number (.whole value) => if 0 ≤ value then some value.toNat else none
  | _ => none

end BeanHarvest.Yaml
