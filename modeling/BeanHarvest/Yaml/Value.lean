import BeanHarvest.Decimal.Notation
import BeanHarvest.Decimal.Reading
import BeanHarvest.Text.Cut
import BeanHarvest.Yaml.Node

namespace BeanHarvest

inductive Yaml where
  | null
  | bool (value : Bool)
  | number (value : Number)
  | string (value : String)
  | sequence (items : List Yaml)
  | mapping (pairs : List (Yaml × Yaml))
  | tagged (tag : String) (value : Yaml)

namespace Yaml

def isNull (text : String) : Bool := ["null", "Null", "NULL", "~"].contains text

def bool? (text : String) : Option Bool :=
  if ["true", "True", "TRUE"].contains text then some true
  else if ["false", "False", "FALSE"].contains text then some false
  else none

/-- The number that digits of a base stand for; every digit has to be one. -/
def baseValue? (base : Nat) (digits : List Char) : Option Nat := do
  let values ← digits.mapM hexValue?
  if digits.isEmpty || values.any (base ≤ ·) then none
  else some (values.foldl (fun n digit => n * base + digit) 0)

/-- Read the magnitude of a whole number: decimal, or behind a mark for base 16, 8 or 2. -/
def magnitude? : List Char → Option Nat
  | '0' :: 'x' :: digits => baseValue? 16 digits
  | '0' :: 'o' :: digits => baseValue? 8 digits
  | '0' :: 'b' :: digits => baseValue? 2 digits
  | digits => baseValue? 10 digits

/-- Several digits that begin with a zero: a text, not a number. -/
def paddedDigits (text : List Char) : Bool :=
  match text with
  | '-' :: '0' :: more | '+' :: '0' :: more | '0' :: more =>
    !more.isEmpty && more.all Decimal.isDigit
  | _ => false

/-- Read a whole number of any size, with an optional sign. -/
def whole? (text : List Char) : Option Int :=
  if paddedDigits text then none
  else match text with
    | '-' :: rest => (magnitude? rest).map fun n => -(n : Int)
    | '+' :: rest => (magnitude? rest).map (↑·)
    | rest => (magnitude? rest).map (↑·)

/-- Read a number with a fraction or a power of ten, or one of the words for infinity and NaN. A
number too large is none. -/
def float? (text : List Char) : Option Float :=
  let word := String.ofList text
  if paddedDigits text then none
  else if [".inf", ".Inf", ".INF", "+.inf", "+.Inf", "+.INF"].contains word then some (1.0 / 0.0)
  else if ["-.inf", "-.Inf", "-.INF"].contains word then some (-(1.0 / 0.0))
  else if [".nan", ".NaN", ".NAN"].contains word then some (0.0 / 0.0)
  else match text with
    | '+' :: '+' :: _ | '+' :: '-' :: _ => none
    | _ => (readFloat? text).filter isFinite

/-- The value of a whole number; beyond 128 bits it is none, and beyond 64 bits it is no value. -/
def wholeValue? (n : Int) : Option (Option Number) :=
  if Number.least ≤ n && n ≤ Number.greatest then some (some (.whole n))
  else if -(Nat.pow 2 127) ≤ n && n < Nat.pow 2 128 then some none
  else none

def plain? (text : String) : Option Yaml :=
  let chars := text.toList
  if text.isEmpty || isNull text then some .null
  else match bool? text with
    | some value => some (.bool value)
    | none =>
      match whole? chars >>= wholeValue? with
      | some found => found.map Yaml.number
      | none =>
        match float? chars with
        | some value => some (.number (.float value))
        | none => some (.string text)

/-- The part of a tag that names a type of the schema. -/
def schemaTag (tag : String) : Option String :=
  (Text.afterPrefix? "tag:yaml.org,2002:".toList tag.toList).map String.ofList

/-- Whether a tag is one that a document makes up for itself. -/
def isLocalTag (tag : String) : Bool :=
  match tag.toList with
  | '!' :: _ :: _ => true
  | _ => false

def scalar? (text : String) (plain : Bool) (tag : Option String) : Option Yaml :=
  match tag with
  | none => if plain then plain? text else some (.string text)
  | some tag =>
    match schemaTag tag with
    | some "bool" => (bool? text).map .bool
    | some "int" => do
      let n ← whole? text.toList
      let found ← wholeValue? n
      found.map Yaml.number
    | some "float" => (float? text.toList).map fun value => .number (.float value)
    | some "null" => if isNull text then some .null else none
    | _ => if tag.startsWith "!" && plain then plain? text else some (.string text)

/-- Equality of keys. -/
def sameNumber : Number → Number → Bool
  | .whole a, .whole b => a = b
  | .float a, .float b => a == b || (a.isNaN && b.isNaN)
  | _, _ => false

mutual

def same : Yaml → Yaml → Bool
  | .null, .null => true
  | .bool a, .bool b => a = b
  | .number a, .number b => sameNumber a b
  | .string a, .string b => a = b
  | .sequence a, .sequence b => sameItems a b
  | .mapping a, .mapping b => samePairs a b
  | .tagged s a, .tagged t b => s = t && same a b
  | _, _ => false

def sameItems : List Yaml → List Yaml → Bool
  | [], [] => true
  | a :: as, b :: bs => same a b && sameItems as bs
  | _, _ => false

def samePairs : List (Yaml × Yaml) → List (Yaml × Yaml) → Bool
  | [], [] => true
  | (k, v) :: as, (l, w) :: bs => same k l && same v w && samePairs as bs
  | _, _ => false

end

def hasRepeatedKey : List (Yaml × Yaml) → Bool
  | [] => false
  | (key, _) :: rest => rest.any (fun (other, _) => same key other) || hasRepeatedKey rest

/-- The value with its tag, if that is one of the document's own. -/
def underTag (tag : Option String) (value : Yaml) : Yaml :=
  match tag with
  | some tag => if isLocalTag tag then .tagged tag value else value
  | none => value

mutual

/-- The value of a node. Pairs keep their order, repeated keys included. -/
def ofNode? : Node → Option Yaml
  | .scalar text plain tag => (scalar? text plain tag).map (underTag tag)
  | .sequence items tag => (ofItems? items).map fun items => underTag tag (.sequence items)
  | .mapping pairs tag => (ofPairs? pairs).map fun pairs => underTag tag (.mapping pairs)

def ofItems? : List Node → Option (List Yaml)
  | [] => some []
  | item :: rest => do
    let item ← ofNode? item
    let rest ← ofItems? rest
    some (item :: rest)

def ofPairs? : List (Node × Node) → Option (List (Yaml × Yaml))
  | [] => some []
  | (key, value) :: rest => do
    let key ← ofNode? key
    let value ← ofNode? value
    let rest ← ofPairs? rest
    some ((key, value) :: rest)

end

mutual

/-- Whether no mapping anywhere in the value repeats a key. -/
def hasDistinctKeys : Yaml → Bool
  | .sequence items => allDistinct items
  | .mapping pairs => !hasRepeatedKey pairs && pairsDistinct pairs
  | .tagged _ value => hasDistinctKeys value
  | _ => true

def allDistinct : List Yaml → Bool
  | [] => true
  | item :: rest => hasDistinctKeys item && allDistinct rest

def pairsDistinct : List (Yaml × Yaml) → Bool
  | [] => true
  | (key, value) :: rest => hasDistinctKeys key && hasDistinctKeys value && pairsDistinct rest

end

mutual

/-- Whether the value bears no tag anywhere. -/
def isUntagged : Yaml → Bool
  | .sequence items => allUntagged items
  | .mapping pairs => pairsUntagged pairs
  | .tagged .. => false
  | _ => true

def allUntagged : List Yaml → Bool
  | [] => true
  | item :: rest => isUntagged item && allUntagged rest

def pairsUntagged : List (Yaml × Yaml) → Bool
  | [] => true
  | (key, value) :: rest => isUntagged key && isUntagged value && pairsUntagged rest

end

/-- A number as a text: like a literal, with words for infinity and NaN. -/
def numberText : Number → String
  | .whole value => toString value
  | .float value =>
    match Binary.ofFloat value with
    | .nan => ".nan"
    | .infinite negative => signed negative ".inf"
    | .finite .. => literalText value

/-- The text of a single value that is not null. -/
def scalarText? : Yaml → Option String
  | .string text => some text
  | .number value => some (numberText value)
  | .bool value => some (if value then "true" else "false")
  | _ => none

def texts : Yaml → List String
  | .sequence items => items.filterMap scalarText?
  | value => (scalarText? value).toList

end Yaml
end BeanHarvest
