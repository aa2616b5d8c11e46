import BeanHarvest.Decimal.Reading
import BeanHarvest.Json.Value

/-! JSON texts taken apart. A draft has the shape of the text but does not insist on a value for
each part: a number may be out of range, a text may hold half of a surrogate pair, and nesting may
be of any depth. A part that nobody asks for may lack a value; asking for one refuses all three. -/
namespace BeanHarvest.Json

inductive Draft where
  | null
  | bool (value : Bool)
  | number (value : Option Number)
  | string (value : Option String)
  | array (items : List Draft)
  | object (fields : List (Option String × Draft))

namespace Draft

def isSpace (c : Char) : Bool := c = ' ' || c = '\n' || c = '\t' || c = '\r'

def skipSpace (text : List Char) : List Char := text.dropWhile isSpace

/-- Digits up to the first that no longer fits in 64 bits, and the digits from there on. -/
def fittingDigits (value : Nat) : List Char → Nat × List Char
  | [] => (value, [])
  | c :: rest =>
    let next := value * 10 + (c.toNat - '0'.toNat)
    if next < Nat.pow 2 64 then fittingDigits next rest else (value, c :: rest)

/-- A value of at most 64 bits times a power of ten, by one multiplication or division; below the
powers of a double-precision number by up to four. Overflow gives nothing. -/
def scaled? (value : Float) (power : Int) : (fuel : Nat) → Option Float
  | 0 => some value
  | fuel + 1 =>
    if power.natAbs ≤ 308 then
      let factor := Float.ofScientific 1 false power.natAbs
      if 0 ≤ power then
        let product := value * factor
        if isFinite product then some product else none
      else some (value / factor)
    else if value == 0.0 then some value
    else if 0 ≤ power then none
    else scaled? (value / 1e308) (power + 308) fuel

/-- The number of some digits, a fraction and a power of ten. A digit that no longer fits in 64 bits
is dropped with those behind it; before the point the dropped ones still count as places. -/
def floatOf? (negative : Bool) (whole fraction : List Char) (power : Int) : Option Number :=
  let (head, unread) := fittingDigits 0 whole
  let (value, dropped) := fittingDigits head fraction
  let places : Int := unread.length - ((fraction.length - dropped.length : Nat) : Int)
  if Nat.pow 2 31 ≤ power.natAbs then
    if value ≠ 0 && 0 < power then none
    else some (.float (if negative then -0.0 else 0.0))
  else
    (scaled? (UInt64.ofNat value).toFloat (places + power) 4).map fun size =>
      .float (if negative then -size else size)

def wholeOf? (negative : Bool) (digits : List Char) : Option Number :=
  let value := Decimal.digitsValue 0 digits
  if negative && 0 < value && value ≤ Nat.pow 2 63 then some (.whole (-(value : Int)))
  else if !negative && value < Nat.pow 2 64 then some (.whole value)
  else floatOf? negative digits [] 0

/-- Read the part of a number behind its digits: fraction and power of ten. -/
def tail? (negative : Bool) (digits text : List Char) : Option (Option Number × List Char) := do
  let (fraction, afterFraction) ← match text with
    | '.' :: more =>
      let fraction := more.takeWhile Decimal.isDigit
      if fraction.isEmpty then none else some (some fraction, more.dropWhile Decimal.isDigit)
    | _ => some (none, text)
  match afterFraction with
  | e :: more =>
    if e = 'e' || e = 'E' then
      let (minus, unsigned) := match more with
        | '-' :: digits => (true, digits)
        | '+' :: digits => (false, digits)
        | digits => (false, digits)
      let power := unsigned.takeWhile Decimal.isDigit
      if power.isEmpty then none
      else
        let value : Int := Decimal.digitsValue 0 power
        some (floatOf? negative digits (fraction.getD []) (if minus then -value else value),
          unsigned.dropWhile Decimal.isDigit)
    else match fraction with
      | some fraction => some (floatOf? negative digits fraction 0, afterFraction)
      | none => some (wholeOf? negative digits, afterFraction)
  | [] => match fraction with
    | some fraction => some (floatOf? negative digits fraction 0, [])
    | none => some (wholeOf? negative digits, [])

def number? (text : List Char) : Option (Option Number × List Char) :=
  let (negative, unsigned) := match text with
    | '-' :: rest => (true, rest)
    | rest => (false, rest)
  let digits := unsigned.takeWhile Decimal.isDigit
  let rest := unsigned.dropWhile Decimal.isDigit
  match digits with
  | [] => none
  | '0' :: _ :: _ => none
  | digits => tail? negative digits rest

def hexValue? (c : Char) : Option Nat :=
  if '0' ≤ c && c ≤ '9' then some (c.toNat - '0'.toNat)
  else if 'a' ≤ c && c ≤ 'f' then some (c.toNat - 'a'.toNat + 10)
  else if 'A' ≤ c && c ≤ 'F' then some (c.toNat - 'A'.toNat + 10)
  else none

def unit? : List Char → Option (Nat × List Char)
  | a :: b :: c :: d :: rest => do
    let a ← hexValue? a
    let b ← hexValue? b
    let c ← hexValue? c
    let d ← hexValue? d
    some (((a * 16 + b) * 16 + c) * 16 + d, rest)
  | _ => none

/-- A piece of a quoted text: a character, or one unit of UTF-16 that was written by its number. -/
inductive Piece where
  | char (c : Char)
  | unit (n : Nat)

/-- Read the pieces of a quoted text up to its closing quote. -/
def pieces? : (fuel : Nat) → List Char → Option (List Piece × List Char)
  | 0, _ => none
  | _ + 1, [] => none
  | _ + 1, '"' :: rest => some ([], rest)
  | fuel + 1, '\\' :: c :: rest => do
    let (piece, rest) ←
      if c = 'u' then (unit? rest).map fun (n, rest) => (Piece.unit n, rest)
      else if c = '"' || c = '\\' || c = '/' then some (Piece.char c, rest)
      else if c = 'b' then some (Piece.char (Char.ofNat 8), rest)
      else if c = 'f' then some (Piece.char (Char.ofNat 12), rest)
      else if c = 'n' then some (Piece.char '\n', rest)
      else if c = 'r' then some (Piece.char '\r', rest)
      else if c = 't' then some (Piece.char '\t', rest)
      else none
    let (others, rest) ← pieces? fuel rest
    some (piece :: others, rest)
  | fuel + 1, c :: rest =>
    if c.toNat < 32 || c = '\\' then none
    else (pieces? fuel rest).map fun (others, rest) => (Piece.char c :: others, rest)

/-- The text of some pieces; half of a surrogate pair has none. -/
def assemble? : List Piece → Option (List Char)
  | [] => some []
  | .char c :: rest => (assemble? rest).map (c :: ·)
  | .unit high :: .unit low :: rest =>
    if 0xD800 ≤ high && high < 0xDC00 then
      if 0xDC00 ≤ low && low < 0xE000 then
        (assemble? rest).map (Char.ofNat (0x10000 + (high - 0xD800) * 0x400 + (low - 0xDC00)) :: ·)
      else none
    else if 0xDC00 ≤ high && high < 0xE000 then none
    else (assemble? (.unit low :: rest)).map (Char.ofNat high :: ·)
  | .unit n :: rest =>
    if 0xD800 ≤ n && n < 0xE000 then none else (assemble? rest).map (Char.ofNat n :: ·)

def string? (fuel : Nat) (text : List Char) : Option (Option String × List Char) :=
  (pieces? fuel text).map fun (pieces, rest) => ((assemble? pieces).map String.ofList, rest)

mutual

/-- Read one value; every step into the text costs one unit of `fuel`. -/
def value? : (fuel : Nat) → List Char → Option (Draft × List Char)
  | 0, _ => none
  | fuel + 1, text =>
    match skipSpace text with
    | 'n' :: 'u' :: 'l' :: 'l' :: rest => some (.null, rest)
    | 't' :: 'r' :: 'u' :: 'e' :: rest => some (.bool true, rest)
    | 'f' :: 'a' :: 'l' :: 's' :: 'e' :: rest => some (.bool false, rest)
    | '"' :: rest => (string? fuel rest).map fun (text, rest) => (.string text, rest)
    | '[' :: rest =>
      match skipSpace rest with
      | ']' :: rest => some (.array [], rest)
      | rest => (items? fuel rest).map fun (items, rest) => (.array items, rest)
    | '\x7b' :: rest =>
      match skipSpace rest with
      | '\x7d' :: rest => some (.object [], rest)
      | rest => (fields? fuel rest).map fun (fields, rest) => (.object fields, rest)
    | rest => (number? rest).map fun (value, rest) => (.number value, rest)

def items? : (fuel : Nat) → List Char → Option (List Draft × List Char)
  | 0, _ => none
  | fuel + 1, text => do
    let (item, rest) ← value? fuel text
    match skipSpace rest with
    | ',' :: rest =>
      let (others, rest) ← items? fuel rest
      some (item :: others, rest)
    | ']' :: rest => some ([item], rest)
    | _ => none

def fields? : (fuel : Nat) → List Char → Option (List (Option String × Draft) × List Char)
  | 0, _ => none
  | fuel + 1, text =>
    match skipSpace text with
    | '"' :: rest => do
      let (key, rest) ← string? fuel rest
      match skipSpace rest with
      | ':' :: rest =>
        let (value, rest) ← value? fuel rest
        match skipSpace rest with
        | ',' :: rest =>
          let (others, rest) ← fields? fuel rest
          some ((key, value) :: others, rest)
        | '\x7d' :: rest => some ([(key, value)], rest)
        | _ => none
      | _ => none
    | _ => none

end

/-- Take a whole text apart; nothing but blanks may follow the value. -/
def ofText? (text : String) : Option Draft := do
  let chars := text.toList
  let (draft, rest) ← value? (2 * chars.length + 2) chars
  if (skipSpace rest).isEmpty then some draft else none

mutual

/-- The value of a draft of at most `levels` levels of nesting. Of several fields with one key the
last stands, and fields are sorted by key. -/
def toJson? (levels : Nat) : Draft → Option Json
  | .null => some .null
  | .bool value => some (.bool value)
  | .number value => value.map .number
  | .string value => value.map .string
  | .array items =>
    if levels = 0 then none else (toItems? (levels - 1) items).map .array
  | .object fields =>
    if levels = 0 then none
    else (toFields? (levels - 1) fields).map fun fields => .object (Keyed.ofList fields)

def toItems? (levels : Nat) : List Draft → Option (List Json)
  | [] => some []
  | item :: rest => do
    let item ← toJson? levels item
    let rest ← toItems? levels rest
    some (item :: rest)

def toFields? (levels : Nat) : List (Option String × Draft) → Option (List (String × Json))
  | [] => some []
  | (key, value) :: rest => do
    let key ← key
    let value ← toJson? levels value
    let rest ← toFields? levels rest
    some ((key, value) :: rest)

end

def maxLevels : Nat := 127

end Draft

def parse? (text : String) : Option Json :=
  Draft.ofText? text >>= Draft.toJson? Draft.maxLevels

end BeanHarvest.Json
