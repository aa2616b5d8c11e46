import BeanHarvest.Decimal.Shortest

/-! Reading numbers: a sign, digits with a point somewhere, and a power of ten, rounded to the
nearest double-precision number. -/
namespace BeanHarvest

namespace Decimal

def isDigit (c : Char) : Bool := '0' ≤ c && c ≤ '9'

def digitsValue (value : Nat) (digits : List Char) : Nat :=
  digits.foldl (fun value c => value * 10 + (c.toNat - '0'.toNat)) value

/-- The nearest number. Far outside the range of exponents the digits no longer matter. -/
def toFloat (number : Decimal) : Float :=
  let before := digitCount number.digits + number.exponent
  if number.digits = 0 || before < -400 then 0.0
  else if 400 < before then 1.0 / 0.0
  else Float.ofScientific number.digits (number.exponent < 0) number.exponent.natAbs

/-- Read the part behind the `e`: an optional sign and digits. -/
def power? : List Char → Option Int
  | '-' :: digits =>
    if !digits.isEmpty && digits.all isDigit then some (-(digitsValue 0 digits : Int)) else none
  | '+' :: digits =>
    if !digits.isEmpty && digits.all isDigit then some (digitsValue 0 digits) else none
  | digits =>
    if !digits.isEmpty && digits.all isDigit then some (digitsValue 0 digits) else none

/-- Read digits with at most one point, at least one digit, and perhaps a power of ten. -/
def unsigned? (text : List Char) : Option Decimal := do
  let whole := text.takeWhile isDigit
  let afterWhole := text.dropWhile isDigit
  let (fraction, rest) := match afterWhole with
    | '.' :: more => (more.takeWhile isDigit, more.dropWhile isDigit)
    | _ => ([], afterWhole)
  if whole.isEmpty && fraction.isEmpty then none
  else
    let digits := digitsValue (digitsValue 0 whole) fraction
    match rest with
    | [] => some ⟨digits, -(fraction.length : Int)⟩
    | e :: more =>
      if e = 'e' || e = 'E' then
        let power ← power? more
        some ⟨digits, power - fraction.length⟩
      else none

end Decimal

def signOf : List Char → Bool × List Char
  | '-' :: rest => (true, rest)
  | '+' :: rest => (false, rest)
  | text => (false, text)

/-- Read a number: a sign, then a decimal or, in letters of either case, `inf`, `infinity` or
`nan`. -/
def readDouble? (text : List Char) : Option Double := do
  let (negative, rest) := signOf text
  let word := String.ofList (rest.map Char.toLower)
  let size : Double ←
    if word = "inf" || word = "infinity" then some (.ofFloat (1.0 / 0.0))
    else if word = "nan" then some (.ofFloat (0.0 / 0.0))
    else (Decimal.unsigned? rest).map fun number => .ofFloat number.toFloat
  some (if negative then size.negated else size)

/-- Read a number to calculate with. -/
def readFloat? (text : List Char) : Option Float := (readDouble? text).map Double.toFloat

end BeanHarvest
