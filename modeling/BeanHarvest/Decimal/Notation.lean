import BeanHarvest.Decimal.Shortest

/-! Numbers as texts: positional notation, notation with an exponent, and the choices between the
two that the formats make. -/
namespace BeanHarvest

namespace Decimal

def digitText (number : Decimal) : List Char := Nat.toDigits 10 number.digits

/-- All digits in their places, without an exponent and without a point after a whole number. -/
def positional (number : Decimal) : String :=
  let digits := number.digitText
  let before := digits.length + number.exponent
  if 0 ≤ number.exponent then
    String.ofList (digits ++ List.replicate number.exponent.toNat '0')
  else if 0 < before then
    String.ofList (digits.take before.toNat ++ '.' :: digits.drop before.toNat)
  else "0." ++ String.ofList (List.replicate (-before).toNat '0' ++ digits)

/-- One digit before the point, and the power of ten of that digit. -/
def leading (number : Decimal) : List Char × Int :=
  let digits := number.digitText
  let power := digits.length + number.exponent - 1
  (match digits with
    | first :: second :: rest => first :: '.' :: second :: rest
    | short => short, power)

/-- One digit before the point and `e` with the power of ten behind it. -/
def scientific (number : Decimal) : String :=
  let (digits, power) := number.leading
  String.ofList digits ++ "e" ++ toString power

end Decimal

def signed (negative : Bool) (text : String) : String := if negative then "-" ++ text else text

/-- The text of a number in some notation for finite ones; there are three others. -/
def writeFloat (tie : Tie) (write : Decimal → String) (x : Float) : String :=
  match Binary.ofFloat x with
  | .nan => "NaN"
  | .infinite negative => signed negative "inf"
  | .finite negative mantissa exponent =>
    signed negative (write (Decimal.shortest tie mantissa exponent))

/-- The fewest digits that read back, in their places: `5`, `0.1`, `-0`, `NaN`. -/
def plainText (x : Float) : String := writeFloat .up Decimal.positional x

/-- The fewest digits that read back, with an exponent: `5e0`, `1.5e-7`. -/
def exponentText (x : Float) : String := writeFloat .up Decimal.scientific x

/-- Positional notation from `1e-5` up to `1e16`, with `.0` after a whole number, and an exponent
elsewhere. -/
def Decimal.literal (number : Decimal) : String :=
  let before := number.digitText.length + number.exponent
  if number.digits = 0 then "0.0"
  else if -5 < before && before ≤ 16 then
    if 0 ≤ number.exponent then number.positional ++ ".0" else number.positional
  else number.scientific

/-- A number as the literal of a data format writes it: `1.0`, `1e-7`, `1e20`. -/
def literalText (x : Float) : String := writeFloat .even Decimal.literal x

/-- A number of a data format: whole from the least signed to the greatest unsigned one of 64 bits, or of
double precision. -/
inductive Number where
  | whole (value : Int)
  | float (value : Float)

namespace Number

def least : Int := -(Nat.pow 2 63)

def greatest : Int := Nat.pow 2 64 - 1

def text : Number → String
  | .whole value => toString value
  | .float value => literalText value

def toFloat : Number → Float
  | .whole value =>
    if value < 0 then -(UInt64.ofNat value.natAbs).toFloat else (UInt64.ofNat value.natAbs).toFloat
  | .float value => value

end Number

end BeanHarvest
