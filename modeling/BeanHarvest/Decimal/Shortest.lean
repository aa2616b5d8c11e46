import BeanHarvest.Decimal.Binary

/-! The shortest decimal that reads back as a given double-precision number. The numbers that read
back are those between the halfway points to the neighbours, the points themselves included when
the mantissa is even. Grids of one digit, two digits and so on are tried in turn; the first grid
with a point among them gives the answer, and of two points the one nearer to the number. Of two that
are equally near a format chooses. -/
namespace BeanHarvest

/-- The number `digits * 10 ^ exponent`. -/
structure Decimal where
  digits : Nat
  exponent : Int
deriving DecidableEq, Repr

/-- Which of two equally near numbers is taken: the greater one, or the one with the even last digit. -/
inductive Tie where
  | up
  | even
deriving DecidableEq, Repr, Inhabited

/-- The chosen one of a number and the next. -/
def Tie.choose (tie : Tie) (below : Nat) : Nat :=
  match tie with
  | .up => below + 1
  | .even => if below % 2 = 0 then below else below + 1

namespace Decimal

def digitCount (n : Nat) : Nat := (Nat.toDigits 10 n).length

/-- How many digits stand before the point of `num / den`; not positive below one tenth. -/
def magnitude (num den : Nat) : Int :=
  if den ≤ num then digitCount (num / den)
  else
    let places := digitCount (den / num)
    if den = num * Nat.pow 10 (places - 1) then 2 - places else 1 - places

/-- A fraction times a power of ten, as numerator and denominator. -/
def scale (num den : Nat) (power : Int) : Nat × Nat :=
  if 0 ≤ power then (num * Nat.pow 10 power.toNat, den) else (num, den * Nat.pow 10 (-power).toNat)

/-- The numbers that read back as one: `low ≤ value ≤ high` over the denominator `den`, the ends
themselves only when `closed`. -/
structure Interval where
  low : Nat
  value : Nat
  high : Nat
  den : Nat
  closed : Bool

/-- The numbers that read back as `mantissa * 2 ^ exponent`. Below a power of two the neighbour is
half as far away. -/
def Interval.around (mantissa : Nat) (exponent : Int) : Interval :=
  let power := exponent - 2
  let (num, den) := if 0 ≤ power then (Nat.pow 2 power.toNat, 1) else (1, Nat.pow 2 (-power).toNat)
  let below := if mantissa = Nat.pow 2 52 && -1074 < exponent then 1 else 2
  { low := (4 * mantissa - below) * num
    value := 4 * mantissa * num
    high := (4 * mantissa + 2) * num
    den := den
    closed := mantissa % 2 = 0 }

/-- Whether `digits * 10 ^ exponent` lies in the interval. -/
def Interval.holds (range : Interval) (digits : Nat) (exponent : Int) : Bool :=
  let (point, den) := scale digits 1 exponent
  let middle := point * range.den
  let low := range.low * den
  let high := range.high * den
  if range.closed then low ≤ middle && middle ≤ high else low < middle && middle < high

/-- The nearer one of a number and the next, where `rest / den` is left beyond the number. -/
def nearer (tie : Tie) (below rest den : Nat) : Nat :=
  if 2 * rest < den then below else if den < 2 * rest then below + 1 else tie.choose below

/-- The point of the grid of steps `10 ^ exponent` that reads back, the nearer of two. -/
def Interval.onGrid? (range : Interval) (tie : Tie) (exponent : Int) : Option Decimal :=
  let (num, den) := scale range.value range.den (-exponent)
  let below := num / den
  let above := below + 1
  match range.holds below exponent, range.holds above exponent with
  | true, true => some ⟨nearer tie below (num % den) den, exponent⟩
  | true, false => some ⟨below, exponent⟩
  | false, true => some ⟨above, exponent⟩
  | false, false => none

/-- Take the zeros off the end of the digits; `fuel` bounds their number. -/
def withoutZeros (fuel : Nat) (number : Decimal) : Decimal :=
  match fuel with
  | 0 => number
  | fuel + 1 =>
    if number.digits ≠ 0 && number.digits % 10 = 0 then
      withoutZeros fuel ⟨number.digits / 10, number.exponent + 1⟩
    else number

/-- The shortest decimal that reads back as `mantissa * 2 ^ exponent`; seventeen digits always do. -/
def shortest (tie : Tie) (mantissa : Nat) (exponent : Int) : Decimal :=
  if mantissa = 0 then ⟨0, 0⟩
  else
    let range := Interval.around mantissa exponent
    let places := magnitude range.value range.den
    let found := (List.range 17).findSome? fun count => range.onGrid? tie (places - (count + 1 : Nat))
    withoutZeros 20 (found.getD ⟨0, 0⟩)

end Decimal
end BeanHarvest
