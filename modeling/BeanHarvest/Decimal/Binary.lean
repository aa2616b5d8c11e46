/-! Double-precision numbers taken apart into a sign, a whole number and a power of two, and the
total order on them in which negative numbers come before positive ones and every NaN has a place. -/
namespace BeanHarvest

/-- What a double-precision number stands for. A finite one is `mantissa * 2 ^ exponent`. -/
inductive Binary where
  | nan
  | infinite (negative : Bool)
  | finite (negative : Bool) (mantissa : Nat) (exponent : Int)
deriving DecidableEq, Repr

namespace Binary

def ofFloat (x : Float) : Binary :=
  let bits := x.toBits.toNat
  let negative := Nat.pow 2 63 ≤ bits
  let scale : Nat := bits / Nat.pow 2 52 % Nat.pow 2 11
  let fraction := bits % Nat.pow 2 52
  if scale = 2047 then (if fraction = 0 then .infinite negative else .nan)
  else if scale = 0 then .finite negative fraction (-1074)
  else .finite negative (Nat.pow 2 52 + fraction) ((scale : Int) - 1075)

/-- Whether the number is neither infinite nor NaN. -/
def isFinite : Binary → Bool
  | .finite .. => true
  | _ => false

end Binary

def isFinite (x : Float) : Bool := (Binary.ofFloat x).isFinite

/-- A double-precision number by its bits, so that a NaN has its sign as well. -/
structure Double where
  bits : UInt64
deriving DecidableEq, Repr, Inhabited

namespace Double

def ofFloat (x : Float) : Double := ⟨x.toBits⟩

/-- The number to calculate with. -/
def toFloat (x : Double) : Float := Float.ofBits x.bits

instance : Coe Double Float := ⟨toFloat⟩

/-- The number with the other sign. -/
def negated (x : Double) : Double := ⟨x.bits ^^^ UInt64.ofNat (Nat.pow 2 63)⟩

/-- The place of a number in the total order: by sign first, then by magnitude. -/
def totalRank (x : Double) : Int :=
  let bits := x.bits.toNat
  if bits < Nat.pow 2 63 then (bits : Int) else Nat.pow 2 63 - 1 - (bits : Int)

/-- The total order on numbers. -/
def totalLe (x y : Double) : Bool := x.totalRank ≤ y.totalRank

theorem totalLe_trans {x y z : Double} (first : x.totalLe y = true) (second : y.totalLe z = true) :
    x.totalLe z = true := by
  simp only [totalLe, decide_eq_true_eq] at *
  omega

theorem totalLe_total (x y : Double) : (x.totalLe y || y.totalLe x) = true := by
  simp only [totalLe, Bool.or_eq_true, decide_eq_true_eq]
  omega

end Double

end BeanHarvest
