import BeanHarvest.Pattern.Ranges
import BeanHarvest.Text.Lower

namespace BeanHarvest.Pattern

/-- A set of characters: ranges that ascend and do not touch. -/
structure CharSet where
  ranges : List (Nat × Nat)
deriving Repr, Inhabited

namespace CharSet

/-- Whether a code point lies in one of some ascending ranges. -/
def covers : List (Nat × Nat) → Nat → Bool
  | [], _ => false
  | (first, last) :: rest, n => if n < first then false else n ≤ last || covers rest n

def contains (set : CharSet) (c : Char) : Bool := covers set.ranges c.toNat

def ofRanges (ranges : List (Nat × Nat)) : CharSet :=
  let sorted := ranges.mergeSort fun a b => a.1 ≤ b.1
  let step (rest : List (Nat × Nat)) (range : Nat × Nat) : List (Nat × Nat) :=
    match rest with
    | (first, last) :: others =>
      if range.1 ≤ last + 1 then (first, max last range.2) :: others else range :: rest
    | [] => [range]
  ⟨(sorted.foldl step []).reverse⟩

def greatest : Nat := 0x10FFFF

/-- The gaps between ascending ranges, from a code point on. -/
def gaps : (start : Nat) → List (Nat × Nat) → List (Nat × Nat)
  | start, [] => if start ≤ greatest then [(start, greatest)] else []
  | start, (first, last) :: rest =>
    if start < first then (start, first - 1) :: gaps (last + 1) rest else gaps (last + 1) rest

def complement (set : CharSet) : CharSet := ⟨gaps 0 set.ranges⟩

def union (a b : CharSet) : CharSet := ofRanges (a.ranges ++ b.ranges)

def inter (a b : CharSet) : CharSet := complement (union (complement a) (complement b))

def diff (a b : CharSet) : CharSet := inter a (complement b)

def symmetricDifference (a b : CharSet) : CharSet := union (diff a b) (diff b a)

def empty : CharSet := ⟨[]⟩

def all : CharSet := ⟨[(0, greatest)]⟩

def single (c : Char) : CharSet := ⟨[(c.toNat, c.toNat)]⟩

/-- Pairs of letters that differ in case only. -/
def casePairs : List (Nat × Nat) :=
  (List.range 26).map (fun i => (65 + i, 97 + i))
    ++ Text.capitalRanges.flatMap (fun (first, last, step, way) =>
      (List.range ((last - first) / step + 1)).map fun i =>
        (first + i * step, ((first + i * step : Nat) + way).toNat))
    ++ [(383, 115), (181, 956), (962, 963), (976, 946), (977, 952), (981, 966), (982, 960),
      (1008, 954), (1009, 961), (1013, 949), (7835, 7777), (8126, 953)]

/-- Add the other letter of every pair of which one belongs to the set. -/
def addCases (set : CharSet) : CharSet :=
  let added := casePairs.flatMap fun (capital, small) =>
    (if covers set.ranges capital then [(small, small)] else [])
      ++ (if covers set.ranges small then [(capital, capital)] else [])
  ofRanges (set.ranges ++ added)

def anyCase (set : CharSet) : CharSet := addCases (addCases set)

def digits : CharSet := ⟨digitRanges⟩

def word : CharSet := ⟨wordRanges⟩

def space : CharSet :=
  ⟨[(9, 13), (0x20, 0x20), (0x85, 0x85), (0xA0, 0xA0), (0x1680, 0x1680), (0x2000, 0x200A),
    (0x2028, 0x2029), (0x202F, 0x202F), (0x205F, 0x205F), (0x3000, 0x3000)]⟩

def asciiDigits : CharSet := ⟨[(48, 57)]⟩

def asciiWord : CharSet := ⟨[(48, 57), (65, 90), (95, 95), (97, 122)]⟩

def asciiSpace : CharSet := ⟨[(9, 13), (32, 32)]⟩

def capitals : CharSet := ofRanges (casePairs.map fun (capital, _) => (capital, capital))

def smalls : CharSet := ofRanges (casePairs.map fun (_, small) => (small, small))

/-- The ASCII classes that are written between colons. -/
def asciiClass? : String → Option CharSet
  | "alnum" => some ⟨[(48, 57), (65, 90), (97, 122)]⟩
  | "alpha" => some ⟨[(65, 90), (97, 122)]⟩
  | "ascii" => some ⟨[(0, 127)]⟩
  | "blank" => some ⟨[(9, 9), (32, 32)]⟩
  | "cntrl" => some ⟨[(0, 31), (127, 127)]⟩
  | "digit" => some asciiDigits
  | "graph" => some ⟨[(33, 126)]⟩
  | "lower" => some ⟨[(97, 122)]⟩
  | "print" => some ⟨[(32, 126)]⟩
  | "punct" => some ⟨[(33, 47), (58, 64), (91, 96), (123, 126)]⟩
  | "space" => some asciiSpace
  | "upper" => some ⟨[(65, 90)]⟩
  | "word" => some asciiWord
  | "xdigit" => some ⟨[(48, 57), (65, 70), (97, 102)]⟩
  | _ => none

/-- The classes that this engine knows by the name of a property. A name may begin with `is`. -/
def property? (name : String) : Option CharSet :=
  let plain := (match Text.lower name.toList with
    | 'i' :: 's' :: rest => rest
    | rest => rest).filter fun c => c ≠ ' ' && c ≠ '_' && c ≠ '-'
  match String.ofList plain with
  | "any" => some all
  | "ascii" => some ⟨[(0, 127)]⟩
  | "l" | "letter" | "alpha" | "alphabetic" => some ⟨letterRanges⟩
  | "lu" | "uppercaseletter" | "upper" | "uppercase" => some capitals
  | "ll" | "lowercaseletter" | "lower" | "lowercase" => some smalls
  | "n" | "number" => some ⟨numberRanges⟩
  | "nd" | "digit" | "decimalnumber" => some digits
  | "p" | "punct" | "punctuation" => some ⟨punctuationRanges⟩
  | "cc" | "control" | "cntrl" => some ⟨[(0, 31), (127, 159)]⟩
  | "z" | "separator" =>
    some ⟨[(32, 32), (160, 160), (5760, 5760), (8192, 8202), (8232, 8233), (8239, 8239),
      (8287, 8287), (12288, 12288)]⟩
  | "space" | "whitespace" => some space
  | _ => none

end CharSet
end BeanHarvest.Pattern
