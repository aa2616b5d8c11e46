import BeanHarvest.Text.Cut

/-! Addresses of the Internet protocol, as they are written in the hosts of URLs and, more strictly, as
addresses to listen on. -/
namespace BeanHarvest.Address

def digitValue? (c : Char) : Option Nat :=
  if '0' ≤ c && c ≤ '9' then some (c.toNat - 48)
  else if 'a' ≤ c && c ≤ 'f' then some (c.toNat - 87)
  else if 'A' ≤ c && c ≤ 'F' then some (c.toNat - 55)
  else none

/-- The number that digits of a base stand for; no digits stand for zero. -/
def number? (base : Nat) (digits : List Char) : Option Nat :=
  digits.foldlM (fun n c => do
    let digit ← digitValue? c
    if digit < base then some (n * base + digit) else none) 0

/-- Read one part of a loosely written address of version 4: decimal, or behind `0x` or `0`. -/
def loosePart? : List Char → Option Nat
  | [] => none
  | '0' :: 'x' :: rest | '0' :: 'X' :: rest => number? 16 rest
  | ['0'] => some 0
  | '0' :: rest => number? 8 rest
  | text => number? 10 text

/-- The parts between dots, without an empty one behind the last dot. -/
def dottedParts (text : List Char) : List (List Char) :=
  let parts := Text.pieces (· = '.') text
  if 1 < parts.length && parts.getLast?.any List.isEmpty then parts.dropLast else parts

/-- Whether a host ends in a number, so that it has to be an address. -/
def endsInNumber (text : List Char) : Bool :=
  match (dottedParts text).getLast? with
  | some last =>
    (!last.isEmpty && last.all fun c => '0' ≤ c && c ≤ '9')
      || match last with
        | '0' :: 'x' :: _ | '0' :: 'X' :: _ => (loosePart? last).isSome
        | _ => false
  | none => false

/-- Read a loosely written address of version 4: up to four parts, of which the last fills what the
others leave. -/
def looseV4? (text : List Char) : Option Nat := do
  let parts ← (dottedParts text).mapM loosePart?
  match parts.reverse with
  | [] => none
  | last :: front =>
    if 3 < front.length || front.any (255 < ·) || Nat.pow 256 (4 - front.length) ≤ last then none
    else some (front.reverse.foldl (fun (n, weight) part =>
      (n + part * weight, weight / 256)) (last, Nat.pow 256 3)).1

def textV4 (address : Nat) : String :=
  ".".intercalate
    ([Nat.pow 256 3, Nat.pow 256 2, 256, 1].map fun weight => toString (address / weight % 256))

def strictPart? (text : List Char) : Option Nat := do
  let value ← number? 10 text
  if text.isEmpty || 3 < text.length || 255 < value || (1 < text.length && text.head? = some '0')
  then none else some value

/-- Read a strictly written address of version 4: four decimal parts without padding. -/
def strictV4? (text : List Char) : Option (List Nat) :=
  let parts := Text.pieces (· = '.') text
  if parts.length = 4 then parts.mapM strictPart? else none

def group? (text : List Char) : Option Nat :=
  if text.isEmpty || 4 < text.length then none else number? 16 text

/-- Read groups between colons; the last one may be an address of version 4, which fills two. -/
def groups? (mayEndInV4 : Bool) : List (List Char) → Option (List Nat)
  | [] => some []
  | [last] =>
    if mayEndInV4 && last.contains '.' then do
      match ← strictV4? last with
      | [a, b, c, d] => some [a * 256 + b, c * 256 + d]
      | _ => none
    else (group? last).map ([·])
  | part :: rest => do
    let value ← group? part
    let others ← groups? mayEndInV4 rest
    some (value :: others)

def cutAtDoubleColon? : List Char → Option (List Char × List Char)
  | [] => none
  | ':' :: ':' :: rest => some ([], rest)
  | c :: rest => (cutAtDoubleColon? rest).map fun (before, after) => (c :: before, after)

def groupList? (mayEndInV4 : Bool) (text : List Char) : Option (List Nat) :=
  if text.isEmpty then some [] else groups? mayEndInV4 (Text.pieces (· = ':') text)

/-- Read an address of version 6: eight groups, or fewer around one `::`. -/
def v6? (text : List Char) : Option (List Nat) := do
  match cutAtDoubleColon? text with
  | some (before, after) =>
    let front ← groupList? false before
    let back ← groupList? true after
    if front.length + back.length ≤ 7 then
      some (front ++ List.replicate (8 - front.length - back.length) 0 ++ back)
    else none
  | none =>
    let groups ← groupList? true text
    if groups.length = 8 then some groups else none

def groupText (group : Nat) : String := String.ofList (Nat.toDigits 16 group)

/-- The longest run of zeros, the first of several: where it starts and how long it is. -/
def longestZeros (groups : List Nat) : Nat × Nat :=
  ((List.range groups.length).map fun start =>
      (start, ((groups.drop start).takeWhile (· = 0)).length)).foldl
    (fun best run => if best.2 < run.2 then run else best) (0, 0)

/-- The address of version 6 as it is written: `::` stands for the longest run of zeros. -/
def textV6 (groups : List Nat) : String :=
  let (start, length) := longestZeros groups
  let join := fun groups : List Nat => ":".intercalate (groups.map groupText)
  if length < 2 then join groups
  else join (groups.take start) ++ "::" ++ join (groups.drop (start + length))

/-- Whether a text is an address to listen on. -/
def isStrict (text : String) : Bool :=
  (strictV4? text.toList).isSome || (v6? text.toList).isSome

end BeanHarvest.Address
