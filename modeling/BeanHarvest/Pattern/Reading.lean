import BeanHarvest.Pattern.Expression
import BeanHarvest.Text.Cut

/-! Reading patterns. The reader goes through the characters from left to right; every step that may
repeat is bounded by the number of characters. -/
namespace BeanHarvest.Pattern

/-- What flags say at some place of a pattern. -/
structure Flags where
  ignoreCase : Bool := false
  multiLine : Bool := false
  dotAll : Bool := false
  lazyFirst : Bool := false
  verbose : Bool := false
  crlf : Bool := false
  unicode : Bool := true
deriving Repr, Inhabited

namespace Flags

def set? (flags : Flags) (on : Bool) : Char → Option Flags
  | 'i' => some { flags with ignoreCase := on }
  | 'm' => some { flags with multiLine := on }
  | 's' => some { flags with dotAll := on }
  | 'U' => some { flags with lazyFirst := on }
  | 'u' => some { flags with unicode := on }
  | 'R' => some { flags with crlf := on }
  | 'x' => some { flags with verbose := on }
  | _ => none

/-- Read flags up to their end: on before a minus, off behind it, none twice. The text behind the
end comes with the character that ended them. -/
def read? (flags : Flags) (on : Bool) (seen : List Char) :
    List Char → Option (Flags × Char × List Char)
  | [] => none
  | c :: rest =>
    if c = ':' || c = ')' then
      if seen.head? = some '-' then none else some (flags, c, rest)
    else if seen.contains c then none
    else if c = '-' then read? flags false (c :: seen) rest
    else do read? (← flags.set? on c) on (c :: seen) rest

def cased (flags : Flags) (set : CharSet) : CharSet :=
  if flags.ignoreCase then set.anyCase else set

def wordSet (flags : Flags) : CharSet :=
  if flags.unicode then CharSet.word else CharSet.asciiWord

def digitSet (flags : Flags) : CharSet :=
  if flags.unicode then CharSet.digits else CharSet.asciiDigits

def spaceSet (flags : Flags) : CharSet :=
  if flags.unicode then CharSet.space else CharSet.asciiSpace

/-- What a dot matches; without Unicode it would match less than a character. -/
def dot? (flags : Flags) : Option CharSet :=
  if !flags.unicode then none
  else if flags.dotAll then some CharSet.all
  else if flags.crlf then some (CharSet.complement ⟨[(10, 10), (13, 13)]⟩)
  else some (CharSet.complement ⟨[(10, 10)]⟩)

def startPlace (flags : Flags) : Assertion :=
  if !flags.multiLine then .textStart else if flags.crlf then .crlfLineStart else .lineStart

def endPlace (flags : Flags) : Assertion :=
  if !flags.multiLine then .textEnd else if flags.crlf then .crlfLineEnd else .lineEnd

end Flags

/-- The value of some hexadecimal digits, if they are a code point. -/
def codePoint? (digits : List Char) : Option Char := do
  let values ← digits.mapM fun c =>
    if '0' ≤ c && c ≤ '9' then some (c.toNat - 48)
    else if 'a' ≤ c && c ≤ 'f' then some (c.toNat - 87)
    else if 'A' ≤ c && c ≤ 'F' then some (c.toNat - 55)
    else none
  let value := values.foldl (fun n digit => n * 16 + digit) 0
  if digits.isEmpty || 8 < (digits.dropWhile (· = '0')).length then none
  else if h : value.isValidChar then some (Char.ofNatAux value h)
  else none

/-- Read a code point: so many digits, or any number of them in braces. -/
def hexEscape? (width : Nat) : List Char → Option (Char × List Char)
  | '\x7b' :: rest => do
    let digits := rest.takeWhile (· ≠ '\x7d')
    match rest.drop digits.length with
    | _ :: rest => (codePoint? digits).map (·, rest)
    | [] => none
  | rest =>
    if rest.length < width then none else (codePoint? (rest.take width)).map (·, rest.drop width)

/-- What a backslash and the characters behind it stand for. -/
inductive Escape where
  | literal (c : Char)
  | set (set : CharSet)
  | place (assertion : Assertion)

def propertyEscape? (negated : Bool) (text : List Char) : Option (Escape × List Char) := do
  let finish (negated : Bool) (name rest : List Char) : Option (Escape × List Char) := do
    let set ← CharSet.property? (String.ofList name)
    some (.set (if negated then set.complement else set), rest)
  match text with
  | '\x7b' :: rest =>
    let name := rest.takeWhile (· ≠ '\x7d')
    match rest.drop name.length, name with
    | _ :: rest, '^' :: name => finish (!negated) name rest
    | _ :: rest, name => finish negated name rest
    | [], _ => none
  | c :: rest => finish negated [c] rest
  | [] => none

def escape? (flags : Flags) : List Char → Option (Escape × List Char)
  | [] => none
  | c :: rest =>
    let word := flags.wordSet
    let class? (set : CharSet) (negated : Bool) : Option (Escape × List Char) :=
      if !negated then some (.set set, rest)
      else if flags.unicode then some (.set set.complement, rest)
      else none
    match c with
    | 'x' => (hexEscape? 2 rest).map fun (c, rest) => (.literal c, rest)
    | 'u' => (hexEscape? 4 rest).map fun (c, rest) => (.literal c, rest)
    | 'U' => (hexEscape? 8 rest).map fun (c, rest) => (.literal c, rest)
    | 'p' => if flags.unicode then propertyEscape? false rest else none
    | 'P' => if flags.unicode then propertyEscape? true rest else none
    | 'd' => class? flags.digitSet false
    | 'D' => class? flags.digitSet true
    | 's' => class? flags.spaceSet false
    | 'S' => class? flags.spaceSet true
    | 'w' => class? word false
    | 'W' => class? word true
    | 'a' => some (.literal '\x07', rest)
    | 'f' => some (.literal '\x0c', rest)
    | 't' => some (.literal '\t', rest)
    | 'n' => some (.literal '\n', rest)
    | 'r' => some (.literal '\r', rest)
    | 'v' => some (.literal '\x0b', rest)
    | 'A' => some (.place .textStart, rest)
    | 'z' => some (.place .textEnd, rest)
    | 'b' =>
      match rest with
      | '\x7b' :: inner =>
        let name := inner.takeWhile fun c => c.isAlpha || c = '-'
        match inner.drop name.length, String.ofList name with
        | '\x7d' :: rest, "start" => some (.place (.wordStart word), rest)
        | '\x7d' :: rest, "end" => some (.place (.wordEnd word), rest)
        | '\x7d' :: rest, "start-half" => some (.place (.wordStartHalf word), rest)
        | '\x7d' :: rest, "end-half" => some (.place (.wordEndHalf word), rest)
        | '\x7d' :: _, _ => none
        | _, "" => some (.place (.wordBoundary word), rest)
        | _, _ => none
      | _ => some (.place (.wordBoundary word), rest)
    | 'B' => some (.place (.noWordBoundary word), rest)
    | '<' => some (.place (.wordStart word), rest)
    | '>' => some (.place (.wordEnd word), rest)
    | c =>
      if c.toNat < 128 && !c.isAlphanum then some (.literal c, rest) else none

/-- The text behind the blanks and comments that do not count. -/
def skipIgnored : Bool → List Char → List Char
  | _, [] => []
  | true, c :: rest => if c = '\n' then skipIgnored false rest else skipIgnored true rest
  | false, c :: rest =>
    if c = '#' then skipIgnored true rest
    else if Text.isBlank c then skipIgnored false rest
    else c :: rest

/-- The text behind what does not count under the flags. -/
def Flags.skip (flags : Flags) (text : List Char) : List Char :=
  if flags.verbose then skipIgnored false text else text

/-- A part of a class in brackets: one character, which may begin a range, or a set. -/
inductive ClassPart where
  | literal (c : Char)
  | set (set : CharSet)

def classPart? (flags : Flags) : List Char → Option (ClassPart × List Char)
  | [] => none
  | '\\' :: rest =>
    match escape? flags rest with
    | some (.literal c, rest) => some (.literal c, rest)
    | some (.set set, rest) => some (.set set, rest)
    | _ => none
  | c :: rest => some (.literal c, rest)

/-- Read an ASCII class between brackets and colons; the bracket that opens it has been read. -/
def asciiClass? : List Char → Option (CharSet × List Char)
  | ':' :: rest =>
    let (negated, rest) := match rest with
      | '^' :: rest => (true, rest)
      | rest => (false, rest)
    let name := rest.takeWhile (· ≠ ':')
    match rest.drop name.length with
    | ':' :: ']' :: rest =>
      (CharSet.asciiClass? (String.ofList name)).map fun set =>
        (if negated then set.complement else set, rest)
    | _ => none
  | _ => none

inductive ClassOperator where
  | inter
  | diff
  | symmetric

def ClassOperator.apply : ClassOperator → CharSet → CharSet → CharSet
  | .inter => CharSet.inter
  | .diff => CharSet.diff
  | .symmetric => CharSet.symmetricDifference

/-- What has been read of a class: the left side of an operator, if there is one, and the union of
the parts behind it. -/
structure ClassState where
  left : Option (ClassOperator × CharSet)
  parts : CharSet

def ClassState.value (state : ClassState) : CharSet :=
  match state.left with
  | some (operator, left) => operator.apply left state.parts
  | none => state.parts

def ClassState.add (state : ClassState) (set : CharSet) : ClassState :=
  { state with parts := state.parts.union set }

mutual

/-- Read a class; the bracket that opens it has been read. -/
def class? (flags : Flags) (fuel depth : Nat) (text : List Char) :
    Option (CharSet × List Char) :=
  match fuel, depth with
  | fuel + 1, depth + 1 => do
    let text := flags.skip text
    let (negated, text) := match text with
      | '^' :: rest => (true, flags.skip rest)
      | rest => (false, rest)
    let hyphens := text.takeWhile (· = '-')
    let text := flags.skip (text.drop hyphens.length)
    let start : ClassState :=
      ⟨none, if hyphens.isEmpty then CharSet.empty else CharSet.single '-'⟩
    let (start, text) := match hyphens, text with
      | [], ']' :: rest => (start.add (CharSet.single ']'), rest)
      | _, text => (start, text)
    let (set, rest) ← classItems? flags fuel depth start text
    let set := flags.cased set
    some (if negated then set.complement else set, rest)
  | _, _ => none
termination_by structural fuel

/-- Read the parts of a class up to the bracket that closes it. -/
def classItems? (flags : Flags) (fuel depth : Nat) (state : ClassState) (text : List Char) :
    Option (CharSet × List Char) :=
  match fuel with
  | 0 => none
  | fuel + 1 => do
    match flags.skip text with
    | [] => none
    | ']' :: rest => some (state.value, rest)
    | '[' :: rest =>
      match asciiClass? rest with
      | some (set, rest) => classItems? flags fuel depth (state.add set) rest
      | none =>
        let (set, rest) ← class? flags fuel depth rest
        classItems? flags fuel depth (state.add set) rest
    | '&' :: '&' :: rest =>
      classItems? flags fuel depth ⟨some (.inter, state.value), CharSet.empty⟩ rest
    | '-' :: '-' :: rest =>
      classItems? flags fuel depth ⟨some (.diff, state.value), CharSet.empty⟩ rest
    | '~' :: '~' :: rest =>
      classItems? flags fuel depth ⟨some (.symmetric, state.value), CharSet.empty⟩ rest
    | text =>
      let (part, rest) ← classPart? flags text
      let single : Option (CharSet × List Char) :=
        match part with
        | .literal c => some (CharSet.single c, rest)
        | .set set => some (set, rest)
      let (set, rest) ←
        match flags.skip rest with
        | '-' :: behind =>
          match flags.skip behind with
          | ']' :: _ | '-' :: _ => single
          | behind =>
            match part, classPart? flags behind with
            | .literal first, some (.literal last, rest) =>
              if first.toNat ≤ last.toNat then
                some (⟨[(first.toNat, last.toNat)]⟩, rest)
              else none
            | _, _ => none
        | _ => single
      classItems? flags fuel depth (state.add set) rest
termination_by structural fuel

end

def count? (text : List Char) : Option Nat × List Char :=
  let text := text.dropWhile fun c => Text.isBlank c
  let digits := text.takeWhile Char.isDigit
  let value := digits.foldl (fun n c => n * 10 + (c.toNat - 48)) 0
  let rest := (text.drop digits.length).dropWhile fun c => Text.isBlank c
  (if digits.isEmpty || Nat.pow 2 32 ≤ value then none else some value, rest)

/-- Read the bounds of a repetition; the brace that opens them has been read. -/
def bounds? (text : List Char) : Option ((Nat × Option Nat) × List Char) := do
  let (least?, rest) := count? text
  let least ← least?
  match rest with
  | '\x7d' :: rest => some ((least, some least), rest)
  | ',' :: rest =>
    match rest.dropWhile fun c => Text.isBlank c with
    | '\x7d' :: rest => some ((least, none), rest)
    | rest =>
      let (most?, rest) := count? rest
      let most ← most?
      match rest with
      | '\x7d' :: rest => if least ≤ most then some ((least, some most), rest) else none
      | _ => none
  | _ => none

def isGroupName : List Char → Bool
  | [] => false
  | first :: rest =>
    let isLetter := fun c : Char => CharSet.covers letterRanges c.toNat
    let isNumber := fun c : Char => CharSet.covers numberRanges c.toNat
    (first = '_' || isLetter first)
      && rest.all fun c => isLetter c || isNumber c || ['_', '.', '[', ']'].contains c

/-- What has been read of a group: its flags, the branches that are complete and the parts of the
last one, each in reverse, and whether the last thing read can be repeated. -/
structure GroupState where
  flags : Flags
  branches : List Expression := []
  parts : List Expression := []
  repeatable : Bool := false

namespace GroupState

def add (state : GroupState) (part : Expression) : GroupState :=
  { state with parts := part :: state.parts, repeatable := true }

def endBranch (state : GroupState) : GroupState :=
  { state with
    branches := Expression.ofParts state.parts.reverse :: state.branches
    parts := []
    repeatable := false }

def close (state : GroupState) : Expression :=
  Expression.ofBranches state.endBranch.branches.reverse

def repeatLast? (state : GroupState) (least : Nat) (most : Option Nat) (text : List Char) :
    Option (GroupState × List Char) :=
  if !state.repeatable then none
  else match state.parts with
    | [] => none
    | part :: parts =>
      let (marked, text) := match text with
        | '?' :: rest => (true, rest)
        | rest => (false, rest)
      let repetition := Expression.repeated part least most (marked == state.flags.lazyFirst)
      some ({ state with parts := repetition :: parts }, text)

end GroupState

/-- How many groups were opened, and the names they have. -/
structure Groups where
  count : Nat := 0
  names : List String := []

inductive Opening where
  | captured (groups : Groups)
  | uncaptured (flags : Flags)
  | flags (flags : Flags)

/-- Read what opens a group; its parenthesis has been read. -/
def opening? (flags : Flags) (groups : Groups) (text : List Char) :
    Option (Opening × List Char) :=
  let named (text : List Char) : Option (Opening × List Char) :=
    let name := text.takeWhile (· ≠ '>')
    match text.drop name.length with
    | _ :: rest =>
      let word := String.ofList name
      if isGroupName name && !groups.names.contains word then
        some (.captured ⟨groups.count + 1, word :: groups.names⟩, rest)
      else none
    | [] => none
  match text with
  | '?' :: 'P' :: '<' :: rest => named rest
  | '?' :: '<' :: rest => named rest
  | '?' :: ')' :: _ => none
  | '?' :: rest =>
    match flags.read? true [] rest with
    | some (inner, ':', rest) => some (.uncaptured inner, rest)
    | some (inner, _, rest) => some (.flags inner, rest)
    | none => none
  | rest => some (.captured ⟨groups.count + 1, groups.names⟩, rest)

/-- Read the inside of a group up to its end, or to the end of the pattern. -/
def items? (fuel depth : Nat) (state : GroupState) (groups : Groups) (text : List Char) :
    Option (Expression × Groups × List Char) :=
  match fuel with
  | 0 => none
  | fuel + 1 =>
    let flags := state.flags
    match flags.skip text with
    | [] => some (state.close, groups, [])
    | ')' :: rest => some (state.close, groups, ')' :: rest)
    | '|' :: rest => items? fuel depth state.endBranch groups rest
    | '(' :: rest =>
      match depth, opening? flags groups (flags.skip rest) with
      | _, some (.flags inner, rest) =>
        items? fuel depth { state with flags := inner, repeatable := false } groups rest
      | depth + 1, some (.captured opened, rest) =>
        match items? fuel depth ⟨flags, [], [], false⟩ opened rest with
        | some (body, inside, ')' :: rest) =>
          items? fuel (depth + 1) (state.add (.group opened.count body)) inside rest
        | _ => none
      | depth + 1, some (.uncaptured inner, rest) =>
        match items? fuel depth ⟨inner, [], [], false⟩ groups rest with
        | some (body, inside, ')' :: rest) =>
          items? fuel (depth + 1) (state.add body) inside rest
        | _ => none
      | _, _ => none
    | '*' :: rest =>
      match state.repeatLast? 0 none rest with
      | some (state, rest) => items? fuel depth state groups rest
      | none => none
    | '+' :: rest =>
      match state.repeatLast? 1 none rest with
      | some (state, rest) => items? fuel depth state groups rest
      | none => none
    | '?' :: rest =>
      match state.repeatLast? 0 (some 1) rest with
      | some (state, rest) => items? fuel depth state groups rest
      | none => none
    | '\x7b' :: rest =>
      match bounds? rest with
      | some ((least, most), rest) =>
        match state.repeatLast? least most rest with
        | some (state, rest) => items? fuel depth state groups rest
        | none => none
      | none => none
    | '[' :: rest =>
      match class? flags fuel depth rest with
      | some (set, rest) => items? fuel depth (state.add (.one set)) groups rest
      | none => none
    | '.' :: rest =>
      match flags.dot? with
      | some set => items? fuel depth (state.add (.one set)) groups rest
      | none => none
    | '^' :: rest => items? fuel depth (state.add (.place flags.startPlace)) groups rest
    | '$' :: rest => items? fuel depth (state.add (.place flags.endPlace)) groups rest
    | '\\' :: rest =>
      match escape? flags rest with
      | some (.literal c, rest) =>
        items? fuel depth (state.add (.one (flags.cased (.single c)))) groups rest
      | some (.set set, rest) =>
        items? fuel depth (state.add (.one (flags.cased set))) groups rest
      | some (.place assertion, rest) =>
        items? fuel depth (state.add (.place assertion)) groups rest
      | none => none
    | c :: rest =>
      items? fuel depth (state.add (.one (flags.cased (.single c)))) groups rest

def maxDepth : Nat := 250

/-- How heavy an expression may be for this engine. -/
def maxWeight : Nat := 250000

def read? (pattern : String) : Option Expression := do
  let text := pattern.toList
  let (expression, _, rest) ← items? (2 * text.length + 2) maxDepth ⟨{}, [], [], false⟩ {} text
  if rest.isEmpty && expression.weight ≤ maxWeight then some expression else none

end BeanHarvest.Pattern
