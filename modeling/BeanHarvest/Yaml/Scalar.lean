import BeanHarvest.Yaml.Cursor

/-! Scalars in a YAML text: plain and quoted ones, whose lines are folded, and blocks, whose lines
are kept or folded. -/
namespace BeanHarvest.Yaml

/-- Blanks and line ends that stand between two words. Blanks count only before the first line end. -/
structure Gap where
  blanks : List Char
  broken : Bool
  first : List Char
  more : List Char

namespace Gap

def empty : Gap := ⟨[], false, [], []⟩

def addBlank (gap : Gap) (c : Char) : Gap :=
  if gap.broken then gap else { gap with blanks := gap.blanks ++ [c] }

def addBreak (gap : Gap) (c : Char) : Gap :=
  if gap.broken then { gap with more := gap.more ++ [breakText c] }
  else { gap with blanks := [], broken := true, first := [breakText c] }

/-- What the gap stands for: one line end is a space, of several the first is dropped. -/
def text (gap : Gap) : List Char :=
  if gap.broken then
    if gap.first = ['\n'] then (if gap.more.isEmpty then [' '] else gap.more)
    else gap.first ++ gap.more
  else gap.blanks

end Gap

/-- What was read of a scalar: its text so far, backwards, the gap behind it and the place. -/
structure Reading where
  text : List Char
  gap : Gap
  cursor : Cursor

namespace Reading

def start (cursor : Cursor) : Reading := ⟨[], .empty, cursor⟩

/-- Take up characters behind the gap and move on. -/
def take (reading : Reading) (chars : List Char) (cursor : Cursor) : Reading :=
  ⟨chars.reverse ++ reading.gap.text.reverse ++ reading.text, .empty, cursor⟩

def blank (reading : Reading) (c : Char) : Reading :=
  { reading with gap := reading.gap.addBlank c, cursor := reading.cursor.next }

def lineEnd (reading : Reading) (c : Char) : Reading :=
  { reading with gap := reading.gap.addBreak c, cursor := reading.cursor.nextLine }

end Reading

def isFlowMark (c : Char) : Bool := c = ',' || c = '[' || c = ']' || c = '\x7b' || c = '\x7d'

/-- Whether a colon stands before a flow mark, where it can neither end a key nor go on. -/
def strayColon (flow : Bool) : List Char → Bool
  | ':' :: c :: _ => flow && (isFlowMark c || c = '?')
  | _ => false

/-- Whether a plain scalar ends here: before a colon with a blank behind it and, between brackets,
before a flow mark. -/
def plainEnds (flow : Bool) : List Char → Bool
  | [] => true
  | c :: rest => (c = ':' && blankFollows rest) || (flow && isFlowMark c)

/-- Read a plain scalar. Below `indent` a line of a block no longer belongs to it; `word` says that
the last character did. -/
def readPlain (flow : Bool) (indent : Int) :
    (fuel : Nat) → (word : Bool) → Reading → Option Reading
  | 0, _, _ => none
  | fuel + 1, word, reading =>
    match reading.cursor.rest with
    | [] => some reading
    | c :: rest =>
      if isBlank c then
        if reading.gap.broken && reading.cursor.column < indent && c = '\t' then none
        else readPlain flow indent fuel false (reading.blank c)
      else if isBreak c then readPlain flow indent fuel false (reading.lineEnd c)
      else if !word && !reading.text.isEmpty && !flow && reading.cursor.column < indent then
        some reading
      else if !word && (reading.cursor.atDocumentMark || c = '#') then some reading
      else if strayColon flow (c :: rest) then none
      else if plainEnds flow (c :: rest) then some reading
      else readPlain flow indent fuel true (reading.take [c] reading.cursor.next)

def hexValue? (c : Char) : Option Nat :=
  if '0' ≤ c && c ≤ '9' then some (c.toNat - '0'.toNat)
  else if 'a' ≤ c && c ≤ 'f' then some (c.toNat - 'a'.toNat + 10)
  else if 'A' ≤ c && c ≤ 'F' then some (c.toNat - 'A'.toNat + 10)
  else none

def hexChar? (digits : List Char) (count : Nat) : Option Char := do
  if digits.length ≠ count then none
  else
    let values ← digits.mapM hexValue?
    let n := values.foldl (fun n digit => n * 16 + digit) 0
    if (0xD800 ≤ n && n < 0xE000) || 0x10FFFF < n then none else some (Char.ofNat n)

/-- The character of an escape and how many characters it takes behind the backslash. -/
def escape? : List Char → Option (Char × Nat)
  | 'x' :: rest => (hexChar? (rest.take 2) 2).map (·, 3)
  | 'u' :: rest => (hexChar? (rest.take 4) 4).map (·, 5)
  | 'U' :: rest => (hexChar? (rest.take 8) 8).map (·, 9)
  | c :: _ =>
    let code? : Option Nat := match c with
      | '0' => some 0
      | 'a' => some 7
      | 'b' => some 8
      | 't' | '\t' => some 9
      | 'n' => some 10
      | 'v' => some 11
      | 'f' => some 12
      | 'r' => some 13
      | 'e' => some 27
      | ' ' => some 32
      | '"' => some 34
      | '/' => some 47
      | '\\' => some 92
      | 'N' => some 0x85
      | '_' => some 0xA0
      | 'L' => some 0x2028
      | 'P' => some 0x2029
      | _ => none
    code?.map fun code => (Char.ofNat code, 1)
  | [] => none

/-- Read the rest of a quoted scalar, to the quote at its end. -/
def readQuoted (double : Bool) : (fuel : Nat) → Reading → Option Reading
  | 0, _ => none
  | fuel + 1, reading =>
    let cursor := reading.cursor
    if cursor.atDocumentMark then none
    else match cursor.rest with
      | [] => none
      | c :: rest =>
        if isBlank c then readQuoted double fuel (reading.blank c)
        else if isBreak c then readQuoted double fuel (reading.lineEnd c)
        else if double then
          if c = '"' then some (reading.take [] cursor.next)
          else if c = '\\' then
            if !rest.isEmpty && isBreak (rest.headD ' ') then
              let taken := reading.take [] cursor.next.nextLine
              readQuoted double fuel { taken with gap := ⟨[], true, [], []⟩ }
            else match escape? rest with
              | some (escaped, size) =>
                readQuoted double fuel (reading.take [escaped] (cursor.skip (size + 1)))
              | none => none
          else readQuoted double fuel (reading.take [c] cursor.next)
        else match c, rest with
          | '\'', '\'' :: _ => readQuoted double fuel (reading.take ['\''] (cursor.skip 2))
          | '\'', _ => some (reading.take [] cursor.next)
          | _, _ => readQuoted double fuel (reading.take [c] cursor.next)

/-- What becomes of the line ends behind a block: one is kept, none or all. -/
inductive Chomp where
  | clip
  | strip
  | keep
deriving DecidableEq

/-- The header of a block: chomping and indentation in either order. -/
def blockHeader : List Char → Option (Chomp × Nat × Nat)
  | c :: rest =>
    let chomp? : Char → Option Chomp := fun c =>
      if c = '+' then some .keep else if c = '-' then some .strip else none
    let digit? : Char → Option Nat := fun c =>
      if '0' ≤ c && c ≤ '9' then some (c.toNat - '0'.toNat) else none
    match chomp? c, digit? c with
    | some chomp, _ =>
      match rest.head? >>= digit? with
      | some 0 => none
      | some digit => some (chomp, digit, 2)
      | none => some (chomp, 0, 1)
    | none, some 0 => none
    | none, some digit =>
      match rest.head? >>= chomp? with
      | some chomp => some (chomp, digit, 2)
      | none => some (.clip, digit, 1)
    | none, none => some (.clip, 0, 0)
  | [] => some (.clip, 0, 0)

/-- Read empty lines of a block. An `indent` of zero is still to be found out: the deepest column
reached, which comes back beside the line ends. A tab where the indentation should be is refused. -/
def readEmptyLines (indent : Nat) :
    (fuel deepest : Nat) → Cursor → Option (List Char × Nat × Cursor)
  | 0, _, _ => none
  | fuel + 1, deepest, cursor =>
    let room := if indent = 0 then cursor.rest.length else indent - cursor.column
    let cursor := cursor.skip (min room (cursor.rest.takeWhile (· = ' ')).length)
    let deepest := max deepest cursor.column
    match cursor.rest with
    | [] => some ([], deepest, cursor)
    | c :: _ =>
      if c = '\t' && (indent = 0 || cursor.column < indent) then none
      else if isBreak c then
        (readEmptyLines indent fuel deepest cursor.nextLine).map fun (breaks, deepest, cursor) =>
          (breakText c :: breaks, deepest, cursor)
      else some ([], deepest, cursor)

/-- A block being read: its text backwards, the line end and the empty lines behind the last line,
and whether that line began with a blank. -/
structure BlockReading where
  text : List Char
  lineEnd : List Char
  empties : List Char
  blankLine : Bool
  cursor : Cursor

def readBlockLines (fold : Bool) (indent : Nat) :
    (fuel : Nat) → BlockReading → Option BlockReading
  | 0, _ => none
  | fuel + 1, reading =>
    let cursor := reading.cursor
    match cursor.rest with
    | [] => some reading
    | c :: _ =>
      if cursor.column ≠ indent then some reading
      else
        let blank := isBlank c
        let joint :=
          if fold && reading.lineEnd = ['\n'] && !reading.blankLine && !blank then
            (if reading.empties.isEmpty then [' '] else [])
          else reading.lineEnd
        let line := cursor.rest.takeWhile (! isBreak ·)
        let behind := cursor.skipToBreak
        let lineEnd := match behind.rest with
          | [] => []
          | c :: _ => [breakText c]
        match readEmptyLines indent (behind.rest.length + 1) 0 behind.nextLine with
        | none => none
        | some (empties, _, cursor) =>
          readBlockLines fold indent fuel
            { text := line.reverse ++ reading.empties.reverse ++ joint.reverse ++ reading.text
              lineEnd := lineEnd
              empties := empties
              blankLine := blank
              cursor := cursor }

/-- Read a block behind its mark; `parent` is the indentation of what it stands in. -/
def readBlock (fold : Bool) (parent : Int) (cursor : Cursor) : Option (List Char × Cursor) := do
  let (chomp, increment, size) ← blockHeader cursor.rest
  let cursor := (cursor.skip size).skipWhile isBlank
  let cursor := match cursor.rest with
    | '#' :: _ => cursor.skipToBreak
    | _ => cursor
  if !(match cursor.rest with | [] => true | c :: _ => isBreak c) then none
  else
    let fixed := if increment = 0 then 0 else parent.toNat + increment
    let (empties, deepest, cursor) ←
      readEmptyLines fixed (cursor.rest.length + 1) 0 cursor.nextLine
    let indent := if fixed = 0 then max (max deepest (parent + 1).toNat) 1 else fixed
    let reading ← readBlockLines fold indent (cursor.rest.length + 1) ⟨[], [], empties, false, cursor⟩
    let text := match chomp with
      | .strip => reading.text
      | .clip => reading.lineEnd.reverse ++ reading.text
      | .keep => reading.empties.reverse ++ reading.lineEnd.reverse ++ reading.text
    some (text.reverse, reading.cursor)

end BeanHarvest.Yaml
