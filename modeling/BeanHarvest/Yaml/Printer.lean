import BeanHarvest.Json.Value
import BeanHarvest.Yaml.Value

/-! Documents as YAML text in block style. A text is written plain where it would be read back as that
text; elsewhere it stands in quotes, or as a block of lines if it has several. -/
namespace BeanHarvest.Yaml

inductive ScalarStyle where
  | plain
  | single
  | double
  | block
deriving DecidableEq, Repr, Inhabited

def isShown (c : Char) : Bool :=
  let n := c.toNat
  n = 10 || (0x20 ≤ n && n ≤ 0x7E) || (0xA0 ≤ n && n ≤ 0xD7FF)
    || (0xE000 ≤ n && n ≤ 0xFFFD && n ≠ 0xFEFF)

def truthWords : List String :=
  ["y", "Y", "yes", "Yes", "YES", "n", "N", "no", "No", "NO", "true", "True", "TRUE", "false",
    "False", "FALSE", "on", "On", "ON", "off", "Off", "OFF"]

def openingMarks : List Char :=
  ['#', ',', '[', ']', '\x7b', '\x7d', '&', '*', '!', '|', '>', '\'', '"', '%', '@', '\x60']

/-- Whether a mark comes inside a text: a colon before a blank, or a hash behind one. -/
def hasInnerMark : (afterBlank : Bool) → List Char → Bool
  | _, [] => false
  | afterBlank, c :: rest =>
    (c = ':' && blankFollows rest) || (c = '#' && afterBlank)
      || hasInnerMark (isBlank c || isBreak c) rest

/-- Whether a text would not be read as a plain text because of marks. -/
def hasMark : List Char → Bool
  | [] => false
  | c :: rest =>
    openingMarks.contains c
      || ((c = '?' || c = ':' || c = '-') && blankFollows rest)
      || ["---".toList, "...".toList].contains ((c :: rest).take 3)
      || hasInnerMark (isBlank c || isBreak c) rest

/-- Whether two neighbours in a text satisfy a condition. -/
def anyNeighbours (holds : Char → Char → Bool) : List Char → Bool
  | a :: b :: rest => holds a b || anyNeighbours holds (b :: rest)
  | _ => false

def allowsSingle (text : List Char) : Bool :=
  text.all isShown
    && !anyNeighbours (fun a b => (isBreak a && b = ' ') || (a = ' ' && isBreak b)) text

def allowsPlain (text : List Char) : Bool :=
  allowsSingle text && !text.any isBreak && text.head? ≠ some ' ' && text.getLast? ≠ some ' '
    && !hasMark text

def allowsBlock (text : List Char) : Bool :=
  text.all isShown && !anyNeighbours (fun a b => a = ' ' && isBreak b) text
    && text.getLast? ≠ some ' '

/-- Whether a plain text would be read as that text. -/
def isOwnMeaning (text : String) : Bool :=
  match plain? text with
  | some (.string _) => !paddedDigits text.toList
  | _ => false

def styleOf (text : String) : ScalarStyle :=
  let chars := text.toList
  if truthWords.contains text || !isOwnMeaning text && !chars.contains '\n' then
    if allowsSingle chars then .single else .double
  else if chars.contains '\n' then if allowsBlock chars then .block else .double
  else if allowsPlain chars then .plain
  else if allowsSingle chars then .single
  else .double

/-- A text whose lines begin at some depth. -/
def indented (depth : Nat) : (atStart : Bool) → List Char → List Char
  | _, [] => []
  | atStart, c :: rest =>
    if isBreak c then c :: indented depth true rest
    else if atStart then List.replicate depth ' ' ++ c :: indented depth false rest
    else c :: indented depth false rest

def hexText (width n : Nat) : List Char :=
  let digits := (Nat.toDigits 16 n).map fun d =>
    if 'a' ≤ d then Char.ofNat (d.toNat - 32) else d
  List.replicate (width - digits.length) '0' ++ digits

/-- The letters that stand for characters behind a backslash. -/
def escapeLetters : List (Nat × Char) :=
  [(0, '0'), (7, 'a'), (8, 'b'), (9, 't'), (10, 'n'), (11, 'v'), (12, 'f'), (13, 'r'), (27, 'e'),
    (34, '"'), (92, '\\'), (0x85, 'N'), (0xA0, '_'), (0x2028, 'L'), (0x2029, 'P')]

def escape (c : Char) : List Char :=
  let n := c.toNat
  if isShown c && !isBreak c && c ≠ '"' && c ≠ '\\' then [c]
  else match escapeLetters.find? (·.1 = n) with
    | some (_, letter) => ['\\', letter]
    | none =>
      if n < 0x100 then '\\' :: 'x' :: hexText 2 n
      else if n < 0x10000 then '\\' :: 'u' :: hexText 4 n
      else '\\' :: 'U' :: hexText 8 n

/-- The header of a block: the depth if its first line does not show it, and whether its last line
ends. -/
def blockMark (text : List Char) : String :=
  let first := if text.head?.any fun c => c = ' ' || isBreak c then "2" else ""
  let last := match text.reverse with
    | [] => "-"
    | c :: others =>
      if !isBreak c then "-" else if others.isEmpty || others.head?.any isBreak then "+" else ""
  "|" ++ first ++ last

/-- A text as it is written on a line and, if it is a block, on lines of their own at a depth; the last
of them ends. -/
def scalarLine (depth : Nat) (text : String) : String :=
  let chars := text.toList
  match styleOf text with
  | .plain => text ++ "\n"
  | .single =>
    let doubled := chars.flatMap fun c => if c = '\'' then ['\'', '\''] else [c]
    "'" ++ String.ofList (indented depth false doubled) ++ "'\n"
  | .double => "\"" ++ String.ofList (chars.flatMap escape) ++ "\"\n"
  | .block =>
    blockMark chars ++ "\n" ++ String.ofList (indented depth true chars)
      ++ if chars.getLast?.any isBreak then "" else "\n"

def keyWord (key : String) : String := String.ofList ((scalarLine 0 key).toList.dropLast)

def pad (depth : Nat) : String := String.ofList (List.replicate depth ' ')

mutual

/-- A value behind a key at some depth, up to the end of its last line. -/
def valueText (depth : Nat) : Json → String
  | .null => " null\n"
  | .bool value => if value then " true\n" else " false\n"
  | .number value => " " ++ numberText value ++ "\n"
  | .string text => " " ++ scalarLine (depth + 2) text
  | .array [] => " []\n"
  | .array (item :: rest) => "\n" ++ itemsText depth true (item :: rest)
  | .object [] => " \x7b\x7d\n"
  | .object (field :: rest) => "\n" ++ fieldsText (depth + 2) true (field :: rest)

/-- Items at some depth; `padded` says whether the first line is still to be indented. -/
def itemsText (depth : Nat) (padded : Bool) : List Json → String
  | [] => ""
  | item :: rest =>
    (if padded then pad depth else "") ++ "-" ++ itemText depth item ++ itemsText depth true rest

def itemText (depth : Nat) : Json → String
  | .null => " null\n"
  | .bool value => if value then " true\n" else " false\n"
  | .number value => " " ++ numberText value ++ "\n"
  | .string text => " " ++ scalarLine (depth + 2) text
  | .array [] => " []\n"
  | .array (item :: rest) => " " ++ itemsText (depth + 2) false (item :: rest)
  | .object [] => " \x7b\x7d\n"
  | .object (field :: rest) => " " ++ fieldsText (depth + 2) false (field :: rest)

def fieldsText (depth : Nat) (padded : Bool) : List (String × Json) → String
  | [] => ""
  | (key, value) :: rest =>
    (if padded then pad depth else "") ++ keyWord key ++ ":" ++ valueText depth value
      ++ fieldsText depth true rest

end

def ofDocument : Json → String
  | .array (item :: rest) => itemsText 0 true (item :: rest)
  | .object (field :: rest) => fieldsText 0 true (field :: rest)
  | .array [] => "[]\n"
  | .object [] => "\x7b\x7d\n"
  | .string text => scalarLine 2 text
  | .null => "null\n"
  | .bool value => if value then "true\n" else "false\n"
  | .number value => numberText value ++ "\n"

end BeanHarvest.Yaml
