import BeanHarvest.Yaml.Scalar

/-! The tokens of a YAML text. Where a block begins shows only once its first key or item is
complete, so a place that may turn out to begin a key is remembered until a colon or the end of the
line decides. -/
namespace BeanHarvest.Yaml

inductive Token where
  | version (major minor : Nat)
  | tagHandle (handle lead : String)
  | documentStart
  | documentEnd
  | blockSequenceStart
  | blockMappingStart
  | blockEnd
  | flowSequenceStart
  | flowSequenceEnd
  | flowMappingStart
  | flowMappingEnd
  | blockEntry
  | flowEntry
  | key
  | value
  | reference (name : String)
  | anchor (name : String)
  | tag (handle suffix : String)
  | scalar (text : String) (plain : Bool)
deriving DecidableEq, Repr

/-- A place that may begin a key: how many tokens stand before it. A `required` one has to. -/
structure KeyPlace where
  required : Bool
  tokens : Nat
  index : Nat
  line : Nat
  column : Nat

/-- The state of reading tokens: the place, the tokens so far, the columns of the open blocks, the
possible key of each level of brackets, and whether a key may begin here. -/
structure Lexer where
  cursor : Cursor
  tokens : Array Token
  indent : Int
  outer : List Int
  flow : Nat
  places : List (Option KeyPlace)
  keyAllowed : Bool

namespace Lexer

def start (text : List Char) : Lexer :=
  { cursor := .ofText text, tokens := #[], indent := -1, outer := [], flow := 0, places := [none],
    keyAllowed := true }

def push (lexer : Lexer) (token : Token) : Lexer := { lexer with tokens := lexer.tokens.push token }

def insert (lexer : Lexer) (position : Nat) (token : Token) : Lexer :=
  let before := lexer.tokens.extract 0 position
  let after := lexer.tokens.extract position lexer.tokens.size
  { lexer with tokens := before.push token ++ after }

def place? (lexer : Lexer) : Option KeyPlace := lexer.places.head?.join

def setPlace (lexer : Lexer) (place : Option KeyPlace) : Lexer :=
  { lexer with places := place :: lexer.places.drop 1 }

/-- Forget the possible key here; a required one must not be forgotten. -/
def dropPlace? (lexer : Lexer) : Option Lexer :=
  match lexer.place? with
  | some place => if place.required then none else some (lexer.setPlace none)
  | none => some lexer

/-- Remember that a key may begin here. -/
def markPlace? (lexer : Lexer) : Option Lexer :=
  if lexer.keyAllowed then do
    let cleared ← lexer.dropPlace?
    let cursor := lexer.cursor
    let required := lexer.flow = 0 && lexer.indent = (cursor.column : Int)
    some (cleared.setPlace (some
      ⟨required, lexer.tokens.size, cursor.index, cursor.line, cursor.column⟩))
  else some lexer

/-- Forget the possible keys that ended with their line or grew too long. -/
def dropStale? (lexer : Lexer) : Option Lexer := do
  let places ← lexer.places.mapM fun place? =>
    match place? with
    | some place =>
      if place.line < lexer.cursor.line || place.index + 1024 < lexer.cursor.index then
        if place.required then none else some none
      else some (some place)
    | none => some none
  some { lexer with places }

/-- Open a block at a column, its token standing at a position. -/
def openBlock (lexer : Lexer) (column position : Nat) (token : Token) : Lexer :=
  if lexer.flow = 0 && lexer.indent < column then
    { lexer.insert position token with
      outer := lexer.indent :: lexer.outer, indent := column }
  else lexer

/-- Close the blocks that begin behind a column. -/
def closeBlocks (column : Int) (tokens : Array Token) (indent : Int) :
    List Int → Array Token × Int × List Int
  | [] => (tokens, indent, [])
  | parent :: others =>
    if column < indent then closeBlocks column (tokens.push .blockEnd) parent others
    else (tokens, indent, parent :: others)

def closeTo (lexer : Lexer) (column : Int) : Lexer :=
  if lexer.flow = 0 then
    let (tokens, indent, outer) := closeBlocks column lexer.tokens lexer.indent lexer.outer
    { lexer with tokens, indent, outer }
  else lexer

/-- Step over blanks, comments and line ends. A tab is blank only where no key may begin. -/
def skipGap (lexer : Lexer) : (fuel : Nat) → Lexer
  | 0 => lexer
  | fuel + 1 =>
    let tabs := 0 < lexer.flow || !lexer.keyAllowed
    let cursor := lexer.cursor.skipWhile fun c => c = ' ' || (tabs && c = '\t')
    let cursor := match cursor.rest with
      | '#' :: _ => cursor.skipToBreak
      | _ => cursor
    match cursor.rest with
    | c :: _ =>
      if isBreak c then
        skipGap { lexer with
          cursor := cursor.nextLine, keyAllowed := lexer.keyAllowed || lexer.flow = 0 } fuel
      else { lexer with cursor }
    | [] => { lexer with cursor }

def advance (lexer : Lexer) (count : Nat) : Lexer :=
  { lexer with cursor := lexer.cursor.skip count }

def allow (lexer : Lexer) (keyAllowed : Bool) : Lexer := { lexer with keyAllowed }

def documentMark? (lexer : Lexer) (token : Token) : Option Lexer := do
  let lexer ← (lexer.closeTo (-1)).dropPlace?
  some (((lexer.allow false).advance 3).push token)

def flowStart? (lexer : Lexer) (token : Token) : Option Lexer := do
  let lexer ← lexer.markPlace?
  let opened := { lexer with places := none :: lexer.places, flow := lexer.flow + 1 }
  some (((opened.allow true).advance 1).push token)

def flowEnd? (lexer : Lexer) (token : Token) : Option Lexer := do
  let lexer ← lexer.dropPlace?
  let closed := if lexer.flow = 0 then lexer
    else { lexer with places := lexer.places.drop 1, flow := lexer.flow - 1 }
  some (((closed.allow false).advance 1).push token)

def flowEntry? (lexer : Lexer) : Option Lexer := do
  let lexer ← lexer.dropPlace?
  some (((lexer.allow true).advance 1).push .flowEntry)

def blockEntry? (lexer : Lexer) : Option Lexer := do
  if lexer.flow = 0 && !lexer.keyAllowed then none
  else
    let opened := lexer.openBlock lexer.cursor.column lexer.tokens.size .blockSequenceStart
    let lexer ← opened.dropPlace?
    some (((lexer.allow true).advance 1).push .blockEntry)

def explicitKey? (lexer : Lexer) : Option Lexer := do
  if lexer.flow = 0 && !lexer.keyAllowed then none
  else
    let opened := lexer.openBlock lexer.cursor.column lexer.tokens.size .blockMappingStart
    let lexer ← opened.dropPlace?
    some (((lexer.allow (lexer.flow = 0)).advance 1).push .key)

/-- A colon: it makes a key of what stood at the remembered place, or is a value by itself. -/
def value? (lexer : Lexer) : Option Lexer :=
  match lexer.place? with
  | some place =>
    let keyed := lexer.insert place.tokens .key
    let opened := keyed.openBlock place.column place.tokens .blockMappingStart
    some ((((opened.setPlace none).allow false).advance 1).push .value)
  | none =>
    if lexer.flow = 0 && !lexer.keyAllowed then none
    else
      let opened := lexer.openBlock lexer.cursor.column lexer.tokens.size .blockMappingStart
      some (((opened.allow (lexer.flow = 0)).advance 1).push .value)

/-- An anchor or an alias: a name behind its mark. -/
def name? (lexer : Lexer) (token : String → Token) : Option Lexer := do
  let lexer ← lexer.markPlace?
  let inside := lexer.cursor.next
  let name := inside.rest.takeWhile isWordChar
  let behind := inside.skip name.length
  let ended := match behind.rest with
    | [] => true
    | c :: _ => isBlank c || isBreak c || ['?', ':', ',', ']', '\x7d', '%', '@', '\x60'].contains c
  if name.isEmpty || !ended then none
  else some ({ lexer.allow false with cursor := behind }.push (token (String.ofList name)))

def isTagChar (verbatim : Bool) (c : Char) : Bool :=
  isWordChar c || ";/?:@&=+$.!~*'()%".toList.contains c || (verbatim && ",[]".toList.contains c)

/-- The text of part of a tag, in which bytes may be written in hexadecimal. -/
def tagText? : (fuel : Nat) → List Char → Option (List Char)
  | 0, _ => none
  | _ + 1, [] => some []
  | fuel + 1, '%' :: a :: b :: rest => do
    let high ← hexValue? a
    let low ← hexValue? b
    let others ← tagText? fuel rest
    some (Char.ofNat (high * 16 + low) :: others)
  | fuel + 1, c :: rest => if c = '%' then none else (tagText? fuel rest).map (c :: ·)

/-- Read a tag: verbatim between angle brackets, or a handle and a suffix. -/
def tag? (lexer : Lexer) : Option Lexer := do
  let lexer ← lexer.markPlace?
  let (handle, raw, behind) ←
    match lexer.cursor.rest with
    | '!' :: '<' :: rest =>
      let text := rest.takeWhile (isTagChar true)
      match rest.drop text.length with
      | '>' :: _ => if text.isEmpty then none else some ("", text, lexer.cursor.skip (text.length + 3))
      | _ => none
    | _ :: rest =>
      let word := rest.takeWhile isWordChar
      match rest.drop word.length with
      | '!' :: more =>
        let suffix := more.takeWhile (isTagChar false)
        if suffix.isEmpty then none
        else some (String.ofList ('!' :: word ++ ['!']), suffix,
          lexer.cursor.skip (word.length + 2 + suffix.length))
      | _ =>
        let suffix := rest.takeWhile (isTagChar false)
        if suffix.isEmpty then some ("", ['!'], lexer.cursor.skip 1)
        else some ("!", suffix, lexer.cursor.skip (suffix.length + 1))
    | [] => none
  let text ← tagText? (raw.length + 1) raw
  let ended := blankFollows behind.rest || (0 < lexer.flow && behind.rest.head? = some ',')
  if ended then
    some ({ lexer.allow false with cursor := behind }.push (.tag handle (String.ofList text)))
  else none

def block? (lexer : Lexer) (fold : Bool) : Option Lexer := do
  let lexer ← lexer.dropPlace?
  let (text, cursor) ← readBlock fold lexer.indent lexer.cursor.next
  some ({ lexer.allow true with cursor }.push (.scalar (String.ofList text) false))

def quoted? (lexer : Lexer) (double : Bool) : Option Lexer := do
  let lexer ← lexer.markPlace?
  let reading ← readQuoted double (lexer.cursor.rest.length + 1) (.start lexer.cursor.next)
  some ({ lexer.allow false with cursor := reading.cursor }.push
    (.scalar (String.ofList reading.text.reverse) false))

def plain? (lexer : Lexer) : Option Lexer := do
  let lexer ← lexer.markPlace?
  let reading ← readPlain (0 < lexer.flow) (lexer.indent + 1) (lexer.cursor.rest.length + 1) false
    (.start lexer.cursor)
  some ({ lexer.allow reading.gap.broken with cursor := reading.cursor }.push
    (.scalar (String.ofList reading.text.reverse) true))

/-- Digits of a version number, at most nine. -/
def versionNumber? (cursor : Cursor) : Option (Nat × Cursor) :=
  let digits := cursor.rest.takeWhile fun c => '0' ≤ c && c ≤ '9'
  if digits.isEmpty || 9 < digits.length then none
  else some (digits.foldl (fun n c => n * 10 + (c.toNat - '0'.toNat)) 0, cursor.skip digits.length)

/-- A directive: a version, or what a handle of tags stands for. Nothing else may follow on the
line. -/
def directive? (lexer : Lexer) : Option Lexer := do
  let lexer ← (lexer.closeTo (-1)).dropPlace?
  let lexer := lexer.allow false
  let inside := lexer.cursor.next
  let name := inside.rest.takeWhile isWordChar
  let behind := inside.skip name.length
  if !blankFollows behind.rest then none
  else
    let cursor := behind.skipWhile isBlank
    let (token, cursor) ←
      if name = "YAML".toList then do
        let (major, cursor) ← versionNumber? cursor
        match cursor.rest with
        | '.' :: _ =>
          let (minor, cursor) ← versionNumber? cursor.next
          some (Token.version major minor, cursor)
        | _ => none
      else if name = "TAG".toList then do
        let handle := cursor.rest.takeWhile fun c => isWordChar c || c = '!'
        let cursor := cursor.skip handle.length
        let valid := handle.head? = some '!' && handle.getLast? = some '!'
          && (handle.filter (· = '!')).length ≤ 2
        if !valid || !(cursor.rest.head?.any isBlank) then none
        else
          let cursor := cursor.skipWhile isBlank
          let lead := cursor.rest.takeWhile (isTagChar true)
          let cursor := cursor.skip lead.length
          if lead.isEmpty || !blankFollows cursor.rest then none
          else
            let lead ← tagText? (lead.length + 1) lead
            some (Token.tagHandle (String.ofList handle) (String.ofList lead), cursor)
      else none
    let cursor := cursor.skipWhile isBlank
    let cursor := match cursor.rest with
      | '#' :: _ => cursor.skipToBreak
      | _ => cursor
    match cursor.rest with
    | [] => some ({ lexer with cursor }.push token)
    | c :: _ => if isBreak c then some ({ lexer with cursor := cursor.nextLine }.push token) else none

/-- The characters that no plain scalar begins with, unless more is known of what follows. -/
def isIndicator (c : Char) : Bool := "-?:,[]\x7b\x7d#&*!|>'\"%@`".toList.contains c

/-- Read one token at a character other than a blank. -/
def token? (lexer : Lexer) : Option Lexer :=
  let cursor := lexer.cursor
  let inFlow := 0 < lexer.flow
  match cursor.rest with
  | [] => none
  | c :: rest =>
    if cursor.column = 0 && c = '%' then lexer.directive?
    else if cursor.atDocumentMark then
      lexer.documentMark? (if c = '-' then .documentStart else .documentEnd)
    else if c = '[' then lexer.flowStart? .flowSequenceStart
    else if c = '\x7b' then lexer.flowStart? .flowMappingStart
    else if c = ']' then lexer.flowEnd? .flowSequenceEnd
    else if c = '\x7d' then lexer.flowEnd? .flowMappingEnd
    else if c = ',' then lexer.flowEntry?
    else if c = '-' && blankFollows rest then lexer.blockEntry?
    else if c = '?' && (inFlow || blankFollows rest) then lexer.explicitKey?
    else if c = ':' && (inFlow || blankFollows rest) then lexer.value?
    else if c = '*' then lexer.name? .reference
    else if c = '&' then lexer.name? .anchor
    else if c = '!' then lexer.tag?
    else if c = '|' && !inFlow then lexer.block? false
    else if c = '>' && !inFlow then lexer.block? true
    else if c = '\'' then lexer.quoted? false
    else if c = '"' then lexer.quoted? true
    else if !isIndicator c && c ≠ '\t' || (c = '-' && !(rest.head?.any isBlank))
        || (!inFlow && (c = '?' || c = ':')) then
      lexer.plain?
    else none

/-- Read all tokens; each takes at least one character. -/
def run : (fuel : Nat) → Lexer → Option (Array Token)
  | 0, _ => none
  | fuel + 1, lexer => do
    let lexer ← (lexer.skipGap (lexer.cursor.rest.length + 1)).dropStale?
    let lexer := lexer.closeTo lexer.cursor.column
    if lexer.cursor.rest.isEmpty then
      let lexer ← (lexer.closeTo (-1)).dropPlace?
      some lexer.tokens
    else
      let lexer ← lexer.token?
      run fuel lexer

end Lexer

/-- The tokens of a text. A mark of byte order may stand before it. -/
def tokens? (text : String) : Option (List Token) :=
  let chars := match text.toList with
    | c :: rest => if c.toNat = 0xFEFF then rest else c :: rest
    | [] => []
  if chars.all isAllowed then
    (Lexer.run (chars.length + 1) (.start chars)).map Array.toList
  else none

end BeanHarvest.Yaml
