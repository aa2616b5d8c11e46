import BeanHarvest.Text.Lower
import BeanHarvest.Url.Address

namespace BeanHarvest

/-- A URL in its parts, each as it is written in the normal form. -/
structure Url where
  scheme : String
  authority : Option String
  path : String
  query : Option String
  fragment : Option String
deriving DecidableEq, Repr

namespace Url

inductive Fault where
  | relative
  | emptyHost
  | invalidPort
  | invalidV4
  | invalidV6
  | invalidDomain
  | invalidHostCharacter
deriving DecidableEq, Repr

def Fault.message : Fault → String
  | .relative => "relative URL without a base"
  | .emptyHost => "empty host"
  | .invalidPort => "invalid port number"
  | .invalidV4 => "invalid IPv4 address"
  | .invalidV6 => "invalid IPv6 address"
  | .invalidDomain => "invalid international domain name"
  | .invalidHostCharacter => "invalid domain character"

def text (url : Url) : String :=
  url.scheme ++ ":" ++ (url.authority.map ("//" ++ ·)).getD "" ++ url.path
    ++ (url.query.map ("?" ++ ·)).getD "" ++ (url.fragment.map ("#" ++ ·)).getD ""

/-- The part of an authority behind a name and a password. -/
def hostPart (authority : String) : String :=
  match Text.cut? (· = '@') authority.toList with
  | some (_, host) => String.ofList host
  | none => authority

/-- The URL without a name and a password. -/
def withoutUser (url : Url) : Url := { url with authority := url.authority.map hostPart }

/-- Whether the URL is of the web and names a host. -/
def isOfWeb (url : Url) : Bool :=
  (url.scheme = "http" || url.scheme = "https") && url.authority.any (!·.isEmpty)

inductive Kind where
  | file
  | web
  | other
deriving DecidableEq, Repr

def Kind.ofScheme (scheme : String) : Kind :=
  if scheme = "file" then .file
  else if ["http", "https", "ws", "wss", "ftp"].contains scheme then .web
  else .other

/-- Whether a kind reads a backslash as a slash. -/
def Kind.isSpecial (kind : Kind) : Bool := kind ≠ .other

def defaultPort? : String → Option Nat
  | "http" | "ws" => some 80
  | "https" | "wss" => some 443
  | "ftp" => some 21
  | _ => none

def bytes (text : List Char) : List UInt8 := (String.ofList text).toUTF8.toList

/-- A byte behind a percent sign, as two digits. -/
def escapedByte (byte : UInt8) : List Char :=
  let digits := (Nat.toDigits 16 byte.toNat).map Char.toUpper
  '%' :: List.replicate (2 - digits.length) '0' ++ digits

/-- Escape the bytes of all characters outside ASCII, of controls, and of some more characters. -/
def escaped (more : List Char) (text : List Char) : List Char :=
  text.flatMap fun c =>
    if c.toNat < 0x20 || 0x7E < c.toNat || more.contains c then
      (bytes [c]).flatMap escapedByte
    else [c]

def queryEscapes (kind : Kind) : List Char :=
  [' ', '"', '#', '<', '>'] ++ (if kind.isSpecial then ['\''] else [])

def fragmentEscapes : List Char := [' ', '"', '<', '>', '\x60']

def pathEscapes : List Char := fragmentEscapes ++ ['#', '?', '\x7b', '\x7d', '^']

def userEscapes : List Char :=
  pathEscapes ++ ['/', ':', ';', '=', '@', '[', '\\', ']', '|']

/-- The bytes of a text with its percent escapes undone. -/
def unescaped : List Char → List UInt8
  | [] => []
  | '%' :: a :: b :: rest =>
    match Address.digitValue? a, Address.digitValue? b with
    | some high, some low => UInt8.ofNat (high * 16 + low) :: unescaped rest
    | _, _ => UInt8.ofNat 0x25 :: unescaped (a :: b :: rest)
  | c :: rest => bytes [c] ++ unescaped rest

def deniedInDomain (c : Char) : Bool :=
  c.toNat ≤ 0x20 || c.toNat = 0x7F || "%#/:<>?@[\\]^|".toList.contains c

def deniedInHost (c : Char) : Bool :=
  ['\x00', '\t', '\n', '\r', ' ', '#', '/', ':', '<', '>', '?', '@', '[', '\\', ']', '^', '|'].contains c

def adaptedBias (delta count : Nat) (first : Bool) : Nat :=
  let delta := if first then delta / 700 else delta / 2
  let delta := delta + delta / count
  go delta 0 delta
where
  /-- Divide until the remainder is small. -/
  go : (fuel base delta : Nat) → Nat
    | 0, base, delta => base + 36 * delta / (delta + 38)
    | fuel + 1, base, delta =>
      if 455 < delta then go fuel (base + 36) (delta / 35) else base + 36 * delta / (delta + 38)

def labelDigit (value : Nat) : Char :=
  if value < 26 then Char.ofNat (97 + value) else Char.ofNat (22 + value)

def labelNumber (bias : Nat) : (fuel k q : Nat) → List Char
  | 0, _, q => [labelDigit q]
  | fuel + 1, k, q =>
    let threshold := if k ≤ bias then 1 else if bias + 26 ≤ k then 26 else k - bias
    if q < threshold then [labelDigit q]
    else labelDigit (threshold + (q - threshold) % (36 - threshold))
      :: labelNumber bias fuel (k + 36) ((q - threshold) / (36 - threshold))

/-- State of the encoding of a label: the code point reached, the delta, the bias and the number of
characters done, with the digits written, the last ones first. -/
structure LabelState where
  point : Nat
  delta : Nat
  bias : Nat
  handled : Nat
  written : List (List Char)

def asciiLabel (label : List Char) : List Char :=
  let basic := label.filter (·.toNat < 128)
  let points := ((label.map Char.toNat).filter (128 ≤ ·)).mergeSort.eraseReps
  let step (state : LabelState) (point : Nat) : LabelState :=
    let start := { state with delta := state.delta + (point - state.point) * (state.handled + 1) }
    let after := label.foldl (fun (state : LabelState) c =>
      if c.toNat < point then { state with delta := state.delta + 1 }
      else if c.toNat = point then
        { state with
          delta := 0
          bias := adaptedBias state.delta (state.handled + 1) (state.handled = basic.length)
          handled := state.handled + 1
          written := labelNumber state.bias (state.delta + 1) 36 state.delta :: state.written }
      else state) start
    { after with point := point + 1, delta := after.delta + 1 }
  let final := points.foldl step ⟨128, 0, 72, basic.length, []⟩
  "xn--".toList ++ basic ++ (if basic.isEmpty then [] else ['-']) ++ final.written.reverse.flatten

def labelDigit? (c : Char) : Option Nat :=
  if 'a' ≤ c && c ≤ 'z' then some (c.toNat - 97)
  else if '0' ≤ c && c ≤ '9' then some (c.toNat - 22)
  else none

/-- Read the digits behind the ASCII letters of a label. `sum` is what they come to since `begun`;
`weight` and `k` are those of the next digit. -/
def readLabel (point bias sum begun weight k : Nat) (label : List Char) :
    List Char → Option (List Char)
  | [] => if k = 36 then some label else none
  | c :: rest =>
    match labelDigit? c with
    | none => none
    | some digit =>
      let sum := sum + digit * weight
      let threshold := if k ≤ bias then 1 else if bias + 26 ≤ k then 26 else k - bias
      if digit < threshold then
        let count := label.length + 1
        let point := point + sum / count
        let place := sum % count
        if Nat.isValidChar point then
          readLabel point (adaptedBias (sum - begun) count (begun = 0)) (place + 1) (place + 1) 1 36
            (label.take place ++ Char.ofNat point :: label.drop place) rest
        else none
      else readLabel point bias sum begun (weight * (36 - threshold)) (k + 36) label rest

/-- The label that ASCII letters behind the mark stand for. -/
def labelOfAscii? (text : List Char) : Option (List Char) :=
  match Text.cut? (· = '-') text.reverse with
  | some (digits, basic) =>
    if basic.isEmpty then readLabel 128 72 0 0 1 36 [] text
    else readLabel 128 72 0 0 1 36 basic.reverse digits.reverse
  | none => readLabel 128 72 0 0 1 36 [] text

/-- Whether a label in ASCII is as it should be: behind the mark stands a label outside ASCII in small
letters, in its own encoding. -/
def isSoundLabel (label : List Char) : Bool :=
  match Text.afterPrefix? "xn--".toList label with
  | none => true
  | some text =>
    match labelOfAscii? text with
    | none => false
    | some found =>
      found.any (128 ≤ ·.toNat) && Text.lower found = found && asciiLabel found = label

def domain? (host : List Char) : Option (List Char) := do
  let raw := ByteArray.mk (unescaped host).toArray
  if h : raw.IsValidUTF8 then
    let lowered := Text.lower (String.ofByteArray raw h).toList
    if lowered.any deniedInDomain || lowered.contains (Char.ofNat 0xFFFD) then none
    else
      let given := Text.pieces (· = '.') lowered
      let labels := given.map fun label =>
        if label.all (·.toNat < 128) then label else asciiLabel label
      if given.all isSoundLabel then some (Text.joinWith ['.'] labels) else none
  else none

def readHost (kind : Kind) (text : List Char) : Except Fault String :=
  match text with
  | '[' :: rest =>
    if rest.getLast? = some ']' then
      match Address.v6? rest.dropLast with
      | some groups => .ok ("[" ++ Address.textV6 groups ++ "]")
      | none => .error .invalidV6
    else .error .invalidV6
  | _ =>
    if kind.isSpecial then
      match domain? text with
      | none => .error .invalidDomain
      | some domain =>
        if domain.isEmpty then .error .emptyHost
        else if Address.endsInNumber domain then
          match Address.looseV4? domain with
          | some address => .ok (Address.textV4 address)
          | none => .error .invalidV4
        else .ok (String.ofList domain)
    else if text.any deniedInHost then .error .invalidHostCharacter
    else .ok (String.ofList (escaped [] text))

def endsAuthority (kind : Kind) (c : Char) : Bool :=
  c = '/' || c = '?' || c = '#' || (kind.isSpecial && c = '\\')

def cutAtLastAt? (text : List Char) : Option (List Char × List Char) :=
  (Text.cut? (· = '@') text.reverse).map fun (after, before) => (before.reverse, after.reverse)

def cutAtPort? (bracketed : Bool) : List Char → Option (List Char × List Char)
  | [] => none
  | c :: rest =>
    if c = ':' && !bracketed then some ([], rest)
    else
      let bracketed := if c = '[' then true else if c = ']' then false else bracketed
      (cutAtPort? bracketed rest).map fun (before, after) => (c :: before, after)

/-- Read a port; the one that the scheme has by itself is left out. -/
def readPort (scheme : String) (text : List Char) : Except Fault (Option Nat) :=
  match Address.number? 10 text with
  | none => .error .invalidPort
  | some value =>
    if 65535 < value then .error .invalidPort
    else .ok (if text.isEmpty || defaultPort? scheme = some value then none else some value)

def userText (text : List Char) : String :=
  let part := fun text => String.ofList (escaped userEscapes text)
  match Text.cut? (· = ':') text with
  | some (name, password) =>
    if name.isEmpty && password.isEmpty then ""
    else part name ++ (if password.isEmpty then "" else ":" ++ part password) ++ "@"
  | none => if text.isEmpty then "" else part text ++ "@"

def readAuthority (scheme : String) (kind : Kind) (text : List Char) : Except Fault String := do
  let (user, place) := match cutAtLastAt? text with
    | some (user, place) => (user, place)
    | none => ([], text)
  let (name, portText) := match cutAtPort? false place with
    | some (name, portText) => (name, some portText)
    | none => (place, none)
  if name.isEmpty && (kind.isSpecial || portText.isSome || text.contains '@') then
    .error .emptyHost
  else
    let host ← readHost kind name
    let port ← match portText with
      | some portText => readPort scheme portText
      | none => .ok none
    .ok (userText user ++ host ++ (port.map fun port => ":" ++ toString port).getD "")

/-- Whether a segment of a path stands for the place itself. -/
def isHere (segment : List Char) : Bool :=
  [".", "%2e", "%2E"].contains (String.ofList segment)

def isUp (segment : List Char) : Bool :=
  ["..", ".%2e", "%2e.", "%2e%2e"].contains (String.ofList (Text.lower segment))

/-- The segments of a path without those that lead up or nowhere; `kept` are the ones before, the
last first. -/
def resolved (kept : List (List Char)) : List (List Char) → List (List Char)
  | [] => kept.reverse
  | [last] =>
    if isUp last then ([] :: kept.drop 1).reverse
    else if isHere last then ([] :: kept).reverse
    else (last :: kept).reverse
  | segment :: rest =>
    if isUp segment then resolved (kept.drop 1) rest
    else if isHere segment then resolved kept rest
    else resolved (segment :: kept) rest

def pathText (kind : Kind) (text : List Char) : String :=
  let isSlash := fun c => c = '/' || (kind.isSpecial && c = '\\')
  match text with
  | [] => if kind.isSpecial then "/" else ""
  | first :: rest =>
    let rest := if isSlash first then rest else first :: rest
    let segments := resolved [] (Text.pieces isSlash rest)
    String.join (segments.map fun segment => "/" ++ String.ofList (escaped pathEscapes segment))

def splitTail (text : List Char) : List Char × Option (List Char) × Option (List Char) :=
  let (text, fragment) := match Text.cut? (· = '#') text with
    | some (text, fragment) => (text, some fragment)
    | none => (text, none)
  match Text.cut? (· = '?') text with
  | some (path, query) => (path, some query, fragment)
  | none => (text, none, fragment)

def assemble (scheme : String) (kind : Kind) (authority : Option String) (path : String)
    (query fragment : Option (List Char)) : Url :=
  ⟨scheme, authority, path, query.map fun text => String.ofList (escaped (queryEscapes kind) text),
    fragment.map fun text => String.ofList (escaped fragmentEscapes text)⟩

/-- Whether a text is a letter of a drive, with its mark. -/
def isDrive (text : List Char) : Bool :=
  match text with
  | [letter, mark] => letter.isAlpha && (mark = ':' || mark = '|')
  | _ => false

/-- Read what is behind an authority's slashes. A file has a host alone, and none before a drive. -/
def withAuthority (scheme : String) (kind : Kind) (text : List Char) : Except Fault Url := do
  let found := text.takeWhile fun c => !endsAuthority kind c
  let place := if kind = .file && isDrive found then [] else found
  let authority ←
    if kind ≠ .web && place.isEmpty then .ok ""
    else if kind = .file then
      (readHost kind place).map fun host => if host = "localhost" then "" else host
    else readAuthority scheme kind place
  let (path, query, fragment) := splitTail (text.drop place.length)
  .ok (assemble scheme kind (some authority) (pathText kind path) query fragment)

def scheme? : List Char → Option (String × List Char)
  | [] => none
  | first :: rest =>
    if first.isAlpha then
      let more := rest.takeWhile fun c => c.isAlphanum || c = '+' || c = '-' || c = '.'
      match rest.drop more.length with
      | ':' :: behind => some (String.ofList (Text.lower (first :: more)), behind)
      | _ => none
    else none

/-- Controls and blanks, which do not count around a URL. -/
def isTrimmed (c : Char) : Bool := c.toNat ≤ 0x20

def parse (text : String) : Except Fault Url :=
  let trimmed := ((text.toList.dropWhile isTrimmed).reverse.dropWhile isTrimmed).reverse
  let chars := trimmed.filter fun c => c ≠ '\t' && c ≠ '\n' && c ≠ '\r'
  match scheme? chars with
  | none => .error .relative
  | some (scheme, rest) =>
    let isSlash := fun c => c = '/' || c = '\\'
    match Kind.ofScheme scheme with
    | .web => withAuthority scheme .web (rest.dropWhile isSlash)
    | .file =>
      match rest with
      | a :: b :: rest =>
        if isSlash a && isSlash b then withAuthority scheme .file rest
        else
          let (path, query, fragment) := splitTail (a :: b :: rest)
          .ok (assemble scheme .file (some "") (pathText .file path) query fragment)
      | rest =>
        let (path, query, fragment) := splitTail rest
        .ok (assemble scheme .file (some "") (pathText .file path) query fragment)
    | .other =>
      match rest with
      | '/' :: '/' :: rest => withAuthority scheme .other rest
      | '/' :: _ =>
        let (path, query, fragment) := splitTail rest
        .ok (assemble scheme .other none (pathText .other path) query fragment)
      | _ =>
        let (path, query, fragment) := splitTail rest
        .ok (assemble scheme .other none (String.ofList (escaped [] path)) query fragment)

end Url
end BeanHarvest
