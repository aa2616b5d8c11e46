/-! Cutting and replacing in texts, over lists of characters. A cut drops the separator it was
made at; a replacement goes from left to right and never looks at what it has written. Blank is what
the Unicode property of white space lists. -/
namespace BeanHarvest.Text

/-- The white space of Unicode. -/
def isBlank (c : Char) : Bool :=
  let n := c.toNat
  (9 ≤ n && n ≤ 13) || n == 0x20 || n == 0x85 || n == 0xA0 || n == 0x1680
    || (0x2000 ≤ n && n ≤ 0x200A) || n == 0x2028 || n == 0x2029 || n == 0x202F
    || n == 0x205F || n == 0x3000

def trim (text : List Char) : List Char :=
  ((text.dropWhile isBlank).reverse.dropWhile isBlank).reverse

def trimmed (text : String) : String :=
  String.ofList (trim text.toList)

/-- The parts before and after the first character that satisfies `sep`. -/
def cut? (sep : Char → Bool) : List Char → Option (List Char × List Char)
  | [] => none
  | c :: rest =>
    if sep c then some ([], rest)
    else (cut? sep rest).map fun (before, after) => (c :: before, after)

/-- The parts between the characters that satisfy `sep`: one more than there are such characters. -/
def pieces (sep : Char → Bool) : List Char → List (List Char)
  | [] => [[]]
  | c :: rest =>
    if sep c then [] :: pieces sep rest
    else match pieces sep rest with
      | [] => [[c]]
      | first :: others => (c :: first) :: others

/-- What follows `word` when the text begins with it. -/
def afterPrefix? : (word text : List Char) → Option (List Char)
  | [], text => some text
  | _ :: _, [] => none
  | w :: word, c :: text => if w = c then afterPrefix? word text else none

def occurs (word : List Char) : List Char → Bool
  | [] => word.isEmpty
  | c :: rest => (afterPrefix? word (c :: rest)).isSome || occurs word rest

/-- Copy the text with every occurrence of `word` replaced; `skip` characters still belong to the
occurrence replaced last. -/
def replaceFrom (word value : List Char) : (skip : Nat) → List Char → List Char
  | _, [] => []
  | skip + 1, _ :: rest => replaceFrom word value skip rest
  | 0, c :: rest =>
    if (afterPrefix? word (c :: rest)).isSome then
      value ++ replaceFrom word value (word.length - 1) rest
    else c :: replaceFrom word value 0 rest

/-- Replace every occurrence of `word`. The empty word occurs around every character. -/
def replace (word value text : List Char) : List Char :=
  if word.isEmpty then text.foldr (fun c rest => value ++ c :: rest) value
  else replaceFrom word value 0 text

/-- The items with `sep` between them. -/
def joinWith (sep : List Char) : List (List Char) → List Char
  | [] => []
  | [item] => item
  | item :: others => item ++ sep ++ joinWith sep others

end BeanHarvest.Text
