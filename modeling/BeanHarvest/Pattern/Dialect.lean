/-! The dialect of patterns. Patterns are written with named groups as `(?<name>…)` and with possessive
quantifiers; what is searched with has `(?P<name>…)` and greedy quantifiers. Lookaround and atomic
groups have no counterpart. -/
namespace BeanHarvest.Pattern

inductive Feature where
  | positiveLookbehind
  | negativeLookbehind
  | positiveLookahead
  | negativeLookahead
  | atomicGroup
deriving DecidableEq, Repr

def Feature.text : Feature → String
  | .positiveLookbehind => "positive lookbehind assertions (?<=...)"
  | .negativeLookbehind => "negative lookbehind assertions (?<!...)"
  | .positiveLookahead => "positive lookahead assertions (?=...)"
  | .negativeLookahead => "negative lookahead assertions (?!...)"
  | .atomicGroup => "atomic groups (?>...)"

inductive Fault where
  | invalid (pattern : String)
  | unsupported (pattern : String) (feature : Feature)
deriving DecidableEq, Repr

def Fault.message : Fault → String
  | .invalid pattern => "Invalid regex pattern '" ++ pattern ++ "'"
  | .unsupported pattern feature =>
    "Unsupported regex syntax in pattern '" ++ pattern ++ "': " ++ feature.text

/-- Convert a pattern from left to right. An escaped character is copied with its backslash; the
brackets of character classes have no meaning here. -/
def convertChars : List Char → Except Feature (List Char)
  | [] => .ok []
  | '(' :: '?' :: '<' :: '=' :: _ => .error .positiveLookbehind
  | '(' :: '?' :: '<' :: '!' :: _ => .error .negativeLookbehind
  | '(' :: '?' :: '<' :: rest => (convertChars rest).map fun tail => '(' :: '?' :: 'P' :: '<' :: tail
  | '(' :: '?' :: '>' :: _ => .error .atomicGroup
  | '(' :: '?' :: '=' :: _ => .error .positiveLookahead
  | '(' :: '?' :: '!' :: _ => .error .negativeLookahead
  | '(' :: '?' :: rest => (convertChars rest).map fun tail => '(' :: '?' :: tail
  | '+' :: '+' :: rest => (convertChars rest).map fun tail => '+' :: tail
  | '*' :: '+' :: rest => (convertChars rest).map fun tail => '*' :: tail
  | '?' :: '+' :: rest => (convertChars rest).map fun tail => '?' :: tail
  | '\\' :: c :: rest => (convertChars rest).map fun tail => '\\' :: c :: tail
  | c :: rest => (convertChars rest).map fun tail => c :: tail

def convert (pattern : String) : Except Fault String :=
  match convertChars pattern.toList with
  | .ok chars => .ok (String.ofList chars)
  | .error feature => .error (.unsupported pattern feature)

end BeanHarvest.Pattern
