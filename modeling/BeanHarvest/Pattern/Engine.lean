import BeanHarvest.Pattern.Dialect

/-! Engines: what prepares patterns and searches with them. A library brings its own; here an engine is
whatever a program is given as one. -/
namespace BeanHarvest.Pattern

/-- A pattern that is ready to be searched with. Of a text it gives the match and the groups, in the
order of their numbers; a group that took no part has no text. -/
structure Matcher where
  captures? : (text : String) → Option (List (Option String))

namespace Matcher

def matches? (matcher : Matcher) (text : String) : Bool := (matcher.captures? text).isSome

/-- The groups that took part in a match, by number. -/
def numbered (groups : List (Option String)) : List (Nat × String) :=
  (List.range groups.length).filterMap fun number => groups[number]?.join.map (number, ·)

def groups? (matcher : Matcher) (text : String) : Option (List (Nat × String)) :=
  (matcher.captures? text).map numbered

end Matcher

/-- An engine makes matchers of expressions; a text may be no expression of its. -/
structure Engine where
  prepare? : (expression : String) → Option Matcher

namespace Engine

def prepare (engine : Engine) (pattern expression : String) : Except Fault Matcher :=
  match engine.prepare? expression with
  | some matcher => .ok matcher
  | none => .error (.invalid pattern)

/-- Prepare a pattern that may match anywhere in a text. -/
def compile (engine : Engine) (pattern : String) : Except Fault Matcher := do
  engine.prepare pattern (← convert pattern)

/-- Prepare a pattern that has to match the whole of a text. -/
def compileWhole (engine : Engine) (pattern : String) : Except Fault Matcher := do
  engine.prepare pattern ("^(?:" ++ (← convert pattern) ++ ")$")

end Engine
end BeanHarvest.Pattern
