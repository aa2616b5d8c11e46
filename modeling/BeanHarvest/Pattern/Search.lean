import BeanHarvest.Pattern.Engine
import BeanHarvest.Pattern.Program
import BeanHarvest.Pattern.Reading

/-! Searching with patterns. The leftmost match counts, and among those that start there the one that
preferred choices lead to. A state is an instruction with a place in the text; a state that did not
lead to a match once never will, so every state is visited at most once. -/
namespace BeanHarvest.Pattern

/-- A state to be visited, with the marks set on the way to it, the latest first. -/
structure Visit where
  instruction : Nat
  place : Nat
  marks : List (Nat × Nat)

namespace Assertion

def isWordAt (word : CharSet) (text : Array Char) (place : Nat) : Bool :=
  (text[place]?).any word.contains

def isWordBefore (word : CharSet) (text : Array Char) (place : Nat) : Bool :=
  0 < place && isWordAt word text (place - 1)

def holds (text : Array Char) (place : Nat) : Assertion → Bool
  | textStart => place = 0
  | textEnd => place = text.size
  | lineStart => place = 0 || text[place - 1]? = some '\n'
  | lineEnd => place = text.size || text[place]? = some '\n'
  | crlfLineStart =>
    place = 0 || text[place - 1]? = some '\n'
      || (text[place - 1]? = some '\r' && text[place]? ≠ some '\n')
  | crlfLineEnd =>
    place = text.size || text[place]? = some '\r'
      || (text[place]? = some '\n' && (place = 0 || text[place - 1]? ≠ some '\r'))
  | wordBoundary word => isWordBefore word text place ≠ isWordAt word text place
  | noWordBoundary word => isWordBefore word text place = isWordAt word text place
  | wordStart word => !isWordBefore word text place && isWordAt word text place
  | wordEnd word => isWordBefore word text place && !isWordAt word text place
  | wordStartHalf word => !isWordBefore word text place
  | wordEndHalf word => !isWordAt word text place

end Assertion

namespace Program

/-- The states that follow a visit, the preferred one first. -/
def successors (program : Program) (text : Array Char) (visit : Visit) : List Visit :=
  match program.instructions[visit.instruction]? with
  | some (.one set) =>
    if (text[visit.place]?).any set.contains then
      [⟨visit.instruction + 1, visit.place + 1, visit.marks⟩]
    else []
  | some (.place assertion) =>
    if assertion.holds text visit.place then
      [{ visit with instruction := visit.instruction + 1 }]
    else []
  | some (.fork first second) =>
    [{ visit with instruction := first }, { visit with instruction := second }]
  | some (.jump target) => [{ visit with instruction := target }]
  | some (.mark slot) =>
    [⟨visit.instruction + 1, visit.place, (slot, visit.place) :: visit.marks⟩]
  | some .accept | none => []

def accepts (program : Program) (visit : Visit) : Bool :=
  match program.instructions[visit.instruction]? with
  | some .accept => true
  | _ => false

/-- Visit the states that wait, the first one first, until one accepts. -/
def explore (program : Program) (text : Array Char) :
    (fuel : Nat) → (visited : Array Bool) → List Visit → Option Visit
  | 0, _, _ => none
  | _ + 1, _, [] => none
  | fuel + 1, visited, visit :: waiting =>
    let index := visit.instruction * (text.size + 1) + visit.place
    if visited.getD index true then explore program text fuel visited waiting
    else if program.accepts visit then some visit
    else
      explore program text fuel (visited.setIfInBounds index true)
        (program.successors text visit ++ waiting)

/-- The marks of the leftmost match: where it starts and ends, and where its groups do. -/
def search (program : Program) (text : String) : Option (List (Nat × Nat)) :=
  let chars := text.toList.toArray
  let states := program.instructions.size * (chars.size + 1)
  let starts := (List.range (chars.size + 1)).map fun place => (⟨0, place, [(0, place)]⟩ : Visit)
  (explore program chars (2 * states + starts.length + 1) (.replicate states false) starts).map
    fun visit => (1, visit.place) :: visit.marks

def groupText? (text : String) (marks : List (Nat × Nat)) (index : Nat) : Option String := do
  let (_, start) ← marks.find? (·.1 = 2 * index)
  let (_, stop) ← marks.find? (·.1 = 2 * index + 1)
  some (String.ofList ((text.toList.take stop).drop start))

def matcher (program : Program) : Matcher where
  captures? text := (program.search text).map fun marks =>
    (List.range (program.groups + 1)).map (groupText? text marks)

end Program

/-- The engine at hand: it reads an expression and searches with the program of it. Of the properties of
Unicode it knows those of `CharSet.property?`, and expressions beyond `maxWeight` it does not take. -/
def engine : Engine where
  prepare? text := (read? text).map fun expression => (Program.ofExpression expression).matcher

end BeanHarvest.Pattern
