import BeanHarvest.Pattern.Expression

/-! Programs for searching. An instruction goes on with the one behind it, unless it says otherwise;
of the two ways of a fork the first is preferred. -/
namespace BeanHarvest.Pattern

inductive Instruction where
  | one (set : CharSet)
  | place (assertion : Assertion)
  | fork (first second : Nat)
  | jump (target : Nat)
  | mark (slot : Nat)
  | accept
deriving Repr, Inhabited

namespace Expression

/-- A fork that prefers the body or, if it is lazy, what follows. -/
def forkTo (greedy : Bool) (body behind : Nat) : Instruction :=
  if greedy then .fork body behind else .fork behind body

/-- A number of copies, one behind the other. -/
def copies (code : Nat → List Instruction) : (count start : Nat) → List Instruction
  | 0, _ => []
  | count + 1, start =>
    let first := code start
    first ++ copies code count (start + first.length)

/-- A number of copies that may each be the last. -/
def optionalCopies (code : Nat → List Instruction) (greedy : Bool) (stop : Nat) :
    (count start : Nat) → List Instruction
  | 0, _ => []
  | count + 1, start =>
    let first := code (start + 1)
    forkTo greedy (start + 1) stop :: first
      ++ optionalCopies code greedy stop count (start + 1 + first.length)

/-- At least one copy, and any number more. -/
def plus (code : Nat → List Instruction) (greedy : Bool) (start : Nat) : List Instruction :=
  let body := code start
  body ++ [forkTo greedy start (start + body.length + 1)]

/-- Any number of copies. A body that matches the empty text is left out or repeated. -/
def star (code : Nat → List Instruction) (greedy nullable : Bool) (start : Nat) :
    List Instruction :=
  if nullable then
    let body := plus code greedy (start + 1)
    forkTo greedy (start + 1) (start + 1 + body.length) :: body
  else
    let body := code (start + 1)
    forkTo greedy (start + 1) (start + body.length + 2) :: body ++ [.jump start]

/-- The instructions of an expression, for the place where they start. -/
def code : Expression → Nat → List Instruction
  | empty, _ => []
  | one set, _ => [.one set]
  | place assertion, _ => [.place assertion]
  | both first second, start =>
    let head := first.code start
    head ++ second.code (start + head.length)
  | either first second, start =>
    let head := first.code (start + 1)
    let behind := start + head.length + 2
    let tail := second.code behind
    .fork (start + 1) behind :: head ++ .jump (behind + tail.length) :: tail
  | repeated body least most greedy, start =>
    let head := copies body.code least start
    let behind := start + head.length
    match most with
    | none => head ++ star body.code greedy body.isNullable behind
    | some most =>
      let more := most - least
      let width := (body.code 0).length + 1
      head ++ optionalCopies body.code greedy (behind + more * width) more behind
  | group index body, start =>
    .mark (2 * index) :: body.code (start + 1) ++ [.mark (2 * index + 1)]

end Expression

structure Program where
  instructions : Array Instruction
  groups : Nat
deriving Repr, Inhabited

namespace Program

/-- The number of groups of an expression that keep what they match. -/
def groupCount : Expression → Nat
  | .both first second | .either first second => groupCount first + groupCount second
  | .repeated body .. => groupCount body
  | .group _ body => 1 + groupCount body
  | _ => 0

def ofExpression (expression : Expression) : Program :=
  ⟨(expression.code 0 ++ [Instruction.accept]).toArray, groupCount expression⟩

end Program
end BeanHarvest.Pattern
