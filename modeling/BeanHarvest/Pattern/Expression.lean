import BeanHarvest.Pattern.CharSet

/-! Patterns as expressions. What flags say about a character or an anchor has been worked into it. -/
namespace BeanHarvest.Pattern

inductive Assertion where
  | textStart
  | textEnd
  | lineStart
  | lineEnd
  | crlfLineStart
  | crlfLineEnd
  | wordBoundary (word : CharSet)
  | noWordBoundary (word : CharSet)
  | wordStart (word : CharSet)
  | wordEnd (word : CharSet)
  | wordStartHalf (word : CharSet)
  | wordEndHalf (word : CharSet)
deriving Repr

inductive Expression where
  | empty
  | one (set : CharSet)
  | place (assertion : Assertion)
  | both (first second : Expression)
  | either (first second : Expression)
  | repeated (body : Expression) (least : Nat) (most : Option Nat) (greedy : Bool)
  | group (index : Nat) (body : Expression)
deriving Repr, Inhabited

namespace Expression

def ofParts : List Expression → Expression
  | [] => empty
  | [part] => part
  | part :: rest => both part (ofParts rest)

def ofBranches : List Expression → Expression
  | [] => empty
  | [branch] => branch
  | branch :: rest => either branch (ofBranches rest)

def isNullable : Expression → Bool
  | empty | place _ => true
  | one _ => false
  | both first second => first.isNullable && second.isNullable
  | either first second => first.isNullable || second.isNullable
  | repeated body least _ _ => least = 0 || body.isNullable
  | group _ body => body.isNullable

/-- The room that the expression takes when its repetitions are written out. -/
def weight : Expression → Nat
  | empty => 1
  | one set => 1 + set.ranges.length
  | place _ => 1
  | both first second => first.weight + second.weight
  | either first second => 2 + first.weight + second.weight
  | repeated body least most _ => 2 + body.weight * max 1 (most.getD (least + 1))
  | group _ body => 2 + body.weight

end Expression
end BeanHarvest.Pattern
