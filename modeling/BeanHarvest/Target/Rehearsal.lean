import BeanHarvest.Bean
import BeanHarvest.Keyed
import BeanHarvest.Target.Basic
import BeanHarvest.Text.Cut

/-! Rehearsals: targets in memory, whose beans, faults and delays are arranged. They count what they
are asked, whether it goes well or not. -/
namespace BeanHarvest

/-- A fault that a target is arranged to answer with, for the bean and the attribute that it is asked
for. -/
abbrev ArrangedFault := (bean name : String) → ConnectionFault

structure RehearsedBean where
  className : String
  attributes : List (AttributeInfo × LiveValue)

/-- How often a target was asked for what. -/
structure CallCounts where
  connects : Nat := 0
  queries : Nat := 0
  lists : Nat := 0
  classes : Nat := 0
  reads : Nat := 0
deriving DecidableEq, Repr, Inhabited

/-- A target in memory. `readDelay` is the number of milliseconds that a read takes. -/
structure Rehearsal where
  beans : Keyed RehearsedBean := []
  down : Option ArrangedFault := none
  failingReads : List ((String × String) × ArrangedFault) := []
  failingLists : List (String × ArrangedFault) := []
  failingClasses : List (String × ArrangedFault) := []
  readDelay : Nat := 0
  counts : CallCounts := {}

namespace Rehearsal

/-- Whether a part of a scope allows a bean: it is a wildcard, or a pair that the bean has. -/
def allows (bean : Bean) (part : List Char) : Bool :=
  match Text.cut? (· = '=') part with
  | some (key, value) => bean.get? (String.ofList key) = some (String.ofList value)
  | none => true

/-- Whether a bean is covered by a scope. Without a wildcard the scope has to have as many pairs as
the bean. -/
def covers (scope : String) (bean : Bean) : Bool :=
  match Text.cut? (· = ':') scope.toList with
  | none => false
  | some (domain, properties) =>
    let parts := Text.pieces (· = ',') properties
    let pairs := parts.filter fun part => part ≠ ['*'] && part.contains '='
    (domain = ['*'] || String.ofList domain = bean.domain)
      && pairs.all (allows bean)
      && (parts.contains ['*'] || pairs.length = bean.parameters.length)

/-- The beans within a scope, or all; every name has to be the name of a bean. -/
def query (target : Rehearsal) (scope : Option String) : Except ConnectionFault (List Bean) := do
  let beans ← target.beans.mapM fun (name, _) =>
    match Bean.parse? name with
    | some bean => .ok bean
    | none => .error (ConnectionFault.invalidBeanName name)
  .ok (beans.filter fun bean => scope.all (covers · bean))

def bean (target : Rehearsal) (name : String) : Except ConnectionFault RehearsedBean :=
  match Keyed.get? target.beans name with
  | some found => .ok found
  | none => .error (.beanNotFound name)

def value (target : Rehearsal) (bean name : String) : Except ConnectionFault LiveValue := do
  let found ← target.bean bean
  match found.attributes.find? (·.1.name = name) with
  | some (_, live) => .ok live
  | none => .error (.attributeUnavailable bean name "no such attribute")

/-- An answer, if no fault is arranged for a bean and an attribute. -/
def faultOr {α : Type} (arranged : Option ArrangedFault) (bean name : String)
    (answer : Except ConnectionFault α) : Except ConnectionFault α :=
  match arranged with
  | some fault => .error (fault bean name)
  | none => answer

def answer (target : Rehearsal) : (call : Call) → call.Outcome
  | .connect => faultOr target.down "" "" (.ok ())
  | .query scope => faultOr target.down "" "" (target.query scope)
  | .attributes one =>
    faultOr target.down one.name "" <| faultOr (lookup? target.failingLists one.name) one.name "" <|
      (target.bean one.name).map fun found => found.attributes.map (·.1)
  | .className one =>
    faultOr target.down one.name "" <|
      faultOr (lookup? target.failingClasses one.name) one.name "" <|
        (target.bean one.name).map (·.className)
  | .read one name =>
    faultOr target.down one.name name <|
      faultOr ((target.failingReads.find? (·.1 = (one.name, name))).map (·.2)) one.name name <|
        target.value one.name name
  | .close => .ok ()

def counted (counts : CallCounts) : Call → CallCounts
  | .connect => { counts with connects := counts.connects + 1 }
  | .query _ => { counts with queries := counts.queries + 1 }
  | .attributes _ => { counts with lists := counts.lists + 1 }
  | .className _ => { counts with classes := counts.classes + 1 }
  | .read .. => { counts with reads := counts.reads + 1 }
  | .close => counts

def delay (target : Rehearsal) : Call → Nat
  | .read .. => target.readDelay
  | _ => 0

def asTarget : Target Rehearsal where
  reply target call :=
    ⟨target.answer call, target.delay call, { target with counts := counted target.counts call }⟩

def addBean (target : Rehearsal) (name className : String) : Rehearsal :=
  { target with beans := Keyed.insert target.beans name ⟨className, []⟩ }

def removeBean (target : Rehearsal) (name : String) : Rehearsal :=
  { target with beans := target.beans.filter (·.1 ≠ name) }

/-- Give an attribute a type and a value; it keeps its place if it is there. -/
def withAttribute (attributes : List (AttributeInfo × LiveValue)) (info : AttributeInfo)
    (live : LiveValue) : List (AttributeInfo × LiveValue) :=
  if attributes.any (·.1.name = info.name) then
    attributes.map fun other => if other.1.name = info.name then (info, live) else other
  else attributes ++ [(info, live)]

def defaultClass : String := "test.Fake"

def setAttribute (target : Rehearsal) (name : String) (info : AttributeInfo) (live : LiveValue) :
    Rehearsal :=
  let found := (Keyed.get? target.beans name).getD ⟨defaultClass, []⟩
  { target with
    beans := Keyed.insert target.beans name
      { found with attributes := withAttribute found.attributes info live } }

def removeAttribute (target : Rehearsal) (name attributeName : String) : Rehearsal :=
  match Keyed.get? target.beans name with
  | none => target
  | some found =>
    { target with
      beans := Keyed.insert target.beans name
        { found with
          attributes := found.attributes.filter fun (info, _) => info.name ≠ attributeName } }

def failRead (target : Rehearsal) (name attributeName : String) (fault : ArrangedFault) :
    Rehearsal :=
  { target with failingReads := ((name, attributeName), fault) :: target.failingReads }

def failList (target : Rehearsal) (name : String) (fault : ArrangedFault) : Rehearsal :=
  { target with failingLists := (name, fault) :: target.failingLists }

def failClass (target : Rehearsal) (name : String) (fault : ArrangedFault) : Rehearsal :=
  { target with failingClasses := (name, fault) :: target.failingClasses }

/-- Let nothing fail that was arranged to. -/
def heal (target : Rehearsal) : Rehearsal :=
  { target with failingReads := [], failingLists := [], failingClasses := [] }

end Rehearsal
end BeanHarvest
