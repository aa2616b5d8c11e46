import BeanHarvest.Fault.Failure
import BeanHarvest.Instance.Discovery
import BeanHarvest.Target.Session

/-! The life of an instance: it connects, finds its beans, matches their attributes, and collects them
until it is broken or cleaned up. What cannot be finished is not begun: beans and attributes are
replaced as a whole or not at all. -/
namespace BeanHarvest.Instance

/-- Do one thing after the other, unless the first goes wrong. -/
def followed {σ ε α β : Type} (first : Operation σ (Except ε α))
    (next : α → Operation σ (Except ε β)) : Operation σ (Except ε β) := do
  match ← first with
  | .ok result => next result
  | .error fault => pure (.error fault)

def connectedOr {α : Type} (work : Operation Instance (Except InstanceFault α)) :
    Operation Instance (Except InstanceFault α) := do
  let one ← Operation.get
  if one.isConnected then work else pure (.error (.notInitialized one.name))

/-- Have a connection: the one that is there, unless a new one is asked for. -/
def connect (anew : Bool) : Operation Instance (Except InstanceFault Unit) := do
  let one ← Operation.get
  if one.isConnected && !anew then pure (.ok ())
  else
    Operation.modify ({ · with isConnected := false })
    if one.isConnected then
      let _ ← Operation.call .close
    match ← Operation.call .connect with
    | .ok () =>
      Operation.modify ({ · with isConnected := true })
      pure (.ok ())
    | .error fault => pure (.error (.connection fault))

def withBeans (one : Instance) (now : Nat) (beans : List Bean) : Instance :=
  { one with beans, failing := [], lastRefresh := some now }

def refreshBeans : Operation Instance (Except InstanceFault Unit) :=
  connectedOr do
    let one ← Operation.get
    match ← Operation.hold (findBeans one.configurations) with
    | .error fault => pure (.error (.connection fault))
    | .ok beans =>
      let now ← Operation.now
      Operation.modify (·.withBeans now beans)
      pure (.ok ())

def rules (one : Instance) (action : Action) : MatchRules :=
  ⟨one.engine, one.context, one.configurations, one.schedule.maxMetrics, action⟩

def withPass (one : Instance) (pass : MatchPass) : Instance :=
  { one with
    matched := pass.matched
    limitReached := pass.report.limitReached
    report := pass.report }

def matchAttributes (action : Action) : Operation Instance (Except InstanceFault Unit) :=
  connectedOr do
    let one ← Operation.get
    match ← Operation.hold (MatchPass.overBeans (one.rules action) {} one.beans) with
    | .error fault => pure (.error fault)
    | .ok pass =>
      Operation.modify (·.withPass pass)
      pure (.ok ())

def start (action : Action) (anew : Bool) : Operation Instance (Except InstanceFault Unit) :=
  followed (connect anew) fun _ => do
    Operation.modify ({ · with phase := .connected })
    followed refreshBeans fun _ => do
      Operation.modify ({ · with refreshedSinceStart := false })
      matchAttributes action

/-- Start an instance; if that fails it is broken. -/
def init (action : Action) (anew : Bool) : Operation Instance (Except InstanceFault Unit) := do
  Operation.modify fun one =>
    if one.phase = .broken then { one with phase := .recovering } else one
  match ← start action anew with
  | .ok () =>
    Operation.modify ({ · with phase := .ready })
    pure (.ok ())
  | .error fault =>
    Operation.modify markBroken
    pure (.error fault)

def refresh : Operation Instance (Except InstanceFault Unit) :=
  followed refreshBeans fun _ => do
    Operation.modify ({ · with refreshedSinceStart := true })
    matchAttributes .collect

/-- The fault with which a collection ends that an extraction has broken. -/
def faultOf : ExtractionFault → InstanceFault
  | .connection fault => .connection fault
  | fault => .extraction fault

def afterSuccess (one : Instance) (before : List MatchedAttribute) (bound : MatchedAttribute)
    (rest : List MatchedAttribute) : Instance :=
  { one with
    failing := one.failing.filter (· ≠ bound.key)
    matched := before ++ bound :: rest }

/-- The instance after an attribute failed that had not failed in the collection before. -/
def afterFirstFailure (one : Instance) (before : List MatchedAttribute)
    (bound : MatchedAttribute) (rest : List MatchedAttribute) : Instance :=
  { one with
    failing := one.failing ++ [bound.key]
    matched := before ++ bound :: rest }

/-- The instance after an attribute failed once more: the attribute is dropped. -/
def afterSecondFailure (one : Instance) (before : List MatchedAttribute)
    (bound : MatchedAttribute) (rest : List MatchedAttribute) : Instance :=
  { one with
    failing := one.failing.filter (· ≠ bound.key)
    matched := before ++ rest }

/-- Collect attributes one after the other; `before` are the kept ones in front of them. -/
def collectAll (before : List MatchedAttribute) :
    List MatchedAttribute → Operation Instance (Except InstanceFault (List Metric))
  | [] => pure (.ok [])
  | bound :: rest => do
    let (result, bound) ← Operation.hold bound.collect
    match result with
    | .ok metrics =>
      Operation.modify (·.afterSuccess before bound rest)
      let others ← collectAll (before ++ [bound]) rest
      pure (others.map (metrics ++ ·))
    | .error fault =>
      match Failure.ofExtraction fault with
      | .transient _ =>
        let one ← Operation.get
        if one.failing.contains bound.key then
          Operation.modify (·.afterSecondFailure before bound rest)
          collectAll before rest
        else
          Operation.modify (·.afterFirstFailure before bound rest)
          collectAll (before ++ [bound]) rest
      | _ =>
        Operation.modify fun one =>
          { one with matched := before ++ bound :: rest, phase := .broken }
        pure (.error (faultOf fault))

/-- Collect the matched attributes, without looking at the beans. -/
def collectMatched : Operation Instance (Except InstanceFault (List Metric)) := do
  let now ← Operation.now
  Operation.modify ({ · with phase := .collecting, lastCollection := some now })
  let one ← Operation.get
  followed (collectAll [] one.matched) fun metrics => do
    Operation.modify ({ · with phase := .ready })
    pure (.ok metrics)

/-- Refresh if it is time to; if that fails the instance is broken. -/
def refreshIfDue : Operation Instance (Except InstanceFault Unit) := do
  let one ← Operation.get
  let now ← Operation.now
  if one.refreshDue now then
    match ← refresh with
    | .ok () => pure (.ok ())
    | .error fault =>
      Operation.modify markBroken
      pure (.error fault)
  else pure (.ok ())

def collect : Operation Instance (Except InstanceFault (List Metric)) :=
  connectedOr (followed refreshIfDue fun _ => collectMatched)

/-- The instance without what was found through its connection. -/
def cleared (one : Instance) : Instance :=
  { one with
    beans := []
    matched := []
    failing := []
    lastRefresh := none
    phase := .uninitialized }

/-- Close the connection and forget what was found through it. -/
def cleanUp : Operation Instance Unit := do
  let one ← Operation.get
  Operation.modify ({ · with isConnected := false })
  if one.isConnected then
    let _ ← Operation.call .close
  Operation.modify cleared

end BeanHarvest.Instance
