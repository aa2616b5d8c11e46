import BeanHarvest.Fault.Failure
import BeanHarvest.Instance.Basic

/-! Discovery: which beans a target has, and which of their attributes are collected. Attributes are
taken in the order of the beans' names and, within a bean, in the order in which it declares them, as
long as their metrics stay within the limit. Faults of single beans and attributes only leave those
out. -/
namespace BeanHarvest

namespace Instance

/-- The beans of some scopes, one scope after the other. -/
def query : List String → Dialogue (Except ConnectionFault (List Bean))
  | [] => .done (.ok [])
  | scope :: rest => .ask (.query (some scope)) fun
    | .error fault => .done (.error fault)
    | .ok beans => (query rest).andThen fun others => .done (others.map (beans ++ ·))

/-- Beans by their names, each once. -/
def beanSet (beans : List Bean) : List Bean :=
  (beans.mergeSort fun a b => a.name ≤ b.name).eraseRepsBy fun a b => a.name == b.name

def findBeans (configurations : List Configuration) :
    Dialogue (Except ConnectionFault (List Bean)) :=
  let found := match scopes? configurations with
    | some scopes => query scopes
    | none => Dialogue.call (.query none)
  found.andThen fun beans => .done (beans.map beanSet)

def selecting (engine : Pattern.Engine) (configurations : List Configuration) (bean : Bean)
    (className : Option String) : Except Pattern.Fault (List BeanMatch) :=
  match configurations with
  | [] => .ok []
  | configuration :: rest =>
    match configuration.matchBean engine bean className with
    | .error fault => .error fault
    | .ok found =>
      (selecting engine rest bean className).map fun others =>
        (found.map (BeanMatch.mk configuration)).toList ++ others

/-- The class of a bean, if it is needed and can be told. -/
def classOf (isNeeded : Bool) (bean : Bean) :
    Dialogue (Except ConnectionFault (Option String)) :=
  if isNeeded then
    .ask (.className bean) fun
      | .ok name => .done (.ok (some name))
      | .error fault => .done (if fault.isFatal then .error fault else .ok none)
  else .done (.ok none)

end Instance

/-- What a pass over attributes goes by. -/
structure MatchRules where
  engine : Pattern.Engine
  context : InstanceContext
  configurations : List Configuration
  limit : Nat
  action : Action

/-- How far a pass has come: the attributes that were matched, the number of their metrics, and what
was listed. -/
structure MatchPass where
  matched : List MatchedAttribute := []
  metricCount : Nat := 0
  report : MatchReport := {}

namespace MatchPass

def leave (pass : MatchPass) (action : Action) (candidate : Candidate) : MatchPass :=
  if action.listsUnmatched then
    { pass with
      report := { pass.report with unmatched := pass.report.unmatched ++ [candidate.summary] } }
  else pass

/-- Take in an attribute that does not fit within the limit. -/
def refuse (pass : MatchPass) (action : Action) (bound : MatchedAttribute) : MatchPass :=
  { pass with
    report := { pass.report with
      limitReached := true
      beyondLimit := pass.report.beyondLimit
        ++ if action.listsBeyondLimit then [bound.summary] else [] } }

/-- Take in an attribute that fits within the limit. -/
def keep (pass : MatchPass) (action : Action) (bound : MatchedAttribute) : MatchPass where
  matched := pass.matched ++ [bound]
  metricCount := pass.metricCount + bound.metricCount
  report := { pass.report with
    matched := pass.report.matched
      ++ if action.listsMatched then [bound.summary] else [] }

def add (pass : MatchPass) (rules : MatchRules) (candidate : Candidate) :
    Option MatchedAttribute → MatchPass
  | none => pass.leave rules.action candidate
  | some bound =>
    if rules.limit < pass.metricCount + bound.metricCount then
      pass.refuse rules.action bound
    else pass.keep rules.action bound

/-- Whether the pass ends before its time: to collect, nothing is of interest beyond the limit. -/
def isOver (pass : MatchPass) (action : Action) : Bool :=
  action = .collect && pass.report.limitReached

def overAttributes (rules : MatchRules) (bean : Bean) (selecting : List BeanMatch)
    (pass : MatchPass) : List AttributeInfo → Dialogue (Except ConnectionFault MatchPass)
  | [] => .done (.ok pass)
  | info :: rest =>
    let candidate : Candidate := ⟨bean, info⟩
    let next := fun found =>
      let pass := pass.add rules candidate found
      if pass.isOver rules.action then .done (.ok pass)
      else overAttributes rules bean selecting pass rest
    (candidate.bind rules.context selecting).andThen fun
      | .ok bound => next bound
      | .error fault => if fault.isFatal then .done (.error fault) else next none

/-- Go over beans. The attributes of a bean that nothing selects are of interest only if they are
listed. -/
def overBeans (rules : MatchRules) (pass : MatchPass) :
    List Bean → Dialogue (Except InstanceFault MatchPass)
  | [] => .done (.ok pass)
  | bean :: rest =>
    (Instance.classOf (rules.configurations.any (·.referencesClass)) bean).andThen fun
      | .error fault => .done (.error (.connection fault))
      | .ok className =>
        match Instance.selecting rules.engine rules.configurations bean className with
        | .error fault => .done (.error (.filter fault))
        | .ok selecting =>
          if selecting.isEmpty && !rules.action.listsUnmatched then overBeans rules pass rest
          else .ask (.attributes bean) fun
            | .error fault =>
              if fault.isFatal then .done (.error (.connection fault))
              else overBeans rules pass rest
            | .ok infos =>
              (overAttributes rules bean selecting pass infos).andThen fun
                | .error fault => .done (.error (.connection fault))
                | .ok pass =>
                  if pass.isOver rules.action then .done (.ok pass)
                  else overBeans rules pass rest

end MatchPass
end BeanHarvest
