import BeanHarvest.Bean
import BeanHarvest.Filter.Basic
import BeanHarvest.Pattern.Engine

/-! Matching beans and attributes against filters. Everything that an include filter says has to hold;
one thing that an exclude filter says is enough to exclude. -/
namespace BeanHarvest

namespace Filter

/-- A filter with its patterns prepared. A pattern for beans has to match the whole name. -/
structure Compiled where
  domain : Option String
  domainPattern : Option Pattern.Matcher
  className : Option String
  classPattern : Option Pattern.Matcher
  names : List String
  beanPatterns : List Pattern.Matcher
  params : List (String × List String)

def compile (engine : Pattern.Engine) (filter : Filter) : Except Pattern.Fault Compiled := do
  let domainPattern ← filter.domainPattern.mapM engine.compile
  let classPattern ← filter.classPattern.mapM engine.compile
  let beanPatterns ← filter.beanPatterns.mapM engine.compileWhole
  .ok {
    domain := filter.domain
    domainPattern
    className := filter.className
    classPattern
    names := filter.names
    beanPatterns
    params := filter.params.map fun (key, value) => (key, value.texts) }

namespace Compiled

def includesDomain (filter : Compiled) (domain : String) : Bool :=
  filter.domain.all (· = domain) && filter.domainPattern.all (·.matches? domain)

/-- A class that is not known satisfies nothing that is said of it. -/
def includesClass (filter : Compiled) (className : Option String) : Bool :=
  filter.className.all (some · = className)
    && filter.classPattern.all fun pattern => className.any pattern.matches?

/-- The groups of the first pattern that matches the name; without patterns there are none. -/
def groups? (filter : Compiled) (name : String) : Option (List (Nat × String)) :=
  if filter.beanPatterns.isEmpty then some []
  else filter.beanPatterns.findSome? (·.groups? name)

def allowsParams (filter : Compiled) (bean : Bean) : Bool :=
  filter.params.all fun (key, allowed) => (bean.get? key).any allowed.contains

/-- What the parameters of an included bean stand for: their values, and the numbered groups of the
pattern that matched. -/
def includesBean? (filter : Compiled) (bean : Bean) : Option Bindings :=
  if !filter.names.isEmpty && !filter.names.contains bean.name then none
  else match filter.groups? bean.name with
    | none => none
    | some groups =>
      if filter.allowsParams bean then
        some <| groups.foldl (fun bindings (index, text) => bindings.insert (toString index) text)
          (Keyed.ofList bean.parameters)
      else none

def excludesDomain (filter : Compiled) (domain : String) : Bool :=
  filter.domain = some domain || filter.domainPattern.any (·.matches? domain)

def excludesClass (filter : Compiled) (className : Option String) : Bool :=
  className.any fun name =>
    filter.className = some name || filter.classPattern.any (·.matches? name)

def excludesBean (filter : Compiled) (bean : Bean) : Bool :=
  filter.names.contains bean.name
    || filter.beanPatterns.any (·.matches? bean.name)
    || filter.params.any fun (key, excluded) => (bean.get? key).any excluded.contains

end Compiled
end Filter

namespace Configuration

def compile (engine : Pattern.Engine) (configuration : Configuration) :
    Except Pattern.Fault (Filter.Compiled × Filter.Compiled) := do
  let included ← configuration.included.compile engine
  let excluded ← configuration.excluded.compile engine
  .ok (included, excluded)

/-- What the parameters of a bean stand for if the configuration selects the bean. The exclude filter
is looked at only if domain and class are included. -/
def matchBean (engine : Pattern.Engine) (configuration : Configuration) (bean : Bean)
    (className : Option String) : Except Pattern.Fault (Option Bindings) := do
  let included ← configuration.included.compile engine
  if !included.includesDomain bean.domain || !included.includesClass className then .ok none
  else
    let excluded ← configuration.excluded.compile engine
    if excluded.excludesDomain bean.domain || excluded.excludesClass className then .ok none
    else match included.includesBean? bean with
      | none => .ok none
      | some bindings => .ok (if excluded.excludesBean bean then none else some bindings)

end Configuration

/-- How much of an attribute a filter lists: all of it, some ways into it, or nothing. -/
inductive Coverage where
  | whole
  | subset (paths : List String)
  | nothing
deriving DecidableEq, Repr

namespace Coverage

def isMatch : Coverage → Bool
  | nothing => false
  | _ => true

def select (all : List String) : Coverage → List String
  | whole => all
  | subset paths => paths
  | nothing => []

/-- What is left of some ways when the covered ones are taken out. -/
def remove (paths : List String) : Coverage → List String
  | whole => []
  | subset excluded => paths.filter fun path => !excluded.contains path
  | nothing => paths

end Coverage

namespace AttributeFilter

/-- How much of an attribute with the given ways into it a filter lists; a filter that is not set
lists what `unset` says. -/
def coverage (filter : Option AttributeFilter) (name : String) (paths : List String)
    (unset : Coverage) : Coverage :=
  match filter with
  | none => unset
  | some filter =>
    if filter.contains name then .whole
    else
      let listed := paths.filter fun path => filter.contains (name ++ "." ++ path)
      if listed.isEmpty then .nothing else .subset listed

def selected (all : List String) (included excluded : Coverage) : List String :=
  excluded.remove (included.select all)

end AttributeFilter
end BeanHarvest
