import BeanHarvest.Alias
import BeanHarvest.Metric
import BeanHarvest.Yaml.Value

/-! Filters: what a configuration asks of beans and of their attributes. The include filter of a
configuration says what is selected, the exclude filter what is taken out again. Scopes, which are
patterns of bean names that cover whatever a filter includes, narrow down what a target is asked for. -/
namespace BeanHarvest

/-- Which metrics a limit keeps: the highest or the lowest values. -/
inductive SortOrder where
  | descending
  | ascending
deriving DecidableEq, Repr, Inhabited

/-- How one attribute is reported. `values` turns texts into numbers; of it and of `tags` the keys
are in ascending order. -/
structure AttributeOptions where
  template : Option String
  type : Option MetricType
  values : List (String × Double)
  tags : Bindings
  limit : Option Nat
  order : SortOrder
deriving Inhabited

namespace AttributeOptions

/-- What holds of an attribute about which nothing is said. -/
def default : AttributeOptions := ⟨none, none, [], [], none, .descending⟩

end AttributeOptions

/-- The attributes of a filter: names alone, or names with options in ascending order. A name may go
on with a dot and a way into a nested value. -/
inductive AttributeFilter where
  | names (given : List String)
  | detailed (entries : List (String × Option AttributeOptions))

namespace AttributeFilter

def listed : AttributeFilter → List String
  | .names given => given
  | .detailed entries => entries.map (·.1)

def contains (filter : AttributeFilter) (name : String) : Bool := filter.listed.contains name

def options? : AttributeFilter → String → Option AttributeOptions
  | .names _, _ => none
  | .detailed entries, name => (lookup? entries name).bind id

end AttributeFilter

/-- What is asked of beans and attributes. Everything that is said has to hold of what is included,
and nothing of what is not excluded. `params` are the constraints on parameters, in ascending order
of their keys. -/
structure Filter where
  domain : Option String
  domainPattern : Option String
  beans : List String
  beanNames : List String
  beanPatterns : List String
  className : Option String
  classPattern : Option String
  attributes : Option AttributeFilter
  excludedTags : List String
  tags : Bindings
  params : List (String × Yaml)

namespace Filter

def empty : Filter :=
  ⟨none, none, [], [], [], none, none, none, [], [], []⟩

/-- The names of single beans. -/
def names (filter : Filter) : List String := filter.beans ++ filter.beanNames

def referencesClass (filter : Filter) : Bool :=
  filter.className.isSome || filter.classPattern.isSome

/-- The part of a scope that one constraint gives: a parameter may have one value there, so a
constraint with several gives none. -/
def scopePart (param : String × Yaml) : String :=
  match param.2.texts with
  | [value] => param.1 ++ "=" ++ value ++ ","
  | _ => ""

/-- The scopes of everything that the filter includes; none if only all beans will do. -/
def scopes? (filter : Filter) : Option (List String) :=
  if !filter.names.isEmpty then some filter.names
  else filter.domain.map fun domain =>
    [domain ++ ":" ++ String.join (filter.params.map scopePart) ++ "*"]

end Filter

/-- A pair of filters, and how what they select is reported. -/
structure Configuration where
  included : Filter
  excluded : Filter
  metricPrefix : Option String
  renamedTags : Bindings

namespace Configuration

def referencesClass (configuration : Configuration) : Bool :=
  configuration.included.referencesClass || configuration.excluded.referencesClass

end Configuration
end BeanHarvest
