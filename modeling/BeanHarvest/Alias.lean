import BeanHarvest.Keyed
import BeanHarvest.MetricName
import BeanHarvest.Text.Cut

/-! Aliases: the names under which attributes are reported. An alias comes from a template with
placeholders, from a common prefix, from the naming of Cassandra's metrics, or from the bean's
domain and the attribute, in that order. -/
namespace BeanHarvest

/-- The texts that stand for the parameters of a bean, by key. -/
abbrev Bindings := Keyed String

namespace Alias

/-- Placeholders in the order of their replacement: the longer first, equally long ones by their
text. -/
def replacedBefore (a b : String × String) : Bool :=
  a.1.utf8ByteSize > b.1.utf8ByteSize || (a.1.utf8ByteSize == b.1.utf8ByteSize && a.1 ≤ b.1)

/-- Replace the placeholders of a template, one after the other, by their values. -/
def substitute (template : String) (bindings : List (String × String)) : String :=
  if template.toList.contains '$' then
    String.ofList <| (bindings.mergeSort replacedBefore).foldl
      (fun text (placeholder, value) => Text.replace placeholder.toList value.toList text)
      template.toList
  else template

/-- What an alias can be made of. `path` names the attribute and, of a nested value, the way
to it; `base` names the attribute alone. -/
structure Context where
  domain : String
  path : String
  base : String
  params : Bindings
  metricPrefix : Option String
  cassandraNaming : Bool

def cassandraDomain : String := "org.apache.cassandra"

/-- The placeholders of a template: `$key` for each parameter, then the attribute, the domain and
the live value. -/
def placeholders (context : Context) (value : Option String) : List (String × String) :=
  context.params.map (fun (key, text) => ("$" ++ key, text))
    ++ [("$attribute", context.path), ("$domain", context.domain)]
    ++ (value.map (("$value", ·))).toList

/-- The name under Cassandra's own scheme, for the beans that it covers. -/
def cassandraName? (context : Context) : Option String :=
  if context.cassandraNaming
      && (Text.afterPrefix? cassandraDomain.toList context.domain.toList).isSome then
    (context.params.get? "name").map fun name =>
      if context.base = "Value" && context.path = "Value" then "cassandra." ++ name
      else "cassandra." ++ name ++ "." ++ context.path
  else none

/-- The alias before it is normalised. -/
def raw (template : Option String) (context : Context) (value : Option String) : String :=
  match template, context.metricPrefix with
  | some template, _ => substitute template (placeholders context value)
  | none, some lead => lead ++ "." ++ context.domain ++ "." ++ context.path
  | none, none =>
    (cassandraName? context).getD ("jmx." ++ context.domain ++ "." ++ context.path)

/-- The alias under which values are reported. -/
def resolve (template : Option String) (context : Context) (value : Option String) : String :=
  MetricName.normalize (raw template context value)

def needsValue (template : Option String) : Bool :=
  template.any fun text => Text.occurs "$value".toList text.toList

end Alias
end BeanHarvest
