import BeanHarvest.Alias
import BeanHarvest.Bean
import BeanHarvest.Filter.Basic

namespace BeanHarvest.Tags

def tag (key value : String) : String := key ++ ":" ++ value

/-- The part of a tag in front of its first colon. -/
def key (tag : String) : String := String.ofList (tag.toList.takeWhile (· ≠ ':'))

/-- The tags of some templates. A template may name parameters of the bean and further values. -/
def render (templates params : Bindings) (more : List (String × String)) : List String :=
  templates.map fun (key, template) =>
    tag key (Alias.substitute template
      ((params ++ more).map fun (key, value) => ("$" ++ key, value)))

/-- The key under which a parameter of a bean is reported. -/
def renamed (renamings : Bindings) (key : String) : String :=
  match Keyed.get? renamings key with
  | some other => other
  | none => if key = "host" then "bean_host" else key

/-- The tags of a bean's parameters, without those that are left out under their old or new key. -/
def ofParameters (configuration : Configuration) (bean : Bean) : List String :=
  let leftOut := configuration.included.excludedTags
  bean.parameters.filterMap fun (key, value) =>
    let other := renamed configuration.renamedTags key
    if leftOut.contains key || leftOut.contains other then none else some (tag other value)

/-- The tags that all metrics of a bean share: its parameters, the instance and the domain, the
instance's own tags, and what the include filter adds. -/
def base (bean : Bean) (params : Bindings) (configuration : Configuration) (instanceName : String)
    (instanceTags : List String) : List String :=
  ofParameters configuration bean
    ++ [tag "instance" instanceName, tag "jmx_domain" bean.domain]
    ++ instanceTags.filter (fun tag => !configuration.included.excludedTags.contains (key tag))
    ++ render configuration.included.tags params []

end BeanHarvest.Tags
