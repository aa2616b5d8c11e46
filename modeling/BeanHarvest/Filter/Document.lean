import BeanHarvest.Filter.Basic
import BeanHarvest.Json.Value

namespace BeanHarvest

def Yaml.keyText : Yaml → String
  | .null => "null"
  | value => value.scalarText?.getD ""

mutual

/-- A YAML value as JSON; tags are left out. -/
def Yaml.toJson : Yaml → Json
  | .null => .null
  | .bool value => .bool value
  | .number value => .number value
  | .string text => .string text
  | .sequence items => .array (Yaml.itemsToJson items)
  | .mapping pairs => .object (Yaml.pairsToJson pairs)
  | .tagged _ value => Yaml.toJson value

def Yaml.itemsToJson : List Yaml → List Json
  | [] => []
  | item :: rest => Yaml.toJson item :: Yaml.itemsToJson rest

def Yaml.pairsToJson : List (Yaml × Yaml) → List (String × Json)
  | [] => []
  | (key, value) :: rest => (Yaml.keyText key, Yaml.toJson value) :: Yaml.pairsToJson rest

end

namespace Json

def ofBindings (bindings : List (String × String)) : Json :=
  .object (bindings.map fun (key, text) => (key, .string text))

def optionalWhole (value : Option Nat) : Json := (value.map fun n => whole n).getD .null

end Json

def SortOrder.text : SortOrder → String
  | .ascending => "asc"
  | .descending => "desc"

namespace AttributeOptions

def toJson (options : AttributeOptions) : Json :=
  .object [("alias", Json.optional options.template),
    ("metric_type", Json.optional (options.type.map MetricType.text)),
    ("values", .object (options.values.map fun (key, x) => (key, .number (.float x.toFloat)))),
    ("tags", Json.ofBindings options.tags), ("limit", Json.optionalWhole options.limit),
    ("sort", .string options.order.text)]

end AttributeOptions

namespace AttributeFilter

def toJson : AttributeFilter → Json
  | .names given => Json.strings given
  | .detailed entries =>
    .object (entries.map fun (name, options) =>
      (name, (options.map AttributeOptions.toJson).getD .null))

end AttributeFilter

namespace Filter

def toJson (filter : Filter) : Json :=
  .object <|
    [("domain", Json.optional filter.domain),
      ("domain_regex", Json.optional filter.domainPattern),
      ("bean", Json.strings filter.beans), ("bean_name", Json.strings filter.beanNames),
      ("bean_regex", Json.strings filter.beanPatterns),
      ("class", Json.optional filter.className),
      ("class_regex", Json.optional filter.classPattern),
      ("attribute", (filter.attributes.map AttributeFilter.toJson).getD .null),
      ("exclude_tags", Json.strings filter.excludedTags),
      ("tags", Json.ofBindings filter.tags)]
      ++ filter.params.map fun (key, value) => (key, value.toJson)

end Filter

namespace Configuration

def toJson (configuration : Configuration) : Json :=
  .object [("include", configuration.included.toJson), ("exclude", configuration.excluded.toJson),
    ("conf", .object [("metric_prefix", Json.optional configuration.metricPrefix),
      ("tags_alias", Json.ofBindings configuration.renamedTags)])]

end Configuration
end BeanHarvest
