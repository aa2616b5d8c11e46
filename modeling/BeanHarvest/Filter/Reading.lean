import BeanHarvest.Decimal.Reading
import BeanHarvest.Filter.Basic
import BeanHarvest.Yaml.Reading

namespace BeanHarvest

open Yaml

def MetricType.ofYaml? (value : Yaml) : Option MetricType := Yaml.text? value >>= ofText?

/-- The order of a name, or of its place among the names. -/
def SortOrder.ofName? : Yaml → Option SortOrder
  | .string "desc" | .number (.whole 0) => some .descending
  | .string "asc" | .number (.whole 1) => some .ascending
  | _ => none

/-- Read which metrics a limit keeps: a name, or a mapping of it to nothing. -/
def SortOrder.ofYaml? : Yaml → Option SortOrder
  | .string name => ofName? (.string name)
  | .mapping [(name, .null)] => ofName? name
  | _ => none

namespace AttributeOptions

/-- The number that a text is turned into: a number, a truth value or a text with a number. -/
def conversion? : Yaml → Option Double
  | .number value => some (.ofFloat value.toFloat)
  | .bool value => some (.ofFloat (if value then 1.0 else 0.0))
  | .string text => readDouble? text.toList
  | _ => none

/-- Read what texts are turned into. The texts may be written as numbers or truth values. -/
def conversions? : Yaml → Option (List (String × Double))
  | .null => some []
  | .mapping pairs =>
    if hasRepeatedKey pairs then none
    else pairs.foldlM (fun values (key, value) => do
      some (Keyed.insert values (← scalarText? key) (← conversion? value))) []
  | _ => none

/-- The options by name, in the order in which they may be given without names. -/
inductive Key where
  | template
  | type
  | values
  | tags
  | limit
  | order
  | other
deriving DecidableEq

def keys : List Key := [.template, .type, .values, .tags, .limit, .order]

/-- The option that a key names; it may do so by its place. -/
def Key.ofYaml? : Yaml → Option Key
  | .string "alias" => some .template
  | .string "metric_type" | .string "type" => some .type
  | .string "values" => some .values
  | .string "tags" => some .tags
  | .string "limit" => some .limit
  | .string "sort" => some .order
  | .string _ => some .other
  | .number (.whole place) => if place < 0 then none else some (keys.getD place.toNat .other)
  | _ => none

def setOption? (options : AttributeOptions) (key : Key) (value : Yaml) :
    Option AttributeOptions :=
  match key with
  | .template => (Yaml.optional? Yaml.text? value).map ({ options with template := · })
  | .type => (Yaml.optional? MetricType.ofYaml? value).map ({ options with type := · })
  | .values => (conversions? value).map ({ options with values := · })
  | .tags => (textPairs? value).map fun pairs => { options with tags := Keyed.ofList pairs }
  | .limit => (Yaml.optional? Yaml.natural? value).map ({ options with limit := · })
  | .order => (SortOrder.ofYaml? value).map ({ options with order := · })
  | .other => some options

/-- Read options by name, each at most once, or in their order, of which the last may be left out. -/
def ofYaml? : Yaml → Option AttributeOptions
  | .mapping pairs => do
    let named ← pairs.mapM fun (key, value) => (Key.ofYaml? key).map (·, value)
    if keys.any fun key => 1 < named.countP (·.1 = key) then none
    else named.foldlM (fun options (key, value) => setOption? options key value) default
  | .sequence items =>
    if items.length = 5 || items.length = 6 then
      (keys.zip items).foldlM (fun options (key, value) => setOption? options key value) default
    else none
  | _ => none

end AttributeOptions

namespace AttributeFilter

def ofYaml? : Yaml → Option AttributeFilter
  | .sequence items => (items.mapM Yaml.text?).map .names
  | .mapping pairs => do
    let entries ← pairs.foldlM (fun entries (key, value) => do
      some (Keyed.insert entries (← Yaml.text? key)
        (← Yaml.optional? AttributeOptions.ofYaml? value))) []
    some (.detailed entries)
  | _ => none

def ofNode? (node : Yaml.Node) : Option AttributeFilter := node.value? >>= ofYaml?

end AttributeFilter

namespace Filter

/-- The keys that are not constraints on parameters. -/
def reservedKeys : List String :=
  ["domain", "domain_regex", "bean", "bean_name", "bean_regex", "class", "class_regex",
    "attribute", "exclude_tags", "tags"]

/-- Read one text or several; nothing is none. -/
def oneOrMany? (node : Yaml.Node) : Option (List String) :=
  (node.optional? fun node => node.value? >>= textOrList?).map (·.getD [])

/-- Read the constraints on parameters: whatever is not reserved. -/
def params? (fields : List (String × Yaml.Node)) : Option (List (String × Yaml)) :=
  (fields.filter fun (key, _) => !reservedKeys.contains key).foldlM
    (fun params (key, node) => do
      let value ← node.value?
      if value.hasDistinctKeys then some (Keyed.insert params key value) else none) []

def ofNode? (node : Yaml.Node) : Option Filter := do
  let fields ← node.fields?
  if repeats reservedKeys fields then none
  else
    let text := fun key => optionalField? fields key none (·.optional? Yaml.Node.text?)
    let texts := fun key => optionalField? fields key [] oneOrMany?
    some {
      domain := ← text "domain"
      domainPattern := ← text "domain_regex"
      beans := ← texts "bean"
      beanNames := ← texts "bean_name"
      beanPatterns := ← texts "bean_regex"
      className := ← text "class"
      classPattern := ← text "class_regex"
      attributes :=
        ← optionalField? fields "attribute" none (·.optional? AttributeFilter.ofNode?)
      excludedTags := ← optionalField? fields "exclude_tags" [] (·.list? Yaml.Node.text?)
      tags := ← optionalField? fields "tags" [] fun node => node.bindings?.map Keyed.ofList
      params := ← params? fields }

end Filter

namespace Configuration

/-- Read a configuration; its include filter has to be there. -/
def ofNode? (node : Yaml.Node) : Option Configuration := do
  let fields ← node.fields?
  if repeats ["include", "exclude", "conf"] fields then none
  else
    let included ← requiredField? fields "include" Filter.ofNode?
    let excluded ← optionalField? fields "exclude" Filter.empty Filter.ofNode?
    let (metricPrefix, renamedTags) ← optionalField? fields "conf" (none, []) fun node => do
      let fields ← node.fields?
      if repeats ["metric_prefix", "tags_alias"] fields then none
      else
        let metricPrefix ← optionalField? fields "metric_prefix" none
          (·.optional? Yaml.Node.text?)
        let renamedTags ← optionalField? fields "tags_alias" [] fun node =>
          node.bindings?.map Keyed.ofList
        some (metricPrefix, renamedTags)
    some ⟨included, excluded, metricPrefix, renamedTags⟩

end Configuration
end BeanHarvest
