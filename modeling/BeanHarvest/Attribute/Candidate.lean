import BeanHarvest.Attribute.Matched
import BeanHarvest.Filter.Matching

/-! Candidates: attributes before they are matched. A candidate is bound to the first configuration
that selects it, or something in it. -/
namespace BeanHarvest

structure InstanceContext where
  name : String
  checkName : String
  tags : List String
  cassandraNaming : Bool
  detectStatistics : Bool
deriving Repr, Inhabited

/-- A configuration that selects a bean, and what the bean's parameters stand for. -/
structure BeanMatch where
  configuration : Configuration
  params : Bindings

structure Candidate where
  bean : Bean
  info : AttributeInfo

/-- What a configuration makes of a candidate: nothing, a matched attribute, or a decision that has
to see the live value. -/
inductive Offer where
  | pass
  | take (matched : MatchedAttribute)
  | look (decide : LiveValue → Option MatchedAttribute)

namespace Offer

/-- Take the first offer that leads to a matched attribute. The live value is read when it is first
needed, and once. -/
def settle (bean : Bean) (name : String) (live : Option LiveValue) :
    List Offer → Dialogue (Except ConnectionFault (Option MatchedAttribute))
  | [] => .done (.ok none)
  | pass :: rest => settle bean name live rest
  | take matched :: _ => .done (.ok (some matched))
  | look decide :: rest =>
    let go := fun value =>
      match decide value with
      | some matched => .done (.ok (some matched))
      | none => settle bean name (some value) rest
    match live with
    | some value => go value
    | none => .ask (.read bean name) fun
      | .ok value => go value
      | .error fault => .done (.error fault)

end Offer

namespace Candidate

def kind? (candidate : Candidate) : Option AttributeKind :=
  AttributeKind.ofType? candidate.info.type

def name (candidate : Candidate) : String := candidate.info.name

def summary (candidate : Candidate) : AttributeSummary :=
  ⟨candidate.bean.name, candidate.name, candidate.info.type, []⟩

/-- The metric at a path, without its number. An option of the path itself goes before one of the
whole attribute; the alias comes from the path's own options alone. -/
def template (candidate : Candidate) (found : BeanMatch) (context : InstanceContext)
    (path : String) (exact whole : Option AttributeOptions) (live : Option String)
    (withOptionTags : Bool) : Metric :=
  let configuration := found.configuration
  let name := Alias.resolve (exact.bind (·.template)) {
    domain := candidate.bean.domain
    path
    base := candidate.name
    params := found.params
    metricPrefix := configuration.metricPrefix
    cassandraNaming := context.cassandraNaming } live
  let type := ((exact.bind (·.type)) <|> (whole.bind (·.type))).getD .gauge
  let optionTags := match exact <|> whole with
    | some options => if withOptionTags then Tags.render options.tags found.params [] else []
    | none => []
  Metric.ofTags name type
    (Tags.base candidate.bean found.params configuration context.name context.tags ++ optionTags)
    context.checkName

def matched (candidate : Candidate) (found : BeanMatch) (shape : AttributeShape) (count : Nat) :
    MatchedAttribute :=
  ⟨candidate.bean, candidate.name, candidate.info.type, found.params, shape, count⟩

/-- A single value, bound to a configuration that selects it. -/
def bindSimple (candidate : Candidate) (found : BeanMatch) (context : InstanceContext)
    (options : Option AttributeOptions) (live : Option String) : MatchedAttribute :=
  let template := candidate.template found context candidate.name options none live true
  candidate.matched found (.simple ⟨"", template, (options.map (·.values)).getD []⟩) 1

/-- What a configuration makes of a single value: the value is looked at only if the alias asks for
it. -/
def offerSimple (candidate : Candidate) (context : InstanceContext) (found : BeanMatch) : Offer :=
  let included := found.configuration.included.attributes
  let excluded := found.configuration.excluded.attributes
  if !(AttributeFilter.coverage included candidate.name [] .whole).isMatch
      || (AttributeFilter.coverage excluded candidate.name [] .nothing).isMatch then .pass
  else
    let options := included.bind (·.options? candidate.name)
    if Alias.needsValue (options.bind (·.template)) then
      .look fun value => some (candidate.bindSimple found context options value.scalarText?)
    else .take (candidate.bindSimple found context options none)

def subPaths (kind : AttributeKind) (value : LiveValue) : List String :=
  match kind with
  | .simple => []
  | .composite =>
    ((value.entries?.getD []).filter (·.2.isScalar)).map (·.1)
  | .tabular =>
    match value with
    | .tabular table => table.columnPaths
    | _ => []
  | .statistics =>
    sortedSet ((Statistics.groups value).flatMap (Statistics.paths value))

/-- The paths that a filter lists one by one; a filter that is not set lists none. -/
def listedPaths (filter : Option AttributeFilter) (name : String) (paths : List String) :
    Coverage :=
  match filter with
  | none => .nothing
  | some filter =>
    let listed := paths.filter fun path => filter.contains (name ++ "." ++ path)
    if listed.isEmpty then .nothing else .subset listed

/-- The paths into a live value that a configuration selects. Columns of tables count only if they
are listed one by one. -/
def selectedPaths (candidate : Candidate) (kind : AttributeKind) (found : BeanMatch)
    (paths : List String) : List String :=
  let included := found.configuration.included.attributes
  let coverage :=
    if kind = .tabular then listedPaths included candidate.name paths
    else AttributeFilter.coverage included candidate.name paths .whole
  AttributeFilter.selected paths coverage
    (AttributeFilter.coverage found.configuration.excluded.attributes candidate.name paths .nothing)

def column (candidate : Candidate) (kind : AttributeKind) (context : InstanceContext)
    (found : BeanMatch) (value : LiveValue) (path : String) : Column :=
  let included := found.configuration.included.attributes
  let fullName := candidate.name ++ "." ++ path
  let exact := included.bind (·.options? fullName)
  let whole := included.bind (·.options? candidate.name)
  let effective := (exact <|> whole).getD AttributeOptions.default
  let live :=
    if kind = .composite then (lookup? (value.entries?.getD []) path).bind (·.scalarText?) else none
  let template :=
    candidate.template found context fullName exact whole live (kind = .composite)
  ⟨⟨path, template, effective.values⟩, effective.tags, effective.limit, effective.order⟩

/-- So many, but at most as many as the column's limit. -/
def withinLimit (column : Column) (count : Nat) : Nat :=
  match column.limit with
  | some limit => min count limit
  | none => count

def rowCount (table : Table LiveValue) (column : Column) : Nat :=
  withinLimit column (table.rows.countP fun row => (row.atPath? column.leaf.path).isSome)

def groupCount (value : LiveValue) (column : Column) : Nat :=
  withinLimit column
    ((Statistics.groups value).countP fun group =>
      (Statistics.paths value group).contains column.leaf.path)

/-- A value with parts, bound to a configuration if that selects any of them. -/
def bindNested (candidate : Candidate) (kind : AttributeKind) (context : InstanceContext)
    (found : BeanMatch) (value : LiveValue) : Option MatchedAttribute :=
  let selected := candidate.selectedPaths kind found (subPaths kind value)
  if selected.isEmpty then none
  else
    let columns := selected.map (candidate.column kind context found value)
    match kind with
    | .composite =>
      some (candidate.matched found (.composite (columns.map (·.leaf))) columns.length)
    | .tabular =>
      let count := match value with
        | .tabular table => columns.foldl (· + rowCount table ·) 0
        | _ => 0
      some (candidate.matched found (.tabular columns []) count)
    | _ =>
      let count := columns.foldl (· + groupCount value ·) 0
      some (candidate.matched found (.statistics columns []) count)

/-- Whether a filter may select a part of an attribute, as far as names tell. -/
def mayList (filter : AttributeFilter) (name : String) : Bool :=
  filter.contains name || filter.listed.any (·.startsWith (name ++ "."))

/-- What a configuration makes of a value with parts: it is not looked at if nothing under its name
is listed. -/
def offerNested (candidate : Candidate) (kind : AttributeKind) (context : InstanceContext)
    (found : BeanMatch) : Offer :=
  let worthLooking : Bool := match found.configuration.included.attributes with
    | some filter => mayList filter candidate.name
    | none => kind ≠ .tabular
  if worthLooking then .look (candidate.bindNested kind context found) else .pass

/-- What a configuration makes of a candidate of some kind. -/
def offer (candidate : Candidate) (kind : AttributeKind) (context : InstanceContext)
    (found : BeanMatch) : Offer :=
  match kind with
  | .simple => candidate.offerSimple context found
  | kind => candidate.offerNested kind context found

/-- Bind a candidate to the first of the configurations that selects it. A candidate whose type tells
nothing is looked at for statistics, if the instance has them. -/
def bind (candidate : Candidate) (context : InstanceContext) (selecting : List BeanMatch) :
    Dialogue (Except ConnectionFault (Option MatchedAttribute)) :=
  if selecting.isEmpty then .done (.ok none)
  else match candidate.kind? with
    | some kind =>
      Offer.settle candidate.bean candidate.name none
        (selecting.map (candidate.offer kind context))
    | none =>
      if !context.detectStatistics then .done (.ok none)
      else .ask (.read candidate.bean candidate.name) fun
        | .error fault => .done (.error fault)
        | .ok value =>
          if Statistics.isStatistics value then
            Offer.settle candidate.bean candidate.name (some value)
              (selecting.map (candidate.offer .statistics context))
          else .done (.ok none)

end Candidate
end BeanHarvest
