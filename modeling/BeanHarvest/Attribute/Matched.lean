import BeanHarvest.Attribute.Extraction
import BeanHarvest.Attribute.Kind
import BeanHarvest.Live.Statistics
import BeanHarvest.Tags
import BeanHarvest.Target.Call

/-! Matched attributes: attributes bound to a configuration. Alias, type and tags of their metrics are
settled; collecting them only brings in numbers. The metrics of rows and groups get the tags of
theirs when they are first seen, and are kept as long as they are seen. -/
namespace BeanHarvest

/-- One metric of an attribute, without its number: the way into the value and the conversions. -/
structure Leaf where
  path : String
  template : Metric
  values : Keyed Double

/-- A column or a statistic, which gives a metric for each row or group. -/
structure Column where
  leaf : Leaf
  tags : Bindings
  limit : Option Nat
  order : SortOrder

/-- Metrics by the text of what they were seen at. -/
abbrev MetricCache := List (String × Metric)

inductive AttributeShape where
  | simple (leaf : Leaf)
  | composite (leaves : List Leaf)
  | tabular (columns : List Column) (cache : MetricCache)
  | statistics (columns : List Column) (cache : MetricCache)

/-- An attribute and what it gives. `metricCount` is what counts against the limit of the instance. -/
structure MatchedAttribute where
  bean : Bean
  name : String
  type : String
  params : Bindings
  shape : AttributeShape
  metricCount : Nat

/-- An attribute as it is listed, with alias and type of its metrics. -/
structure AttributeSummary where
  bean : String
  name : String
  type : String
  metrics : List (String × MetricType)
deriving DecidableEq, Repr

/-- One value that a column has: at what it was found, the tags and the values found beside it. -/
structure Sample where
  label : String
  ownTags : List String
  siblings : List (String × String)
  value : LiveValue

/-- The metrics that were kept and not yet seen again, and those that were seen. -/
structure SeenMetrics where
  kept : MetricCache
  seen : MetricCache

namespace SeenMetrics

/-- The metric under a key: the one seen, the one kept, or a fresh one; it is seen now. -/
def see (metrics : SeenMetrics) (key : String) (fresh : Metric) : Metric × SeenMetrics :=
  match lookup? metrics.seen key with
  | some metric => (metric, metrics)
  | none =>
    match lookup? metrics.kept key with
    | some metric =>
      (metric, ⟨metrics.kept.filter (·.1 ≠ key), metrics.seen ++ [(key, metric)]⟩)
    | none => (fresh, { metrics with seen := metrics.seen ++ [(key, fresh)] })

end SeenMetrics

namespace Column

/-- The tags of a row: its index values, or its whole key if the index has not their number. -/
def rowTags (index : List String) (row : Row LiveValue) : List String :=
  if !row.key.isEmpty && index.length = row.key.length then
    (index.zip row.key).map fun (name, value) => Tags.tag name value
  else [Tags.tag "row" row.keyText]

def rowSamples (column : Column) (table : Table LiveValue) : List Sample :=
  table.rows.filterMap fun row =>
    (row.atPath? column.leaf.path).map fun value => {
      label := row.keyText
      ownTags := rowTags table.index row
      siblings := row.values.filterMap fun (name, value) => value.scalarText?.map (name, ·)
      value }

/-- The values of a statistic in the groups of a statistics object. -/
def groupSamples (column : Column) (value : LiveValue) : List Sample :=
  (Statistics.groups value).filterMap fun group =>
    (Statistics.read? value group column.leaf.path).map fun found => {
      label := group
      ownTags := if group.isEmpty then [] else [Tags.tag "subcollection" group]
      siblings := (Statistics.paths value group).filterMap fun path =>
        (Statistics.read? value group path).bind fun found => found.scalarText?.map (path, ·)
      value := found }

def optionTags (column : Column) (params : Bindings) (sample : Sample) : List String :=
  Tags.render column.tags params sample.siblings

/-- The text under which the metric of a value is kept. -/
def key (column : Column) (params : Bindings) (sample : Sample) : String :=
  sample.label ++ "|" ++ column.leaf.path ++ "|" ++ ",".intercalate (column.optionTags params sample)

/-- The metric of a value that is seen for the first time. -/
def fresh (column : Column) (params : Bindings) (sample : Sample) : Metric :=
  column.leaf.template.addTags (sample.ownTags ++ column.optionTags params sample)

/-- The metrics of some values of a column, up to the first value that is no number. -/
def collect (column : Column) (name : String) (params : Bindings) (metrics : SeenMetrics) :
    List Sample → Except ExtractionFault (List Metric) × SeenMetrics
  | [] => (.ok [], metrics)
  | sample :: rest =>
    match Extraction.toNumber (name ++ "." ++ column.leaf.path) column.leaf.values sample.value with
    | .error fault => (.error fault, metrics)
    | .ok x =>
      let (metric, metrics) :=
        metrics.see (column.key params sample) (column.fresh params sample)
      let (others, metrics) := collect column name params metrics rest
      (others.map (metric.withValue x :: ·), metrics)

/-- The metrics of some columns, each column within its limit, up to the first value that is no
number. -/
def collectAll (samples : Column → List Sample) (name : String) (params : Bindings)
    (metrics : SeenMetrics) : List Column → Except ExtractionFault (List Metric) × SeenMetrics
  | [] => (.ok [], metrics)
  | column :: rest =>
    match column.collect name params metrics (samples column) with
    | (.error fault, metrics) => (.error fault, metrics)
    | (.ok batch, metrics) =>
      let (others, metrics) := collectAll samples name params metrics rest
      (others.map (Extraction.limited batch column.limit column.order ++ ·), metrics)

/-- The metrics of all columns, and the cache behind them: of what was seen if nothing went wrong,
else of what was not reached. -/
def collectCached (samples : Column → List Sample) (name : String) (params : Bindings)
    (columns : List Column) (cache : MetricCache) :
    Except ExtractionFault (List Metric) × MetricCache :=
  match collectAll samples name params ⟨cache, []⟩ columns with
  | (.ok metrics, after) => (.ok metrics, after.seen)
  | (.error fault, after) => (.error fault, after.kept)

end Column

namespace Leaf

def collectEntries (name : String) (entries : List (String × LiveValue)) :
    List Leaf → Except ExtractionFault (List Metric)
  | [] => .ok []
  | leaf :: rest =>
    match lookup? entries leaf.path with
    | none => .error (.missingPath name leaf.path)
    | some value => do
      let x ← Extraction.toNumber (name ++ "." ++ leaf.path) leaf.values value
      let others ← collectEntries name entries rest
      .ok (leaf.template.withValue x :: others)

end Leaf

namespace MatchedAttribute

/-- The text by which failures of the attribute are remembered. -/
def key (matched : MatchedAttribute) : String := matched.bean.name ++ "#" ++ matched.name

def kind (matched : MatchedAttribute) : AttributeKind :=
  match matched.shape with
  | .simple _ => .simple
  | .composite _ => .composite
  | .tabular .. => .tabular
  | .statistics .. => .statistics

/-- The metrics as they were settled, without numbers. -/
def templates (matched : MatchedAttribute) : List Metric :=
  match matched.shape with
  | .simple leaf => [leaf.template]
  | .composite leaves => leaves.map (·.template)
  | .tabular columns _ | .statistics columns _ => columns.map (·.leaf.template)

def summary (matched : MatchedAttribute) : AttributeSummary :=
  ⟨matched.bean.name, matched.name, matched.type,
    matched.templates.map fun metric => (metric.name, metric.type)⟩

/-- Turn a live value into metrics; with them comes the attribute as it is afterwards. -/
def extract (matched : MatchedAttribute) (value : LiveValue) :
    Except ExtractionFault (List Metric) × MatchedAttribute :=
  match matched.shape with
  | .simple leaf =>
    ((Extraction.toNumber matched.name leaf.values value).map fun x =>
      [leaf.template.withValue x], matched)
  | .composite leaves =>
    match value.entries? with
    | some entries => (Leaf.collectEntries matched.name entries leaves, matched)
    | none => (.error (.unexpectedShape matched.name "composite"), matched)
  | .tabular columns cache =>
    match value with
    | .tabular table =>
      let (result, cache) := Column.collectCached (·.rowSamples table) matched.name
        matched.params columns cache
      (result, { matched with shape := .tabular columns cache })
    | _ => (.error (.unexpectedShape matched.name "tabular"), matched)
  | .statistics columns cache =>
    if Statistics.isStatistics value then
      let (result, cache) := Column.collectCached (·.groupSamples value) matched.name
        matched.params columns cache
      (result, { matched with shape := .statistics columns cache })
    else (.error (.unexpectedShape matched.name "statistics object"), matched)

/-- Read the live value and turn it into metrics. -/
def collect (matched : MatchedAttribute) :
    Dialogue (Except ExtractionFault (List Metric) × MatchedAttribute) :=
  .ask (.read matched.bean matched.name) fun
    | .ok value => .done (matched.extract value)
    | .error fault => .done (.error (.connection fault), matched)

end MatchedAttribute
end BeanHarvest
