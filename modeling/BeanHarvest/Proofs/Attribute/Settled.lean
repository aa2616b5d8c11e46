import BeanHarvest.Proofs.Attribute.Offers
import BeanHarvest.Proofs.Attribute.Rows
import BeanHarvest.Proofs.MetricName

/-! Settled metrics: what a metric has from its template, however often the attribute is collected and
whatever it is collected from. Single values and parts of composite values bring in a number and nothing
else. The metrics of rows and groups get further tags, and one that is kept under a text goes to every
value with that text: that keeps to the templates as long as values of columns with other templates do not
meet under one text. -/
namespace BeanHarvest

namespace Metric

variable {template metric : Metric}

/-- Whether a metric goes by a template: it has its name, type and check, and at least its tags. -/
structure GoesBy (template metric : Metric) : Prop where
  name : metric.name = template.name
  type : metric.type = template.type
  check : metric.check = template.check
  tags : template.tags ⊆ metric.tags

theorem GoesBy.refl (template : Metric) : template.GoesBy template :=
  ⟨rfl, rfl, rfl, List.Subset.refl _⟩

theorem GoesBy.withValue (goes : template.GoesBy metric) (value : Double) :
    template.GoesBy (metric.withValue value) := ⟨goes.name, goes.type, goes.check, goes.tags⟩

theorem addTags_goesBy (template : Metric) (extra : List String) :
    template.GoesBy (template.addTags extra) :=
  ⟨rfl, rfl, rfl, fun _ member => mem_sortedSet.mpr (List.mem_append_left _ member)⟩

/-- Whether a metric is well made: its name is stable under normalising, its tags ascend, and it goes to
the check. -/
structure WellMade (check : String) (metric : Metric) : Prop where
  name : MetricName.normalize metric.name = metric.name
  tags : metric.tags.Pairwise (· < ·)
  check : metric.check = check

theorem WellMade.of_goesBy {check : String} (made : template.WellMade check)
    (goes : template.GoesBy metric) (ascending : metric.tags.Pairwise (· < ·)) :
    metric.WellMade check where
  name := by rw [goes.name, made.name]
  tags := ascending
  check := goes.check.trans made.check

end Metric

/-- A name that was resolved is stable. -/
theorem Alias.normalize_resolve (template : Option String) (context : Alias.Context)
    (value : Option String) :
    MetricName.normalize (resolve template context value) = resolve template context value := by
  unfold resolve MetricName.normalize
  rw [String.toList_ofList,
    MetricName.normalForm_eq_self_iff.mpr (MetricName.normalForm_isNormal _)]

theorem Candidate.template_wellMade (candidate : Candidate) (found : BeanMatch)
    (context : InstanceContext) (path : String) (exact whole : Option AttributeOptions)
    (live : Option String) (withOptionTags : Bool) :
    (candidate.template found context path exact whole live withOptionTags).WellMade
      context.checkName where
  name := Alias.normalize_resolve _ _ _
  tags := sortedSet_ascending _
  check := rfl

namespace Place

variable {params : Bindings} {places : List Place} {place : Place}

theorem fresh_goesBy (params : Bindings) (place : Place) :
    place.column.leaf.template.GoesBy (place.fresh params) := Metric.addTags_goesBy _ _

/-- What a place shows among others: its own number, under the metric of some place with the same text. -/
structure Shows (name : String) (params : Bindings) (places : List Place) (place : Place)
    (metric : Metric) : Prop where
  among : place ∈ places
  number : place.number name = .ok metric.value
  source : ∃ other ∈ places, other.key params = place.key params ∧
    metric = (other.fresh params).withValue metric.value

/-- Whether places that are kept under one text have metrics that go by both templates. -/
def Apart (params : Bindings) (places : List Place) : Prop :=
  ∀ place ∈ places, ∀ other ∈ places, other.key params = place.key params →
    place.column.leaf.template.GoesBy (other.fresh params)

/-- What shows its own column: the own number of the value, and a metric that goes by the template. -/
structure ShowsOwn (name : String) (place : Place) (metric : Metric) : Prop where
  number : place.number name = .ok metric.value
  goesBy : place.column.leaf.template.GoesBy metric

theorem Shows.own {name : String} {metric : Metric} (shows : place.Shows name params places metric)
    (apart : Apart params places) : place.ShowsOwn name metric := by
  obtain ⟨other, present, same, shown⟩ := shows.source
  refine ⟨shows.number, ?_⟩
  rw [shown]
  exact (apart place shows.among other present same).withValue _

/-- Labels and paths without bars keep the columns apart, if no path repeats. -/
theorem apart_of_plain {columns : List Column} (distinct : (columns.map (·.leaf.path)).Nodup)
    (among : ∀ place ∈ places, place.column ∈ columns)
    (plain : ∀ place ∈ places, '|' ∉ place.sample.label.toList ∧
      '|' ∉ place.column.leaf.path.toList) : Apart params places := by
  intro place member other member₂ same
  obtain ⟨label, path⟩ := plain place member
  obtain ⟨label₂, path₂⟩ := plain other member₂
  have texts := congrArg String.toList same
  simp only [Place.key, Column.key, String.toList_append, List.append_assoc] at texts
  -- Without bars of its own the label ends at the first bar, and the path at the second.
  obtain ⟨-, texts⟩ := Table.append_bar_inj label₂ label texts
  obtain ⟨samePath, -⟩ := Table.append_bar_inj path₂ path texts
  have sameColumn : other.column = place.column :=
    List.inj_on_of_nodup_map distinct (among other member₂) (among place member)
      (String.toList_inj.mp samePath)
  rw [← sameColumn]
  exact other.fresh_goesBy params

end Place

/-- A metric that is seen is that of some place with the same text. -/
theorem SeenMetrics.see_source {metrics : SeenMetrics} {params : Bindings} {places : List Place}
    {place : Place} (rooted : metrics.Rooted params places) (present : place ∈ places) :
    ∃ other ∈ places, other.key params = place.key params ∧
      (metrics.see (place.key params) (place.fresh params)).1 = other.fresh params := by
  -- What is kept and what was seen come from places alike, so that it is all one where the text is found.
  have known : ∀ metric, (place.key params, metric) ∈ metrics.kept ++ metrics.seen →
      ∃ other ∈ places, other.key params = place.key params ∧ metric = other.fresh params := by
    intro metric member
    obtain ⟨other, among, same⟩ := rooted _ member
    obtain ⟨sameKey, shown⟩ := Prod.mk.inj same
    exact ⟨other, among, sameKey.symm, shown⟩
  unfold see
  split
  · next metric seen => exact known metric (List.mem_append_right _ (Keyed.mem_of_get? seen))
  · split
    · next metric kept => exact known metric (List.mem_append_left _ (Keyed.mem_of_get? kept))
    · exact ⟨place, present, rfl, rfl⟩

namespace Column

variable {column : Column} {columns : List Column} {name : String} {params : Bindings}
  {metrics : SeenMetrics} {samples : Column → List Sample} {list : List Sample}
  {places : List Place} {batch : List Metric}

/-- What comes of the values of a column: a metric for each in their order, of which the limit of the
column leaves some. -/
def Comes (shows : Place → Metric → Prop) (samples : Column → List Sample) (column : Column)
    (batch : List Metric) : Prop :=
  ∃ all, List.Forall₂ (fun sample => shows ⟨column, sample⟩) (samples column) all ∧
    batch = Extraction.limited all column.limit column.order

theorem Comes.imp {shows other : Place → Metric → Prop}
    (implies : ∀ place metric, shows place metric → other place metric)
    (comes : column.Comes shows samples batch) : column.Comes other samples batch := by
  obtain ⟨all, each, rfl⟩ := comes
  exact ⟨all, each.imp fun sample => implies ⟨column, sample⟩, rfl⟩

theorem Comes.exists_place {shows : Place → Metric → Prop} {metric : Metric}
    (comes : column.Comes shows samples batch) (member : metric ∈ batch) :
    ∃ place, shows place metric := by
  obtain ⟨all, each, rfl⟩ := comes
  have present : metric ∈ all := by
    unfold Extraction.limited at member
    split at member
    · exact member
    · exact List.mem_mergeSort.mp (List.mem_of_mem_take member)
  obtain ⟨sample, -, shown⟩ := exists_of_forall₂ each present
  exact ⟨_, shown⟩

theorem collect_shows (rooted : metrics.Rooted params places)
    (among : ∀ sample ∈ list, Place.mk column sample ∈ places)
    (all : (column.collect name params metrics list).1 = .ok batch) :
    List.Forall₂ (fun sample => (Place.mk column sample).Shows name params places) list batch := by
  induction list generalizing metrics batch with
  | nil =>
    cases all
    exact .nil
  | cons sample rest ih =>
    have present : Place.mk column sample ∈ places := among sample List.mem_cons_self
    have source := SeenMetrics.see_source rooted present
    have later := SeenMetrics.see_rooted rooted present
    simp only [collect] at all
    split at all
    · cases all
    · next x number =>
      obtain ⟨others, collected, rfl⟩ := exists_of_map_eq_ok all
      refine .cons ⟨present, number, ?_⟩ (ih later (fun other member => ?_) collected)
      · obtain ⟨other, member, same, shown⟩ := source
        exact ⟨other, member, same, congrArg (·.withValue x) shown⟩
      · exact among other (List.mem_cons_of_mem _ member)

theorem collectAll_shows {collected : List Metric} (rooted : metrics.Rooted params places)
    (among : ∀ place ∈ Place.ofColumns samples columns, place ∈ places)
    (all : (collectAll samples name params metrics columns).1 = .ok collected) :
    ∃ batches, collected = batches.flatten ∧
      List.Forall₂ (Comes (Place.Shows name params places) samples) columns batches := by
  induction columns generalizing metrics collected with
  | nil =>
    cases all
    exact ⟨[], rfl, .nil⟩
  | cons column rest ih =>
    have here : ∀ sample ∈ samples column, Place.mk column sample ∈ places := fun sample member =>
      among _ (List.mem_append_left _ (List.mem_map_of_mem member))
    have shown := @collect_shows column name params metrics (samples column) places
    have later : (column.collect name params metrics (samples column)).2.Rooted params places :=
      collect_rooted rooted here
    simp only [collectAll] at all
    generalize column.collect name params metrics (samples column) = first at all shown later
    obtain ⟨result, next⟩ := first
    cases result with
    | error fault => cases all
    | ok batch =>
      obtain ⟨others, went, rfl⟩ := exists_of_map_eq_ok all
      obtain ⟨batches, rfl, each⟩ := ih later
        (fun place member => among place (List.mem_append_right _ member)) went
      exact ⟨_ :: batches, rfl, .cons ⟨batch, shown rooted here rfl, rfl⟩ each⟩

theorem collectCached_shows {cache : MetricCache} {collected : List Metric}
    (rooted : cache.Rooted params places)
    (among : ∀ place ∈ Place.ofColumns samples columns, place ∈ places)
    (all : (collectCached samples name params columns cache).1 = .ok collected) :
    ∃ batches, collected = batches.flatten ∧
      List.Forall₂ (Comes (Place.Shows name params places) samples) columns batches := by
  have start : SeenMetrics.Rooted params places ⟨cache, []⟩ := fun entry member =>
    rooted entry (by simpa using member)
  have whole : (collectAll samples name params ⟨cache, []⟩ columns).1 = .ok collected := by
    unfold collectCached at all
    split at all
    · next same => rw [same, ← all]
    · cases all
  exact collectAll_shows start among whole

end Column

/-- Of a composite value every part brings in its number. -/
theorem Leaf.collectEntries_withValue {name : String} {entries : List (String × LiveValue)}
    {leaves : List Leaf} {metrics : List Metric}
    (all : collectEntries name entries leaves = .ok metrics) :
    List.Forall₂ (fun leaf metric => metric = leaf.template.withValue metric.value) leaves metrics := by
  induction leaves generalizing metrics with
  | nil =>
    cases all
    exact .nil
  | cons leaf rest ih =>
    unfold collectEntries at all
    split at all
    · cases all
    · next value _ =>
      cases number : Extraction.toNumber (name ++ "." ++ leaf.path) leaf.values value with
      | error fault => simp [number, bind, Except.bind] at all
      | ok x =>
        cases later : collectEntries name entries rest with
        | error fault => simp [number, later, bind, Except.bind] at all
        | ok others =>
          simp only [number, later, bind, Except.bind, Except.ok.injEq] at all
          exact all ▸ .cons rfl (ih later)

namespace MatchedAttribute

variable {bound : MatchedAttribute} {cache : MetricCache} {value : LiveValue} {places : List Place}
  {metrics : List Metric}

/-- The columns of an attribute; single values and parts of composite values are none. -/
def columns (bound : MatchedAttribute) : List Column :=
  match bound.shape with
  | .simple _ | .composite _ => []
  | .tabular columns _ | .statistics columns _ => columns

def samples (bound : MatchedAttribute) (value : LiveValue) (column : Column) : List Sample :=
  match bound.shape, value with
  | .tabular .., .tabular table => column.rowSamples table
  | .statistics .., value => if Statistics.isStatistics value then column.groupSamples value else []
  | _, _ => []

theorem mem_places {place : Place} (member : place ∈ bound.places value) :
    place.column ∈ bound.columns := by
  obtain ⟨bean, name, type, params, shape, count⟩ := bound
  have ofColumns : ∀ {samples columns}, place ∈ Place.ofColumns samples columns →
      place.column ∈ columns := by
    intro samples columns member
    obtain ⟨column, among, member⟩ := List.mem_flatMap.mp member
    obtain ⟨sample, _, rfl⟩ := List.mem_map.mp member
    exact among
  unfold MatchedAttribute.places at member
  cases shape with
  | simple leaf => cases member
  | composite leaves => cases member
  | tabular columns cache =>
    cases value with
    | tabular table => exact ofColumns member
    | _ => cases member
  | statistics columns cache =>
    dsimp only at member
    split at member
    · exact ofColumns member
    · cases member

/-- What is shown of single values and parts: the templates with numbers. -/
theorem extract_withValue
    (fixed : bound.kind = .simple ∨ bound.kind = .composite) (all : (bound.extract value).1 = .ok metrics) :
    List.Forall₂ (fun template metric => metric = template.withValue metric.value)
      bound.templates metrics := by
  obtain ⟨bean, name, type, params, shape, count⟩ := bound
  unfold extract at all
  cases shape with
  | simple leaf =>
    obtain ⟨x, -, rfl⟩ := exists_of_map_eq_ok all
    exact .cons rfl .nil
  | composite leaves =>
    dsimp only at all
    split at all
    · exact List.forall₂_map_left_iff.mpr (Leaf.collectEntries_withValue all)
    · cases all
  | tabular columns cache => simp [kind] at fixed
  | statistics columns cache => simp [kind] at fixed

/-- What is shown of rows and groups: their own numbers, under the metrics of places with their texts. -/
theorem extract_shows (rowwise : bound.kind = .tabular ∨ bound.kind = .statistics)
    (rooted : cache.Rooted bound.params places) (among : ∀ place ∈ bound.places value, place ∈ places)
    (all : ((bound.withCache cache).extract value).1 = .ok metrics) :
    ∃ batches, metrics = batches.flatten ∧
      List.Forall₂ (Column.Comes (Place.Shows bound.name bound.params places) (bound.samples value))
        bound.columns batches := by
  obtain ⟨bean, name, type, params, shape, count⟩ := bound
  cases shape with
  | simple leaf => simp [kind] at rowwise
  | composite leaves => simp [kind] at rowwise
  | tabular columns kept =>
    cases value with
    | tabular table => exact Column.collectCached_shows rooted among all
    | _ => cases all
  | statistics columns kept =>
    unfold extract withCache at all
    unfold MatchedAttribute.places at among
    unfold samples
    dsimp only at all among ⊢
    split at all
    · next isOne =>
      rw [if_pos isOne] at among
      simp only [isOne, if_true]
      exact Column.collectCached_shows rooted among all
    · cases all

theorem templates_withCache (bound : MatchedAttribute) (cache : MetricCache) :
    (bound.withCache cache).templates = bound.templates ∧ (bound.withCache cache).kind = bound.kind := by
  obtain ⟨bean, name, type, params, shape, count⟩ := bound
  cases shape <;> exact ⟨rfl, rfl⟩

theorem template_mem {column : Column} (member : column ∈ bound.columns) :
    column.leaf.template ∈ bound.templates := by
  obtain ⟨bean, name, type, params, shape, count⟩ := bound
  cases shape with
  | simple leaf => cases member
  | composite leaves => cases member
  | tabular columns cache => exact List.mem_map_of_mem member
  | statistics columns cache => exact List.mem_map_of_mem member

variable {candidate : Candidate} {context : InstanceContext} {selecting : List BeanMatch}
  {given answer : (call : Call) → call.Outcome} {history : List ((call : Call) → call.Outcome)}

theorem templates_wellMade
    (isBound : (candidate.bind context selecting).result given = .ok (some bound)) :
    ∀ template ∈ bound.templates, template.WellMade context.checkName := by
  intro template member
  obtain ⟨kind, found, value, taken⟩ := Candidate.exists_offer isBound
  obtain ⟨path, exact, whole, live, withOptionTags, rfl⟩ :=
    (Candidate.boundBy_of_taken taken).templates template member
  exact candidate.template_wellMade found context path exact whole live withOptionTags

theorem keepsNothing_of_bind
    (isBound : (candidate.bind context selecting).result given = .ok (some bound)) :
    bound.KeepsNothing := by
  obtain ⟨kind, found, value, taken⟩ := Candidate.exists_offer isBound
  exact (Candidate.offer_makes taken).2

theorem columnPaths_nodup
    (isBound : (candidate.bind context selecting).result given = .ok (some bound)) :
    (bound.columns.map (·.leaf.path)).Nodup := by
  obtain ⟨kind, found, value, taken⟩ := Candidate.exists_offer isBound
  obtain ⟨-, -, -, -, kind_eq, paths_eq, -⟩ := Candidate.boundBy_of_taken taken
  have distinct : ∀ texts : List String, (sortedSet texts).Nodup := fun texts =>
    (sortedSet_ascending texts).imp fun before => before.ne
  obtain ⟨bean, name, type, params, shape, count⟩ := bound
  cases shape with
  | simple leaf => exact List.nodup_nil
  | composite leaves => exact List.nodup_nil
  | tabular columns cache =>
    cases kind_eq
    have wanted : columns.map (·.leaf.path) = candidate.wantedPaths .tabular found.configuration value :=
      paths_eq nofun
    unfold Candidate.wantedPaths Candidate.subPaths at wanted
    unfold MatchedAttribute.columns
    rw [wanted]
    cases value with
    | tabular table => exact (distinct _).filter _
    | _ => exact List.nodup_nil
  | statistics columns cache =>
    cases kind_eq
    have wanted : columns.map (·.leaf.path) =
        candidate.wantedPaths .statistics found.configuration value := paths_eq nofun
    unfold MatchedAttribute.columns
    rw [wanted]
    exact (distinct _).filter _

theorem exists_extract (keepsNothing : bound.KeepsNothing)
    (history : List ((call : Call) → call.Outcome)) (answer : (call : Call) → call.Outcome)
    (collected : ((bound.after history).collect.result answer).1 = .ok metrics) :
    ∃ (cache : MetricCache) (value : LiveValue), answer (.read bound.bean bound.name) = .ok value ∧
      cache.Rooted bound.params (history.flatMap bound.placesIn) ∧
      ((bound.withCache cache).extract value).1 = .ok metrics := by
  have empty : MetricCache.Rooted bound.params [] [] := fun entry member => nomatch member
  obtain ⟨cache, went, rooted⟩ := after_withCache bound history empty
  have sameTarget : (bound.withCache cache).bean = bound.bean ∧
      (bound.withCache cache).name = bound.name := ⟨rfl, rfl⟩
  rw [keepsNothing] at went
  rw [went, result_collect, sameTarget.1, sameTarget.2] at collected
  split at collected
  · next value read => exact ⟨cache, value, read, rooted, collected⟩
  · cases collected

theorem mem_placesIn {place : Place} {answer : (call : Call) → call.Outcome}
    (member : place ∈ bound.placesIn answer) : place.column ∈ bound.columns := by
  unfold placesIn at member
  split at member
  · exact mem_places member
  · cases member

/-- Whatever was collected before, single values and parts show the templates with numbers. -/
theorem collect_withValue (keepsNothing : bound.KeepsNothing)
    (collected : ((bound.after history).collect.result answer).1 = .ok metrics)
    (single : bound.kind = .simple ∨ bound.kind = .composite) :
    List.Forall₂ (fun template metric => metric = template.withValue metric.value)
      bound.templates metrics := by
  obtain ⟨cache, value, -, -, extracted⟩ := exists_extract keepsNothing history answer collected
  obtain ⟨sameTemplates, sameKind⟩ := templates_withCache bound cache
  rw [← sameTemplates]
  exact extract_withValue (sameKind ▸ single) extracted

/-- Whatever was collected before, rows and groups show their own numbers, under the metrics of places of
these collections or of the present one. -/
theorem collect_shows (keepsNothing : bound.KeepsNothing)
    (collected : ((bound.after history).collect.result answer).1 = .ok metrics)
    (rows : bound.kind = .tabular ∨ bound.kind = .statistics) :
    ∃ value batches, answer (.read bound.bean bound.name) = .ok value ∧ metrics = batches.flatten ∧
      List.Forall₂ (Column.Comes (Place.Shows bound.name bound.params
        (history.flatMap bound.placesIn ++ bound.placesIn answer)) (bound.samples value))
        bound.columns batches := by
  obtain ⟨cache, value, read, rooted, extracted⟩ := exists_extract keepsNothing history answer collected
  have now : bound.placesIn answer = bound.places value := by
    unfold placesIn
    rw [read]
  have rootedToo : cache.Rooted bound.params
      (history.flatMap bound.placesIn ++ bound.placesIn answer) := by
    intro entry member
    obtain ⟨place, seen, same⟩ := rooted entry member
    exact ⟨place, List.mem_append_left _ seen, same⟩
  obtain ⟨batches, whole, each⟩ := extract_shows rows rootedToo
    (fun place member => List.mem_append_right _ (now ▸ member)) extracted
  exact ⟨value, batches, read, whole, each⟩

/-- Templates with numbers are well made, and go by the templates. -/
theorem wellMade_of_withValue {check : String}
    (made : ∀ template ∈ bound.templates, template.WellMade check)
    (each : List.Forall₂ (fun template metric => metric = template.withValue metric.value)
      bound.templates metrics) {metric : Metric} (member : metric ∈ metrics) :
    metric.WellMade check ∧ ∃ template ∈ bound.templates, template.GoesBy metric := by
  obtain ⟨template, present, shown⟩ := exists_of_forall₂ each member
  have goes : template.GoesBy metric := shown ▸ (Metric.GoesBy.refl template).withValue metric.value
  have sameTags : metric.tags = template.tags := (congrArg Metric.tags shown).trans rfl
  exact ⟨(made template present).of_goesBy goes (sameTags ▸ (made template present).tags),
    template, present, goes⟩

/-- What is shown at places of the attribute is well made, and goes by a template of one of its columns. -/
theorem wellMade_of_shows {check name : String} {place : Place} {metric : Metric}
    (made : ∀ template ∈ bound.templates, template.WellMade check)
    (among : ∀ place ∈ places, place.column ∈ bound.columns)
    (shows : place.Shows name bound.params places metric) :
    metric.WellMade check ∧ ∃ template ∈ bound.templates, template.GoesBy metric := by
  obtain ⟨other, present, -, shown⟩ := shows.source
  have stands := template_mem (among other present)
  have goes : other.column.leaf.template.GoesBy metric :=
    shown ▸ (other.fresh_goesBy bound.params).withValue metric.value
  have sameTags : metric.tags = (other.fresh bound.params).tags := (congrArg Metric.tags shown).trans rfl
  exact ⟨(made _ stands).of_goesBy goes (sameTags ▸ sortedSet_ascending _), _, stands, goes⟩

/-- Every metric of a bound attribute is well made and goes by one of the templates, whatever the attribute
was collected from before. Single values and parts of composite values show the templates themselves, with
numbers. Each column shows its own numbers, and goes by its own template as long as the places of all
collections are apart; that is so where neither labels nor paths have bars. -/
theorem collect_settled
    (isBound : (candidate.bind context selecting).result given = .ok (some bound))
    (history : List ((call : Call) → call.Outcome)) (answer : (call : Call) → call.Outcome)
    (collected : ((bound.after history).collect.result answer).1 = .ok metrics) :
    let places := history.flatMap bound.placesIn ++ bound.placesIn answer
    (∀ metric ∈ metrics, metric.WellMade context.checkName ∧
        ∃ template ∈ bound.templates, template.GoesBy metric) ∧
      (bound.kind = .simple ∨ bound.kind = .composite →
        List.Forall₂ (fun template metric => metric = template.withValue metric.value)
          bound.templates metrics) ∧
      (bound.kind = .tabular ∨ bound.kind = .statistics →
        ∃ value batches, answer (.read bound.bean bound.name) = .ok value ∧ metrics = batches.flatten ∧
          List.Forall₂ (Column.Comes (Place.Shows bound.name bound.params places) (bound.samples value))
            bound.columns batches ∧
          (Place.Apart bound.params places →
            List.Forall₂ (Column.Comes (Place.ShowsOwn bound.name) (bound.samples value))
              bound.columns batches)) ∧
      ((∀ place ∈ places, '|' ∉ place.sample.label.toList ∧ '|' ∉ place.column.leaf.path.toList) →
        Place.Apart bound.params places) := by
  intro places
  have made := templates_wellMade isBound
  have keepsNothing := keepsNothing_of_bind isBound
  have among : ∀ place ∈ places, place.column ∈ bound.columns := by
    intro place member
    rcases List.mem_append.mp member with earlier | now
    · obtain ⟨answer, -, member⟩ := List.mem_flatMap.mp earlier
      exact mem_placesIn member
    · exact mem_placesIn now
  refine ⟨fun metric member => ?_, collect_withValue keepsNothing collected, fun rows => ?_,
    Place.apart_of_plain (columnPaths_nodup isBound) among⟩
  · by_cases single : bound.kind = .simple ∨ bound.kind = .composite
    · exact wellMade_of_withValue made (collect_withValue keepsNothing collected single) member
    · have rows : bound.kind = .tabular ∨ bound.kind = .statistics := by
        cases known : bound.kind <;> simp_all
      obtain ⟨value, batches, -, rfl, each⟩ := collect_shows keepsNothing collected rows
      obtain ⟨batch, present, member⟩ := List.mem_flatten.mp member
      obtain ⟨column, -, comes⟩ := exists_of_forall₂ each present
      obtain ⟨place, shows⟩ := comes.exists_place member
      exact wellMade_of_shows made among shows
  · obtain ⟨value, batches, read, whole, each⟩ := collect_shows keepsNothing collected rows
    exact ⟨value, batches, read, whole, each, fun apart =>
      each.imp fun column batch => Column.Comes.imp fun place metric shows => shows.own apart⟩

/-- Two rows that are collected again behind a value of another shape and a table with other rows. -/
theorem collect_settled_twoPools :
    let now := twoPools ("heap", "eden") ("heap", "old")
    let history := [reading (.integer 1), reading (.tabular (twoPools ("heap", "eden") ("heap", "young")))]
    let bound := pools.matched listingCounts (.tabular [poolCount now] []) 2
    (pools.bind listingContext [listingCounts]).result (reading (.tabular now)) = .ok (some bound) ∧
      ∃ first second,
        ((bound.after history).collect.result (reading (.tabular now))).1 = .ok [first, second] ∧
        ∀ metric ∈ [first, second], metric.WellMade "jmx" ∧
          (poolCount now).leaf.template.GoesBy metric := by
  intro now history bound
  have isBound : (pools.bind listingContext [listingCounts]).result (reading (.tabular now)) =
      .ok (some bound) := bind_twoPools ("heap", "eden") ("heap", "old")
  obtain ⟨first, second, collected⟩ : ∃ first second,
      ((bound.after history).collect.result (reading (.tabular now))).1 = .ok [first, second] :=
    ⟨_, _, rfl⟩
  obtain ⟨each, -⟩ := collect_settled isBound history (reading (.tabular now)) collected
  refine ⟨isBound, first, second, collected, fun metric member => ?_⟩
  obtain ⟨made, template, stands, goes⟩ := each metric member
  have same : template = (poolCount now).leaf.template := List.mem_singleton.mp stands
  exact ⟨made, same ▸ goes⟩

/-- A table in which a bar stands once in the name of a column and once in an index value. -/
def barredPools : Table LiveValue :=
  ⟨["pool"], [⟨["a"], [("b|c", .integer 1), ("pool", .string "a")]⟩,
    ⟨["a|b"], [("c", .integer 2), ("pool", .string "a|b")]⟩]⟩

/-- A configuration that lists both of its columns. -/
def listingBarred : BeanMatch := Candidate.naming (some ["Pools.b|c", "Pools.c"]) none

def barredColumn (path : String) : Column :=
  pools.column .tabular listingContext listingBarred (.tabular barredPools) path

theorem bind_barredPools :
    (pools.bind listingContext [listingBarred]).result (reading (.tabular barredPools)) =
      .ok (some (pools.matched listingBarred
        (.tabular [barredColumn "b|c", barredColumn "c"] []) 2)) := by
  let value : LiveValue := .tabular barredPools
  have paths : Candidate.subPaths .tabular value = ["b|c", "c"] :=
    sortedSet_eq_of_ascending (by decide) fun path => by
      simp [barredPools, Table.pathsOf, LiveValue.isScalar]
  have selected : pools.selectedPaths .tabular listingBarred ["b|c", "c"] = ["b|c", "c"] := by
    rw [Candidate.selectedPaths_eq]
    decide
  have isBound : pools.bindNested .tabular listingContext listingBarred value =
      some (pools.matched listingBarred (.tabular [barredColumn "b|c", barredColumn "c"] []) 2) := by
    have counted : ([barredColumn "b|c", barredColumn "c"].foldl
        (· + Candidate.rowCount barredPools ·) 0) = 2 := by decide
    unfold Candidate.bindNested
    rw [paths, selected]
    exact congrArg some (congrArg (pools.matched listingBarred _) counted)
  have read : reading value (.read pools.bean pools.name) = .ok value := rfl
  have known : pools.kindAt? listingContext value = some .tabular := rfl
  have taken : (pools.offer .tabular listingContext listingBarred).takenAt value =
      some (pools.matched listingBarred (.tabular [barredColumn "b|c", barredColumn "c"] []) 2) :=
    (Candidate.offerNested_takenAt ..).trans isBound
  rw [Candidate.bind_result pools listingContext [listingBarred] read, known]
  simp [taken, value]

/-- The only value of the second column is shown under the name of the first one. -/
theorem collect_crosses_columns :
    let answer := reading (.tabular barredPools)
    ∃ bound first second,
      (pools.bind listingContext [listingBarred]).result answer = .ok (some bound) ∧
      bound.columns = [barredColumn "b|c", barredColumn "c"] ∧
      (bound.collect.result answer).1 = .ok [first, second] ∧
      ((barredColumn "c").rowSamples barredPools).map (Place.number bound.name ⟨barredColumn "c", ·⟩) =
        [.ok second.value] ∧
      (barredColumn "c").leaf.template.name = "jmx.app.pools.c" ∧
      second.name = "jmx.app.pools.b_c" := by
  intro answer
  refine ⟨_, _, _, bind_barredPools, rfl, rfl, rfl, ?_, ?_⟩
  · decide
  · decide

end MatchedAttribute
end BeanHarvest
