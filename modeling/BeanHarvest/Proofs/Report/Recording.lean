import BeanHarvest.Proofs.Keyed
import BeanHarvest.Report.Exposition
import Mathlib.Data.List.Induction
import Mathlib.Data.Prod.Lex
import Mathlib.Order.Lex

/-! What an exposition keeps of the reports that it was given: of every series, by name and labels,
the report that came last. -/
namespace BeanHarvest

namespace Report

def title : Report → String
  | point sent => sent.name
  | check sent => sent.name

def type : Report → MetricType
  | point sent => sent.type
  | check _ => .gauge

def value : Report → Float
  | point sent => sent.value
  | check sent => Number.toFloat (.whole sent.status.code)

def tags : Report → List String
  | point sent => sent.tags
  | check sent => sent.tags

def series (report : Report) (time : Int) : Exposition.Series :=
  ⟨Exposition.labels report.tags, report.title, report.type, report.value, time⟩

end Report

namespace Exposition

/-- Labels come in the order of the words made of them, letter by letter. -/
theorem precedes_iff (a b : Bindings) :
    precedes a b = true ↔ a.map toLex < b.map toLex := by
  induction a generalizing b with
  | nil => cases b <;> simp [precedes]
  | cons pair rest ih =>
    cases b with
    | nil => simp [precedes]
    | cons other others =>
      obtain ⟨k, v⟩ := pair
      obtain ⟨l, w⟩ := other
      rw [List.map_cons, List.map_cons, List.cons_lt_cons_iff, ← ih others, Prod.Lex.toLex_lt_toLex,
        precedes]
      by_cases keys : k = l
      · subst keys
        by_cases values : v = w
        · subst values
          simp
        · simp [values]
      · simp [keys]

theorem precedes_trans {a b c : Bindings} (first : precedes a b = true)
    (second : precedes b c = true) : precedes a c = true := by
  rw [precedes_iff] at *
  exact first.trans second

theorem ne_of_precedes {a b : Bindings} (before : precedes a b = true) : a ≠ b := by
  rintro rfl
  exact lt_irrefl _ ((precedes_iff a a).mp before)

theorem precedes_of_ne {a b : Bindings} (differ : a ≠ b) (notBefore : ¬precedes a b = true) :
    precedes b a = true := by
  rw [precedes_iff] at *
  refine (lt_trichotomy (a.map toLex) (b.map toLex)).resolve_left notBefore |>.resolve_left ?_
  exact fun same => differ (List.map_injective_iff.mpr toLex.injective same)

theorem mem_insertSeries {one other : Series} {list : List Series}
    (member : other ∈ insertSeries one list) : other = one ∨ other ∈ list := by
  induction list with
  | nil => exact .inl (List.mem_singleton.mp member)
  | cons first rest ih =>
    unfold insertSeries at member
    split at member
    · exact (List.mem_cons.mp member).imp_right (List.mem_cons_of_mem _)
    · split at member
      · exact List.mem_cons.mp member
      · rcases List.mem_cons.mp member with same | later
        · exact .inr (List.mem_cons.mpr (.inl same))
        · exact (ih later).imp_right (List.mem_cons_of_mem _)

theorem insertSeries_ne_nil (one : Series) (list : List Series) : insertSeries one list ≠ [] := by
  cases list with
  | nil => exact List.cons_ne_nil _ _
  | cons first rest =>
    unfold insertSeries
    repeat' split
    all_goals exact List.cons_ne_nil _ _

/-- Series in the order of their labels, so that no two have the same. -/
def Ranked (list : List Series) : Prop :=
  list.Pairwise fun one other => precedes one.labels other.labels = true

theorem Ranked.insert {list : List Series} (ranked : Ranked list) (one : Series) :
    Ranked (insertSeries one list) := by
  induction list with
  | nil => exact List.pairwise_singleton _ _
  | cons first rest ih =>
    obtain ⟨least, ranked_rest⟩ := List.pairwise_cons.mp ranked
    unfold insertSeries
    split
    · next same => exact List.pairwise_cons.mpr ⟨same ▸ least, ranked_rest⟩
    · next differ =>
      split
      · next before =>
        refine List.pairwise_cons.mpr ⟨fun other member => ?_, ranked⟩
        rcases List.mem_cons.mp member with rfl | later
        · exact before
        · exact precedes_trans before (least other later)
      · next notBefore =>
        refine List.pairwise_cons.mpr ⟨fun other member => ?_, ih ranked_rest⟩
        rcases mem_insertSeries member with rfl | later
        · exact precedes_of_ne differ notBefore
        · exact least other later

theorem Ranked.nodup {list : List Series} (ranked : Ranked list) : (list.map (·.labels)).Nodup :=
  List.pairwise_map.mpr (ranked.imp ne_of_precedes)

theorem find?_insertSeries (one : Series) (list : List Series) (labels : Bindings) :
    (insertSeries one list).find? (·.labels = labels) =
      if one.labels = labels then some one else list.find? (·.labels = labels) := by
  induction list with
  | nil => by_cases same : one.labels = labels <;> simp [insertSeries, same]
  | cons first rest ih =>
    unfold insertSeries
    by_cases same : one.labels = labels
    · split
      · simp [same]
      · split
        · simp [same]
        · next differ _ =>
          have other : first.labels ≠ labels := fun found => differ (same.trans found.symm)
          simp [other, ih, same]
    · split
      · next equal =>
        have other : first.labels ≠ labels := fun found => same (equal.trans found)
        simp [same, other]
      · split
        · simp [same]
        · by_cases found : first.labels = labels <;> simp [found, ih, same]

def series? (exposition : Exposition) (name : String) (labels : Bindings) : Option Series :=
  ((Keyed.get? exposition name).getD []).find? (·.labels = labels)

theorem series?_record (exposition : Exposition) (title : String) (type : MetricType) (value : Float)
    (tags : List String) (time : Int) (name : String) (labels : Bindings) :
    (exposition.record title type value tags time).series? name labels =
      if sanitizeName title = name ∧ Exposition.labels tags = labels then
        some ⟨Exposition.labels tags, title, type, value, time⟩
      else exposition.series? name labels := by
  unfold series? record
  rw [Keyed.get?_insert]
  by_cases named : sanitizeName title = name
  · subst named
    simp [find?_insertSeries]
  · simp [named]

theorem addReport_eq (exposition : Exposition) (report : Report) (time : Int) :
    exposition.addReport report time =
      exposition.record report.title report.type report.value report.tags time := by
  cases report <;> rfl

/-- The exposition that has been given some reports, each at a time. -/
def recorded (reports : List (Report × Int)) : Exposition :=
  reports.foldl (fun exposition (report, time) => exposition.addReport report time) []

def lastReport? (reports : List (Report × Int)) (name : String) (labels : Bindings) :
    Option (Report × Int) :=
  reports.reverse.find? fun entry =>
    sanitizeName entry.1.title = name ∧ Exposition.labels entry.1.tags = labels

theorem recorded_concat (reports : List (Report × Int)) (report : Report) (time : Int) :
    recorded (reports ++ [(report, time)]) =
      (recorded reports).record report.title report.type report.value report.tags time := by
  rw [recorded, List.foldl_append, ← addReport_eq]
  rfl

theorem lastReport?_concat (reports : List (Report × Int)) (last : Report × Int) (name : String)
    (labels : Bindings) : lastReport? (reports ++ [last]) name labels =
      if sanitizeName last.1.title = name ∧ Exposition.labels last.1.tags = labels then some last
      else lastReport? reports name labels := by
  by_cases own : sanitizeName last.1.title = name ∧ Exposition.labels last.1.tags = labels
  · simp [lastReport?, own]
  · simp only [lastReport?, List.reverse_append, List.reverse_singleton, List.singleton_append,
      List.find?_cons, own, decide_false, if_false]

/-- Under every name and labels stands what came last. -/
theorem series?_recorded (reports : List (Report × Int)) (name : String) (labels : Bindings) :
    (recorded reports).series? name labels =
      (lastReport? reports name labels).map fun entry => entry.1.series entry.2 := by
  induction reports using List.reverseRecOn with
  | nil => rfl
  | append_singleton reports last ih =>
    rw [recorded_concat, series?_record, ih, lastReport?_concat]
    split <;> rfl

/-- What holds of an exposition that was made of reports: names ascend, no name is without series, the
series of a name are ranked, and each comes from a report. -/
structure Keeps (exposition : Exposition) (reports : List (Report × Int)) : Prop where
  ascending : Keyed.Ascending exposition
  nonempty : ∀ family ∈ exposition, family.2 ≠ []
  ranked : ∀ family ∈ exposition, Ranked family.2
  origin : ∀ family ∈ exposition, ∀ series ∈ family.2, ∃ entry ∈ reports,
    family.1 = sanitizeName entry.1.title ∧ series = entry.1.series entry.2

theorem Keeps.record {exposition : Exposition} {reports : List (Report × Int)}
    (kept : Keeps exposition reports) (report : Report) (time : Int) :
    Keeps (exposition.record report.title report.type report.value report.tags time)
      (reports ++ [(report, time)]) := by
  -- The family of the report is empty, or one of those that there are.
  have family_cases : (Keyed.get? exposition (sanitizeName report.title)).getD [] = [] ∨
      (sanitizeName report.title, (Keyed.get? exposition (sanitizeName report.title)).getD []) ∈
        exposition := by
    cases found : Keyed.get? exposition (sanitizeName report.title) with
    | none => exact .inl rfl
    | some family => exact .inr (Keyed.mem_of_get? found)
  refine ⟨kept.ascending.insert _ _, ?_, ?_, ?_⟩
  · intro family member
    rcases Keyed.mem_of_mem_insert member with rfl | before
    · exact insertSeries_ne_nil _ _
    · exact kept.nonempty family before
  · intro family member
    rcases Keyed.mem_of_mem_insert member with rfl | before
    · refine Ranked.insert ?_ _
      rcases family_cases with empty | present
      · rw [empty]
        exact List.Pairwise.nil
      · exact kept.ranked _ present
    · exact kept.ranked family before
  · intro family member series present
    have earlier {before : String × List Series} (known : before ∈ exposition)
        (present : series ∈ before.2) : ∃ entry ∈ reports ++ [(report, time)],
          before.1 = sanitizeName entry.1.title ∧ series = entry.1.series entry.2 := by
      obtain ⟨entry, among, same⟩ := kept.origin before known series present
      exact ⟨entry, List.mem_append_left _ among, same⟩
    rcases Keyed.mem_of_mem_insert member with rfl | known
    · rcases mem_insertSeries present with rfl | present
      · exact ⟨(report, time), List.mem_append_right _ (List.mem_singleton_self _), rfl, rfl⟩
      · rcases family_cases with empty | known
        · simp [empty] at present
        · obtain ⟨entry, among, same⟩ := earlier known present
          exact ⟨entry, among, same⟩
    · exact earlier known present

theorem keeps_recorded (reports : List (Report × Int)) : Keeps (recorded reports) reports := by
  induction reports using List.reverseRecOn with
  | nil => exact ⟨List.Pairwise.nil, by simp [recorded], by simp [recorded], by simp [recorded]⟩
  | append_singleton reports last ih => exact recorded_concat _ _ _ ▸ ih.record last.1 last.2

/-- The series that are kept are those that are found. -/
theorem Keeps.series?_eq_some_iff {exposition : Exposition} {reports : List (Report × Int)}
    (kept : Keeps exposition reports) {name : String} {labels : Bindings} {series : Series} :
    exposition.series? name labels = some series ↔
      ∃ family ∈ exposition, family.1 = name ∧ series ∈ family.2 ∧ series.labels = labels := by
  constructor
  · intro found
    cases family : Keyed.get? exposition name with
    | none => simp [series?, family] at found
    | some list =>
      have member := Keyed.mem_of_get? family
      rw [series?, family, Option.getD_some,
        Keyed.find?_key_iff Series.labels (kept.ranked _ member).nodup] at found
      exact ⟨_, member, rfl, found⟩
  · rintro ⟨⟨_, list⟩, member, rfl, found⟩
    rw [series?, kept.ascending.get?_eq_some_iff.mpr member, Option.getD_some]
    exact (Keyed.find?_key_iff Series.labels (kept.ranked _ member).nodup).mpr found

end Exposition
end BeanHarvest
