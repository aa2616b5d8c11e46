import BeanHarvest.Proofs.Report.Scraping
import BeanHarvest.Site.Basic
import Mathlib.Data.List.Nodup

/-! What is scraped from the site: the series that were recorded, and behind them the gauges of the agent.
Each part by itself is announced name by name. The whole is so just if no report was recorded under the
name of a gauge. -/
namespace BeanHarvest

namespace Exposition

def Line.helped? : Line → Option String
  | .help name _ => some name
  | _ => none

def Line.typed? : Line → Option String
  | .type name _ => some name
  | _ => none

def Line.sampled? : Line → Option (String × Bindings)
  | .sample name labels _ _ => some (name, labels)
  | _ => none

/-- Whether lines are well formed: a name has one line of help at most and one with its type, no two
samples have the same name and labels, and in front of a sample are the two lines of its name, with
nothing but samples of that name between. -/
structure WellFormed (lines : List Line) : Prop where
  helps : (lines.filterMap Line.helped?).Nodup
  types : (lines.filterMap Line.typed?).Nodup
  samples : (lines.filterMap Line.sampled?).Nodup
  headed : ∀ before name labels value time after,
    lines = before ++ .sample name labels value time :: after →
      ∃ earlier help kind beside, before = earlier ++ .help name help :: .type name kind :: beside ∧
        ∀ line ∈ beside, ∃ labels value time, line = .sample name labels value time

/-- The lines of a text all of whose lines end. -/
def lines? (text : String) : Option (List Line) :=
  let pieces := Text.pieces (· = '\n') text.toList
  if pieces.getLast? = some [] then pieces.dropLast.mapM readLine? else none

theorem lines?_of_chars {text : String} {chars : List (List Char)} {lines : List Line}
    (written : text.toList = chars.flatMap (· ++ ['\n'])) (whole : ∀ line ∈ chars, '\n' ∉ line)
    (read : chars.mapM readLine? = some lines) : lines? text = some lines := by
  simp [lines?, written, pieces_lines whole, read]

namespace Family

variable {family : Family} {families : List Family}

theorem filterMap_lines (family : Family) :
    family.lines.filterMap Line.helped? = [family.name] ∧
      family.lines.filterMap Line.typed? = [family.name] ∧
      family.lines.filterMap Line.sampled? =
        family.samples.map fun sample => (family.name, sample.labels) := by
  obtain ⟨name, help, kind, samples⟩ := family
  have others : ∀ key : Line → Option String,
      (∀ labels value time, key (.sample name labels value time) = none) →
        (samples.map fun sample =>
          Line.sample name sample.labels sample.value sample.time).filterMap key = [] := by
    intro key silent
    refine List.filterMap_eq_nil_iff.mpr fun line member => ?_
    obtain ⟨sample, -, rfl⟩ := List.mem_map.mp member
    exact silent _ _ _
  refine ⟨?_, ?_, ?_⟩
  · exact congrArg (name :: ·) (others Line.helped? fun _ _ _ => rfl)
  · exact congrArg (name :: ·) (others Line.typed? fun _ _ _ => rfl)
  · have each : (samples.map fun sample =>
        Line.sample name sample.labels sample.value sample.time).filterMap Line.sampled? =
        samples.map fun sample => (name, sample.labels) := by
      simp [List.filterMap_map, Function.comp_def, Line.sampled?]
    exact each

/-- In front of a sample of a family are its two lines and further samples. -/
theorem lines_before_sample {before after : List Line} {name value : String} {labels : Bindings}
    {time : Option String} (same : family.lines = before ++ .sample name labels value time :: after) :
    name = family.name ∧ ∃ beside,
      before = .help family.name family.help :: .type family.name family.kind :: beside ∧
        ∀ line ∈ beside, ∃ labels value time, line = .sample family.name labels value time := by
  match before with
  | [] => cases (List.cons.inj same).1
  | [_] => cases (List.cons.inj (List.cons.inj same).2).1
  | first :: second :: beside =>
    obtain ⟨isHelp, behind⟩ := List.cons.inj same
    obtain ⟨isType, rest⟩ := List.cons.inj behind
    subst isHelp isType
    have samples : (family.samples.map fun sample =>
        Line.sample family.name sample.labels sample.value sample.time) =
        beside ++ .sample name labels value time :: after := rest
    have sampled : ∀ line ∈ beside ++ .sample name labels value time :: after,
        ∃ labels value time, line = .sample family.name labels value time := by
      intro line member
      obtain ⟨sample, -, rfl⟩ := List.mem_map.mp (samples ▸ member)
      exact ⟨_, _, _, rfl⟩
    obtain ⟨_, _, _, shown⟩ := sampled _ (List.mem_append_right _ List.mem_cons_self)
    cases shown
    exact ⟨rfl, beside, rfl, fun line member => sampled line (List.mem_append_left _ member)⟩

theorem flatMap_lines_headed {before after : List Line} {name value : String} {labels : Bindings}
    {time : Option String}
    (same : families.flatMap lines = before ++ .sample name labels value time :: after) :
    ∃ earlier help kind beside, before = earlier ++ .help name help :: .type name kind :: beside ∧
      ∀ line ∈ beside, ∃ labels value time, line = .sample name labels value time := by
  induction families generalizing before with
  | nil => simp at same
  | cons family rest ih =>
    rw [List.flatMap_cons] at same
    rcases List.append_eq_append_iff.mp same with ⟨more, front, behind⟩ | ⟨more, own, behind⟩
    · obtain ⟨earlier, help, kind, beside, whole, samples⟩ := ih behind
      exact ⟨family.lines ++ earlier, help, kind, beside, by simp [front, whole], samples⟩
    · cases more with
      | nil =>
        -- The sample would be the first line behind the family, but there a line of help stands.
        obtain ⟨earlier, help, kind, beside, empty, -⟩ := @ih [] behind.symm
        simp at empty
      | cons first more =>
        obtain ⟨rfl, -⟩ := List.cons.inj behind
        obtain ⟨rfl, beside, rfl, samples⟩ := lines_before_sample own
        exact ⟨[], _, _, beside, rfl, samples⟩

/-- The lines of families are well formed just if no name repeats, nor any labels within a family. -/
theorem wellFormed_iff : WellFormed (families.flatMap lines) ↔
    (families.map Family.name).Nodup ∧
      ∀ family ∈ families, (family.samples.map Sample.labels).Nodup := by
  have helps : (families.flatMap lines).filterMap Line.helped? = families.map Family.name := by
    simp [List.filterMap_flatMap, filterMap_lines, List.map_eq_flatMap]
  have types : (families.flatMap lines).filterMap Line.typed? = families.map Family.name := by
    simp [List.filterMap_flatMap, filterMap_lines, List.map_eq_flatMap]
  have samples : (families.flatMap lines).filterMap Line.sampled? = families.flatMap fun family =>
      (family.samples.map Sample.labels).map (Prod.mk family.name) := by
    simp [List.filterMap_flatMap, filterMap_lines, Function.comp_def]
  constructor
  · intro formed
    refine ⟨helps ▸ formed.helps, fun family member => ?_⟩
    have each := List.nodup_flatMap.mp (samples ▸ formed.samples)
    exact (each.1 family member).of_map _
  · rintro ⟨names, each⟩
    refine ⟨helps ▸ names, types ▸ names, ?_, fun _ _ _ _ _ _ => flatMap_lines_headed⟩
    rw [samples, List.nodup_flatMap]
    refine ⟨fun family member => (each family member).map (Prod.mk_right_injective _), ?_⟩
    refine (List.pairwise_map.mp names).imp fun differ => ?_
    intro pair first second
    obtain ⟨_, -, rfl⟩ := List.mem_map.mp first
    obtain ⟨_, -, same⟩ := List.mem_map.mp second
    exact differ (congrArg Prod.fst same).symm

end Family

/-- The names of an exposition are those of the reports that it was given. -/
theorem mem_keys_recorded {reports : List (Report × Int)} {name : String} :
    name ∈ (recorded reports).keys ↔ ∃ entry ∈ reports, sanitizeName entry.1.title = name := by
  have kept := keeps_recorded reports
  constructor
  · intro member
    obtain ⟨family, among, rfl⟩ := List.mem_map.mp member
    obtain ⟨series, present⟩ := List.exists_mem_of_ne_nil _ (kept.nonempty family among)
    obtain ⟨entry, known, named, -⟩ := kept.origin family among series present
    exact ⟨entry, known, named.symm⟩
  · rintro ⟨entry, known, rfl⟩
    obtain ⟨last, found⟩ : ∃ last, lastReport? reports (sanitizeName entry.1.title)
        (labels entry.1.tags) = some last :=
      Option.isSome_iff_exists.mp (List.find?_isSome.mpr
        ⟨entry, List.mem_reverse.mpr known, decide_eq_true ⟨rfl, rfl⟩⟩)
    have series : (recorded reports).series? (sanitizeName entry.1.title) (labels entry.1.tags) =
        some (last.1.series last.2) := by rw [series?_recorded, found, Option.map_some]
    obtain ⟨family, among, named, -⟩ := kept.series?_eq_some_iff.mp series
    exact named ▸ List.mem_map_of_mem among

end Exposition

namespace Scrape

open Exposition

namespace Gauge

variable {gauge : Gauge}

def family (gauge : Gauge) : Family :=
  ⟨gauge.name, gauge.help, "gauge",
    gauge.samples.map fun (labels, value) => ⟨labels, toString value, none⟩⟩

/-- Whether a gauge can be read: its name and its labels are of the grammar, and its help needs no
escapes. -/
structure Readable (gauge : Gauge) : Prop where
  named : IsName startsName continuesName gauge.name.toList
  plain : ∀ c ∈ gauge.help.toList, c ≠ '\\' ∧ c ≠ '\n'
  labelled : ∀ sample ∈ gauge.samples, Labelled sample.1

theorem Readable.escaped (readable : gauge.Readable) :
    gauge.help.toList.flatMap escapeHelp = gauge.help.toList := by
  have single : gauge.help.toList.flatMap escapeHelp = gauge.help.toList.flatMap fun c => [c] :=
    List.flatMap_congr fun c member => by
      obtain ⟨noSlash, noLine⟩ := readable.plain c member
      simp [escapeHelp, noSlash, noLine]
  rw [single, ← List.map_eq_flatMap, List.map_id']

def sampleChars (name : String) (sample : Bindings × Nat) : List Char :=
  name.toList ++ ((labelText sample.1).toList ++ ' ' :: (toString sample.2).toList)

def chars (gauge : Gauge) : List (List Char) :=
  (helpMark ++ gauge.name.toList ++ ' ' :: gauge.help.toList) :: typeChars gauge.name ::
    gauge.samples.map (sampleChars gauge.name)

theorem toList_text (gauge : Gauge) : gauge.text.toList = gauge.chars.flatMap (· ++ ['\n']) := by
  have mark : "# HELP ".toList = helpMark := rfl
  have blank : " ".toList = [' '] := rfl
  have ending : "\n".toList = ['\n'] := rfl
  simp [text, chars, sampleChars, String.toList_join, toList_typeLine, List.flatMap_map, mark, blank,
    ending]

theorem mapM_chars (readable : gauge.Readable) :
    gauge.chars.mapM readLine? = some gauge.family.lines := by
  have help := readLine?_help readable.named gauge.help.toList
  have type := readLine?_type readable.named "gauge".toList
  rw [readable.escaped] at help
  rw [String.ofList_toList] at help type
  have samples : List.Forall₂ (fun line value => readLine? line = some value)
      (gauge.samples.map (sampleChars gauge.name))
      (gauge.family.samples.map fun sample =>
        .sample gauge.name sample.labels sample.value sample.time) := by
    rw [family, List.map_map, List.forall₂_map_left_iff, List.forall₂_map_right_iff,
      List.forall₂_same]
    intro sample member
    have read := readLine?_sample readable.named (readable.labelled sample member)
      (isWord_toString_nat sample.2) false 0
    simpa [sampleChars, stampText] using read
  exact mapM_eq_some_iff.mpr (.cons help (.cons type samples))

theorem newline_not_mem_chars (readable : gauge.Readable) : ∀ line ∈ gauge.chars, '\n' ∉ line := by
  have name := newline_not_mem_name readable.named rfl rfl
  have help : '\n' ∉ gauge.help.toList := fun inside => (readable.plain _ inside).2 rfl
  refine List.forall_mem_cons.mpr ⟨?_, List.forall_mem_cons.mpr ⟨?_, fun line member => ?_⟩⟩
  · simp only [List.mem_append, List.mem_cons, not_or]
    exact ⟨⟨by decide, name⟩, by decide, help⟩
  · simp only [typeChars, List.mem_append, List.mem_cons, not_or]
    exact ⟨⟨by decide, name⟩, by decide, by decide⟩
  · obtain ⟨sample, present, rfl⟩ := List.mem_map.mp member
    simp only [sampleChars, List.mem_append, List.mem_cons, not_or]
    refine ⟨name, newline_not_mem_labelText (readable.labelled sample present), by decide, ?_⟩
    exact fun inside => ((isWord_toString_nat sample.2).unbroken _ inside).2.1 rfl

end Gauge

theorem gauges_readable (health : Health) : ∀ gauge ∈ gauges health, gauge.Readable := by
  have named : ∀ name, sanitizeName name = name → IsName startsName continuesName name.toList :=
    fun name same => same ▸ isName_sanitizeName name
  have one : ∀ key value, sanitizeLabel key = key → Labelled [(key, value)] := fun key value same =>
    ⟨by simpa using same ▸ isName_sanitizeLabel key, List.pairwise_singleton _ _⟩
  have version := fun value => one "version" value (by decide)
  have state := fun value => one "state" value (by decide)
  simp only [gauges, List.forall_mem_cons, List.not_mem_nil, false_implies, implies_true, and_true]
  have plain : ∀ text : List Char, (text.all fun c => decide (c ≠ '\\' ∧ c ≠ '\n')) = true →
      ∀ c ∈ text, c ≠ '\\' ∧ c ≠ '\n' := fun text all => by simpa using all
  have info := plain "jmx-collector information".toList (by decide)
  have iterations := plain "Completed collection iterations".toList (by decide)
  have instances := plain "Instances by state".toList (by decide)
  refine ⟨⟨named "jmx_collector_info" (by decide), info, ?_⟩,
    ⟨named "jmx_collector_iterations" (by decide), iterations, ?_⟩,
    ⟨named "jmx_collector_instances" (by decide), instances, ?_⟩⟩
  · exact List.forall_mem_singleton.mpr (version _)
  · exact List.forall_mem_singleton.mpr ⟨nofun, List.Pairwise.nil⟩
  · exact List.forall_mem_cons.mpr ⟨state _, List.forall_mem_singleton.mpr (state _)⟩

def recordedFamilies (reports : List (Report × Int)) : List Family :=
  (recorded reports).filterMap (familyOf? false)

def gaugeFamilies (health : Health) : List Family := (gauges health).map Gauge.family

theorem lines?_render (reports : List (Report × Int)) :
    lines? ((recorded reports).render fun _ => "") =
      some ((recordedFamilies reports).flatMap Family.lines) := by
  have readable := (keeps_recorded reports).readable
  refine lines?_of_chars (toList_render false (recorded reports)) (fun line member => ?_)
    (mapM_chars false readable)
  obtain ⟨family, among, written⟩ := List.mem_flatMap.mp member
  exact newline_not_mem_familyChars false (readable family among) line written

theorem mapM_gaugeChars {gauges : List Gauge} (readable : ∀ gauge ∈ gauges, gauge.Readable) :
    (gauges.flatMap Gauge.chars).mapM readLine? =
      some ((gauges.map Gauge.family).flatMap Family.lines) := by
  induction gauges with
  | nil => rfl
  | cons gauge rest ih =>
    obtain ⟨first, others⟩ := List.forall_mem_cons.mp readable
    rw [List.flatMap_cons, List.mapM_append, Gauge.mapM_chars first, ih others]
    simp

/-- The lines of an exposition, and those of the gauges behind it. -/
theorem toList_text_eq (exposition : Exposition) (health : Health) :
    (text exposition health).toList =
      (exposition.flatMap (familyChars false) ++ (gauges health).flatMap Gauge.chars).flatMap
        (· ++ ['\n']) := by
  have front : (exposition.render fun _ => "").toList =
      (exposition.flatMap (familyChars false)).flatMap (· ++ ['\n']) := toList_render false exposition
  have back : (String.join ((gauges health).map Gauge.text)).toList =
      ((gauges health).flatMap Gauge.chars).flatMap (· ++ ['\n']) := by
    rw [String.toList_join, List.flatMap_map, List.flatMap_assoc]
    exact List.flatMap_congr fun gauge _ => gauge.toList_text
  rw [text, String.toList_append, List.flatMap_append, front, back]

theorem lines?_text (reports : List (Report × Int)) (health : Health) :
    lines? (text (recorded reports) health) = some ((recordedFamilies reports).flatMap Family.lines ++
      (gaugeFamilies health).flatMap Family.lines) := by
  have readable := (keeps_recorded reports).readable
  have gaugesReadable := gauges_readable health
  refine lines?_of_chars (toList_text_eq (recorded reports) health) (fun line member => ?_) ?_
  · rcases List.mem_append.mp member with series | gauge
    · obtain ⟨family, among, written⟩ := List.mem_flatMap.mp series
      exact newline_not_mem_familyChars false (readable family among) line written
    · obtain ⟨gauge, among, written⟩ := List.mem_flatMap.mp gauge
      exact Gauge.newline_not_mem_chars (gaugesReadable gauge among) line written
  · rw [List.mapM_append, mapM_chars false readable, mapM_gaugeChars gaugesReadable]
    rfl

theorem names_recordedFamilies (reports : List (Report × Int)) :
    (recordedFamilies reports).map Family.name = (recorded reports).keys :=
  (filterMap_familyOf? false (keeps_recorded reports).nonempty).1

theorem names_gaugeFamilies (health : Health) :
    (gaugeFamilies health).map Family.name = (gauges health).map Gauge.name := rfl

theorem recorded_wellFormed (reports : List (Report × Int)) :
    WellFormed ((recordedFamilies reports).flatMap Family.lines) := by
  have kept := keeps_recorded reports
  refine Family.wellFormed_iff.mpr ⟨?_, fun family member => (kept.family false member).2.2.1⟩
  rw [names_recordedFamilies]
  exact kept.ascending.nodup

theorem gauges_wellFormed (health : Health) :
    WellFormed ((gaugeFamilies health).flatMap Family.lines) := by
  refine Family.wellFormed_iff.mpr ⟨?_, ?_⟩
  · have names : (gauges health).map Gauge.name =
        ["jmx_collector_info", "jmx_collector_iterations", "jmx_collector_instances"] := rfl
    rw [names_gaugeFamilies, names]
    decide
  · simp [gaugeFamilies, gauges, Gauge.family]

/-- The whole is well formed just if no report was recorded under the name of a gauge. -/
theorem append_wellFormed_iff (reports : List (Report × Int)) (health : Health) :
    WellFormed ((recordedFamilies reports).flatMap Family.lines ++
        (gaugeFamilies health).flatMap Family.lines) ↔
      ∀ entry ∈ reports, sanitizeName entry.1.title ∉ (gauges health).map Gauge.name := by
  obtain ⟨names, labels⟩ := Family.wellFormed_iff.mp (recorded_wellFormed reports)
  obtain ⟨gaugeNames, gaugeLabels⟩ := Family.wellFormed_iff.mp (gauges_wellFormed health)
  rw [← List.flatMap_append, Family.wellFormed_iff, List.map_append, List.nodup_append,
    names_recordedFamilies, names_gaugeFamilies] at *
  constructor
  · rintro ⟨⟨-, -, apart⟩, -⟩ entry known member
    exact apart _ (mem_keys_recorded.mpr ⟨entry, known, rfl⟩) _ member rfl
  · intro apart
    refine ⟨⟨names, gaugeNames, fun name member other gauge same => ?_⟩, fun family member => ?_⟩
    · obtain ⟨entry, known, rfl⟩ := mem_keys_recorded.mp member
      exact apart entry known (same ▸ gauge)
    · exact (List.mem_append.mp member).elim (labels family) (gaugeLabels family)

end Scrape

namespace Site

open Exposition Scrape

/-- Once there has been an iteration the page of metrics gives the lines of what was recorded, as the
exposition renders it, and behind them those of the agent's gauges. Each part is well formed by itself;
both together are so just if no report was recorded under the name of a gauge. -/
theorem metricsPage_wellFormed_iff {site : Site} (ready : site.health.isReady = true)
    (reports : List (Report × Int)) :
    ∃ text series gauges, site.metricsPage (recorded reports) = .ok ⟨200, some contentType, text⟩ ∧
      lines? text = some (series ++ gauges) ∧
      lines? ((recorded reports).render fun _ => "") = some series ∧
      gauges.filterMap Line.helped? = (Scrape.gauges site.health).map Gauge.name ∧
      WellFormed series ∧ WellFormed gauges ∧
      (WellFormed (series ++ gauges) ↔ ∀ entry ∈ reports,
        sanitizeName entry.1.title ∉ (Scrape.gauges site.health).map Gauge.name) := by
  refine ⟨Scrape.text (recorded reports) site.health, _, _, if_pos ready, lines?_text _ _,
    lines?_render reports, rfl, recorded_wellFormed reports, gauges_wellFormed site.health,
    append_wellFormed_iff reports site.health⟩

/-- A site whose agent has completed an iteration. -/
def readySite : Site where
  settings := default
  health := { isReady := true, iterations := 1, active := 1 }
  exposition := none

/-- A gauge under a name of its own. -/
theorem metricsPage_wellFormed_threads :
    let reports := [(Report.point ⟨.gauge, "app.threads", 8.0, ["instance:east"]⟩, 0)]
    readySite.health.isReady = true ∧
      ∃ text lines, readySite.metricsPage (recorded reports) = .ok ⟨200, some contentType, text⟩ ∧
        lines? text = some lines ∧ WellFormed lines := by
  intro reports
  have ready : readySite.health.isReady = true := rfl
  obtain ⟨text, series, gauges, served, lines, -, -, -, -, formed⟩ :=
    metricsPage_wellFormed_iff ready reports
  refine ⟨ready, text, series ++ gauges, served, lines, formed.mpr ?_⟩
  exact List.forall_mem_singleton.mpr (by decide)

/-- A point under the name of the first gauge: its name has two lines of help and two with the type. -/
theorem metricsPage_repeats_name :
    let reports := [(Report.point ⟨.gauge, "jmx.collector.info", 1.0, ["jmx_domain:collector"]⟩, 0)]
    ∃ text lines, readySite.metricsPage (recorded reports) = .ok ⟨200, some contentType, text⟩ ∧
      lines? text = some lines ∧ ¬ WellFormed lines ∧
      (lines.filterMap Line.helped?).count "jmx_collector_info" = 2 ∧
      (lines.filterMap Line.typed?).count "jmx_collector_info" = 2 := by
  intro reports
  refine ⟨_, _, rfl, lines?_text reports readySite.health, fun formed => ?_, ?_, ?_⟩
  · have apart := (append_wellFormed_iff reports readySite.health).mp formed _ List.mem_cons_self
    exact apart (by decide)
  · decide
  · decide

end Site
end BeanHarvest
