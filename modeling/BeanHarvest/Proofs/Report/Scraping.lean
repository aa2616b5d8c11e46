import BeanHarvest.Proofs.Each
import BeanHarvest.Proofs.Report.Lines
import BeanHarvest.Proofs.Report.Recording

/-! Scraping: the whole text is read line by line, and gives back what was recorded. Of every name there
are one line of help, one line with the type, and behind them a sample for each of its series with the
value that came last. -/
namespace BeanHarvest.Exposition

structure Sample where
  labels : Bindings
  value : String
  time : Option String
deriving DecidableEq, Repr

structure Family where
  name : String
  help : String
  kind : String
  samples : List Sample
deriving DecidableEq, Repr

/-- Gather the lines of each name. A line of help comes first, the type behind it, and the samples
behind that. -/
def gather? : (gathered : List Family) → List Line → Option (List Family)
  | gathered, [] => some gathered.reverse
  | gathered, .help name help :: .type other kind :: rest =>
    if other = name then gather? (⟨name, help, kind, []⟩ :: gathered) rest else none
  | family :: gathered, .sample name labels value time :: rest =>
    if name = family.name then
      gather? ({ family with samples := family.samples ++ [⟨labels, value, time⟩] } :: gathered) rest
    else none
  | _, _ => none

/-- Read a text whose lines all end. -/
def read? (text : String) : Option (List Family) := do
  let pieces := Text.pieces (· = '\n') text.toList
  if pieces.getLast? = some [] then
    let lines ← pieces.dropLast.mapM readLine?
    gather? [] lines
  else none

variable (withTimes : Bool)

def sampleOf (series : Series) : Sample :=
  ⟨series.labels, valueText series.value, if withTimes then some (toString series.time) else none⟩

def familyOf? (family : String × List Series) : Option Family :=
  family.2.head?.map fun first =>
    ⟨family.1, first.title ++ " (" ++ first.type.text ++ ")", "gauge", family.2.map (sampleOf withTimes)⟩

def Family.lines (family : Family) : List Line :=
  .help family.name family.help :: .type family.name family.kind ::
    family.samples.map fun sample => .sample family.name sample.labels sample.value sample.time

theorem gather?_samples (name help kind : String) (before samples : List Sample)
    (gathered : List Family) (rest : List Line) :
    gather? (⟨name, help, kind, before⟩ :: gathered)
        ((samples.map fun sample => .sample name sample.labels sample.value sample.time) ++ rest) =
      gather? (⟨name, help, kind, before ++ samples⟩ :: gathered) rest := by
  induction samples generalizing before with
  | nil => simp
  | cons sample others ih => simp [gather?, ih]

theorem gather?_lines (family : Family) (gathered : List Family) (rest : List Line) :
    gather? gathered (family.lines ++ rest) = gather? (family :: gathered) rest := by
  simpa [Family.lines, gather?] using
    gather?_samples family.name family.help family.kind [] family.samples gathered rest

theorem gather?_flatMap (families gathered : List Family) :
    gather? gathered (families.flatMap Family.lines) = some (gathered.reverse ++ families) := by
  induction families generalizing gathered with
  | nil => simp [gather?]
  | cons family others ih => rw [List.flatMap_cons, gather?_lines, ih]; simp

/-- The line of help of a name, without its end. -/
def helpChars (name : String) (series : Series) : List Char :=
  helpMark ++ name.toList ++
    ' ' :: (series.title ++ " (" ++ series.type.text ++ ")").toList.flatMap escapeHelp

def typeChars (name : String) : List Char := typeMark ++ name.toList ++ ' ' :: "gauge".toList

def sampleChars (name : String) (series : Series) : List Char :=
  name.toList ++ ((labelText series.labels).toList ++
    (' ' :: (valueText series.value).toList ++ (stampText withTimes series.time).toList))

def familyChars (family : String × List Series) : List (List Char) :=
  match family.2 with
  | [] => []
  | first :: _ =>
    helpChars family.1 first :: typeChars family.1 :: family.2.map (sampleChars withTimes family.1)

theorem toList_helpLine (name : String) (series : Series) :
    (helpLine name series).toList = helpChars name series ++ ['\n'] := by
  have type_plain : series.type.text.toList.flatMap escapeHelp = series.type.text.toList := by
    cases series.type <;> rfl
  have mark : "# HELP ".toList = helpMark := rfl
  have opening : " (".toList.flatMap escapeHelp = " (".toList := rfl
  have closing : ")".toList.flatMap escapeHelp = [')'] := rfl
  have blank : " ".toList = [' '] := rfl
  have ending : ")\n".toList = [')', '\n'] := rfl
  simp only [helpLine, helpChars, String.toList_append, String.toList_ofList, List.flatMap_append,
    type_plain, mark, opening, closing, blank, ending, List.append_assoc, List.cons_append,
    List.nil_append]

theorem toList_typeLine (name : String) : (typeLine name).toList = typeChars name ++ ['\n'] := by
  have mark : "# TYPE ".toList = typeMark := rfl
  have ending : " gauge\n".toList = ' ' :: "gauge".toList ++ ['\n'] := rfl
  simp only [typeLine, typeChars, String.toList_append, mark, ending, List.append_assoc,
    List.cons_append]

theorem toList_sampleLine (name : String) (series : Series) :
    (sampleLine (stampText withTimes) name series).toList =
      sampleChars withTimes name series ++ ['\n'] := by
  have blank : " ".toList = [' '] := rfl
  have ending : "\n".toList = ['\n'] := rfl
  simp only [sampleLine, sampleChars, String.toList_append, blank, ending, List.append_assoc,
    List.cons_append, List.nil_append]

theorem toList_familyText (family : String × List Series) :
    (familyText (stampText withTimes) family).toList =
      (familyChars withTimes family).flatMap (· ++ ['\n']) := by
  obtain ⟨name, list⟩ := family
  cases list with
  | nil => rfl
  | cons first others =>
    have samples := List.flatMap_congr fun series (_ : series ∈ first :: others) =>
      toList_sampleLine withTimes name series
    simp only [familyText, familyChars, String.toList_append, String.toList_join, toList_helpLine,
      toList_typeLine, List.flatMap_cons, List.flatMap_map, List.append_assoc] at samples ⊢
    rw [samples]

theorem toList_render (exposition : Exposition) :
    (exposition.render (stampText withTimes)).toList =
      (exposition.flatMap (familyChars withTimes)).flatMap (· ++ ['\n']) := by
  rw [render, String.toList_join, List.flatMap_map, List.flatMap_assoc]
  simp only [toList_familyText]

theorem newline_not_mem_name {starts continues : Char → Bool} {name : List Char}
    (named : IsName starts continues name) (starts_no : starts '\n' = false)
    (continues_no : continues '\n' = false) : '\n' ∉ name := by
  obtain ⟨c, rest, rfl, first, others⟩ := named
  rintro (_ | ⟨_, later⟩)
  · simp [starts_no] at first
  · exact absurd (others _ later) (by simp [continues_no])

theorem newline_not_mem_escapeHelp (text : List Char) : '\n' ∉ text.flatMap escapeHelp := by
  intro member
  obtain ⟨c, _, written⟩ := List.mem_flatMap.mp member
  unfold escapeHelp at written
  split at written
  · simp at written
  · split at written
    · simp at written
    · next other => exact other (List.mem_singleton.mp written).symm

theorem newline_not_mem_escapeLabel (text : List Char) : '\n' ∉ text.flatMap escapeLabel := by
  intro member
  obtain ⟨c, present, written⟩ := List.mem_flatMap.mp member
  unfold escapeLabel at written
  split at written
  · simp at written
  · exact newline_not_mem_escapeHelp [c] (by simpa using written)

theorem newline_not_mem_labelText {labels : Bindings} (valid : Labelled labels) :
    '\n' ∉ (labelText labels).toList := by
  by_cases none : labels = []
  · simp [none, labelText]
  · rw [toList_labelText none]
    simp only [List.mem_cons, List.mem_append, List.not_mem_nil, or_false, not_or]
    refine ⟨by decide, fun member => ?_, by decide⟩
    rcases Text.mem_of_mem_intercalate member with comma | ⟨part, present, inside⟩
    · exact absurd comma (by decide)
    · obtain ⟨label, among, rfl⟩ := List.mem_map.mp present
      simp only [labelChars, List.mem_append, List.mem_cons, List.not_mem_nil, or_false] at inside
      rcases inside with name | mark | mark | value | mark
      · exact newline_not_mem_name (valid.named label among) rfl rfl name
      · exact absurd mark (by decide)
      · exact absurd mark (by decide)
      · exact newline_not_mem_escapeLabel _ value
      · exact absurd mark (by decide)

/-- Names and labels of the grammar, as an exposition must have them to be read. -/
structure Readable (family : String × List Series) : Prop where
  named : IsName startsName continuesName family.1.toList
  labelled : ∀ series ∈ family.2, Labelled series.labels

theorem newline_not_mem_familyChars {family : String × List Series} (valid : Readable family) :
    ∀ line ∈ familyChars withTimes family, '\n' ∉ line := by
  have name := newline_not_mem_name valid.named rfl rfl
  unfold familyChars
  split
  · simp
  · next first others _ =>
    have help := newline_not_mem_escapeHelp (first.title ++ " (" ++ first.type.text ++ ")").toList
    refine List.forall_mem_cons.mpr ⟨?_, List.forall_mem_cons.mpr ⟨?_, fun line member => ?_⟩⟩
    · simp only [helpChars, List.mem_append, List.mem_cons, not_or]
      exact ⟨⟨by decide, name⟩, by decide, help⟩
    · simp only [typeChars, List.mem_append, List.mem_cons, not_or]
      exact ⟨⟨by decide, name⟩, by decide, by decide⟩
    · obtain ⟨series, present, rfl⟩ := List.mem_map.mp member
      have value := isWord_valueText series.value
      simp only [sampleChars, List.mem_append, List.mem_cons, not_or]
      refine ⟨name, newline_not_mem_labelText (valid.labelled series present), ⟨by decide, ?_⟩, ?_⟩
      · exact fun inside => (value.unbroken _ inside).2.1 rfl
      · cases withTimes with
        | false => simp [stampText]
        | true =>
          have stamp : (stampText true series.time).toList = ' ' :: (toString series.time).toList := by
            simp [stampText]
          intro inside
          rcases List.mem_cons.mp (stamp ▸ inside) with blank | time
          · exact absurd blank (by decide)
          · exact ((isWord_toString series.time).unbroken _ time).2.1 rfl

theorem mapM_familyChars {family : String × List Series} (valid : Readable family) :
    (familyChars withTimes family).mapM readLine? =
      some ((familyOf? withTimes family).toList.flatMap Family.lines) := by
  obtain ⟨name, list⟩ := family
  cases list with
  | nil => rfl
  | cons first others =>
    have help := readLine?_help valid.named
      (first.title ++ " (" ++ first.type.text ++ ")").toList
    have type := readLine?_type valid.named "gauge".toList
    rw [String.ofList_toList] at help type
    have samples : List.Forall₂ (fun line value => readLine? line = some value)
        ((first :: others).map (sampleChars withTimes name))
        (((first :: others).map (sampleOf withTimes)).map fun sample =>
          .sample name sample.labels sample.value sample.time) := by
      rw [List.map_map, List.forall₂_map_left_iff, List.forall₂_map_right_iff, List.forall₂_same]
      exact fun series member => readLine?_sample valid.named (valid.labelled series member)
        (isWord_valueText series.value) withTimes series.time
    rw [mapM_eq_some_iff, familyOf?, List.head?_cons, Option.map_some, Option.toList_some,
      List.flatMap_singleton]
    exact .cons help (.cons type samples)

theorem pieces_lines {lines : List (List Char)} (whole : ∀ line ∈ lines, '\n' ∉ line) :
    Text.pieces (· = '\n') (lines.flatMap (· ++ ['\n'])) = lines ++ [[]] := by
  induction lines with
  | nil => rfl
  | cons line others ih =>
    obtain ⟨first, whole⟩ := List.forall_mem_cons.mp whole
    have front := Text.pieces_append (fun c member => decide_eq_false fun (same : c = '\n') =>
      first (same ▸ member)) (c := '\n') (by simp) (others.flatMap (· ++ ['\n']))
    rw [List.flatMap_cons, List.append_assoc, List.singleton_append, front, ih whole,
      List.cons_append]

theorem mapM_chars {exposition : Exposition} (valid : ∀ family ∈ exposition, Readable family) :
    (exposition.flatMap (familyChars withTimes)).mapM readLine? =
      some ((exposition.filterMap (familyOf? withTimes)).flatMap Family.lines) := by
  induction exposition with
  | nil => rfl
  | cons family others ih =>
    obtain ⟨first, valid⟩ := List.forall_mem_cons.mp valid
    rw [List.flatMap_cons, List.mapM_append, mapM_familyChars withTimes first, ih valid,
      List.filterMap_cons]
    cases familyOf? withTimes family <;> simp

/-- What an exposition is read as, if its names and labels can be read. -/
theorem read?_render {exposition : Exposition} (valid : ∀ family ∈ exposition, Readable family) :
    read? (exposition.render (stampText withTimes)) =
      some (exposition.filterMap (familyOf? withTimes)) := by
  have whole : ∀ line ∈ exposition.flatMap (familyChars withTimes), '\n' ∉ line := by
    intro line member
    obtain ⟨family, present, written⟩ := List.mem_flatMap.mp member
    exact newline_not_mem_familyChars withTimes (valid family present) line written
  have lines := mapM_chars withTimes valid
  simp [read?, toList_render, pieces_lines whole, lines, gather?_flatMap]

theorem Keeps.readable {exposition : Exposition} {reports : List (Report × Int)}
    (kept : Keeps exposition reports) : ∀ family ∈ exposition, Readable family := by
  intro family member
  refine ⟨?_, fun series present => ?_⟩
  · obtain ⟨first, head⟩ := List.exists_mem_of_ne_nil _ (kept.nonempty family member)
    obtain ⟨entry, _, named, _⟩ := kept.origin family member first head
    exact named ▸ isName_sanitizeName _
  · obtain ⟨entry, _, _, rfl⟩ := kept.origin family member series present
    exact labels_labelled _

theorem familyOf?_of_ne_nil {family : String × List Series} (some_series : family.2 ≠ []) :
    ∃ first ∈ family.2, familyOf? withTimes family = some ⟨family.1,
      first.title ++ " (" ++ first.type.text ++ ")", "gauge", family.2.map (sampleOf withTimes)⟩ := by
  obtain ⟨name, list⟩ := family
  cases list with
  | nil => exact absurd rfl some_series
  | cons first others => exact ⟨first, List.mem_cons_self, rfl⟩

/-- No name is left out, and no series. -/
theorem filterMap_familyOf? {exposition : Exposition}
    (nonempty : ∀ family ∈ exposition, family.2 ≠ []) :
    (exposition.filterMap (familyOf? withTimes)).map Family.name = exposition.keys ∧
      (exposition.filterMap (familyOf? withTimes)).map (fun family => family.samples.length) =
        exposition.map fun family => family.2.length := by
  induction exposition with
  | nil => exact ⟨rfl, rfl⟩
  | cons family others ih =>
    obtain ⟨some_series, nonempty⟩ := List.forall_mem_cons.mp nonempty
    obtain ⟨first, _, read⟩ := familyOf?_of_ne_nil withTimes some_series
    obtain ⟨names, lengths⟩ := ih nonempty
    simp only [List.filterMap_cons, read, List.map_cons, names, lengths, List.length_map, Keyed.keys,
      and_self]

theorem size_eq_length (exposition : Exposition) :
    exposition.size = (exposition.flatMap (·.2)).length := by
  rw [size, List.length_flatMap, List.sum_eq_foldl, List.foldl_map]

/-- The samples that are read are the series that are kept. -/
theorem Keeps.sample_iff {exposition : Exposition} {reports : List (Report × Int)}
    (kept : Keeps exposition reports) {name : String} {labels : Bindings} {text : String} :
    (∃ family ∈ exposition.filterMap (familyOf? withTimes), family.name = name ∧
        ∃ sample ∈ family.samples, sample.labels = labels ∧ sample.value = text) ↔
      (exposition.series? name labels).map (fun series => valueText series.value) = some text := by
  constructor
  · rintro ⟨family, member, rfl, sample, present, rfl, rfl⟩
    obtain ⟨own, among, read⟩ := List.mem_filterMap.mp member
    obtain ⟨first, _, same⟩ := familyOf?_of_ne_nil withTimes (kept.nonempty own among)
    obtain rfl := Option.some.inj (same.symm.trans read)
    obtain ⟨series, inside, rfl⟩ := List.mem_map.mp present
    have found := kept.series?_eq_some_iff.mpr ⟨own, among, rfl, inside, rfl⟩
    exact Option.map_eq_some_iff.mpr ⟨series, found, rfl⟩
  · intro found
    obtain ⟨series, last, rfl⟩ := Option.map_eq_some_iff.mp found
    obtain ⟨own, among, rfl, inside, rfl⟩ := kept.series?_eq_some_iff.mp last
    obtain ⟨first, _, read⟩ := familyOf?_of_ne_nil withTimes (kept.nonempty own among)
    exact ⟨_, List.mem_filterMap.mpr ⟨own, among, read⟩, rfl, sampleOf withTimes series,
      List.mem_map_of_mem inside, rfl, rfl⟩

/-- What is read of a name: its help tells of one of its reports, and no labels repeat. -/
theorem Keeps.family {exposition : Exposition} {reports : List (Report × Int)}
    (kept : Keeps exposition reports) {family : Family}
    (member : family ∈ exposition.filterMap (familyOf? withTimes)) :
    family.kind = "gauge" ∧ family.samples ≠ [] ∧ (family.samples.map Sample.labels).Nodup ∧
      ∃ entry ∈ reports, sanitizeName entry.1.title = family.name ∧
        family.help = entry.1.title ++ " (" ++ entry.1.type.text ++ ")" := by
  obtain ⟨own, among, read⟩ := List.mem_filterMap.mp member
  obtain ⟨first, inside, same⟩ := familyOf?_of_ne_nil withTimes (kept.nonempty own among)
  obtain rfl := Option.some.inj (same.symm.trans read)
  obtain ⟨entry, known, named, rfl⟩ := kept.origin own among first inside
  refine ⟨rfl, by simpa using kept.nonempty own among, ?_, entry, known, named.symm, rfl⟩
  rw [List.map_map]
  exact (kept.ranked own among).nodup

/-- The text gives back what was recorded. It can be read; every name has one line of help, with the
name and the type of a report, and one line with the type; its samples are its series, each once, with
the value that came last. -/
theorem scrape_round_trip (reports : List (Report × Int)) (withTimes : Bool) :
    ∃ families, read? ((recorded reports).render (stampText withTimes)) = some families ∧
      (families.map Family.name).Nodup ∧
      (∀ family ∈ families, family.kind = "gauge" ∧ family.samples ≠ [] ∧
        (family.samples.map Sample.labels).Nodup ∧
        ∃ entry ∈ reports, sanitizeName entry.1.title = family.name ∧
          family.help = entry.1.title ++ " (" ++ entry.1.type.text ++ ")") ∧
      (∀ name labels text, (∃ family ∈ families, family.name = name ∧
          ∃ sample ∈ family.samples, sample.labels = labels ∧ sample.value = text) ↔
        (lastReport? reports name labels).map (fun entry => valueText entry.1.value) = some text) ∧
      (families.flatMap Family.samples).length = (recorded reports).size := by
  have kept := keeps_recorded reports
  obtain ⟨names, lengths⟩ := filterMap_familyOf? withTimes kept.nonempty
  refine ⟨_, read?_render withTimes kept.readable, ?_, fun family member => kept.family withTimes member,
    fun name labels text => ?_, ?_⟩
  · rw [names]
    exact kept.ascending.nodup
  · rw [kept.sample_iff, series?_recorded, Option.map_map]
    rfl
  · rw [size_eq_length, List.length_flatMap, List.length_flatMap, lengths]

end BeanHarvest.Exposition
