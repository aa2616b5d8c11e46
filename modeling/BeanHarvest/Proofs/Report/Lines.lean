import BeanHarvest.Proofs.Decimal
import BeanHarvest.Proofs.Keyed
import BeanHarvest.Proofs.Text

/-! The lines of the text that is scraped, read by the grammar of the text format: lines of help, lines
of types, and samples with labels between braces. Each line that is written is read back as what it
was written from. -/
namespace BeanHarvest.Exposition

inductive Line where
  | help (name text : String)
  | type (name kind : String)
  | sample (name : String) (labels : Bindings) (value : String) (time : Option String)
deriving DecidableEq, Repr

def startsLabel (c : Char) : Bool := ('a' ≤ c && c ≤ 'z') || ('A' ≤ c && c ≤ 'Z') || c == '_'

def continuesLabel (c : Char) : Bool := startsLabel c || ('0' ≤ c && c ≤ '9')

/-- Names may have colons, which the names of labels may not. -/
def startsName (c : Char) : Bool := startsLabel c || c == ':'

def continuesName (c : Char) : Bool := continuesLabel c || c == ':'

/-- Read a word by its first character and the others, as far as it goes. -/
def readWord? (starts continues : Char → Bool) : List Char → Option (String × List Char)
  | [] => none
  | c :: rest =>
    if starts c then some (String.ofList (c :: rest.takeWhile continues), rest.dropWhile continues)
    else none

/-- Read up to the quote that closes. A backslash stands before a backslash, a quote, or the letter that
stands for a new line. -/
def readQuoted? : List Char → Option (List Char × List Char)
  | [] => none
  | '"' :: rest => some ([], rest)
  | '\\' :: c :: rest => do
    let meant ← if c = 'n' then some '\n' else if c = '\\' || c = '"' then some c else none
    let (text, rest) ← readQuoted? rest
    some (meant :: text, rest)
  | '\\' :: [] => none
  | c :: rest => do
    let (text, rest) ← readQuoted? rest
    some (c :: text, rest)

/-- Read a help text. A backslash stands before a backslash, or the letter that stands for a new
line. -/
def readHelp? : List Char → Option (List Char)
  | [] => some []
  | '\\' :: c :: rest => do
    let meant ← if c = 'n' then some '\n' else if c = '\\' then some c else none
    let text ← readHelp? rest
    some (meant :: text)
  | '\\' :: [] => none
  | c :: rest => do
    let text ← readHelp? rest
    some (c :: text)

def readLabel? (text : List Char) : Option ((String × String) × List Char) := do
  let (name, rest) ← readWord? startsLabel continuesLabel text
  let rest ← Text.afterPrefix? ['=', '"'] rest
  let (value, rest) ← readQuoted? rest
  some ((name, String.ofList value), rest)

/-- Read labels with commas between them, up to the brace that closes; `fuel` bounds their number. -/
def readLabels? : (fuel : Nat) → List Char → Option (Bindings × List Char)
  | 0, _ => none
  | fuel + 1, text => do
    let (label, rest) ← readLabel? text
    match rest with
    | ',' :: more =>
      let (others, rest) ← readLabels? fuel more
      some (label :: others, rest)
    | '\x7d' :: rest => some ([label], rest)
    | _ => none

/-- Read the labels behind a name, if there are any. -/
def readBraces? : List Char → Option (Bindings × List Char)
  | '\x7b' :: inner => readLabels? inner.length inner
  | text => some ([], text)

/-- Read a sample: a name, labels of which none repeats, a value, and perhaps a time, with one blank
before each. -/
def readSample? (text : List Char) : Option Line := do
  let (name, rest) ← readWord? startsName continuesName text
  let (labels, rest) ← readBraces? rest
  match Text.pieces (· = ' ') rest with
  | [] :: value :: times =>
    if labels.keys.Nodup ∧ value ≠ [] ∧ times.length ≤ 1 then
      some (.sample name labels (String.ofList value) (times.head?.map String.ofList))
    else none
  | _ => none

/-- Read a name and what stands behind a blank. -/
def readNamed? (text : List Char) : Option (String × List Char) := do
  let (name, rest) ← readWord? startsName continuesName text
  match rest with
  | ' ' :: more => some (name, more)
  | _ => none

def helpMark : List Char := ['#', ' ', 'H', 'E', 'L', 'P', ' ']

def typeMark : List Char := ['#', ' ', 'T', 'Y', 'P', 'E', ' ']

def readLine? (text : List Char) : Option Line :=
  match Text.afterPrefix? helpMark text, Text.afterPrefix? typeMark text with
  | some rest, _ => do
    let (name, text) ← readNamed? rest
    let help ← readHelp? text
    some (.help name (String.ofList help))
  | none, some rest => do
    let (name, kind) ← readNamed? rest
    some (.type name (String.ofList kind))
  | none, none => readSample? text

def IsName (starts continues : Char → Bool) (name : List Char) : Prop :=
  ∃ c rest, name = c :: rest ∧ starts c = true ∧ ∀ d ∈ rest, continues d = true

theorem readWord?_append {starts continues : Char → Bool} {name : String}
    (valid : IsName starts continues name.toList) (rest : List Char)
    (ends : ∀ c, rest.head? = some c → continues c = false) :
    readWord? starts continues (name.toList ++ rest) = some (name, rest) := by
  obtain ⟨c, others, same, first, later⟩ := valid
  have stops : rest.takeWhile continues = [] ∧ rest.dropWhile continues = rest := by
    cases rest with
    | nil => exact ⟨rfl, rfl⟩
    | cons d more => simp [ends d rfl]
  have whole : String.ofList (c :: others) = name := by rw [← same, String.ofList_toList]
  simp [same, readWord?, first, List.takeWhile_append_of_pos later, List.dropWhile_append_of_pos later,
    stops, whole]

theorem continuesName_eq (c : Char) : continuesName c = isNameChar c := by
  simp only [continuesName, continuesLabel, startsLabel, isNameChar, beq_eq_decide]
  ac_rfl

theorem startsName_of_isNameChar {c : Char} (legal : isNameChar c = true)
    (noDigit : ¬('0' ≤ c ∧ c ≤ '9')) : startsName c = true := by
  rw [← continuesName_eq] at legal
  simp_all [startsName, continuesName, continuesLabel]

theorem isName_nameChars (text : List Char) :
    IsName startsName continuesName (nameChars text) := by
  have masked : ∀ c ∈ text.map (fun c => if isNameChar c then c else '_'), isNameChar c = true := by
    intro c member
    obtain ⟨d, _, rfl⟩ := List.mem_map.mp member
    split
    · assumption
    · rfl
  unfold nameChars
  dsimp only
  split
  · exact ⟨'_', [], rfl, rfl, by simp⟩
  · next c rest same =>
    rw [same] at masked ⊢
    have legal := (List.forall_mem_cons.mp masked).1
    simp only [← continuesName_eq] at masked
    split
    · exact ⟨'_', c :: rest, rfl, rfl, masked⟩
    · next noDigit =>
      exact ⟨c, rest, rfl, startsName_of_isNameChar legal (by simpa using noDigit),
        (List.forall_mem_cons.mp masked).2⟩

theorem isName_sanitizeName (text : String) :
    IsName startsName continuesName (sanitizeName text).toList := by
  simpa [sanitizeName] using isName_nameChars text.toList

theorem isName_sanitizeLabel (text : String) :
    IsName startsLabel continuesLabel (sanitizeLabel text).toList := by
  obtain ⟨c, rest, same, first, others⟩ := isName_nameChars text.toList
  refine ⟨if c = ':' then '_' else c, rest.map fun c => if c = ':' then '_' else c, ?_, ?_, ?_⟩
  · simp [sanitizeLabel, same]
  · split
    · rfl
    · simp_all [startsName]
  · intro d member
    obtain ⟨e, present, rfl⟩ := List.mem_map.mp member
    have continues := others e present
    split
    · rfl
    · simp_all [continuesName]

theorem readQuoted?_escaped (text rest : List Char) :
    readQuoted? (text.flatMap escapeLabel ++ '"' :: rest) = some (text, rest) := by
  induction text with
  | nil => simp [readQuoted?]
  | cons c others ih =>
    rw [List.flatMap_cons, List.append_assoc]
    by_cases quote : c = '"'
    · subst quote
      simp [escapeLabel, readQuoted?, ih]
    · by_cases slash : c = '\\'
      · subst slash
        simp [escapeLabel, escapeHelp, readQuoted?, ih]
      · by_cases line : c = '\n'
        · subst line
          simp [escapeLabel, escapeHelp, readQuoted?, ih]
        · simp [escapeLabel, escapeHelp, quote, slash, line, readQuoted?, ih]

theorem readHelp?_escaped (text : List Char) :
    readHelp? (text.flatMap escapeHelp) = some text := by
  induction text with
  | nil => rfl
  | cons c others ih =>
    rw [List.flatMap_cons]
    by_cases slash : c = '\\'
    · subst slash
      simp [escapeHelp, readHelp?, ih]
    · by_cases line : c = '\n'
      · subst line
        simp [escapeHelp, readHelp?, ih]
      · simp [escapeHelp, slash, line, readHelp?, ih]

/-- Labels as a sample may have them: with names of the grammar, in ascending order. -/
structure Labelled (labels : Bindings) : Prop where
  named : ∀ label ∈ labels, IsName startsLabel continuesLabel label.1.toList
  ascending : Keyed.Ascending labels

theorem labels_labelled (tags : List String) : Labelled (labels tags) where
  named label member := by
    obtain ⟨tag, _, same⟩ := List.mem_map.mp (Keyed.mem_of_mem_ofList member)
    rw [← same, BeanHarvest.Exposition.label]
    split <;> exact isName_sanitizeLabel _
  ascending := Keyed.ofList_ascending _

def labelChars (label : String × String) : List Char :=
  label.1.toList ++ '=' :: '"' :: (label.2.toList.flatMap escapeLabel ++ ['"'])

theorem toList_labelText {labels : Bindings} (some_label : labels ≠ []) :
    (labelText labels).toList =
      '\x7b' :: ([','].intercalate (labels.map labelChars) ++ ['\x7d']) := by
  have each : (labels.map fun label =>
      label.1 ++ "=\"" ++ String.ofList (label.2.toList.flatMap escapeLabel) ++ "\"").map
        String.toList = labels.map labelChars := by
    simp [labelChars]
  simp [labelText, some_label, each]

theorem readLabel?_append {label : String × String}
    (named : IsName startsLabel continuesLabel label.1.toList) (rest : List Char) :
    readLabel? (labelChars label ++ rest) = some (label, rest) := by
  have word := readWord?_append named
    ('=' :: '"' :: (label.2.toList.flatMap escapeLabel ++ '"' :: rest)) (by rintro c ⟨⟩; rfl)
  simp [readLabel?, labelChars, word, Text.afterPrefix?, readQuoted?_escaped]

theorem readLabels?_append {labels : Bindings} (some_label : labels ≠ [])
    (named : ∀ label ∈ labels, IsName startsLabel continuesLabel label.1.toList) {fuel : Nat}
    (enough : labels.length ≤ fuel) (rest : List Char) :
    readLabels? fuel ([','].intercalate (labels.map labelChars) ++ '\x7d' :: rest) =
      some (labels, rest) := by
  induction labels generalizing fuel with
  | nil => exact absurd rfl some_label
  | cons label others ih =>
    obtain ⟨first, named⟩ := List.forall_mem_cons.mp named
    cases fuel with
    | zero => simp at enough
    | succ fuel =>
      cases others with
      | nil => simp [readLabels?, readLabel?_append first]
      | cons second others =>
        have later := ih (List.cons_ne_nil _ _) named (Nat.le_of_succ_le_succ enough)
        simp only [List.map_cons] at later
        simp [readLabels?, List.intercalate_cons_cons, readLabel?_append first, later]

theorem length_le_labels (labels : Bindings) :
    labels.length ≤ ([','].intercalate (labels.map labelChars)).length := by
  induction labels with
  | nil => exact Nat.zero_le _
  | cons label others ih =>
    have written : 1 ≤ (labelChars label).length := by simp [labelChars]; omega
    cases others with
    | nil => simpa using written
    | cons second others =>
      simp only [List.map_cons, List.intercalate_cons_cons, List.length_append,
        List.length_cons] at ih ⊢
      omega

theorem readBraces?_append {labels : Bindings} (valid : Labelled labels) (rest : List Char)
    (noBrace : rest.head? ≠ some '\x7b') :
    readBraces? ((labelText labels).toList ++ rest) = some (labels, rest) := by
  by_cases none : labels = []
  · subst none
    unfold readBraces?
    split
    · next found => simp [labelText] at found; simp [found] at noBrace
    · simp [labelText]
  · rw [toList_labelText none, List.cons_append, List.append_assoc, readBraces?]
    refine readLabels?_append none valid.named ?_ rest
    have fits := length_le_labels labels
    simp only [List.length_append]
    omega

/-- What is written of a time, if it is. -/
def stampText (withTimes : Bool) (time : Int) : String :=
  if withTimes then " " ++ toString time else ""

/-- What a line of help, without its end, is read as. -/
theorem readLine?_help {name : String} (named : IsName startsName continuesName name.toList)
    (text : List Char) :
    readLine? (helpMark ++ name.toList ++ ' ' :: text.flatMap escapeHelp) =
      some (.help name (String.ofList text)) := by
  have word := readWord?_append named (' ' :: text.flatMap escapeHelp)
    (by rintro c ⟨⟩; rfl)
  have marked := Text.afterPrefix?_append helpMark
    (name.toList ++ ' ' :: text.flatMap escapeHelp)
  rw [List.append_assoc, readLine?, marked]
  simp [readNamed?, word, readHelp?_escaped]

theorem readLine?_type {name : String} (named : IsName startsName continuesName name.toList)
    (kind : List Char) :
    readLine? (typeMark ++ name.toList ++ ' ' :: kind) =
      some (.type name (String.ofList kind)) := by
  have word := readWord?_append named (' ' :: kind) (by rintro c ⟨⟩; rfl)
  have marked := Text.afterPrefix?_append typeMark (name.toList ++ ' ' :: kind)
  have noHelp : Text.afterPrefix? helpMark
      (typeMark ++ (name.toList ++ ' ' :: kind)) = none := rfl
  rw [List.append_assoc, readLine?, marked, noHelp]
  simp [readNamed?, word]

theorem afterPrefix?_comment {name : String} (named : IsName startsName continuesName name.toList)
    (word rest : List Char) : Text.afterPrefix? ('#' :: word) (name.toList ++ rest) = none := by
  obtain ⟨c, others, same, first, _⟩ := named
  have noMark : '#' ≠ c := by
    rintro rfl
    exact absurd first (by decide)
  simp [same, Text.afterPrefix?, noMark]

theorem pieces_value {value : String} (word : IsWord value.toList) (withTimes : Bool) (time : Int) :
    Text.pieces (· = ' ') (' ' :: value.toList ++ (stampText withTimes time).toList) =
      [] :: value.toList :: if withTimes then [(toString time).toList] else [] := by
  have whole {text : List Char} (one : IsWord text) : ∀ c ∈ text, decide (c = ' ') = false :=
    fun c member => decide_eq_false (one.unbroken c member).1
  cases withTimes with
  | false => simpa [Text.pieces, stampText] using Text.pieces_of_forall (whole word)
  | true =>
    have front := Text.pieces_append (whole word) (c := ' ') rfl (toString time).toList
    rw [Text.pieces_of_forall (whole (isWord_toString time))] at front
    simpa [Text.pieces, stampText] using front

theorem readLine?_sample {name : String} (named : IsName startsName continuesName name.toList)
    {labels : Bindings} (valid : Labelled labels) {value : String} (word : IsWord value.toList)
    (withTimes : Bool) (time : Int) :
    readLine? (name.toList ++ ((labelText labels).toList ++
        (' ' :: value.toList ++ (stampText withTimes time).toList))) =
      some (.sample name labels value (if withTimes then some (toString time) else none)) := by
  have front := readWord?_append named ((labelText labels).toList ++
      (' ' :: value.toList ++ (stampText withTimes time).toList)) (by
    intro c head
    by_cases none : labels = []
    · simp only [none, labelText, List.isEmpty_nil, if_true] at head
      cases head
      rfl
    · rw [toList_labelText none] at head
      cases head
      rfl)
  have middle := readBraces?_append valid (' ' :: value.toList ++
    (stampText withTimes time).toList) (by simp)
  rw [readLine?, helpMark, afterPrefix?_comment named, typeMark, afterPrefix?_comment named]
  simp only [readSample?, front, middle, Option.bind_eq_bind, Option.bind_some, pieces_value word]
  cases withTimes <;> simp [valid.ascending.nodup, word.nonempty]

end BeanHarvest.Exposition
