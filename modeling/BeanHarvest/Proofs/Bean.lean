import BeanHarvest.Bean
import BeanHarvest.Proofs.Each
import BeanHarvest.Proofs.Text

/-! Names of beans, written and read. A domain and parameters written as a name are read back as they
were; what is read from a name is written in it, but for blanks around the keys. -/
namespace BeanHarvest.Bean

/-- Texts that close all quotes they open, and have no separator outside them. -/
def IsPart (sep : Char) (text : List Char) : Prop :=
  ∀ rest, splitUnquoted sep false false (text ++ rest) =
    text.foldr consFirst (splitUnquoted sep false false rest)

theorem IsPart.append {sep : Char} {first second : List Char} (one : IsPart sep first)
    (other : IsPart sep second) : IsPart sep (first ++ second) := by
  intro rest
  rw [List.append_assoc, one, other, List.foldr_append]

theorem isPart_of_plain {sep : Char} {text : List Char} (plain : ∀ c ∈ text, c ≠ sep ∧ c ≠ '"') :
    IsPart sep text := by
  intro rest
  induction text with
  | nil => rfl
  | cons c others ih =>
    obtain ⟨⟨noSep, noQuote⟩, plain⟩ := List.forall_mem_cons.mp plain
    simp [splitUnquoted, noSep, noQuote, ih plain]

/-- What may stand between quotes: quotes and backslashes only behind a backslash. -/
inductive IsEscaped : List Char → Prop where
  | nil : IsEscaped []
  | plain {c : Char} {rest : List Char} (noQuote : c ≠ '"') (noEscape : c ≠ '\\')
      (more : IsEscaped rest) : IsEscaped (c :: rest)
  | escape (c : Char) {rest : List Char} (more : IsEscaped rest) : IsEscaped ('\\' :: c :: rest)

/-- Inside quotes a split takes in everything up to the quote that closes. -/
theorem splitUnquoted_escaped (sep : Char) {inner : List Char} (escaped : IsEscaped inner)
    (rest : List Char) : splitUnquoted sep true false (inner ++ '"' :: rest) =
      inner.foldr consFirst (consFirst '"' (splitUnquoted sep false false rest)) := by
  induction escaped with
  | nil => simp [splitUnquoted]
  | plain noQuote noEscape _ ih => simp [splitUnquoted, noQuote, noEscape, ih]
  | escape c _ ih => simp [splitUnquoted, ih]

theorem isPart_of_quoted {sep : Char} {inner : List Char} (escaped : IsEscaped inner) :
    IsPart sep ('"' :: inner ++ ['"']) := by
  intro rest
  have inside := splitUnquoted_escaped sep escaped rest
  simp [splitUnquoted, inside]

theorem foldr_consFirst (text first : List Char) (others : List (List Char)) :
    text.foldr consFirst (first :: others) = (text ++ first) :: others := by
  induction text with
  | nil => rfl
  | cons c rest ih => simp [ih, consFirst]

/-- Parts that are joined by separators are split where they were joined. -/
theorem splitUnquoted_joinWith {sep : Char} (noQuote : sep ≠ '"') {first : List Char}
    {others : List (List Char)} (parts : ∀ part ∈ first :: others, IsPart sep part) :
    splitUnquoted sep false false (Text.joinWith [sep] (first :: others)) = first :: others := by
  induction others generalizing first with
  | nil =>
    have alone := parts first (List.mem_singleton_self _) []
    simpa [Text.joinWith, splitUnquoted, foldr_consFirst] using alone
  | cons second others ih =>
    obtain ⟨part, parts⟩ := List.forall_mem_cons.mp parts
    have later := ih parts
    have here := part (sep :: Text.joinWith [sep] (second :: others))
    simpa [Text.joinWith, splitUnquoted, noQuote, later, foldr_consFirst] using here

theorem splitUnquoted_ne_nil (sep : Char) (quoted escaped : Bool) (text : List Char) :
    splitUnquoted sep quoted escaped text ≠ [] := by
  have grown : ∀ c parts, consFirst c parts ≠ [] := by
    intro c parts
    cases parts <;> simp [consFirst]
  cases text with
  | nil => simp [splitUnquoted]
  | cons c rest =>
    unfold splitUnquoted
    repeat' split
    all_goals first | exact grown _ _ | simp

theorem joinWith_consFirst (sep : List Char) (c : Char) {parts : List (List Char)}
    (some_part : parts ≠ []) :
    Text.joinWith sep (consFirst c parts) = c :: Text.joinWith sep parts := by
  match parts, some_part with
  | [_], _ => rfl
  | _ :: _ :: _, _ => simp [consFirst, Text.joinWith]

/-- A split drops the separators it was made at, and nothing else. -/
theorem joinWith_splitUnquoted (sep : Char) (quoted escaped : Bool) (text : List Char) :
    Text.joinWith [sep] (splitUnquoted sep quoted escaped text) = text := by
  have kept (c : Char) (rest : List Char) (quoted escaped : Bool)
      (joined : Text.joinWith [sep] (splitUnquoted sep quoted escaped rest) = rest) :
      Text.joinWith [sep] (consFirst c (splitUnquoted sep quoted escaped rest)) = c :: rest := by
    rw [joinWith_consFirst _ _ (splitUnquoted_ne_nil _ _ _ _), joined]
  fun_induction splitUnquoted sep quoted escaped text with
  | case1 => rfl
  | case2 _ c rest ih => exact kept c rest _ _ ih
  | case3 _ _ c rest _ _ ih => exact kept c rest _ _ ih
  | case4 _ _ rest _ _ ih => exact kept '"' rest _ _ ih
  | case5 quoted _ c rest _ _ _ here ih =>
    obtain ⟨rfl, -⟩ : c = sep ∧ quoted = false := by simpa using here
    cases found : splitUnquoted c quoted false rest with
    | nil => exact absurd found (splitUnquoted_ne_nil _ _ _ _)
    | cons first others =>
      rw [found] at ih
      simp [Text.joinWith, ih]
  | case6 _ _ c rest _ _ _ _ ih => exact kept c rest _ _ ih

theorem cutUnquoted?_append (sep : Char) (noQuote : sep ≠ '"') {before : List Char}
    (plain : ∀ c ∈ before, c ≠ sep ∧ c ≠ '"') (after : List Char) :
    cutUnquoted? sep false (before ++ sep :: after) = some (before, after) := by
  induction before with
  | nil => simp [cutUnquoted?, noQuote]
  | cons c rest ih =>
    obtain ⟨⟨noSep, noQuote⟩, plain⟩ := List.forall_mem_cons.mp plain
    simp [cutUnquoted?, noSep, noQuote, ih plain]

theorem cutUnquoted?_inv {sep : Char} {quoted : Bool} {text before after : List Char}
    (cut : cutUnquoted? sep quoted text = some (before, after)) : text = before ++ sep :: after := by
  induction text generalizing quoted before with
  | nil => simp [cutUnquoted?] at cut
  | cons c rest ih =>
    simp only [cutUnquoted?] at cut
    split at cut
    · obtain ⟨⟨front, back⟩, found, same⟩ := Option.map_eq_some_iff.mp cut
      cases same
      rw [ih found]
      rfl
    · split at cut
      · next here =>
        obtain ⟨rfl, -⟩ : c = sep ∧ quoted = false := by simpa using here
        cases cut
        rfl
      · obtain ⟨⟨front, back⟩, found, same⟩ := Option.map_eq_some_iff.mp cut
        cases same
        rw [ih found]
        rfl

structure IsKey (key : List Char) : Prop where
  nonempty : key ≠ []
  first : ∀ c, key.head? = some c → Text.isBlank c = false
  last : ∀ c, key.getLast? = some c → Text.isBlank c = false
  plain : ∀ c ∈ key, c ≠ ',' ∧ c ≠ '=' ∧ c ≠ '"' ∧ c ≠ '*'

/-- Values that are written as they are: neither commas nor quotes, or all of it in quotes. -/
def IsValue (value : List Char) : Prop :=
  (value ≠ [] ∧ ∀ c ∈ value, c ≠ ',' ∧ c ≠ '"') ∨
    ∃ inner, IsEscaped inner ∧ value = '"' :: inner ++ ['"']

def pairText (parameter : String × String) : List Char :=
  parameter.1.toList ++ '=' :: parameter.2.toList

def nameText (domain : String) (parameters : List (String × String)) : List Char :=
  domain.toList ++ ':' :: Text.joinWith [','] (parameters.map pairText)

/-- A part of a name is a parameter, but for blanks around the key. -/
def Spells (part : List Char) (parameter : String × String) : Prop :=
  ∃ before after, (∀ c ∈ before ++ after, Text.isBlank c = true) ∧
    part = before ++ parameter.1.toList ++ after ++ '=' :: parameter.2.toList

theorem IsValue.nonempty {value : List Char} (valid : IsValue value) : value ≠ [] := by
  rcases valid with ⟨nonempty, _⟩ | ⟨inner, _, rfl⟩
  · exact nonempty
  · simp

theorem isPart_pairText {parameter : String × String} (key : IsKey parameter.1.toList)
    (value : IsValue parameter.2.toList) : IsPart ',' (pairText parameter) := by
  have front : IsPart ',' (parameter.1.toList ++ ['=']) :=
    isPart_of_plain (by
      intro c member
      rcases List.mem_append.mp member with inKey | equals
      · exact ⟨(key.plain c inKey).1, (key.plain c inKey).2.2.1⟩
      · rw [List.mem_singleton.mp equals]
        decide)
  have back : IsPart ',' parameter.2.toList := by
    rcases value with ⟨_, plain⟩ | ⟨inner, escaped, quoted⟩
    · exact isPart_of_plain plain
    · exact quoted ▸ isPart_of_quoted escaped
  simpa [pairText] using front.append back

theorem parameter?_pairText {parameter : String × String} (key : IsKey parameter.1.toList)
    (value : IsValue parameter.2.toList) : parameter? (pairText parameter) = some parameter := by
  have cut := cutUnquoted?_append '=' (by decide)
    (fun c member => (key.plain c member).2.imp_right And.left) parameter.2.toList
  have noPattern : '*' ∉ parameter.1.toList := fun member => (key.plain _ member).2.2.2 rfl
  simp [parameter?, pairText, cut, Text.trim_of_ends key.first key.last, key.nonempty,
    value.nonempty, noPattern]

theorem parameter?_inv {part : List Char} {parameter : String × String}
    (found : parameter? part = some parameter) : Spells part parameter := by
  obtain ⟨⟨before, value⟩, cut, found⟩ := Option.bind_eq_some_iff.mp found
  dsimp only at found
  split at found
  · cases found
  · cases found
    obtain ⟨front, back, blank, same⟩ := Text.exists_trim before
    refine ⟨front, back, blank, ?_⟩
    rw [String.toList_ofList, String.toList_ofList, ← same]
    exact cutUnquoted?_inv cut

theorem mapM_pairText {parameters : List (String × String)}
    (keys : ∀ parameter ∈ parameters, IsKey parameter.1.toList)
    (values : ∀ parameter ∈ parameters, IsValue parameter.2.toList) :
    (parameters.map pairText).mapM parameter? = some parameters := by
  rw [mapM_eq_some_iff, List.forall₂_map_left_iff, List.forall₂_same]
  exact fun parameter member =>
    parameter?_pairText (keys parameter member) (values parameter member)

theorem parse?_nameText {domain : String} {parameters : List (String × String)}
    (named : domain ≠ "") (noColon : ':' ∉ domain.toList) (some_parameter : parameters ≠ [])
    (keys : ∀ parameter ∈ parameters, IsKey parameter.1.toList)
    (values : ∀ parameter ∈ parameters, IsValue parameter.2.toList) :
    parse? (String.ofList (nameText domain parameters)) =
      some ⟨domain, parameters, String.ofList (nameText domain parameters)⟩ := by
  have cut : Text.cut? (· = ':') (nameText domain parameters) =
      some (domain.toList, Text.joinWith [','] (parameters.map pairText)) :=
    Text.cut?_append (fun c member => by
      simp only [decide_eq_false_iff_not]
      exact fun colon => noColon (colon ▸ member)) (by simp) _
  have parts : splitUnquoted ',' false false (Text.joinWith [','] (parameters.map pairText)) =
      parameters.map pairText := by
    cases parameters with
    | nil => exact absurd rfl some_parameter
    | cons first others =>
      refine splitUnquoted_joinWith (by decide) fun part member => ?_
      obtain ⟨parameter, present, rfl⟩ := List.mem_map.mp (List.map_cons ▸ member)
      exact isPart_pairText (keys parameter present) (values parameter present)
  have nonempty : Text.joinWith [','] (parameters.map pairText) ≠ [] := by
    intro empty
    rw [empty] at parts
    match parameters, some_parameter with
    | first :: others, _ => simp [splitUnquoted, pairText] at parts
  simp [parse?, cut, parts, nonempty, named, mapM_pairText keys values]

theorem parse?_inv {name : String} {bean : Bean} (found : parse? name = some bean) :
    bean.name = name ∧ ∃ parts, List.Forall₂ Spells parts bean.parameters ∧
      name.toList = bean.domain.toList ++ ':' :: Text.joinWith [','] parts := by
  obtain ⟨⟨domain, properties⟩, cut, found⟩ := Option.bind_eq_some_iff.mp found
  dsimp only at found
  split at found
  · cases found
  · obtain ⟨parameters, read, same⟩ := Option.bind_eq_some_iff.mp found
    cases same
    obtain ⟨c, colon, whole⟩ := Text.cut?_inv cut
    obtain rfl : c = ':' := by simpa using colon
    refine ⟨rfl, splitUnquoted ',' false false properties, ?_, ?_⟩
    · exact (mapM_eq_some_iff.mp read).imp fun _ _ found => parameter?_inv found
    · rw [joinWith_splitUnquoted, String.toList_ofList]
      exact whole

/-- A domain and parameters written as a name are read back, and a name is read as what it spells. -/
theorem names_round_trip :
    (∀ (domain : String) (parameters : List (String × String)), domain ≠ "" →
      ':' ∉ domain.toList → parameters ≠ [] →
      (∀ parameter ∈ parameters, IsKey parameter.1.toList ∧ IsValue parameter.2.toList) →
      parse? (String.ofList (nameText domain parameters)) =
        some ⟨domain, parameters, String.ofList (nameText domain parameters)⟩) ∧
    ∀ (name : String) (bean : Bean), parse? name = some bean →
      bean.name = name ∧ ∃ parts, List.Forall₂ Spells parts bean.parameters ∧
        name.toList = bean.domain.toList ++ ':' :: Text.joinWith [','] parts :=
  ⟨fun _ _ named noColon some_parameter valid =>
    parse?_nameText named noColon some_parameter (fun parameter member => (valid parameter member).1)
      fun parameter member => (valid parameter member).2,
    fun _ _ found => parse?_inv found⟩

theorem names_round_trip_quoted :
    let parameters := [("type", "app"), ("name", "\"a,=\\\"c\"")]
    let name := String.ofList (nameText "kafka.server" parameters)
    (∀ parameter ∈ parameters, IsKey parameter.1.toList ∧ IsValue parameter.2.toList) ∧
      parse? name = some ⟨"kafka.server", parameters, name⟩ ∧
      ∃ parts, List.Forall₂ Spells parts parameters ∧
        name.toList = "kafka.server".toList ++ ':' :: Text.joinWith [','] parts := by
  intro parameters name
  have valid : ∀ parameter ∈ parameters, IsKey parameter.1.toList ∧ IsValue parameter.2.toList := by
    have escaped : IsEscaped ['a', ',', '=', '\\', '"', 'c'] :=
      .plain (by decide) (by decide) <| .plain (by decide) (by decide) <|
        .plain (by decide) (by decide) <| .escape '"' <| .plain (by decide) (by decide) .nil
    refine List.forall_mem_cons.mpr ⟨⟨?_, .inl ?_⟩, List.forall_mem_singleton.mpr ⟨?_, .inr ?_⟩⟩
    · exact ⟨by decide, by simp; decide, by simp; decide, by simp⟩
    · exact ⟨by decide, by simp⟩
    · exact ⟨by decide, by simp; decide, by simp; decide, by simp⟩
    · exact ⟨_, escaped, by decide⟩
  have read := names_round_trip.1 "kafka.server" parameters (by decide) (by decide) (by decide) valid
  exact ⟨valid, read, (names_round_trip.2 name _ read).2⟩

end BeanHarvest.Bean
