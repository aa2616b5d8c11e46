import BeanHarvest.Jolokia.Client
import BeanHarvest.Proofs.Text
import Mathlib.Data.List.Basic

/-! Paths of list requests: what stands between the slashes of a path is the domain and the properties of
a bean again, however many slashes and marks there are in them. -/
namespace BeanHarvest.Jolokia

/-- The parts of a path between the slashes that no mark makes literal, as they are written. -/
def parts : List Char → List (List Char)
  | [] => [[]]
  | '/' :: rest => [] :: parts rest
  | '!' :: c :: rest => consFirst '!' (consFirst c (parts rest))
  | c :: rest => consFirst c (parts rest)

/-- A part without the marks that make characters literal. -/
def unmarked : List Char → List Char
  | [] => []
  | '!' :: c :: rest => c :: unmarked rest
  | c :: rest => c :: unmarked rest

/-- What a path is made of: its parts, without marks. -/
def decoded (path : String) : List String :=
  (parts path.toList).map fun part => String.ofList (unmarked part)

theorem parts_ne_nil (path : List Char) : parts path ≠ [] := by
  have grown : ∀ c list, consFirst c list ≠ [] := by
    intro c list
    cases list <;> exact List.cons_ne_nil _ _
  fun_cases parts path with
  | case1 => exact List.cons_ne_nil _ _
  | case2 => exact List.cons_ne_nil _ _
  | case3 => exact grown _ _
  | case4 => exact grown _ _

/-- Reading in two steps comes to the same as reading at once. -/
theorem map_unmarked_parts (path : List Char) : (parts path).map unmarked = elements path := by
  fun_induction parts path with
  | case1 => rfl
  | case2 rest ih => simp [elements, unmarked, ih]
  | case3 c rest ih =>
    obtain ⟨first, others, same⟩ := List.exists_cons_of_ne_nil (parts_ne_nil rest)
    rw [elements, ← ih, same]
    rfl
  | case4 c rest noSlash noPair ih =>
    by_cases mark : c = '!'
    · -- A mark that makes nothing literal stands at the end of the path.
      subst mark
      cases rest with
      | nil => rfl
      | cons d rest => exact absurd rfl (noPair d rest rfl)
    · obtain ⟨first, others, same⟩ := List.exists_cons_of_ne_nil (parts_ne_nil rest)
      simp [elements, mark, ← ih, same, consFirst, unmarked]

theorem elements_escaped (element rest : List Char) :
    elements (element.flatMap escapeChar ++ rest) = element.foldr consFirst (elements rest) := by
  induction element with
  | nil => rfl
  | cons c others ih =>
    rw [List.flatMap_cons, List.append_assoc]
    by_cases mark : c = '!'
    · subst mark
      simp [escapeChar, elements, ih]
    · by_cases slash : c = '/'
      · subst slash
        simp [escapeChar, elements, ih]
      · simp [escapeChar, mark, slash, elements, ih]

theorem foldr_consFirst (element first : List Char) (others : List (List Char)) :
    element.foldr consFirst (first :: others) = (element ++ first) :: others := by
  induction element with
  | nil => rfl
  | cons c rest ih => simp [ih, consFirst]

theorem decoded_escaped (first second : String) :
    decoded (escape first ++ "/" ++ escape second) = [first, second] := by
  have written : (escape first ++ "/" ++ escape second).toList =
      first.toList.flatMap escapeChar ++ '/' :: (second.toList.flatMap escapeChar ++ []) := by
    simp [escape]
  have read : elements (escape first ++ "/" ++ escape second).toList =
      [first.toList, second.toList] := by
    rw [written, elements_escaped, elements, elements_escaped, elements, foldr_consFirst,
      foldr_consFirst, List.append_nil, List.append_nil]
  have twoSteps : decoded (escape first ++ "/" ++ escape second) =
      ((parts (escape first ++ "/" ++ escape second).toList).map unmarked).map String.ofList := by
    rw [List.map_map]
    rfl
  rw [twoSteps, map_unmarked_parts, read]
  simp

theorem replaceFrom_singleton (c : Char) (value text : List Char) :
    Text.replaceFrom [c] value 0 text = text.flatMap fun d => if d = c then value else [d] := by
  induction text with
  | nil => rfl
  | cons d rest ih =>
    rw [List.flatMap_cons, ← ih]
    by_cases same : d = c
    · subst same
      simp [Text.replaceFrom, Text.afterPrefix?]
    · simp [Text.replaceFrom, Text.afterPrefix?, same, Ne.symm same]

theorem replace_singleton (c : Char) (value text : List Char) :
    Text.replace [c] value text = text.flatMap fun d => if d = c then value else [d] :=
  replaceFrom_singleton c value text

/-- Marks are written in front of marks first and of slashes then, the marks of which are not marked
again. -/
theorem escape_eq_replace (element : String) :
    escape element = String.ofList
      (Text.replace ['/'] ['!', '/'] (Text.replace ['!'] ['!', '!'] element.toList)) := by
  rw [replace_singleton, replace_singleton, List.flatMap_assoc, escape]
  refine congrArg String.ofList (List.flatMap_congr fun c _ => ?_)
  by_cases mark : c = '!'
  · subst mark
    rfl
  · by_cases slash : c = '/' <;> simp [escapeChar, mark, slash]

/-- What a client asks for a bean that it does not know is a list of the bean. -/
theorem request_of_info {client : Client} {bean : Bean} {request : Request}
    {next : Delivery → Except ConnectionFault BeanInfo × Client}
    (asks : client.info bean = .post request next) : request = .list (listPath bean) := by
  unfold Client.info at asks
  split at asks
  · cases asks
  · unfold Client.send at asks
    split at asks
    · cases asks
    · cases asks
      rfl

/-- The name of a bean is its domain and its properties around the first colon. -/
theorem name_of_parse {name : String} {bean : Bean} (parsed : Bean.parse? name = some bean) :
    name = bean.domain ++ ":" ++ properties bean ∧ ':' ∉ bean.domain.toList := by
  obtain ⟨⟨domain, rest⟩, cut, parsed⟩ := Option.bind_eq_some_iff.mp parsed
  dsimp only at parsed
  split at parsed
  · cases parsed
  · obtain ⟨parameters, _, same⟩ := Option.bind_eq_some_iff.mp parsed
    cases same
    have behind : properties ⟨String.ofList domain, parameters, name⟩ = String.ofList rest := by
      unfold properties
      rw [cut]
    obtain ⟨c, colon, whole⟩ := Text.cut?_inv cut
    obtain rfl : c = ':' := of_decide_eq_true colon
    refine ⟨?_, fun inside => ?_⟩
    · rw [behind, ← String.toList_inj, whole]
      simp
    · rw [String.toList_ofList] at inside
      exact absurd (Text.cut?_before cut _ inside) (by decide)

/-- Paths can be read back. An element is written by two replacements, one after the other; a path of two
elements has just these parts between the slashes that are not made literal, once their marks are taken
out; and so the path of the list request for a bean, the only request that is sent to know a bean, names
the domain and what stands behind the first colon of the bean's name. -/
theorem paths_decode :
    (∀ element : String, escape element = String.ofList
      (Text.replace ['/'] ['!', '/'] (Text.replace ['!'] ['!', '!'] element.toList))) ∧
    (∀ domain properties : String,
      decoded (escape domain ++ "/" ++ escape properties) = [domain, properties]) ∧
    ∀ name bean, Bean.parse? name = some bean →
      ∃ properties, name = bean.domain ++ ":" ++ properties ∧ ':' ∉ bean.domain.toList ∧
        decoded (listPath bean) = [bean.domain, properties] ∧
        ∀ (client : Client) request next, client.info bean = .post request next →
          request = .list (listPath bean) := by
  refine ⟨escape_eq_replace, decoded_escaped, fun name bean parsed => ?_⟩
  obtain ⟨whole, first⟩ := name_of_parse parsed
  exact ⟨properties bean, whole, first, decoded_escaped _ _,
    fun client request next => request_of_info⟩

/-- A bean with slashes and marks in its domain and in its properties, both of which end in a mark. -/
theorem paths_decode_marked :
    let bean : Bean := ⟨"a!/b!", [("path", "/x!")], "a!/b!:path=/x!"⟩
    Bean.parse? "a!/b!:path=/x!" = some bean ∧ listPath bean = "a!!!/b!!/path=!/x!!" ∧
      decoded (listPath bean) = ["a!/b!", "path=/x!"] := by
  intro bean
  have parsed : Bean.parse? "a!/b!:path=/x!" = some bean := by decide
  obtain ⟨properties, whole, -, decodes, -⟩ := paths_decode.2.2 _ bean parsed
  have same : "path=/x!" = properties := by
    have behind := congrArg String.toList whole
    rw [← String.toList_inj]
    simpa [bean] using behind
  exact ⟨parsed, by decide, same ▸ decodes⟩

end BeanHarvest.Jolokia
