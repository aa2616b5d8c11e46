import BeanHarvest.Pattern.Dialect
import Mathlib.Data.List.Basic

/-! Conversion of patterns, piece by piece. A pattern is read from left to right as escapes, bracketed
classes, groups, quantifiers and single characters. Conversion renames the openings of named groups, drops
the signs of possessive quantifiers, and refuses lookaround and atomic groups. It takes no notice of
brackets: what looks like one of these inside a class is changed or refused as well. Patterns in whose
classes nothing does are converted as they should be, and no others. -/
namespace BeanHarvest.Pattern

/-- How a construct without a counterpart begins. -/
def Feature.opening : Feature → List Char
  | .positiveLookbehind => ['(', '?', '<', '=']
  | .negativeLookbehind => ['(', '?', '<', '!']
  | .positiveLookahead => ['(', '?', '=']
  | .negativeLookahead => ['(', '?', '!']
  | .atomicGroup => ['(', '?', '>']

/-- What is read of a pattern at once. -/
inductive Piece where
  /-- A character behind a backslash. -/
  | escape (c : Char)
  /-- A class, from its opening bracket to the one that closes it. -/
  | brackets (text : List Char)
  /-- The opening of a construct without a counterpart. -/
  | refused (feature : Feature)
  /-- The opening of a named group. -/
  | named
  /-- The opening of any other group with a question mark. -/
  | group
  /-- A quantifier with the sign behind it that makes it possessive. -/
  | possessive (quantifier : Char)
  /-- Any other character. -/
  | plain (c : Char)
deriving DecidableEq, Repr

/-- A class up to the bracket that closes it, where `depth` brackets are open. The first bracket in a class
does not close it. A class that is never closed goes on to the end. -/
def classText : (depth : Nat) → List Char → List Char
  | _, [] => []
  | depth, '\\' :: c :: rest => '\\' :: c :: classText depth rest
  | depth, '[' :: '^' :: ']' :: rest => '[' :: '^' :: ']' :: classText (depth + 1) rest
  | depth, '[' :: ']' :: rest => '[' :: ']' :: classText (depth + 1) rest
  | depth, '[' :: rest => '[' :: classText (depth + 1) rest
  | depth, ']' :: rest => if depth ≤ 1 then [']'] else ']' :: classText (depth - 1) rest
  | depth, c :: rest => c :: classText depth rest

namespace Piece

def text : Piece → List Char
  | escape c => ['\\', c]
  | brackets text => text
  | refused feature => feature.opening
  | named => ['(', '?', '<']
  | group => ['(', '?']
  | possessive quantifier => [quantifier, '+']
  | plain c => [c]

/-- A piece as it should be written for searching. -/
def converted : Piece → List Char
  | named => ['(', '?', 'P', '<']
  | possessive quantifier => [quantifier]
  | piece => piece.text

/-- The construct without a counterpart that a piece opens. -/
def refused? : Piece → Option Feature
  | refused feature => some feature
  | _ => none

/-- The piece that a text begins with, given by its first character and the rest. -/
def first (c : Char) (rest : List Char) : Piece :=
  match c, rest with
  | '\\', d :: _ => escape d
  | '[', rest => brackets (classText 0 ('[' :: rest))
  | '(', '?' :: '<' :: '=' :: _ => refused .positiveLookbehind
  | '(', '?' :: '<' :: '!' :: _ => refused .negativeLookbehind
  | '(', '?' :: '<' :: _ => named
  | '(', '?' :: '>' :: _ => refused .atomicGroup
  | '(', '?' :: '=' :: _ => refused .positiveLookahead
  | '(', '?' :: '!' :: _ => refused .negativeLookahead
  | '(', '?' :: _ => group
  | '+', '+' :: _ => possessive '+'
  | '*', '+' :: _ => possessive '*'
  | '?', '+' :: _ => possessive '?'
  | c, _ => plain c

/-- A piece and then what the rest of the text comes to. -/
def andThen (piece : Piece) (others : Except Feature (List Char)) : Except Feature (List Char) :=
  match piece.refused? with
  | some feature => .error feature
  | none => others.map (piece.converted ++ ·)

end Piece

/-- The pieces of a text; `skip` characters still belong to the piece read last. -/
def piecesFrom : (skip : Nat) → List Char → List Piece
  | _, [] => []
  | skip + 1, _ :: rest => piecesFrom skip rest
  | 0, c :: rest => .first c rest :: piecesFrom ((Piece.first c rest).text.length - 1) rest

def pieces (text : List Char) : List Piece := piecesFrom 0 text

/-- Whether a text has nothing that conversion would change or refuse if it stood outside of brackets. -/
def isInert : List Char → Bool
  | [] => true
  | '\\' :: _ :: rest => isInert rest
  | '(' :: '?' :: rest => rest.head?.all (fun c => !(['<', '=', '!', '>'].contains c)) && isInert rest
  | c :: rest => !(['+', '*', '?'].contains c && rest.head? == some '+') && isInert rest

/-- Whether a piece is no class, or an inert one. -/
def Piece.isInert : Piece → Bool
  | brackets text => Pattern.isInert text
  | _ => true

/-- Whether what follows a text makes no difference to how the text is read: nothing follows, or the text
ends with a bracket. -/
def Ends (text after : List Char) : Prop := after = [] ∨ ∀ c, text.getLast? = some c → c = ']'

variable {c : Char} {text rest after out : List Char} {piece : Piece} {list : List Piece}

theorem Ends.tail (ends : Ends (c :: text) after) : Ends text after :=
  ends.imp_right fun last d found => last d (by simp [List.getLast?_cons, found])

/-- Behind a character that is no bracket there is more of the text, or nothing at all. -/
theorem Ends.head?_append (ends : Ends (c :: text) after) (other : c ≠ ']') :
    (text ++ after).head? = text.head? := by
  cases text with
  | nil =>
    rcases ends with rfl | last
    · rfl
    · exact absurd (last c rfl) other
  | cons d others => rfl

/-- A class begins the text it is read from, and ends with a bracket if it ends before the text does. -/
theorem classText_append (depth : Nat) (text : List Char) : ∃ after,
    text = classText depth text ++ after ∧
      (after = [] ∨ (classText depth text).getLast? = some ']') := by
  fun_induction classText depth text with
  | case1 => exact ⟨[], rfl, .inl rfl⟩
  | case6 _ rest => exact ⟨rest, rfl, .inr rfl⟩
  | _ =>
    rename_i ih
    obtain ⟨after, whole, ends⟩ := ih
    refine ⟨after, by simp [← whole], ends.imp_right fun closed => ?_⟩
    simp [List.getLast?_cons, closed]

namespace Piece

theorem first_bracket (rest : List Char) : first '[' rest = brackets (classText 0 ('[' :: rest)) := by
  simp [first]

theorem first_isInert (outside : c ≠ '[') (rest : List Char) : (first c rest).isInert = true := by
  fun_cases first c rest with
  | case2 => exact absurd rfl outside
  | _ => rfl

theorem first_ne_nil (c : Char) (rest : List Char) : (first c rest).text ≠ [] := by
  fun_cases first c rest with
  | case2 =>
    have opened : classText 0 ('[' :: rest) ≠ [] := by
      unfold classText
      split <;> simp_all
    exact opened
  | _ => simp [text, Feature.opening]

/-- Outside of brackets a piece is what conversion takes at once. -/
theorem first_converts (outside : c ≠ '[') (rest : List Char) :
    ∃ after, c :: rest = (first c rest).text ++ after ∧
      convertChars (c :: rest) = (first c rest).andThen (convertChars after) := by
  fun_cases first c rest with
  | case2 => exact absurd rfl outside
  | _ => exact ⟨_, rfl, by simp [convertChars, *]; rfl⟩

theorem first_append (c : Char) (rest : List Char) :
    ∃ after, c :: rest = (first c rest).text ++ after := by
  by_cases inside : c = '['
  · subst c
    obtain ⟨after, whole, -⟩ := classText_append 0 ('[' :: rest)
    exact ⟨after, by rwa [first_bracket]⟩
  · obtain ⟨after, whole, -⟩ := first_converts inside rest
    exact ⟨after, whole⟩

/-- Of what a class holds nothing is read with what stands behind it. -/
theorem ends_of_bracket (whole : '[' :: rest = (first '[' rest).text ++ after) :
    Ends (first '[' rest).text after := by
  obtain ⟨behind, same, ends⟩ := classText_append 0 ('[' :: rest)
  rw [first_bracket] at whole ⊢
  obtain rfl : behind = after := List.append_cancel_left (same.symm.trans whole)
  exact ends.imp_right fun closed c found => Option.some.inj (found.symm.trans closed)

theorem convertChars_first (outside : c ≠ '[') (whole : c :: rest = (first c rest).text ++ after) :
    convertChars (c :: rest) = (first c rest).andThen (convertChars after) := by
  obtain ⟨behind, same, converts⟩ := first_converts outside rest
  obtain rfl : behind = after := List.append_cancel_left (same.symm.trans whole)
  exact converts

end Piece

theorem piecesFrom_eq (skip : Nat) (text : List Char) :
    piecesFrom skip text = pieces (text.drop skip) := by
  induction skip generalizing text with
  | zero => rfl
  | succ skip ih =>
    cases text with
    | nil => rfl
    | cons c rest => exact ih rest

theorem pieces_cons (whole : c :: rest = (Piece.first c rest).text ++ after) :
    pieces (c :: rest) = .first c rest :: pieces after := by
  obtain ⟨d, others, written⟩ := List.exists_cons_of_ne_nil (Piece.first_ne_nil c rest)
  rw [pieces, piecesFrom, piecesFrom_eq]
  rw [written] at whole ⊢
  obtain ⟨rfl, rfl⟩ := List.cons.inj whole
  simp

/-- What holds of the empty text, and of any other if it holds of the text behind the first piece, holds of
all texts. -/
theorem pieces_induction {motive : List Char → Prop} (nil : motive [])
    (cons : ∀ c rest after, c :: rest = (Piece.first c rest).text ++ after → motive after →
      motive (c :: rest)) (text : List Char) : motive text := by
  induction size : text.length using Nat.strongRecOn generalizing text with
  | ind size ih =>
    subst size
    cases text with
    | nil => exact nil
    | cons c rest =>
      obtain ⟨after, whole⟩ := Piece.first_append c rest
      have written := List.length_pos_iff.mpr (Piece.first_ne_nil c rest)
      have shorter : after.length < (c :: rest).length := by
        rw [whole, List.length_append]
        omega
      exact cons c rest after whole (ih _ shorter after rfl)

theorem flatMap_pieces (text : List Char) : (pieces text).flatMap Piece.text = text := by
  induction text using pieces_induction with
  | nil => rfl
  | cons c rest after whole ih => rw [pieces_cons whole, List.flatMap_cons, ih, ← whole]

theorem map_ok_inv {ε α β : Type} {result : Except ε α} {f : α → β} {value : β}
    (made : result.map f = .ok value) : ∃ before, result = .ok before ∧ f before = value := by
  cases result with
  | error fault => cases made
  | ok before => exact ⟨before, rfl, Except.ok.inj made⟩

theorem convertChars_possessive (quantifier : c ∈ ['+', '*', '?']) :
    convertChars (c :: '+' :: rest) = (convertChars rest).map (c :: ·) := by
  simp only [List.mem_cons, List.not_mem_nil, or_false] at quantifier
  rcases quantifier with rfl | rfl | rfl <;> rfl

theorem convertChars_group (ends : Ends ('?' :: text) rest)
    (other : ∀ c, text.head? = some c → c ∉ ['<', '=', '!', '>']) :
    convertChars ('(' :: '?' :: text ++ rest) = (convertChars (text ++ rest)).map ('(' :: '?' :: ·) := by
  rw [← ends.head?_append (by decide)] at other
  rw [List.cons_append, List.cons_append, convertChars]
  all_goals
    intro tail same
    simpa using other _ (List.head?_eq_some_iff.mpr ⟨_, same⟩)

/-- The opening of a group with a construct of its own is not copied. -/
theorem convertChars_construct (construct : c ∈ ['<', '=', '!', '>']) :
    convertChars ('(' :: '?' :: c :: rest) ≠ .ok ('(' :: '?' :: c :: out) := by
  simp only [List.mem_cons, List.not_mem_nil, or_false] at construct
  rcases construct with rfl | rfl | rfl | rfl
  · intro copied
    by_cases lookbehind : rest.head? = some '=' ∨ rest.head? = some '!'
    · rcases lookbehind with next | next <;>
        obtain ⟨_, rfl⟩ := List.head?_eq_some_iff.mp next <;> cases copied
    · rw [convertChars] at copied
      · obtain ⟨_, -, same⟩ := map_ok_inv copied
        simp at same
      · exact fun _ same => lookbehind (.inl (same ▸ rfl))
      · exact fun _ same => lookbehind (.inr (same ▸ rfl))
  · exact nofun
  · exact nofun
  · exact nofun

/-- Whether a character is read on its own, whatever may stand behind the next one. -/
def Alone (c : Char) (next : Option Char) : Prop :=
  (c = '\\' → next = none) ∧ (c = '(' → next ≠ some '?') ∧ (c ∈ ['+', '*', '?'] → next ≠ some '+')

theorem Alone.append (alone : Alone c text.head?) (ends : Ends (c :: text) rest) :
    Alone c (text ++ rest).head? := by
  by_cases bracket : c = ']'
  · subst c
    exact ⟨nofun, nofun, fun quantifier => absurd quantifier (by decide)⟩
  · rwa [ends.head?_append bracket]

theorem alone_of_apart (noEscape : ∀ d others, c = '\\' → text = d :: others → False)
    (noGroup : ∀ others, c = '(' → text = '?' :: others → False)
    (noSign : c ∈ ['+', '*', '?'] → text.head? ≠ some '+') : Alone c text.head? := by
  refine ⟨fun escape => ?_, fun opening next => ?_, noSign⟩
  · cases text with
    | nil => rfl
    | cons d others => exact (noEscape d others escape rfl).elim
  · obtain ⟨others, rfl⟩ := List.head?_eq_some_iff.mp next
    exact noGroup others opening rfl

theorem convertChars_alone (alone : Alone c rest.head?) :
    convertChars (c :: rest) = (convertChars rest).map (c :: ·) := by
  obtain ⟨noEscape, noGroup, noSign⟩ := alone
  rw [convertChars.eq_def]
  split <;> simp_all

/-- An inert text is copied, whatever may follow it. -/
theorem convertChars_append (inert : isInert text = true) (ends : Ends text rest) :
    convertChars (text ++ rest) = (convertChars rest).map (text ++ ·) := by
  fun_induction isInert text with
  | case1 => cases same : convertChars rest <;> exact same
  | case2 c text ih =>
    have others := ih inert ends.tail.tail
    rw [List.cons_append, List.cons_append, convertChars, others]
    cases convertChars rest <;> rfl
  | case3 text ih =>
    obtain ⟨other, inert⟩ := Bool.and_eq_true_iff.mp inert
    have others := ih inert ends.tail.tail
    rw [convertChars_group ends.tail (by simpa [Option.all_eq_true] using other), others]
    cases convertChars rest <;> rfl
  | case4 c text noEscape noGroup ih =>
    obtain ⟨other, inert⟩ := Bool.and_eq_true_iff.mp inert
    have others := ih inert ends.tail
    have alone := alone_of_apart noEscape noGroup (by simpa [imp_iff_not_or] using other)
    rw [List.cons_append, convertChars_alone (alone.append ends), others]
    cases convertChars rest <;> rfl

/-- The number of plus signs that a text begins with. -/
def signs (text : List Char) : Nat := (text.takeWhile (· = '+')).length

theorem signs_cons (c : Char) (text : List Char) :
    signs (c :: text) = if c = '+' then signs text + 1 else 0 := by
  unfold signs
  split <;> simp_all

theorem signs_le_append (text rest : List Char) : signs text ≤ signs (text ++ rest) := by
  induction text with
  | nil => exact Nat.zero_le _
  | cons c text ih =>
    rw [List.cons_append, signs_cons, signs_cons]
    split <;> omega

theorem signs_append (ends : Ends (c :: text) rest) : signs (c :: text ++ rest) = signs (c :: text) := by
  induction text generalizing c with
  | nil =>
    by_cases sign : c = '+'
    · obtain rfl | last := ends
      · rfl
      · exact absurd (sign ▸ last c rfl) (by decide)
    · simp [signs_cons, sign]
  | cons d text ih =>
    have others := ih ends.tail
    rw [List.cons_append, signs_cons, signs_cons c, others]

/-- Conversion puts no plus sign in front of a text. -/
theorem signs_convertChars (converts : convertChars text = .ok out) : signs out ≤ signs text := by
  fun_induction convertChars text generalizing out with
  | case1 => cases converts; exact Nat.le_refl _
  | case2 | case3 | case5 | case6 | case7 => cases converts
  | _ =>
    rename_i ih
    obtain ⟨before, converted, rfl⟩ := map_ok_inv converts
    have fewer := ih converted
    simp only [signs_cons]
    grind

/-- A text that is copied as if nothing stood in it is inert. -/
theorem isInert_of_convertChars (ends : Ends text rest)
    (copied : convertChars (text ++ rest) = .ok (text ++ out)) :
    isInert text = true ∧ convertChars rest = .ok out := by
  fun_induction isInert text with
  | case1 => exact ⟨rfl, copied⟩
  | case2 c text ih =>
    obtain ⟨before, converts, same⟩ := map_ok_inv copied
    obtain rfl : before = text ++ out := by simpa using same
    exact ih ends.tail.tail converts
  | case3 text ih =>
    have other : ∀ c, text.head? = some c → c ∉ ['<', '=', '!', '>'] := by
      intro c found construct
      obtain ⟨text, rfl⟩ := List.head?_eq_some_iff.mp found
      exact convertChars_construct construct copied
    rw [convertChars_group ends.tail other] at copied
    obtain ⟨before, converts, same⟩ := map_ok_inv copied
    obtain rfl : before = text ++ out := by simpa using same
    obtain ⟨inert, converts⟩ := ih ends.tail.tail converts
    rw [inert, Bool.and_true, Option.all_eq_true]
    exact ⟨fun c found => by simpa using other c found, converts⟩
  | case4 c text noEscape noGroup ih =>
    have other : c ∈ ['+', '*', '?'] → text.head? ≠ some '+' := by
      intro quantifier found
      obtain ⟨text, rfl⟩ := List.head?_eq_some_iff.mp found
      have dropped : convertChars (c :: '+' :: (text ++ rest)) = _ := convertChars_possessive quantifier
      obtain ⟨before, converts, same⟩ := map_ok_inv (dropped.symm.trans copied)
      obtain rfl : before = '+' :: text ++ out := by simpa using same
      -- The sign that was dropped would have to come back from what stands behind it.
      have more := signs_convertChars converts
      have within := signs_append ends.tail
      have beyond := signs_le_append ('+' :: text) out
      simp only [List.cons_append, signs_cons, if_true] at more within beyond
      omega
    have alone := alone_of_apart noEscape noGroup other
    rw [List.cons_append, convertChars_alone (alone.append ends)] at copied
    obtain ⟨before, converts, same⟩ := map_ok_inv copied
    obtain rfl : before = text ++ out := by simpa using same
    obtain ⟨inert, converts⟩ := ih ends.tail converts
    rw [inert, Bool.and_true]
    exact ⟨by simpa [imp_iff_not_or] using other, converts⟩

theorem Piece.andThen_ok_inv {others : Except Feature (List Char)}
    (made : piece.andThen others = .ok out) :
    piece.refused? = none ∧ ∃ after, others = .ok after ∧ piece.converted ++ after = out := by
  unfold Piece.andThen at made
  cases refused : piece.refused? with
  | some feature => rw [refused] at made; cases made
  | none => exact ⟨rfl, map_ok_inv (by rwa [refused] at made)⟩

/-- Where all classes are inert, conversion goes piece by piece. -/
theorem convertChars_pieces (inert : ∀ piece ∈ pieces text, piece.isInert = true) :
    convertChars text = (pieces text).foldr Piece.andThen (.ok []) := by
  induction text using pieces_induction with
  | nil => rfl
  | cons c rest after whole ih =>
    rw [pieces_cons whole] at inert ⊢
    obtain ⟨first, inert⟩ := List.forall_mem_cons.mp inert
    rw [List.foldr_cons, ← ih inert]
    by_cases inside : c = '['
    · subst c
      have ends := Piece.ends_of_bracket whole
      rw [whole]
      rw [Piece.first_bracket] at ends first ⊢
      exact convertChars_append first ends
    · exact Piece.convertChars_first inside whole

/-- A text that comes to what its pieces come to has inert classes, and nothing in it is refused. -/
theorem isInert_of_pieces
    (converts : convertChars text = .ok ((pieces text).flatMap Piece.converted)) :
    ∀ piece ∈ pieces text, piece.isInert = true ∧ piece.refused? = none := by
  induction text using pieces_induction with
  | nil => exact nofun
  | cons c rest after whole ih =>
    rw [pieces_cons whole] at converts ⊢
    rw [List.forall_mem_cons]
    by_cases inside : c = '['
    · subst c
      have ends := Piece.ends_of_bracket whole
      rw [whole] at converts
      rw [Piece.first_bracket] at ends converts ⊢
      obtain ⟨inert, others⟩ := isInert_of_convertChars ends converts
      exact ⟨⟨inert, rfl⟩, ih others⟩
    · rw [Piece.convertChars_first inside whole] at converts
      obtain ⟨here, behind, others, same⟩ := Piece.andThen_ok_inv converts
      obtain rfl := List.append_cancel_left same
      exact ⟨⟨Piece.first_isInert inside rest, here⟩, ih others⟩

/-- What the pieces come to: the first refusal, or all of them one behind the other. -/
theorem foldr_andThen (list : List Piece) : list.foldr Piece.andThen (.ok []) =
    match list.findSome? Piece.refused? with
    | some feature => .error feature
    | none => .ok (list.flatMap Piece.converted) := by
  induction list with
  | nil => rfl
  | cons piece list ih =>
    rw [List.foldr_cons, ih, List.findSome?_cons, Piece.andThen]
    cases piece.refused? with
    | some feature => rfl
    | none =>
      dsimp only
      cases list.findSome? Piece.refused? <;> rfl

theorem convertChars_of_convert {pattern : String} (converts : convert pattern = .ok (String.ofList out)) :
    convertChars pattern.toList = .ok out := by
  unfold convert at converts
  split at converts
  · next chars same =>
    rw [same, String.ofList_injective (Except.ok.inj converts)]
  · cases converts

/-- A pattern in whose classes nothing looks like an operator is converted piece by piece: it is refused for
the first construct without a counterpart that it has outside of brackets; if there is none, the openings of
named groups are renamed, the signs of possessive quantifiers dropped, and everything else is copied. No
other pattern comes to what its pieces should. -/
theorem convert_touches_operators (pattern : String) :
    let read := pieces pattern.toList
    read.flatMap Piece.text = pattern.toList ∧
      ((∀ piece ∈ read, piece.isInert = true) → ∀ fault, convert pattern = .error fault ↔
        ∃ feature, read.findSome? Piece.refused? = some feature ∧
          fault = .unsupported pattern feature) ∧
      (convert pattern = .ok (String.ofList (read.flatMap Piece.converted)) ↔
        ∀ piece ∈ read, piece.isInert = true ∧ piece.refused? = none) := by
  intro read
  refine ⟨flatMap_pieces _, fun inert fault => ?_, fun converts => ?_, fun kept => ?_⟩
  · unfold convert
    rw [convertChars_pieces inert, foldr_andThen]
    cases read.findSome? Piece.refused? with
    | none => simp
    | some feature => simp [eq_comm]
  · exact isInert_of_pieces (convertChars_of_convert converts)
  · have none : read.findSome? Piece.refused? = none :=
      List.findSome?_eq_none_iff.mpr fun piece member => (kept piece member).2
    unfold convert
    rw [convertChars_pieces fun piece member => (kept piece member).1, foldr_andThen, none]

/-- A named group around a class, a possessive quantifier behind the class, and an escaped sign. -/
theorem convert_touches_operators_named :
    (∀ piece ∈ pieces "(?<type>[^,\\]*]++)\\++".toList, piece.isInert = true) ∧
      convert "(?<type>[^,\\]*]++)\\++" = .ok "(?P<type>[^,\\]*]+)\\++" :=
  ⟨by decide, (convert_touches_operators _).2.2.mpr (by decide)⟩

/-- A class is not left as it is: a sign behind another character of its own is taken for that of a
possessive quantifier, and the class no longer has it; or the whole pattern is refused. -/
theorem convert_changes_classes :
    pieces "[-*+/]".toList = [.brackets "[-*+/]".toList] ∧ convert "[-*+/]" = .ok "[-*/]" ∧
      pieces "[(?=]".toList = [.brackets "[(?=]".toList] ∧
      convert "[(?=]" = .error (.unsupported "[(?=]" .positiveLookahead) := by
  decide

end BeanHarvest.Pattern
