import BeanHarvest.Yaml.Token

/-! The nodes of a YAML text: scalars, sequences and mappings. An alias is replaced by the node that
its anchor names. -/
namespace BeanHarvest.Yaml

inductive Node where
  | scalar (text : String) (plain : Bool) (tag : Option String)
  | sequence (items : List Node) (tag : Option String)
  | mapping (pairs : List (Node × Node)) (tag : Option String)

namespace Node

def empty : Node := .scalar "" true none

/-- What is known while nodes are read: what handles of tags stand for, and the anchored nodes. -/
structure Scope where
  handles : List (String × String)
  anchors : List (String × Node)

/-- What was read, the tokens behind it, and what is known then. -/
structure Step (α : Type) where
  value : α
  rest : List Token
  scope : Scope

/-- Anchor and tag in front of a node, in either order. -/
def properties : List Token → Option String × Option (String × String) × List Token
  | .anchor name :: .tag handle suffix :: rest => (some name, some (handle, suffix), rest)
  | .tag handle suffix :: .anchor name :: rest => (some name, some (handle, suffix), rest)
  | .anchor name :: rest => (some name, none, rest)
  | .tag handle suffix :: rest => (none, some (handle, suffix), rest)
  | rest => (none, none, rest)

/-- The full text of a tag; the tag `!` says nothing. -/
def fullTag? (handles : List (String × String)) :
    Option (String × String) → Option (Option String)
  | none => some none
  | some ("", suffix) => some (if suffix = "!" then none else some suffix)
  | some (handle, suffix) =>
    (handles.find? (·.1 = handle)).map fun (_, lead) => some (lead ++ suffix)

def endsItem : List Token → Bool
  | .blockEntry :: _ | .blockEnd :: _ => true
  | _ => false

def endsLooseItem : List Token → Bool
  | .blockEntry :: _ | .key :: _ | .value :: _ | .blockEnd :: _ => true
  | _ => false

def endsPart : List Token → Bool
  | .key :: _ | .value :: _ | .blockEnd :: _ => true
  | _ => false

def maxDepth : Nat := 127

mutual

/-- Read a node. `block` admits blocks, `loose` also a sequence without an indentation of its own. -/
def read? (block loose : Bool) :
    (fuel depth : Nat) → Scope → List Token → Option (Step Node)
  | 0, _, _, _ => none
  | fuel + 1, depth, scope, tokens =>
    match tokens with
    | .reference name :: rest =>
      (scope.anchors.find? (·.1 = name)).map fun (_, node) => ⟨node, rest, scope⟩
    | _ => do
      let (anchor, rawTag, tokens) := properties tokens
      let tag ← fullTag? scope.handles rawTag
      let bare : Option (Step Node) :=
        if anchor.isSome || rawTag.isSome then some ⟨.scalar "" true tag, tokens, scope⟩ else none
      let sequence (step : Step (List Node)) : Step Node :=
        ⟨.sequence step.value tag, step.rest, step.scope⟩
      let mapping (step : Step (List (Node × Node))) : Step Node :=
        ⟨.mapping step.value tag, step.rest, step.scope⟩
      let step ←
        match tokens, depth with
        | .scalar text plain :: rest, _ => some ⟨.scalar text plain tag, rest, scope⟩
        | .flowSequenceStart :: rest, depth + 1 =>
          (readFlowItems fuel depth true scope rest).map sequence
        | .flowMappingStart :: rest, depth + 1 =>
          (readFlowPairs fuel depth true scope rest).map mapping
        | .flowSequenceStart :: _, 0 | .flowMappingStart :: _, 0 => none
        | .blockEntry :: _, depth =>
          if !loose then bare
          else if depth = 0 then none
          else (readLoose fuel (depth - 1) scope tokens).map sequence
        | .blockSequenceStart :: rest, depth =>
          if !block then bare
          else if depth = 0 then none
          else (readItems fuel (depth - 1) scope rest).map sequence
        | .blockMappingStart :: rest, depth =>
          if !block then bare
          else if depth = 0 then none
          else (readPairs fuel (depth - 1) scope rest).map mapping
        | _, _ => bare
      match anchor with
      | some name =>
        some { step with
          scope := { step.scope with anchors := (name, step.value) :: step.scope.anchors } }
      | none => some step
termination_by structural fuel => fuel

def readItems : (fuel depth : Nat) → Scope → List Token → Option (Step (List Node))
  | 0, _, _, _ => none
  | fuel + 1, depth, scope, tokens =>
    match tokens with
    | .blockEnd :: rest => some ⟨[], rest, scope⟩
    | .blockEntry :: rest => do
      let item ←
        if endsItem rest then some ⟨empty, rest, scope⟩ else read? true false fuel depth scope rest
      let others ← readItems fuel depth item.scope item.rest
      some ⟨item.value :: others.value, others.rest, others.scope⟩
    | _ => none
termination_by structural fuel => fuel

/-- Read the items of a sequence that stands at the column of its key. -/
def readLoose : (fuel depth : Nat) → Scope → List Token → Option (Step (List Node))
  | 0, _, _, _ => none
  | fuel + 1, depth, scope, tokens =>
    match tokens with
    | .blockEntry :: rest => do
      let item ←
        if endsLooseItem rest then some ⟨empty, rest, scope⟩
        else read? true false fuel depth scope rest
      let others ← readLoose fuel depth item.scope item.rest
      some ⟨item.value :: others.value, others.rest, others.scope⟩
    | _ => some ⟨[], tokens, scope⟩
termination_by structural fuel => fuel

/-- Read the pairs of a block mapping up to its end. -/
def readPairs : (fuel depth : Nat) → Scope → List Token → Option (Step (List (Node × Node)))
  | 0, _, _, _ => none
  | fuel + 1, depth, scope, tokens => do
    let pair? ←
      match tokens with
      | .blockEnd :: _ => some none
      | .key :: rest =>
        if endsPart rest then some (some ⟨empty, rest, scope⟩)
        else (read? true true fuel depth scope rest).map some
      | _ => none
    match pair? with
    | none => some ⟨[], tokens.drop 1, scope⟩
    | some key =>
      let value ←
        match key.rest with
        | .value :: rest =>
          if endsPart rest then some ⟨empty, rest, key.scope⟩
          else read? true true fuel depth key.scope rest
        | rest => some ⟨empty, rest, key.scope⟩
      let others ← readPairs fuel depth value.scope value.rest
      some ⟨(key.value, value.value) :: others.value, others.rest, others.scope⟩
termination_by structural fuel => fuel

/-- Read the items of a sequence in brackets; a pair among them is a mapping of its own. -/
def readFlowItems : (fuel depth : Nat) → (first : Bool) → Scope → List Token →
    Option (Step (List Node))
  | 0, _, _, _, _ => none
  | fuel + 1, depth, first, scope, tokens => do
    let tokens ←
      match tokens with
      | .flowSequenceEnd :: _ => some tokens
      | .flowEntry :: rest => if first then some tokens else some rest
      | _ => if first then some tokens else none
    match tokens with
    | .flowSequenceEnd :: rest => some ⟨[], rest, scope⟩
    | .key :: rest =>
      let key ←
        match rest with
        | .value :: _ | .flowEntry :: _ | .flowSequenceEnd :: _ =>
          some ⟨empty, rest.drop 1, scope⟩
        | _ => read? false false fuel (depth - 1) scope rest
      let value ←
        match key.rest with
        | .value :: .flowEntry :: _ | .value :: .flowSequenceEnd :: _ =>
          some ⟨empty, key.rest.drop 1, key.scope⟩
        | .value :: rest => read? false false fuel (depth - 1) key.scope rest
        | rest => some ⟨empty, rest, key.scope⟩
      let others ← readFlowItems fuel depth false value.scope value.rest
      some ⟨.mapping [(key.value, value.value)] none :: others.value, others.rest, others.scope⟩
    | _ =>
      let item ← read? false false fuel depth scope tokens
      let others ← readFlowItems fuel depth false item.scope item.rest
      some ⟨item.value :: others.value, others.rest, others.scope⟩
termination_by structural fuel => fuel

def readFlowPairs : (fuel depth : Nat) → (first : Bool) → Scope → List Token →
    Option (Step (List (Node × Node)))
  | 0, _, _, _, _ => none
  | fuel + 1, depth, first, scope, tokens => do
    let tokens ←
      match tokens with
      | .flowMappingEnd :: _ => some tokens
      | .flowEntry :: rest => if first then some tokens else some rest
      | _ => if first then some tokens else none
    match tokens with
    | .flowMappingEnd :: rest => some ⟨[], rest, scope⟩
    | .key :: rest =>
      let key ←
        match rest with
        | .value :: _ | .flowEntry :: _ | .flowMappingEnd :: _ => some ⟨empty, rest, scope⟩
        | _ => read? false false fuel depth scope rest
      let value ←
        match key.rest with
        | .value :: .flowEntry :: _ | .value :: .flowMappingEnd :: _ =>
          some ⟨empty, key.rest.drop 1, key.scope⟩
        | .value :: rest => read? false false fuel depth key.scope rest
        | rest => some ⟨empty, rest, key.scope⟩
      let others ← readFlowPairs fuel depth false value.scope value.rest
      some ⟨(key.value, value.value) :: others.value, others.rest, others.scope⟩
    | _ =>
      let key ← read? false false fuel depth scope tokens
      let others ← readFlowPairs fuel depth false key.scope key.rest
      some ⟨(key.value, empty) :: others.value, others.rest, others.scope⟩
termination_by structural fuel => fuel

end

/-- What the handles of tags stand for unless a directive says otherwise. -/
def defaultHandles : List (String × String) := [("!", "!"), ("!!", "tag:yaml.org,2002:")]

/-- Read the directives before a document: at most one version, 1.1 or 1.2, and one meaning for each
handle. -/
def directives? (version : Bool) (handles : List (String × String)) :
    List Token → Option (List (String × String) × List Token)
  | .version major minor :: rest =>
    if version || major ≠ 1 || (minor ≠ 1 && minor ≠ 2) then none
    else directives? true handles rest
  | .tagHandle handle lead :: rest =>
    if handles.any (·.1 = handle) then none
    else directives? version ((handle, lead) :: handles) rest
  | tokens => some (handles, tokens)

/-- Read the one document of some tokens; an empty text has an empty scalar for its node. -/
def ofTokens? (tokens : List Token) : Option Node := do
  if tokens.isEmpty then some empty
  else
    let fuel := 2 * tokens.length + 2
    let (handles, rest) ← directives? false [] tokens
    let scope : Scope := ⟨handles ++ defaultHandles, []⟩
    let step ←
      match rest with
      | .documentStart :: content =>
        match content with
        | [] => some ⟨empty, [], scope⟩
        | .version .. :: _ | .tagHandle .. :: _ | .documentStart :: _ | .documentEnd :: _ =>
          some ⟨empty, content, scope⟩
        | _ => read? true false fuel maxDepth scope content
      | _ =>
        if rest.length = tokens.length then read? true false fuel maxDepth scope rest else none
    if (step.rest.dropWhile (· = .documentEnd)).isEmpty then some step.value else none

def ofText? (text : String) : Option Node := tokens? text >>= ofTokens?

end Node
end BeanHarvest.Yaml
