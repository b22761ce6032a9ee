import SchemaGraph.Keyed
import SchemaGraph.Yaml.Token

/-!
# YAML nodes

A `Node` is what tokens describe: a scalar, a sequence, a mapping or an alias of another node. Every
anchor has a number, the number of different anchor names before it, and an alias gives the number
that its name has where it stands. `Document.ofTokens?` reads the only document of a text.
-/

namespace SchemaGraph.Yaml

/-- What is written before the content of a node: the number of its anchor and its tag. -/
structure Properties where
  anchor : Option Nat
  tag : Option String
  deriving DecidableEq, Repr, Inhabited

/-- A node of a YAML document. -/
inductive Node where
  | alias (number : Nat)
  | scalar (properties : Properties) (text : String) (style : ScalarStyle)
  | sequence (properties : Properties) (items : List Node)
  | mapping (properties : Properties) (entries : List (Node × Node))
  deriving Repr, Inhabited

namespace Node

/-- The node that stands where nothing is written. -/
def empty : Node := .scalar ⟨none, none⟩ "" .plain

/-- The anchor and the tag of a node. -/
def properties : Node → Properties
  | .alias _ => ⟨none, none⟩
  | .scalar properties _ _ | .sequence properties _ | .mapping properties _ => properties

mutual

/-- The nodes with an anchor inside a node, each with its number, in the order of the text. -/
def anchored (node : Node) : List (Nat × Node) :=
  let own := node.properties.anchor.toList.map fun number => (number, node)
  match node with
  | .sequence _ items => own ++ anchoredItems items
  | .mapping _ entries => own ++ anchoredEntries entries
  | _ => own

/-- The nodes with an anchor inside the items of a sequence. -/
def anchoredItems : List Node → List (Nat × Node)
  | [] => []
  | item :: rest => anchored item ++ anchoredItems rest

/-- The nodes with an anchor inside the entries of a mapping. -/
def anchoredEntries : List (Node × Node) → List (Nat × Node)
  | [] => []
  | (key, value) :: rest => anchored key ++ anchored value ++ anchoredEntries rest

end

mutual

/-- The weight of a node: one for a scalar or an alias, two for each collection. -/
def weight : Node → Nat
  | .alias _ | .scalar _ _ _ => 1
  | .sequence _ items => 2 + weightItems items
  | .mapping _ entries => 2 + weightEntries entries

/-- The weight of the items of a sequence. -/
def weightItems : List Node → Nat
  | [] => 0
  | item :: rest => weight item + weightItems rest

/-- The weight of the entries of a mapping. -/
def weightEntries : List (Node × Node) → Nat
  | [] => 0
  | (key, value) :: rest => weight key + weight value + weightEntries rest

end

end Node

/-- What is still to be read, and the numbers of the anchors so far by name. -/
structure Parsing where
  tokens : List Token
  anchors : Keyed Nat

namespace Parsing

/-- Go on with other tokens. -/
def withTokens (state : Parsing) (tokens : List Token) : Parsing :=
  { state with tokens := tokens }

/-- The tag that a handle and a suffix stand for. -/
def fullTag? (handles : List (String × String)) (handle suffix : String) : Option String :=
  if handle.isEmpty then some suffix
  else (handles.lookup handle).map fun expansion => expansion ++ suffix

/-- Give an anchor its number. -/
def nameAnchor (state : Parsing) (name : String) : Nat × Parsing :=
  let number := state.anchors.length
  (number, { state with anchors := Keyed.put state.anchors name number })

/-- The anchor and the tag at the start of the tokens, in either order, before anything is looked
up. -/
def splitProperties : List Token → Option String × Option (String × String) × List Token
  | .anchor name :: .tag handle suffix :: rest => (some name, some (handle, suffix), rest)
  | .tag handle suffix :: .anchor name :: rest => (some name, some (handle, suffix), rest)
  | .anchor name :: rest => (some name, none, rest)
  | .tag handle suffix :: rest => (none, some (handle, suffix), rest)
  | rest => (none, none, rest)

/-- Read the anchor and the tag of a node. -/
def properties? (handles : List (String × String)) (state : Parsing) :
    Option (Properties × Parsing) := do
  let (name, tag, rest) := splitProperties state.tokens
  let tag ← match tag with
    | some (handle, suffix) => (fullTag? handles handle suffix).map some
    | none => some none
  let state := state.withTokens rest
  match name with
  | some name =>
      let (number, state) := state.nameAnchor name
      pure (⟨some number, tag⟩, state)
  | none => pure (⟨none, tag⟩, state)

/-- Whether the tokens go on with one that ends the part of an entry of a block mapping. -/
def endsBlockPart : List Token → Bool
  | .key :: _ | .value :: _ | .blockEnd :: _ => true
  | _ => false

/-- Whether the tokens go on with one that ends an item of a block sequence. -/
def endsBlockItem : List Token → Bool
  | .blockEntry :: _ | .blockEnd :: _ => true
  | _ => false

/-- Whether the tokens go on with one that ends an item in brackets. -/
def endsFlowItem : List Token → Bool
  | .flowEntry :: _ | .flowSequenceEnd :: _ => true
  | _ => false

/-- Whether the tokens go on with one that ends a value in braces. -/
def endsFlowValue : List Token → Bool
  | .flowEntry :: _ | .flowMappingEnd :: _ => true
  | _ => false

/-- Whether the tokens go on with the colon before a value. -/
def atValue : List Token → Bool
  | .value :: _ => true
  | _ => false

/-- Pass over the comma between two items. -/
def separator? (first : Bool) (tokens : List Token) : Option (List Token) :=
  match first, tokens with
  | true, tokens => some tokens
  | false, .flowEntry :: rest => some rest
  | false, _ => none

mutual

/-- Read a node. Block collections may only stand outside brackets, and a sequence that is not
indented only as a part of a block mapping. -/
def node? (handles : List (String × String)) :
    Nat → (block sameColumn : Bool) → Parsing → Option (Node × Parsing)
  | 0, _, _, _ => none
  | fuel + 1, block, sameColumn, state =>
      match state.tokens with
      | .alias name :: rest =>
          (Keyed.get? state.anchors name).map fun number => (.alias number, state.withTokens rest)
      | _ => do
          let (properties, state) ← properties? handles state
          match state.tokens, block, sameColumn with
          | .blockEntry :: _, _, true => do
              let (items, state) ← sameColumnItems? handles fuel [] state
              pure (.sequence properties items, state)
          | .scalar text style :: rest, _, _ =>
              pure (.scalar properties text style, state.withTokens rest)
          | .flowSequenceStart :: rest, _, _ => do
              let (items, state) ← flowItems? handles fuel true [] (state.withTokens rest)
              pure (.sequence properties items, state)
          | .flowMappingStart :: rest, _, _ => do
              let (entries, state) ← flowEntries? handles fuel true [] (state.withTokens rest)
              pure (.mapping properties entries, state)
          | .blockSequenceStart :: rest, true, _ => do
              let (items, state) ← blockItems? handles fuel [] (state.withTokens rest)
              pure (.sequence properties items, state)
          | .blockMappingStart :: rest, true, _ => do
              let (entries, state) ← blockEntries? handles fuel [] (state.withTokens rest)
              pure (.mapping properties entries, state)
          | _, _, _ =>
              if properties = ⟨none, none⟩ then none else pure (.scalar properties "" .plain, state)

/-- Read the items of a block sequence up to its end, given those already read in reverse. -/
def blockItems? (handles : List (String × String)) :
    Nat → List Node → Parsing → Option (List Node × Parsing)
  | 0, _, _ => none
  | fuel + 1, acc, state =>
      match state.tokens with
      | .blockEnd :: rest => some (acc.reverse, state.withTokens rest)
      | .blockEntry :: rest => do
          let state := state.withTokens rest
          if endsBlockItem rest then blockItems? handles fuel (.empty :: acc) state
          else do
            let (item, state) ← node? handles fuel true false state
            blockItems? handles fuel (item :: acc) state
      | _ => none

/-- Read the items of a sequence that is not indented, which ends where no item follows. -/
def sameColumnItems? (handles : List (String × String)) :
    Nat → List Node → Parsing → Option (List Node × Parsing)
  | 0, _, _ => none
  | fuel + 1, acc, state =>
      match state.tokens with
      | .blockEntry :: rest => do
          let state := state.withTokens rest
          if endsBlockItem rest || endsBlockPart rest then
            sameColumnItems? handles fuel (.empty :: acc) state
          else do
            let (item, state) ← node? handles fuel true false state
            sameColumnItems? handles fuel (item :: acc) state
      | _ => some (acc.reverse, state)

/-- Read the entries of a block mapping up to its end. -/
def blockEntries? (handles : List (String × String)) :
    Nat → List (Node × Node) → Parsing → Option (List (Node × Node) × Parsing)
  | 0, _, _ => none
  | fuel + 1, acc, state =>
      match state.tokens with
      | .blockEnd :: rest => some (acc.reverse, state.withTokens rest)
      | .key :: rest => do
          let (key, state) ← blockPart? handles fuel (state.withTokens rest)
          match state.tokens with
          | .value :: rest => do
              let (value, state) ← blockPart? handles fuel (state.withTokens rest)
              blockEntries? handles fuel ((key, value) :: acc) state
          | _ => blockEntries? handles fuel ((key, .empty) :: acc) state
      | _ => none

/-- Read the key or the value of an entry of a block mapping. -/
def blockPart? (handles : List (String × String)) : Nat → Parsing → Option (Node × Parsing)
  | 0, _ => none
  | fuel + 1, state =>
      if endsBlockPart state.tokens then some (.empty, state)
      else node? handles fuel true true state

/-- Read the items in brackets. -/
def flowItems? (handles : List (String × String)) :
    Nat → Bool → List Node → Parsing → Option (List Node × Parsing)
  | 0, _, _, _ => none
  | fuel + 1, first, acc, state =>
      match state.tokens with
      | .flowSequenceEnd :: rest => some (acc.reverse, state.withTokens rest)
      | tokens => do
          let tokens ← separator? first tokens
          match tokens with
          | .flowSequenceEnd :: rest => pure (acc.reverse, state.withTokens rest)
          | .key :: rest => do
              let (entry, state) ← flowPair? handles fuel (state.withTokens rest)
              flowItems? handles fuel false (.mapping ⟨none, none⟩ [entry] :: acc) state
          | tokens => do
              let (item, state) ← node? handles fuel false false (state.withTokens tokens)
              flowItems? handles fuel false (item :: acc) state

/-- Read an entry that stands in brackets without braces. Where its key is missing, the token after
the mark of the key is passed over. -/
def flowPair? (handles : List (String × String)) :
    Nat → Parsing → Option ((Node × Node) × Parsing)
  | 0, _ => none
  | fuel + 1, state => do
      let (key, state) ←
        if atValue state.tokens || endsFlowItem state.tokens then
          pure (.empty, state.withTokens (state.tokens.drop 1))
        else node? handles fuel false false state
      match state.tokens with
      | .value :: rest =>
          let state := state.withTokens rest
          if endsFlowItem rest then pure ((key, .empty), state)
          else do
            let (value, state) ← node? handles fuel false false state
            pure ((key, value), state)
      | _ => pure ((key, .empty), state)

/-- Read the entries in braces. -/
def flowEntries? (handles : List (String × String)) :
    Nat → Bool → List (Node × Node) → Parsing → Option (List (Node × Node) × Parsing)
  | 0, _, _, _ => none
  | fuel + 1, first, acc, state =>
      match state.tokens with
      | .flowMappingEnd :: rest => some (acc.reverse, state.withTokens rest)
      | tokens => do
          let tokens ← separator? first tokens
          match tokens with
          | .flowMappingEnd :: rest => pure (acc.reverse, state.withTokens rest)
          | .key :: rest => do
              let (entry, state) ← flowEntry? handles fuel (state.withTokens rest)
              flowEntries? handles fuel false (entry :: acc) state
          | tokens => do
              let (key, state) ← node? handles fuel false false (state.withTokens tokens)
              flowEntries? handles fuel false ((key, .empty) :: acc) state

/-- Read an entry in braces after the mark of its key. -/
def flowEntry? (handles : List (String × String)) :
    Nat → Parsing → Option ((Node × Node) × Parsing)
  | 0, _ => none
  | fuel + 1, state => do
      let (key, state) ←
        if atValue state.tokens || endsFlowValue state.tokens then pure (.empty, state)
        else node? handles fuel false false state
      match state.tokens with
      | .value :: rest =>
          let state := state.withTokens rest
          if endsFlowValue rest then pure ((key, .empty), state)
          else do
            let (value, state) ← node? handles fuel false false state
            pure ((key, value), state)
      | _ => pure ((key, .empty), state)

end

end Parsing

/-- A document: its root, none when the text holds nothing. -/
structure Document where
  root : Option Node

namespace Document

/-- The tag of a type that every document knows. -/
def coreTag (name : String) : String :=
  "tag:yaml.org,2002:" ++ name

/-- The handles that need no directive. -/
def coreHandles : List (String × String) :=
  [("!", "!"), ("!!", coreTag "")]

/-- The directives at the start of the tokens: whether a version is given, the handles, and the
tokens after them. Version and handles may be given once, the version is 1.1 or 1.2. -/
def directives? (versioned : Bool) (handles : List (String × String)) :
    List Token → Option (Bool × List (String × String) × List Token)
  | .versionDirective major minor :: rest =>
      if versioned || major ≠ 1 || (minor ≠ 1 && minor ≠ 2) then none
      else directives? true handles rest
  | .tagDirective handle expansion :: rest =>
      if (handles.lookup handle).isSome then none
      else directives? versioned (handles ++ [(handle, expansion)]) rest
  | rest => some (versioned, handles, rest)

/-- Whether the tokens go on with one that ends the content of a document. -/
def endsContent : List Token → Bool
  | [] | .versionDirective _ _ :: _ | .tagDirective _ _ :: _ | .documentStart :: _
  | .documentEnd :: _ => true
  | _ => false

/-- Whether only document end marks are left. -/
def isOver : List Token → Bool
  | .documentEnd :: rest => isOver rest
  | rest => rest.isEmpty

/-- Read the root of a document, after which nothing may follow. -/
def ofRoot? (handles : List (String × String)) (tokens : List Token) : Option Document := do
  let (root, state) ←
    Parsing.node? (handles ++ coreHandles) (4 * tokens.length + 4) true false ⟨tokens, []⟩
  if isOver state.tokens then pure ⟨some root⟩ else none

/-- The only document that tokens describe. -/
def ofTokens? (tokens : List Token) : Option Document := do
  let (versioned, handles, rest) ← directives? false [] tokens
  match rest with
  | .documentStart :: rest =>
      if endsContent rest then
        if isOver rest then pure ⟨some .empty⟩ else none
      else ofRoot? handles rest
  | [] => if versioned || !handles.isEmpty then none else pure ⟨none⟩
  | rest => if versioned || !handles.isEmpty then none else ofRoot? [] rest

end Document

end SchemaGraph.Yaml
