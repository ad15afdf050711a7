import TokenSync.Yaml.Token

/-!
# Nodes

The one document of a YAML text as a tree of scalars, sequences and mappings. An alias refers to an
anchored node by a number. The number of an anchor is the count of different names before it, so
names that are used again can share one; the last node with a number is the one it refers to. Nodes
are built by the grammar of `yaml_parser_parse` and numbered as the loader of `serde_yaml` does it.
-/
namespace TokenSync.Yaml

/-- What may precede the content of a node. -/
structure Properties where
  anchor : Option (List Char)
  tag : Option Octets
deriving DecidableEq, Repr

/-- A node whose aliases refer to other nodes in some way. -/
inductive Node (ρ : Type) where
  | alias (ref : ρ)
  | scalar (properties : Properties) (text : List Char) (style : Style)
  | sequence (properties : Properties) (items : List (Node ρ))
  | mapping (properties : Properties) (entries : List (Node ρ × Node ρ))
deriving Inhabited

namespace Node

/-- A node whose aliases are names. -/
abbrev Named := Node (List Char)

/-! ## Nodes of tokens -/

/-- What is written and left out: an empty plain scalar. -/
def nothing : Named := .scalar ⟨none, none⟩ [] .plain

/-- What the handles of tags stand for. -/
abbrev Handles := List (List Char × Octets)

/-- The octets of a tag with a handle; a handle without meaning is refused. -/
def resolveTag? (handles : Handles) (handle : List Char) (suffix : Octets) : Option Octets :=
  if handle.isEmpty then some suffix else (handles.lookup handle).map (· ++ suffix)

/-- An anchor and a tag in either order, and the tokens after them. -/
def properties? (handles : Handles) : List Token → Option (Properties × List Token)
  | .anchor name :: .tag handle suffix :: rest => do
    some (⟨some name, ← resolveTag? handles handle suffix⟩, rest)
  | .tag handle suffix :: .anchor name :: rest => do
    some (⟨some name, ← resolveTag? handles handle suffix⟩, rest)
  | .anchor name :: rest => some (⟨some name, none⟩, rest)
  | .tag handle suffix :: rest => do some (⟨none, ← resolveTag? handles handle suffix⟩, rest)
  | rest => some (⟨none, none⟩, rest)

/-- A scalar; a lone exclamation mark is no tag for one that is written. -/
def written (p : Properties) (text : List Char) (style : Style) : Named :=
  .scalar (if p.tag = some (octetsOf ['!']) then { p with tag := none } else p) text style

/-- Whether an item of a sequence without indentation of its own is left out. -/
def endsLooseItem : List Token → Bool
  | .blockEntry :: _ | .key :: _ | .value :: _ | .blockEnd :: _ => true
  | _ => false

/-- Whether an item of a block sequence is left out. -/
def endsItem : List Token → Bool
  | .blockEntry :: _ | .blockEnd :: _ => true
  | _ => false

/-- Whether a key or a value of a block mapping is left out. -/
def endsPair : List Token → Bool
  | .key :: _ | .value :: _ | .blockEnd :: _ => true
  | _ => false

/-- Whether the key of a pair in a flow sequence is left out. -/
def endsSingleKey : List Token → Bool
  | .value :: _ | .flowEntry :: _ | .closeSequence :: _ => true
  | _ => false

/-- Whether the value of a pair in a flow sequence is left out. -/
def endsSingleValue : List Token → Bool
  | .flowEntry :: _ | .closeSequence :: _ => true
  | _ => false

/-- Whether the key of a pair in a flow mapping is left out. -/
def endsFlowKey : List Token → Bool
  | .value :: _ | .flowEntry :: _ | .closeMapping :: _ => true
  | _ => false

/-- Whether the value of a pair in a flow mapping is left out. -/
def endsFlowValue : List Token → Bool
  | .flowEntry :: _ | .closeMapping :: _ => true
  | _ => false

mutual
/-- The node that tokens start with, and the tokens after it. Block collections are looked for only
outside flow collections, and a sequence without indentation of its own only in block mappings. The
first argument bounds the number of steps. -/
def ofTokens (handles : Handles) : Nat → Bool → Bool → List Token → Option (Named × List Token)
  | 0, _, _, _ => none
  | _ + 1, _, _, .alias name :: rest => some (.alias name, rest)
  | steps + 1, inBlock, loose, tokens => do
    let (p, tokens) ← properties? handles tokens
    match tokens with
    | .scalar text style :: rest => some (written p text style, rest)
    | .openSequence :: rest =>
      let (items, rest) ← flowItems handles steps true rest
      some (.sequence p items, rest)
    | .openMapping :: rest =>
      let (entries, rest) ← flowPairs handles steps true rest
      some (.mapping p entries, rest)
    | .blockEntry :: _ =>
      if loose then
        let (items, rest) ← looseItems handles steps tokens
        some (.sequence p items, rest)
      else bare p tokens
    | .blockSequence :: rest =>
      if inBlock then
        let (items, rest) ← blockItems handles steps rest
        some (.sequence p items, rest)
      else bare p tokens
    | .blockMapping :: rest =>
      if inBlock then
        let (entries, rest) ← blockPairs handles steps rest
        some (.mapping p entries, rest)
      else bare p tokens
    | _ => bare p tokens

/-- A node that has properties but no content. -/
def bare (p : Properties) (tokens : List Token) : Option (Named × List Token) :=
  if p.anchor.isSome || p.tag.isSome then some (.scalar p [] .plain, tokens) else none

/-- The items of a sequence without indentation of its own. -/
def looseItems (handles : Handles) : Nat → List Token → Option (List Named × List Token)
  | 0, _ => none
  | steps + 1, .blockEntry :: rest => do
    let (item, rest) ←
      if endsLooseItem rest then some (nothing, rest) else ofTokens handles steps true false rest
    let (items, rest) ← looseItems handles steps rest
    some (item :: items, rest)
  | _ + 1, rest => some ([], rest)

/-- The items of a block sequence up to its end. -/
def blockItems (handles : Handles) : Nat → List Token → Option (List Named × List Token)
  | 0, _ => none
  | steps + 1, .blockEntry :: rest => do
    let (item, rest) ←
      if endsItem rest then some (nothing, rest) else ofTokens handles steps true false rest
    let (items, rest) ← blockItems handles steps rest
    some (item :: items, rest)
  | _ + 1, .blockEnd :: rest => some ([], rest)
  | _ + 1, _ => none

/-- The pairs of a block mapping up to its end; the value may be left out with its colon. -/
def blockPairs (handles : Handles) : Nat → List Token → Option (List (Named × Named) × List Token)
  | 0, _ => none
  | steps + 1, .key :: rest => do
    let (key, rest) ←
      if endsPair rest then some (nothing, rest) else ofTokens handles steps true true rest
    let (value, rest) ← match rest with
      | .value :: rest =>
        if endsPair rest then some (nothing, rest) else ofTokens handles steps true true rest
      | rest => some (nothing, rest)
    let (pairs, rest) ← blockPairs handles steps rest
    some ((key, value) :: pairs, rest)
  | _ + 1, .blockEnd :: rest => some ([], rest)
  | _ + 1, _ => none

/-- The items of a flow sequence up to its bracket. Every item but the first follows a comma, and a
comma may stand before the bracket. An item with a key is a mapping of one pair. -/
def flowItems (handles : Handles) : Nat → Bool → List Token → Option (List Named × List Token)
  | 0, _, _ => none
  | _ + 1, _, .closeSequence :: rest => some ([], rest)
  | steps + 1, first, tokens => do
    let tokens ←
      if first then some tokens
      else
        match tokens with
        | .flowEntry :: rest => some rest
        | _ => none
    match tokens with
    | .closeSequence :: rest => some ([], rest)
    | .key :: rest =>
      let (key, rest) ←
        if endsSingleKey rest then some (nothing, rest.drop 1)
        else ofTokens handles steps false false rest
      let (value, rest) ← match rest with
        | .value :: rest =>
          if endsSingleValue rest then some (nothing, rest)
          else ofTokens handles steps false false rest
        | rest => some (nothing, rest)
      let (items, rest) ← flowItems handles steps false rest
      some (.mapping ⟨none, none⟩ [(key, value)] :: items, rest)
    | tokens =>
      let (item, rest) ← ofTokens handles steps false false tokens
      let (items, rest) ← flowItems handles steps false rest
      some (item :: items, rest)

/-- The pairs of a flow mapping up to its brace. Every pair but the first follows a comma, and a
comma may stand before the brace. A node without a key is one with its value left out. -/
def flowPairs (handles : Handles) :
    Nat → Bool → List Token → Option (List (Named × Named) × List Token)
  | 0, _, _ => none
  | _ + 1, _, .closeMapping :: rest => some ([], rest)
  | steps + 1, first, tokens => do
    let tokens ←
      if first then some tokens
      else
        match tokens with
        | .flowEntry :: rest => some rest
        | _ => none
    match tokens with
    | .closeMapping :: rest => some ([], rest)
    | .key :: rest =>
      let (key, rest) ←
        if endsFlowKey rest then some (nothing, rest) else ofTokens handles steps false false rest
      let (value, rest) ← match rest with
        | .value :: rest =>
          if endsFlowValue rest then some (nothing, rest)
          else ofTokens handles steps false false rest
        | rest => some (nothing, rest)
      let (pairs, rest) ← flowPairs handles steps false rest
      some ((key, value) :: pairs, rest)
    | tokens =>
      let (key, rest) ← ofTokens handles steps false false tokens
      let (pairs, rest) ← flowPairs handles steps false rest
      some ((key, nothing) :: pairs, rest)
end

/-! ## The document -/

/-- What the handles of tags stand for unless a directive says otherwise. -/
def standardHandles : Handles :=
  [(['!'], octetsOf ['!']), (['!', '!'], octetsOf "tag:yaml.org,2002:".toList)]

/-- The directives before a document: what the handles of tags stand for, and the tokens after
them. There is at most one version and one meaning for a handle. -/
def directives? (versioned : Bool) (handles : Handles) :
    List Token → Option (Handles × List Token)
  | .versionDirective major minor :: rest =>
    if versioned || major ≠ 1 || (minor ≠ 1 && minor ≠ 2) then none
    else directives? true handles rest
  | .tagDirective handle meaning :: rest =>
    if (handles.lookup handle).isSome then none
    else directives? versioned (handles ++ [(handle, meaning)]) rest
  | rest => some (handles ++ standardHandles, rest)

/-- Whether tokens begin with what can only precede or follow a document. -/
def endsDocument : List Token → Bool
  | [] => true
  | .versionDirective _ _ :: _ | .tagDirective _ _ :: _ | .documentStart :: _
  | .documentEnd :: _ => true
  | _ => false

/-- The content of a document and the tokens after it. -/
def content? (tokens : List Token) : Option (Named × List Token) :=
  let steps := 2 * tokens.length + 2
  match tokens with
  | .versionDirective _ _ :: _ | .tagDirective _ _ :: _ | .documentStart :: _ => do
    let (handles, rest) ← directives? false [] tokens
    match rest with
    | .documentStart :: rest =>
      if endsDocument rest then some (nothing, rest) else ofTokens handles steps true false rest
    | _ => none
  | [] => none
  | _ => ofTokens standardHandles steps true false tokens

/-- The one document of a text. -/
def document? (tokens : List Token) : Option Named := do
  let (node, rest) ← content? tokens
  if rest.all (· == .documentEnd) then some node else none

/-! ## Aliases -/

/-- Names of anchors with their numbers, the newest first. -/
abbrev Anchors := List (List Char × Nat)

/-- The number of different names. -/
def distinct (anchors : Anchors) : Nat := (anchors.map Prod.fst).eraseDups.length

/-- The names with one more, and its number. -/
def addAnchor (anchors : Anchors) : Option (List Char) → Anchors × Option Nat
  | none => (anchors, none)
  | some name => ((name, distinct anchors) :: anchors, some (distinct anchors))

/-- A node whose aliases are numbers. -/
abbrev Numbered := Node Nat

/-- Anchored nodes by their numbers, in the order in which they begin. -/
abbrev Targets := List (Nat × Numbered)

/-- The entry of a node that is anchored. -/
def target (number : Option Nat) (node : Numbered) : Targets :=
  match number with
  | some n => [(n, node)]
  | none => []

mutual
/-- Numbers the aliases of a node: the node, the anchored nodes in it, and the names known after it.
An alias without an anchor before it is refused. -/
def number (anchors : Anchors) : Named → Option (Numbered × Targets × Anchors)
  | .alias name => do some (.alias (← anchors.lookup name), [], anchors)
  | .scalar p text style =>
    let (anchors, n) := addAnchor anchors p.anchor
    let node := .scalar p text style
    some (node, target n node, anchors)
  | .sequence p items => do
    let (anchors, n) := addAnchor anchors p.anchor
    let (items, targets, anchors) ← numberItems anchors items
    let node := .sequence p items
    some (node, target n node ++ targets, anchors)
  | .mapping p entries => do
    let (anchors, n) := addAnchor anchors p.anchor
    let (entries, targets, anchors) ← numberEntries anchors entries
    let node := .mapping p entries
    some (node, target n node ++ targets, anchors)
termination_by structural node => node

/-- Numbers the aliases of items. -/
def numberItems (anchors : Anchors) : List Named → Option (List Numbered × Targets × Anchors)
  | [] => some ([], [], anchors)
  | item :: rest => do
    let (item, targets, anchors) ← number anchors item
    let (items, more, anchors) ← numberItems anchors rest
    some (item :: items, targets ++ more, anchors)
termination_by structural items => items

/-- Numbers the aliases of entries. -/
def numberEntries (anchors : Anchors) :
    List (Named × Named) → Option (List (Numbered × Numbered) × Targets × Anchors)
  | [] => some ([], [], anchors)
  | (key, value) :: rest => do
    let (key, targets, anchors) ← number anchors key
    let (value, more, anchors) ← number anchors value
    let (entries, others, anchors) ← numberEntries anchors rest
    some ((key, value) :: entries, targets ++ more ++ others, anchors)
termination_by structural entries => entries
end

mutual
/-- The number of scalars, aliases and ends of collections in a node. -/
def weight : Node ρ → Nat
  | .alias _ | .scalar _ _ _ => 1
  | .sequence _ items => weightOfItems items + 2
  | .mapping _ entries => weightOfEntries entries + 2
termination_by structural node => node

/-- The same for items. -/
def weightOfItems : List (Node ρ) → Nat
  | [] => 0
  | item :: rest => weight item + weightOfItems rest
termination_by structural items => items

/-- The same for entries. -/
def weightOfEntries : List (Node ρ × Node ρ) → Nat
  | [] => 0
  | (key, value) :: rest => weight key + weight value + weightOfEntries rest
termination_by structural entries => entries
end

end Node

/-- The one document of a text with what its aliases refer to. -/
structure Document where
  root : Node.Numbered
  /-- Anchored nodes by their numbers; of several with one number the first counts. -/
  targets : Node.Targets
  /-- The number of parts of the document. -/
  weight : Nat

/-- The document of a text, if the text is YAML and has exactly one. -/
def Document.ofText? (text : String) : Option Document := do
  let tokens ← Token.ofText? text
  let named ← Node.document? tokens
  let (root, targets, _) ← Node.number [] named
  some ⟨root, targets.reverse, root.weight⟩

/-- The node a number refers to. -/
def Document.target? (document : Document) (number : Nat) : Option Node.Numbered :=
  document.targets.lookup number

end TokenSync.Yaml
