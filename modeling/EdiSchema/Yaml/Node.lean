import EdiSchema.Yaml.Token

/-!
# YAML nodes

`parse` reads a YAML text as one document: a tree of scalars, sequences and mappings. As with JSON,
a text that stops being YAML somewhere still gives a tree, in which the collections that were open
at that place are marked as not closed. An empty text has no root, whereas a document that is only
started has an empty plain scalar as its root.

An alias is replaced by the node that was anchored under its name before it.
-/

namespace EdiSchema.Yaml

/-- A node, as far as it could be read. -/
inductive Node
  | scalar (tag : Option String) (isPlain : Bool) (text : String)
  | sequence (tag : Option String) (items : List Node) (closed : Bool)
  | mapping (tag : Option String) (entries : List (Node × Node)) (closed : Bool)
  /-- Here the text is no longer YAML. -/
  | broken
  deriving Inhabited

/-- A document: its root, and whether the text ends with it. -/
structure Document where
  root : Option Node
  ended : Bool

/-- What a tag with one exclamation mark names. -/
def localTag? (tag : Option String) : Option String :=
  tag.bind fun t =>
    match t.toList with
    | '!' :: name => some (String.ofList name)
    | _ => none

/-- The tag of a scalar that is written out. A single exclamation mark is none. -/
def scalarTag (tag : Option String) : Option String := tag.filter (· ≠ "!")

/-- Whether a scalar stands for nothing. -/
def isNull (isPlain : Bool) (text : String) : Bool :=
  isPlain && ["", "~", "null", "Null", "NULL"].contains text

/-! ## Reading nodes -/

/-- The tokens ahead, and the nodes that have been anchored, the latest first. -/
structure Reader where
  tokens : List Token
  anchors : List (String × Node) := []

/-- A node with what is ahead of it, which is nothing where the text broke off. -/
abbrev Read := Node × Option Reader

/-- The empty scalar. -/
def emptyScalar (tag : Option String) : Node := .scalar tag true ""

/-- What stands before a node. -/
structure Properties where
  anchor : Option String := none
  tag : Option String := none

/-- Reads at most one anchor and one tag. -/
def properties : List Token → Properties × List Token
  | .anchor a :: .tag t :: rest => ({ anchor := a, tag := t }, rest)
  | .tag t :: .anchor a :: rest => ({ anchor := a, tag := t }, rest)
  | .anchor a :: rest => ({ anchor := a }, rest)
  | .tag t :: rest => ({ tag := t }, rest)
  | rest => ({}, rest)

/-- Anchors a node that has been read. -/
def Properties.note (p : Properties) (r : Read) : Read :=
  match p.anchor, r.2 with
  | some name, some reader =>
    (r.1, some { reader with anchors := (name, r.1) :: reader.anchors })
  | _, _ => r

/-- Whether an item of a block sequence is left out. -/
def noBlockItem : List Token → Bool
  | .blockEntry :: _ => true
  | .blockEnd :: _ => true
  | _ => false

/-- Whether a key or value of a block mapping is left out. -/
def noBlockPart : List Token → Bool
  | .key :: _ => true
  | .value :: _ => true
  | .blockEnd :: _ => true
  | _ => false

/-- Whether a value inside brackets is left out. -/
def noFlowValue (closing : Token) : List Token → Bool
  | .flowEntry :: _ => true
  | t :: _ => t = closing
  | [] => false

/-- Whether a key inside brackets is left out. -/
def noFlowKey (closing : Token) : List Token → Bool
  | .value :: _ => true
  | ts => noFlowValue closing ts

/-- The items of a collection with what is ahead of it. -/
abbrev ReadItems (α : Type) := List α × Option Reader

/-- Puts an item in front. -/
def ReadItems.cons {α : Type} (a : α) (r : ReadItems α) : ReadItems α := (a :: r.1, r.2)

/-- After an anchor or a tag nothing has to stand. -/
def orEmpty (p : Properties) (r : Reader) : Read :=
  if p.anchor.isSome || p.tag.isSome then (emptyScalar p.tag, some r) else (.broken, none)

/-- Reads a node that may be left out. -/
def readUnless (missing : Bool) (read : Reader → Read) (r : Reader) : Read :=
  if missing then (emptyScalar none, some r) else read r

/-- Reads the value that goes with a key. -/
def readValue (missing : List Token → Bool) (read : Reader → Read) (r : Reader) : Read :=
  match r.tokens with
  | .value :: rest => readUnless (missing rest) read { r with tokens := rest }
  | _ => (emptyScalar none, some r)

/-- Reads a pair behind the token that announces its key. -/
def readPair (noKey noValue : List Token → Bool) (read : Reader → Read) (r : Reader) :
    (Node × Node) × Option Reader :=
  match readUnless (noKey r.tokens) read r with
  | (key, none) => ((key, .broken), none)
  | (key, some r) =>
    let value := readValue noValue read r
    ((key, value.1), value.2)

/-- The tokens behind the comma that has to stand before all but the first item, unless the
brackets close. -/
def afterComma (first : Bool) (closing : Token) : List Token → Option (List Token)
  | .flowEntry :: rest => if first then some (.flowEntry :: rest) else some rest
  | t :: rest => if first || t = closing then some (t :: rest) else none
  | [] => none

mutual

/-- Reads a node. `block` says whether it may be a block collection, `indentless` whether it may be
a sequence that is not set in. -/
def readNode : Nat → (block indentless : Bool) → Reader → Read
  | 0, _, _, _ => (.broken, none)
  | fuel + 1, block, indentless, r =>
    match r.tokens with
    | .alias name :: rest =>
      match r.anchors.lookup name with
      | some node => (node, some { r with tokens := rest })
      | none => (.broken, none)
    | _ =>
      let (p, ts) := properties r.tokens
      p.note <|
        match ts with
        | .scalar plain text :: rest =>
          (.scalar (scalarTag p.tag) plain text, some { r with tokens := rest })
        | .flowSequenceStart :: rest =>
          let items := readFlowItems fuel true { r with tokens := rest }
          (.sequence p.tag items.1 items.2.isSome, items.2)
        | .flowMappingStart :: rest =>
          let entries := readFlowEntries fuel true { r with tokens := rest }
          (.mapping p.tag entries.1 entries.2.isSome, entries.2)
        | .blockEntry :: _ =>
          if indentless then
            let items := readBlockItems fuel true { r with tokens := ts }
            (.sequence p.tag items.1 items.2.isSome, items.2)
          else orEmpty p { r with tokens := ts }
        | .blockSequenceStart :: rest =>
          if block then
            let items := readBlockItems fuel false { r with tokens := rest }
            (.sequence p.tag items.1 items.2.isSome, items.2)
          else orEmpty p { r with tokens := ts }
        | .blockMappingStart :: rest =>
          if block then
            let entries := readBlockEntries fuel { r with tokens := rest }
            (.mapping p.tag entries.1 entries.2.isSome, entries.2)
          else orEmpty p { r with tokens := ts }
        | _ => orEmpty p { r with tokens := ts }

/-- Reads the items of a block sequence; one that is not set in ends with the last of them. -/
def readBlockItems : Nat → (indentless : Bool) → Reader → ReadItems Node
  | 0, _, _ => ([], none)
  | fuel + 1, indentless, r =>
    match r.tokens with
    | .blockEntry :: rest =>
      let missing := noBlockItem rest || (indentless && noBlockPart rest)
      match readUnless missing (readNode fuel true false) { r with tokens := rest } with
      | (item, some r) => .cons item (readBlockItems fuel indentless r)
      | (item, none) => ([item], none)
    | .blockEnd :: rest => ([], some { r with tokens := if indentless then r.tokens else rest })
    | _ => ([], if indentless then some r else none)

/-- Reads the entries of a block mapping. -/
def readBlockEntries : Nat → Reader → ReadItems (Node × Node)
  | 0, _ => ([], none)
  | fuel + 1, r =>
    match r.tokens with
    | .key :: rest =>
      match readPair noBlockPart noBlockPart (readNode fuel true true) { r with tokens := rest } with
      | (entry, none) => ([entry], none)
      | (entry, some r) => .cons entry (readBlockEntries fuel r)
    | .blockEnd :: rest => ([], some { r with tokens := rest })
    | _ => ([], none)

/-- Reads the items of a sequence in brackets; `first` says whether none has been read. -/
def readFlowItems : Nat → (first : Bool) → Reader → ReadItems Node
  | 0, _, _ => ([], none)
  | fuel + 1, first, r =>
    match afterComma first .flowSequenceEnd r.tokens with
    | none => ([], none)
    | some (.flowSequenceEnd :: rest) => ([], some { r with tokens := rest })
    | some (.key :: rest) =>
      match readPair (noFlowKey .flowSequenceEnd) (noFlowValue .flowSequenceEnd)
          (readNode fuel false false) { r with tokens := rest } with
      | (entry, none) => ([.mapping none [entry] false], none)
      | (entry, some r) => .cons (.mapping none [entry] true) (readFlowItems fuel false r)
    | some ts =>
      match readNode fuel false false { r with tokens := ts } with
      | (item, none) => ([item], none)
      | (item, some r) => .cons item (readFlowItems fuel false r)

/-- Reads the entries of a mapping in braces; `first` says whether none has been read. -/
def readFlowEntries : Nat → (first : Bool) → Reader → ReadItems (Node × Node)
  | 0, _, _ => ([], none)
  | fuel + 1, first, r =>
    match afterComma first .flowMappingEnd r.tokens with
    | none => ([], none)
    | some (.flowMappingEnd :: rest) => ([], some { r with tokens := rest })
    | some (.key :: rest) =>
      match readPair (noFlowKey .flowMappingEnd) (noFlowValue .flowMappingEnd)
          (readNode fuel false false) { r with tokens := rest } with
      | (entry, none) => ([entry], none)
      | (entry, some r) => .cons entry (readFlowEntries fuel false r)
    | some ts =>
      match readNode fuel false false { r with tokens := ts } with
      | (key, none) => ([(key, .broken)], none)
      | (key, some r) => .cons (key, emptyScalar none) (readFlowEntries fuel false r)

end

/-! ## Reading documents -/

/-- Whether a document that has been started has no content. -/
def isEmptyContent : List Token → Bool
  | [] => true
  | .versionDirective :: _ => true
  | .documentStart :: _ => true
  | .documentEnd :: _ => true
  | _ => false

/-- Reads the content of a document. Every call takes a token or is the last of a collection, so
three calls for each token are enough. -/
def readContent (ts : List Token) : Document :=
  match readNode (3 * ts.length + 3) true false { tokens := ts } with
  | (root, none) => ⟨some root, false⟩
  | (root, some r) => ⟨some root, (r.tokens.dropWhile (· == .documentEnd)).isEmpty⟩

/-- Reads a document that is started by a marker, after at most one directive. -/
def readStarted : List Token → Document
  | .documentStart :: rest =>
    if isEmptyContent rest then
      ⟨some (emptyScalar none), (rest.dropWhile (· == .documentEnd)).isEmpty⟩
    else readContent rest
  | _ => ⟨some .broken, false⟩

/-- Reads a text as one document. -/
def parse (s : String) : Document :=
  match tokens s.toList with
  | [] => ⟨none, true⟩
  | .versionDirective :: rest => readStarted rest
  | .documentStart :: rest => readStarted (.documentStart :: rest)
  | ts => readContent ts

end EdiSchema.Yaml
