import EdiSchema.Yaml.BlockScalar

/-!
# The tokens of YAML

`tokens` cuts a YAML text into tokens. Besides what stands in the text, the row of tokens says where
the block collections start and end that indentation alone shows. Where the text is not well formed
the row ends in `Token.broken`.

That a scalar or a bracket starts a key shows only at the colon behind it, on the same line. Until
then it is held back, as a *possible key*, and when the colon comes, the tokens that announce a key
are put in front of it. What is held back when the text turns out to be broken is lost.
-/

namespace EdiSchema.Yaml

/-- A token. -/
inductive Token
  /-- A directive for the version of the language. -/
  | versionDirective
  | documentStart
  | documentEnd
  | blockSequenceStart
  | blockMappingStart
  | blockEnd
  | flowSequenceStart
  | flowSequenceEnd
  | flowMappingStart
  | flowMappingEnd
  | blockEntry
  | flowEntry
  | key
  | value
  | alias (name : String)
  | anchor (name : String)
  | tag (name : String)
  | scalar (isPlain : Bool) (text : String)
  /-- Here the text is no longer YAML. -/
  | broken
  deriving DecidableEq, Repr

/-- A token that may turn out to start a key. -/
structure PossibleKey where
  /-- The number of tokens before it. -/
  position : Nat
  line : Nat
  column : Nat
  offset : Nat
  /-- Whether nothing else than a key may stand here. -/
  required : Bool

/-- The state of the scanner. -/
structure Scanner where
  place : Place
  /-- The column of the innermost block collection, or -1 outside all of them. -/
  indent : Int := -1
  /-- The columns of the block collections around it. -/
  outer : List Int := []
  /-- The number of brackets open. -/
  flow : Nat := 0
  /-- Whether a key may start here. -/
  keyAllowed : Bool := true
  /-- The possible key at each depth of brackets, the innermost first. -/
  keys : List (Option PossibleKey) := [none]
  tokens : List Token := []

namespace Scanner

/-! ## Possible keys -/

/-- Whether a key cannot reach as far as the current place. -/
def isStale (s : Scanner) (k : PossibleKey) : Bool :=
  k.line < s.place.line || k.offset + 1024 < s.place.offset

/-- Gives up keys that cannot reach the current place. -/
def dropStale (s : Scanner) : Option Scanner :=
  if s.keys.any fun k => k.any fun k => s.isStale k && k.required then none
  else some { s with keys := s.keys.map fun k => k.filter fun k => !s.isStale k }

/-- Gives up the key at the current depth. -/
def dropKey (s : Scanner) : Option Scanner :=
  match s.keys with
  | some k :: rest => if k.required then none else some { s with keys := none :: rest }
  | _ => some s

/-- Notes that the next token may start a key. -/
def saveKey (s : Scanner) : Option Scanner :=
  if s.keyAllowed then
    s.dropKey.map fun s =>
      { s with
        keys := some {
          position := s.tokens.length
          line := s.place.line
          column := s.place.column
          offset := s.place.offset
          required := s.flow == 0 && s.indent == s.place.column } :: s.keys.drop 1 }
  else some s

/-- The tokens that are not held back. -/
def released (s : Scanner) : List Token :=
  let held := s.keys.filterMap fun k =>
    k.bind fun k => if s.isStale k && !k.required then none else some k.position
  s.tokens.take (held.foldl Nat.min s.tokens.length)

/-! ## Indentation -/

def emit (s : Scanner) (t : Token) : Scanner := { s with tokens := s.tokens ++ [t] }

/-- Closes the block collections that stand further to the right than a column. -/
def unrollFrom (column : Int) : Int → List Int → List Token × Int × List Int
  | indent, [] => ([], indent, [])
  | indent, i :: rest =>
    if column < indent then
      let r := unrollFrom column i rest
      (.blockEnd :: r.1, r.2)
    else ([], indent, i :: rest)

def unroll (s : Scanner) (column : Int) : Scanner :=
  if 0 < s.flow then s
  else
    let r := unrollFrom column s.indent s.outer
    { s with tokens := s.tokens ++ r.1, indent := r.2.1, outer := r.2.2 }

/-- Opens a block collection at a column, unless one is open there; its start goes in front of the
token at `position`. -/
def roll (s : Scanner) (column : Nat) (position : Nat) (start : Token) : Scanner :=
  if s.flow == 0 && s.indent < column then
    { s with
      tokens := s.tokens.take position ++ start :: s.tokens.drop position
      outer := s.indent :: s.outer
      indent := column }
  else s

/-! ## Between tokens -/

/-- Passes over blanks, comments, line ends, and a byte order mark at the start of a line. A line
end outside brackets allows a key. -/
def skipGap (inFlow : Bool) :
    (comment keyAllowed : Bool) → (line column offset : Nat) → List Char → Place × Bool
  | _, keyAllowed, line, column, offset, [] => (⟨[], line, column, offset⟩, keyAllowed)
  | comment, keyAllowed, line, column, offset, c :: rest =>
    if c = '\r' && rest.head? = some '\n' then
      skipGap inFlow comment keyAllowed line (column + 1) (offset + 1) rest
    else if isBreak c then
      skipGap inFlow false (keyAllowed || !inFlow) (line + 1) 0 (offset + 1) rest
    else if comment || c = ' ' || (c = '\t' && (inFlow || !keyAllowed)) ||
        (c = '\ufeff' && column = 0) then
      skipGap inFlow comment keyAllowed line (column + 1) (offset + 1) rest
    else if c = '#' then skipGap inFlow true keyAllowed line (column + 1) (offset + 1) rest
    else (⟨c :: rest, line, column, offset⟩, keyAllowed)

/-- Goes to the next token. -/
def approach (s : Scanner) : Option Scanner :=
  let p := s.place
  let r := skipGap (0 < s.flow) false s.keyAllowed p.line p.column p.offset p.rest
  let s := { s with place := r.1, keyAllowed := r.2 }
  s.dropStale.map fun s => s.unroll s.place.column

/-! ## Tokens of one kind each -/

/-- A marker at the start or the end of a document. -/
def fetchDocumentMarker (s : Scanner) (t : Token) : Option Scanner :=
  (s.unroll (-1)).dropKey.map fun s =>
    { s.emit t with keyAllowed := false, place := s.place.skip 3 }

/-- Whether a version is one of the language. -/
def isVersion (cs : List Char) : Bool := cs = ['1', '.', '1'] || cs = ['1', '.', '2']

/-- A directive. Only the one for the version is known. -/
def fetchDirective (s : Scanner) : Option Scanner := do
  let s ← (s.unroll (-1)).dropKey
  if s.place.rest.take 5 = ['%', 'Y', 'A', 'M', 'L'] then
    let p := ((s.place.skip 5).takeWhile isBlank).2
    let (version, p) := p.takeWhile fun c => c.isDigit || c = '.'
    let p := (p.takeWhile isBlank).2
    let p := if p.rest.head? = some '#' then (p.takeWhile (!isBreak ·)).2 else p
    if isVersion version && p.rest.head?.all isBreak then
      some { s.emit .versionDirective with keyAllowed := false, place := p }
    else none
  else none

/-- An opening bracket. -/
def fetchFlowStart (s : Scanner) (t : Token) : Option Scanner :=
  s.saveKey.map fun s =>
    { s.emit t with
      keys := none :: s.keys, flow := s.flow + 1, keyAllowed := true, place := s.place.next }

/-- A closing bracket. -/
def fetchFlowEnd (s : Scanner) (t : Token) : Option Scanner :=
  s.dropKey.map fun s =>
    { s.emit t with
      keys := if 0 < s.flow then s.keys.drop 1 else s.keys
      flow := s.flow - 1
      keyAllowed := false
      place := s.place.next }

/-- A comma. -/
def fetchFlowEntry (s : Scanner) : Option Scanner :=
  s.dropKey.map fun s => { s.emit .flowEntry with keyAllowed := true, place := s.place.next }

/-- A dash before an item. -/
def fetchBlockEntry (s : Scanner) : Option Scanner :=
  if s.flow == 0 && !s.keyAllowed then none
  else
    let s := s.roll s.place.column s.tokens.length .blockSequenceStart
    s.dropKey.map fun s => { s.emit .blockEntry with keyAllowed := true, place := s.place.next }

/-- A question mark before a key. -/
def fetchKey (s : Scanner) : Option Scanner :=
  if s.flow == 0 && !s.keyAllowed then none
  else
    let s := s.roll s.place.column s.tokens.length .blockMappingStart
    s.dropKey.map fun s => { s.emit .key with keyAllowed := s.flow == 0, place := s.place.next }

/-- A colon. It makes a key of the possible key, if there is one. -/
def fetchValue (s : Scanner) : Option Scanner :=
  match s.keys with
  | some k :: keys =>
    let s := { s with
      tokens := s.tokens.take k.position ++ Token.key :: s.tokens.drop k.position
      keys := none :: keys }
    let s := s.roll k.column k.position .blockMappingStart
    some { s.emit .value with keyAllowed := false, place := s.place.next }
  | _ =>
    if s.flow == 0 && !s.keyAllowed then none
    else
      let s := s.roll s.place.column s.tokens.length .blockMappingStart
      some { s.emit .value with keyAllowed := s.flow == 0, place := s.place.next }

/-- Whether a character may stand in the name of an anchor. -/
def isNameChar (c : Char) : Bool := c.isAlphanum || c = '_' || c = '-'

/-- Whether the name of an anchor may end here. -/
def endsName (cs : List Char) : Bool :=
  atGap cs || cs.head?.any fun c => ['?', ':', ',', ']', '}', '%', '@', '`'].contains c

/-- An anchor, or an alias that stands for what is anchored. -/
def fetchAnchor (s : Scanner) (make : String → Token) : Option Scanner :=
  s.saveKey.bind fun s =>
    let (name, p) := s.place.next.takeWhile isNameChar
    if name.isEmpty || !endsName p.rest then none
    else some { s.emit (make (String.ofList name)) with keyAllowed := false, place := p }

/-- Whether a character may stand in a tag that is written out. -/
def isUriChar (c : Char) : Bool :=
  isNameChar c ||
    [';', '/', '?', ':', '@', '&', '=', '+', '$', '.', '!', '~', '*', '\'', '(', ')', '%'].contains c

/-- The prefix that two exclamation marks stand for. -/
def coreTag : String := "tag:yaml.org,2002:"

/-- The name that a tag stands for, and the place behind it. -/
def scanTag (p : Place) : Option (String × Place) :=
  match p.next.rest with
  | '<' :: _ =>
    let (name, q) := (p.skip 2).takeWhile fun c => isUriChar c || [',', '[', ']'].contains c
    if name.isEmpty || q.rest.head? ≠ some '>' then none else some (String.ofList name, q.next)
  | '!' :: _ =>
    let (name, q) := (p.skip 2).takeWhile isUriChar
    if name.isEmpty then none else some (coreTag ++ String.ofList name, q)
  | _ =>
    let (name, q) := p.next.takeWhile isUriChar
    if (name.dropWhile isNameChar).head? = some '!' then none
    else some (String.ofList ('!' :: name), q)

/-- A tag. -/
def fetchTag (s : Scanner) : Option Scanner :=
  s.saveKey.bind fun s =>
    (scanTag s.place).bind fun (name, p) =>
      if atGap p.rest || (0 < s.flow && p.rest.head? = some ',') then
        some { s.emit (.tag name) with keyAllowed := false, place := p }
      else none

/-- A scalar between quotes. -/
def fetchQuoted (s : Scanner) (double : Bool) : Option Scanner :=
  s.saveKey.bind fun s =>
    let p := s.place.next
    (scanQuoted double [] {} .plain p.line p.column p.offset p.rest).map fun (text, q) =>
      { s.emit (.scalar false (String.ofList text)) with keyAllowed := false, place := q }

/-- A block scalar. -/
def fetchBlockScalar (s : Scanner) (folded : Bool) : Option Scanner :=
  s.dropKey.bind fun s =>
    (blockScalar folded s.indent s.place.next).map fun (text, p) =>
      { s.emit (.scalar false (String.ofList text)) with keyAllowed := true, place := p }

/-- A plain scalar. -/
def fetchPlain (s : Scanner) : Option Scanner :=
  s.saveKey.bind fun s =>
    let p := s.place
    (scanPlain (0 < s.flow) (s.indent + 1) [] {} false p.line p.column p.offset p.rest).map
      fun r =>
        { s.emit (.scalar true (String.ofList r.text)) with
          keyAllowed := r.endsLine, place := r.place }

/-- The characters that cannot start a plain scalar. -/
def indicators : List Char :=
  ['-', '?', ':', ',', '[', ']', '{', '}', '#', '&', '*', '!', '|', '>', '\'', '"', '%', '@', '`']

/-- Whether a plain scalar may start with a character that the given text follows. -/
def startsPlain (inFlow : Bool) (c : Char) (rest : List Char) : Bool :=
  !(isBlank c || isBreak c || indicators.contains c) ||
    (c = '-' && !rest.head?.any isBlank) ||
    (!inFlow && (c = '?' || c = ':') && !atGap rest)

/-! ## All tokens -/

/-- Takes the token that starts with `c`. -/
def fetch (s : Scanner) (c : Char) (rest : List Char) : Option Scanner :=
  let inFlow := 0 < s.flow
  if s.place.column == 0 && c = '%' then s.fetchDirective
  else if s.place.atMarker '-' then s.fetchDocumentMarker .documentStart
  else if s.place.atMarker '.' then s.fetchDocumentMarker .documentEnd
  else if c = '[' then s.fetchFlowStart .flowSequenceStart
  else if c = '{' then s.fetchFlowStart .flowMappingStart
  else if c = ']' then s.fetchFlowEnd .flowSequenceEnd
  else if c = '}' then s.fetchFlowEnd .flowMappingEnd
  else if c = ',' then s.fetchFlowEntry
  else if c = '-' && atGap rest then s.fetchBlockEntry
  else if c = '?' && (inFlow || atGap rest) then s.fetchKey
  else if c = ':' && (inFlow || atGap rest) then s.fetchValue
  else if c = '*' then s.fetchAnchor .alias
  else if c = '&' then s.fetchAnchor .anchor
  else if c = '!' then s.fetchTag
  else if c = '|' && s.flow == 0 then s.fetchBlockScalar false
  else if c = '>' && s.flow == 0 then s.fetchBlockScalar true
  else if c = '\'' then s.fetchQuoted false
  else if c = '"' then s.fetchQuoted true
  else if startsPlain inFlow c rest then s.fetchPlain
  else none

/-- Ends the row of tokens at the end of the text, where no key can be missing its colon. -/
def finish (s : Scanner) : Option (List Token) :=
  if s.keys.any fun k => k.any (·.required) then none else some (s.unroll (-1)).tokens

/-- Takes tokens up to the end of the text, at most as many as `fuel` says. -/
def scan : Nat → Scanner → List Token
  | 0, s => s.released ++ [.broken]
  | fuel + 1, s =>
    match s.approach with
    | none => s.released ++ [.broken]
    | some near =>
      match near.place.rest with
      | [] => near.finish.getD (s.released ++ [.broken])
      | c :: rest =>
        match near.fetch c rest with
        | none => s.released ++ [.broken]
        | some s' => scan fuel s'

end Scanner

/-- The tokens of a text. Every token but the last takes a character at least. -/
def tokens (cs : List Char) : List Token :=
  if cs.all isAllowed then Scanner.scan (cs.length + 1) { place := .start cs } else [.broken]

end EdiSchema.Yaml
