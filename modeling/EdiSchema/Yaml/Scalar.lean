import EdiSchema.Yaml.Place

/-!
# Scalars

A scalar is written plain, between single or double quotes, or as a block of lines
(`EdiSchema.Yaml.BlockScalar`). Plain and quoted scalars may go over several lines; the line ends
are then folded, one of them to a blank and more than one to one fewer line feeds.

The readers here take a place and give the text of the scalar with the place behind it, or nothing
where the scalar is not well formed.
-/

namespace EdiSchema.Yaml

/-! ## Folding -/

/-- White space that has been met since the last character of a scalar. -/
structure Gap where
  /-- Blanks on the line, in order. -/
  blanks : List Char := []
  /-- Whether a line has ended since. -/
  broken : Bool := false
  /-- The first line end, unless it was escaped. -/
  first : Option Char := none
  /-- The line ends after it. -/
  more : List Char := []

namespace Gap

/-- Adds a line end. -/
def addBreak (g : Gap) (c : Char) : Gap :=
  if g.broken then { g with more := g.more ++ [normalBreak c] }
  else { blanks := [], broken := true, first := some (normalBreak c) }

/-- Adds a blank, which counts on the first line only. -/
def addBlank (g : Gap) (c : Char) : Gap :=
  if g.broken then g else { g with blanks := g.blanks ++ [c] }

/-- What the gap comes to between two characters. -/
def fold (g : Gap) : List Char :=
  if g.broken then
    match g.first with
    | some '\n' => if g.more.isEmpty then [' '] else g.more
    | some c => c :: g.more
    | none => g.more
  else g.blanks

end Gap

/-! ## Plain scalars -/

/-- The characters that end a plain scalar inside brackets. -/
def isFlowIndicator (c : Char) : Bool := c = ',' || c = '[' || c = ']' || c = '{' || c = '}'

/-- A plain scalar that has been read. -/
structure PlainScalar where
  text : List Char
  place : Place
  /-- Whether a line ends between the scalar and the place. -/
  endsLine : Bool

/-- Reads a plain scalar on. `inFlow` says whether it stands inside brackets; lines that are
indented by less than `indent` end it otherwise. `text` is what has been read, `gap` the white space
since, and `inGap` whether there was any. -/
def scanPlain (inFlow : Bool) (indent : Int) (text : List Char) (gap : Gap) (inGap : Bool) :
    (line column offset : Nat) → List Char → Option PlainScalar
  | line, column, offset, [] => some ⟨text, ⟨[], line, column, offset⟩, gap.broken⟩
  | line, column, offset, c :: rest =>
    let done : Option PlainScalar := some ⟨text, ⟨c :: rest, line, column, offset⟩, gap.broken⟩
    if isBlank c then
      if gap.broken && (column : Int) < indent && c = '\t' then none
      else scanPlain inFlow indent text (gap.addBlank c) true line (column + 1) (offset + 1) rest
    else if c = '\r' && rest.head? = some '\n' then
      scanPlain inFlow indent text gap true line (column + 1) (offset + 1) rest
    else if isBreak c then
      scanPlain inFlow indent text (gap.addBreak c) true (line + 1) 0 (offset + 1) rest
    else if inGap && ((!inFlow && (column : Int) < indent) || c = '#' ||
        (⟨c :: rest, line, column, offset⟩ : Place).atDocumentMarker) then done
    else if inFlow && c = ':' && rest.head?.any (fun d => isFlowIndicator d || d = '?') then none
    else if (c = ':' && atGap rest) || (inFlow && isFlowIndicator c) then done
    else
      scanPlain inFlow indent (text ++ gap.fold ++ [c]) {} false line (column + 1) (offset + 1) rest

/-! ## Quoted scalars -/

/-- What an escape letter stands for between double quotes. -/
def escapeLetter? (c : Char) : Option Char :=
  [('0', '\x00'), ('a', '\x07'), ('b', '\x08'), ('t', '\t'), ('\t', '\t'), ('n', '\n'),
   ('v', '\x0b'), ('f', '\x0c'), ('r', '\r'), ('e', '\x1b'), (' ', ' '), ('"', '"'), ('/', '/'),
   ('\\', '\\'), ('N', '\x85'), ('_', '\xa0'), ('L', '\u2028'), ('P', '\u2029')].lookup c

/-- How many hexadecimal digits follow an escape letter. -/
def escapeDigits? (c : Char) : Option Nat := [('x', 2), ('u', 4), ('U', 8)].lookup c

/-- The value of a hexadecimal digit. -/
def hexValue? (c : Char) : Option Nat :=
  if '0' ≤ c ∧ c ≤ '9' then some (c.toNat - 48)
  else if 'a' ≤ c ∧ c ≤ 'f' then some (c.toNat - 87)
  else if 'A' ≤ c ∧ c ≤ 'F' then some (c.toNat - 55)
  else none

/-- Where the reader of a quoted scalar is. -/
inductive QuoteState
  | plain
  /-- After a backslash. -/
  | escape
  /-- Inside the digits of an escape: how many are missing, and their value so far. -/
  | digits (missing value : Nat)
  /-- After a quote between single quotes, which may be the first of two. -/
  | quote

/-- Reads a quoted scalar on, up to and with its closing quote. -/
def scanQuoted (double : Bool) (text : List Char) (gap : Gap) (state : QuoteState) :
    (line column offset : Nat) → List Char → Option (List Char × Place)
  | line, column, offset, [] =>
    match state with
    | .quote => some (text, ⟨[], line, column, offset⟩)
    | _ => none
  | line, column, offset, c :: rest =>
    match state with
    | .escape =>
      if c = '\r' && rest.head? = some '\n' then
        scanQuoted double text gap .escape line (column + 1) (offset + 1) rest
      else if isBreak c then
        scanQuoted double (text ++ gap.fold) { broken := true } .plain (line + 1) 0 (offset + 1) rest
      else
        match escapeLetter? c, escapeDigits? c with
        | some d, _ =>
          scanQuoted double (text ++ gap.fold ++ [d]) {} .plain line (column + 1) (offset + 1) rest
        | none, some n =>
          scanQuoted double (text ++ gap.fold) {} (.digits n 0) line (column + 1) (offset + 1) rest
        | none, none => none
    | .digits missing value =>
      match hexValue? c with
      | none => none
      | some d =>
        let value := value * 16 + d
        if missing ≤ 1 then
          if (0xD800 ≤ value ∧ value ≤ 0xDFFF) ∨ 0x10FFFF < value then none
          else
            scanQuoted double (text ++ [Char.ofNat value]) {} .plain line (column + 1) (offset + 1)
              rest
        else
          scanQuoted double text {} (.digits (missing - 1) value) line (column + 1) (offset + 1) rest
    | .quote =>
      if c = '\'' then
        scanQuoted double (text ++ ['\'']) {} .plain line (column + 1) (offset + 1) rest
      else some (text, ⟨c :: rest, line, column, offset⟩)
    | .plain =>
      if (⟨c :: rest, line, column, offset⟩ : Place).atDocumentMarker then none
      else if isBlank c then
        scanQuoted double text (gap.addBlank c) .plain line (column + 1) (offset + 1) rest
      else if c = '\r' && rest.head? = some '\n' then
        scanQuoted double text gap .plain line (column + 1) (offset + 1) rest
      else if isBreak c then
        scanQuoted double text (gap.addBreak c) .plain (line + 1) 0 (offset + 1) rest
      else if double && c = '"' then
        some (text ++ gap.fold, ⟨rest, line, column + 1, offset + 1⟩)
      else if double && c = '\\' then
        scanQuoted double text gap .escape line (column + 1) (offset + 1) rest
      else if !double && c = '\'' then
        scanQuoted double (text ++ gap.fold) {} .quote line (column + 1) (offset + 1) rest
      else
        scanQuoted double (text ++ gap.fold ++ [c]) {} .plain line (column + 1) (offset + 1) rest

end EdiSchema.Yaml
