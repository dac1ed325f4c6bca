/-!
# Places in a YAML text

A place is what is left of a text, together with the line and the column that it starts at and the
number of characters before it. Lines end with a line feed, a carriage return or both, with the next
line control or with one of the two Unicode separators. Columns count characters from zero.
-/

namespace EdiSchema.Yaml

/-- Whether a character ends a line. -/
def isBreak (c : Char) : Bool :=
  c = '\n' || c = '\r' || c = '\x85' || c = '\u2028' || c = '\u2029'

/-- Whether a character is a blank or a tab. -/
def isBlank (c : Char) : Bool := c = ' ' || c = '\t'

/-- Whether the text is over, or a blank or a line end stands at its front. -/
def atGap : List Char → Bool
  | [] => true
  | c :: _ => isBlank c || isBreak c

/-- Whether a character may stand in a YAML text. -/
def isAllowed (c : Char) : Bool :=
  c = '\t' || c = '\n' || c = '\r' || c = '\x85' || (' ' ≤ c && c ≤ '~') ||
    (0xA0 ≤ c.toNat && c.toNat ≤ 0xFFFD) || 0x10000 ≤ c.toNat

/-- A place in a text. -/
structure Place where
  rest : List Char
  line : Nat
  column : Nat
  offset : Nat

namespace Place

/-- The start of a text. -/
def start (cs : List Char) : Place := ⟨cs, 0, 0, 0⟩

/-- The place behind one character of the line. -/
def next (p : Place) : Place := ⟨p.rest.drop 1, p.line, p.column + 1, p.offset + 1⟩

/-- The place behind some characters of the line. -/
def skip (p : Place) (n : Nat) : Place := ⟨p.rest.drop n, p.line, p.column + n, p.offset + n⟩

/-- The start of the next line, if a line ends here. -/
def nextLine (p : Place) : Place :=
  match p.rest with
  | '\r' :: '\n' :: rest => ⟨rest, p.line + 1, 0, p.offset + 2⟩
  | _ :: rest => ⟨rest, p.line + 1, 0, p.offset + 1⟩
  | [] => p

/-- The characters at the front that satisfy a test, and the place behind them. -/
def takeWhile (p : Place) (test : Char → Bool) : List Char × Place :=
  (p.rest.takeWhile test, p.skip (p.rest.takeWhile test).length)

/-- Whether a marker of three equal characters stands alone at the start of a line. -/
def atMarker (p : Place) (c : Char) : Bool :=
  p.column == 0 && p.rest.take 3 == [c, c, c] && atGap (p.rest.drop 3)

/-- Whether a document starts or ends here. -/
def atDocumentMarker (p : Place) : Bool := p.atMarker '-' || p.atMarker '.'

end Place

/-- How a line end stands in a scalar: the usual ones as a line feed. -/
def normalBreak (c : Char) : Char := if c = '\u2028' ∨ c = '\u2029' then c else '\n'

end EdiSchema.Yaml
