import EdiSchema.Yaml.Scalar

/-!
# Block scalars

A block scalar is a bar or an angle, a line that may say how far the text is set in and what becomes
of the line ends at its end, and then the lines of the text. Where the header does not say how far
the lines are set in, the first line that is not empty decides. The text ends before the first line
that is not empty and not set in that far.

After a bar line ends stay as they are. After an angle they are folded, except around lines that
start with a blank.
-/

namespace EdiSchema.Yaml

/-- What becomes of the line ends at the end of a block scalar. -/
inductive Chomping
  /-- None stays. -/
  | strip
  /-- One stays. -/
  | clip
  /-- All stay. -/
  | keep
  deriving DecidableEq, Repr

/-- What the first line of a block scalar says. -/
structure BlockHeader where
  chomping : Chomping := .clip
  /-- How much further than the collection around them the lines are set in; zero where this is left
  open. -/
  increment : Nat := 0
  deriving DecidableEq, Repr

/-- Reads the sign in a header. -/
def BlockHeader.readSign (h : BlockHeader) : List Char → BlockHeader × List Char
  | '+' :: rest => ({ h with chomping := .keep }, rest)
  | '-' :: rest => ({ h with chomping := .strip }, rest)
  | cs => (h, cs)

/-- Reads the digit in a header, which may not be zero. -/
def BlockHeader.readDigit (h : BlockHeader) : List Char → Option (BlockHeader × List Char)
  | c :: rest =>
    if c = '0' then none
    else if c.isDigit then some ({ h with increment := c.toNat - 48 }, rest)
    else some (h, c :: rest)
  | [] => some (h, [])

/-- Reads a header. Sign and digit stand in either order. -/
def BlockHeader.read (cs : List Char) : Option (BlockHeader × List Char) :=
  match BlockHeader.readSign {} cs with
  | ({ chomping := .clip, .. }, cs) => (BlockHeader.readDigit {} cs).map fun r => r.1.readSign r.2
  | (h, cs) => h.readDigit cs

/-- A block scalar as far as it has been read. -/
structure BlockText where
  text : List Char := []
  /-- The end of the last line, if there is one. -/
  last : List Char := []
  /-- The ends of the empty lines after it. -/
  more : List Char := []
  /-- Whether the last line starts with a blank. -/
  lastIsSetIn : Bool := false

namespace BlockText

/-- Starts a line with the character `c`. -/
def startLine (b : BlockText) (folded : Bool) (c : Char) : BlockText :=
  let ends :=
    if folded && b.last == ['\n'] && !b.lastIsSetIn && !isBlank c then
      if b.more.isEmpty then [' '] else b.more
    else b.last ++ b.more
  { text := b.text ++ ends ++ [c], lastIsSetIn := isBlank c }

/-- The text when the scalar ends. -/
def finish (b : BlockText) : Chomping → List Char
  | .strip => b.text
  | .clip => b.text ++ b.last
  | .keep => b.text ++ b.last ++ b.more

end BlockText

/-- Reads the lines of a block scalar on. `outside` is the least column that lines may be set in to,
`indent` the column that they are set in to, zero as long as it is open, and `widest` the last
column of any empty line before that. `inLine` says whether the place is inside a line of the
text. -/
def scanBlock (folded : Bool) (outside : Nat) (b : BlockText) (inLine : Bool) (indent widest : Nat) :
    (line column offset : Nat) → List Char → Option (BlockText × Place)
  | line, column, offset, [] => some (b, ⟨[], line, column, offset⟩)
  | line, column, offset, c :: rest =>
    let undecided := indent == 0 || column < indent
    if c = '\r' && rest.head? = some '\n' then
      scanBlock folded outside b inLine indent widest line column (offset + 1) rest
    else if inLine then
      if isBreak c then
        scanBlock folded outside { b with last := [normalBreak c] } false indent widest (line + 1) 0
          (offset + 1) rest
      else
        scanBlock folded outside { b with text := b.text ++ [c] } true indent widest line
          (column + 1) (offset + 1) rest
    else if c = ' ' && undecided then
      scanBlock folded outside b false indent widest line (column + 1) (offset + 1) rest
    else if c = '\t' && undecided then none
    else if isBreak c then
      scanBlock folded outside { b with more := b.more ++ [normalBreak c] } false indent
        (max widest column) (line + 1) 0 (offset + 1) rest
    else
      let indent := if indent == 0 then max (max widest column) outside else indent
      if column = indent then
        scanBlock folded outside (b.startLine folded c) true indent widest line (column + 1)
          (offset + 1) rest
      else some (b, ⟨c :: rest, line, column, offset⟩)

/-- Reads a block scalar from the place behind its indicator. `indent` is the column of the
collection around it, or -1. -/
def blockScalar (folded : Bool) (indent : Int) (p : Place) : Option (List Char × Place) :=
  (BlockHeader.read p.rest).bind fun (h, rest) =>
    let p := p.skip (p.rest.length - rest.length)
    let p := (p.takeWhile isBlank).2
    let p := if p.rest.head? = some '#' then (p.takeWhile (!isBreak ·)).2 else p
    if p.rest.head?.all isBreak then
      let p := p.nextLine
      let column := if h.increment = 0 then 0 else (max indent 0).toNat + h.increment
      (scanBlock folded (max (indent + 1) 1).toNat {} false column 0 p.line p.column p.offset
        p.rest).map fun r => (r.1.finish h.chomping, r.2)
    else none

end EdiSchema.Yaml
