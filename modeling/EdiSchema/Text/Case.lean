import EdiSchema.Text.CaseTable
import EdiSchema.Text.CaseContext

/-!
# Changing the case of text

`lowerChar` and `upperChar` map one character by its own full mapping, which may have more than one
character (`ß` is `SS` in capitals) and never looks at its neighbours. `lowerString` lower-cases a
text as a whole; it differs from the character-wise mapping in one letter only, the capital sigma,
which becomes `ς` at the end of a word and `σ` elsewhere.
-/

namespace EdiSchema.Text

/-- The mapping of a table: expansions first, then ranges, and all else is left as it is. -/
def CaseTable.apply (t : CaseTable) (c : Char) : List Char :=
  match t.expansions.find? fun e => e.1 == c.toNat with
  | some e => e.2.map Char.ofNat
  | none =>
    match t.ranges.find? fun r => r.contains c.toNat with
    | some r => [Char.ofNat (r.apply c.toNat)]
    | none => [c]

/-- The lower case of one character. -/
def lowerChar (c : Char) : List Char :=
  if c.toNat < 0x80 then [c.toLower] else lowerTable.apply c

/-- The upper case of one character. -/
def upperChar (c : Char) : List Char :=
  if c.toNat < 0x80 then [c.toUpper] else upperTable.apply c

/-- Whether a cased letter stands at the head, marks passed over. -/
def startsCased (cs : List Char) : Bool :=
  match cs.dropWhile isCaseIgnorable with
  | [] => false
  | c :: _ => isCased c

/-- Lower-cases a text; `afterCased` says whether a cased letter stands before it in the word. -/
def lowerAfter (afterCased : Bool) : List Char → List Char
  | [] => []
  | c :: rest =>
    let image :=
      if c = 'Σ' then
        if afterCased && !startsCased rest then ['ς'] else ['σ']
      else lowerChar c
    image ++ lowerAfter (if isCaseIgnorable c then afterCased else isCased c) rest

/-- The lower case of a whole text. -/
def lowerString (s : String) : String := String.ofList (lowerAfter false s.toList)

/-- Below the end of ASCII the lower case is the one of ASCII. -/
theorem lowerChar_of_ascii {c : Char} (h : c.toNat < 0x80) : lowerChar c = [c.toLower] :=
  if_pos h

/-- Below the end of ASCII the upper case is the one of ASCII. -/
theorem upperChar_of_ascii {c : Char} (h : c.toNat < 0x80) : upperChar c = [c.toUpper] :=
  if_pos h

end EdiSchema.Text
