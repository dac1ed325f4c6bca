/-!
# Texts in JSON

A text stands between quotes. When it is written, quotes, backslashes and the control characters
below the blank are escaped, by a letter where there is one and by four hexadecimal digits
otherwise, and everything else stands as it is. When it is read, every escape of the format is
understood; characters beyond sixteen bits may be spelled as a pair of surrogates.

Reading gives code points, raw characters and escapes alike. `characters?` turns them into
characters and fails for a surrogate without a partner.
-/

namespace EdiSchema.Json

/-! ## Writing -/

/-- A hexadecimal digit. -/
def hexDigit (n : Nat) : Char :=
  if n < 10 then Char.ofNat (48 + n) else Char.ofNat (87 + n)

/-- A control character by its code. -/
def escapeCode (c : Char) : List Char :=
  ['\\', 'u', '0', '0', hexDigit (c.toNat / 16), hexDigit (c.toNat % 16)]

/-- How one character of a text is written. -/
def escapeChar (c : Char) : List Char :=
  if c = '"' then ['\\', '"']
  else if c = '\\' then ['\\', '\\']
  else if c = '\x08' then ['\\', 'b']
  else if c = '\x0c' then ['\\', 'f']
  else if c = '\n' then ['\\', 'n']
  else if c = '\r' then ['\\', 'r']
  else if c = '\t' then ['\\', 't']
  else if c.toNat < 0x20 then escapeCode c
  else [c]

/-- A text between quotes. -/
def quote (s : String) : List Char := '"' :: s.toList.flatMap escapeChar ++ ['"']

/-! ## Reading -/

/-- The value of a hexadecimal digit. -/
def hexValue? (c : Char) : Option Nat :=
  if '0' ≤ c ∧ c ≤ '9' then some (c.toNat - 48)
  else if 'a' ≤ c ∧ c ≤ 'f' then some (c.toNat - 87)
  else if 'A' ≤ c ∧ c ≤ 'F' then some (c.toNat - 55)
  else none

/-- The value of four hexadecimal digits. -/
def hexValue4? (a b c d : Char) : Option Nat := do
  let a ← hexValue? a
  let b ← hexValue? b
  let c ← hexValue? c
  let d ← hexValue? d
  return ((a * 16 + b) * 16 + c) * 16 + d

/-- The character that an escape letter stands for. -/
def escapeLetter? (c : Char) : Option Char :=
  if c = '"' then some '"'
  else if c = '\\' then some '\\'
  else if c = '/' then some '/'
  else if c = 'b' then some '\x08'
  else if c = 'f' then some '\x0c'
  else if c = 'n' then some '\n'
  else if c = 'r' then some '\r'
  else if c = 't' then some '\t'
  else none

/-- Reads a text up to its closing quote: its code points and what follows. -/
def scanText : List Char → Option (List Nat × List Char)
  | [] => none
  | '"' :: rest => some ([], rest)
  | '\\' :: 'u' :: a :: b :: c :: d :: rest =>
    match hexValue4? a b c d, scanText rest with
    | some n, some (codes, rest') => some (n :: codes, rest')
    | _, _ => none
  | '\\' :: e :: rest =>
    match escapeLetter? e, scanText rest with
    | some c, some (codes, rest') => some (c.toNat :: codes, rest')
    | _, _ => none
  | c :: rest =>
    if c = '\\' ∨ c.toNat < 0x20 then none
    else
      match scanText rest with
      | some (codes, rest') => some (c.toNat :: codes, rest')
      | none => none

/-- Whether a code point is the first half of a pair. -/
def isHighSurrogate (n : Nat) : Bool := 0xD800 ≤ n && n < 0xDC00

/-- Whether a code point is the second half of a pair. -/
def isLowSurrogate (n : Nat) : Bool := 0xDC00 ≤ n && n < 0xE000

/-- The code point that a pair of surrogates spells. -/
def pairValue (high low : Nat) : Nat := 0x10000 + (high - 0xD800) * 0x400 + (low - 0xDC00)

/-- The characters of code points, pairs of surrogates joined. -/
def characters? : List Nat → Option (List Char)
  | [] => some []
  | [n] => if isHighSurrogate n || isLowSurrogate n then none else some [Char.ofNat n]
  | n :: m :: rest =>
    if isHighSurrogate n then
      if isLowSurrogate m then (characters? rest).map (Char.ofNat (pairValue n m) :: ·) else none
    else if isLowSurrogate n then none
    else (characters? (m :: rest)).map (Char.ofNat n :: ·)

/-- What follows a text is shorter than what the text was read from. -/
theorem length_scanText {cs : List Char} {r : List Nat × List Char} (h : scanText cs = some r) :
    r.2.length < cs.length := by
  fun_induction scanText cs generalizing r with
  | case1 => simp at h
  | case2 rest =>
    rw [← Option.some.inj h]
    exact Nat.lt_succ_self _
  | case3 a b c d rest n codes rest' hr hn ih =>
    have := ih hr
    rw [← Option.some.inj h]
    simp only [List.length_cons] at this ⊢
    omega
  | case4 => simp at h
  | case5 e rest _ c codes rest' hr hc ih =>
    have := ih hr
    rw [← Option.some.inj h]
    simp only [List.length_cons] at this ⊢
    omega
  | case6 => simp at h
  | case7 => simp at h
  | case8 c rest _ _ _ _ codes rest' hr ih =>
    have := ih hr
    rw [← Option.some.inj h]
    simp only [List.length_cons] at this ⊢
    omega
  | case9 => simp at h

end EdiSchema.Json
