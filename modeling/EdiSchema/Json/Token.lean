import EdiSchema.Json.Text
import EdiSchema.Json.Value

/-!
# The words of JSON

A JSON text is a row of brackets, colons, commas and scalars, with blanks in between. `tokens` cuts
it into those. Where the text holds something else, the row ends in `Token.broken`.
-/

namespace EdiSchema.Json

/-- A word of JSON. -/
inductive Token
  | beginArray
  | endArray
  | beginObject
  | endObject
  | colon
  | comma
  | scalar (value : Value)
  /-- Here the text is no longer JSON. -/
  | broken

/-- The characters that may stand between words. -/
def isBlank (c : Char) : Bool := c = ' ' || c = '\n' || c = '\t' || c = '\r'

/-! ## Numbers -/

/-- At least one digit, and what follows. -/
def scanDigits (cs : List Char) : Option (List Char × List Char) :=
  match cs.takeWhile Char.isDigit with
  | [] => none
  | ds => some (ds, cs.dropWhile Char.isDigit)

/-- Digits that do not start with a superfluous zero. -/
def scanWholePart (cs : List Char) : Option (List Char × List Char) :=
  match scanDigits cs with
  | some ('0' :: _ :: _, _) => none
  | found => found

/-- The digits after a point, if there is a point. -/
def scanFraction : List Char → Option (List Char × List Char)
  | '.' :: rest => (scanDigits rest).map fun r => ('.' :: r.1, r.2)
  | cs => some ([], cs)

/-- The sign of an exponent. -/
def scanSign : List Char → List Char × List Char
  | '+' :: rest => (['+'], rest)
  | '-' :: rest => (['-'], rest)
  | cs => ([], cs)

/-- The exponent, if there is one. -/
def scanExponent : List Char → Option (List Char × List Char)
  | c :: rest =>
    if c = 'e' ∨ c = 'E' then
      (scanDigits (scanSign rest).2).map fun r => (c :: (scanSign rest).1 ++ r.1, r.2)
    else some ([], c :: rest)
  | [] => some ([], [])

/-- A number without a sign. -/
def scanMagnitude (cs : List Char) : Option (List Char × List Char) := do
  let (whole, rest) ← scanWholePart cs
  let (fraction, rest) ← scanFraction rest
  let (exponent, rest) ← scanExponent rest
  return (whole ++ fraction ++ exponent, rest)

/-- A number as it is written, and what follows. -/
def scanNumber : List Char → Option (List Char × List Char)
  | '-' :: rest => (scanMagnitude rest).map fun r => ('-' :: r.1, r.2)
  | cs => scanMagnitude cs

/-! ## Tokens -/

/-- What follows a word that has to stand at the front. -/
def dropWord? : List Char → List Char → Option (List Char)
  | [], cs => some cs
  | _ :: _, [] => none
  | w :: ws, c :: cs => if w = c then dropWord? ws cs else none

/-- The token of a bracket, colon or comma. -/
def mark? (c : Char) : Option Token :=
  [('[', .beginArray), (']', .endArray), ('{', .beginObject), ('}', .endObject), (':', .colon),
   (',', .comma)].lookup c

/-- How a keyword goes on, and the value that it stands for. -/
def keyword? (c : Char) : Option (List Char × Value) :=
  [('n', (['u', 'l', 'l'], .null)), ('t', (['r', 'u', 'e'], .bool true)),
   ('f', (['a', 'l', 's', 'e'], .bool false))].lookup c

/-- The text that a row of code points stands for. -/
def textOf (codes : List Nat) : Value := .text ((characters? codes).map String.ofList)

/-- The token that starts with the character `c`, and what follows it. -/
def scanToken (c : Char) (rest : List Char) : Option (Token × List Char) :=
  match mark? c with
  | some t => some (t, rest)
  | none =>
    match keyword? c with
    | some (ws, value) => (dropWord? ws rest).map fun r => (.scalar value, r)
    | none =>
      if c = '"' then (scanText rest).map fun r => (.scalar (textOf r.1), r.2)
      else (scanNumber (c :: rest)).map fun r => (.scalar (.number (String.ofList r.1)), r.2)

/-! ### Tokens are not empty -/

/-- At least one digit is used up. -/
theorem length_scanDigits {cs : List Char} {r : List Char × List Char}
    (h : scanDigits cs = some r) : r.2.length < cs.length := by
  rw [scanDigits] at h
  split at h
  · simp at h
  · next hne =>
    rw [← Option.some.inj h]
    have hlen : (cs.takeWhile Char.isDigit ++ cs.dropWhile Char.isDigit).length = cs.length := by
      rw [List.takeWhile_append_dropWhile]
    have hpos : 0 < (cs.takeWhile Char.isDigit).length := List.length_pos_iff.mpr hne
    rw [List.length_append] at hlen
    show (cs.dropWhile Char.isDigit).length < cs.length
    omega

/-- The part before the point has a digit. -/
theorem length_scanWholePart {cs : List Char} {r : List Char × List Char}
    (h : scanWholePart cs = some r) : r.2.length < cs.length := by
  rw [scanWholePart] at h
  split at h
  · simp at h
  · exact length_scanDigits h

theorem length_scanFraction {cs : List Char} {r : List Char × List Char}
    (h : scanFraction cs = some r) : r.2.length ≤ cs.length := by
  rw [scanFraction.eq_def] at h
  split at h
  · obtain ⟨q, hq, rfl⟩ := Option.map_eq_some_iff.mp h
    have hlt : q.2.length < _ := length_scanDigits hq
    exact Nat.le_of_lt (Nat.lt_succ_of_lt hlt)
  · exact Nat.le_of_eq (congrArg (fun x : List Char × List Char => x.2.length)
      (Option.some.inj h).symm)

theorem length_scanSign (cs : List Char) : (scanSign cs).2.length ≤ cs.length := by
  rw [scanSign.eq_def]
  split <;> simp

theorem length_scanExponent {cs : List Char} {r : List Char × List Char}
    (h : scanExponent cs = some r) : r.2.length ≤ cs.length := by
  rw [scanExponent.eq_def] at h
  split at h
  · next c rest =>
    split at h
    · obtain ⟨q, hq, rfl⟩ := Option.map_eq_some_iff.mp h
      have h1 := length_scanDigits hq
      have h2 := length_scanSign rest
      simp only [List.length_cons]
      omega
    · exact Nat.le_of_eq (congrArg (fun x : List Char × List Char => x.2.length)
        (Option.some.inj h).symm)
  · exact Nat.le_of_eq (congrArg (fun x : List Char × List Char => x.2.length)
      (Option.some.inj h).symm)

theorem length_scanMagnitude {cs : List Char} {r : List Char × List Char}
    (h : scanMagnitude cs = some r) : r.2.length < cs.length := by
  simp only [scanMagnitude, Option.bind_eq_bind, Option.bind_eq_some_iff, Option.pure_def,
    Option.some.injEq] at h
  obtain ⟨r1, h1, r2, h2, r3, h3, rfl⟩ := h
  have := length_scanWholePart h1
  have := length_scanFraction h2
  have := length_scanExponent h3
  simp only
  omega

theorem length_scanNumber {cs : List Char} {r : List Char × List Char}
    (h : scanNumber cs = some r) : r.2.length < cs.length := by
  rw [scanNumber.eq_def] at h
  split at h
  · obtain ⟨q, hq, rfl⟩ := Option.map_eq_some_iff.mp h
    have hlt : q.2.length < _ := length_scanMagnitude hq
    exact Nat.lt_succ_of_lt hlt
  · exact length_scanMagnitude h

theorem length_dropWord? {ws cs rest : List Char} (h : dropWord? ws cs = some rest) :
    rest.length ≤ cs.length := by
  fun_induction dropWord? ws cs with
  | case1 cs => simp at h; simp [h]
  | case2 => simp at h
  | case3 ws cs w ih =>
    have := ih h
    simp only [List.length_cons]
    omega
  | case4 => simp at h

/-- What follows a token is no longer than what followed its first character, so the reading of
tokens comes to an end. -/
theorem length_scanToken {c : Char} {cs : List Char} {r : Token × List Char}
    (h : scanToken c cs = some r) : r.2.length ≤ cs.length := by
  rw [scanToken] at h
  split at h
  · obtain rfl := Option.some.inj h
    exact Nat.le_refl _
  split at h
  · obtain ⟨q, hq, rfl⟩ := Option.map_eq_some_iff.mp h
    exact length_dropWord? hq
  split at h
  · obtain ⟨q, hq, rfl⟩ := Option.map_eq_some_iff.mp h
    exact Nat.le_of_lt (length_scanText hq)
  · obtain ⟨q, hq, rfl⟩ := Option.map_eq_some_iff.mp h
    exact Nat.le_of_lt_succ (length_scanNumber hq)

/-- The words of a text. -/
def tokens : List Char → List Token
  | [] => []
  | c :: rest =>
    if isBlank c then tokens rest
    else
      match _h : scanToken c rest with
      | some (t, rest') => t :: tokens rest'
      | none => [.broken]
termination_by cs => cs.length
decreasing_by
  · exact Nat.lt_succ_self _
  · exact Nat.lt_succ_of_le (length_scanToken _h)

end EdiSchema.Json
