import EdiSchema.Json.Parse
import EdiSchema.Proofs.Digits

/-!
# The grammar of JSON texts

A JSON text is a row of words with blanks between them. The words of a value are its brackets,
colons, commas and scalars in order (`Value.words`). A text is laid out as a row of words if it is
these words as they may be written, with any blanks before, between and behind them (`Laid`): a
number in any of its forms, a text with its characters raw or escaped in any of the ways there are.
No two scalars stand side by side in a row, so a number ends where a bracket, a comma or a blank
follows, or nothing at all.

The reader understands all of that. It cuts a text into the words it is laid out as
(`Laid.tokens_eq`), and of the words of a whole value it makes the value (`run_words`). So whatever
a value is written as is read as the value (`Value.WrittenAs.parse_eq`), and no text is written for
two values.
-/

namespace EdiSchema.Json

/-! ## Texts between quotes -/

/-- What may stand between quotes for a row of code points. -/
inductive Spelling : List Nat → List Char → Prop
  | nil : Spelling [] []
  /-- A character that stands for itself. -/
  | plain {c : Char} {codes : List Nat} {body : List Char} (hquote : c ≠ '"') (hslash : c ≠ '\\')
    (hcode : ¬ c.toNat < 0x20) : Spelling codes body → Spelling (c.toNat :: codes) (c :: body)
  /-- A character that has a letter. -/
  | letter {e c : Char} {codes : List Nat} {body : List Char} (h : escapeLetter? e = some c) :
    Spelling codes body → Spelling (c.toNat :: codes) ('\\' :: e :: body)
  /-- Any sixteen bits. -/
  | code {a b c d : Char} {n : Nat} {codes : List Nat} {body : List Char}
    (h : hexValue4? a b c d = some n) :
    Spelling codes body → Spelling (n :: codes) ('\\' :: 'u' :: a :: b :: c :: d :: body)

/-- A character that stands for itself is read as itself. -/
theorem scanText_plain {c : Char} (hquote : c ≠ '"') (hslash : c ≠ '\\') (hcode : ¬ c.toNat < 0x20)
    (rest : List Char) :
    scanText (c :: rest) = (scanText rest).map fun r => (c.toNat :: r.1, r.2) := by
  rw [scanText.eq_def]
  split
  · next h => cases h
  · next h => exact absurd (List.cons.inj h).1 hquote
  · next h => exact absurd (List.cons.inj h).1 hslash
  · next h => exact absurd (List.cons.inj h).1 hslash
  · next h =>
    obtain ⟨rfl, rfl⟩ := List.cons.inj h
    rw [if_neg fun h => h.elim hslash hcode]
    cases scanText rest <;> rfl

/-- However a text is spelled, its code points are read, up to the closing quote. -/
theorem Spelling.scanText_eq {codes : List Nat} {body : List Char} (h : Spelling codes body)
    (rest : List Char) : scanText (body ++ '"' :: rest) = some (codes, rest) := by
  induction h with
  | nil => rw [List.nil_append, scanText]
  | plain hquote hslash hcode _ ih =>
    rw [List.cons_append, scanText_plain hquote hslash hcode, ih]
    rfl
  | @letter e c codes body he _ ih =>
    have hu : e ≠ 'u' := by
      rintro rfl
      cases he
    rw [List.cons_append, List.cons_append, scanText.eq_4 _ _ (fun _ _ _ _ _ h _ => hu h), he, ih]
  | code hn _ ih =>
    simp only [List.cons_append]
    rw [scanText, hn, ih]

/-! ## Numbers -/

/-- At least one digit, and nothing else. -/
def IsDigits (ds : List Char) : Prop := ds ≠ [] ∧ ∀ c ∈ ds, c.isDigit

/-- The digits before the point: a zero alone, or digits that start with another one. -/
def IsWhole (ds : List Char) : Prop := IsDigits ds ∧ (ds.head? = some '0' → ds = ['0'])

/-- A point with digits behind it, or nothing. -/
inductive IsFraction : List Char → Prop
  | absent : IsFraction []
  | present {ds : List Char} : IsDigits ds → IsFraction ('.' :: ds)

/-- An exponent with a sign or without, or nothing. -/
inductive IsExponent : List Char → Prop
  | absent : IsExponent []
  | present {e : Char} {sign ds : List Char} : e ∈ ['e', 'E'] → sign ∈ [[], ['+'], ['-']] →
    IsDigits ds → IsExponent (e :: (sign ++ ds))

/-- A number without a sign. -/
inductive IsMagnitude : List Char → Prop
  | parts {whole fraction exponent : List Char} : IsWhole whole → IsFraction fraction →
    IsExponent exponent → IsMagnitude (whole ++ fraction ++ exponent)

/-- The forms of a number. -/
inductive IsNumber : List Char → Prop
  | positive {ds : List Char} : IsMagnitude ds → IsNumber ds
  | negative {ds : List Char} : IsMagnitude ds → IsNumber ('-' :: ds)

/-- What may stand behind a number: a blank, a bracket, a colon or a comma, or nothing. -/
def Stops (rest : List Char) : Prop :=
  ∀ c ∈ rest.head?, c ∈ [' ', '\n', '\t', '\r', '[', ']', '{', '}', ':', ',']

/-- Whether a character goes on with a number that has come to its exponent or its end. -/
theorem Stops.not_continued {rest : List Char} (h : Stops rest) :
    ∀ c ∈ rest.head?, c.isDigit = false ∧ c ≠ '.' ∧ c ≠ 'e' ∧ c ≠ 'E' := by
  intro c hc
  have hstop := h c hc
  simp only [List.mem_cons, List.not_mem_nil, or_false] at hstop
  rcases hstop with rfl | rfl | rfl | rfl | rfl | rfl | rfl | rfl | rfl | rfl <;> decide

/-- Digits are read as far as they go. -/
theorem IsDigits.scanDigits_eq {ds : List Char} (h : IsDigits ds) {rest : List Char}
    (hrest : ∀ c ∈ rest.head?, c.isDigit = false) : scanDigits (ds ++ rest) = some (ds, rest) := by
  have htake : rest.takeWhile Char.isDigit = [] := by
    cases rest with
    | nil => rfl
    | cons c cs => rw [List.takeWhile_cons, hrest c rfl]; rfl
  have hdrop : rest.dropWhile Char.isDigit = rest := by
    cases rest with
    | nil => rfl
    | cons c cs => rw [List.dropWhile_cons, hrest c rfl]; rfl
  rw [scanDigits, List.takeWhile_append_of_pos h.2, List.dropWhile_append_of_pos h.2, htake, hdrop,
    List.append_nil]
  cases ds with
  | nil => exact absurd rfl h.1
  | cons => rfl

theorem IsWhole.scanWholePart_eq {ds : List Char} (h : IsWhole ds) {rest : List Char}
    (hrest : ∀ c ∈ rest.head?, c.isDigit = false) :
    scanWholePart (ds ++ rest) = some (ds, rest) := by
  rw [scanWholePart, h.1.scanDigits_eq hrest]
  split
  · next heq =>
    -- more than one digit, the first of them zero
    obtain ⟨hds, _⟩ := Prod.mk.inj (Option.some.inj heq)
    rw [hds] at h
    cases h.2 rfl
  · rfl

theorem IsFraction.scanFraction_eq {ds : List Char} (h : IsFraction ds) {rest : List Char}
    (hrest : ∀ c ∈ rest.head?, c.isDigit = false ∧ c ≠ '.') :
    scanFraction (ds ++ rest) = some (ds, rest) := by
  cases h with
  | absent =>
    rw [List.nil_append, scanFraction.eq_def]
    split
    · exact absurd rfl (hrest _ rfl).2
    · rfl
  | present hds =>
    rw [List.cons_append, scanFraction, hds.scanDigits_eq fun c hc => (hrest c hc).1]
    rfl

/-- Where an exponent may start, no digit and no point goes on. -/
theorem IsExponent.head_append {ds : List Char} (h : IsExponent ds) {rest : List Char}
    (hrest : Stops rest) : ∀ c ∈ (ds ++ rest).head?, c.isDigit = false ∧ c ≠ '.' := by
  intro c hc
  cases h with
  | absent =>
    obtain ⟨hdigit, hpoint, _⟩ := hrest.not_continued c hc
    exact ⟨hdigit, hpoint⟩
  | present he _ _ =>
    obtain rfl := Option.some_inj.mp hc
    simp only [List.mem_cons, List.not_mem_nil, or_false] at he
    rcases he with rfl | rfl <;> decide

theorem scanSign_append {sign ds : List Char} (hsign : sign ∈ [[], ['+'], ['-']])
    (hds : IsDigits ds) (rest : List Char) : scanSign (sign ++ (ds ++ rest)) = (sign, ds ++ rest) := by
  simp only [List.mem_cons, List.not_mem_nil, or_false] at hsign
  rcases hsign with rfl | rfl | rfl
  · obtain ⟨d, more, rfl⟩ := List.exists_cons_of_ne_nil hds.1
    have hd : d.isDigit := hds.2 d List.mem_cons_self
    simp only [List.nil_append, List.cons_append]
    rw [scanSign.eq_def]
    split
    · next h =>
      obtain ⟨rfl, _⟩ := List.cons.inj h
      cases hd
    · next h =>
      obtain ⟨rfl, _⟩ := List.cons.inj h
      cases hd
    · rfl
  · rfl
  · rfl

theorem IsExponent.scanExponent_eq {ds : List Char} (h : IsExponent ds) {rest : List Char}
    (hrest : Stops rest) : scanExponent (ds ++ rest) = some (ds, rest) := by
  cases h with
  | absent =>
    cases rest with
    | nil => rfl
    | cons c cs =>
      obtain ⟨_, _, he, hE⟩ := hrest.not_continued c rfl
      rw [List.nil_append, scanExponent, if_neg fun h => h.elim he hE]
  | @present e sign ds he hsign hds =>
    have hletter : e = 'e' ∨ e = 'E' := by simpa using he
    have hdigits := hds.scanDigits_eq fun c hc => (hrest.not_continued c hc).1
    rw [List.cons_append, scanExponent, if_pos hletter, List.append_assoc,
      scanSign_append hsign hds, hdigits]
    rfl

/-- A digit comes first. -/
theorem IsMagnitude.exists_eq_cons {ds : List Char} (h : IsMagnitude ds) :
    ∃ c cs, ds = c :: cs ∧ c.isDigit := by
  cases h with
  | parts hwhole _ _ =>
    obtain ⟨c, cs, rfl⟩ := List.exists_cons_of_ne_nil hwhole.1.1
    exact ⟨c, _, rfl, hwhole.1.2 c List.mem_cons_self⟩

theorem IsMagnitude.scanMagnitude_eq {ds : List Char} (h : IsMagnitude ds) {rest : List Char}
    (hrest : Stops rest) : scanMagnitude (ds ++ rest) = some (ds, rest) := by
  cases h with
  | @parts whole fraction exponent hwhole hfraction hexponent =>
    have hbehind := hexponent.head_append hrest
    have hpoint : ∀ c ∈ (fraction ++ (exponent ++ rest)).head?, c.isDigit = false := by
      intro c hc
      cases hfraction with
      | absent => exact (hbehind c hc).1
      | present _ =>
        obtain rfl := Option.some_inj.mp hc
        decide
    rw [List.append_assoc, List.append_assoc, scanMagnitude, hwhole.scanWholePart_eq hpoint]
    simp [hfraction.scanFraction_eq hbehind, hexponent.scanExponent_eq hrest]

/-- A digit or a minus sign comes first. -/
theorem IsNumber.exists_eq_cons {ds : List Char} (h : IsNumber ds) :
    ∃ c cs, ds = c :: cs ∧ (c.isDigit ∨ c = '-') := by
  cases h with
  | positive hds =>
    obtain ⟨c, cs, hcs, hdigit⟩ := hds.exists_eq_cons
    exact ⟨c, cs, hcs, .inl hdigit⟩
  | negative hds => exact ⟨'-', _, rfl, .inr rfl⟩

/-- A number is read in any of its forms. -/
theorem IsNumber.scanNumber_eq {ds : List Char} (h : IsNumber ds) {rest : List Char}
    (hrest : Stops rest) : scanNumber (ds ++ rest) = some (ds, rest) := by
  cases h with
  | positive hds =>
    obtain ⟨c, cs, hcs, hdigit⟩ := hds.exists_eq_cons
    have hminus : c ≠ '-' := by
      rintro rfl
      cases hdigit
    rw [scanNumber.eq_def]
    split
    · next h =>
      rw [hcs] at h
      exact absurd (List.cons.inj h).1 hminus
    · exact hds.scanMagnitude_eq hrest
  | negative hds =>
    rw [List.cons_append, scanNumber, hds.scanMagnitude_eq hrest]
    rfl

/-! ## Rows of words -/

/-- Whether a word is a scalar. -/
def Token.isScalar : Token → Bool
  | .scalar _ => true
  | _ => false

/-- The ways to write a word. -/
inductive Token.Written : Token → List Char → Prop
  | beginArray : Written .beginArray ['[']
  | endArray : Written .endArray [']']
  | beginObject : Written .beginObject ['{']
  | endObject : Written .endObject ['}']
  | colon : Written .colon [':']
  | comma : Written .comma [',']
  | null : Written (.scalar .null) ['n', 'u', 'l', 'l']
  | yes : Written (.scalar (.bool true)) ['t', 'r', 'u', 'e']
  | no : Written (.scalar (.bool false)) ['f', 'a', 'l', 's', 'e']
  | number {ds : List Char} : IsNumber ds → Written (.scalar (.number (String.ofList ds))) ds
  | text {codes : List Nat} {body : List Char} : Spelling codes body →
    Written (.scalar (textOf codes)) ('"' :: (body ++ ['"']))

/-- No scalar comes first. -/
def NoScalarFirst (ts : List Token) : Prop := ∀ t ∈ ts.head?, t.isScalar = false

/-- The text is the words one after the other, with any blanks between them. No two scalars stand
side by side. -/
inductive Laid : List Token → List Char → Prop
  | nil : Laid [] []
  | blank {ts : List Token} {c : Char} {cs : List Char} (hc : isBlank c) : Laid ts cs →
    Laid ts (c :: cs)
  | word {t : Token} {ts : List Token} {w cs : List Char} (hw : t.Written w)
    (hnext : t.isScalar → NoScalarFirst ts) : Laid ts cs → Laid (t :: ts) (w ++ cs)

/-- A mark may follow anything. -/
theorem noScalarFirst_cons {t : Token} (h : t.isScalar = false) (ts : List Token) :
    NoScalarFirst (t :: ts) := by
  intro u hu
  obtain rfl := Option.some_inj.mp hu
  exact h

/-- Brackets, colons and commas may stand before anything. -/
theorem Laid.mark {t : Token} {ts : List Token} {w cs : List Char} (hw : t.Written w)
    (ht : t.isScalar = false) (h : Laid ts cs) : Laid (t :: ts) (w ++ cs) :=
  .word hw (fun hscalar => absurd hscalar (Bool.eq_false_iff.mp ht)) h

/-- A row that does not start with a scalar starts with what may stand behind a number. -/
theorem Laid.stops {ts : List Token} {cs : List Char} (h : Laid ts cs) (hhead : NoScalarFirst ts) :
    Stops cs := by
  intro d hd
  cases h with
  | nil => cases hd
  | @blank _ c _ hc _ =>
    obtain rfl := Option.some_inj.mp hd
    simp only [isBlank, Bool.or_eq_true, decide_eq_true_eq] at hc
    rcases hc with ((rfl | rfl) | rfl) | rfl <;> decide
  | word hw _ _ =>
    have hmark := hhead _ rfl
    cases hw with
    | beginArray | endArray | beginObject | endObject | colon | comma =>
      obtain rfl := Option.some_inj.mp hd
      decide
    | null | yes | no | number _ | text _ => cases hmark

/-- Where a token is found the rest is read behind it. -/
theorem tokens_of_scanToken {c : Char} {rest rest' : List Char} {t : Token}
    (hblank : isBlank c = false) (h : scanToken c rest = some (t, rest')) :
    tokens (c :: rest) = t :: tokens rest' := by
  rw [tokens, hblank, if_neg Bool.false_ne_true]
  split
  · next heq =>
    rw [h] at heq
    cases heq
    rfl
  · next heq =>
    rw [h] at heq
    cases heq

/-- A digit or a minus sign starts nothing but a number. -/
theorem starts_number {c : Char} (h : c.isDigit ∨ c = '-') :
    isBlank c = false ∧ mark? c = none ∧ keyword? c = none ∧ c ≠ '"' := by
  have hlimit : c.toNat < 58 := by
    rcases h with h | rfl
    · have hbounds := toNat_of_isDigit h
      omega
    · decide
  obtain ⟨hblank, hmark, hkeyword, hquote⟩ := of_toNat_lt
    (P := fun c => c.isDigit ∨ c = '-' → isBlank c = false ∧ (mark? c).isNone ∧
      (keyword? c).isNone ∧ c ≠ '"') (by decide) hlimit h
  exact ⟨hblank, Option.isNone_iff_eq_none.mp hmark, Option.isNone_iff_eq_none.mp hkeyword, hquote⟩

/-- A word is cut off, whatever follows it. What follows a scalar has to be told from it. -/
theorem Token.Written.tokens_append {t : Token} {w : List Char} (h : t.Written w)
    {rest : List Char} (hstop : t.isScalar → Stops rest) :
    tokens (w ++ rest) = t :: tokens rest := by
  cases h with
  | beginArray | endArray | beginObject | endObject | colon | comma | null | yes | no =>
    exact tokens_of_scanToken (by rfl) (by rfl)
  | @number ds hds =>
    have hscan := hds.scanNumber_eq (hstop rfl)
    obtain ⟨c, cs, rfl, hc⟩ := hds.exists_eq_cons
    obtain ⟨hblank, hmark, hkeyword, hquote⟩ := starts_number hc
    rw [List.cons_append] at hscan ⊢
    refine tokens_of_scanToken hblank ?_
    rw [scanToken, hmark, hkeyword]
    simp only [if_neg hquote, hscan, Option.map_some]
  | @text codes body hbody =>
    have hmark : mark? '"' = none := by rfl
    have hkeyword : keyword? '"' = none := by rfl
    rw [List.cons_append, List.append_assoc]
    refine tokens_of_scanToken (by decide) ?_
    rw [scanToken, hmark, hkeyword, List.cons_append, List.nil_append]
    simp only [if_true, hbody.scanText_eq, Option.map_some]

/-- The reader cuts a text into the words it is laid out as. -/
theorem Laid.tokens_eq {ts : List Token} {cs : List Char} (h : Laid ts cs) : tokens cs = ts := by
  induction h with
  | nil => rw [tokens]
  | blank hc _ ih => rw [tokens, if_pos hc, ih]
  | word hw hnext hrest ih => rw [hw.tokens_append fun hscalar => hrest.stops (hnext hscalar), ih]

/-! ## The words of a value -/

namespace Value

mutual

/-- The words of a value in order, its closing brackets among them. -/
def words : Value → List Token
  | .array [] _ => [.beginArray, .endArray]
  | .array (v :: rest) _ => .beginArray :: (v.words ++ (itemWords rest ++ [.endArray]))
  | .object [] _ => [.beginObject, .endObject]
  | .object ((key, v) :: rest) _ =>
    .beginObject :: .scalar (.text key) :: .colon :: (v.words ++ (memberWords rest ++ [.endObject]))
  | scalar => [.scalar scalar]

/-- Items behind the first. -/
def itemWords : List Value → List Token
  | [] => []
  | v :: rest => .comma :: (v.words ++ itemWords rest)

/-- Members behind the first. -/
def memberWords : List (Option String × Value) → List Token
  | [] => []
  | (key, v) :: rest => .comma :: .scalar (.text key) :: .colon :: (v.words ++ memberWords rest)

end

/-- A text that a value may be written as: the words of a whole value, laid out in any way. -/
def WrittenAs (v : Value) (s : String) : Prop := v.isWhole ∧ Laid v.words s.toList

end Value

/-- Behind an opening bracket a value is read as the first item. -/
theorem run_itemOrEnd (v : Value) (frames : List Frame) (ts : List Token) :
    run frames .itemOrEnd (v.words ++ ts) = run (.item [] :: frames) .value (v.words ++ ts) := by
  cases v with
  | array items closed => cases items <;> rfl
  | object members closed =>
    cases members with
    | nil => rfl
    | cons m rest => rfl
  | _ => rfl

mutual

/-- The reader gets past the words of a value and has read the value. -/
theorem run_words : ∀ (v : Value) (frames : List Frame) (ts : List Token), v.isWhole →
    run frames .value (v.words ++ ts) = run frames (.afterValue v) ts
  | .array [] closed, frames, ts, h => by
    obtain rfl : closed = true := (Bool.and_eq_true_iff.mp h).1
    rfl
  | .array (v :: rest) closed, frames, ts, h => by
    obtain ⟨rfl, hitems⟩ := Bool.and_eq_true_iff.mp h
    obtain ⟨hv, hrest⟩ := Bool.and_eq_true_iff.mp hitems
    have hopen : ∀ us, run frames .value (.beginArray :: us) = run frames .itemOrEnd us :=
      fun _ => rfl
    rw [Value.words, List.cons_append, List.append_assoc, List.append_assoc, List.singleton_append,
      hopen, run_itemOrEnd, run_words v _ _ hv, run_itemWords rest _ _ _ _ hrest]
    rfl
  | .object [] closed, frames, ts, h => by
    obtain rfl : closed = true := (Bool.and_eq_true_iff.mp h).1
    rfl
  | .object ((key, v) :: rest) closed, frames, ts, h => by
    obtain ⟨rfl, hmembers⟩ := Bool.and_eq_true_iff.mp h
    obtain ⟨hv, hrest⟩ := Bool.and_eq_true_iff.mp hmembers
    have hopen : ∀ us, run frames .value (.beginObject :: .scalar (.text key) :: .colon :: us) =
        run (.member [] key :: frames) .value us := fun _ => rfl
    rw [Value.words, List.cons_append, List.cons_append, List.cons_append, List.append_assoc,
      List.append_assoc, List.singleton_append, hopen, run_words v _ _ hv,
      run_memberWords rest _ _ _ _ _ hrest]
    rfl
  | .null, _, _, _ => rfl
  | .bool _, _, _, _ => rfl
  | .number _, _, _, _ => rfl
  | .text _, _, _, _ => rfl
  | .broken, _, _, h => nomatch h

/-- Past the items behind the first one. -/
theorem run_itemWords : ∀ (items : List Value) (before : List Value) (v : Value)
    (frames : List Frame) (ts : List Token), Value.areWhole items →
    run (.item before :: frames) (.afterValue v) (Value.itemWords items ++ .endArray :: ts) =
      run frames (.afterValue (.array (before ++ v :: items) true)) ts
  | [], before, v, frames, ts, _ => rfl
  | w :: items, before, v, frames, ts, h => by
    obtain ⟨hw, hitems⟩ := Bool.and_eq_true_iff.mp h
    have hcomma : ∀ us, run (.item before :: frames) (.afterValue v) (.comma :: us) =
        run (.item (before ++ [v]) :: frames) .value us := fun _ => rfl
    rw [Value.itemWords, List.cons_append, List.append_assoc, hcomma, run_words w _ _ hw,
      run_itemWords items _ _ _ _ hitems, List.append_assoc]
    rfl

/-- Past the members behind the first one. -/
theorem run_memberWords : ∀ (members : Members) (before : Members) (key : Option String) (v : Value)
    (frames : List Frame) (ts : List Token), Value.membersAreWhole members →
    run (.member before key :: frames) (.afterValue v)
        (Value.memberWords members ++ .endObject :: ts) =
      run frames (.afterValue (.object (before ++ (key, v) :: members) true)) ts
  | [], before, key, v, frames, ts, _ => rfl
  | (name, w) :: members, before, key, v, frames, ts, h => by
    obtain ⟨hw, hmembers⟩ := Bool.and_eq_true_iff.mp h
    have hcomma : ∀ us, run (.member before key :: frames) (.afterValue v)
        (.comma :: .scalar (.text name) :: .colon :: us) =
        run (.member (before ++ [(key, v)]) name :: frames) .value us := fun _ => rfl
    rw [Value.memberWords, List.cons_append, List.cons_append, List.cons_append, List.append_assoc,
      hcomma, run_words w _ _ hw, run_memberWords members _ _ _ _ _ hmembers, List.append_assoc]
    rfl

end

/-- What a value is written as is read as the value, to the end of the text. -/
theorem Value.WrittenAs.parse_eq {v : Value} {s : String} (h : v.WrittenAs s) :
    parse s = ⟨v, true⟩ := by
  have hrun := run_words v [] [] h.1
  rw [List.append_nil] at hrun
  rw [parse, h.2.tokens_eq, hrun]
  rfl

/-- No text is written for two values. -/
theorem Value.WrittenAs.unique {v w : Value} {s : String} (hv : v.WrittenAs s)
    (hw : w.WrittenAs s) : v = w := by
  have h := hv.parse_eq.symm.trans hw.parse_eq
  exact congrArg Document.value h

end EdiSchema.Json
