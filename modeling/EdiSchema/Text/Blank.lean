/-!
# Blank characters

A character is blank when it has the Unicode property `White_Space`. The zero width space, the byte
order mark and the information separators do not have it, so they count as text. `trim` takes the
blank characters off both ends and leaves what stands between them (`trim_eq_iff`). A text is blank
when that is nothing, which is the case exactly when all of its characters are blank
(`isBlank_iff`).
-/

namespace EdiSchema.Text

/-- The characters with the property `White_Space`, as ranges of code points. -/
def blankRanges : List (Nat × Nat) :=
  [(0x0009, 0x000D), (0x0020, 0x0020), (0x0085, 0x0085), (0x00A0, 0x00A0), (0x1680, 0x1680),
   (0x2000, 0x200A), (0x2028, 0x2029), (0x202F, 0x202F), (0x205F, 0x205F), (0x3000, 0x3000)]

/-- Whether a character is white space. -/
def isBlankChar (c : Char) : Bool :=
  blankRanges.any fun r => r.1 ≤ c.toNat && c.toNat ≤ r.2

/-- Drops blank characters at the end. -/
def trimEnd (cs : List Char) : List Char := (cs.reverse.dropWhile isBlankChar).reverse

/-- Drops blank characters at both ends. -/
def trim (cs : List Char) : List Char := trimEnd (cs.dropWhile isBlankChar)

/-- Whether nothing but blank characters stands in the text. -/
def isBlank (s : String) : Bool := s.toList.all isBlankChar

/-! ## What is left of a text -/

/-- What stands in a text between the blank characters at its ends. -/
inductive IsCore : List Char → List Char → Prop
  /-- What is left begins and ends with characters that are not blank, if it is anything. -/
  | between {before core after : List Char} (hbefore : ∀ c ∈ before, isBlankChar c)
    (hafter : ∀ c ∈ after, isBlankChar c) (hfirst : ∀ c ∈ core.head?, ¬ isBlankChar c)
    (hlast : ∀ c ∈ core.getLast?, ¬ isBlankChar c) : IsCore (before ++ (core ++ after)) core

/-- What is left neither begins nor ends with a blank character. -/
theorem IsCore.ends {cs core : List Char} (h : IsCore cs core) :
    (∀ c ∈ core.head?, ¬ isBlankChar c) ∧ ∀ c ∈ core.getLast?, ¬ isBlankChar c := by
  cases h with
  | between _ _ hfirst hlast => exact ⟨hfirst, hlast⟩

/-- What is left is no longer than the text. -/
theorem IsCore.length_le {cs core : List Char} (h : IsCore cs core) : core.length ≤ cs.length := by
  cases h with
  | between =>
    simp only [List.length_append]
    omega

/-- Blank characters at the start are dropped up to the first character that is not blank. -/
theorem dropBlank_append {before rest : List Char} (hbefore : ∀ c ∈ before, isBlankChar c)
    (hrest : ∀ c ∈ rest.head?, ¬ isBlankChar c) :
    (before ++ rest).dropWhile isBlankChar = rest := by
  rw [List.dropWhile_append_of_pos hbefore]
  cases rest with
  | nil => rfl
  | cons c rest => exact List.dropWhile_cons_of_neg (hrest c rfl)

/-- The same at the end. -/
theorem trimEnd_append {rest after : List Char} (hafter : ∀ c ∈ after, isBlankChar c)
    (hrest : ∀ c ∈ rest.getLast?, ¬ isBlankChar c) : trimEnd (rest ++ after) = rest := by
  have hdrop : (after.reverse ++ rest.reverse).dropWhile isBlankChar = rest.reverse := by
    apply dropBlank_append
    · intro c hc
      exact hafter c (List.mem_reverse.mp hc)
    · intro c hc
      rw [List.head?_reverse] at hc
      exact hrest c hc
  rw [trimEnd, List.reverse_append, hdrop, List.reverse_reverse]

/-- Trimming leaves what stands between the blank characters. -/
theorem IsCore.trim_eq {cs core : List Char} (h : IsCore cs core) : trim cs = core := by
  cases h with
  | @between before _ after hbefore hafter hfirst hlast =>
    cases core with
    | nil =>
      -- no character stops the dropping at the start, so it takes the end with it
      have hall : ∀ c ∈ before ++ ([] ++ after), isBlankChar c := by
        intro c hc
        exact (List.mem_append.mp hc).elim (hbefore c) (hafter c)
      have hdrop : (before ++ ([] ++ after) ++ []).dropWhile isBlankChar = [] :=
        dropBlank_append hall fun c hc => nomatch hc
      rw [List.append_nil] at hdrop
      rw [trim, hdrop]
      rfl
    | cons d core =>
      have hdrop : (before ++ (d :: core ++ after)).dropWhile isBlankChar = d :: core ++ after :=
        dropBlank_append hbefore hfirst
      rw [trim, hdrop, trimEnd_append hafter hlast]

/-- What is left when blank characters are dropped does not start with one. -/
theorem not_blank_of_head?_dropBlank {cs : List Char} {c : Char}
    (h : (cs.dropWhile isBlankChar).head? = some c) : ¬ isBlankChar c := by
  have hhead := List.head?_dropWhile_not isBlankChar cs
  rw [h] at hhead
  simpa using hhead

/-- Something stands there in every text, be it nothing. -/
theorem isCore_trim (cs : List Char) : IsCore cs (trim cs) := by
  have hstart : cs.takeWhile isBlankChar ++ cs.dropWhile isBlankChar = cs :=
    List.takeWhile_append_dropWhile
  have hhead : ∀ c, (cs.dropWhile isBlankChar).head? = some c → ¬ isBlankChar c :=
    fun c => not_blank_of_head?_dropBlank
  rw [trim]
  generalize cs.dropWhile isBlankChar = mid at hstart hhead
  have hend : trimEnd mid ++ (mid.reverse.takeWhile isBlankChar).reverse = mid := by
    rw [trimEnd, ← List.reverse_append, List.takeWhile_append_dropWhile, List.reverse_reverse]
  have hcore : IsCore (cs.takeWhile isBlankChar ++
      (trimEnd mid ++ (mid.reverse.takeWhile isBlankChar).reverse)) (trimEnd mid) := by
    constructor
    · exact List.all_eq_true.mp List.all_takeWhile
    · intro c hc
      exact List.all_eq_true.mp List.all_takeWhile c (List.mem_reverse.mp hc)
    · -- the first character that is left is the first one that was not dropped
      intro c hc
      obtain ⟨rest, hrest⟩ := List.head?_eq_some_iff.mp hc
      apply hhead c
      rw [← hend, hrest]
      rfl
    · intro c hc
      rw [trimEnd, List.getLast?_reverse] at hc
      exact not_blank_of_head?_dropBlank hc
  rwa [hend, hstart] at hcore

/-- Trimming is told by what it leaves. -/
theorem trim_eq_iff (cs core : List Char) : trim cs = core ↔ IsCore cs core := by
  constructor
  · rintro rfl
    exact isCore_trim cs
  · exact IsCore.trim_eq

/-- Nothing is left exactly of texts of blank characters. -/
theorem trim_eq_nil_iff (cs : List Char) : trim cs = [] ↔ ∀ c ∈ cs, isBlankChar c := by
  constructor
  · intro h
    cases (trim_eq_iff cs []).mp h with
    | between hbefore hafter _ _ =>
      intro c hc
      exact (List.mem_append.mp hc).elim (hbefore c) (hafter c)
  · intro h
    have hcore : IsCore (cs ++ ([] ++ [])) [] :=
      .between h (fun c hc => nomatch hc) (fun c hc => nomatch hc) fun c hc => nomatch hc
    rw [List.append_nil, List.append_nil] at hcore
    exact hcore.trim_eq

/-- Everything is left exactly of texts with a character that is not blank at either end. -/
theorem isCore_self_iff (cs : List Char) : IsCore cs cs ↔
    (∀ c ∈ cs.head?, ¬ isBlankChar c) ∧ ∀ c ∈ cs.getLast?, ¬ isBlankChar c := by
  constructor
  · intro h
    obtain ⟨hfirst, hlast⟩ := h.ends
    exact ⟨hfirst, hlast⟩
  · rintro ⟨hfirst, hlast⟩
    have hcore : IsCore ([] ++ (cs ++ [])) cs :=
      .between (fun c hc => nomatch hc) (fun c hc => nomatch hc) hfirst hlast
    rwa [List.nil_append, List.append_nil] at hcore

/-- A text is blank exactly when trimming leaves nothing of it. -/
theorem isBlank_iff (s : String) : isBlank s ↔ trim s.toList = [] := by
  rw [trim_eq_nil_iff, isBlank, List.all_eq_true]

end EdiSchema.Text
