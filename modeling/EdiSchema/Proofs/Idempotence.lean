import EdiSchema.Proofs.Digits
import EdiSchema.Proofs.Names

/-!
# Names that are tags again

A name holds no separators, so as a tag it is one piece, and what its own name changes are the
capitals within it. For tags in ASCII these are easy to count: the pass makes a capital of a letter
right behind a separator, and of nothing else but the first letter of a class name. So naming twice
comes to the same as naming once for the tags without a letter behind a separator. In a class name
the first character may be such a letter, since it is a capital whatever stands before it
(`Name.normalize_normalize_iff`).
-/

namespace EdiSchema

namespace Name

/-! ## Letters behind separators -/

/-- Somewhere in the text a letter stands right behind a separator. -/
def HasInitial (cs : List Char) : Prop :=
  ∃ before sep c after, cs = before ++ sep :: c :: after ∧ isSeparator sep ∧ c.isAlpha

/-- All that stands before a letter behind a separator are separators. -/
def OnlyFirstInitial (cs : List Char) : Prop :=
  ∀ before sep c after, cs = before ++ sep :: c :: after → isSeparator sep → c.isAlpha →
    ∀ d ∈ before, isSeparator d

theorem not_hasInitial_nil : ¬ HasInitial [] := by
  rintro ⟨before, sep, c, after, h, _⟩
  cases before <;> cases h

theorem hasInitial_cons (c : Char) (rest : List Char) : HasInitial (c :: rest) ↔
    (isSeparator c ∧ ∃ d ∈ rest.head?, d.isAlpha) ∨ HasInitial rest := by
  constructor
  · rintro ⟨before, sep, d, after, h, hsep, hd⟩
    cases before with
    | nil =>
      obtain ⟨rfl, rfl⟩ := List.cons.inj h
      exact .inl ⟨hsep, d, rfl, hd⟩
    | cons b before =>
      obtain ⟨rfl, rfl⟩ := List.cons.inj h
      exact .inr ⟨before, sep, d, after, rfl, hsep, hd⟩
  · rintro (⟨hsep, d, hd, halpha⟩ | ⟨before, sep, d, after, rfl, hsep, hd⟩)
    · cases rest with
      | nil => cases hd
      | cons e after =>
        cases hd
        exact ⟨[], c, d, after, rfl, hsep, halpha⟩
    · exact ⟨c :: before, sep, d, after, rfl, hsep, hd⟩

theorem onlyFirstInitial_nil : OnlyFirstInitial [] := by
  intro before sep c after h
  cases before <;> cases h

/-- A separator at the front changes nothing. -/
theorem onlyFirstInitial_cons_of_sep {c : Char} (hc : isSeparator c) (rest : List Char) :
    OnlyFirstInitial (c :: rest) ↔ OnlyFirstInitial rest := by
  constructor
  · intro h before sep d after hrest hsep hd
    subst hrest
    exact (List.forall_mem_cons.mp (h (c :: before) sep d after rfl hsep hd)).2
  · intro h before sep d after hcons hsep hd
    cases before with
    | nil => simp
    | cons b before =>
      obtain ⟨rfl, hrest⟩ := List.cons.inj hcons
      exact List.forall_mem_cons.mpr ⟨hc, h before sep d after hrest hsep hd⟩

/-- Behind anything else no letter may stand behind a separator. -/
theorem onlyFirstInitial_cons_of_not_sep {c : Char} (hc : isSeparator c = false)
    (rest : List Char) : OnlyFirstInitial (c :: rest) ↔ ¬ HasInitial rest := by
  constructor
  · rintro h ⟨before, sep, d, after, rfl, hsep, hd⟩
    have hfirst := (List.forall_mem_cons.mp (h (c :: before) sep d after rfl hsep hd)).1
    rw [hc] at hfirst
    cases hfirst
  · intro h before sep d after hcons hsep hd
    cases before with
    | nil =>
      obtain ⟨rfl, _⟩ := List.cons.inj hcons
      rw [hc] at hsep
      cases hsep
    | cons b before =>
      obtain ⟨rfl, hrest⟩ := List.cons.inj hcons
      exact absurd ⟨before, sep, d, after, hrest, hsep, hd⟩ h

/-! ## The pass over what the pass has made -/

/-- What the pass makes of a character of ASCII that is not a separator. -/
def imageChar (capital : Bool) (c : Char) : Char := if capital then c.toUpper else c.toLower

theorem scan_ascii {c : Char} (hascii : c.toNat < 0x80) (hc : isSeparator c = false)
    (capital : Bool) (rest : List Char) :
    scan capital (c :: rest) = imageChar capital c :: scan false rest := by
  rw [scan_cons_of_not_sep hc, Text.lowerChar_of_ascii hascii, Text.upperChar_of_ascii hascii]
  cases capital <;> rfl

/-- The image of a character is none of the separators, and in ASCII again. -/
theorem imageChar_ascii {c : Char} (hascii : c.toNat < 0x80) (hc : isSeparator c = false)
    (capital : Bool) :
    (imageChar capital c).toNat < 0x80 ∧ isSeparator (imageChar capital c) = false := by
  cases capital with
  | true =>
    exact of_toNat_lt (P := fun c => isSeparator c = false →
      c.toUpper.toNat < 0x80 ∧ isSeparator c.toUpper = false) (by decide) hascii hc
  | false =>
    exact of_toNat_lt (P := fun c => isSeparator c = false →
      c.toLower.toNat < 0x80 ∧ isSeparator c.toLower = false) (by decide) hascii hc

/-- Small letters are what the case mappings of ASCII leave alone in the middle of a name: what was
lower-cased is one, and what was upper-cased is one if it is no letter. -/
theorem imageChar_toLower {c : Char} (hascii : c.toNat < 0x80) (capital : Bool) :
    (imageChar capital c).toLower = imageChar capital c ↔ (capital → ¬ c.isAlpha) := by
  cases capital with
  | true =>
    have h := of_toNat_lt (P := fun c => c.toUpper.toLower = c.toUpper ↔ ¬ c.isAlpha)
      (by decide) hascii
    simpa [imageChar] using h
  | false =>
    have h : c.toLower.toLower = c.toLower :=
      of_toNat_lt (P := fun c => c.toLower.toLower = c.toLower) (by decide) hascii
    exact iff_of_true h fun hno => nomatch hno

theorem toUpper_toUpper {c : Char} (hascii : c.toNat < 0x80) : c.toUpper.toUpper = c.toUpper :=
  of_toNat_lt (P := fun c => c.toUpper.toUpper = c.toUpper) (by decide) hascii

/-- Read as a tag without a capital, what the pass has made stays if no letter in it was made a
capital: no letter behind a separator, and no first letter if the pass began with a capital. -/
theorem scan_false_scan_iff (capital : Bool) {cs : List Char} (hascii : ∀ c ∈ cs, c.toNat < 0x80) :
    scan false (scan capital cs) = scan capital cs ↔
      (capital → ∀ c ∈ cs.head?, ¬ c.isAlpha) ∧ ¬ HasInitial cs := by
  induction cs generalizing capital with
  | nil => simp [scan, not_hasInitial_nil]
  | cons c rest ih =>
    obtain ⟨hc, hrest⟩ := List.forall_mem_cons.mp hascii
    rw [hasInitial_cons]
    by_cases hsep : isSeparator c
    · have hletter : ¬ c.isAlpha :=
        of_toNat_lt (P := fun c => isSeparator c → ¬ c.isAlpha) (by decide) hc hsep
      rw [scan_cons_of_sep hsep, ih true hrest]
      simp [hsep, hletter]
    · have hnot : isSeparator c = false := Bool.eq_false_iff.mpr hsep
      obtain ⟨himage, hplain⟩ := imageChar_ascii hc hnot capital
      rw [scan_ascii hc hnot, scan_ascii himage hplain, List.cons.injEq, ih false hrest]
      have hlower : imageChar false (imageChar capital c) = (imageChar capital c).toLower := rfl
      rw [hlower, imageChar_toLower hc]
      simp [hsep]

/-- Read as the tag of a class, it stays if that holds behind the first character that is not a
separator. -/
theorem scan_true_scan_iff {cs : List Char} (hascii : ∀ c ∈ cs, c.toNat < 0x80) :
    scan true (scan true cs) = scan true cs ↔ OnlyFirstInitial cs := by
  induction cs with
  | nil => simp [scan, onlyFirstInitial_nil]
  | cons c rest ih =>
    obtain ⟨hc, hrest⟩ := List.forall_mem_cons.mp hascii
    by_cases hsep : isSeparator c
    · rw [scan_cons_of_sep hsep, ih hrest, onlyFirstInitial_cons_of_sep hsep]
    · have hnot : isSeparator c = false := Bool.eq_false_iff.mpr hsep
      obtain ⟨himage, hplain⟩ := imageChar_ascii hc hnot true
      have hupper : imageChar true (imageChar true c) = imageChar true c := toUpper_toUpper hc
      rw [scan_ascii hc hnot, scan_ascii himage hplain, hupper, List.cons.injEq,
        scan_false_scan_iff false hrest, onlyFirstInitial_cons_of_not_sep hnot]
      simp

/-- The tags in ASCII that are named twice as they are named once. A member name is its own member
name if no letter of the tag stands right behind a separator, and only then. A class name is its own
class name if every letter that does is the first character of the tag that is not a separator, and
only then. -/
theorem normalize_normalize_iff (tag : String) (hascii : ∀ c ∈ tag.toList, c.toNat < 0x80) :
    (normalize .memberName (normalize .memberName tag) = normalize .memberName tag ↔
      ∀ before sep c after, tag.toList = before ++ sep :: c :: after → isSeparator sep →
        ¬ c.isAlpha) ∧
    (normalize .className (normalize .className tag) = normalize .className tag ↔
      ∀ before sep c after, tag.toList = before ++ sep :: c :: after → isSeparator sep →
        c.isAlpha → ∀ d ∈ before, isSeparator d) := by
  have htwice : ∀ style, normalize style (normalize style tag) = normalize style tag ↔
      scan (startsCapital style) (scan (startsCapital style) tag.toList) =
        scan (startsCapital style) tag.toList := by
    intro style
    rw [← String.toList_inj, toList_normalize, toList_normalize]
  constructor
  · have hmember := (htwice .memberName).trans (scan_false_scan_iff false hascii)
    have hsmall : false = true → ∀ c ∈ tag.toList.head?, ¬ c.isAlpha := fun h => nomatch h
    rw [hmember, and_iff_right hsmall]
    simp only [HasInitial, not_exists, not_and]
  · exact (htwice .className).trans (scan_true_scan_iff hascii)

/-- A separator at the front is harmless to the class name alone, and one inside to neither unless a
letter stands behind it. -/
theorem normalize_normalize_order : (∀ c ∈ "_ORDER.9".toList, c.toNat < 0x80) ∧
    normalize .className (normalize .className "_ORDER.9") = normalize .className "_ORDER.9" ∧
    normalize .memberName (normalize .memberName "_ORDER.9") ≠ normalize .memberName "_ORDER.9" := by
  have htag : "_ORDER.9".toList = ['_', 'O', 'R', 'D', 'E', 'R', '.', '9'] := by rfl
  have hascii : ∀ c ∈ "_ORDER.9".toList, c.toNat < 0x80 := by
    rw [htag]
    simp
  obtain ⟨hmember, hclass⟩ := normalize_normalize_iff "_ORDER.9" hascii
  refine ⟨hascii, hclass.mpr ?_, fun h => ?_⟩
  · have hfirst : OnlyFirstInitial ['_', 'O', 'R', 'D', 'E', 'R', '.', '9'] := by
      rw [onlyFirstInitial_cons_of_sep (by decide), onlyFirstInitial_cons_of_not_sep (by decide)]
      simp [hasInitial_cons, not_hasInitial_nil, isSeparator]
    exact htag ▸ hfirst
  · exact hmember.mp h [] '_' 'O' ['R', 'D', 'E', 'R', '.', '9'] htag (by decide) (by decide)

end Name

end EdiSchema
