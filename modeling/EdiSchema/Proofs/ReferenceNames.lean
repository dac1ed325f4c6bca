import EdiSchema.Proofs.Digits
import EdiSchema.Proofs.Names
import Mathlib.Data.List.DropRight

/-!
# The names of references to segments

A reference to a segment is named by the code of the segment, and by the digit at the end of its
member name where there is one. That digit is the one at the end of the tag without the separators
behind it (`Name.finalDigit?_memberName`): separators leave nothing in a name, every other character
leaves something, and no case mapping makes a digit of anything but that digit.

Behind a code that does not end in a digit itself, the digit of a name can be told from the code. So
such references share a name only where they share both (`Segment.referenceName_eq_iff`).
-/

namespace EdiSchema

/-! ## What is left of a character -/

namespace Text

/-- A table without empty expansions maps every character to something. -/
theorem CaseTable.apply_ne_nil {t : CaseTable} (ht : ∀ e ∈ t.expansions, e.2 ≠ []) (c : Char) :
    t.apply c ≠ [] := by
  unfold apply
  split
  · next e he => exact fun h => ht e (List.mem_of_find?_eq_some he) (List.map_eq_nil_iff.mp h)
  · split <;> simp

theorem lowerChar_ne_nil (c : Char) : lowerChar c ≠ [] := by
  unfold lowerChar
  split
  · simp
  · exact CaseTable.apply_ne_nil (by decide +kernel) c

theorem upperChar_ne_nil (c : Char) : upperChar c ≠ [] := by
  unfold upperChar
  split
  · simp
  · exact CaseTable.apply_ne_nil (by decide +kernel) c

/-- Characters without case are their own lower and upper case. -/
theorem case_of_isCaseless {c : Char} (h : isCaseless c) :
    lowerChar c = [c] ∧ upperChar c = [c] := by
  have hascii : c.toNat < 0x80 := of_decide_eq_true (Bool.and_eq_true_iff.mp h).1
  have hsame : isCaseless c → c.toLower = c ∧ c.toUpper = c :=
    of_toNat_lt (P := fun c => isCaseless c → c.toLower = c ∧ c.toUpper = c) (by decide) hascii
  rw [lowerChar_of_ascii hascii, upperChar_of_ascii hascii, (hsame h).1, (hsame h).2]
  exact ⟨rfl, rfl⟩

/-- Digits are characters without case. -/
theorem isCaseless_of_isDigit {c : Char} (h : c.isDigit) : isCaseless c := by
  have hascii : c.toNat < 0x80 := by
    have hbounds := toNat_of_isDigit h
    omega
  exact of_toNat_lt (P := fun c => c.isDigit → isCaseless c) (by decide) hascii h

/-- A case mapping leaves a digit at the end of what it makes of a character exactly if the
character is that digit. -/
theorem getLast?_filter_isDigit {image : List Char} {c : Char} (hne : image ≠ [])
    (honly : ∀ d ∈ image, isCaseless d → c = d) (hkept : isCaseless c → image = [c]) :
    image.getLast?.filter Char.isDigit = (some c).filter Char.isDigit := by
  by_cases hc : c.isDigit
  · rw [hkept (isCaseless_of_isDigit hc)]
    rfl
  · have hlast : image.getLast? = some (image.getLast hne) := List.getLast?_eq_some_getLast hne
    have hd : ¬ (image.getLast hne).isDigit := by
      intro hd
      have hsame := honly _ (List.getLast_mem hne) (isCaseless_of_isDigit hd)
      rw [← hsame] at hd
      exact hc hd
    simp [hlast, Option.filter, hd, hc]

end Text

namespace Name

/-- The pass over a text comes by the end of any beginning of it. -/
theorem exists_scan_append (capital : Bool) (before after : List Char) :
    ∃ next, scan capital (before ++ after) = scan capital before ++ scan next after := by
  induction before generalizing capital with
  | nil => exact ⟨capital, rfl⟩
  | cons c before ih =>
    by_cases hsep : isSeparator c
    · obtain ⟨next, hnext⟩ := ih true
      refine ⟨next, ?_⟩
      rw [List.cons_append, scan_cons_of_sep hsep, scan_cons_of_sep hsep, hnext]
    · have hnot : isSeparator c = false := Bool.eq_false_iff.mpr hsep
      obtain ⟨next, hnext⟩ := ih false
      refine ⟨next, ?_⟩
      rw [List.cons_append, scan_cons_of_not_sep hnot, scan_cons_of_not_sep hnot, hnext,
        List.append_assoc]

/-- A tag without the separators at its end. -/
def stem (tag : String) : List Char := tag.toList.rdropWhile isSeparator

/-- The digit at the end of a name is the one at the end of what stands before the last
separators. -/
theorem getLast?_scan_filter_isDigit (capital : Bool) (cs : List Char) :
    (scan capital cs).getLast?.filter Char.isDigit =
      (cs.rdropWhile isSeparator).getLast?.filter Char.isDigit := by
  induction cs using List.reverseRecOn with
  | nil => rfl
  | append_singleton before c ih =>
    obtain ⟨next, hscan⟩ := exists_scan_append capital before [c]
    by_cases hsep : isSeparator c
    · rw [List.rdropWhile_concat_pos _ _ _ hsep, ← ih, hscan, scan_cons_of_sep hsep, scan,
        List.append_nil]
    · have hnot : isSeparator c = false := Bool.eq_false_iff.mpr hsep
      have hne : (if next then Text.upperChar c else Text.lowerChar c) ≠ [] := by
        split
        · exact Text.upperChar_ne_nil c
        · exact Text.lowerChar_ne_nil c
      rw [List.rdropWhile_concat_neg _ _ _ hsep, List.getLast?_concat, hscan,
        scan_cons_of_not_sep hnot, scan, List.append_nil, List.getLast?_append_of_ne_nil _ hne]
      apply Text.getLast?_filter_isDigit hne
      · intro d hd hcase
        split at hd
        · exact Text.eq_of_mem_upperChar hcase hd
        · exact Text.eq_of_mem_lowerChar hcase hd
      · intro hcase
        obtain ⟨hlower, hupper⟩ := Text.case_of_isCaseless hcase
        split
        · exact hupper
        · exact hlower

/-- A member name ends in a digit exactly when its tag does, separators at the end apart. -/
theorem finalDigit?_memberName (tag : String) :
    finalDigit? (memberName tag) = (stem tag).getLast?.filter Char.isDigit := by
  rw [finalDigit?, memberName, toList_normalize]
  exact getLast?_scan_filter_isDigit false tag.toList

end Name

/-! ## Codes and digits told apart -/

/-- The name of a reference to a segment that has a code. -/
theorem toList_segmentReferenceName {code : String} (h : code ≠ "") (member : String) :
    (segmentReferenceName code member).toList = code.toList ++ (finalDigit? member).toList := by
  rw [segmentReferenceName, if_neg fun he => h (String.isEmpty_iff.mp he), String.toList_ofList]

/-- What is put behind a code is a digit. -/
theorem isDigit_of_finalDigit? {s : String} {d : Char} (h : finalDigit? s = some d) :
    d.isDigit := by
  unfold finalDigit? at h
  exact (Option.filter_eq_some_iff.mp h).2

/-- The digit behind a code that has none at its end is found again. -/
theorem finalDigit?_segmentReferenceName {code : String} (h : code ≠ "")
    (hcode : ∀ c ∈ code.toList.getLast?, ¬ c.isDigit) (member : String) :
    finalDigit? (segmentReferenceName code member) = finalDigit? member := by
  rw [finalDigit?, toList_segmentReferenceName h]
  cases hd : finalDigit? member with
  | none =>
    rw [Option.toList_none, List.append_nil]
    exact Option.filter_eq_none_iff.mpr hcode
  | some d =>
    rw [Option.toList_some, List.getLast?_concat]
    exact Option.filter_eq_some_iff.mpr ⟨rfl, isDigit_of_finalDigit? hd⟩

/-- Names of references to segments agree exactly if the codes and the digits do. -/
theorem segmentReferenceName_eq_iff {code code' : String} (hne : code ≠ "") (hne' : code' ≠ "")
    (hcode : ∀ c ∈ code.toList.getLast?, ¬ c.isDigit)
    (hcode' : ∀ c ∈ code'.toList.getLast?, ¬ c.isDigit) (member member' : String) :
    segmentReferenceName code member = segmentReferenceName code' member' ↔
      code = code' ∧ finalDigit? member = finalDigit? member' := by
  constructor
  · intro h
    have hdigit : finalDigit? member = finalDigit? member' := by
      rw [← finalDigit?_segmentReferenceName hne hcode, h,
        finalDigit?_segmentReferenceName hne' hcode']
    have hlists := congrArg String.toList h
    rw [toList_segmentReferenceName hne, toList_segmentReferenceName hne', hdigit] at hlists
    exact ⟨String.toList_inj.mp (List.append_cancel_right hlists), hdigit⟩
  · rintro ⟨rfl, hdigit⟩
    rw [← String.toList_inj, toList_segmentReferenceName hne, toList_segmentReferenceName hne,
      hdigit]

/-- Two characters leave the same digit if they are the same digit or neither is one. -/
theorem filter_isDigit_eq_iff (a b : Option Char) :
    a.filter Char.isDigit = b.filter Char.isDigit ↔
      (∃ d, d.isDigit ∧ a = some d ∧ b = some d) ∨
        (∀ c ∈ a, ¬ c.isDigit) ∧ ∀ c ∈ b, ¬ c.isDigit := by
  have hnone : ∀ o : Option Char, (∀ c ∈ o, ¬ c.isDigit) ↔ o.filter Char.isDigit = none :=
    fun o => Option.filter_eq_none_iff.symm
  rw [hnone, hnone]
  constructor
  · intro h
    cases ha : a.filter Char.isDigit with
    | none => exact .inr ⟨rfl, h ▸ ha⟩
    | some d =>
      obtain ⟨had, hdigit⟩ := Option.filter_eq_some_iff.mp ha
      exact .inl ⟨d, hdigit, had, (Option.filter_eq_some_iff.mp (h ▸ ha)).1⟩
  · rintro (⟨d, -, rfl, rfl⟩ | ⟨ha, hb⟩)
    · rfl
    · rw [ha, hb]

namespace Segment

/-- References to segments share a name only where they must. For two segments with codes that do
not end in a digit, the names of the references are equal exactly if the codes are, and the tags
without the separators at their ends both end in one digit or both in none. -/
theorem referenceName_eq_iff (s t : Segment) (i j : ClassId)
    (hs : s.signature.code ≠ "") (ht : t.signature.code ≠ "")
    (hsdigit : ∀ c ∈ s.signature.code.toList.getLast?, ¬ c.isDigit)
    (htdigit : ∀ c ∈ t.signature.code.toList.getLast?, ¬ c.isDigit) :
    (s.header.segmentReference s.signature s.children i).name =
        (t.header.segmentReference t.signature t.children j).name ↔
      s.signature.code = t.signature.code ∧
      ((∃ d, d.isDigit ∧ (Name.stem s.header.tag).getLast? = some d ∧
          (Name.stem t.header.tag).getLast? = some d) ∨
        (∀ c ∈ (Name.stem s.header.tag).getLast?, ¬ c.isDigit) ∧
          ∀ c ∈ (Name.stem t.header.tag).getLast?, ¬ c.isDigit) := by
  have hname : ∀ (u : Segment) (k : ClassId),
      (u.header.segmentReference u.signature u.children k).name =
        segmentReferenceName u.signature.code (memberName u.header.tag) := fun _ _ => rfl
  rw [hname, hname, segmentReferenceName_eq_iff hs ht hsdigit htdigit, Name.finalDigit?_memberName,
    Name.finalDigit?_memberName]
  apply and_congr_right
  intro _
  exact filter_isDigit_eq_iff _ _

/-- A party, the second party of the same group, and one whose tag is written with a full stop and
ends in separators. -/
def party : Segment where
  header := { tag := "NAD" }
  signature := ⟨"NAD", .ofCode "NAD", false, false, none⟩

def secondParty : Segment := { party with header := { tag := "NAD2" } }

def dottedParty : Segment := { party with header := { tag := "party.2_." } }

/-- The second party has a reference of its own, whose name the other one gets too. -/
theorem referenceName_parties :
    party.signature.code ≠ "" ∧ (∀ c ∈ party.signature.code.toList.getLast?, ¬ c.isDigit) ∧
    (party.header.segmentReference party.signature party.children ⟨0⟩).name ≠
      (secondParty.header.segmentReference secondParty.signature secondParty.children ⟨0⟩).name ∧
    (secondParty.header.segmentReference secondParty.signature secondParty.children ⟨0⟩).name =
      (dottedParty.header.segmentReference dottedParty.signature dottedParty.children ⟨1⟩).name := by
  have hcode : party.signature.code ≠ "" := by decide
  have hlast : party.signature.code.toList.getLast? = some 'D' := by decide +kernel
  have hplain : ∀ c ∈ party.signature.code.toList.getLast?, ¬ c.isDigit := by
    rw [hlast]
    rintro c ⟨⟩
    decide
  have hfirst : (Name.stem party.header.tag).getLast? = some 'D' := by decide +kernel
  have hsecond : (Name.stem secondParty.header.tag).getLast? = some '2' := by decide +kernel
  have hdotted : (Name.stem dottedParty.header.tag).getLast? = some '2' := by decide +kernel
  refine ⟨hcode, hplain, fun h => ?_, ?_⟩
  · have hsame := (referenceName_eq_iff party secondParty ⟨0⟩ ⟨0⟩ hcode hcode hplain hplain).mp h
    rcases hsame.2 with ⟨d, -, hd, hd'⟩ | ⟨-, hnone⟩
    · cases hfirst.symm.trans hd
      cases hsecond.symm.trans hd'
    · exact hnone '2' hsecond (by decide)
  · apply (referenceName_eq_iff secondParty dottedParty ⟨0⟩ ⟨1⟩ hcode hcode hplain hplain).mpr
    exact ⟨rfl, .inl ⟨'2', by decide, hsecond, hdotted⟩⟩

end Segment

end EdiSchema
