import EdiSchema.Grammar.Node

/-!
# What derived patterns recognise

The pattern that is derived from a segment code is a text, and a matcher reads that text before it
searches. `Pattern.Spells` says how far the reading is fixed: an anchor stands for itself where it
is not escaped, a character that is not special means itself, and so does a special one behind a
backslash. A matcher that reads these patterns so and searches for what they say is `Faithful`; of
patterns in which special characters stand alone nothing is asked.

For every faithful matcher the pattern of a code finds the texts that start with the code, and the
pattern of the empty code the empty text alone (`Pattern.Faithful.finds_ofCode`). The search
`Pattern.isFoundIn` is faithful (`Pattern.isFoundIn_faithful`). And codes can be told by the texts
of their patterns (`Pattern.ofCode_inj`), whatever the matcher.
-/

namespace EdiSchema

namespace Pattern

/-! ## What a pattern says -/

/-- The text of a pattern spells a row of atoms. -/
inductive Spells : List Char → List Atom → Prop
  | nil : Spells [] []
  | atStart {cs : List Char} {as : List Atom} (h : Spells cs as) :
    Spells ('^' :: cs) (.atStart :: as)
  | atEnd {cs : List Char} {as : List Atom} (h : Spells cs as) : Spells ('$' :: cs) (.atEnd :: as)
  /-- An ordinary character means itself. -/
  | plain {c : Char} {cs : List Char} {as : List Atom} (hc : c ∉ specials) (h : Spells cs as) :
    Spells (c :: cs) (.char c :: as)
  /-- So does a special character behind a backslash. -/
  | escaped {c : Char} {cs : List Char} {as : List Atom} (hc : c ∈ specials) (h : Spells cs as) :
    Spells ('\\' :: c :: cs) (.char c :: as)

/-- The atoms hold in a row at a place of a text that has `before` before it and `after` behind
it. -/
inductive Holds : List Atom → List Char → List Char → Prop
  | nil {before after : List Char} : Holds [] before after
  | atStart {as : List Atom} {after : List Char} (h : Holds as [] after) :
    Holds (.atStart :: as) [] after
  | atEnd {as : List Atom} {before : List Char} (h : Holds as before []) :
    Holds (.atEnd :: as) before []
  | char {c : Char} {as : List Atom} {before after : List Char}
    (h : Holds as (before ++ [c]) after) : Holds (.char c :: as) before (c :: after)

/-- The atoms hold somewhere in the text. -/
def HoldsIn (as : List Atom) (text : List Char) : Prop :=
  ∃ before after, text = before ++ after ∧ Holds as before after

/-- What is relied on of a matcher, which says whether the pattern of a text is found in another
text: what a pattern spells is searched for. -/
def Faithful (finds : String → String → Prop) : Prop :=
  ∀ pattern as, Spells pattern.toList as → ∀ text : String,
    finds pattern text ↔ HoldsIn as text.toList

/-! ## The atoms of a code -/

/-- What the pattern of a code asks for: the code at the start of the text, or the end of the text
there. -/
def codeAtoms (code : String) : List Atom :=
  .atStart :: if code.isEmpty then [.atEnd] else code.toList.map .char

/-- An escaped text spells its characters. -/
theorem spells_escape (cs : List Char) : Spells (escape cs) (cs.map .char) := by
  induction cs with
  | nil => exact .nil
  | cons c rest ih =>
    rw [escape, List.map_cons]
    split
    · next hc => exact .escaped hc ih
    · next hc => exact .plain hc ih

/-- The pattern of a code spells what it asks for. -/
theorem spells_ofCode (code : String) : Spells (ofCode code).text.toList (codeAtoms code) := by
  unfold ofCode codeAtoms
  split
  · have hends : "^$".toList = ['^', '$'] := by decide +kernel
    rw [hends]
    exact .atStart (.atEnd .nil)
  · rw [String.toList_ofList]
    exact .atStart (spells_escape _)

/-- Characters hold where they stand. -/
theorem holds_chars {cs before after : List Char} :
    Holds (cs.map .char) before after ↔ cs <+: after := by
  induction cs generalizing before after with
  | nil => exact ⟨fun _ => List.nil_prefix, fun _ => .nil⟩
  | cons c rest ih =>
    rw [List.map_cons]
    constructor
    · rintro (_ | _ | _ | h)
      exact List.cons_prefix_cons.mpr ⟨rfl, ih.mp h⟩
    · rintro ⟨more, rfl⟩
      exact .char (ih.mpr (List.prefix_append _ _))

/-- The end of the text is where nothing follows. -/
theorem holds_end {before after : List Char} : Holds [.atEnd] before after ↔ after = [] := by
  constructor
  · rintro (_ | _ | _)
    rfl
  · rintro rfl
    exact .atEnd .nil

/-- An anchored row holds at the start or not at all. -/
theorem holdsIn_atStart {as : List Atom} {text : List Char} :
    HoldsIn (.atStart :: as) text ↔ Holds as [] text := by
  constructor
  · rintro ⟨_, _, rfl, _ | h⟩
    exact h
  · exact fun h => ⟨[], text, rfl, .atStart h⟩

/-- The atoms of a code hold in the texts that start with it, those of the empty code in the empty
text. -/
theorem holdsIn_codeAtoms (code text : String) : HoldsIn (codeAtoms code) text.toList ↔
    (code ≠ "" ∧ code.toList <+: text.toList) ∨ (code = "" ∧ text = "") := by
  rw [codeAtoms, holdsIn_atStart]
  by_cases hcode : code = ""
  · rw [if_pos (String.isEmpty_iff.mpr hcode), holds_end, String.toList_eq_nil_iff]
    simp [hcode]
  · rw [if_neg (fun h => hcode (String.isEmpty_iff.mp h)), holds_chars]
    simp [hcode]

/-- A faithful matcher finds the pattern of a code where the text starts with the code. The empty
code is found in the empty text only. -/
theorem Faithful.finds_ofCode {finds : String → String → Prop} (h : Faithful finds)
    (code text : String) : finds (ofCode code).text text ↔
      (code ≠ "" ∧ code.toList <+: text.toList) ∨ (code = "" ∧ text = "") :=
  (h _ _ (spells_ofCode code) text).trans (holdsIn_codeAtoms code text)

/-! ## The search -/

/-- A text spells one row of atoms, the one that is read off it. -/
theorem Spells.atoms_eq {cs : List Char} {as : List Atom} (h : Spells cs as) : atomsOf cs = as := by
  induction h with
  | nil => rfl
  | atStart _ ih => rw [atomsOf, ih]
  | atEnd _ ih => rw [atomsOf, ih]
  | @plain c cs as hc _ ih =>
    have hslash : c ≠ '\\' := fun h => hc (h ▸ by decide)
    have hcaret : c ≠ '^' := fun h => hc (h ▸ by decide)
    have hdollar : c ≠ '$' := fun h => hc (h ▸ by decide)
    rw [atomsOf, ih]
    · exact fun _ _ h => absurd h hslash
    · exact hcaret
    · exact hdollar
  | escaped _ _ ih => rw [atomsOf, ih]

/-- The search tries the atoms at a place in a row. -/
theorem matchesHere_iff (as : List Atom) (before after : List Char) :
    matchesHere before.isEmpty as after ↔ Holds as before after := by
  induction as generalizing before after with
  | nil => exact ⟨fun _ => .nil, fun _ => by rw [matchesHere]⟩
  | cons a as ih =>
    cases a with
    | atStart =>
      rw [matchesHere, Bool.and_eq_true, List.isEmpty_iff, ih]
      constructor
      · rintro ⟨rfl, h⟩
        exact .atStart h
      · rintro (_ | h)
        exact ⟨rfl, h⟩
    | atEnd =>
      rw [matchesHere, Bool.and_eq_true, List.isEmpty_iff, ih]
      constructor
      · rintro ⟨rfl, h⟩
        exact .atEnd h
      · rintro (_ | _ | h)
        exact ⟨rfl, h⟩
    | char c =>
      cases after with
      | nil =>
        rw [matchesHere]
        exact iff_of_false Bool.false_ne_true fun h => by cases h
      | cons d after =>
        have hlater := ih (before ++ [c]) after
        rw [List.isEmpty_eq_false_iff.mpr (by simp)] at hlater
        rw [matchesHere, Bool.and_eq_true, decide_eq_true_eq, hlater]
        constructor
        · rintro ⟨rfl, h⟩
          exact .char h
        · rintro (_ | _ | _ | h)
          exact ⟨rfl, h⟩

/-- The search goes through all places behind the one where it starts. -/
theorem matchesFrom_iff (as : List Atom) (before text : List Char) :
    matchesFrom as before.isEmpty text ↔
      ∃ passed after, text = passed ++ after ∧ Holds as (before ++ passed) after := by
  induction text generalizing before with
  | nil =>
    rw [matchesFrom, matchesHere_iff]
    constructor
    · exact fun h => ⟨[], [], rfl, by rwa [List.append_nil]⟩
    · rintro ⟨passed, after, htext, h⟩
      obtain ⟨rfl, rfl⟩ := List.append_eq_nil_iff.mp htext.symm
      rwa [List.append_nil] at h
  | cons c text ih =>
    have hlater := ih (before ++ [c])
    rw [List.isEmpty_eq_false_iff.mpr (by simp)] at hlater
    rw [matchesFrom, Bool.or_eq_true, matchesHere_iff, hlater]
    constructor
    · rintro (h | ⟨passed, after, rfl, h⟩)
      · exact ⟨[], _, rfl, by rwa [List.append_nil]⟩
      · exact ⟨c :: passed, after, rfl, by rwa [List.append_assoc] at h⟩
    · rintro ⟨_ | ⟨d, passed⟩, after, htext, h⟩
      · rw [List.nil_append] at htext
        rw [List.append_nil] at h
        exact .inl (htext ▸ h)
      · obtain ⟨rfl, rfl⟩ := List.cons.inj htext
        exact .inr ⟨passed, after, rfl, by rwa [List.append_assoc]⟩

/-- The search is a faithful matcher. -/
theorem isFoundIn_faithful : Faithful fun pattern text => isFoundIn ⟨pattern⟩ text := by
  intro pattern as h text
  show matchesFrom (atomsOf pattern.toList) true text.toList ↔ _
  rw [h.atoms_eq]
  exact matchesFrom_iff as [] text.toList

/-! ## Telling codes apart -/

/-- The character that an atom asks for. -/
def Atom.char? : Atom → Option Char
  | .atStart => none
  | .atEnd => none
  | .char c => some c

/-- A code can be read off the atoms of its pattern. -/
theorem chars_codeAtoms (code : String) : (codeAtoms code).filterMap Atom.char? = code.toList := by
  rw [codeAtoms, List.filterMap_cons_none rfl]
  split
  · next h => rw [String.isEmpty_iff.mp h]; rfl
  · rw [List.filterMap_map]
    exact List.filterMap_some

/-- The text of the pattern tells the code. -/
theorem ofCode_inj {code other : String} (h : (ofCode code).text = (ofCode other).text) :
    code = other := by
  have hatoms := (spells_ofCode code).atoms_eq
  rw [h, (spells_ofCode other).atoms_eq] at hatoms
  rw [← String.toList_inj, ← chars_codeAtoms, ← chars_codeAtoms, hatoms]

end Pattern

/-! ## New segments -/

theorem Signature.ofCode?_pattern {code : String} {s : Signature}
    (h : Signature.ofCode? code = some s) : s.pattern = Pattern.ofCode code := by
  obtain ⟨pattern, hpattern, rfl⟩ := Option.map_eq_some_iff.mp h
  unfold Pattern.ofCode? at hpattern
  split at hpattern
  · cases hpattern
  · exact (Option.some.inj hpattern).symm

/-- What the pattern of a new segment recognises, whatever characters its code is made of: any
faithful matcher, and the search of this library, finds it in a text exactly if the text starts with
the code, which is then not empty, or if both are empty. Segments of different codes have patterns
of different texts. -/
theorem Signature.pattern_recognises {code : String} {s : Signature}
    (hs : Signature.ofCode? code = some s) :
    (∀ finds, Pattern.Faithful finds → ∀ text, finds s.pattern.text text ↔
      (code ≠ "" ∧ code.toList <+: text.toList) ∨ (code = "" ∧ text = "")) ∧
    (∀ text, s.pattern.isFoundIn text ↔
      (code ≠ "" ∧ code.toList <+: text.toList) ∨ (code = "" ∧ text = "")) ∧
    ∀ other t, Signature.ofCode? other = some t → other ≠ code →
      t.pattern.text ≠ s.pattern.text := by
  have hpattern := Signature.ofCode?_pattern hs
  refine ⟨fun finds hfinds text => ?_, fun text => ?_, fun other t ht hne htext => hne ?_⟩
  · rw [hpattern]
    exact hfinds.finds_ofCode code text
  · rw [hpattern]
    exact Pattern.isFoundIn_faithful.finds_ofCode code text
  · rw [hpattern, Signature.ofCode?_pattern ht] at htext
    exact Pattern.ofCode_inj htext

/-- A code of two anchors and a backslash is recognised at the start of a text and nowhere else, and
its pattern is neither that of the empty code nor that of the anchors the other way round. -/
theorem Signature.pattern_recognises_anchors : ∃ s t u,
    Signature.ofCode? "$^\\" = some s ∧ Signature.ofCode? "" = some t ∧
    Signature.ofCode? "^$\\" = some u ∧
    s.pattern.isFoundIn "$^\\+BY" ∧ ¬ s.pattern.isFoundIn "+$^\\" ∧ ¬ s.pattern.isFoundIn "" ∧
    t.pattern.text ≠ s.pattern.text ∧ u.pattern.text ≠ s.pattern.text := by
  have hs : Signature.ofCode? "$^\\" = some ⟨"$^\\", ⟨"^\\$\\^\\\\"⟩, false, false, none⟩ := by
    decide +kernel
  have ht : Signature.ofCode? "" = some ⟨"", ⟨"^$"⟩, false, false, none⟩ := by decide +kernel
  have hu : Signature.ofCode? "^$\\" = some ⟨"^$\\", ⟨"^\\^\\$\\\\"⟩, false, false, none⟩ := by
    decide +kernel
  obtain ⟨hfinds, hfound, hother⟩ := Signature.pattern_recognises hs
  have hplain : ∀ text, Pattern.isFoundIn ⟨"^\\$\\^\\\\"⟩ text ↔
      ("$^\\" ≠ "" ∧ "$^\\".toList <+: text.toList) ∨ ("$^\\" = "" ∧ text = "") :=
    hfinds _ Pattern.isFoundIn_faithful
  refine ⟨_, _, _, hs, ht, hu, (hplain _).mpr ?_, fun h => ?_, fun h => ?_,
    hother _ _ ht (by decide), hother _ _ hu (by decide)⟩
  · decide +kernel
  · exact absurd ((hfound _).mp h) (by decide +kernel)
  · exact absurd ((hfound _).mp h) (by decide +kernel)

end EdiSchema
