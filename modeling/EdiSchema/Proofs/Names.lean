import EdiSchema.Proofs.Digits
import EdiSchema.Proofs.Views

/-!
# Names and the words of tags

A name is made in one pass over the characters of a tag (`Name.scan`). That comes to the same as
cutting the tag at its separators and setting every piece in small letters behind a capital
(`Name.normalize_capitalizes`). So it does not matter how many separators stand between two pieces,
or which.

Nothing is left of the separators, since no case mapping makes a character of ASCII that is not a
letter out of another one (`Text.eq_of_mem_lowerChar`, `Text.eq_of_mem_upperChar`). The underscore
in the class name of a field that has a type is therefore one that no tag leaves behind: the tag
stands before the first underscore and the type behind it (`Field.className_tells`).
-/

namespace EdiSchema

/-! ## Characters without case -/

namespace Text

/-- Whether a character is one of ASCII but no letter. -/
def isCaseless (c : Char) : Bool := c.toNat < 0x80 && !c.isAlpha

/-- Tables that yield no character without case. -/
structure CaseTable.Cased (t : CaseTable) : Prop where
  ranges : ∀ r ∈ t.ranges, ∀ k ≤ r.last - r.first, isCaseless (Char.ofNat (r.image + k)) = false
  expansions : ∀ e ∈ t.expansions, ∀ n ∈ e.2, isCaseless (Char.ofNat n) = false

/-- No lower-case mapping yields a character without case. -/
theorem lowerTable_cased : lowerTable.Cased := ⟨by decide +kernel, by decide +kernel⟩

/-- No upper-case mapping yields one either. -/
theorem upperTable_cased : upperTable.Cased := ⟨by decide +kernel, by decide +kernel⟩

/-- A character without case comes from itself only. -/
theorem CaseTable.eq_of_mem_apply {t : CaseTable} (ht : t.Cased) {c d : Char} (hd : isCaseless d)
    (h : d ∈ t.apply c) : c = d := by
  unfold apply at h
  split at h
  · next e he =>
    obtain ⟨n, hn, rfl⟩ := List.mem_map.mp h
    rw [ht.expansions e (List.mem_of_find?_eq_some he) n hn] at hd
    cases hd
  · split at h
    · next r hr =>
      obtain rfl := List.mem_singleton.mp h
      have hin : (r.first ≤ c.toNat ∧ c.toNat ≤ r.last) ∧ (c.toNat - r.first) % r.step = 0 := by
        simpa [CaseRange.contains] using List.find?_some hr
      have hstep : c.toNat - r.first ≤ r.last - r.first := by omega
      rw [CaseRange.apply, ht.ranges r (List.mem_of_find?_eq_some hr) _ hstep] at hd
      cases hd
    · exact (List.mem_singleton.mp h).symm

/-- A mapping that goes by a rule within ASCII and by a table beyond makes no caseless character of
another, if neither the rule nor the table does. -/
theorem CaseTable.eq_of_mem_mapping {t : CaseTable} (ht : t.Cased) {rule : Char → Char}
    (hrule : ∀ n < 0x80, isCaseless (rule (Char.ofNat n)) → rule (Char.ofNat n) = Char.ofNat n)
    {c d : Char} (hd : isCaseless d)
    (h : d ∈ if c.toNat < 0x80 then [rule c] else t.apply c) : c = d := by
  split at h
  · next hascii =>
    obtain rfl := List.mem_singleton.mp h
    exact (of_toNat_lt (P := fun c => isCaseless (rule c) → rule c = c) hrule hascii hd).symm
  · exact t.eq_of_mem_apply ht hd h

/-- The lower case of a character holds no caseless character, unless it is this character. -/
theorem eq_of_mem_lowerChar {c d : Char} (hd : isCaseless d) (h : d ∈ lowerChar c) : c = d :=
  lowerTable.eq_of_mem_mapping lowerTable_cased (by decide) hd h

/-- The upper case of a character holds no caseless character, unless it is this character. -/
theorem eq_of_mem_upperChar {c d : Char} (hd : isCaseless d) (h : d ∈ upperChar c) : c = d :=
  upperTable.eq_of_mem_mapping upperTable_cased (by decide) hd h

end Text

namespace Name

/-! ## One pass and the pieces -/

/-- A separator is dropped, and the next character gets a capital. -/
theorem scan_cons_of_sep {c : Char} (h : isSeparator c) (capital : Bool) (rest : List Char) :
    scan capital (c :: rest) = scan true rest := by
  rw [scan, if_pos h]

/-- Any other character is mapped, and the next one is small. -/
theorem scan_cons_of_not_sep {c : Char} (h : isSeparator c = false) (capital : Bool)
    (rest : List Char) : scan capital (c :: rest) =
      (if capital then Text.upperChar c else Text.lowerChar c) ++ scan false rest := by
  rw [scan, h]
  rfl

/-- To the pass a pair of underscores is one underscore. -/
theorem scan_collapse (capital : Bool) (tag : List Char) :
    scan capital (collapse tag) = scan capital tag := by
  induction tag using collapse.induct generalizing capital with
  | case1 rest ih =>
    rw [collapse, scan_cons_of_sep rfl, scan_cons_of_sep rfl, scan_cons_of_sep rfl, ih]
  | case2 c rest hpair ih =>
    rw [collapse, scan, scan, ih, ih]
    exact hpair
  | case3 => rfl

/-- Pieces in a row, all but the first with a capital. -/
def joined (capital : Bool) : List (List Char) → List Char
  | [] => []
  | first :: rest => piece capital first ++ rest.flatMap (piece true)

theorem joined_true (ps : List (List Char)) : joined true ps = ps.flatMap (piece true) := by
  cases ps <;> rfl

theorem piece_false (cs : List Char) : piece false cs = cs.flatMap Text.lowerChar := by
  cases cs <;> rfl

/-- The pass puts the pieces in a row. -/
theorem scan_eq_joined (capital : Bool) (cs : List Char) :
    scan capital cs = joined capital (Text.pieces isSeparator cs) := by
  unfold Text.pieces
  induction cs generalizing capital with
  | nil => rfl
  | cons c rest ih =>
    rw [List.splitOnP_cons_eq_if_modifyHead]
    by_cases hsep : isSeparator c
    · rw [if_pos hsep, scan_cons_of_sep hsep, ih, joined_true]
      rfl
    · rw [if_neg hsep, scan_cons_of_not_sep (Bool.eq_false_iff.mpr hsep), ih]
      cases hp : rest.splitOnP isSeparator with
      | nil => exact absurd hp (List.splitOnP_ne_nil isSeparator rest)
      | cons p ps =>
        rw [joined, piece_false, ← List.append_assoc]
        rfl

/-- Pairs of underscores need not be joined before the pass. -/
theorem normalizeChars_eq_scan (style : NameStyle) (tag : List Char) :
    normalizeChars style tag = scan (startsCapital style) tag :=
  scan_collapse (startsCapital style) tag

/-- A name is what the pass makes of its tag. -/
theorem toList_normalize (style : NameStyle) (tag : String) :
    (normalize style tag).toList = scan (startsCapital style) tag.toList := by
  rw [normalize, String.toList_ofList, normalizeChars_eq_scan]

/-- Separators are characters without case. -/
theorem isCaseless_of_isSeparator {c : Char} (h : isSeparator c) : Text.isCaseless c := by
  simp only [isSeparator, Bool.or_eq_true, decide_eq_true_eq] at h
  rcases h with rfl | rfl <;> decide

/-- No separator is left in a name. -/
theorem not_isSeparator_of_mem_scan {capital : Bool} {cs : List Char} {d : Char}
    (h : d ∈ scan capital cs) : isSeparator d = false := by
  induction cs generalizing capital with
  | nil => cases h
  | cons c rest ih =>
    by_cases hsep : isSeparator c
    · rw [scan_cons_of_sep hsep] at h
      exact ih h
    · rw [scan_cons_of_not_sep (Bool.eq_false_iff.mpr hsep)] at h
      rcases List.mem_append.mp h with hd | hd
      · -- a separator among the images of `c` would be `c`
        rw [Bool.eq_false_iff]
        intro hdsep
        have hcase := isCaseless_of_isSeparator hdsep
        have heq : c = d := by
          split at hd
          · exact Text.eq_of_mem_upperChar hcase hd
          · exact Text.eq_of_mem_lowerChar hcase hd
        rw [heq] at hsep
        exact hsep hdsep
      · exact ih hd

/-! ## Runs of separators -/

/-- A text of separators, at least one of them. -/
def IsRun (run : String) : Prop := run ≠ "" ∧ ∀ c ∈ run.toList, isSeparator c

/-- After separators the pass goes on with a capital. -/
theorem scan_separators {run : List Char} (h : ∀ c ∈ run, isSeparator c) (hne : run ≠ [])
    (capital : Bool) (after : List Char) : scan capital (run ++ after) = scan true after := by
  induction run generalizing capital with
  | nil => exact absurd rfl hne
  | cons c run ih =>
    obtain ⟨hc, hrun⟩ := List.forall_mem_cons.mp h
    rw [List.cons_append, scan_cons_of_sep hc]
    cases run with
    | nil => rfl
    | cons d run => exact ih hrun (List.cons_ne_nil d run) true

/-- The pass goes on alike where what follows is passed over alike. -/
theorem scan_append_congr {xs ys : List Char} (h : ∀ capital, scan capital xs = scan capital ys)
    (before : List Char) (capital : Bool) :
    scan capital (before ++ xs) = scan capital (before ++ ys) := by
  induction before generalizing capital with
  | nil => exact h capital
  | cons c before ih => rw [List.cons_append, List.cons_append, scan, scan, ih, ih]

/-- Any run of separators does as well as any other. -/
theorem normalize_run (style : NameStyle) (before after : String) {run other : String}
    (hrun : IsRun run) (hother : IsRun other) :
    normalize style (before ++ run ++ after) = normalize style (before ++ other ++ after) := by
  have hne : ∀ s : String, s ≠ "" → s.toList ≠ [] := by
    intro s hs h
    exact hs (String.toList_eq_nil_iff.mp h)
  rw [← String.toList_inj, toList_normalize, toList_normalize, String.toList_append,
    String.toList_append, String.toList_append, String.toList_append, List.append_assoc,
    List.append_assoc]
  apply scan_append_congr
  intro capital
  rw [scan_separators hrun.2 (hne run hrun.1), scan_separators hother.2 (hne other hother.1)]

/-- Names say their tags word by word. A tag is cut at every separator, and its name is the pieces
in a row: every character in lower case, but for the first character of every piece behind the first
one, and of the first one too where a class is named. So pairs of underscores need not be
joined before, any run of separators may stand for any other, and class name and member name differ
in what becomes of the first character of the tag, or not at all where that is a separator. -/
theorem normalize_capitalizes (style : NameStyle) (tag : String) :
    Text.pieces isSeparator tag.toList = tag.toList.splitOnP isSeparator ∧
    (normalize style tag).toList = capitalized style tag.toList ∧
    (normalize style tag).toList = scan (startsCapital style) tag.toList ∧
    (∀ before run other after, IsRun run → IsRun other → tag = before ++ run ++ after →
      normalize style tag = normalize style (before ++ other ++ after)) ∧
    ((∀ c ∈ tag.toList.head?, isSeparator c) →
      normalize .className tag = normalize .memberName tag) ∧
    ∀ c rest, tag.toList = c :: rest → isSeparator c = false → ∃ tail,
      (normalize .className tag).toList = Text.upperChar c ++ tail ∧
      (normalize .memberName tag).toList = Text.lowerChar c ++ tail := by
  have hscan := toList_normalize style tag
  refine ⟨rfl, ?_, hscan, ?_, ?_, ?_⟩
  · rw [hscan, scan_eq_joined]
    rfl
  · rintro before run other after hrun hother rfl
    exact normalize_run style before after hrun hother
  · intro hhead
    rw [← String.toList_inj, toList_normalize, toList_normalize]
    cases htag : tag.toList with
    | nil => rfl
    | cons c rest =>
      rw [htag] at hhead
      have hc : isSeparator c := hhead c rfl
      rw [scan_cons_of_sep hc, scan_cons_of_sep hc]
  · intro c rest htag hc
    refine ⟨scan false rest, ?_, ?_⟩
    · rw [toList_normalize, htag, scan_cons_of_not_sep hc]
      rfl
    · rw [toList_normalize, htag, scan_cons_of_not_sep hc]
      rfl

/-- The `ß` makes two capitals in a class name and none in a member name, and what stands behind it
is the same with any separators. -/
theorem normalize_capitalizes_sharp : IsRun "__" ∧ IsRun "._." ∧
    normalize .className "ß__ID" = normalize .className "ß._.ID" ∧
    ∃ tail, (normalize .className "ß__ID").toList = ['S', 'S'] ++ tail ∧
      (normalize .memberName "ß__ID").toList = ['ß'] ++ tail := by
  have hrun : IsRun "__" := ⟨by decide, List.all_eq_true.mp rfl⟩
  have hother : IsRun "._." := ⟨by decide, List.all_eq_true.mp rfl⟩
  obtain ⟨_, _, _, hruns, _, hfirst⟩ := normalize_capitalizes .className "ß__ID"
  refine ⟨hrun, hother, hruns "ß" "__" "._." "ID" hrun hother rfl, ?_⟩
  exact hfirst 'ß' ['_', '_', 'I', 'D'] rfl rfl

end Name

/-! ## Fields and their types -/

/-- No tag leaves an underscore in the name of its class. -/
theorem underscore_not_mem_className (tag : String) : '_' ∉ (className tag).toList := by
  intro h
  rw [className, Name.toList_normalize] at h
  cases Name.not_isSeparator_of_mem_scan h

namespace Field

/-- What the type of a field adds to the name of its class. -/
def typeMark : Option String → List Char
  | none => []
  | some typeRef => '_' :: typeRef.toList

/-- The mark tells the type, and whether there is one. -/
theorem typeMark_inj {s t : Option String} (h : typeMark s = typeMark t) : s = t := by
  cases s with
  | none =>
    cases t with
    | none => rfl
    | some t => cases h
  | some s =>
    cases t with
    | none => cases h
    | some t => rw [String.toList_inj.mp (List.cons.inj h).2]

/-- The name of the class of a field is that of its tag with the mark of its type behind it. -/
theorem toList_className (f : Field) :
    f.className.toList = (EdiSchema.className f.tag).toList ++ typeMark f.typeRef := by
  unfold className
  cases f.typeRef with
  | none => exact (List.append_nil _).symm
  | some typeRef =>
    rw [String.toList_append, String.toList_append, List.append_assoc]
    rfl

/-- What stands before the first underscore is found again. -/
theorem takeWhile_append_typeMark {cs : List Char} (h : '_' ∉ cs) (t : Option String) :
    (cs ++ typeMark t).takeWhile (· ≠ '_') = cs := by
  have hcs : ∀ c ∈ cs, decide (c ≠ '_') = true := by
    intro c hc
    exact decide_eq_true fun heq => h (heq ▸ hc)
  rw [List.takeWhile_append_of_pos hcs]
  cases t <;> simp [typeMark]

/-- Two fields share a class name exactly when they agree in the name of the tag and in the type. -/
theorem className_eq_iff (f g : Field) : f.className = g.className ↔
    EdiSchema.className f.tag = EdiSchema.className g.tag ∧ f.typeRef = g.typeRef := by
  constructor
  · intro h
    have hlists := congrArg String.toList h
    rw [toList_className, toList_className] at hlists
    have htag : (EdiSchema.className f.tag).toList = (EdiSchema.className g.tag).toList := by
      have hbefore := congrArg (List.takeWhile (· ≠ '_')) hlists
      rwa [takeWhile_append_typeMark (underscore_not_mem_className f.tag),
        takeWhile_append_typeMark (underscore_not_mem_className g.tag)] at hbefore
    rw [htag] at hlists
    exact ⟨String.toList_inj.mp htag, typeMark_inj (List.append_cancel_left hlists)⟩
  · rintro ⟨htag, htype⟩
    rw [← String.toList_inj, toList_className, toList_className, htag, htype]

/-- A type leaves an underscore in the name of the class. -/
theorem underscore_mem_className {f : Field} (h : f.typeRef.isSome) : '_' ∈ f.className.toList := by
  obtain ⟨typeRef, htype⟩ := Option.isSome_iff_exists.mp h
  rw [toList_className, htype]
  exact List.mem_append_right _ List.mem_cons_self

/-- Class names tell composite fields apart. Two fields share a class name exactly when their tags
give one name and their types are equal, where no type differs from every type, the empty one among
them. The class name of a field with a type is given by no tag, is not that of the document root,
and among all nodes belongs to the fields of that type only. -/
theorem className_tells (f : Field) :
    (∀ g : Field, f.className = g.className ↔
      EdiSchema.className f.tag = EdiSchema.className g.tag ∧ f.typeRef = g.typeRef) ∧
    (f.typeRef.isSome →
      (∀ tag, f.className ≠ EdiSchema.className tag) ∧
      f.className ≠ documentRootName ∧
      ∀ n : Node, n.className = f.className → ∃ g, n = .field g ∧ g.typeRef = f.typeRef ∧
        EdiSchema.className g.tag = EdiSchema.className f.tag) := by
  refine ⟨f.className_eq_iff, fun htyped => ?_⟩
  have hmark := underscore_mem_className htyped
  have htag : ∀ tag, f.className ≠ EdiSchema.className tag := by
    intro tag h
    rw [h] at hmark
    exact underscore_not_mem_className tag hmark
  refine ⟨htag, ?_, ?_⟩
  · intro h
    rw [h] at hmark
    revert hmark
    decide
  · intro n hn
    cases n with
    | group header children => exact absurd hn.symm (htag header.tag)
    | segment header signature children => exact absurd hn.symm (htag header.tag)
    | field g =>
      obtain ⟨hname, htype⟩ := (g.className_eq_iff f).mp hn
      exact ⟨g, rfl, htype, hname⟩

/-- An amount whose type has an underscore in its name. -/
def typedAmount : Field := { tag := "C_516", typeRef := some "AMT_9" }

/-- The amount shares its class with a field of its type whose tag is written with a full stop, and
with none that has the underscores elsewhere. -/
theorem className_tells_amount : typedAmount.typeRef.isSome ∧
    typedAmount.className = "C516_AMT_9" ∧
    typedAmount.className = className { tag := "c.516", typeRef := some "AMT_9" } ∧
    typedAmount.className ≠ className { tag := "C516_AMT", typeRef := some "9" } ∧
    typedAmount.className ≠ className { tag := "C516_AMT_9" } ∧
    typedAmount.className ≠ documentRootName := by
  have htyped : typedAmount.typeRef.isSome := rfl
  obtain ⟨hsame, hother⟩ := className_tells typedAmount
  obtain ⟨htag, hroot, _⟩ := hother htyped
  refine ⟨htyped, by decide, (hsame _).mpr ⟨by decide, rfl⟩, ?_, htag "C516_AMT_9", hroot⟩
  intro h
  have htype := ((hsame _).mp h).2
  revert htype
  decide

end Field

end EdiSchema
