import EdiSchema.Archive

/-!
# Archives and the names they list

A path addresses a name (`Addresses`): between the blank characters at its ends it has the name with
one slash before it, or the name alone if that does not start with a slash. This is said of the text
of the path, and comes to the same as the normal form that is computed (`normalPath_eq_iff`), so
every path addresses one name and no other (`addresses_unique`).

The entries of an archive stand under the names that their paths addressed, and every look-up
addresses a name anew. So an entry answers to a path exactly when the path addresses the name the
entry is listed under (`Archive.answersTo_iff`). A name that still starts with a slash or a blank
character loses it on the way, which is what becomes of a path like `//x`: the normal form of a path
need not be normal (`normalPath_eq_self_iff`). The name with one more slash in front is always right
(`normalPath_slash`), because nothing listed ends in a blank character.

What can be said of the names of an archive is said of those that `Archive.Built` describes, by
induction on how the archive came about.
-/

namespace EdiSchema

/-! ## Normal paths -/

/-- A path addresses a name, with one slash before the name or none. -/
inductive Addresses (path name : String) : Prop
  | slash (h : Text.IsCore path.toList ('/' :: name.toList))
  /-- The slash may be left out where the name does not start with one. -/
  | plain (h : Text.IsCore path.toList name.toList) (hslash : ∀ c ∈ name.toList.head?, c ≠ '/')

/-- Nothing stands between the blank characters of the path, or one slash. -/
def AddressesNothing (path : String) : Prop :=
  Text.IsCore path.toList [] ∨ Text.IsCore path.toList ['/']

/-- Such a path addresses the empty name. -/
theorem addressesNothing_iff (path : String) : AddressesNothing path ↔ Addresses path "" := by
  constructor
  · rintro (h | h)
    · exact .plain h fun c hc => nomatch hc
    · exact .slash h
  · intro h
    cases h with
    | slash h => exact .inr h
    | plain h _ => exact .inl h

/-- The normal form of a path is the name that the path addresses. -/
theorem normalPath_eq_iff (path name : String) : normalPath path = name ↔ Addresses path name := by
  rw [← String.toList_inj, normalPath, String.toList_ofList]
  constructor
  · intro h
    unfold dropSlash at h
    split at h
    · next rest hcore =>
      subst h
      exact .slash ((Text.trim_eq_iff _ _).mp hcore)
    · next hslash =>
      refine .plain ((Text.trim_eq_iff _ _).mp h) ?_
      rintro c hc rfl
      obtain ⟨rest, hrest⟩ := List.head?_eq_some_iff.mp hc
      exact hslash rest (h.trans hrest)
  · intro h
    cases h with
    | slash h =>
      rw [h.trim_eq]
      rfl
    | plain h hslash =>
      rw [h.trim_eq]
      unfold dropSlash
      split
      · next heq => exact absurd rfl (hslash '/' (by rw [heq]; rfl))
      · rfl

/-- Every path addresses one name. -/
theorem addresses_unique (path : String) :
    ∃ name, ∀ other, Addresses path other ↔ other = name := by
  refine ⟨normalPath path, fun other => ?_⟩
  rw [← normalPath_eq_iff, eq_comm]

/-- Names that are addressed do not end in a blank character. -/
theorem Addresses.not_blank_of_getLast? {path name : String} (h : Addresses path name) :
    ∀ c ∈ name.toList.getLast?, ¬ Text.isBlankChar c := by
  intro c hc
  cases h with
  | slash h =>
    apply h.ends.2
    rw [List.getLast?_cons, hc]
    rfl
  | plain h _ => exact h.ends.2 c hc

/-- Paths are normal that start with neither a slash nor a blank character and do not end in one. -/
theorem normalPath_eq_self_iff (path : String) : normalPath path = path ↔
    (∀ c ∈ path.toList.head?, c ≠ '/' ∧ ¬ Text.isBlankChar c) ∧
      ∀ c ∈ path.toList.getLast?, ¬ Text.isBlankChar c := by
  rw [normalPath_eq_iff]
  constructor
  · intro h
    cases h with
    | slash h =>
      -- what stands in a path is not longer than the path
      have hlen := h.length_le
      rw [List.length_cons] at hlen
      omega
    | plain h hslash =>
      obtain ⟨hfirst, hlast⟩ := h.ends
      exact ⟨fun c hc => ⟨hslash c hc, hfirst c hc⟩, hlast⟩
  · rintro ⟨hfirst, hlast⟩
    have hcore := (Text.isCore_self_iff path.toList).mpr ⟨fun c hc => (hfirst c hc).2, hlast⟩
    exact .plain hcore fun c hc => (hfirst c hc).1

/-- A slash before a normal form is the one that gets dropped. -/
theorem normalPath_slash (path : String) :
    normalPath ("/" ++ normalPath path) = normalPath path := by
  have hends := ((normalPath_eq_iff path _).mp rfl).not_blank_of_getLast?
  have hslash : "/".toList = ['/'] := by decide +kernel
  rw [normalPath_eq_iff]
  apply Addresses.slash
  rw [String.toList_append, hslash, List.singleton_append, Text.isCore_self_iff]
  constructor
  · intro c hc
    cases hc
    decide
  · intro c hc
    rw [List.getLast?_cons] at hc
    cases hl : (normalPath path).toList.getLast? with
    | none =>
      rw [hl] at hc
      cases hc
      decide
    | some d =>
      rw [hl] at hc
      cases hc
      exact hends d hl

namespace Archive

variable {a b : Archive}

/-! ## Entries by path -/

/-- The entry at a place answers to a path: the path leads to its content, and taking the path out
gives the content and takes out this entry and no other. -/
def AnswersTo (a : Archive) (place : Nat) (path : String) : Prop :=
  ∃ e, a.entries[place]? = some e ∧ a.bytes? path = some e.2 ∧
    (a.remove path).1 = some e.2 ∧ (a.remove path).2.entries = a.entries.eraseIdx place

/-- An entry answers to the paths whose normal form is its name. -/
theorem answersTo_iff (a : Archive) (place : Nat) (path : String) :
    a.AnswersTo place path ↔ a.name? place = some (normalPath path) := by
  constructor
  · rintro ⟨e, he, -, -, herase⟩
    have hkey : a.files.get? e.1 = some e.2 :=
      Entries.get?_of_mem a.files.nodup (List.mem_of_getElem? he)
    have hsame : a.files.erase (normalPath path) = a.files.erase e.1 :=
      OrderedMap.ext (herase.trans (Entries.erase_eq_eraseIdx a.files.nodup he).symm)
    -- the entry is gone, and an erasure takes out nothing but its key
    by_cases hname : normalPath path = e.1
    · rw [name?, he, hname]
      rfl
    · have hgone := congrArg (OrderedMap.get? · e.1) hsame
      simp [hname, hkey] at hgone
  · intro hname
    obtain ⟨e, he, hkey⟩ := Option.map_eq_some_iff.mp hname
    have hbytes : a.bytes? path = some e.2 := by
      rw [bytes?, ← hkey]
      exact Entries.get?_of_mem a.files.nodup (List.mem_of_getElem? he)
    refine ⟨e, he, hbytes, hbytes, ?_⟩
    show Entries.erase (normalPath path) a.files.entries = _
    rw [← hkey]
    exact Entries.erase_eq_eraseIdx a.files.nodup he

/-! ## Archives that come about -/

/-- The archives that additions, removals and merges make out of the empty one. -/
inductive Built : Archive → Prop
  | empty : Built empty
  | add {a b : Archive} {path : String} {bytes : ByteArray} :
    Built a → a.add path bytes = .ok b → Built b
  | remove {a : Archive} (path : String) : Built a → Built (a.remove path).2
  | merge {a b : Archive} : Built a → Built b → Built (a.merge b)

/-- Additions succeed where something is left of the path, and write the content under it. -/
theorem add_eq_ok_iff (a b : Archive) (path : String) (bytes : ByteArray) :
    a.add path bytes = .ok b ↔
      normalPath path ≠ "" ∧ b = ⟨a.files.insert (normalPath path) bytes⟩ := by
  unfold add
  by_cases h : normalPath path = ""
  · rw [if_pos (String.isEmpty_iff.mpr h)]
    simp [h]
  · rw [if_neg (fun he => h (String.isEmpty_iff.mp he)), Except.ok.injEq, eq_comm]
    simp [h]

/-- Whatever is listed is the normal form of some path, and not empty. -/
theorem Built.listed (h : a.Built) :
    ∀ name ∈ a.files.keys, name ≠ "" ∧ ∃ path, normalPath path = name := by
  induction h with
  | empty => simp [Archive.empty, OrderedMap.keys, OrderedMap.empty]
  | @add a b path bytes _ hadd ih =>
    obtain ⟨hne, rfl⟩ := (add_eq_ok_iff a b path bytes).mp hadd
    intro name hname
    rcases (a.files.mem_keys_insert _ _ _).mp hname with rfl | hold
    · exact ⟨hne, path, rfl⟩
    · exact ih name hold
  | @remove a path _ ih =>
    intro name hname
    have hkeys : name ∈ a.files.keys.erase (normalPath path) := by
      rw [← OrderedMap.keys_erase]
      exact hname
    exact ih name (List.mem_of_mem_erase hkeys)
  | @merge a b _ _ iha ihb =>
    intro name hname
    rcases (a.files.mem_keys_insertAll b.entries name).mp hname with hold | hnew
    · exact iha name hold
    · exact ihb name hnew

/-- Each entry answers to its name with one more slash in front, and to its name alone exactly when
the name starts with neither a slash nor a blank character. -/
theorem Built.answersTo_name (h : a.Built) {place : Nat} (hplace : place < a.size) :
    ∃ name, a.name? place = some name ∧ a.AnswersTo place ("/" ++ name) ∧
      (a.AnswersTo place name ↔
        ∀ c ∈ name.toList.head?, c ≠ '/' ∧ ¬ Text.isBlankChar c) := by
  have hget : a.entries[place]? = some a.entries[place] := List.getElem?_eq_getElem hplace
  have hname : a.name? place = some a.entries[place].1 := by rw [name?, hget]; rfl
  obtain ⟨-, path, hpath⟩ := h.listed a.entries[place].1
    (List.mem_map_of_mem (List.mem_of_getElem? hget))
  refine ⟨_, hname, ?_, ?_⟩
  · rw [answersTo_iff, hname, ← hpath, normalPath_slash]
  · rw [answersTo_iff, hname, Option.some_inj, eq_comm, normalPath_eq_self_iff, ← hpath]
    exact and_iff_left ((normalPath_eq_iff path _).mp rfl).not_blank_of_getLast?

/-- An archive after the paths `//x` and `x`. -/
def slashed : Archive :=
  ⟨(OrderedMap.empty.insert "/x" ⟨#[1]⟩).insert "x" ⟨#[2]⟩⟩

theorem built_slashed : slashed.Built := by
  have hslash : normalPath "//x" = "/x" := by decide +kernel
  have hplain : normalPath "x" = "x" := by decide +kernel
  have hfirst : empty.add "//x" ⟨#[1]⟩ = .ok ⟨OrderedMap.empty.insert "/x" ⟨#[1]⟩⟩ := by
    rw [add_eq_ok_iff, hslash]
    exact ⟨by decide, rfl⟩
  have hsecond : add ⟨OrderedMap.empty.insert "/x" ⟨#[1]⟩⟩ "x" ⟨#[2]⟩ = .ok slashed := by
    rw [add_eq_ok_iff, hplain]
    exact ⟨by decide, rfl⟩
  exact (Built.empty.add hfirst).add hsecond

/-- The first entry answers to `//x`, to its name with one more slash, and not to its name. -/
theorem built_slashed_answersTo : slashed.Built ∧ slashed.name? 0 = some "/x" ∧
    slashed.AnswersTo 0 "//x" ∧ ¬ slashed.AnswersTo 0 "/x" := by
  have hplace : 0 < slashed.size := by decide
  obtain ⟨name, hname, hslash, hplain⟩ := built_slashed.answersTo_name hplace
  have hfirst : slashed.name? 0 = some "/x" := by decide
  obtain rfl : name = "/x" := Option.some_inj.mp (hname.symm.trans hfirst)
  refine ⟨built_slashed, hfirst, hslash, fun h => ?_⟩
  exact (hplain.mp h '/' (by decide +kernel)).1 rfl

/-- Not every archive can be read by the names it lists. -/
theorem not_forall_answersTo_name : ¬ ∀ a : Archive, a.Built → ∀ place < a.size,
    ∃ name, a.name? place = some name ∧ a.AnswersTo place name := by
  intro h
  obtain ⟨name, hname, hanswers⟩ := h slashed built_slashed 0 (by decide)
  have hfirst : slashed.name? 0 = some "/x" := by decide
  have hother : normalPath "/x" = "x" := by decide +kernel
  obtain rfl : name = "/x" := Option.some_inj.mp (hname.symm.trans hfirst)
  rw [answersTo_iff, hfirst, hother] at hanswers
  exact absurd hanswers (by decide)

end Archive

end EdiSchema
