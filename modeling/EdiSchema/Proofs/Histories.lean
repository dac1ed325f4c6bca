import EdiSchema.Proofs.Classes
import EdiSchema.Proofs.Frame
import EdiSchema.Proofs.Index
import Mathlib.Data.List.Dedup

/-!
# Histories of a registry

A registry is made over some package, and then calls follow, of which some may fail. Whatever a call
is, it comes to one of two things: classes are added at the end, or a feature is added to a class
(`Registry.after_cases`). What both of them keep is kept by every history
(`Registry.afterAll_induction`).

Names are entered in two places, with the class and in the index, and neither step ever parts them:
`Registry.Enters` says that new names have come at the end of both. So the index can be read off the
names at any time. `Registry.indexed_of_history` says what it then says, over a package whose
classes may share names: it lists the names of the classes, each once, and leads to the last class
of a name among those at the start, or else to the one class that came in under the name.
-/

namespace EdiSchema

/-! ## Calls -/

/-- A call on a registry. -/
inductive Call
  | register (c : ClassDef)
  | addFeature (id : ClassId) (f : Feature)
  | resolve (name kind : String)
  | addGroup (g : Group)
  | addSegment (s : Segment)
  | addField (leaf : Field)

namespace Registry

/-- The registry that a call leaves, whether the call succeeds or fails. -/
def after (r : Registry) : Call → Registry
  | .register c => (r.register c).2
  | .addFeature id f => r.addFeature id f
  | .resolve _ _ => r
  | .addGroup g => (r.addGroup g).2
  | .addSegment s => (r.addSegment s).2
  | .addField leaf => (r.addField leaf).2

/-- The registry that calls leave which come one after the other. -/
def afterAll (r : Registry) : List Call → Registry
  | [] => r
  | call :: rest => (r.after call).afterAll rest

/-- The registry over a package with a history of calls. -/
def ofHistory (p : Package) (policy : ConflictPolicy) (calls : List Call) : Registry :=
  (ofPackage p policy).afterAll calls

variable {r r₁ r₂ : Registry} {news more : List ClassDef} {name : String} {id : ClassId}

/-- What a call can do. -/
theorem after_cases (r : Registry) (call : Call) :
    (∃ news, r.Adds news (r.after call)) ∨ ∃ id f, r.after call = r.addFeature id f := by
  cases call with
  | register c => exact .inl (r.exists_register_adds c)
  | addFeature id f => exact .inr ⟨id, f, rfl⟩
  | resolve name kind => exact .inl ⟨[], .refl r⟩
  | addGroup g => exact .inl (r.addGroup_adds g)
  | addSegment s => exact .inl (r.addSegment_adds s)
  | addField leaf => exact .inl (r.addField_adds leaf)

/-- What holds at the start, and is kept by the two things that a call can do, holds after any
history. -/
theorem afterAll_induction {P : Registry → Prop} (start : P r)
    (adds : ∀ s news s', P s → s.Adds news s' → P s')
    (feature : ∀ s id f, P s → P (s.addFeature id f)) (calls : List Call) :
    P (r.afterAll calls) := by
  induction calls generalizing r with
  | nil => exact start
  | cons call rest ih =>
    apply ih
    rcases r.after_cases call with ⟨news, h⟩ | ⟨id, f, h⟩
    · exact adds r news _ start h
    · rw [h]
      exact feature r id f start

/-- A sound registry is sound after any calls. -/
theorem Sound.afterAll (hr : r.Sound) (calls : List Call) : (r.afterAll calls).Sound :=
  afterAll_induction hr (fun _ _ _ hs h => hs.adds h) (fun _ id f hs => hs.addFeature id f) calls

/-- Whatever the calls were, a name is found with a class of that name. -/
theorem ofHistory_sound (p : Package) (policy : ConflictPolicy) (calls : List Call) :
    (ofHistory p policy calls).Sound :=
  (ofPackage_sound p policy).afterAll calls

/-! ## Names -/

/-- The names of the classes `news` have come at the end, in the package and in the index alike. -/
structure Enters (r : Registry) (news : List ClassDef) (r' : Registry) : Prop where
  names : r'.package.classes.map ClassDef.name =
    r.package.classes.map ClassDef.name ++ news.map ClassDef.name
  entries : r'.index.entries = r.index.entries ++ numbered r.package.classes.length news

theorem Enters.refl (r : Registry) : r.Enters [] r :=
  ⟨by simp, by simp [numbered]⟩

/-- As many classes come in as there are names. -/
theorem Enters.length (h : r.Enters news r₁) :
    r₁.package.classes.length = r.package.classes.length + news.length := by
  have hlength := congrArg List.length h.names
  simpa using hlength

/-- Names that come in one after the other come in together. -/
theorem Enters.trans (h₁ : r.Enters news r₁) (h₂ : r₁.Enters more r₂) :
    r.Enters (news ++ more) r₂ := by
  constructor
  · rw [h₂.names, h₁.names, List.map_append, List.append_assoc]
  · rw [h₂.entries, h₁.entries, h₁.length, numbered_append, List.append_assoc]

/-- Classes that are added bring in their names. -/
theorem Adds.enters (h : r.Adds news r₁) : r.Enters news r₁ :=
  ⟨by rw [h.classes, List.map_append], h.entries⟩

/-- Features have no part in the names of classes. -/
theorem addFeature_enters (r : Registry) (id : ClassId) (f : Feature) :
    r.Enters [] (r.addFeature id f) := by
  constructor
  · apply List.ext_getElem?
    intro i
    have hclass := r.class?_addFeature id ⟨i⟩ f
    simp only [class?, Package.class?] at hclass
    rw [List.map_nil, List.append_nil, List.getElem?_map, List.getElem?_map, hclass]
    split
    · rw [Option.map_map]
      rfl
    · rfl
  · exact (Enters.refl r).entries

/-- Every call brings in some names, or none. -/
theorem exists_enters (r : Registry) (call : Call) : ∃ news, r.Enters news (r.after call) := by
  rcases r.after_cases call with ⟨news, h⟩ | ⟨id, f, h⟩
  · exact ⟨news, h.enters⟩
  · rw [h]
    exact ⟨[], r.addFeature_enters id f⟩

/-- So do calls in a row. -/
theorem exists_enters_all (r : Registry) (calls : List Call) :
    ∃ news, r.Enters news (r.afterAll calls) := by
  apply afterAll_induction (P := fun s => ∃ news, r.Enters news s)
  · exact ⟨[], .refl r⟩
  · rintro s more s' ⟨news, hs⟩ h
    exact ⟨news ++ more, hs.trans h.enters⟩
  · rintro s id f ⟨news, hs⟩
    exact ⟨news ++ [], hs.trans (s.addFeature_enters id f)⟩

/-- The index lists the names that come in behind the old ones. -/
theorem Enters.keys (h : r.Enters news r₁) :
    r₁.index.keys = r.index.keys ++ news.map ClassDef.name := by
  simp only [OrderedMap.keys, h.entries, List.map_append, numbered_names]

/-- The index is a map, so the names that come are new, and none of them comes twice. -/
theorem Enters.fresh (h : r.Enters news r₁) : (news.map ClassDef.name).Nodup ∧
    ∀ name ∈ news.map ClassDef.name, name ∉ r.index.keys := by
  have hnodup : r₁.index.keys.Nodup := r₁.index.nodup
  rw [h.keys] at hnodup
  obtain ⟨_, hnews, hapart⟩ := List.nodup_append.mp hnodup
  exact ⟨hnews, fun name hmem hkey => hapart name hkey name hmem rfl⟩

/-- A name of old leads where it led, and a new one to the class that came in under it. -/
theorem Enters.get? (h : r.Enters news r₁) (hid : r₁.get? name = some id) :
    r.get? name = some id ∨ r.get? name = none ∧ r.package.classes.length ≤ id.index ∧
      (news.map ClassDef.name)[id.index - r.package.classes.length]? = some name := by
  simp only [Registry.get?, OrderedMap.get?] at hid ⊢
  rw [h.entries, Entries.get?_append] at hid
  cases hold : Entries.get? name r.index.entries with
  | some k =>
    rw [hold] at hid
    exact .inl hid
  | none =>
    rw [hold] at hid
    obtain ⟨hle, c, hc, hname⟩ := mem_numbered (Entries.mem_of_get? hid)
    refine .inr ⟨rfl, hle, ?_⟩
    rw [List.getElem?_map, hc, ← hname]
    rfl

/-! ## What the index says -/

/-- What the index of a registry says that started from the package `p`. -/
structure Indexed (p : Package) (r : Registry) : Prop where
  /-- The names that it lists are those of the classes. -/
  contains : ∀ name, r.contains name ↔ name ∈ r.package.classes.map ClassDef.name
  /-- A name leads to a class that bears it. -/
  found : ∀ name id, r.get? name = some id → ∃ c, r.class? id = some c ∧ c.name = name
  /-- Among the classes at the start, a name leads to the last that bears it. -/
  old : ∀ name ∈ p.classes.map ClassDef.name, ∀ id, r.get? name = some id → p.LastNamed name id
  /-- Any other name leads to the one class that has come in under it. -/
  new : ∀ name ∉ p.classes.map ClassDef.name, ∀ id, r.get? name = some id →
    r.package.Bears name id
  /-- It lists as many names as there are. -/
  size : r.size = (r.package.classes.map ClassDef.name).dedup.length

/-- From `r` to `r'` classes have come in under new names, no two under one. -/
def EntersNewNames (r r' : Registry) : Prop :=
  ∃ names : List String,
    r'.package.classes.map ClassDef.name = r.package.classes.map ClassDef.name ++ names ∧
    names.Nodup ∧ ∀ name ∈ names, name ∉ r.package.classes.map ClassDef.name

/-- A name that one place has is the name of one class. -/
theorem Package.bears_of_names {p : Package} {name : String} {id : ClassId}
    (h : ∀ i, (p.classes.map ClassDef.name)[i]? = some name ↔ i = id.index) : p.Bears name id := by
  intro k
  rw [Package.class?, ← Option.map_eq_some_iff, ← List.getElem?_map, h]
  obtain ⟨i⟩ := k
  obtain ⟨j⟩ := id
  exact ⟨fun hij => congrArg ClassId.mk hij, fun hij => congrArg ClassId.index hij⟩

section History

variable (p : Package) (policy : ConflictPolicy) (calls : List Call)

/-- The names that the index lists are those of the classes. -/
theorem mem_keys_ofHistory (name : String) : name ∈ (ofHistory p policy calls).index.keys ↔
    name ∈ (ofHistory p policy calls).package.classes.map ClassDef.name := by
  obtain ⟨news, h⟩ := (ofPackage p policy).exists_enters_all calls
  rw [ofHistory, h.keys, h.names, List.mem_append, List.mem_append, mem_keys_ofPackage]
  rfl

/-- A name that came in later leads to the one class that bears it. -/
theorem bears_ofHistory {name : String} (hnew : name ∉ p.classes.map ClassDef.name) {id : ClassId}
    (hid : (ofHistory p policy calls).get? name = some id) :
    (ofHistory p policy calls).package.Bears name id := by
  obtain ⟨news, h⟩ := (ofPackage p policy).exists_enters_all calls
  have hnone : (ofPackage p policy).get? name = none := by
    rw [← Option.not_isSome_iff_eq_none, ← mem_keys_iff, mem_keys_ofPackage]
    exact hnew
  have hstart : (ofPackage p policy).package = p := rfl
  rcases h.get? hid with hold | ⟨_, hle, hplace⟩
  · rw [hnone] at hold
    cases hold
  apply Package.bears_of_names
  intro i
  rw [ofHistory, h.names, hstart]
  rw [hstart] at hle hplace
  -- the name is none of those at the start, and stands once among those that came
  have hlength : (p.classes.map ClassDef.name).length = p.classes.length := List.length_map ..
  constructor
  · intro hi
    by_cases hlt : i < p.classes.length
    · rw [List.getElem?_append_left (hlength ▸ hlt)] at hi
      exact absurd (List.mem_of_getElem? hi) hnew
    · rw [List.getElem?_append_right (hlength ▸ Nat.le_of_not_lt hlt), hlength] at hi
      have hsame := (List.getElem?_inj (List.getElem?_eq_some_iff.mp hi).1 h.fresh.1).mp
        (hi.trans hplace.symm)
      omega
  · rintro rfl
    rw [List.getElem?_append_right (hlength ▸ hle), hlength]
    exact hplace

/-- The size of the index is the number of distinct names. -/
theorem size_ofHistory : (ofHistory p policy calls).size =
    ((ofHistory p policy calls).package.classes.map ClassDef.name).dedup.length := by
  have hperm : (ofHistory p policy calls).index.keys.Perm
      ((ofHistory p policy calls).package.classes.map ClassDef.name).dedup := by
    apply (List.perm_ext_iff_of_nodup (ofHistory p policy calls).index.nodup
      (List.nodup_dedup _)).mpr
    intro name
    rw [List.mem_dedup]
    exact mem_keys_ofHistory p policy calls name
  rw [← hperm.length_eq]
  exact (List.length_map ..).symm

/-- The index after any history, over any package and under either policy. The names that it lists
are those of the classes; each leads to a class that bears it, the last of its name among the
classes at the start, or else the one that came in under it; and it is as long as there are distinct
names. No call brings in a second class of a name. -/
theorem indexed_of_history : (ofHistory p policy calls).Indexed p ∧
    ∀ call, (ofHistory p policy calls).EntersNewNames ((ofHistory p policy calls).after call) := by
  refine ⟨⟨fun name => ?_, ofHistory_sound p policy calls, fun name hold id hid => ?_,
    fun name hnew id hid => bears_ofHistory p policy calls hnew hid, size_ofHistory p policy calls⟩,
    fun call => ?_⟩
  · rw [← mem_keys_ofHistory]
    exact OrderedMap.contains_iff _ name
  · obtain ⟨news, h⟩ := (ofPackage p policy).exists_enters_all calls
    rcases h.get? hid with hstart | ⟨hnone, _⟩
    · exact (get?_ofPackage p policy name id).mp hstart
    · exact absurd ((mem_keys_ofPackage p policy name).mpr hold) (not_mem_keys hnone)
  · obtain ⟨news, h⟩ := (ofHistory p policy calls).exists_enters call
    refine ⟨_, h.names, h.fresh.1, fun name hmem => ?_⟩
    rw [← mem_keys_ofHistory]
    exact h.fresh.2 name hmem

-- Two of the classes at the start share a name, and the calls bring in one class for two more.
example :
    let p := ((Package.named "twice").addClass { name := "A" }).addClass { name := "A" }
    let r := ofHistory p .fail [.register { name := "A" }, .register { name := "B" },
      .addField { tag := "b", components := [{ tag := "c" }] }]
    r.get? "A" = some ⟨1⟩ ∧ r.get? "B" = some ⟨2⟩ ∧ r.size = 2 ∧ r.package.classes.length = 3 := by
  decide +kernel

end History

end Registry

end EdiSchema
