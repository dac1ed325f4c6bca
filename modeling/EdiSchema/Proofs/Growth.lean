import EdiSchema.Conversion.Registry

/-!
# How a registry grows

A conversion registers classes and adds features to the ones that it has registered itself. Seen
from before, all that happens is that classes have been added at the end: `Registry.Adds` says so,
for the package and for the index together. The relation is reflexive and transitive, one fresh
`register` adds one class (`register_adds`), and adding features to a class that is present commutes
with it (`Adds.addFeatures`), so a class may be filled while others are registered behind it.

What was registered stays found under its name, and stays the class it was (`Adds.get?`,
`Adds.class?`). An index is `Sound` when every name leads to a class of that name; `Adds` keeps
that too.
-/

namespace EdiSchema

/-- The class with further features behind its own. -/
def ClassDef.withFeatures (c : ClassDef) (fs : List Feature) : ClassDef :=
  { c with features := c.features ++ fs }

/-- The references of a class are those of its features that are references. -/
theorem ClassDef.mem_references {c : ClassDef} {ref : Reference} :
    ref ∈ c.references ↔ .ref ref ∈ c.features := by
  unfold references
  rw [List.mem_filterMap]
  constructor
  · rintro ⟨f, hf, href⟩
    cases f with
    | ref s => cases href; exact hf
    | attr a => cases href
  · exact fun h => ⟨.ref ref, h, rfl⟩

/-- The entries of an index for classes that stand in a row from `start` on. -/
def numbered (start : Nat) (cs : List ClassDef) : List (String × ClassId) :=
  (cs.zipIdx start).map fun e => (e.1.name, ⟨e.2⟩)

/-- Numbers go on where classes are added behind. -/
theorem numbered_append (start : Nat) (cs ds : List ClassDef) :
    numbered start (cs ++ ds) = numbered start cs ++ numbered (start + cs.length) ds := by
  simp [numbered, List.zipIdx_append]

theorem numbered_names (start : Nat) (cs : List ClassDef) :
    (numbered start cs).map Prod.fst = cs.map ClassDef.name := by
  induction cs generalizing start with
  | nil => rfl
  | cons c cs ih =>
    have := ih (start + 1)
    simp only [numbered] at this
    simp [numbered, List.zipIdx_cons, this]

/-- A numbered class stands at its number. -/
theorem mem_numbered {start : Nat} {cs : List ClassDef} {name : String} {id : ClassId}
    (h : (name, id) ∈ numbered start cs) :
    start ≤ id.index ∧ ∃ c, cs[id.index - start]? = some c ∧ c.name = name := by
  obtain ⟨⟨c, i⟩, hc, he⟩ := List.mem_map.mp h
  obtain ⟨rfl, rfl⟩ := Prod.mk.inj he
  obtain ⟨hi, hget⟩ := List.mem_zipIdx_iff_le_and_getElem?_sub.mp hc
  exact ⟨hi, c, hget, rfl⟩

section Modify

variable {α : Type} {f : α → α}

/-- A change within the first list. -/
theorem modify_append_of_lt {i : Nat} {xs : List α} (h : i < xs.length) (ys : List α) :
    (xs ++ ys).modify i f = xs.modify i f ++ ys := by
  induction xs generalizing i with
  | nil => exact absurd h (Nat.not_lt_zero i)
  | cons x xs ih =>
    cases i with
    | zero => rfl
    | succ i => simp [ih (Nat.lt_of_succ_lt_succ h)]

/-- A change right behind a list. -/
theorem modify_append_length (xs : List α) (y : α) :
    (xs ++ [y]).modify xs.length f = xs ++ [f y] := by
  induction xs with
  | nil => rfl
  | cons x xs ih => simp [ih]

end Modify

namespace Registry

variable {r r₁ r₂ : Registry} {news more : List ClassDef} {name : String} {id : ClassId}

/-! ## Looking up -/

/-- What a look-up comes to: the name is free; or its class may be used, being of the right kind or
the policy being lenient; or the name belongs to a class of another kind. -/
theorem resolve_cases (r : Registry) (name kind : String) :
    (r.get? name = none ∧ r.resolve name kind = .ok none) ∨
    (∃ id, r.get? name = some id ∧ (r.kindOf id = kind ∨ r.policy = .reuseFirst) ∧
      r.resolve name kind = .ok (some id)) ∨
    (∃ id, r.get? name = some id ∧ r.kindOf id ≠ kind ∧ r.policy = .fail ∧
      r.resolve name kind = .error (.classNameConflict name (r.kindOf id) kind)) := by
  unfold resolve
  cases hid : r.get? name with
  | none => exact .inl ⟨rfl, rfl⟩
  | some id =>
    by_cases hk : r.kindOf id = kind
    · exact .inr (.inl ⟨id, rfl, .inl hk, by simp [hk]⟩)
    · cases hp : r.policy with
      | reuseFirst => exact .inr (.inl ⟨id, rfl, .inr rfl, by simp [hk]⟩)
      | fail => exact .inr (.inr ⟨id, rfl, hk, rfl, by simp [hk]⟩)

/-- A name that is free resolves to no class, whatever the kind and the policy. -/
theorem resolve_of_free (h : r.get? name = none) (kind : String) :
    r.resolve name kind = .ok none := by
  rw [resolve, h]

/-- Under the lenient policy a look-up finds whatever class has the name. -/
theorem resolve_of_reuseFirst (h : r.policy = .reuseFirst) (name kind : String) :
    r.resolve name kind = .ok (r.get? name) := by
  rcases r.resolve_cases name kind with ⟨hid, hres⟩ | ⟨id, hid, _, hres⟩ | ⟨_, _, _, hp, _⟩
  · rw [hres, hid]
  · rw [hres, hid]
  · rw [h] at hp
    cases hp

theorem kindOf_eq {c : ClassDef} (h : r.class? id = some c) : r.kindOf id = c.kind := by
  simp [kindOf, h]

/-- The names that are listed are the names that are found. -/
theorem mem_keys_iff (r : Registry) (name : String) :
    name ∈ r.index.keys ↔ (r.get? name).isSome :=
  (r.index.contains_iff name).symm

theorem not_mem_keys (h : r.get? name = none) : name ∉ r.index.keys := by
  rw [mem_keys_iff, h]
  exact Bool.false_ne_true

theorem mem_keys (h : r.get? name = some id) : name ∈ r.index.keys := by
  rw [mem_keys_iff, h]
  rfl

/-! ## Adding features -/

/-- Adds features to a class one after the other. -/
def addFeatures (r : Registry) (id : ClassId) : List Feature → Registry
  | [] => r
  | f :: fs => (r.addFeature id f).addFeatures id fs

/-- A feature brings in no class. -/
theorem length_addFeature (r : Registry) (id : ClassId) (f : Feature) :
    (r.addFeature id f).package.classes.length = r.package.classes.length := by
  simp [addFeature, Package.addFeature, Package.modifyClass]

/-- A feature that is added concerns one class. -/
theorem class?_addFeature (r : Registry) (id k : ClassId) (f : Feature) :
    (r.addFeature id f).class? k =
      if k = id then (r.class? k).map (·.addFeature f) else r.class? k :=
  Package.class?_modifyClass r.package id k (·.addFeature f)

/-- A class stays what it is when a feature is added to it or to another, further features apart. -/
theorem exists_class?_addFeature {k : ClassId} {c : ClassDef} (hc : r.class? k = some c)
    (id : ClassId) (f : Feature) :
    ∃ fs, (r.addFeature id f).class? k = some (c.withFeatures fs) := by
  rw [class?_addFeature, hc]
  split
  · exact ⟨[f], rfl⟩
  · exact ⟨[], by rw [ClassDef.withFeatures, List.append_nil]⟩

theorem isSome_class?_addFeature (h : (r.class? id).isSome) (k : ClassId) (f : Feature) :
    ((r.addFeature k f).class? id).isSome := by
  obtain ⟨c, hc⟩ := Option.isSome_iff_exists.mp h
  obtain ⟨fs, hfs⟩ := exists_class?_addFeature hc k f
  rw [hfs]
  rfl

/-! ## Adding classes -/

/-- `r'` is `r` with the classes `news` added at the end, each under its name. -/
structure Adds (r : Registry) (news : List ClassDef) (r' : Registry) : Prop where
  package : r'.package = { r.package with classes := r.package.classes ++ news }
  entries : r'.index.entries = r.index.entries ++ numbered r.package.classes.length news
  policy : r'.policy = r.policy

theorem Adds.refl (r : Registry) : r.Adds [] r :=
  ⟨by simp, by simp [numbered], rfl⟩

/-- What was there comes first, and the new classes behind it. -/
theorem Adds.classes (h : r.Adds news r₁) : r₁.package.classes = r.package.classes ++ news := by
  rw [h.package]

/-- Two additions in a row are one, with the classes of both. -/
theorem Adds.trans (h₁ : r.Adds news r₁) (h₂ : r₁.Adds more r₂) : r.Adds (news ++ more) r₂ := by
  refine ⟨?_, ?_, h₂.policy.trans h₁.policy⟩
  · rw [h₂.package, h₁.package, List.append_assoc]
  · rw [h₂.entries, h₁.entries, h₁.classes, numbered_append, List.length_append, List.append_assoc]

/-- The names follow the classes. -/
theorem Adds.keys (h : r.Adds news r₁) :
    r₁.index.keys = r.index.keys ++ news.map ClassDef.name := by
  simp only [OrderedMap.keys, h.entries, List.map_append, numbered_names]

/-- A name stays where it is. -/
theorem Adds.get? (h : r.Adds news r₁) (hid : r.get? name = some id) : r₁.get? name = some id := by
  simp only [Registry.get?, OrderedMap.get?] at hid ⊢
  rw [h.entries, Entries.get?_append, hid]
  rfl

/-- A class stays as it is. -/
theorem Adds.class? (h : r.Adds news r₁) {c : ClassDef} (hc : r.class? id = some c) :
    r₁.class? id = some c := by
  simp only [Registry.class?, Package.class?] at hc ⊢
  rw [h.classes, List.getElem?_append_left (List.getElem?_eq_some_iff.mp hc).1, hc]

theorem Adds.isSome_class? (h : r.Adds news r₁) (hid : (r.class? id).isSome) :
    (r₁.class? id).isSome := by
  obtain ⟨c, hc⟩ := Option.isSome_iff_exists.mp hid
  rw [h.class? hc]
  rfl

/-- A name that was free leads to one of the new classes. -/
theorem Adds.get?_new (h : r.Adds news r₁) (hfree : r.get? name = none)
    (hid : r₁.get? name = some id) : ∃ c, r₁.class? id = some c ∧ c.name = name := by
  simp only [Registry.get?, OrderedMap.get?] at hfree hid
  rw [h.entries, Entries.get?_append, hfree] at hid
  obtain ⟨hle, c, hc, hname⟩ := mem_numbered (Entries.mem_of_get? hid)
  refine ⟨c, ?_, hname⟩
  rw [Registry.class?, Package.class?, h.classes, List.getElem?_append_right hle, hc]

/-- The first of the new classes has the next id. -/
theorem Adds.class?_nextId {c : ClassDef} (h : r.Adds (c :: news) r₁) :
    r₁.class? r.package.nextId = some c := by
  simp [Registry.class?, Package.class?, Package.nextId, h.classes]

/-- Features may be added to a class before or after others are registered behind it. -/
theorem Adds.addFeature (h : r.Adds news r₁) (hid : (r.class? id).isSome) (f : Feature) :
    (r.addFeature id f).Adds news (r₁.addFeature id f) := by
  have hlt : id.index < r.package.classes.length := by
    simpa [Registry.class?, Package.class?] using hid
  refine ⟨?_, ?_, h.policy⟩
  · simp only [Registry.addFeature, Package.addFeature, Package.modifyClass, h.package]
    rw [modify_append_of_lt hlt]
  · rw [length_addFeature]
    exact h.entries

/-- Classes may be added before or after features of a class that was there: the outcome is the
same. -/
theorem Adds.addFeatures (h : r.Adds news r₁) (hid : (r.class? id).isSome) (fs : List Feature) :
    (r.addFeatures id fs).Adds news (r₁.addFeatures id fs) := by
  induction fs generalizing r r₁ with
  | nil => exact h
  | cons f fs ih => exact ih (h.addFeature hid f) (isSome_class?_addFeature hid id f)

/-! ## Registering -/

/-- What registering does when the name is free. -/
theorem register_of_free {c : ClassDef} (h : r.get? c.name = none) :
    r.register c = (r.package.nextId,
      { r with
        package := r.package.addClass c
        index := r.index.insert c.name r.package.nextId }) := by
  simp only [register, h]

/-- A class whose name is free is added behind the others. -/
theorem register_adds {c : ClassDef} (h : r.get? c.name = none) : r.Adds [c] (r.register c).2 := by
  rw [register_of_free h]
  exact ⟨rfl, Entries.insert_of_get?_none h _, rfl⟩

/-- A class that has just been registered stands at the id that it was given. -/
theorem class?_register {c : ClassDef} (h : r.get? c.name = none) :
    (r.register c).2.class? (r.register c).1 = some c := by
  rw [register_of_free h]
  exact (Package.class?_addClass r.package c r.package.nextId).trans (if_pos rfl)

/-- A class that has just been registered is found by its name. -/
theorem get?_register {c : ClassDef} (h : r.get? c.name = none) :
    (r.register c).2.get? c.name = some (r.register c).1 := by
  rw [register_of_free h]
  exact (OrderedMap.get?_insert r.index c.name c.name r.package.nextId).trans (if_pos rfl)

/-- A class may be registered before it gets its features. -/
theorem addFeatures_register {c : ClassDef} (h : r.get? c.name = none) (fs : List Feature) :
    (r.register c).2.addFeatures (r.register c).1 fs = (r.register (c.withFeatures fs)).2 := by
  induction fs generalizing c with
  | nil => simp [addFeatures, ClassDef.withFeatures]
  | cons f fs ih =>
    have h' : r.get? (c.addFeature f).name = none := h
    have hf : (r.register c).2.addFeature (r.register c).1 f = (r.register (c.addFeature f)).2 := by
      rw [register_of_free h, register_of_free h']
      simp only [Registry.addFeature, Package.addFeature, Package.modifyClass, Package.addClass,
        Package.nextId, modify_append_length]
      rfl
    have hid : (r.register c).1 = (r.register (c.addFeature f)).1 := by
      rw [register_of_free h, register_of_free h']
    rw [addFeatures, hf, hid, ih h']
    simp [ClassDef.withFeatures, ClassDef.addFeature]

/-! ## Sound indexes -/

/-- Every name of the index leads to a class of that name. -/
def Sound (r : Registry) : Prop :=
  ∀ name id, r.get? name = some id → ∃ c, r.class? id = some c ∧ c.name = name

/-- Added classes are found by their names, as the old ones are. -/
theorem Sound.adds (hr : r.Sound) (h : r.Adds news r₁) : r₁.Sound := by
  intro name id hid
  cases hold : r.get? name with
  | none => exact h.get?_new hold hid
  | some k =>
    obtain rfl : k = id := Option.some.inj ((h.get? hold).symm.trans hid)
    obtain ⟨c, hc, hname⟩ := hr name k hold
    exact ⟨c, h.class? hc, hname⟩

/-- Features do not change names, so what is found is still of the right name. -/
theorem Sound.addFeature (hr : r.Sound) (id : ClassId) (f : Feature) :
    (r.addFeature id f).Sound := by
  intro name k hk
  obtain ⟨c, hc, hname⟩ := hr name k hk
  obtain ⟨fs, hfs⟩ := exists_class?_addFeature hc id f
  exact ⟨c.withFeatures fs, hfs, hname⟩

end Registry

end EdiSchema
