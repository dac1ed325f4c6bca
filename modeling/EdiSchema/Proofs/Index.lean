import EdiSchema.Proofs.Growth
import Mathlib.Data.List.Induction

/-!
# The index that a registry starts with

A registry is made over a package, and the classes of a package may share a name. They are entered
one after the other, and a later one takes the name from an earlier one. So the index lists exactly
the names of the package, and each leads to the last class that bears it
(`Registry.get?_ofPackage`).
-/

namespace EdiSchema

/-- The class at `id` bears the name, and no class behind it does. -/
def Package.LastNamed (p : Package) (name : String) (id : ClassId) : Prop :=
  (∃ c, p.class? id = some c ∧ c.name = name) ∧
    ∀ k c, id.index < k.index → p.class? k = some c → c.name ≠ name

namespace Package

/-- A class that is added last is the last of its name. -/
theorem lastNamed_addClass (p : Package) (c : ClassDef) (id : ClassId) :
    (p.addClass c).LastNamed c.name id ↔ id = p.nextId := by
  have hlast : (p.addClass c).class? p.nextId = some c :=
    (p.class?_addClass c p.nextId).trans (if_pos rfl)
  constructor
  · rintro ⟨⟨d, hd, _⟩, hbehind⟩
    rw [class?_addClass] at hd
    by_cases heq : id = p.nextId
    · exact heq
    · rw [if_neg heq] at hd
      have hlt : id.index < p.classes.length := (List.getElem?_eq_some_iff.mp hd).1
      exact absurd rfl (hbehind p.nextId c hlt hlast)
  · rintro rfl
    refine ⟨⟨c, hlast, rfl⟩, fun k d hlt hd => ?_⟩
    have hk : k.index < (p.addClass c).classes.length := (List.getElem?_eq_some_iff.mp hd).1
    simp only [addClass, nextId, List.length_append, List.length_singleton] at hlt hk
    omega

/-- Which class is the last of a name does not change when a class of another name is added. -/
theorem lastNamed_addClass_of_ne (p : Package) {c : ClassDef} {name : String} (h : c.name ≠ name)
    (id : ClassId) : (p.addClass c).LastNamed name id ↔ p.LastNamed name id := by
  have hbears : ∀ k, (∃ d, (p.addClass c).class? k = some d ∧ d.name = name) ↔
      ∃ d, p.class? k = some d ∧ d.name = name := by
    intro k
    rw [class?_addClass]
    by_cases hk : k = p.nextId
    · have hnone : p.class? p.nextId = none := List.getElem?_eq_none (Nat.le_refl _)
      simp [hk, hnone, h]
    · rw [if_neg hk]
  have hbehind : ∀ q : Package, (∀ k c, id.index < k.index → q.class? k = some c → c.name ≠ name) ↔
      ∀ k, id.index < k.index → ¬ ∃ d, q.class? k = some d ∧ d.name = name := by
    intro q
    simp only [not_exists, not_and]
    exact ⟨fun h k hlt d => h k d hlt, fun h k d hlt => h k hlt d⟩
  simp only [LastNamed, hbehind, hbears]

end Package

/-- Read from behind, numbered classes lead to the last of a name. -/
theorem get?_reverse_numbered (p : Package) (name : String) (id : ClassId) :
    Entries.get? name (numbered 0 p.classes).reverse = some id ↔ p.LastNamed name id := by
  obtain ⟨pname, nsPrefix, nsUri, annotations, classes, root, documentRoot⟩ := p
  induction classes using List.reverseRecOn with
  | nil =>
    constructor
    · intro h
      cases h
    · rintro ⟨⟨c, hc, _⟩, _⟩
      cases hc
  | append_singleton cs c ih =>
    let p : Package := ⟨pname, nsPrefix, nsUri, annotations, cs, root, documentRoot⟩
    have hentry : (numbered 0 (cs ++ [c])).reverse =
        (c.name, p.nextId) :: (numbered 0 cs).reverse := by
      rw [numbered_append, List.reverse_append]
      simp [numbered, Package.nextId, p]
    rw [hentry, Entries.get?]
    show _ ↔ (p.addClass c).LastNamed name id
    by_cases h : c.name = name
    · subst h
      rw [if_pos rfl, p.lastNamed_addClass, Option.some.injEq, eq_comm]
    · rw [if_neg h, p.lastNamed_addClass_of_ne h]
      exact ih

namespace Registry

/-- The index of a package answers with the last class of a name. -/
theorem get?_ofPackage_eq (p : Package) (policy : ConflictPolicy) (name : String) :
    (ofPackage p policy).get? name = Entries.get? name (numbered 0 p.classes).reverse := by
  have hentries : (p.identified.map fun e => (e.2.name, e.1)) = numbered 0 p.classes := by
    simp [Package.identified, numbered]
  rw [get?, ofPackage, hentries, OrderedMap.ofList, OrderedMap.get?_insertAll,
    OrderedMap.get?_empty, Option.or_none]

/-- A registry starts with the last class of each name. -/
theorem get?_ofPackage (p : Package) (policy : ConflictPolicy) (name : String) (id : ClassId) :
    (ofPackage p policy).get? name = some id ↔ p.LastNamed name id := by
  rw [get?_ofPackage_eq]
  exact get?_reverse_numbered p name id

/-- A registry starts with the names of the package. -/
theorem mem_keys_ofPackage (p : Package) (policy : ConflictPolicy) (name : String) :
    name ∈ (ofPackage p policy).index.keys ↔ name ∈ p.classes.map ClassDef.name := by
  rw [mem_keys_iff, get?_ofPackage_eq, Entries.get?_isSome, List.map_reverse, List.mem_reverse,
    numbered_names]

theorem ofPackage_sound (p : Package) (policy : ConflictPolicy) : (ofPackage p policy).Sound :=
  fun name id hid => ((get?_ofPackage p policy name id).mp hid).1

end Registry

end EdiSchema
