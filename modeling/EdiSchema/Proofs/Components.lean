import EdiSchema.Proofs.Growth
import EdiSchema.Proofs.Views
import Mathlib.Data.List.Forall2

/-!
# Classes made of components

Converting a composite field converts all of its components, one after the other, and the first that
fails decides (`checkComponents_eq_error_iff`). A class for the field is made along the way, and
gets an attribute for each component whose name has not come before (`firstNamed`). The components
that it passes over are converted all the same, so making the class fails as checking does
(`addComponents_check`), whatever features the class has to begin with.

`addComponents_ok` is the law of the loop, over a class with any features, and `Field.toClass_ok`
what it says of the class of a field. `Registry.addField_cases` lists what can become of the field.
-/

namespace EdiSchema

open List (Forall₂)

/-- What stands on the right has its counterpart on the left. -/
theorem exists_left_of_mem {α β : Type} {R : α → β → Prop} {as : List α} {bs : List β}
    (h : Forall₂ R as bs) {b : β} (hb : b ∈ bs) : ∃ a ∈ as, R a b := by
  induction h with
  | nil => cases hb
  | cons hab _ ih =>
    rcases List.mem_cons.mp hb with rfl | hb
    · exact ⟨_, List.mem_cons_self, hab⟩
    · obtain ⟨a, ha, hab⟩ := ih hb
      exact ⟨a, List.mem_cons_of_mem _ ha, hab⟩

/-! ## One component -/

/-- A component that becomes an attribute has nothing below it and a type that is known. -/
theorem Component.toAttribute_ok {c : Component} {a : Attribute} (h : c.toAttribute = .ok a) :
    c.subComponents = [] ∧
      ∃ d, primitiveType c.value.typeClass = .ok d ∧ c.attributeOfType d = a := by
  unfold toAttribute at h
  split at h
  · next hempty => exact ⟨List.isEmpty_iff.mp hempty, map_eq_ok.mp h⟩
  · cases h

theorem Component.toAttribute_name {c : Component} {a : Attribute} (h : c.toAttribute = .ok a) :
    a.name = memberName c.tag := by
  obtain ⟨_, d, _, rfl⟩ := toAttribute_ok h
  rfl

/-- A feature that is added brings in its own name and no other. -/
theorem ClassDef.hasFeature_addFeature (c : ClassDef) (f : Feature) (name : String) :
    (c.addFeature f).hasFeature name = (c.hasFeature name || decide (f.name = name)) := by
  rw [hasFeature, feature?, addFeature, List.find?_append, Option.isSome_or, ← feature?,
    ← hasFeature]
  by_cases h : f.name = name <;> simp [h]

/-! ## All components -/

/-- Components pass the check when every one of them converts. -/
theorem checkComponents_eq_ok_iff (cs : List Component) :
    checkComponents cs = .ok () ↔ ∀ c ∈ cs, ∃ a, c.toAttribute = .ok a := by
  induction cs with
  | nil => exact iff_of_true rfl fun c hc => by cases hc
  | cons c rest ih =>
    rw [checkComponents, List.forall_mem_cons]
    cases hc : c.toAttribute with
    | error e => simp
    | ok a => simp [ih]

/-- The check fails for the first component that does not convert. -/
theorem checkComponents_eq_error_iff (cs : List Component) (e : ConversionError) :
    checkComponents cs = .error e ↔ ∃ before c rest, cs = before ++ c :: rest ∧
      (∀ d ∈ before, ∃ a, d.toAttribute = .ok a) ∧ c.toAttribute = .error e := by
  induction cs with
  | nil =>
    constructor
    · intro h
      cases h
    · rintro ⟨before, c, rest, hcs, _⟩
      simp at hcs
  | cons d ds ih =>
    rw [checkComponents]
    constructor
    · intro h
      cases hd : d.toAttribute with
      | error e' =>
        rw [hd] at h
        cases h
        exact ⟨[], d, ds, rfl, by simp, hd⟩
      | ok a =>
        rw [hd] at h
        obtain ⟨before, c, rest, rfl, hbefore, hc⟩ := ih.mp h
        exact ⟨d :: before, c, rest, rfl, List.forall_mem_cons.mpr ⟨⟨a, hd⟩, hbefore⟩, hc⟩
    · rintro ⟨before, c, rest, hcs, hbefore, hc⟩
      cases before with
      | nil =>
        cases hcs
        rw [hc]
      | cons b before =>
        cases hcs
        obtain ⟨⟨a, hd⟩, hbefore⟩ := List.forall_mem_cons.mp hbefore
        rw [hd]
        exact ih.mpr ⟨before, c, rest, rfl, hbefore, hc⟩

/-- A class is made of components exactly when they pass the check, and fails as they do. -/
theorem addComponents_check (cls : ClassDef) (cs : List Component) :
    (addComponents cls cs).map (fun _ => ()) = checkComponents cs := by
  induction cs generalizing cls with
  | nil => rfl
  | cons c rest ih =>
    rw [addComponents, checkComponents]
    cases c.toAttribute with
    | error e => rfl
    | ok a => exact ih _

/-- The attributes of components go by the member names of the components. -/
theorem names_of_attributes {cs : List Component} {as : List Attribute}
    (h : Forall₂ (fun (d : Component) a => d.toAttribute = .ok a) cs as) :
    (as.map Feature.attr).map Feature.name = cs.map fun d => memberName d.tag := by
  induction h with
  | nil => rfl
  | cons hd _ ih =>
    rw [List.map_cons, List.map_cons, List.map_cons, ih, Feature.name,
      Component.toAttribute_name hd]

/-! ## The class -/

/-- The components without those whose member name is the one of an earlier component. -/
def firstNamed : List Component → List Component
  | [] => []
  | c :: rest => c :: (firstNamed rest).filter fun d => memberName d.tag ≠ memberName c.tag

theorem mem_of_mem_firstNamed {cs : List Component} {d : Component} (h : d ∈ firstNamed cs) :
    d ∈ cs := by
  induction cs with
  | nil => cases h
  | cons c rest ih =>
    rw [firstNamed, List.mem_cons, List.mem_filter] at h
    rcases h with rfl | ⟨h, _⟩
    · exact List.mem_cons_self
    · exact List.mem_cons_of_mem _ (ih h)

/-- Where names are distinct there is none to leave out. -/
theorem firstNamed_of_nodup {cs : List Component}
    (h : (cs.map fun d => memberName d.tag).Nodup) : firstNamed cs = cs := by
  induction cs with
  | nil => rfl
  | cons c rest ih =>
    obtain ⟨hc, hrest⟩ := List.nodup_cons.mp h
    rw [firstNamed, ih hrest, List.filter_eq_self.mpr]
    intro d hd
    have hne : memberName d.tag ≠ memberName c.tag := fun heq =>
      hc (List.mem_map.mpr ⟨d, hd, heq⟩)
    exact decide_eq_true hne

/-- What the class has in the end: its own features, and behind them an attribute for each of the
first components of a name, unless it had a feature of that name. -/
theorem addComponents_ok {cls c : ClassDef} {cs : List Component}
    (h : addComponents cls cs = .ok c) :
    ∃ as, Forall₂ (fun (d : Component) a => d.toAttribute = .ok a)
        ((firstNamed cs).filter fun d => !cls.hasFeature (memberName d.tag)) as ∧
      c = cls.withFeatures (as.map .attr) := by
  induction cs generalizing cls with
  | nil =>
    cases h
    exact ⟨[], .nil, by simp [ClassDef.withFeatures]⟩
  | cons d rest ih =>
    unfold addComponents at h
    split at h
    · cases h
    · next a ha =>
      have hname := Component.toAttribute_name ha
      rw [firstNamed, List.filter_cons, List.filter_filter]
      by_cases hhas : cls.hasFeature (memberName d.tag)
      · rw [hname, if_pos hhas] at h
        obtain ⟨as, has, rfl⟩ := ih h
        refine ⟨as, ?_, rfl⟩
        -- what the class does not have is not named like the component that it passes over
        have hsame : ∀ e : Component, (!cls.hasFeature (memberName e.tag) &&
            decide (memberName e.tag ≠ memberName d.tag)) = !cls.hasFeature (memberName e.tag) := by
          intro e
          by_cases he : memberName e.tag = memberName d.tag
          · simp [he, hhas]
          · simp [he]
        rw [hhas, Bool.not_true, if_neg Bool.false_ne_true]
        simpa only [hsame] using has
      · rw [hname, if_neg hhas] at h
        obtain ⟨as, has, rfl⟩ := ih h
        refine ⟨a :: as, ?_, by simp [ClassDef.withFeatures, ClassDef.addFeature]⟩
        have hsame : ∀ e : Component, (!cls.hasFeature (memberName e.tag) &&
            decide (memberName e.tag ≠ memberName d.tag)) =
            !(cls.addFeature (.attr a)).hasFeature (memberName e.tag) := by
          intro e
          rw [ClassDef.hasFeature_addFeature, Feature.name, hname]
          simp [eq_comm]
        rw [Bool.eq_false_iff.mpr hhas, Bool.not_false, if_pos rfl]
        simp only [hsame]
        exact .cons ha has

namespace Field

variable {leaf : Field} {c : ClassDef}

/-- The class of a field is made exactly when the components of the field pass the check. -/
theorem toClass_check (leaf : Field) :
    leaf.toClass.map (fun _ => ()) = checkComponents leaf.components :=
  addComponents_check leaf.bareClass leaf.components

/-- The class of a field is the one that the field describes, with an attribute for each component
whose name has not come before. -/
theorem toClass_ok (h : leaf.toClass = .ok c) :
    ∃ as, Forall₂ (fun (d : Component) a => d.toAttribute = .ok a) (firstNamed leaf.components) as ∧
      c = leaf.bareClass.withFeatures (as.map .attr) := by
  obtain ⟨as, has, hc⟩ := addComponents_ok h
  have hall : ((firstNamed leaf.components).filter
      fun d => !leaf.bareClass.hasFeature (memberName d.tag)) = firstNamed leaf.components :=
    List.filter_eq_self.mpr fun _ _ => rfl
  exact ⟨as, hall ▸ has, hc⟩

/-- The components of a field give its class features and nothing else. -/
theorem toClass_bare (h : leaf.toClass = .ok c) :
    c = { leaf.bareClass with features := c.features } := by
  obtain ⟨as, _, rfl⟩ := toClass_ok h
  rfl

theorem toClass_name (h : leaf.toClass = .ok c) : c.name = leaf.className := by
  rw [toClass_bare h]
  rfl

/-- The features of the class are attributes of components. -/
theorem exists_of_mem_toClass (h : leaf.toClass = .ok c) {f : Feature} (hf : f ∈ c.features) :
    ∃ d ∈ leaf.components, ∃ a, d.toAttribute = .ok a ∧ f = .attr a := by
  obtain ⟨as, has, rfl⟩ := toClass_ok h
  obtain ⟨a, ha, rfl⟩ := List.mem_map.mp (show f ∈ as.map .attr from hf)
  obtain ⟨d, hd, hda⟩ := exists_left_of_mem has ha
  exact ⟨d, mem_of_mem_firstNamed hd, a, hda, rfl⟩

/-- The class of a field refers to no other. -/
theorem toClass_references (h : leaf.toClass = .ok c) : c.references = [] := by
  rw [List.eq_nil_iff_forall_not_mem]
  intro ref href
  obtain ⟨_, _, _, _, hf⟩ := exists_of_mem_toClass h (ClassDef.mem_references.mp href)
  cases hf

end Field

/-- What becomes of a field. It fails, and then nothing happens; it shares a class that may be used
for it; or its name is free, and the class made for it comes in. -/
theorem Registry.addField_cases (r : Registry) (leaf : Field) :
    (∃ e, r.addField leaf = (.error e, r)) ∨
    (∃ id, r.get? leaf.className = some id ∧
      (r.kindOf id = Kind.field ∨ r.policy = .reuseFirst) ∧
      r.addField leaf = (.ok (leaf.referenceTo id), r)) ∨
    ∃ c, r.get? leaf.className = none ∧ leaf.toClass = .ok c ∧
      r.addField leaf = (.ok (leaf.referenceTo (r.register c).1), (r.register c).2) := by
  rcases r.resolve_cases leaf.className Kind.field with
    ⟨hfree, hres⟩ | ⟨id, hid, huse, hres⟩ | ⟨id, _, _, _, hres⟩
  · cases hc : leaf.toClass with
    | error e => exact .inl ⟨e, addField_of_error hres hc⟩
    | ok c => exact .inr (.inr ⟨c, hfree, rfl, addField_of_free hres hc⟩)
  · cases hcheck : checkComponents leaf.components with
    | error e => exact .inl ⟨e, by rw [addField_of_found hres, hcheck]; rfl⟩
    | ok _ => exact .inr (.inl ⟨id, hid, huse, by rw [addField_of_found hres, hcheck]; rfl⟩)
  · exact .inl ⟨_, addField_of_refused hres⟩

end EdiSchema
