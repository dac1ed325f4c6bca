import EdiSchema.Proofs.Faults

/-!
# Sharing a class or making one

A composite field whose class name is free has a class made for it; one whose name leads to a class
that may be used shares that class, and its components are converted for nothing but their faults.
`Registry.addField_atomic` says what either way comes to, in any registry: one class more or
nothing, nothing whenever the field fails, and the same failures both ways.

Groups and segments are filled while they stand in the registry, so a failure leaves something
behind there. Still, what a registry holds has no say in whether they fail, unless the policy is
strict: `Registry.conversions_as_checked` says so of all three conversions, by the induction over
trees that `Node.builds_and_fills_as_checked` is.
-/

namespace EdiSchema

open List (Forall₂)

namespace Registry

variable {r : Registry} {leaf : Field}

/-! ## Fields -/

/-- A field that fails leaves nothing behind: its class is registered after the last component. -/
theorem addField_unchanged {e : ConversionError} (h : (r.addField leaf).1 = .error e) :
    (r.addField leaf).2 = r := by
  rcases r.addField_cases leaf with ⟨_, hstep⟩ | ⟨_, _, _, hstep⟩ | ⟨_, _, _, hstep⟩
  · rw [hstep]
  · rw [hstep]
  · rw [hstep] at h
    cases h

/-- A field that converts shares a class that may be used for it, or has one made for it that goes
to the end. -/
theorem addField_converted {ref : Reference} (h : (r.addField leaf).1 = .ok ref) :
    (∃ id, r.get? leaf.className = some id ∧
      (r.kindOf id = Kind.field ∨ r.policy = .reuseFirst) ∧
      ref = leaf.referenceTo id ∧ (r.addField leaf).2 = r) ∨
    (r.get? leaf.className = none ∧ ref = leaf.referenceTo r.package.nextId ∧
      ∃ c, leaf.toClass = .ok c ∧ r.Adds [c] (r.addField leaf).2) := by
  rcases r.addField_cases leaf with ⟨_, hstep⟩ | ⟨id, hid, huse, hstep⟩ | ⟨c, hfree, hc, hstep⟩
  · rw [hstep] at h
    cases h
  · rw [hstep] at h ⊢
    cases h
    exact .inl ⟨id, hid, huse, rfl, rfl⟩
  · have hfree' : r.get? c.name = none := Field.toClass_name hc ▸ hfree
    rw [hstep] at h ⊢
    cases h
    refine .inr ⟨hfree, ?_, c, hc, register_adds hfree'⟩
    rw [register_of_free hfree']

/-- The conversion of a composite field is atomic and exact. A field that fails leaves the registry
as it was. One that converts has used a class of its name that may be used, and then nothing
happened; or the name was free, and then exactly one class has come in, of that name and with the
attributes of the components in their order, of components with one member name the first. Unless
the name is refused, the field converts exactly when each of its components does, and otherwise
fails for the first that does not: it is no matter whether the attribute would have been passed
over, or the class was there already. -/
theorem addField_atomic (r : Registry) (leaf : Field) :
    (∀ e, (r.addField leaf).1 = .error e → (r.addField leaf).2 = r) ∧
    (∀ ref, (r.addField leaf).1 = .ok ref →
      (∃ id, r.get? leaf.className = some id ∧
        (r.kindOf id = Kind.field ∨ r.policy = .reuseFirst) ∧
        ref = leaf.referenceTo id ∧ (r.addField leaf).2 = r) ∨
      (r.get? leaf.className = none ∧ ref = leaf.referenceTo r.package.nextId ∧
        ∃ c as, r.Adds [c] (r.addField leaf).2 ∧ c.name = leaf.className ∧
          Forall₂ (fun (d : Component) a => d.toAttribute = .ok a)
            (firstNamed leaf.components) as ∧
          c.features = as.map .attr)) ∧
    (∀ e, r.resolve leaf.className Kind.field = .error e → (r.addField leaf).1 = .error e) ∧
    ((∀ e, r.resolve leaf.className Kind.field ≠ .error e) →
      ((∃ ref, (r.addField leaf).1 = .ok ref) ↔
        ∀ c ∈ leaf.components, ∃ a, c.toAttribute = .ok a) ∧
      ∀ e, (r.addField leaf).1 = .error e ↔
        ∃ before c rest, leaf.components = before ++ c :: rest ∧
          (∀ d ∈ before, ∃ a, d.toAttribute = .ok a) ∧ c.toAttribute = .error e) := by
  refine ⟨fun e => addField_unchanged, fun ref h => ?_, fun e h => ?_, fun h => ⟨?_, fun e => ?_⟩⟩
  · rcases addField_converted h with hshared | ⟨hfree, href, c, hc, hadds⟩
    · exact .inl hshared
    · obtain ⟨as, has, hfeatures⟩ := Field.toClass_ok hc
      exact .inr ⟨hfree, href, c, as, hadds, Field.toClass_name hc, has,
        congrArg ClassDef.features hfeatures⟩
  · rw [addField_of_refused h]
  · rw [← checkComponents_eq_ok_iff, ← addField_check h, map_eq_ok]
    simp
  · rw [← checkComponents_eq_error_iff, ← addField_check h, map_eq_error]

/-- A field of three components, of which the last takes the name of the first. -/
def weight (typeClass : String) : Field where
  tag := "weight"
  components := [
    { tag := "unit_code" },
    { tag := "amount", value := { typeClass := some "decimal" } },
    { tag := "UNIT_CODE", value := { typeClass := some typeClass } }]

/-- The last component gives no attribute to the class, and still the field fails with it. -/
theorem addField_atomic_weight :
    let r := ofPackage (.named "goods") .fail
    (∃ c, r.Adds [c] (r.addField (weight "integer")).2 ∧ c.name = "Weight" ∧
      c.features.map Feature.name = ["unitCode", "amount"]) ∧
    (r.addField (weight "date")).1 = .error (.unsupportedType "date") ∧
    (r.addField (weight "date")).2 = r := by
  intro r
  have hfree : ∀ typeClass, r.get? (weight typeClass).className = none := fun _ => rfl
  have hres : ∀ typeClass e, r.resolve (weight typeClass).className Kind.field ≠ .error e := by
    intro typeClass e he
    rw [resolve_of_free (hfree typeClass)] at he
    cases he
  obtain ⟨-, hconverted, -, hwhen⟩ := r.addField_atomic (weight "integer")
  obtain ⟨hunchanged, -, -, hwhen'⟩ := r.addField_atomic (weight "date")
  refine ⟨?_, ?_⟩
  · have hall : ∀ c ∈ (weight "integer").components, ∃ a, c.toAttribute = .ok a := by
      rw [← checkComponents_eq_ok_iff]
      rfl
    obtain ⟨ref, href⟩ := (hwhen (hres _)).1.mpr hall
    rcases hconverted ref href with ⟨id, hid, _⟩ | ⟨_, _, c, as, hadds, hname, has, hfeatures⟩
    · rw [hfree] at hid
      cases hid
    · refine ⟨c, hadds, hname.trans (by decide +kernel), ?_⟩
      rw [hfeatures, names_of_attributes has]
      decide +kernel
  · have hfails := ((hwhen' (hres _)).2 (.unsupportedType "date")).mpr
      ⟨(weight "date").components.take 2, _, [], rfl, by
        rw [← checkComponents_eq_ok_iff]
        rfl, rfl⟩
    exact ⟨hfails, hunchanged _ hfails⟩

/-! ## All conversions -/

/-- Under the lenient policy a conversion fails exactly as the check of the same node does, whatever
classes are registered. The check knows of no registry, so whether a subtree is accepted, and what
is wrong with it, never depends on what came before. -/
theorem conversions_as_checked (hr : r.policy = .reuseFirst) :
    (∀ g e, (r.addGroup g).1 = .error e ↔ checkNodes g.children = .error e) ∧
    (∀ s e, (r.addSegment s).1 = .error e ↔ checkNodes s.children = .error e) ∧
    ∀ leaf e, (r.addField leaf).1 = .error e ↔ checkComponents leaf.components = .error e := by
  refine ⟨fun g e => ?_, fun s e => ?_, fun leaf e => ?_⟩
  · have hcheck := Node.addClass_check (n := .ofGroup g) (Node.builds_and_fills_as_checked.2 _) hr
    rw [← map_eq_error, r.addGroup_eq g, hcheck]
    rfl
  · have hcheck := Node.addClass_check (n := .ofSegment s) (Node.builds_and_fills_as_checked.2 _) hr
    rw [← map_eq_error, r.addSegment_eq s, hcheck]
    rfl
  · rw [← map_eq_error, addField_check]
    intro e' he
    rw [resolve_of_reuseFirst hr] at he
    cases he

/-- The class `Weight` belongs to a group here. The field shares it, and so does a group of the
name, and both fail with the component that neither adds to it. -/
theorem conversions_as_checked_weight :
    let r := ofPackage { Package.named "goods" with classes := [{ name := "Weight" }] } .reuseFirst
    r.get? "Weight" = some ⟨0⟩ ∧
    (r.addField (weight "date")).1 = .error (.unsupportedType "date") ∧
    (r.addGroup ⟨{ tag := "weight" }, [.field (weight "date")]⟩).1 =
      .error (.unsupportedType "date") := by
  intro r
  obtain ⟨hgroup, -, hfield⟩ := conversions_as_checked (r := r) rfl
  exact ⟨by decide, (hfield _ _).mpr rfl, (hgroup _ _).mpr rfl⟩

end Registry

end EdiSchema
