import EdiSchema.Proofs.Frame
import EdiSchema.Proofs.Preorder

/-!
# Where the code of a segment is noted

The code of a segment is noted twice: on the class that is made for the segment and on the reference
that stands for it in the class of its parent. A blank code is not noted, and the class then has
none (`Header.segmentClass_code`). The reference is made in two steps, first as one to a group,
which bears the code of the first segment below, and then with the code of the segment itself
written over it. A blank code writes nothing, so that the code from below stays
(`Header.segmentReference_code`), and the reference to a segment without a code may bear the code of
another segment.

`Registry.addSegment_codes` says where class and reference agree. They do wherever the code is not
blank.
-/

namespace EdiSchema

theorem Annotations.effective_eq_ite (v : String) :
    effective (some v) = if Text.isBlank v then none else some v := by
  cases h : Text.isBlank v <;> simp [effective, Option.filter, h]

namespace Header

/-- The class of a segment bears the code of the segment, unless that is blank. -/
theorem segmentClass_code (h : Header) (s : Signature) :
    (h.segmentClass s).annotations.mapping? Key.segmentCode =
      Annotations.effective (some s.code) := by
  simp [segmentClass, bareClass, Annotations.describeSegment, Annotations.mapping?_annotate,
    Key.kind, Key.segmentCode, Key.segmentPattern, Key.truncatable, Key.ignoreUnmappedFields,
    Key.description, Key.documentation]

/-- The reference to a segment bears the code of the segment, or the code of the first segment below
if that one is blank. -/
theorem segmentReference_code (h : Header) (s : Signature) (children : List Node) (id : ClassId) :
    (h.segmentReference s children id).annotations.mapping? Key.segmentCode =
      (Annotations.effective (some s.code)).or
        (Annotations.effective ((Node.signaturesOf children).head?.map Signature.code)) := by
  have hkind : Key.segmentCode ≠ Key.kind := by decide
  rw [segmentReference, Annotations.mapping?_annotate_self,
    Annotations.mapping?_annotate_of_ne _ hkind, Node.groupReference_code]

end Header

namespace Node

variable {n : Node} {r : Registry}

/-- The class that a structural node registers under a free name, whether or not the conversion
comes to its end: the one that belongs to the node, with the features that it got. -/
theorem class?_addClass_of_free (hfree : r.get? n.className = none) :
    ∃ fs, (n.addClass r).2.class? r.package.nextId = some (n.bareClass.withFeatures fs) := by
  obtain ⟨fs, _, hadds⟩ := addClass_adds_of_free (addChildren_adds n.children) hfree
  exact ⟨fs, hadds.class?_nextId⟩

/-- The id of that class is the answer. -/
theorem addClass_id_of_free (hfree : r.get? n.className = none) {id : ClassId}
    (h : (n.addClass r).1 = .ok id) : id = r.package.nextId := by
  have hbare : r.get? n.bareClass.name = none := n.bareClass_name.symm ▸ hfree
  rw [addClass_of_free (r.resolve_of_free hfree n.kind), Registry.register_of_free hbare] at h
  obtain ⟨_, _, hid⟩ := map_eq_ok.mp h
  exact hid.symm

end Node

namespace Registry

/-- What is noted of the code of a segment when its class is registered under a free name, and by
any reference to the segment. The class has the code if it is not blank and no code otherwise. The
reference has it too, but for a blank code it has the code of the first segment below, if there is
one that is not blank. So the two agree exactly if the code is not blank, or no code comes from
below. -/
theorem addSegment_codes (r : Registry) (s : Segment) (target : ClassId)
    (hfree : r.get? (className s.header.tag) = none) :
    ∃ c, (r.addSegment s).2.class? r.package.nextId = some c ∧
      (∀ id, (r.addSegment s).1 = .ok id → id = r.package.nextId) ∧
      (c.annotations.mapping? Key.segmentCode =
        if Text.isBlank s.signature.code then none else some s.signature.code) ∧
      ((s.header.segmentReference s.signature s.children target).annotations.mapping?
          Key.segmentCode =
        if Text.isBlank s.signature.code then
          Annotations.effective ((Node.signaturesOf s.children).head?.map Signature.code)
        else some s.signature.code) ∧
      ((s.header.segmentReference s.signature s.children target).annotations.mapping?
          Key.segmentCode = c.annotations.mapping? Key.segmentCode ↔
        Text.isBlank s.signature.code = false ∨
          ∀ t ∈ (Node.signaturesOf s.children).head?, Text.isBlank t.code) := by
  have hname : r.get? (Node.ofSegment s).className = none := hfree
  obtain ⟨fs, hclass⟩ := Node.class?_addClass_of_free hname
  have hcode : ((Node.ofSegment s).bareClass.withFeatures fs).annotations.mapping?
      Key.segmentCode = Annotations.effective (some s.signature.code) :=
    s.header.segmentClass_code s.signature
  refine ⟨_, hclass, fun id => Node.addClass_id_of_free hname, ?_, ?_, ?_⟩
  · rw [hcode, Annotations.effective_eq_ite]
  · rw [Header.segmentReference_code, Annotations.effective_eq_ite]
    split <;> rfl
  · rw [hcode, Header.segmentReference_code, Annotations.effective_eq_ite]
    cases hblank : Text.isBlank s.signature.code with
    | false => simp
    | true =>
      cases (Node.signaturesOf s.children).head? with
      | none => simp [Annotations.effective]
      | some t => cases ht : Text.isBlank t.code <;> simp [Annotations.effective_eq_ite, ht]

end Registry

/-! ## A segment without a code -/

/-- A segment without a code around one that has a code. -/
def Segment.envelope : Segment where
  header := { tag := "envelope" }
  signature := { code := "", pattern := .ofCode "" }
  children := [.segment { tag := "UNH" } { code := "UNH", pattern := .ofCode "UNH" } []]

/-- Its class has no code, and the reference to it has the code of the other. -/
theorem Registry.addSegment_codes_envelope :
    (ofPackage (Package.named "orders") .fail).get? (className Segment.envelope.header.tag) = none ∧
    ∃ c, ((ofPackage (Package.named "orders") .fail).addSegment Segment.envelope).2.class? ⟨0⟩ =
        some c ∧
      c.annotations.mapping? Key.segmentCode = none ∧
      (Segment.envelope.header.segmentReference Segment.envelope.signature
        Segment.envelope.children ⟨0⟩).annotations.mapping? Key.segmentCode = some "UNH" := by
  obtain ⟨c, hclass, _, hcode, href, _⟩ :=
    addSegment_codes (ofPackage (Package.named "orders") .fail) Segment.envelope ⟨0⟩ rfl
  exact ⟨rfl, c, hclass, hcode.trans (by decide +kernel), href.trans (by decide +kernel)⟩

/-- A reference to a segment need not bear the code of this segment, or none if it is blank. -/
theorem Segment.not_forall_reference_code : ¬ ∀ (s : Segment) (target : ClassId),
    (s.header.segmentReference s.signature s.children target).annotations.mapping?
      Key.segmentCode =
        if Text.isBlank s.signature.code then none else some s.signature.code := by
  intro h
  have henvelope := h envelope ⟨0⟩
  rw [Header.segmentReference_code] at henvelope
  exact absurd henvelope (by decide +kernel)

end EdiSchema
