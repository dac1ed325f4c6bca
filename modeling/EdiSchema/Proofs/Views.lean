import EdiSchema.Conversion.Document
import EdiSchema.Proofs.Annotations

/-!
# Nodes by their views

A tree has three kinds of nodes, and most of what is said about it treats two or all of them alike.
The views say what they have in common: the name and kind of the class that belongs to a node, the
class itself before it has features, the reference that stands for the node in the class of its
parent. `Node.forest_induction` is the induction that goes with them, with groups and segments as
one case.

The steps of a conversion are restated through the views, one equation for each thing that a step
can meet: a name that is free, found or refused, a child that converts or fails. Later proofs go by
these equations and do not open the definitions again.
-/

namespace EdiSchema

/-! ## Results under a map

A conversion hands on what its parts give, or their failure. -/

section Except

variable {ε α β γ : Type} {x : Except ε α} {f : α → β}

/-- A mapped result is a success exactly when the result was. -/
theorem map_eq_ok {b : β} : x.map f = .ok b ↔ ∃ a, x = .ok a ∧ f a = b := by
  cases x with
  | error e =>
    constructor
    · intro h
      cases h
    · rintro ⟨a, ha, _⟩
      cases ha
  | ok a =>
    constructor
    · exact fun h => ⟨a, rfl, Except.ok.inj h⟩
    · rintro ⟨a', ha, rfl⟩
      cases ha
      rfl

/-- To map a result does not touch its failure. -/
theorem map_eq_error {e : ε} : x.map f = .error e ↔ x = .error e := by
  cases x with
  | error e' => exact ⟨fun h => by cases h; rfl, fun h => by cases h; rfl⟩
  | ok a => exact ⟨fun h => (by cases h), fun h => (by cases h)⟩

/-- A success has a value. -/
theorem exists_of_isOk (h : x.isOk) : ∃ a, x = .ok a := by
  cases x with
  | error e => cases h
  | ok a => exact ⟨a, rfl⟩

/-- Two maps in a row are one map. -/
theorem map_map (x : Except ε α) (f : α → β) (g : β → γ) :
    (x.map f).map g = x.map fun a => g (f a) := by
  cases x <;> rfl

/-- A success that says nothing is not changed by forgetting what it says. -/
theorem map_unit (x : Except ε Unit) : (x.map fun _ => ()) = x := by
  cases x <;> rfl

end Except

namespace Node

/-! ## Views -/

/-- Groups and segments are structural. -/
def isStructural : Node → Bool
  | .group .. => true
  | .segment .. => true
  | .field _ => false

/-- Whether a class belongs to the node. -/
def hasClass : Node → Bool
  | .group .. => true
  | .segment .. => true
  | .field leaf => leaf.isComposite

def children : Node → List Node
  | .group _ children => children
  | .segment _ _ children => children
  | .field _ => []

/-- The name of the class that belongs to the node. -/
def className : Node → String
  | .group header _ => EdiSchema.className header.tag
  | .segment header _ _ => EdiSchema.className header.tag
  | .field leaf => leaf.className

/-- The kind of the node, as annotations name it. -/
def kind : Node → String
  | .group .. => Kind.segmentGroup
  | .segment .. => Kind.segment
  | .field _ => Kind.field

/-- The class that belongs to the node, features apart. -/
def bareClass : Node → ClassDef
  | .group header _ => header.bareClass
  | .segment header signature _ => header.segmentClass signature
  | .field leaf => leaf.bareClass

/-- The reference that stands for the node in the class of its parent. -/
def reference : Node → ClassId → Reference
  | .group header children, id => header.groupReference children id
  | .segment header signature children, id => header.segmentReference signature children id
  | .field leaf, id => leaf.referenceTo id

/-- A field that is not composite has no components. -/
theorem components_of_simple {leaf : Field} (h : leaf.isComposite = false) :
    leaf.components = [] := by
  simpa [Field.isComposite] using h

/-- A class belongs to every group and segment. -/
theorem hasClass_of_isStructural {n : Node} (h : n.isStructural) : n.hasClass := by
  cases n with
  | group => rfl
  | segment => rfl
  | field => cases h

@[simp] theorem bareClass_name (n : Node) : n.bareClass.name = n.className := by
  cases n <;> rfl

@[simp] theorem bareClass_features (n : Node) : n.bareClass.features = [] := by
  cases n <;> rfl

/-- The reference leads to the class that it is made for. -/
@[simp] theorem reference_target (n : Node) (id : ClassId) : (n.reference id).target = id := by
  cases n <;> rfl

/-- The class that belongs to a node is of the kind of the node. Classes of groups carry no mark,
and are known by that. -/
@[simp] theorem bareClass_kind (n : Node) : n.bareClass.kind = n.kind := by
  have hs : Annotations.effective (some Kind.segment) = some Kind.segment :=
    Annotations.effective_some (by decide)
  have hf : Annotations.effective (some Kind.field) = some Kind.field :=
    Annotations.effective_some (by decide)
  have hdoc : Key.kind ≠ Key.documentation := by decide
  cases n with
  | group header children =>
    simp only [ClassDef.kind, bareClass, Header.bareClass, Annotations.mapping?_bind,
      Annotations.mapping?_annotate_of_ne _ hdoc, Annotations.mapping?_empty]
    rfl
  | segment header signature children =>
    simp only [ClassDef.kind, bareClass, Header.segmentClass, Annotations.describeSegment,
      Annotations.mapping?_annotate_self, hs]
    rfl
  | field leaf =>
    have h₁ : Key.kind ≠ Key.minLength := by decide
    have h₂ : Key.kind ≠ Key.maxLength := by decide
    have h₃ : Key.kind ≠ Key.dataType := by decide
    simp only [ClassDef.kind, bareClass, Field.bareClass, Annotations.describeValue,
      Annotations.mapping?_annotate_of_ne _ h₁, Annotations.mapping?_annotate_of_ne _ h₂,
      Annotations.mapping?_annotate_of_ne _ h₃, Annotations.mapping?_annotate_self, hf]
    rfl

/-- The reference to a node says of which kind the node is. -/
@[simp] theorem reference_kind (n : Node) (id : ClassId) :
    (n.reference id).annotations.mapping? Key.kind = some n.kind := by
  have hg : Annotations.effective (some Kind.segmentGroup) = some Kind.segmentGroup :=
    Annotations.effective_some (by decide)
  have hs : Annotations.effective (some Kind.segment) = some Kind.segment :=
    Annotations.effective_some (by decide)
  have hf : Annotations.effective (some Kind.field) = some Kind.field :=
    Annotations.effective_some (by decide)
  have hcode : Key.kind ≠ Key.segmentCode := by decide
  cases n with
  | group header children =>
    simp only [reference, Header.groupReference, Annotations.mapping?_annotate_of_ne _ hcode,
      Annotations.mapping?_annotate_self, hg]
    rfl
  | segment header signature children =>
    simp only [reference, Header.segmentReference, Annotations.mapping?_annotate_of_ne _ hcode,
      Annotations.mapping?_annotate_self, hs]
    rfl
  | field leaf =>
    have h₁ : Key.kind ≠ Key.minLength := by decide
    have h₂ : Key.kind ≠ Key.maxLength := by decide
    have h₃ : Key.kind ≠ Key.dataType := by decide
    have h₄ : Key.kind ≠ Key.documentation := by decide
    simp only [reference, Field.referenceTo, Annotations.describeField, Annotations.describeLeaf,
      Annotations.describeValue, Annotations.mapping?_bindElement,
      Annotations.mapping?_annotate_of_ne _ h₁, Annotations.mapping?_annotate_of_ne _ h₂,
      Annotations.mapping?_annotate_of_ne _ h₃, Annotations.mapping?_annotate_of_ne _ h₄,
      Annotations.mapping?_annotate_self, hf]
    rfl

/-! ## Induction -/

/-- Induction over a tree and its lists of children, with groups and segments as one case. -/
theorem forest_induction {P : Node → Prop} {Q : List Node → Prop}
    (structural : ∀ n : Node, n.isStructural → Q n.children → P n)
    (field : ∀ leaf, P (.field leaf))
    (nil : Q []) (cons : ∀ n rest, P n → Q rest → Q (n :: rest)) :
    (∀ n, P n) ∧ ∀ ns, Q ns :=
  have group : ∀ h cs, Q cs → P (.group h cs) := fun h cs => structural (.group h cs) rfl
  have segment : ∀ h s cs, Q cs → P (.segment h s cs) := fun h s cs =>
    structural (.segment h s cs) rfl
  ⟨fun n => @Node.rec P Q group segment field nil cons n,
    fun ns => @Node.rec_1 P Q group segment field nil cons ns⟩

end Node

/-! ## Conversion by steps -/

/-- Converts a structural node and all below it. -/
def Node.addClass (n : Node) (r : Registry) : Outcome ClassId :=
  r.addStructure n.bareClass n.kind (checkNodes n.children) (addChildren n.children)

/-- A group by itself is converted as a node. -/
theorem Registry.addGroup_eq (r : Registry) (g : Group) :
    r.addGroup g = (Node.ofGroup g).addClass r := rfl

/-- A segment by itself is converted as a node. -/
theorem Registry.addSegment_eq (r : Registry) (s : Segment) :
    r.addSegment s = (Node.ofSegment s).addClass r := rfl

namespace Node

variable {n : Node} {r r' : Registry} {e : ConversionError}

/-- A name that is refused fails the conversion, and nothing is registered. -/
theorem addClass_of_refused (h : r.resolve n.className n.kind = .error e) :
    n.addClass r = (.error e, r) := by
  unfold addClass Registry.addStructure
  rw [bareClass_name, h]

/-- A class that is found is used as it is. The children are checked and not converted. -/
theorem addClass_of_found {id : ClassId} (h : r.resolve n.className n.kind = .ok (some id)) :
    n.addClass r = ((checkNodes n.children).map fun _ => id, r) := by
  unfold addClass Registry.addStructure
  rw [bareClass_name, h]

/-- Where the name is free the class is registered bare, and then filled. -/
theorem addClass_of_free (h : r.resolve n.className n.kind = .ok none) :
    n.addClass r =
      ((addChildren n.children (r.register n.bareClass).1 (r.register n.bareClass).2).1.map
          fun _ => (r.register n.bareClass).1,
        (addChildren n.children (r.register n.bareClass).1 (r.register n.bareClass).2).2) := by
  unfold addClass Registry.addStructure
  rw [bareClass_name, h]
  dsimp only
  rcases addChildren n.children (r.register n.bareClass).1 (r.register n.bareClass).2 with
    ⟨_ | _, _⟩ <;> rfl

/-- The feature of a structural node is the reference to its class. -/
theorem toFeature_structural (h : n.isStructural) (r : Registry) :
    n.toFeature r = ((n.addClass r).1.map fun id => .ref (n.reference id), (n.addClass r).2) := by
  cases n with
  | group header children =>
    have hclass : (group header children).addClass r = r.addStructure header.bareClass
        Kind.segmentGroup (checkNodes children) (addChildren children) := rfl
    rw [toFeature, hclass]
    rcases r.addStructure header.bareClass Kind.segmentGroup (checkNodes children)
      (addChildren children) with ⟨_ | _, _⟩ <;> rfl
  | segment header signature children =>
    have hclass : (segment header signature children).addClass r =
        r.addStructure (header.segmentClass signature) Kind.segment (checkNodes children)
          (addChildren children) := rfl
    rw [toFeature, hclass]
    rcases r.addStructure (header.segmentClass signature) Kind.segment (checkNodes children)
      (addChildren children) with ⟨_ | _, _⟩ <;> rfl
  | field => cases h

/-- So is the feature of a composite field. -/
theorem toFeature_composite {leaf : Field} (h : leaf.isComposite) (r : Registry) :
    (field leaf).toFeature r = ((r.addField leaf).1.map .ref, (r.addField leaf).2) := by
  unfold toFeature
  rw [if_pos h]
  rcases r.addField leaf with ⟨_ | _, _⟩ <;> rfl

/-- A simple field becomes an attribute and leaves the registry as it is. -/
theorem toFeature_simple {leaf : Field} (h : leaf.isComposite = false) (r : Registry) :
    (field leaf).toFeature r = (.ok (.attr leaf.textAttribute), r) := by
  unfold toFeature Field.toAttribute
  rw [h]
  rfl

/-- A child that fails ends the conversion of its siblings. -/
theorem addChildren_of_error (h : n.toFeature r = (.error e, r')) (rest : List Node)
    (id : ClassId) : addChildren (n :: rest) id r = (.error e, r') := by
  rw [addChildren, h]

/-- The feature of a child is added before the next child is converted. -/
theorem addChildren_of_ok {f : Feature} (h : n.toFeature r = (.ok f, r')) (rest : List Node)
    (id : ClassId) : addChildren (n :: rest) id r = addChildren rest id (r'.addFeature id f) := by
  rw [addChildren, h]

/-- To check a group or segment is to check its children. -/
theorem check_structural (h : n.isStructural) : n.check = checkNodes n.children := by
  cases n with
  | group => rw [check, children]
  | segment => rw [check, children]
  | field => cases h

theorem check_simple {leaf : Field} (h : leaf.isComposite = false) :
    (field leaf).check = .ok () := by
  rw [check, components_of_simple h]
  rfl

end Node

namespace Registry

variable {r : Registry} {leaf : Field} {e : ConversionError}

/-- A composite field whose name is refused fails. -/
theorem addField_of_refused (h : r.resolve leaf.className Kind.field = .error e) :
    r.addField leaf = (.error e, r) := by
  rw [addField, h]

/-- A composite field whose class is found uses it, and has its components checked. -/
theorem addField_of_found {id : ClassId}
    (h : r.resolve leaf.className Kind.field = .ok (some id)) :
    r.addField leaf = ((checkComponents leaf.components).map fun _ => leaf.referenceTo id, r) := by
  rw [addField, h]

/-- A composite field with a component at fault fails before its class is registered. -/
theorem addField_of_error (h : r.resolve leaf.className Kind.field = .ok none)
    (hc : leaf.toClass = .error e) : r.addField leaf = (.error e, r) := by
  rw [addField, h, hc]

/-- A composite field whose name is free registers the class made of its components. -/
theorem addField_of_free (h : r.resolve leaf.className Kind.field = .ok none) {c : ClassDef}
    (hc : leaf.toClass = .ok c) :
    r.addField leaf = (.ok (leaf.referenceTo (r.register c).1), (r.register c).2) := by
  rw [addField, h, hc]

end Registry

end EdiSchema
