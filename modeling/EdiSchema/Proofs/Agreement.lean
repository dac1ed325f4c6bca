import EdiSchema.Proofs.Recovery

/-!
# What a converted package says twice

The bounds of a feature stand in the feature itself, and once more as texts in its annotations; the
name and the content of a class stand in the class and once more in its binding. Both are written
for the same readers, so they have to agree.

A feature of a converted package is an attribute of a simple field or of a component, a reference to
a node, or the reference of the document root to the message: `Feature.Made` has one case for each
of these, and `Document.toPackage_made` says that there are no others. So what is said here of each
case alone holds of the whole package, whatever the document: `Document.toPackage_agrees`.
-/

namespace EdiSchema

/-! ## What agrees -/

/-- A feature is bound to an element with some name in the namespace of the package. -/
structure Annotations.BindsElement (a : Annotations) : Prop where
  name : (a.binding? Binding.name).isSome
  kind : a.binding? Binding.kind = some Binding.element
  space : a.binding? Binding.namespaceKey = some Binding.targetNamespace

/-- A feature has at most one value, and `required` says whether it has at least one. -/
structure Feature.SaysRequired (f : Feature) : Prop where
  upper : f.upperBound = .bounded 1
  lower : f.lowerBound = 0 ∨ f.lowerBound = 1
  text : f.annotations.mapping? Key.required =
    some (if f.lowerBound = 1 then "true" else "false")

/-- The bounds of a reference are written out: the lower one in digits, the upper one in digits or,
where there is no limit, as `-1`. -/
structure Reference.SaysBounds (ref : Reference) : Prop where
  least : ref.annotations.mapping? Key.minOccurs = some (decimal ref.lowerBound)
  most : ref.annotations.mapping? Key.maxOccurs =
    some (match ref.upperBound with
      | .bounded limit => decimal limit
      | .unbounded => "-1")

/-- A class holds elements only, and is bound so under its own name. -/
structure ClassDef.SaysName (c : ClassDef) : Prop where
  content : c.contentKind = .elementOnly
  name : c.annotations.binding? Binding.name = some c.name
  kind : c.annotations.binding? Binding.kind = some "elementOnly"

/-- A class holds text and elements, and has at most one feature, which leads to the class of the
message and bears the name of that class. -/
structure Package.WrapsMessage (p : Package) (c : ClassDef) : Prop where
  content : c.contentKind = .mixed
  single : c.features.length ≤ 1
  message : ∀ f ∈ c.features, ∃ ref id cls, f = .ref ref ∧ p.root = some id ∧
    p.class? id = some cls ∧ ref.target = id ∧ ref.name = cls.name

/-! ## Bounds and texts -/

namespace Reference

variable {ref ref' : Reference}

/-- Texts that agree come from bounds that agree. -/
theorem SaysBounds.lowerBound_eq (h : ref.SaysBounds) (h' : ref'.SaysBounds)
    (htext : ref.annotations.mapping? Key.minOccurs = ref'.annotations.mapping? Key.minOccurs) :
    ref.lowerBound = ref'.lowerBound := by
  rw [h.least, h'.least, Option.some.injEq] at htext
  exact decimal_inj htext

/-- The text of a bound determines the bound: references that say the same have the same. -/
theorem SaysBounds.upperBound_eq (h : ref.SaysBounds) (h' : ref'.SaysBounds)
    (htext : ref.annotations.mapping? Key.maxOccurs = ref'.annotations.mapping? Key.maxOccurs) :
    ref.upperBound = ref'.upperBound := by
  rw [h.most, h'.most, Option.some.injEq] at htext
  exact UpperBound.text_inj htext

end Reference

/-- The lower bound of a leaf and the text about it come from one flag. -/
theorem Feature.saysRequired_of_flag {f : Feature} (required : Bool)
    (hupper : f.upperBound = .bounded 1) (hlower : f.lowerBound = lowerBoundOf required)
    (htext : f.annotations.mapping? Key.required = some (flagText required)) :
    f.SaysRequired := by
  constructor
  · exact hupper
  · rw [hlower]
    cases required with
    | false => exact .inl rfl
    | true => exact .inr rfl
  · rw [htext, hlower]
    cases required <;> rfl

namespace Annotations

/-- What is noted about a leaf says whether it is required. -/
theorem required_describeLeaf (a : Annotations) (kind : String) (truncatable required : Bool)
    (v : ValueInfo) : (a.describeLeaf kind truncatable required v).mapping? Key.required =
      some (flagText required) := by
  simp [describeLeaf, describeValue, mapping?_annotate, Key.required, Key.kind, Key.dataType,
    Key.minLength, Key.maxLength]

theorem bindsElement_bindElement (a : Annotations) (name : String) :
    (a.bindElement name).BindsElement := by
  have hspace : Binding.kind ≠ Binding.namespaceKey := by decide
  constructor
  · rw [binding?_bindElement]
    rfl
  · simp [bindElement, hspace]
  · simp [bindElement]

/-- Further details of the grammar leave a binding alone. -/
theorem BindsElement.annotate {a : Annotations} (h : a.BindsElement) (key : String)
    (value : Option String) : (a.annotate key value).BindsElement := by
  constructor
  · rw [binding?_annotate]
    exact h.name
  · rw [binding?_annotate]
    exact h.kind
  · rw [binding?_annotate]
    exact h.space

/-- What is noted about a field leaves the binding alone. -/
theorem BindsElement.describeField {a : Annotations} (h : a.BindsElement) (f : Field) :
    (a.describeField f).BindsElement :=
  (((((h.annotate _ _).annotate _ _).annotate _ _).annotate _ _).annotate _ _).annotate _ _

end Annotations

namespace Header

variable (header : Header) (children : List Node) (id : ClassId)

/-- The bounds of a group are written on its reference. -/
theorem groupReference_saysBounds : (header.groupReference children id).SaysBounds := by
  have hminus : Annotations.effective (some "-1") = some "-1" :=
    Annotations.effective_some (by decide)
  constructor
  · simp [groupReference, Annotations.mapping?_annotate, Key.minOccurs, Key.maxOccurs, Key.kind,
      Key.segmentCode, Annotations.effective_some (isBlank_decimal _)]
  · cases hmax : header.maxOccurs <;>
      simp [groupReference, Annotations.mapping?_annotate, Key.maxOccurs, Key.kind,
        Key.segmentCode, UpperBound.text, hmax, hminus,
        Annotations.effective_some (isBlank_decimal _)]

/-- The reference to a segment is written over that to a group, and its bounds are left. -/
theorem segmentReference_saysBounds (signature : Signature) :
    (header.segmentReference signature children id).SaysBounds := by
  obtain ⟨hleast, hmost⟩ := header.groupReference_saysBounds children id
  have hkeep : ∀ k, k ≠ Key.kind → k ≠ Key.segmentCode →
      (header.segmentReference signature children id).annotations.mapping? k =
        (header.groupReference children id).annotations.mapping? k := by
    intro k hkind hcode
    rw [segmentReference, Annotations.mapping?_annotate_of_ne _ hcode,
      Annotations.mapping?_annotate_of_ne _ hkind]
  constructor
  · rw [hkeep _ (by decide) (by decide)]
    exact hleast
  · rw [hkeep _ (by decide) (by decide)]
    exact hmost

/-- The reference to a group is bound to the element of its tag. -/
theorem groupReference_bindsElement :
    (header.groupReference children id).annotations.BindsElement := by
  have hbound := Annotations.bindsElement_bindElement .empty header.tag
  exact (((hbound.annotate Key.minOccurs _).annotate Key.maxOccurs _).annotate Key.kind _).annotate
    Key.segmentCode _

/-- The reference to a segment is bound as that to a group is, since only its mapping differs. -/
theorem segmentReference_bindsElement (signature : Signature) :
    (header.segmentReference signature children id).annotations.BindsElement := by
  have hbound := header.groupReference_bindsElement children id
  exact (hbound.annotate Key.kind (some Kind.segment)).annotate Key.segmentCode
    (some signature.code)

end Header

/-! ## How features are made -/

/-- What a feature of a converted package can be. -/
inductive Feature.Made : Feature → Prop
  | simple (leaf : Field) : Made (.attr leaf.textAttribute)
  | component (part : Component) (dataType : PrimitiveType) :
    Made (.attr (part.attributeOfType dataType))
  | reference (n : Node) (id : ClassId) : Made (.ref (n.reference id))
  | message (cls : ClassDef) (id : ClassId) : Made (.ref (cls.messageReference id))

namespace Feature

/-- Attributes come from leaves, and are required as those are. -/
theorem Made.saysRequired_attr {a : Attribute} (h : Made (.attr a)) :
    (Feature.attr a).SaysRequired := by
  cases h with
  | simple leaf =>
    apply saysRequired_of_flag leaf.required rfl rfl
    exact Annotations.required_describeLeaf _ _ _ _ _
  | component part dataType =>
    apply saysRequired_of_flag part.required rfl rfl
    have hdoc : Key.required ≠ Key.documentation := by decide
    show (((Annotations.empty.describeLeaf Kind.component part.truncatable part.required
      part.value).annotate Key.documentation part.value.documentation).bindElement
        part.tag).mapping? Key.required = _
    rw [Annotations.mapping?_bindElement, Annotations.mapping?_annotate_of_ne _ hdoc]
    exact Annotations.required_describeLeaf _ _ _ _ _

/-- The reference of the document root is of no kind. -/
theorem kind_messageReference (cls : ClassDef) (id : ClassId) :
    (cls.messageReference id).annotations.mapping? Key.kind = none := by
  simp [ClassDef.messageReference]

/-- Among references, those that stand for fields say whether the field is required. -/
theorem Made.saysRequired_ref {ref : Reference} (h : Made (.ref ref))
    (hkind : ref.annotations.mapping? Key.kind = some Kind.field) :
    (Feature.ref ref).SaysRequired := by
  cases h with
  | reference n id =>
    have hgroup : Kind.segmentGroup ≠ Kind.field := by decide
    have hsegment : Kind.segment ≠ Kind.field := by decide
    rw [Node.reference_kind, Option.some.injEq] at hkind
    cases n with
    | group => exact absurd hkind hgroup
    | segment => exact absurd hkind hsegment
    | field leaf =>
      apply saysRequired_of_flag leaf.required rfl rfl
      have hdoc : Key.required ≠ Key.documentation := by decide
      show (((Annotations.empty.describeField leaf).annotate Key.documentation
        leaf.value.documentation).bindElement leaf.tag).mapping? Key.required = _
      rw [Annotations.mapping?_bindElement, Annotations.mapping?_annotate_of_ne _ hdoc]
      exact Annotations.required_describeLeaf _ _ _ _ _
  | message cls id =>
    rw [kind_messageReference] at hkind
    cases hkind

/-- References that stand for groups and segments say their bounds. -/
theorem Made.saysBounds {ref : Reference} (h : Made (.ref ref))
    (hkind : ref.annotations.mapping? Key.kind = some Kind.segment ∨
      ref.annotations.mapping? Key.kind = some Kind.segmentGroup) : ref.SaysBounds := by
  cases h with
  | reference n id =>
    have hsegment : Kind.field ≠ Kind.segment := by decide
    have hgroup : Kind.field ≠ Kind.segmentGroup := by decide
    rw [Node.reference_kind, Option.some.injEq, Option.some.injEq] at hkind
    cases n with
    | group header children => exact header.groupReference_saysBounds children id
    | segment header signature children =>
      exact header.segmentReference_saysBounds children id signature
    | field leaf =>
      rcases hkind with hkind | hkind
      · exact absurd hkind hsegment
      · exact absurd hkind hgroup
  | message cls id =>
    rw [kind_messageReference] at hkind
    rcases hkind with hkind | hkind <;> cases hkind

/-- Whatever a feature is made from, it is bound to an element. -/
theorem Made.bindsElement {f : Feature} (h : f.Made) : f.annotations.BindsElement := by
  cases h with
  | simple leaf => exact (Annotations.bindsElement_bindElement .empty leaf.tag).describeField leaf
  | component part dataType => exact Annotations.bindsElement_bindElement _ part.tag
  | reference n id =>
    cases n with
    | group header children => exact header.groupReference_bindsElement children id
    | segment header signature children =>
      exact header.segmentReference_bindsElement children id signature
    | field leaf => exact Annotations.bindsElement_bindElement _ leaf.tag
  | message cls id => exact Annotations.bindsElement_bindElement _ _

end Feature

/-! ## Where features come from -/

namespace Node

variable {stands : Node → ClassId → Prop} {n : Node}

/-- A feature that stands for a child is made in one of these ways. -/
theorem Mirrors.made {f : Feature} (h : n.Mirrors stands f) : f.Made := by
  cases h with
  | simple ha =>
    obtain ⟨_, rfl⟩ := Field.toAttribute_ok ha
    exact .simple _
  | reference _ _ => exact .reference _ _

/-- So are all features of a class that a node brings in. -/
theorem Shapes.made {c : ClassDef} (h : n.Shapes stands c) : ∀ f ∈ c.features, f.Made := by
  cases h with
  | structural hn hfs =>
    intro f hf
    rw [ClassDef.withFeatures, bareClass_features, List.nil_append] at hf
    obtain ⟨_, _, hmirrors⟩ := exists_left_of_mem hfs hf
    exact hmirrors.made
  | composite _ hc =>
    intro f hf
    obtain ⟨part, _, a, ha, rfl⟩ := Field.exists_of_mem_toClass hc hf
    obtain ⟨_, t, _, rfl⟩ := Component.toAttribute_ok ha
    exact .component part t

/-- The class of a node is bound under the name of the node. -/
theorem Shapes.saysName {c : ClassDef} (h : n.Shapes stands c) : c.SaysName := by
  have hbare : n.bareClass.SaysName := by
    have hname : Binding.name ≠ Binding.kind := by decide
    cases n <;> constructor <;>
      simp [bareClass, Header.bareClass, Header.segmentClass, Annotations.describeSegment,
        Field.bareClass, Annotations.describeValue, ContentKind.name, hname]
  rw [h.bare]
  exact ⟨hbare.content, hbare.name, hbare.kind⟩

end Node

namespace Document

variable {doc : Document} {policy : ConflictPolicy} {p : Package}

/-- All features of a converted package are made in one of the four ways. -/
theorem toPackage_made (h : doc.toPackage policy = .ok p) {c : ClassDef} (hc : c ∈ p.classes)
    {f : Feature} (hf : f ∈ c.features) : f.Made := by
  rcases toPackage_class_cases h hc with ⟨n, hshape⟩ | rfl
  · exact hshape.made f hf
  · obtain ⟨id, cls, _, _, rfl⟩ := Package.mem_features_documentRootClass.mp hf
    exact .message cls id

/-- The document root leads to the class of the message, which is the class of a node. -/
theorem toPackage_wraps (h : doc.toPackage policy = .ok p) :
    p.WrapsMessage (p.documentRootClass p.root) := by
  refine ⟨rfl, ?_, fun f hf => ?_⟩
  · unfold Package.documentRootClass
    cases p.root with
    | none => exact Nat.zero_le _
    | some id => exact Option.length_toList_le
  · obtain ⟨id, cls, hroot, hcls, rfl⟩ := Package.mem_features_documentRootClass.mp hf
    refine ⟨_, id, cls, rfl, hroot, hcls, rfl, ?_⟩
    obtain ⟨_, _, _, _, hmessage, _⟩ := toPackage_shapes h
    rw [hroot] at hmessage
    obtain ⟨g, hg, rfl⟩ := Option.map_eq_some_iff.mp hmessage.symm
    obtain ⟨c, _, hc, _, hshape⟩ := toPackage_message h hg
    obtain rfl := Option.some.inj (hc.symm.trans hcls)
    rw [ClassDef.messageReference, hshape.saysName.name]
    rfl

/-- The classes apart from the document root belong to nodes, and are bound under their names. -/
theorem toPackage_saysName (h : doc.toPackage policy = .ok p) {c : ClassDef} (hc : c ∈ p.classes)
    (hname : c.name ≠ documentRootName) : c.SaysName := by
  rcases toPackage_class_cases h hc with ⟨n, hshape⟩ | rfl
  · exact hshape.saysName
  · exact absurd rfl hname

/-- What a converted package says twice agrees, whatever the document and the policy. Attributes and
references to fields have at most one value, and `required` says whether they have at least one.
References to segments and groups have their bounds written out, from which these can be told.
Every feature is bound to an element of the package. Every class but the document root holds
elements only and is bound so under its name, and the document root leads to the message. -/
theorem toPackage_agrees (h : doc.toPackage policy = .ok p) :
    (∀ c ∈ p.classes,
      (∀ a, .attr a ∈ c.features → (Feature.attr a).SaysRequired) ∧
      (∀ ref, .ref ref ∈ c.features →
        ref.annotations.mapping? Key.kind = some Kind.field → (Feature.ref ref).SaysRequired) ∧
      (∀ ref, .ref ref ∈ c.features →
        ref.annotations.mapping? Key.kind = some Kind.segment ∨
          ref.annotations.mapping? Key.kind = some Kind.segmentGroup → ref.SaysBounds) ∧
      (∀ f ∈ c.features, f.annotations.BindsElement) ∧
      (c.name ≠ documentRootName → c.SaysName) ∧
      (c.name = documentRootName → p.WrapsMessage c)) ∧
    (∃ c, p.documentRootClass? = some c ∧ c.name = documentRootName) ∧
    ∀ ref ref' : Reference, ref.SaysBounds → ref'.SaysBounds →
      (ref.annotations.mapping? Key.minOccurs = ref'.annotations.mapping? Key.minOccurs →
        ref.lowerBound = ref'.lowerBound) ∧
      (ref.annotations.mapping? Key.maxOccurs = ref'.annotations.mapping? Key.maxOccurs →
        ref.upperBound = ref'.upperBound) := by
  obtain ⟨hdoc, _, hlast⟩ := toPackage_documentRoot h
  have hroot : p.documentRootClass? = some (p.documentRootClass p.root) := by
    rw [Package.documentRootClass?, hdoc]
    exact hlast
  refine ⟨fun c hc => ⟨fun a ha => ?_, fun ref href hkind => ?_, fun ref href hkind => ?_,
    fun f hf => ?_, toPackage_saysName h hc, fun hname => ?_⟩, ⟨_, hroot, rfl⟩,
    fun ref ref' href href' => ⟨href.lowerBound_eq href', href.upperBound_eq href'⟩⟩
  · exact (toPackage_made h hc ha).saysRequired_attr
  · exact (toPackage_made h hc href).saysRequired_ref hkind
  · exact (toPackage_made h hc href).saysBounds hkind
  · exact (toPackage_made h hc hf).bindsElement
  · obtain ⟨_, _, hnodup, _⟩ := toPackage_shapes h
    obtain rfl : c = p.documentRootClass p.root :=
      List.inj_on_of_nodup_map hnodup hc (List.mem_of_getElem? hlast) hname
    exact toPackage_wraps h

/-- The lines of an order: not required, and two hundred thousand of them at most. -/
theorem toPackage_agrees_order : ∃ p c ref, order.toPackage .fail = .ok p ∧ c ∈ p.classes ∧
    .ref ref ∈ c.features ∧ ref.lowerBound = 0 ∧ ref.upperBound = .bounded 200000 ∧
    ref.annotations.mapping? Key.minOccurs = some "0" ∧
    ref.annotations.mapping? Key.maxOccurs = some "200000" := by
  obtain ⟨p, _, hp, _⟩ := order_converts
  obtain ⟨c, hc, _, hshape⟩ := toPackage_stands hp (i := 0) rfl
  obtain ⟨f, hf, hmirrors⟩ := exists_left_of_mem (hshape.features rfl).flip
    (List.mem_cons_of_mem _ List.mem_cons_self)
  obtain ⟨id, _, rfl⟩ := hmirrors.eq_reference rfl
  have hmem : c ∈ p.classes := List.mem_of_getElem? hc
  obtain ⟨_, _, hbounds, _⟩ := (toPackage_agrees hp).1 c hmem
  obtain ⟨hleast, hmost⟩ := hbounds _ hf (.inr (Node.reference_kind _ id))
  have hzero : decimal 0 = "0" := by decide +kernel
  have hmany : decimal 200000 = "200000" := by decide +kernel
  exact ⟨p, c, _, hp, hmem, hf, rfl, rfl, hleast.trans (congrArg some hzero),
    hmost.trans (congrArg some hmany)⟩

end Document

end EdiSchema
