import EdiSchema.Proofs.Digits
import EdiSchema.Proofs.Mirror
import EdiSchema.Proofs.Names

/-!
# Reading a node off its class and reference

Whatever a grammar says of a node is written on the reference to the node or on its class, but for
a few things that are dropped: the value types of fields, and the documentation and type definition
of simple fields. A component that names no value type is written like one that holds text. `kept`
is a node without what is dropped.

A blank text is never written, and an absent one neither, so the two look alike afterwards. Where a
grammar gives no blank texts, equal references and equal classes come from nodes that are equal in
all that is kept. The lemmas here say so for one node at a time, `Node.kept_eq` for groups and
segments and `Field.kept_eq_of_class` for composite fields; of what is below, they take it as given.
-/

namespace EdiSchema

open List (Forall₂)

/-! ## Texts -/

/-- If there is a text, then it is not blank. -/
def NotBlank (text : Option String) : Prop := ∀ s, text = some s → Text.isBlank s = false

instance (text : Option String) : Decidable (NotBlank text) :=
  inferInstanceAs (Decidable (∀ s ∈ text, Text.isBlank s = false))

/-- A text that is not blank is noted as it is. -/
theorem effective_eq {text : Option String} (h : NotBlank text) :
    Annotations.effective text = text := by
  cases text with
  | none => rfl
  | some s => exact Annotations.effective_some (h s rfl)

theorem isBlankChar_of_isDigit {c : Char} (h : c.isDigit) : Text.isBlankChar c = false := by
  obtain ⟨hlow, hhigh⟩ := toNat_of_isDigit h
  simp [Text.isBlankChar, Text.blankRanges]
  omega

/-- A number is never blank. -/
theorem isBlank_decimal (n : UInt32) : Text.isBlank (decimal n) = false := by
  obtain ⟨c, cs, hdigits, hc⟩ := exists_toDigits_eq_cons n.toNat
  rw [Text.isBlank, decimal, Nat.repr, String.toList_ofList, hdigits, List.all_cons,
    isBlankChar_of_isDigit hc, Bool.false_and]

theorem isBlank_flagText (flag : Bool) : Text.isBlank (flagText flag) = false := by
  cases flag <;> decide

/-- The text of a flag tells the flag. -/
theorem flagText_inj {a b : Bool} (h : flagText a = flagText b) : a = b := by
  have htexts : flagText true ≠ flagText false := by decide
  cases a <;> cases b
  · rfl
  · exact absurd h.symm htexts
  · exact absurd h htexts
  · rfl

@[simp] theorem effective_decimal (n : Option UInt32) :
    Annotations.effective (n.map decimal) = n.map decimal := by
  refine effective_eq fun s hs => ?_
  obtain ⟨k, _, rfl⟩ := Option.map_eq_some_iff.mp hs
  exact isBlank_decimal k

@[simp] theorem effective_flagText (flag : Bool) :
    Annotations.effective (some (flagText flag)) = some (flagText flag) :=
  Annotations.effective_some (isBlank_flagText flag)

/-! ## What is kept -/

/-- Values without the type that they abstract from. -/
def ValueInfo.untyped (v : ValueInfo) : ValueInfo := { v with typeClass := none }

/-- What agrees apart from the type agrees once the types are made the same. -/
theorem ValueInfo.retyped_eq {v w : ValueInfo} (h : v.untyped = w.untyped) (t : Option String) :
    { v with typeClass := t } = { w with typeClass := t } :=
  congrArg (fun u : ValueInfo => { u with typeClass := t }) h

def Component.kept (c : Component) : Component :=
  { c with value := { c.value with typeClass := some (c.value.typeClass.getD defaultValueType) } }

def Field.kept (f : Field) : Field :=
  if f.isComposite then
    { f with
      value := f.value.untyped
      components := f.components.map Component.kept }
  else
    { f with
      typeRef := none
      value := { f.value.untyped with documentation := none } }

mutual

/-- A node without what a conversion drops. -/
def Node.kept : Node → Node
  | .group header children => .group header (keptAll children)
  | .segment header signature children => .segment header signature (keptAll children)
  | .field leaf => .field leaf.kept

def keptAll : List Node → List Node
  | [] => []
  | node :: rest => node.kept :: keptAll rest

end

/-- No text that is given is blank. -/
structure ValueInfo.NoBlanks (v : ValueInfo) : Prop where
  dataType : NotBlank v.dataType
  documentation : NotBlank v.documentation

instance (v : ValueInfo) : Decidable v.NoBlanks :=
  decidable_of_iff (NotBlank v.dataType ∧ NotBlank v.documentation)
    ⟨fun h => ⟨h.1, h.2⟩, fun h => ⟨h.dataType, h.documentation⟩⟩

/-! ## Leaves -/

/-- What the annotations of a leaf tell about it. -/
theorem describeLeaf_reads {a : Annotations} (ha : ∀ k, a.mapping? k = none) {v : ValueInfo}
    (hv : NotBlank v.dataType) (kind : String) (truncatable required : Bool) :
    (a.describeLeaf kind truncatable required v).mapping? Key.truncatable =
      some (flagText truncatable) ∧
    (a.describeLeaf kind truncatable required v).mapping? Key.required =
      some (flagText required) ∧
    (a.describeLeaf kind truncatable required v).mapping? Key.dataType = v.dataType ∧
    (a.describeLeaf kind truncatable required v).mapping? Key.minLength =
      v.minLength.map decimal ∧
    (a.describeLeaf kind truncatable required v).mapping? Key.maxLength =
      v.maxLength.map decimal := by
  simp [Annotations.describeLeaf, Annotations.describeValue, Annotations.mapping?_annotate, ha,
    effective_eq hv, Key.truncatable, Key.required, Key.kind, Key.dataType, Key.minLength,
    Key.maxLength]

/-- Leaves with the same annotations, documentation apart, agree in flags, data type and lengths. -/
theorem describeLeaf_inj {a b : Annotations} (ha : ∀ k, a.mapping? k = none)
    (hb : ∀ k, b.mapping? k = none) {v w : ValueInfo} (hv : NotBlank v.dataType)
    (hw : NotBlank w.dataType) {kind : String} {t t' r r' : Bool}
    (h : ∀ k, k ≠ Key.documentation → (a.describeLeaf kind t r v).mapping? k =
      (b.describeLeaf kind t' r' w).mapping? k) :
    t = t' ∧ r = r' ∧ v.dataType = w.dataType ∧ v.minLength = w.minLength ∧
      v.maxLength = w.maxLength := by
  obtain ⟨ht, hr, hd, hmin, hmax⟩ := describeLeaf_reads ha hv kind t r
  obtain ⟨ht', hr', hd', hmin', hmax'⟩ := describeLeaf_reads hb hw kind t' r'
  have hlengths : Function.Injective (Option.map decimal) :=
    Option.map_injective fun _ _ => decimal_inj
  refine ⟨flagText_inj ?_, flagText_inj ?_, ?_, hlengths ?_, hlengths ?_⟩
  · exact Option.some.inj (by rw [← ht, ← ht', h _ (by decide)])
  · exact Option.some.inj (by rw [← hr, ← hr', h _ (by decide)])
  · rw [← hd, ← hd', h _ (by decide)]
  · rw [← hmin, ← hmin', h _ (by decide)]
  · rw [← hmax, ← hmax', h _ (by decide)]

/-- With documentation and a binding to the tag, all is told but the type of the values. -/
theorem documentedLeaf_inj {v w : ValueInfo} (hv : v.NoBlanks) (hw : w.NoBlanks)
    {kind tag tag' : String} {t t' r r' : Bool}
    (h : ((Annotations.empty.describeLeaf kind t r v).annotate
        Key.documentation v.documentation).bindElement tag =
      ((Annotations.empty.describeLeaf kind t' r' w).annotate
        Key.documentation w.documentation).bindElement tag') :
    tag = tag' ∧ t = t' ∧ r = r' ∧ v.untyped = w.untyped := by
  have htag : tag = tag' := by
    have := congrArg (fun a => a.binding? Binding.name) h
    simpa using this
  have hdoc : v.documentation = w.documentation := by
    have := congrArg (fun a => a.mapping? Key.documentation) h
    simpa [Annotations.describeLeaf, Annotations.describeValue, Annotations.mapping?_annotate,
      Key.truncatable, Key.required, Key.kind, Key.dataType, Key.minLength, Key.maxLength,
      Key.documentation, effective_eq hv.documentation, effective_eq hw.documentation] using this
  obtain ⟨htrunc, hreq, hdata, hmin, hmax⟩ := describeLeaf_inj (a := .empty) (b := .empty)
    (by simp) (by simp) hv.dataType hw.dataType fun k hk => by
      have := congrArg (fun a => a.mapping? k) h
      simpa [Annotations.mapping?_annotate_of_ne _ hk] using this
  exact ⟨htag, htrunc, hreq, by simp only [ValueInfo.untyped, hdata, hmin, hmax, hdoc]⟩

/-- Only a simple field becomes an attribute. -/
theorem Field.toAttribute_ok {f : Field} {a : Attribute} (h : f.toAttribute = .ok a) :
    f.isComposite = false ∧ f.textAttribute = a := by
  unfold toAttribute at h
  split at h
  · cases h
  · next hf => exact ⟨Bool.eq_false_iff.mpr hf, Except.ok.inj h⟩

/-- A simple field is told by its attribute. -/
theorem Field.kept_eq_of_textAttribute {f g : Field} (hf : f.isComposite = false)
    (hg : g.isComposite = false) (hfv : f.value.NoBlanks) (hgv : g.value.NoBlanks)
    (h : f.textAttribute = g.textAttribute) : f.kept = g.kept := by
  have hannotations : (Annotations.empty.bindElement f.tag).describeField f =
      (Annotations.empty.bindElement g.tag).describeField g := congrArg Attribute.annotations h
  have htag : f.tag = g.tag := by
    have := congrArg (fun a => a.binding? Binding.name) hannotations
    simpa [Annotations.describeField, Annotations.describeLeaf,
      Annotations.describeValue] using this
  obtain ⟨htrunc, hreq, hdata, hmin, hmax⟩ := describeLeaf_inj (by simp) (by simp) hfv.dataType
    hgv.dataType fun k _ => congrArg (fun a => a.mapping? k) hannotations
  simp [kept, ValueInfo.untyped, hf, hg, htag, htrunc, hreq, hdata, hmin, hmax,
    Node.components_of_simple hf, Node.components_of_simple hg]

/-! ## Components -/

/-- The primitive type of a component tells the value type, an absent one counting as text. -/
theorem primitiveType_inj {s t : Option String} {d : PrimitiveType} (hs : primitiveType s = .ok d)
    (ht : primitiveType t = .ok d) : s.getD defaultValueType = t.getD defaultValueType := by
  have hlisted : ∀ {u : Option String}, primitiveType u = .ok d →
      (u.getD defaultValueType, d) ∈ valueTypes := by
    intro u hu
    dsimp only [primitiveType] at hu
    split at hu
    · next e he =>
      have hname : e.1 = u.getD defaultValueType := by simpa using List.find?_some he
      rw [← hname, ← Except.ok.inj hu]
      exact List.mem_of_find?_eq_some he
    · cases hu
  have htypes : ∀ e ∈ valueTypes, ∀ e' ∈ valueTypes, e.2 = e'.2 → e.1 = e'.1 := by decide
  exact htypes _ (hlisted hs) _ (hlisted ht) rfl

/-- A component is told by its attribute. -/
theorem Component.kept_eq {c d : Component} {a : Attribute} (hc : c.toAttribute = .ok a)
    (hd : d.toAttribute = .ok a) (hcv : c.value.NoBlanks) (hdv : d.value.NoBlanks) :
    c.kept = d.kept := by
  obtain ⟨hcsub, s, hs, rfl⟩ := toAttribute_ok hc
  obtain ⟨hdsub, t, ht, heq⟩ := toAttribute_ok hd
  have htype : t = s := congrArg Attribute.dataType heq
  obtain ⟨htag, htrunc, hreq, hvalue⟩ :=
    documentedLeaf_inj hdv hcv (congrArg Attribute.annotations heq)
  have hclass : c.value.typeClass.getD defaultValueType =
      d.value.typeClass.getD defaultValueType := primitiveType_inj hs (htype ▸ ht)
  rw [kept, kept, htag, htrunc, hreq, hcsub, hdsub, hclass, ValueInfo.retyped_eq hvalue.symm]

/-! ## Composite fields -/

/-- What a field must be like to be told by its reference and its class. -/
structure Field.Legible (f : Field) : Prop where
  value : f.value.NoBlanks
  components : ∀ c ∈ f.components, c.value.NoBlanks
  names : (f.components.map fun c => memberName c.tag).Nodup

theorem Field.legible_iff {f : Field} : f.Legible ↔ f.value.NoBlanks ∧
    (∀ c ∈ f.components, c.value.NoBlanks) ∧ (f.components.map fun c => memberName c.tag).Nodup :=
  ⟨fun h => ⟨h.value, h.components, h.names⟩, fun ⟨hvalue, hcomponents, hnames⟩ =>
    ⟨hvalue, hcomponents, hnames⟩⟩

instance (f : Field) : Decidable f.Legible := decidable_of_iff' _ Field.legible_iff

/-- Components that are not blank and give the same attributes are kept the same. -/
theorem kept_components_eq {cs ds : List Component} {as : List Attribute}
    (hcs : Forall₂ (fun (c : Component) a => c.toAttribute = .ok a) cs as)
    (hds : Forall₂ (fun (d : Component) a => d.toAttribute = .ok a) ds as)
    (hcv : ∀ c ∈ cs, c.value.NoBlanks) (hdv : ∀ d ∈ ds, d.value.NoBlanks) :
    cs.map Component.kept = ds.map Component.kept := by
  induction hcs generalizing ds with
  | nil =>
    cases hds
    rfl
  | cons hc _ ih =>
    cases hds with
    | cons hd hds =>
      obtain ⟨hc₁, hc₂⟩ := List.forall_mem_cons.mp hcv
      obtain ⟨hd₁, hd₂⟩ := List.forall_mem_cons.mp hdv
      rw [List.map_cons, List.map_cons, Component.kept_eq hc hd hc₁ hd₁, ih hds hc₂ hd₂]

namespace Field

variable {f g : Field}

/-- A composite field is told by its reference and its class. -/
theorem kept_eq_of_class {id : ClassId} {c : ClassDef} (hf : f.isComposite) (hg : g.isComposite)
    (hfl : f.Legible) (hgl : g.Legible) (href : f.referenceTo id = g.referenceTo id)
    (hfc : f.toClass = .ok c) (hgc : g.toClass = .ok c) : f.kept = g.kept := by
  obtain ⟨htag, htrunc, hreq, hvalue⟩ :=
    documentedLeaf_inj hfl.value hgl.value (congrArg Reference.annotations href)
  have htype : f.typeRef = g.typeRef :=
    ((f.className_eq_iff g).mp ((toClass_name hfc).symm.trans (toClass_name hgc))).2
  have hcomponents : f.components.map Component.kept = g.components.map Component.kept := by
    obtain ⟨as, has, hfeatures⟩ := toClass_ok hfc
    obtain ⟨bs, hbs, hfeatures'⟩ := toClass_ok hgc
    rw [firstNamed_of_nodup hfl.names] at has
    rw [firstNamed_of_nodup hgl.names] at hbs
    have heq : as.map Feature.attr = bs.map Feature.attr :=
      congrArg ClassDef.features (hfeatures.symm.trans hfeatures')
    have hsame : as = bs := List.map_injective_iff.mpr (fun _ _ h => Feature.attr.inj h) heq
    exact kept_components_eq has (hsame ▸ hbs) hfl.components hgl.components
  simp only [kept, hf, hg, if_true, htag, htrunc, hreq, hvalue, htype, hcomponents]

end Field

/-! ## Groups and segments -/

/-- No text that a segment gives is blank. -/
structure Signature.Legible (s : Signature) : Prop where
  code : Text.isBlank s.code = false
  pattern : Text.isBlank s.pattern.text = false
  description : NotBlank s.description

instance (s : Signature) : Decidable s.Legible :=
  decidable_of_iff (Text.isBlank s.code = false ∧ Text.isBlank s.pattern.text = false ∧
      NotBlank s.description)
    ⟨fun h => ⟨h.1, h.2.1, h.2.2⟩, fun h => ⟨h.code, h.pattern, h.description⟩⟩

namespace Header

variable {h k : Header} {id : ClassId}

/-- A header is told by its documentation and by what stands on a reference. -/
theorem eq_of_views (htag : h.tag = k.tag) (hdoc : h.documentation = k.documentation)
    (hmin : h.minOccurs = k.minOccurs) (hmax : h.maxOccurs = k.maxOccurs) : h = k := by
  cases h
  cases k
  cases htag
  cases hdoc
  cases hmin
  cases hmax
  rfl

theorem groupReference_tag (h : Header) (children : List Node) (id : ClassId) :
    (h.groupReference children id).annotations.binding? Binding.name = some h.tag := by
  simp [groupReference]

theorem segmentReference_tag (h : Header) (s : Signature) (children : List Node) (id : ClassId) :
    (h.segmentReference s children id).annotations.binding? Binding.name = some h.tag := by
  simp [segmentReference, groupReference]

/-- The class of a group tells its documentation. -/
theorem documentation_eq (hh : NotBlank h.documentation) (hk : NotBlank k.documentation)
    (hclass : h.bareClass = k.bareClass) : h.documentation = k.documentation := by
  have := congrArg (fun c => c.annotations.mapping? Key.documentation) hclass
  simpa [bareClass, effective_eq hh, effective_eq hk] using this

/-- What the annotations of the class of a segment tell. -/
theorem segmentClass_reads (h : Header) (hh : NotBlank h.documentation) {s : Signature}
    (hs : s.Legible) :
    (h.segmentClass s).annotations.mapping? Key.documentation = h.documentation ∧
    (h.segmentClass s).annotations.mapping? Key.segmentCode = some s.code ∧
    (h.segmentClass s).annotations.mapping? Key.segmentPattern = some s.pattern.text ∧
    (h.segmentClass s).annotations.mapping? Key.truncatable = some (flagText s.truncatable) ∧
    (h.segmentClass s).annotations.mapping? Key.ignoreUnmappedFields =
      some (flagText s.ignoreUnmappedFields) ∧
    (h.segmentClass s).annotations.mapping? Key.description = s.description := by
  simp [segmentClass, bareClass, Annotations.describeSegment, Annotations.mapping?_annotate,
    Annotations.effective_some hs.code, Annotations.effective_some hs.pattern,
    effective_eq hs.description, effective_eq hh, Key.kind, Key.segmentCode, Key.segmentPattern,
    Key.truncatable, Key.ignoreUnmappedFields, Key.description, Key.documentation]

/-- The class of a segment tells all of the segment but what stands on the reference to it. -/
theorem segmentClass_inj (hh : NotBlank h.documentation) (hk : NotBlank k.documentation)
    {s t : Signature} (hs : s.Legible) (ht : t.Legible)
    (hclass : h.segmentClass s = k.segmentClass t) :
    h.documentation = k.documentation ∧ s = t := by
  obtain ⟨hdoc, hcode, hpattern, htrunc, hignore, hdesc⟩ := segmentClass_reads h hh hs
  obtain ⟨hdoc', hcode', hpattern', htrunc', hignore', hdesc'⟩ := segmentClass_reads k hk ht
  rw [hclass] at hdoc hcode hpattern htrunc hignore hdesc
  have hcode := Option.some.inj (hcode.symm.trans hcode')
  have hpattern := Option.some.inj (hpattern.symm.trans hpattern')
  have htrunc := flagText_inj (Option.some.inj (htrunc.symm.trans htrunc'))
  have hignore := flagText_inj (Option.some.inj (hignore.symm.trans hignore'))
  have hdesc := hdesc.symm.trans hdesc'
  refine ⟨hdoc.symm.trans hdoc', ?_⟩
  obtain ⟨_, ⟨_⟩, _, _, _⟩ := s
  obtain ⟨_, ⟨_⟩, _, _, _⟩ := t
  cases hcode
  cases hpattern
  cases htrunc
  cases hignore
  cases hdesc
  rfl

end Header

namespace Node

/-- What a node must be like to be told by its reference and its class. -/
def Legible : Node → Prop
  | .group header _ => NotBlank header.documentation
  | .segment header signature _ => NotBlank header.documentation ∧ signature.Legible
  | .field leaf => leaf.Legible

instance : (n : Node) → Decidable n.Legible
  | .group header _ => inferInstanceAs (Decidable (NotBlank header.documentation))
  | .segment header signature _ =>
    inferInstanceAs (Decidable (NotBlank header.documentation ∧ signature.Legible))
  | .field leaf => inferInstanceAs (Decidable leaf.Legible)

/-- The references to nodes of two kinds are never the same. -/
theorem kind_eq_of_reference {n m : Node} {id k : ClassId} (h : n.reference id = m.reference k) :
    n.kind = m.kind := by
  have hkind := congrArg (fun ref => ref.annotations.mapping? Key.kind) h
  simpa using hkind

/-- A group or segment is told by its reference and its class, as far as it is kept itself. -/
theorem kept_eq {n m : Node} {id k : ClassId} (hn : n.isStructural) (hm : m.isStructural)
    (hnl : n.Legible) (hml : m.Legible) (href : n.reference id = m.reference k)
    (hclass : n.bareClass = m.bareClass) (hchildren : keptAll n.children = keptAll m.children) :
    n.kept = m.kept := by
  have hkind := kind_eq_of_reference href
  have hkinds : Kind.segmentGroup ≠ Kind.segment := by decide
  have hlower := congrArg Reference.lowerBound href
  have hupper := congrArg Reference.upperBound href
  have htag := congrArg (fun ref => ref.annotations.binding? Binding.name) href
  cases n with
  | group h cs =>
    cases m with
    | group h' ds =>
      have heq : h = h' := Header.eq_of_views
        (by simpa [reference, Header.groupReference_tag] using htag)
        (Header.documentation_eq hnl hml hclass) hlower hupper
      rw [Node.kept, Node.kept, heq, show keptAll cs = keptAll ds from hchildren]
    | segment => exact absurd hkind hkinds
    | field => cases hm
  | segment h s cs =>
    cases m with
    | group => exact absurd hkind.symm hkinds
    | segment h' t ds =>
      obtain ⟨hdoc, hsignature⟩ := Header.segmentClass_inj hnl.1 hml.1 hnl.2 hml.2 hclass
      have heq : h = h' := Header.eq_of_views
        (by simpa [reference, Header.segmentReference_tag] using htag) hdoc hlower hupper
      rw [Node.kept, Node.kept, heq, hsignature, show keptAll cs = keptAll ds from hchildren]
    | field => cases hm
  | field => cases hn

end Node

end EdiSchema
