import EdiSchema.Proofs.Classes
import EdiSchema.Proofs.Frame

/-!
# The two policies on names

The policy is asked only when a name belongs to a class of another kind. So a strict conversion and
a lenient one of the same tree go in lockstep until the strict one is refused, and what it is
refused for is a conflict between two kinds of nodes (`Document.toPackage_lockstep`).

The lenient conversion goes on from there, and leaves a mark of the conflict: the reference that
stands for the node says one kind and leads to a class of another. Such a *clash* stays to the end,
because classes keep their annotations and references their targets. A package without clashes is
kind-coherent, and `Document.toPackage_fail_iff` says that the strict conversion gives exactly the
kind-coherent packages among those that the lenient one gives.
-/

namespace EdiSchema

open List (Forall₂)

/-- The kinds of nodes that have classes. -/
def nodeKinds : List String := [Kind.segmentGroup, Kind.segment, Kind.field]

/-- Every node is of one of the three kinds. -/
theorem Node.kind_mem (n : Node) : n.kind ∈ nodeKinds := by
  cases n with
  | group => exact List.mem_cons_self
  | segment => exact List.mem_cons_of_mem _ List.mem_cons_self
  | field => exact List.mem_cons_of_mem _ (List.mem_cons_of_mem _ List.mem_cons_self)

/-- Two kinds of nodes want to have one name. -/
def ConversionError.BetweenNodes (e : ConversionError) : Prop :=
  ∃ name existing requested, e = .classNameConflict name existing requested ∧
    existing ∈ nodeKinds ∧ requested ∈ nodeKinds

/-- Every reference of the classes apart from the document root leads to a class of the kind that
the reference says. -/
def Package.KindCoherent (p : Package) : Prop :=
  ∀ c ∈ p.classes, c.name ≠ documentRootName → ∀ ref ∈ c.references,
    ∃ target, p.class? ref.target = some target ∧
      ref.annotations.mapping? Key.kind = some target.kind

namespace Registry

/-! ## Clashes -/

/-- The reference says one kind and leads to a class of another. -/
def Clash (r : Registry) (ref : Reference) : Prop :=
  ∃ c, r.class? ref.target = some c ∧ ref.annotations.mapping? Key.kind ≠ some c.kind

/-- Some class has a reference that clashes. -/
def HasClash (r : Registry) : Prop :=
  ∃ id c ref, r.class? id = some c ∧ .ref ref ∈ c.features ∧ r.Clash ref

/-- What stood in `r` stands in `r'`: classes keep their place and kind, and lose no feature. -/
def Below (r r' : Registry) : Prop :=
  ∀ id c, r.class? id = some c →
    ∃ d, r'.class? id = some d ∧ d.kind = c.kind ∧ ∀ f ∈ c.features, f ∈ d.features

variable {r r₁ r₂ : Registry} {news : List ClassDef}

theorem Below.refl (r : Registry) : r.Below r := fun _ c hc => ⟨c, hc, rfl, fun _ hf => hf⟩

theorem Below.trans (h₁ : r.Below r₁) (h₂ : r₁.Below r₂) : r.Below r₂ := by
  intro id c hc
  obtain ⟨d, hd, hkind, hfs⟩ := h₁ id c hc
  obtain ⟨e, he, hkind₂, hfs₂⟩ := h₂ id d hd
  exact ⟨e, he, hkind₂.trans hkind, fun f hf => hfs₂ f (hfs f hf)⟩

/-- Classes that are added behind touch none of those before them. -/
theorem Adds.below (h : r.Adds news r₁) : r.Below r₁ :=
  fun _ c hc => ⟨c, h.class? hc, rfl, fun _ hf => hf⟩

/-- A feature that is added takes nothing away. -/
theorem below_addFeature (r : Registry) (id : ClassId) (f : Feature) :
    r.Below (r.addFeature id f) := by
  intro k c hc
  obtain ⟨fs, hfs⟩ := exists_class?_addFeature hc id f
  exact ⟨c.withFeatures fs, hfs, rfl, fun g hg => List.mem_append_left _ hg⟩

theorem below_addFeatures (id : ClassId) (fs : List Feature) (r : Registry) :
    r.Below (r.addFeatures id fs) := by
  induction fs generalizing r with
  | nil => exact .refl r
  | cons f fs ih => exact (below_addFeature r id f).trans (ih (r.addFeature id f))

/-- A clash stays: the class that is referred to keeps its place and its kind. -/
theorem Clash.mono (h : r.Below r₁) {ref : Reference} : r.Clash ref → r₁.Clash ref := by
  rintro ⟨c, hc, hne⟩
  obtain ⟨d, hd, hkind, _⟩ := h _ _ hc
  exact ⟨d, hd, hkind ▸ hne⟩

/-- A registry with a clash has one for good. -/
theorem HasClash.mono (h : r.Below r₁) : r.HasClash → r₁.HasClash := by
  rintro ⟨id, c, ref, hc, href, hclash⟩
  obtain ⟨d, hd, _, hfs⟩ := h _ _ hc
  exact ⟨id, d, ref, hd, hfs _ href, hclash.mono h⟩

/-- A clashing reference that is added to a class is a clash of the registry. -/
theorem Clash.addFeature {ref : Reference} (h : r.Clash ref) {id : ClassId}
    (hid : (r.class? id).isSome) : (r.addFeature id (.ref ref)).HasClash := by
  obtain ⟨c, hc⟩ := Option.isSome_iff_exists.mp hid
  refine ⟨id, c.addFeature (.ref ref), ref, ?_, ?_, h.mono (below_addFeature r id _)⟩
  · rw [class?_addFeature, if_pos rfl, hc]
    rfl
  · exact List.mem_append_right _ List.mem_cons_self

/-! ## The lenient registry -/

/-- The same registry under the lenient policy. -/
def lenient (r : Registry) : Registry := { r with policy := .reuseFirst }

/-- The policy is not asked when a class is registered. -/
theorem register_lenient (r : Registry) (c : ClassDef) :
    r.lenient.register c = ((r.register c).1, (r.register c).2.lenient) := by
  unfold register
  rw [show r.lenient.get? c.name = r.get? c.name from rfl]
  cases r.get? c.name <;> rfl

/-- All classes belong to nodes, by their kinds. -/
def OfNodes (r : Registry) : Prop := ∀ id c, r.class? id = some c → c.kind ∈ nodeKinds

/-- The class of a node is of the kind of the node, so it may be registered. -/
theorem OfNodes.register (hr : r.OfNodes) {n : Node} (hfree : r.get? n.bareClass.name = none) :
    (r.register n.bareClass).2.OfNodes := by
  intro id c hc
  rw [register_of_free hfree] at hc
  have hc' := (Package.class?_addClass r.package n.bareClass id).symm.trans hc
  split at hc'
  · obtain rfl := Option.some.inj hc'
    rw [n.bareClass_kind]
    exact n.kind_mem
  · exact hr id c hc'

/-- The classes that nodes bring in are of the kinds of nodes. -/
theorem OfNodes.adds (hr : r.OfNodes) {ns : List Node} {stands : Node → ClassId → Prop}
    (h : r.Adds news r₁) (hshapes : Forall₂ (Node.Shapes stands) ns news) : r₁.OfNodes := by
  intro id c hc
  simp only [class?, Package.class?, h.classes] at hc
  rcases List.mem_append.mp (List.mem_of_getElem? hc) with hmem | hmem
  · obtain ⟨i, hi⟩ := List.mem_iff_getElem?.mp hmem
    exact hr ⟨i⟩ c hi
  · obtain ⟨n, _, hshape⟩ := exists_left_of_mem hshapes hmem
    exact hshape.kind ▸ n.kind_mem

/-- Features do not change kinds. -/
theorem OfNodes.addFeature (hr : r.OfNodes) (id : ClassId) (f : Feature) :
    (r.addFeature id f).OfNodes := by
  intro k c hc
  rw [class?_addFeature] at hc
  split at hc
  · obtain ⟨d, hd, rfl⟩ := Option.map_eq_some_iff.mp hc
    exact hr k d hd
  · exact hr k c hc

end Registry

/-! ## Lockstep -/

/-- The same outcome, with the registry under the lenient policy. -/
def lenientOutcome {α : Type} (o : Outcome α) : Outcome α := (o.1, o.2.lenient)

/-- A conversion was refused for a conflict between kinds of nodes. -/
def Refused {α : Type} (o : Outcome α) : Prop := ∃ e, o.1 = .error e ∧ e.BetweenNodes

namespace Node

/-- Under either policy the node converts alike, or else the strict conversion is refused, and the
lenient one comes to a clash if it comes to anything. -/
def Lockstep (n : Node) : Prop :=
  ∀ r : Registry, r.Sound → r.OfNodes →
    n.toFeature r.lenient = lenientOutcome (n.toFeature r) ∨
    Refused (n.toFeature r) ∧ ∀ f, (n.toFeature r.lenient).1 = .ok f →
      (n.toFeature r.lenient).2.HasClash ∨
        ∃ ref, f = .ref ref ∧ (n.toFeature r.lenient).2.Clash ref

/-- The same of children, while their parent is filled. -/
def LockstepFill (ns : List Node) : Prop :=
  ∀ (r : Registry) (id : ClassId), r.Sound → r.OfNodes → (r.class? id).isSome →
    addChildren ns id r.lenient = lenientOutcome (addChildren ns id r) ∨
    Refused (addChildren ns id r) ∧ ((addChildren ns id r.lenient).1 = .ok () →
      (addChildren ns id r.lenient).2.HasClash)

/-- A structural node whose name is free is in lockstep if its children are. -/
theorem addClass_lockstep_of_free {n : Node} (ih : LockstepFill n.children) {r : Registry}
    (hr : r.Sound) (hof : r.OfNodes) (hfree : r.get? n.className = none) :
    n.addClass r.lenient = lenientOutcome (n.addClass r) ∨
    Refused (n.addClass r) ∧ ∀ id, (n.addClass r.lenient).1 = .ok id →
      (n.addClass r.lenient).2.HasClash := by
  have hbare : r.get? n.bareClass.name = none := n.bareClass_name.symm ▸ hfree
  have hfree' : r.lenient.get? n.className = none := hfree
  rw [addClass_of_free (Registry.resolve_of_free hfree _),
    addClass_of_free (Registry.resolve_of_free hfree' _), Registry.register_lenient]
  rcases ih (r.register n.bareClass).2 (r.register n.bareClass).1
    (hr.adds (Registry.register_adds hbare)) (hof.register hbare)
    (by rw [Registry.class?_register hbare]; rfl) with hstep | ⟨⟨e, he, hbetween⟩, hclash⟩
  · left
    rw [hstep]
    rfl
  · right
    refine ⟨⟨e, map_eq_error.mpr he, hbetween⟩, fun id hid => ?_⟩
    obtain ⟨_, hok, _⟩ := map_eq_ok.mp hid
    exact hclash hok

/-- What a lenient look-up finds in spite of the kind clashes with the node. -/
theorem clash_of_kindOf_ne {n : Node} {r : Registry} (hr : r.Sound) {id : ClassId}
    (hid : r.get? n.className = some id) (hk : r.kindOf id ≠ n.kind) :
    r.Clash (n.reference id) := by
  obtain ⟨c, hc, _⟩ := hr _ _ hid
  refine ⟨c, by rw [reference_target]; exact hc, fun h => hk ?_⟩
  rw [reference_kind, Option.some.injEq] at h
  rw [Registry.kindOf_eq hc, h]

/-- A refused look-up is one between kinds of nodes. -/
theorem betweenNodes_of_kindOf {n : Node} {r : Registry} (hr : r.Sound) (hof : r.OfNodes)
    {id : ClassId} (hid : r.get? n.className = some id) :
    (ConversionError.classNameConflict n.className (r.kindOf id) n.kind).BetweenNodes := by
  obtain ⟨c, hc, _⟩ := hr _ _ hid
  refine ⟨_, _, _, rfl, ?_, n.kind_mem⟩
  rw [Registry.kindOf_eq hc]
  exact hof id c hc

/-- A group or segment is in lockstep if its children are. Where the strict look-up is refused the
lenient one finds the class all the same, and the reference to it clashes. -/
theorem lockstep_structural {n : Node} (hn : n.isStructural) (ih : LockstepFill n.children) :
    n.Lockstep := by
  intro r hr hof
  rw [toFeature_structural hn, toFeature_structural hn]
  have hres' := Registry.resolve_of_reuseFirst (r := r.lenient) rfl n.className n.kind
  rcases r.resolve_cases n.className n.kind with
    ⟨hfree, _⟩ | ⟨id, hid, _, hres⟩ | ⟨id, hid, hk, _, hres⟩
  · rcases addClass_lockstep_of_free ih hr hof hfree with hstep | ⟨⟨e, he, hbetween⟩, hclash⟩
    · left
      rw [hstep]
      rfl
    · right
      refine ⟨⟨e, map_eq_error.mpr he, hbetween⟩, fun f hf => ?_⟩
      obtain ⟨id, hid, _⟩ := map_eq_ok.mp hf
      exact .inl (hclash id hid)
  · left
    rw [addClass_of_found hres, addClass_of_found (hres'.trans (congrArg Except.ok hid))]
    rfl
  · right
    rw [addClass_of_refused hres, addClass_of_found (hres'.trans (congrArg Except.ok hid))]
    refine ⟨⟨_, rfl, betweenNodes_of_kindOf hr hof hid⟩, fun f hf => .inr ?_⟩
    obtain ⟨_, hk', rfl⟩ := map_eq_ok.mp hf
    obtain ⟨_, _, rfl⟩ := map_eq_ok.mp hk'
    exact ⟨_, rfl, clash_of_kindOf_ne hr hid hk⟩

/-- What becomes of a composite field under either policy. -/
theorem addField_lockstep (leaf : Field) {r : Registry} (hr : r.Sound) (hof : r.OfNodes) :
    r.lenient.addField leaf = lenientOutcome (r.addField leaf) ∨
    Refused (r.addField leaf) ∧ ∀ ref, (r.lenient.addField leaf).1 = .ok ref →
      (r.lenient.addField leaf).2.Clash ref := by
  have hres' := Registry.resolve_of_reuseFirst (r := r.lenient) rfl leaf.className Kind.field
  rcases r.resolve_cases leaf.className Kind.field with
    ⟨hfree, hres⟩ | ⟨id, hid, _, hres⟩ | ⟨id, hid, hk, _, hres⟩
  · left
    have hfree' := hres'.trans (congrArg Except.ok hfree)
    cases hc : leaf.toClass with
    | error e =>
      rw [Registry.addField_of_error hres hc, Registry.addField_of_error hfree' hc]
      rfl
    | ok c =>
      rw [Registry.addField_of_free hres hc, Registry.addField_of_free hfree' hc,
        Registry.register_lenient]
      rfl
  · left
    rw [Registry.addField_of_found hres,
      Registry.addField_of_found (hres'.trans (congrArg Except.ok hid))]
    rfl
  · right
    rw [Registry.addField_of_refused hres,
      Registry.addField_of_found (hres'.trans (congrArg Except.ok hid))]
    refine ⟨⟨_, rfl, betweenNodes_of_kindOf (n := .field leaf) hr hof hid⟩, fun ref href => ?_⟩
    obtain ⟨_, _, rfl⟩ := map_eq_ok.mp href
    exact clash_of_kindOf_ne (n := .field leaf) hr hid hk

theorem lockstep_field (leaf : Field) : (field leaf).Lockstep := by
  intro r hr hof
  cases hl : leaf.isComposite with
  | false =>
    left
    rw [toFeature_simple hl, toFeature_simple hl]
    rfl
  | true =>
    rw [toFeature_composite hl, toFeature_composite hl]
    rcases addField_lockstep leaf hr hof with hstep | ⟨⟨e, he, hbetween⟩, hclash⟩
    · left
      rw [hstep]
      rfl
    · right
      refine ⟨⟨e, map_eq_error.mpr he, hbetween⟩, fun f hf => ?_⟩
      obtain ⟨ref, href, rfl⟩ := map_eq_ok.mp hf
      exact .inr ⟨ref, rfl, hclash ref href⟩

theorem lockstepFill_nil : LockstepFill [] := fun _ _ _ _ _ => .inl rfl

/-- A clash is in the registry as soon as the feature is added, and stays there while the rest is
converted. -/
theorem hasClash_addChildren {r : Registry} {id : ClassId} (hid : (r.class? id).isSome)
    {f : Feature}
    (hclash : r.HasClash ∨ ∃ ref, f = .ref ref ∧ r.Clash ref) (rest : List Node) :
    (addChildren rest id (r.addFeature id f)).2.HasClash := by
  have hhas : (r.addFeature id f).HasClash := by
    rcases hclash with hhas | ⟨ref, rfl, href⟩
    · exact hhas.mono (Registry.below_addFeature r id f)
    · exact href.addFeature hid
  obtain ⟨fs, more, hmore⟩ := addChildren_adds rest (r.addFeature id f) id
    (Registry.isSome_class?_addFeature hid id f)
  exact hhas.mono ((Registry.below_addFeatures id fs _).trans hmore.below)

/-- Children go in lockstep up to the first one that is refused. From there the lenient conversion
goes on by itself, and its clash stays. -/
theorem lockstepFill_cons {n : Node} {rest : List Node} (hn : n.Lockstep)
    (hrest : LockstepFill rest) : LockstepFill (n :: rest) := by
  intro r id hr hof hid
  rcases hn r hr hof with hstep | ⟨⟨e, he, hbetween⟩, hclash⟩
  · obtain ⟨news, hnews, hok⟩ := n.toFeature_mirrors r hr
    rcases hc : n.toFeature r with ⟨e | f, r₁⟩
    · left
      rw [hc] at hstep
      rw [addChildren_of_error hc, addChildren_of_error hstep]
      rfl
    · rw [hc] at hstep hnews hok
      rw [addChildren_of_ok hc, addChildren_of_ok hstep]
      obtain ⟨_, hshapes⟩ := hok f rfl
      exact hrest (r₁.addFeature id f) id ((hr.adds hnews).addFeature id f)
        ((hof.adds hnews hshapes).addFeature id f)
        (Registry.isSome_class?_addFeature (hnews.isSome_class? hid) id f)
  · right
    have hrefused : (addChildren (n :: rest) id r).1 = .error e := by
      rw [addChildren_of_error (Prod.ext he rfl)]
    refine ⟨⟨e, hrefused, hbetween⟩, fun h => ?_⟩
    rcases hc : n.toFeature r.lenient with ⟨e' | f, r₁⟩
    · rw [addChildren_of_error hc] at h
      cases h
    · obtain ⟨news, hnews⟩ := n.toFeature_adds r.lenient
      rw [hc] at hnews hclash
      rw [addChildren_of_ok hc]
      exact hasClash_addChildren (hnews.isSome_class? hid) (hclash f rfl) rest

theorem lockstep_all : (∀ n : Node, n.Lockstep) ∧ ∀ ns, LockstepFill ns :=
  forest_induction (fun _ hn ih => lockstep_structural hn ih) lockstep_field lockstepFill_nil
    fun _ _ hn hrest => lockstepFill_cons hn hrest

end Node

/-! ## Documents -/

namespace Registry

variable {p : Package}

/-- Where there are no classes, all classes belong to nodes. -/
theorem ofPackage_ofNodes (hp : p.classes = []) (policy : ConflictPolicy) :
    (ofPackage p policy).OfNodes := by
  intro id c hc
  rw [class?, Package.class?] at hc
  change p.classes[id.index]? = some c at hc
  rw [hp] at hc
  cases hc

/-- A group converts under both policies alike where there are no classes, or else the strict
conversion is refused, and the lenient one leaves a clash. -/
theorem addGroup_lockstep (hp : p.classes = []) (g : Group) :
    (ofPackage p .reuseFirst).addGroup g = lenientOutcome ((ofPackage p .fail).addGroup g) ∨
    Refused ((ofPackage p .fail).addGroup g) ∧ ∀ id r,
      (ofPackage p .reuseFirst).addGroup g = (.ok id, r) → r.HasClash := by
  have hfree : (ofPackage p .fail).get? (Node.ofGroup g).className = none := by
    rw [get?, ofPackage_index hp]
    rfl
  rcases Node.addClass_lockstep_of_free (n := Node.ofGroup g) (Node.lockstep_all.2 _)
    (ofPackage_sound p .fail) (ofPackage_ofNodes hp .fail) hfree with hstep | ⟨hrefused, hclash⟩
  · exact .inl hstep
  · refine .inr ⟨hrefused, fun id r hr => ?_⟩
    have := hclash id (congrArg Prod.fst hr)
    rwa [show (Node.ofGroup g).addClass (ofPackage p .fail).lenient = (.ok id, r) from hr] at this

end Registry

namespace Document

variable {doc : Document} {p : Package}

/-- What a clash in the registry means for the package that is made of it. -/
theorem not_kindCoherent_of_hasClash {r : Registry} {root : Option ClassId} (hr : r.HasClash)
    (h : r.package.wrap root = .ok p) : ¬ p.KindCoherent := by
  obtain ⟨hfree, rfl⟩ := wrap_ok h
  intro hcoherent
  obtain ⟨id, c, ref, hc, href, d, hd, hne⟩ := hr
  have hmem : c ∈ r.package.classes := List.mem_of_getElem? hc
  have hname : c.name ≠ documentRootName := fun hname =>
    hfree (hname ▸ List.mem_map_of_mem hmem)
  obtain ⟨target, htarget, hkind⟩ := hcoherent c (List.mem_append_left _ hmem) hname ref
    (ClassDef.mem_references.mpr href)
  obtain rfl := Option.some.inj ((Package.class?_addClass_of_some hd _).symm.trans htarget)
  exact hne hkind

/-- Under either policy a document converts alike, or else the strict conversion is refused for a
conflict between kinds of nodes, and no package that the lenient one gives is kind-coherent. -/
theorem toPackage_lockstep (doc : Document) :
    doc.toPackage .reuseFirst = doc.toPackage .fail ∨
    (∃ e, doc.toPackage .fail = .error e ∧ e.BetweenNodes) ∧
      ∀ p, doc.toPackage .reuseFirst = .ok p → ¬ p.KindCoherent := by
  cases hroot : doc.root with
  | none =>
    left
    simp only [toPackage, hroot]
  | some g =>
    rcases Registry.addGroup_lockstep (p := doc.barePackage) rfl g with
      hstep | ⟨⟨e, he, hbetween⟩, hclash⟩
    · left
      simp only [toPackage, hroot, hstep]
      rcases (Registry.ofPackage doc.barePackage .fail).addGroup g with ⟨_ | _, _⟩ <;> rfl
    · right
      refine ⟨⟨e, toPackage_of_error hroot he, hbetween⟩, fun p hp => ?_⟩
      rcases toPackage_ok hp with ⟨hnone, _⟩ | ⟨g', id, r, hroot', hg, hwrap⟩
      · rw [hroot] at hnone
        cases hnone
      · obtain rfl := Option.some.inj (hroot.symm.trans hroot')
        exact not_kindCoherent_of_hasClash (hclash id r hg) hwrap

/-- A class that a node brought in under the strict policy has no reference that clashes. -/
theorem kind_of_shapes {r : Registry} (hr : r.policy = .fail) {n : Node} {c : ClassDef}
    (h : n.Shapes r.Uses c) {ref : Reference} (href : ref ∈ c.references) :
    ∃ target, r.class? ref.target = some target ∧
      ref.annotations.mapping? Key.kind = some target.kind := by
  cases h with
  | composite hl hc =>
    rw [Field.toClass_references hc] at href
    cases href
  | structural hn hfs =>
    rw [ClassDef.mem_references, ClassDef.withFeatures, Node.bareClass_features] at href
    obtain ⟨child, _, hmirrors⟩ := exists_left_of_mem hfs href
    cases hmirrors with
    | reference hclass huses =>
      obtain ⟨_, target, htarget, hkind⟩ := huses
      rw [Node.reference_target, Node.reference_kind]
      refine ⟨target, htarget, ?_⟩
      rcases hkind with hkind | hpolicy
      · rw [hkind]
      · rw [hr] at hpolicy
        cases hpolicy

/-- What the strict conversion gives is kind-coherent. -/
theorem kindCoherent_of_toPackage (h : doc.toPackage .fail = .ok p) : p.KindCoherent := by
  intro c hc hname ref href
  rcases toPackage_ok h with ⟨_, hwrap⟩ | ⟨g, id, r, _, hg, hwrap⟩
  · obtain ⟨_, rfl⟩ := wrap_ok hwrap
    obtain rfl := List.mem_singleton.mp hc
    exact absurd rfl hname
  · obtain ⟨_, _, hpolicy, _, _, hshapes⟩ := Registry.addGroup_ofPackage rfl hg
    obtain ⟨_, rfl⟩ := wrap_ok hwrap
    rcases List.mem_append.mp hc with hc | hc
    · obtain ⟨n, _, hshape⟩ := exists_left_of_mem hshapes hc
      obtain ⟨target, htarget, hkind⟩ := kind_of_shapes hpolicy hshape href
      exact ⟨target, Package.class?_addClass_of_some htarget _, hkind⟩
    · obtain rfl := List.mem_singleton.mp hc
      exact absurd rfl hname

/-- The policies differ on conflicts between kinds only: the strict conversion of a document gives a
package exactly when the lenient one gives it and the package is kind-coherent. -/
theorem toPackage_fail_iff (doc : Document) (p : Package) :
    doc.toPackage .fail = .ok p ↔ doc.toPackage .reuseFirst = .ok p ∧ p.KindCoherent := by
  constructor
  · intro h
    refine ⟨?_, kindCoherent_of_toPackage h⟩
    rcases doc.toPackage_lockstep with hstep | ⟨⟨e, he, _⟩, _⟩
    · rw [hstep, h]
    · rw [h] at he
      cases he
  · rintro ⟨h, hcoherent⟩
    rcases doc.toPackage_lockstep with hstep | ⟨_, hincoherent⟩
    · rw [← hstep, h]
    · exact absurd hcoherent (hincoherent p h)

/-- A message whose names keep apart. -/
def notice : Document where
  description := { name := "NOTICE", version := "1" }
  root := some ⟨{ tag := "notice" }, [
    .segment { tag := "NAD" } ⟨"NAD", ⟨"^NAD"⟩, false, false, none⟩ [
      .field { tag := "party", components := [{ tag := "id" }] }]]⟩

/-- A group that takes the class of a segment is let through by the lenient policy only, and leaves
a package that is not kind-coherent. Where no kinds meet both policies give one package. -/
theorem toPackage_fail_iff_shipment :
    (∃ p, shipment.toPackage .reuseFirst = .ok p ∧ ¬ p.KindCoherent ∧
      shipment.toPackage .fail =
        .error (.classNameConflict "Nad" Kind.segment Kind.segmentGroup)) ∧
    ∃ p, notice.toPackage .reuseFirst = .ok p ∧ p.KindCoherent ∧
      notice.toPackage .fail = .ok p := by
  constructor
  · obtain ⟨p, hp⟩ := shipment_converts
    have hrefused : shipment.toPackage .fail =
      .error (.classNameConflict "Nad" Kind.segment Kind.segmentGroup) := by rfl
    refine ⟨p, hp, fun hcoherent => ?_, hrefused⟩
    have hok := (toPackage_fail_iff shipment p).mpr ⟨hp, hcoherent⟩
    rw [hrefused] at hok
    cases hok
  · obtain ⟨p, hp⟩ : ∃ p, notice.toPackage .fail = .ok p := exists_of_isOk (by decide +kernel)
    obtain ⟨hlenient, hcoherent⟩ := (toPackage_fail_iff notice p).mp hp
    exact ⟨p, hlenient, hcoherent, hp⟩

end Document

end EdiSchema
