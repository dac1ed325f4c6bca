import EdiSchema.Proofs.Components
import EdiSchema.Proofs.Preorder

/-!
# The classes mirror the tree

A conversion that succeeds leaves one class for each node that brings one in (`Node.introduced`),
in that order, behind the classes that were there before. The class of a group or segment has one
feature for each child: that is `Node.Shapes`, with `Node.Mirrors` for a child and its feature. Both
relations are told which class stands for which node, so that they can be read in a registry
(`Registry.Uses`) and in a package, and both follow that relation when it grows.

`toFeature_mirrors` and `addChildren_mirrors` are the laws. Their first half holds of failed
conversions too: nothing happens but that classes are added behind, and features added to the class
that is being filled.
-/

namespace EdiSchema

open List (Forall₂)

/-! ## What stands for a node -/

namespace Node

/-- The feature `f` stands for the node in the class of its parent; `stands` says which class stands
for a node. -/
inductive Mirrors (stands : Node → ClassId → Prop) : Node → Feature → Prop
  | simple {leaf : Field} {a : Attribute} (h : leaf.toAttribute = .ok a) :
    Mirrors stands (.field leaf) (.attr a)
  | reference {n : Node} {id : ClassId} (h : n.hasClass) (hid : stands n id) :
    Mirrors stands n (.ref (n.reference id))

/-- The class `c` is the one that the node brings in. -/
inductive Shapes (stands : Node → ClassId → Prop) : Node → ClassDef → Prop
  | structural {n : Node} {fs : List Feature} (h : n.isStructural)
    (hfs : Forall₂ (Mirrors stands) n.children fs) : Shapes stands n (n.bareClass.withFeatures fs)
  | composite {leaf : Field} {c : ClassDef} (h : leaf.isComposite) (hc : leaf.toClass = .ok c) :
    Shapes stands (.field leaf) c

variable {stands wider : Node → ClassId → Prop}

/-- A feature still stands for its child where more classes stand for nodes. -/
theorem Mirrors.imp (h : ∀ n id, stands n id → wider n id) {n : Node} {f : Feature}
    (hf : n.Mirrors stands f) : n.Mirrors wider f := by
  cases hf with
  | simple ha => exact .simple ha
  | reference hn hid => exact .reference hn (h _ _ hid)

/-- A node that has a class is mirrored by the reference to it. -/
theorem Mirrors.eq_reference {n : Node} {f : Feature} (h : n.Mirrors stands f) (hn : n.hasClass) :
    ∃ id, stands n id ∧ f = .ref (n.reference id) := by
  cases h with
  | @simple leaf _ ha =>
    rw [Field.toAttribute, if_pos (show leaf.isComposite from hn)] at ha
    cases ha
  | @reference _ id _ hid => exact ⟨id, hid, rfl⟩

/-- A child that is mirrored by a reference has a class, and the reference leads there. -/
theorem Mirrors.of_ref {n : Node} {ref : Reference} (h : n.Mirrors stands (.ref ref)) :
    n.hasClass ∧ ∃ id, stands n id ∧ ref = n.reference id := by
  cases h with
  | reference hn hid => exact ⟨hn, _, hid, rfl⟩

/-- A child that is mirrored by an attribute is a simple field. -/
theorem Mirrors.of_attr {n : Node} {a : Attribute} (h : n.Mirrors stands (.attr a)) :
    ∃ leaf : Field, n = .field leaf ∧ leaf.toAttribute = .ok a := by
  cases h with
  | simple ha => exact ⟨_, rfl, ha⟩

/-- A class is still the one of its node where more classes stand for nodes. -/
theorem Shapes.imp (h : ∀ n id, stands n id → wider n id) {n : Node} {c : ClassDef}
    (hc : n.Shapes stands c) : n.Shapes wider c := by
  cases hc with
  | structural hn hfs => exact .structural hn (hfs.imp fun _ _ => Mirrors.imp h)
  | composite hn hc => exact .composite hn hc

/-- Apart from its features, the class of a node is the one that the node describes. -/
theorem Shapes.bare {stands : Node → ClassId → Prop} {n : Node} {c : ClassDef}
    (h : n.Shapes stands c) : c = { n.bareClass with features := c.features } := by
  cases h with
  | structural hn hfs => simp [ClassDef.withFeatures]
  | composite hn hc => exact Field.toClass_bare hc

/-- The class that a node brings in has the name of the node. -/
theorem Shapes.name {stands : Node → ClassId → Prop} {n : Node} {c : ClassDef}
    (h : n.Shapes stands c) : c.name = n.className := by
  rw [h.bare]
  exact n.bareClass_name

/-- The class that a node brings in is of the kind of the node. -/
theorem Shapes.kind {stands : Node → ClassId → Prop} {n : Node} {c : ClassDef}
    (h : n.Shapes stands c) : c.kind = n.kind := by
  rw [h.bare]
  exact n.bareClass_kind

/-- The features of the class of a group or segment are those of its children, in order. -/
theorem Shapes.features {stands : Node → ClassId → Prop} {n : Node} {c : ClassDef}
    (h : n.Shapes stands c) (hn : n.isStructural) :
    Forall₂ (Mirrors stands) n.children c.features := by
  cases h with
  | structural _ hfs =>
    rw [ClassDef.withFeatures, bareClass_features]
    exact hfs
  | composite _ _ => cases hn

/-- The class of a composite field is the one made of its components. -/
theorem Shapes.toClass {stands : Node → ClassId → Prop} {leaf : Field} {c : ClassDef}
    (h : (field leaf).Shapes stands c) : leaf.toClass = .ok c := by
  cases h with
  | structural hn _ => cases hn
  | composite _ hc => exact hc

/-- The classes of nodes have the names of the nodes. -/
theorem names_of_shapes {stands : Node → ClassId → Prop} {ns : List Node} {cs : List ClassDef}
    (h : Forall₂ (Shapes stands) ns cs) : cs.map ClassDef.name = ns.map className := by
  induction h with
  | nil => rfl
  | cons hc _ ih => rw [List.map_cons, List.map_cons, hc.name, ih]

end Node

/-! ## What may be used for a node -/

namespace Registry

variable {r r₁ : Registry} {news : List ClassDef} {n : Node} {id : ClassId}

/-- The class at `id` is registered under the name of the node, and may be used for it. -/
def Uses (r : Registry) (n : Node) (id : ClassId) : Prop :=
  r.get? n.className = some id ∧
    ∃ c, r.class? id = some c ∧ (c.kind = n.kind ∨ r.policy = .reuseFirst)

/-- What may be used for a node may still be used when classes have been added. -/
theorem Uses.adds (hu : r.Uses n id) (h : r.Adds news r₁) : r₁.Uses n id := by
  obtain ⟨hid, c, hc, hk⟩ := hu
  exact ⟨h.get? hid, c, h.class? hc, h.policy ▸ hk⟩

/-- What may be used for a node may still be used when features have been added, as its kind is not
among them. -/
theorem Uses.addFeature (hu : r.Uses n id) (k : ClassId) (f : Feature) :
    (r.addFeature k f).Uses n id := by
  obtain ⟨hid, c, hc, hk⟩ := hu
  obtain ⟨fs, hfs⟩ := exists_class?_addFeature hc k f
  exact ⟨hid, c.withFeatures fs, hfs, hk⟩

theorem Uses.addFeatures (hu : r.Uses n id) (k : ClassId) (fs : List Feature) :
    (r.addFeatures k fs).Uses n id := by
  induction fs generalizing r with
  | nil => exact hu
  | cons f fs ih => exact ih (hu.addFeature k f)

/-- A look-up that finds a class finds one that may be used. -/
theorem Sound.uses (hr : r.Sound) (hid : r.get? n.className = some id)
    (hk : r.kindOf id = n.kind ∨ r.policy = .reuseFirst) : r.Uses n id := by
  obtain ⟨c, hc, _⟩ := hr _ _ hid
  exact ⟨hid, c, hc, kindOf_eq hc ▸ hk⟩

/-- A class that has been registered for a node stands for it. -/
theorem uses_register {c : ClassDef} (hname : c.name = n.className) (hkind : c.kind = n.kind)
    (hfree : r.get? n.className = none) : (r.register c).2.Uses n (r.register c).1 := by
  rw [← hname] at hfree
  exact ⟨hname ▸ get?_register hfree, c, class?_register hfree, .inl hkind⟩

/-! ## Fields -/

/-- What becomes of a composite field. -/
theorem addField_mirrors (hr : r.Sound) {leaf : Field} (hl : leaf.isComposite) :
    ∃ news, r.Adds news (r.addField leaf).2 ∧ ∀ ref, (r.addField leaf).1 = .ok ref →
      (Node.field leaf).Mirrors (r.addField leaf).2.Uses (.ref ref) ∧
      Forall₂ (Node.Shapes (r.addField leaf).2.Uses)
        ((Node.field leaf).introduced r.index.keys) news := by
  rcases r.addField_cases leaf with ⟨e, h⟩ | ⟨id, hid, huse, h⟩ | ⟨c, hfree, hc, h⟩
  · rw [h]
    exact ⟨[], .refl r, fun ref href => by cases href⟩
  · rw [h]
    refine ⟨[], .refl r, fun ref href => ?_⟩
    cases href
    refine ⟨.reference (n := .field leaf) hl (hr.uses (n := .field leaf) hid huse), ?_⟩
    rw [Node.introduced, hl, if_neg (by simpa using mem_keys hid)]
    exact .nil
  · rw [h]
    have hshape : (Node.field leaf).Shapes (r.register c).2.Uses c := .composite hl hc
    have hname : c.name = leaf.className := hshape.name
    refine ⟨[c], register_adds (hname ▸ hfree), fun ref href => ?_⟩
    cases href
    refine ⟨.reference (n := .field leaf) hl (uses_register hname hshape.kind hfree), ?_⟩
    rw [Node.introduced, hl, if_pos (by simpa using not_mem_keys hfree)]
    exact .cons hshape .nil

end Registry

/-! ## Trees -/

namespace Node

/-- What a conversion of the node leaves behind. -/
def Converts (n : Node) : Prop :=
  ∀ r : Registry, r.Sound → ∃ news, r.Adds news (n.toFeature r).2 ∧
    ∀ f, (n.toFeature r).1 = .ok f →
      n.Mirrors (n.toFeature r).2.Uses f ∧
      Forall₂ (Shapes (n.toFeature r).2.Uses) (n.introduced r.index.keys) news

/-- What a conversion of children leaves behind, while their parent is filled. -/
def Fills (ns : List Node) : Prop :=
  ∀ (r : Registry) (id : ClassId), r.Sound → (r.class? id).isSome →
    ∃ fs news, (r.addFeatures id fs).Adds news (addChildren ns id r).2 ∧
      ((addChildren ns id r).1 = .ok () →
        Forall₂ (Mirrors (addChildren ns id r).2.Uses) ns fs ∧
        Forall₂ (Shapes (addChildren ns id r).2.Uses) (introducedBy ns r.index.keys) news)

/-- What becomes of a group or segment, given what becomes of its children. -/
theorem addClass_mirrors {n : Node} (hn : n.isStructural) (ih : Fills n.children) {r : Registry}
    (hr : r.Sound) :
    ∃ news, r.Adds news (n.addClass r).2 ∧ ∀ id, (n.addClass r).1 = .ok id →
      (n.addClass r).2.Uses n id ∧
      Forall₂ (Shapes (n.addClass r).2.Uses) (n.introduced r.index.keys) news := by
  rcases r.resolve_cases n.className n.kind with
    ⟨hfree, hres⟩ | ⟨id, hid, hk, hres⟩ | ⟨id, _, _, _, hres⟩
  · have hbare : r.get? n.bareClass.name = none := n.bareClass_name.symm ▸ hfree
    have hadds := Registry.register_adds hbare
    obtain ⟨fs, news, hnews, hok⟩ := ih (r.register n.bareClass).2 (r.register n.bareClass).1
      (hr.adds hadds) (by rw [Registry.class?_register hbare]; rfl)
    -- the class is registered bare and filled later, which comes to registering it filled
    have huses := (Registry.uses_register n.bareClass_name n.bareClass_kind hfree).addFeatures
      (r.register n.bareClass).1 fs
    rw [addClass_of_free hres]
    refine ⟨n.bareClass.withFeatures fs :: news, ?_, fun id h => ?_⟩
    · rw [Registry.addFeatures_register hbare fs] at hnews
      exact (Registry.register_adds (c := n.bareClass.withFeatures fs) hbare).trans hnews
    · obtain ⟨_, hfilled, rfl⟩ := map_eq_ok.mp h
      obtain ⟨hfs, hshapes⟩ := hok hfilled
      rw [hadds.keys, List.map_singleton, bareClass_name] at hshapes
      refine ⟨huses.adds hnews, ?_⟩
      rw [introduced_structural hn, if_neg (Registry.not_mem_keys hfree)]
      exact .cons (.structural hn hfs) hshapes
  · rw [addClass_of_found hres]
    refine ⟨[], .refl r, fun k h => ?_⟩
    obtain ⟨_, _, rfl⟩ := map_eq_ok.mp h
    refine ⟨hr.uses hid hk, ?_⟩
    rw [introduced_structural hn, if_pos (Registry.mem_keys hid)]
    exact .nil
  · rw [addClass_of_refused hres]
    exact ⟨[], .refl r, fun k h => by cases h⟩

/-- A group or segment is mirrored if its children are. -/
theorem converts_structural {n : Node} (hn : n.isStructural) (ih : Fills n.children) :
    n.Converts := by
  intro r hr
  obtain ⟨news, hnews, hok⟩ := addClass_mirrors hn ih hr
  rw [toFeature_structural hn]
  refine ⟨news, hnews, fun f hf => ?_⟩
  obtain ⟨id, hid, rfl⟩ := map_eq_ok.mp hf
  obtain ⟨huses, hshapes⟩ := hok id hid
  exact ⟨.reference (hasClass_of_isStructural hn) huses, hshapes⟩

/-- A composite field is mirrored by a reference, and a simple one by an attribute. -/
theorem converts_field (leaf : Field) : (field leaf).Converts := by
  intro r hr
  cases hl : leaf.isComposite with
  | true =>
    obtain ⟨news, hnews, hok⟩ := Registry.addField_mirrors hr hl
    rw [toFeature_composite hl]
    refine ⟨news, hnews, fun f hf => ?_⟩
    obtain ⟨ref, href, rfl⟩ := map_eq_ok.mp hf
    exact hok ref href
  | false =>
    rw [toFeature_simple hl]
    refine ⟨[], .refl r, fun f hf => ?_⟩
    cases hf
    refine ⟨.simple (by rw [Field.toAttribute, hl]; rfl), ?_⟩
    rw [introduced, hl]
    exact .nil

theorem fills_nil : Fills [] := by
  intro r id _ _
  exact ⟨[], [], .refl r, fun _ => ⟨.nil, .nil⟩⟩

/-- Children are mirrored one after the other, each over what those before it have left. -/
theorem fills_cons {n : Node} {rest : List Node} (hn : n.Converts) (hrest : Fills rest) :
    Fills (n :: rest) := by
  intro r id hr hid
  obtain ⟨news, hnews, hok⟩ := hn r hr
  rcases hstep : n.toFeature r with ⟨e | f, r₁⟩
  · rw [addChildren_of_error hstep]
    rw [hstep] at hnews
    exact ⟨[], news, hnews, fun h => by cases h⟩
  · rw [addChildren_of_ok hstep]
    rw [hstep] at hnews hok
    obtain ⟨hf, hshapes⟩ := hok f rfl
    obtain ⟨fs, more, hmore, hok₂⟩ := hrest (r₁.addFeature id f) id
      ((hr.adds hnews).addFeature id f)
      (Registry.isSome_class?_addFeature (hnews.isSome_class? hid) id f)
    have hadd := hnews.addFeatures hid (f :: fs)
    refine ⟨f :: fs, news ++ more, hadd.trans hmore, fun h => ?_⟩
    obtain ⟨hfs, hshapes₂⟩ := hok₂ h
    -- what stood for a node before the rest was converted still does
    have hwiden : ∀ m k, r₁.Uses m k → (addChildren rest id (r₁.addFeature id f)).2.Uses m k :=
      fun m k hu => (hu.addFeatures id (f :: fs)).adds hmore
    have hkeys : r₁.index.keys = r.index.keys ++ (n.introduced r.index.keys).map className := by
      rw [hnews.keys, names_of_shapes hshapes]
    refine ⟨.cons (hf.imp hwiden) hfs, ?_⟩
    rw [introducedBy, ← hkeys]
    exact List.rel_append (hshapes.imp fun _ _ => Shapes.imp hwiden) hshapes₂

/-- What becomes of a tree, and of the children of a class that is being filled. -/
theorem converts_and_fills : (∀ n : Node, n.Converts) ∧ ∀ ns, Fills ns :=
  forest_induction (fun _ hn ih => converts_structural hn ih) converts_field fills_nil
    fun _ _ hn hrest => fills_cons hn hrest

theorem toFeature_mirrors (n : Node) : n.Converts := converts_and_fills.1 n

theorem addChildren_mirrors (ns : List Node) : Fills ns := converts_and_fills.2 ns

end Node

end EdiSchema
