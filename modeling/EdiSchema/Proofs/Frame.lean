import EdiSchema.Proofs.Mirror

/-!
# What a conversion leaves alone

A conversion holds the whole registry while it works its way down a tree, and adds features to
classes by their ids. Still it never touches a class that was there before it began: it fills only
the class that it has registered for a node, and it registers one only when the name was free, so
that the class is a new one at the end. A class that is reused is not filled at all.

That is the invariant of the induction, for nodes `Node.toFeature_adds` and for the children of a
class that is being filled `addChildren_adds`. Neither asks how the conversion came out: one that
stops halfway leaves what it has added by then. Nor is anything assumed of the index. Whatever ids
it lists, a name that it does not list goes to the end.
-/

namespace EdiSchema

/-! ## One conversion -/

/-- Converting a composite field adds at most its class. -/
theorem Registry.addField_adds (r : Registry) (leaf : Field) :
    ∃ news, r.Adds news (r.addField leaf).2 := by
  rcases r.addField_cases leaf with ⟨e, h⟩ | ⟨id, _, _, h⟩ | ⟨c, hfree, hc, h⟩
  · rw [h]
    exact ⟨[], .refl r⟩
  · rw [h]
    exact ⟨[], .refl r⟩
  · rw [h]
    exact ⟨[c], register_adds (Field.toClass_name hc ▸ hfree)⟩

namespace Node

/-- Converting the node adds classes at the end of any registry, and does nothing else. -/
def OnlyAdds (n : Node) : Prop := ∀ r : Registry, ∃ news, r.Adds news (n.toFeature r).2

/-- Converting children adds features to the class that they fill and classes at the end, and does
nothing else. -/
def OnlyFills (ns : List Node) : Prop :=
  ∀ (r : Registry) (id : ClassId), (r.class? id).isSome →
    ∃ fs news, (r.addFeatures id fs).Adds news (addChildren ns id r).2

/-- A structural node whose name is free adds its class, with the features that it got, and behind
it the classes of the nodes below. -/
theorem addClass_adds_of_free {n : Node} (ih : OnlyFills n.children) {r : Registry}
    (hfree : r.get? n.className = none) :
    ∃ fs news, r.Adds (n.bareClass.withFeatures fs :: news) (n.addClass r).2 := by
  have hbare : r.get? n.bareClass.name = none := n.bareClass_name.symm ▸ hfree
  obtain ⟨fs, news, hnews⟩ := ih (r.register n.bareClass).2 (r.register n.bareClass).1
    (by rw [Registry.class?_register hbare]; rfl)
  rw [addClass_of_free (r.resolve_of_free hfree n.kind)]
  -- to register a class and then fill it comes to registering it filled
  rw [Registry.addFeatures_register hbare fs] at hnews
  exact ⟨fs, news, (Registry.register_adds (c := n.bareClass.withFeatures fs) hbare).trans hnews⟩

/-- A structural node that only fills the class registered for it touches no other. -/
theorem addClass_adds {n : Node} (ih : OnlyFills n.children) (r : Registry) :
    ∃ news, r.Adds news (n.addClass r).2 := by
  rcases r.resolve_cases n.className n.kind with
    ⟨hfree, _⟩ | ⟨id, _, _, hres⟩ | ⟨id, _, _, _, hres⟩
  · obtain ⟨fs, news, hnews⟩ := addClass_adds_of_free ih hfree
    exact ⟨n.bareClass.withFeatures fs :: news, hnews⟩
  · rw [addClass_of_found hres]
    exact ⟨[], .refl r⟩
  · rw [addClass_of_refused hres]
    exact ⟨[], .refl r⟩

/-- A composite field adds its class at the end, if any, and a simple field adds nothing. -/
theorem onlyAdds_field (leaf : Field) : (field leaf).OnlyAdds := by
  intro r
  cases hl : leaf.isComposite with
  | true =>
    rw [toFeature_composite hl]
    exact r.addField_adds leaf
  | false =>
    rw [toFeature_simple hl]
    exact ⟨[], .refl r⟩

/-- What one child adds stays where it is while the next ones are converted. -/
theorem onlyFills_cons {n : Node} {rest : List Node} (hn : n.OnlyAdds) (hrest : OnlyFills rest) :
    OnlyFills (n :: rest) := by
  intro r id hid
  obtain ⟨news, hnews⟩ := hn r
  rcases hstep : n.toFeature r with ⟨e | f, r₁⟩
  · rw [addChildren_of_error hstep]
    rw [hstep] at hnews
    exact ⟨[], news, hnews⟩
  · rw [addChildren_of_ok hstep]
    rw [hstep] at hnews
    obtain ⟨fs, more, hmore⟩ := hrest (r₁.addFeature id f) id
      (Registry.isSome_class?_addFeature (hnews.isSome_class? hid) id f)
    exact ⟨f :: fs, news ++ more, (hnews.addFeatures hid (f :: fs)).trans hmore⟩

/-- No tree does anything else. -/
theorem onlyAdds_and_onlyFills : (∀ n : Node, n.OnlyAdds) ∧ ∀ ns, OnlyFills ns := by
  refine forest_induction (fun n hn ih r => ?_) onlyAdds_field ?_
    (fun _ _ hn hrest => onlyFills_cons hn hrest)
  · rw [toFeature_structural hn]
    exact addClass_adds ih r
  · exact fun r id _ => ⟨[], [], .refl r⟩

/-- The law of one node, whether it converts or fails. -/
theorem toFeature_adds (n : Node) : n.OnlyAdds := onlyAdds_and_onlyFills.1 n

/-- The law of children, whether they convert or fail. -/
theorem addChildren_adds (ns : List Node) : OnlyFills ns := onlyAdds_and_onlyFills.2 ns

end Node

namespace Registry

/-- A registration adds the class, or nothing. -/
theorem exists_register_adds (r : Registry) (c : ClassDef) :
    ∃ news, r.Adds news (r.register c).2 := by
  cases hid : r.get? c.name with
  | none => exact ⟨[c], register_adds hid⟩
  | some id =>
    unfold register
    rw [hid]
    exact ⟨[], .refl r⟩

/-- A group by itself only adds classes at the end. -/
theorem addGroup_adds (r : Registry) (g : Group) : ∃ news, r.Adds news (r.addGroup g).2 :=
  Node.addClass_adds (n := Node.ofGroup g) (Node.addChildren_adds _) r

/-- A segment by itself only adds classes at the end. -/
theorem addSegment_adds (r : Registry) (s : Segment) : ∃ news, r.Adds news (r.addSegment s).2 :=
  Node.addClass_adds (n := Node.ofSegment s) (Node.addChildren_adds _) r

end Registry

/-! ## The frame -/

/-- The package `q` is `p` with further classes at the end. -/
structure Package.Extends (p q : Package) : Prop where
  /-- Every class keeps its id, and stays as it is to the last feature. -/
  kept : ∀ id c, p.class? id = some c → q.class? id = some c
  /-- Nothing is new but classes behind the others. -/
  grown : ∃ news, q = { p with classes := p.classes ++ news }

/-- Where classes are added at the end the package is extended. -/
theorem Registry.Adds.extends {r r' : Registry} {news : List ClassDef} (h : r.Adds news r') :
    r.package.Extends r'.package :=
  ⟨fun _ _ hc => h.class? hc, news, h.package⟩

/-- The frame of conversions. Whatever is converted, by whichever policy and over whichever classes,
and whether or not it succeeds: the classes that were there before keep their ids and all that they
have, the package keeps all that it says of itself, and what is new are classes at the end. The same
holds of a registration. -/
theorem Registry.conversions_extend (r : Registry) :
    (∀ g, r.package.Extends (r.addGroup g).2.package) ∧
    (∀ s, r.package.Extends (r.addSegment s).2.package) ∧
    (∀ leaf, r.package.Extends (r.addField leaf).2.package) ∧
    ∀ c, r.package.Extends (r.register c).2.package := by
  refine ⟨fun g => ?_, fun s => ?_, fun leaf => ?_, fun c => ?_⟩
  · obtain ⟨_, h⟩ := r.addGroup_adds g
    exact h.extends
  · obtain ⟨_, h⟩ := r.addSegment_adds s
    exact h.extends
  · obtain ⟨_, h⟩ := r.addField_adds leaf
    exact h.extends
  · obtain ⟨_, h⟩ := r.exists_register_adds c
    exact h.extends

-- The second field is of no known type. The segment fails there, and what came before it stays.
example :
    let r := Registry.ofPackage (Package.named "halfway") .fail
    let r' := (r.addSegment ⟨{ tag := "DTM" }, ⟨"DTM", ⟨"^DTM"⟩, false, false, none⟩, [
      .field { tag := "date", components := [{ tag := "day" }] },
      .field {
        tag := "zone"
        components := [{ tag := "code", value := { typeClass := some "x" } }] }]⟩)
    r'.1.toOption = none ∧ r'.2.package.classes.map (fun c => (c.name, c.features.length)) =
      [("Dtm", 1), ("Date", 1)] := by
  decide +kernel

end EdiSchema
