import EdiSchema.Proofs.Index
import EdiSchema.Proofs.Mirror
import Mathlib.Data.List.Nodup

/-!
# The classes of a converted document

The package of a document has one class for each node that brings one in, in the order of the walk,
and the document root behind them. `Document.toPackage_shapes` says so with the classes whole; the
two main statements take it apart. `Document.toPackage_classes` is about the list of classes: names,
content kinds and annotations come from the nodes that brought the classes in, no name stands twice,
and `root` and `documentRoot` name the first class and the last. `Document.toPackage_features` is
about what is in them: the features of a class mirror the children of the node that brought it in,
and nothing else ever adds to it.
-/

namespace EdiSchema

open List (Forall₂)

/-! ## Conversion from nothing -/

namespace Registry

variable {p : Package} {policy : ConflictPolicy}

/-- Where there are no classes no name is registered. -/
theorem ofPackage_index (hp : p.classes = []) : (ofPackage p policy).index = .empty := by
  simp [ofPackage, Package.identified, hp, OrderedMap.ofList, OrderedMap.insertAll]

/-- The index is a map, so classes that it lists have names of their own. -/
theorem names_nodup {r : Registry} {start : Nat} {cs : List ClassDef}
    (h : r.index.entries = numbered start cs) : (cs.map ClassDef.name).Nodup := by
  rw [← numbered_names start, ← h]
  exact r.index.nodup

/-- What a group leaves behind that is converted where there are no classes. -/
theorem addGroup_ofPackage (hp : p.classes = []) {g : Group} {id : ClassId} {r : Registry}
    (h : (ofPackage p policy).addGroup g = (.ok id, r)) :
    r.package = { p with classes := r.package.classes } ∧
    r.index.entries = numbered 0 r.package.classes ∧ r.policy = policy ∧ r.Sound ∧
    r.Uses (Node.ofGroup g) id ∧
    Forall₂ (Node.Shapes r.Uses) ((Node.ofGroup g).introduced []) r.package.classes := by
  have hr : (ofPackage p policy).Sound := ofPackage_sound p policy
  have hkeys : (ofPackage p policy).index.keys = [] := by
    rw [ofPackage_index hp]
    rfl
  obtain ⟨news, hnews, hok⟩ :=
    Node.addClass_mirrors (n := Node.ofGroup g) rfl (Node.addChildren_mirrors _) hr
  rw [← addGroup_eq, h] at hnews hok
  obtain ⟨huses, hshapes⟩ := hok id rfl
  have hclasses : r.package.classes = news := by
    rw [hnews.classes]
    show p.classes ++ news = news
    rw [hp, List.nil_append]
  have hentries : r.index.entries = numbered 0 news := by
    rw [hnews.entries, ofPackage_index hp]
    show [] ++ numbered p.classes.length news = numbered 0 news
    rw [hp, List.length_nil, List.nil_append]
  rw [hkeys] at hshapes
  refine ⟨?_, hclasses ▸ hentries, hnews.policy, hr.adds hnews, huses, hclasses ▸ hshapes⟩
  rw [hclasses, hnews.package]
  show { p with classes := p.classes ++ news } = _
  rw [hp, List.nil_append]

end Registry

/-! ## Classes apart from their features -/

/-- The class without its features. -/
def ClassDef.bare (c : ClassDef) : ClassDef := { c with features := [] }

theorem Node.Shapes.bare_eq {stands : Node → ClassId → Prop} {n : Node} {c : ClassDef}
    (h : n.Shapes stands c) : c.bare = n.bareClass := by
  rw [h.bare]
  show { n.bareClass with features := [] } = n.bareClass
  rw [← n.bareClass_features]

/-- Apart from their features, the classes of nodes are those that the nodes describe. -/
theorem Node.bare_of_shapes {stands : Node → ClassId → Prop} {ns : List Node} {cs : List ClassDef}
    (h : Forall₂ (Node.Shapes stands) ns cs) : cs.map ClassDef.bare = ns.map Node.bareClass := by
  induction h with
  | nil => rfl
  | cons hc _ ih => rw [List.map_cons, List.map_cons, hc.bare_eq, ih]

/-! ## Names in a package -/

namespace Package

/-- The class at `id` is the one class of the package that has the name. -/
def Bears (p : Package) (name : String) (id : ClassId) : Prop :=
  ∀ k, (∃ c, p.class? k = some c ∧ c.name = name) ↔ k = id

/-- The class at `id` stands for the node: it is the one class that has the name of the node. -/
def Stands (p : Package) (n : Node) (id : ClassId) : Prop := p.Bears n.className id

/-- No two classes stand for one node. -/
theorem Stands.unique {p : Package} {n : Node} {id k : ClassId} (hid : p.Stands n id)
    (hk : p.Stands n k) : k = id :=
  (hid k).mp ((hk k).mpr rfl)

/-- The package has the class that the node brings in. -/
def Shows (p : Package) (n : Node) : Prop :=
  ∃ id c, p.class? id = some c ∧ p.Stands n id ∧ n.Shapes p.Stands c

/-- A name that some class has is found. -/
theorem exists_classNamed? {p : Package} {name : String}
    (h : name ∈ p.classes.map ClassDef.name) : ∃ c, p.classNamed? name = some c := by
  obtain ⟨c, hc, hname⟩ := List.mem_map.mp h
  exact Option.isSome_iff_exists.mp (List.find?_isSome.mpr ⟨c, hc, decide_eq_true hname⟩)

/-- A class stays where it is when another is added. -/
theorem class?_addClass_of_some {p : Package} {id : ClassId} {c : ClassDef}
    (hc : p.class? id = some c) (d : ClassDef) : (p.addClass d).class? id = some c := by
  have hlt : id.index < p.classes.length := (List.getElem?_eq_some_iff.mp hc).1
  rw [class?, addClass, List.getElem?_append_left hlt]
  exact hc

/-- A class whose name is free may be added without a name standing twice. -/
theorem names_nodup_addClass {p : Package} (hp : (p.classes.map ClassDef.name).Nodup) {c : ClassDef}
    (hc : c.name ∉ p.classes.map ClassDef.name) :
    ((p.addClass c).classes.map ClassDef.name).Nodup := by
  rw [addClass, List.map_append, List.nodup_append]
  refine ⟨hp, List.nodup_singleton c.name, fun a ha b hb hab => ?_⟩
  obtain rfl : b = c.name := List.mem_singleton.mp hb
  exact hc (hab ▸ ha)

/-- Where no name stands twice, a class is the only one of its name. -/
theorem bears_of_nodup {p : Package} (hp : (p.classes.map ClassDef.name).Nodup) {id : ClassId}
    {c : ClassDef} (hc : p.class? id = some c) : p.Bears c.name id := by
  intro k
  constructor
  · rintro ⟨d, hd, hname⟩
    obtain ⟨i⟩ := id
    obtain ⟨j⟩ := k
    have hi : (p.classes.map ClassDef.name)[i]? = some c.name := by
      rw [List.getElem?_map, show p.classes[i]? = some c from hc]
      rfl
    have hj : (p.classes.map ClassDef.name)[j]? = some c.name := by
      rw [List.getElem?_map, show p.classes[j]? = some d from hd, ← hname]
      rfl
    have hlt : j < (p.classes.map ClassDef.name).length := (List.getElem?_eq_some_iff.mp hj).1
    rw [(List.getElem?_inj hlt hp).mp (hj.trans hi.symm)]
  · rintro rfl
    exact ⟨c, hc, rfl⟩

end Package

/-! ## The document root -/

/-- The document root refers to the class of the message, if there is one, and has nothing else. -/
theorem Package.mem_features_documentRootClass {q : Package} {root : Option ClassId} {f : Feature} :
    f ∈ (q.documentRootClass root).features ↔
      ∃ id cls, root = some id ∧ q.class? id = some cls ∧ f = .ref (cls.messageReference id) := by
  unfold documentRootClass
  cases root with
  | none => simp
  | some id => cases hc : q.class? id <;> simp [hc]

namespace Document

variable {doc : Document} {policy : ConflictPolicy} {p : Package}

/-- The document root is refused exactly where its name is taken. -/
theorem wrap_eq_error {q : Package} {root : Option ClassId} {e : ConversionError} :
    q.wrap root = .error e ↔ ∃ c, q.classNamed? documentRootName = some c ∧
      e = .classNameConflict documentRootName c.kind Kind.documentRoot := by
  unfold Package.wrap
  cases q.classNamed? documentRootName with
  | none =>
    constructor
    · intro h
      cases h
    · rintro ⟨c, hc, _⟩
      cases hc
  | some c =>
    refine ⟨fun h => ⟨c, rfl, (Except.error.inj h).symm⟩, ?_⟩
    rintro ⟨_, hc, rfl⟩
    cases hc
    rfl

/-- A document root that is added had a free name, and stands behind the classes of the message. -/
theorem wrap_ok {q : Package} {root : Option ClassId} (h : q.wrap root = .ok p) :
    documentRootName ∉ q.classes.map ClassDef.name ∧
    p = { q.addClass (q.documentRootClass root) with
          root := root
          documentRoot := some q.nextId } := by
  unfold Package.wrap at h
  split at h
  · cases h
  · next hnone =>
    refine ⟨fun hmem => ?_, (Except.ok.inj h).symm⟩
    obtain ⟨c, hc, hname⟩ := List.mem_map.mp hmem
    have := List.find?_eq_none.mp hnone c hc
    simp [hname] at this

/-- A document fails as its group does. -/
theorem toPackage_of_error {g : Group} (hroot : doc.root = some g) {e : ConversionError}
    (hg : ((Registry.ofPackage doc.barePackage policy).addGroup g).1 = .error e) :
    doc.toPackage policy = .error e := by
  unfold toPackage
  rw [hroot]
  rcases hc : (Registry.ofPackage doc.barePackage policy).addGroup g with ⟨_ | _, _⟩
  · rw [hc] at hg
    cases hg
    simp only [hc]
  · rw [hc] at hg
    cases hg

/-- A document whose group converts is wrapped. -/
theorem toPackage_of_ok {g : Group} (hroot : doc.root = some g) {id : ClassId} {r : Registry}
    (hg : (Registry.ofPackage doc.barePackage policy).addGroup g = (.ok id, r)) :
    doc.toPackage policy = r.package.wrap (some id) := by
  simp only [toPackage, hroot, hg]

/-- A document converts in two steps: its group, if there is one, and then the document root. -/
theorem toPackage_ok (h : doc.toPackage policy = .ok p) :
    (doc.root = none ∧ doc.barePackage.wrap none = .ok p) ∨
    ∃ g id r, doc.root = some g ∧
      (Registry.ofPackage doc.barePackage policy).addGroup g = (.ok id, r) ∧
      r.package.wrap (some id) = .ok p := by
  cases hroot : doc.root with
  | none =>
    rw [toPackage, hroot] at h
    exact .inl ⟨rfl, h⟩
  | some g =>
    rcases hg : (Registry.ofPackage doc.barePackage policy).addGroup g with ⟨e | id, r⟩
    · rw [toPackage_of_error hroot (congrArg Prod.fst hg)] at h
      cases h
    · rw [toPackage_of_ok hroot hg] at h
      exact .inr ⟨g, id, r, rfl, hg, h⟩

/-- The package of a document whole: the classes that its nodes bring in, and the document root. -/
theorem toPackage_shapes (h : doc.toPackage policy = .ok p) :
    ∃ cs, Forall₂ (Node.Shapes p.Stands) doc.introduced cs ∧
      (p.classes.map ClassDef.name).Nodup ∧
      p.classes = cs ++ [{ doc.barePackage with classes := cs }.documentRootClass p.root] ∧
      p.root = doc.root.map (fun _ => ⟨0⟩) ∧ p.documentRoot = some ⟨cs.length⟩ := by
  rcases toPackage_ok h with ⟨hroot, hwrap⟩ | ⟨g, id, r, hroot, hg, hwrap⟩
  · obtain ⟨_, rfl⟩ := wrap_ok hwrap
    refine ⟨[], ?_, ?_, rfl, by rw [hroot]; rfl, rfl⟩
    · rw [introduced, hroot]
      exact .nil
    · exact List.nodup_singleton documentRootName
  · obtain ⟨hpackage, hentries, hpolicy, hsound, huses, hshapes⟩ :=
      Registry.addGroup_ofPackage rfl hg
    rw [show (Node.ofGroup g).introduced [] = doc.introduced by rw [introduced, hroot]] at hshapes
    obtain ⟨hfree, rfl⟩ := wrap_ok hwrap
    have hall : ((r.package.addClass (r.package.documentRootClass (some id))).classes.map
        ClassDef.name).Nodup :=
      Package.names_nodup_addClass (Registry.names_nodup hentries) hfree
    have hstands : ∀ n k, r.Uses n k →
        (r.package.addClass (r.package.documentRootClass (some id))).Stands n k := by
      rintro n k ⟨hk, _⟩
      obtain ⟨c, hc, hname⟩ := hsound _ _ hk
      rw [Package.Stands, ← hname]
      exact Package.bears_of_nodup hall (Package.class?_addClass_of_some hc _)
    have hzero : id = ⟨0⟩ := by
      rw [introduced_of_root hroot] at hshapes
      obtain ⟨c, cs, hc, _, hcs⟩ := List.forall₂_cons_left_iff.mp hshapes
      have h0 : r.class? ⟨0⟩ = some c := by
        show r.package.classes[0]? = some c
        rw [hcs]
        rfl
      exact ((hstands _ _ huses ⟨0⟩).mp
        ⟨c, Package.class?_addClass_of_some h0 _, hc.name⟩).symm
    refine ⟨r.package.classes, hshapes.imp fun _ _ => Node.Shapes.imp hstands, hall, ?_,
      by rw [hroot, hzero]; rfl, rfl⟩
    rw [← hpackage]
    rfl

/-- The class at each place before the last is the one that the node in that place brings in. -/
theorem toPackage_stands (h : doc.toPackage policy = .ok p) {i : Nat} {n : Node}
    (hn : doc.introduced[i]? = some n) :
    ∃ c, p.class? ⟨i⟩ = some c ∧ p.Stands n ⟨i⟩ ∧ n.Shapes p.Stands c := by
  obtain ⟨cs, hshapes, hnodup, hclasses, _, _⟩ := toPackage_shapes h
  obtain ⟨hi, rfl⟩ := List.getElem?_eq_some_iff.mp hn
  have hi' : i < cs.length := hshapes.length_eq ▸ hi
  have hshape : doc.introduced[i].Shapes p.Stands cs[i] := hshapes.get hi hi'
  have hc : p.class? ⟨i⟩ = some cs[i] := by
    rw [Package.class?, hclasses, List.getElem?_append_left hi', List.getElem?_eq_getElem hi']
  refine ⟨cs[i], hc, ?_, hshape⟩
  have hbears := Package.bears_of_nodup hnodup hc
  rwa [hshape.name] at hbears

/-- The class of the message stands first. -/
theorem toPackage_message (h : doc.toPackage policy = .ok p) {g : Group}
    (hg : doc.root = some g) :
    ∃ c, p.root = some ⟨0⟩ ∧ p.class? ⟨0⟩ = some c ∧ p.Stands (Node.ofGroup g) ⟨0⟩ ∧
      (Node.ofGroup g).Shapes p.Stands c := by
  obtain ⟨_, _, _, _, hroot, _⟩ := toPackage_shapes h
  have hfirst : doc.introduced[0]? = some (Node.ofGroup g) := by
    rw [introduced_of_root hg]
    rfl
  obtain ⟨c, hc, hstands, hshape⟩ := toPackage_stands h hfirst
  refine ⟨c, ?_, hc, hstands, hshape⟩
  rw [hroot, hg]
  rfl

/-- Every node that brings in a class is shown by the package. -/
theorem toPackage_shows (h : doc.toPackage policy = .ok p) {n : Node} (hn : n ∈ doc.introduced) :
    p.Shows n := by
  obtain ⟨i, hi⟩ := List.mem_iff_getElem?.mp hn
  obtain ⟨c, hc, hstands, hshape⟩ := toPackage_stands h hi
  exact ⟨⟨i⟩, c, hc, hstands, hshape⟩

/-- The class of the document root stands last. It was made before it was there itself, but it is
what it would be now. -/
theorem toPackage_documentRoot (h : doc.toPackage policy = .ok p) :
    p.documentRoot = some ⟨doc.introduced.length⟩ ∧
      p.classes.length = doc.introduced.length + 1 ∧
      p.class? ⟨doc.introduced.length⟩ = some (p.documentRootClass p.root) := by
  obtain ⟨cs, hshapes, _, hclasses, hroot, hdoc⟩ := toPackage_shapes h
  have hsame : { doc.barePackage with classes := cs }.documentRootClass p.root =
      p.documentRootClass p.root := by
    rw [hroot]
    cases hg : doc.root with
    | none => rfl
    | some g =>
      rw [introduced_of_root hg] at hshapes
      obtain ⟨c, rest, _, _, rfl⟩ := List.forall₂_cons_left_iff.mp hshapes
      simp only [Package.documentRootClass, Package.class?, hclasses]
      rfl
  rw [hshapes.length_eq, ← hsame]
  refine ⟨hdoc, ?_, ?_⟩
  · rw [hclasses, List.length_append, List.length_singleton]
  · rw [Package.class?, hclasses, List.getElem?_concat_length]

/-- A class belongs to a node or to the document root. -/
theorem toPackage_class_cases (h : doc.toPackage policy = .ok p) {c : ClassDef}
    (hc : c ∈ p.classes) :
    (∃ n : Node, n.Shapes p.Stands c) ∨ c = p.documentRootClass p.root := by
  obtain ⟨_, hlen, hlast⟩ := toPackage_documentRoot h
  obtain ⟨i, hi⟩ := List.mem_iff_getElem?.mp hc
  have hlt : i < p.classes.length := (List.getElem?_eq_some_iff.mp hi).1
  by_cases hnode : i < doc.introduced.length
  · obtain ⟨d, hd, _, hshape⟩ := toPackage_stands h (List.getElem?_eq_getElem hnode)
    exact .inl ⟨_, Option.some.inj (hi.symm.trans hd) ▸ hshape⟩
  · obtain rfl : i = doc.introduced.length := by omega
    exact .inr (Option.some.inj (hi.symm.trans hlast))

/-! ## The main statements -/

/-- The list of classes of a converted document: one class for each node that brings one in, in the
order of the walk, and the document root behind them. Apart from its features a class is what the
node describes that brought it in; no name stands twice; `root` names the first class, if there is a
group, and `documentRoot` the last. -/
theorem toPackage_classes (h : doc.toPackage policy = .ok p) :
    p.classes.map ClassDef.name = doc.introduced.map Node.className ++ [documentRootName] ∧
    p.classes.dropLast.map ClassDef.bare = doc.introduced.map Node.bareClass ∧
    (p.classes.map ClassDef.name).Nodup ∧
    p.root = doc.root.map (fun _ => ⟨0⟩) ∧
    p.documentRoot = some ⟨p.classes.length - 1⟩ := by
  obtain ⟨cs, hshapes, hnodup, hclasses, hroot, hdoc⟩ := toPackage_shapes h
  refine ⟨?_, ?_, hnodup, hroot, ?_⟩
  · rw [hclasses, List.map_append, Node.names_of_shapes hshapes]
    rfl
  · rw [hclasses, List.dropLast_concat]
    exact Node.bare_of_shapes hshapes
  · rw [hclasses, hdoc, List.length_append, List.length_singleton, Nat.add_sub_cancel]

/-- A message in which names meet: the group repeats itself below itself, the segment comes twice
with another signature and other children, and then its name is that of a group. -/
def shipment : Document where
  description := { name := "SHIPMENT", version := "1" }
  root := some ⟨{ tag := "shipment" }, [
    .segment { tag := "NAD", minOccurs := 0, maxOccurs := .bounded 5 }
      ⟨"NAD", ⟨"^NAD"⟩, true, false, some "Name and address"⟩ [
      .field { tag := "party", required := true, components := [{ tag := "id" }] },
      .field { tag := "city" }],
    .group { tag := "Shipment" } [
      .segment { tag := "LOC" } ⟨"LOC", ⟨"^LOC"⟩, false, false, none⟩ []],
    .segment { tag := "nad" } ⟨"NAD", ⟨"^NAD"⟩, false, false, none⟩ [.field { tag := "zone" }],
    .group { tag := "_nad" } [.field { tag := "PARTY", components := [{ tag := "key" }] }]]⟩

theorem shipment_converts : ∃ p, shipment.toPackage .reuseFirst = .ok p :=
  exists_of_isOk (by decide +kernel)

/-- Of the two segments with one name the first is described by the class: it may be cut short, and
the other may not. -/
theorem toPackage_classes_shipment : ∃ p c, shipment.toPackage .reuseFirst = .ok p ∧
    p.classes.map ClassDef.name = ["Shipment", "Nad", "Party", "DocumentRoot"] ∧
    p.root = some ⟨0⟩ ∧ p.documentRoot = some ⟨3⟩ ∧
    p.class? ⟨1⟩ = some c ∧ c.contentKind = .elementOnly ∧ c.kind = Kind.segment ∧
    c.annotations.mapping? Key.segmentCode = some "NAD" ∧
    c.annotations.mapping? Key.truncatable = some "true" ∧
    c.annotations.mapping? Key.description = some "Name and address" := by
  obtain ⟨p, hp⟩ := shipment_converts
  obtain ⟨hnames, hbare, _, hroot, hdoc⟩ := toPackage_classes hp
  have hlisted : p.classes.map ClassDef.name = ["Shipment", "Nad", "Party", "DocumentRoot"] := by
    rw [hnames]
    decide +kernel
  have hlen : p.classes.length = 4 := by
    rw [← List.length_map (f := ClassDef.name), hlisted]
    rfl
  have hsecond : (p.classes.dropLast.map ClassDef.bare)[1]? =
      (shipment.introduced.map Node.bareClass)[1]? := by rw [hbare]
  rw [List.getElem?_map, List.getElem?_dropLast, hlen, if_pos (by decide)] at hsecond
  obtain ⟨c, hc, hnad⟩ := Option.map_eq_some_iff.mp hsecond
  have hcontent : c.contentKind = c.bare.contentKind := rfl
  have hannotations : c.annotations = c.bare.annotations := rfl
  refine ⟨p, c, hp, hlisted, hroot, by rw [hdoc, hlen], hc, ?_⟩
  rw [ClassDef.kind, hcontent, hannotations, hnad]
  decide +kernel

/-- The features of a converted document. The class that a group or segment brought in has one
feature for each child, in source order: an attribute for a simple field, and for all else the
containment reference of the child to the one class that has the name of the child. The reference
to a group bears the code of the first segment below the group. The class of a composite field is
the one made of its components, and the document root refers to the class of the message. Nodes
that brought in no class add nothing. -/
theorem toPackage_features (h : doc.toPackage policy = .ok p) :
    (∀ (i : Nat) (n : Node), doc.introduced[i]? = some n →
      ∃ c, p.class? ⟨i⟩ = some c ∧ c.name = n.className ∧
        (n.isStructural → Forall₂ (Node.Mirrors p.Stands) n.children c.features) ∧
        ∀ leaf, n = .field leaf → leaf.toClass = .ok c) ∧
    (∃ c, p.documentRootClass? = some c ∧ c.features =
      (p.rootClass?.map fun cls => .ref (cls.messageReference ⟨0⟩)).toList) ∧
    (∀ (n : Node) id, (n.reference id).containment ∧ (n.reference id).target = id) ∧
    ∀ header children id,
      (Node.reference (.group header children) id).annotations.mapping? Key.segmentCode =
        ((Node.signaturesOf children).head?.map Signature.code).filter
          fun code => !Text.isBlank code := by
  obtain ⟨cs, hshapes, hnodup, hclasses, hroot, hdoc⟩ := toPackage_shapes h
  refine ⟨fun i n hn => ?_, ?_, fun n id => ⟨by cases n <;> rfl, n.reference_target id⟩,
    Node.groupReference_code⟩
  · obtain ⟨hi, rfl⟩ := List.getElem?_eq_some_iff.mp hn
    have hi' : i < cs.length := hshapes.length_eq ▸ hi
    have hshape : doc.introduced[i].Shapes p.Stands cs[i] := hshapes.get hi hi'
    have hc : p.class? ⟨i⟩ = some cs[i] := by
      rw [Package.class?, hclasses, List.getElem?_append_left hi', List.getElem?_eq_getElem hi']
    refine ⟨cs[i], hc, hshape.name, fun hs => hshape.features hs, fun leaf hleaf => ?_⟩
    exact (hleaf ▸ hshape).toClass
  · refine ⟨_, by rw [Package.documentRootClass?, hdoc, Option.bind_some, Package.class?, hclasses,
      List.getElem?_concat_length], ?_⟩
    rw [Package.rootClass?, hroot]
    cases hgroup : doc.root with
    | none => rfl
    | some g =>
      rw [introduced_of_root hgroup] at hshapes
      obtain ⟨c, rest, _, _, rfl⟩ := List.forall₂_cons_left_iff.mp hshapes
      simp only [Option.map_some, Option.bind_some, Package.class?, hclasses]
      rfl

/-- Two features, though two more nodes of the tree bear the name. The reference to the segment goes
by its code and keeps its bounds, and the one to the composite field says what the field says. -/
theorem toPackage_features_shipment : ∃ p message c composite nad party,
    shipment.toPackage .reuseFirst = .ok p ∧
    p.class? ⟨0⟩ = some message ∧ message.features[0]? = some (.ref nad) ∧
    p.class? ⟨1⟩ = some c ∧ c.name = "Nad" ∧ c.features.length = 2 ∧
    c.features[0]? = some (.ref party) ∧
    p.class? ⟨2⟩ = some composite ∧ composite.name = "Party" ∧
    nad.name = "NAD" ∧ nad.target = ⟨1⟩ ∧ nad.containment ∧
    nad.lowerBound = 0 ∧ nad.upperBound = .bounded 5 ∧
    nad.annotations.mapping? Key.kind = some Kind.segment ∧
    nad.annotations.mapping? Key.segmentCode = some "NAD" ∧
    nad.annotations.mapping? Key.maxOccurs = some "5" ∧
    nad.annotations.binding? Binding.name = some "NAD" ∧
    party.name = "party" ∧ party.target = ⟨2⟩ ∧ party.containment ∧
    party.lowerBound = 1 ∧ party.upperBound = .bounded 1 ∧
    party.annotations.mapping? Key.kind = some Kind.field ∧
    party.annotations.mapping? Key.required = some "true" ∧
    party.annotations.binding? Binding.name = some "party" := by
  obtain ⟨p, hp⟩ := shipment_converts
  obtain ⟨hmirrored, _, _, _⟩ := toPackage_features hp
  obtain ⟨message, hmessage, _, hchildren, _⟩ := hmirrored 0 _ rfl
  obtain ⟨c, hc, hname, hfields, _⟩ := hmirrored 1 _ rfl
  obtain ⟨composite, hcomposite, hparty, _, _⟩ := hmirrored 2 _ rfl
  have hnad : c.name = "Nad" := hname.trans (by decide +kernel)
  obtain ⟨_, _, hfirst, _, hmessageFeatures⟩ := List.forall₂_cons_left_iff.mp (hchildren rfl)
  obtain ⟨_, _, hfield, _, hfeatures⟩ := List.forall₂_cons_left_iff.mp (hfields rfl)
  obtain ⟨id, hid, rfl⟩ := hfirst.eq_reference rfl
  obtain ⟨k, hk, rfl⟩ := hfield.eq_reference rfl
  -- a class that has the name of a node is the one that stands for it
  obtain rfl : (⟨1⟩ : ClassId) = id := (hid _).mp ⟨c, hc, hname⟩
  obtain rfl : (⟨2⟩ : ClassId) = k := (hk _).mp ⟨composite, hcomposite, hparty⟩
  refine ⟨p, message, c, composite, _, _, hp, hmessage, by rw [hmessageFeatures]; rfl, hc, hnad,
    (hfields rfl).length_eq.symm, by rw [hfeatures]; rfl, hcomposite,
    hparty.trans (by decide +kernel), ?_⟩
  decide +kernel

end Document

end EdiSchema
