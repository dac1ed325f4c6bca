import EdiSchema.Proofs.Reading
import EdiSchema.Proofs.Classes

/-!
# The grammar is in the package

A package tells the tree that it was made of. The features of a class are read off one after the
other; each one says which kind of node it stands for, and a reference leads to the class of the
node, where the rest is written and the next features are. All that is lost on the way is what
`Node.kept` leaves out, and of the root node whatever stands on a reference, since none is made to
it: its tag, of which the class name is left, and its bounds.

That holds of *legible* trees, where every node with a class has a class of its own, every component
an attribute of its own, and no text is blank. `Document.toPackage_recovers` states it for two
documents whose packages have the same classes; the policies do not matter.
-/

namespace EdiSchema

open List (Forall₂)

/-- A tree in which nothing hides anything else. -/
structure Group.Legible (g : Group) : Prop where
  names : (((Node.ofGroup g).nodes.filter Node.hasClass).map Node.className).Nodup
  nodes : ∀ n ∈ (Node.ofGroup g).nodes, n.Legible

instance (g : Group) : Decidable g.Legible :=
  decidable_of_iff ((((Node.ofGroup g).nodes.filter Node.hasClass).map Node.className).Nodup ∧
      ∀ n ∈ (Node.ofGroup g).nodes, n.Legible)
    ⟨fun h => ⟨h.1, h.2⟩, fun h => ⟨h.names, h.nodes⟩⟩

/-! ## Classes of one package -/

namespace Package

variable {p q : Package}

theorem class?_congr (h : p.classes = q.classes) : p.class? = q.class? := by
  funext id
  rw [class?, class?, h]

/-- What stands for a node is decided by the classes. -/
theorem stands_congr (h : p.classes = q.classes) : p.Stands = q.Stands := by
  funext n id
  rw [Stands, Stands, Bears, Bears, class?_congr h]

theorem Shows.congr (h : p.classes = q.classes) {n : Node} (hn : p.Shows n) : q.Shows n := by
  obtain ⟨id, c, hc, hstands, hshape⟩ := hn
  rw [class?_congr h] at hc
  rw [stands_congr h] at hstands hshape
  exact ⟨id, c, hc, hstands, hshape⟩

/-- The class that stands for a node is the one that the node brought in. -/
theorem Shows.shapes {n : Node} (hn : p.Shows n) {id : ClassId} (hid : p.Stands n id) :
    ∃ c, p.class? id = some c ∧ n.Shapes p.Stands c := by
  obtain ⟨k, c, hc, hk, hshape⟩ := hn
  rw [hid.unique hk] at hc
  exact ⟨c, hc, hshape⟩

/-- The package tells all that is said of the nodes. -/
def Tells (p : Package) (ns : List Node) : Prop :=
  ∀ n ∈ ns, n.Legible ∧ (n.hasClass → p.Shows n)

theorem tells_append {ns ms : List Node} : p.Tells (ns ++ ms) ↔ p.Tells ns ∧ p.Tells ms :=
  List.forall_mem_append

end Package

/-! ## Trees -/

namespace Node

variable {p : Package}

theorem mem_nodes (n : Node) : n ∈ n.nodes := by
  cases n <;> exact List.mem_cons_self

/-- The kind of a node tells groups and segments from fields. -/
theorem isStructural_iff (n : Node) : n.isStructural ↔ n.kind ≠ Kind.field := by
  have hgroup : Kind.segmentGroup ≠ Kind.field := by decide
  have hsegment : Kind.segment ≠ Kind.field := by decide
  cases n with
  | group => exact iff_of_true rfl hgroup
  | segment => exact iff_of_true rfl hsegment
  | field => exact iff_of_false Bool.false_ne_true fun h => h rfl

/-- Nodes with the same reference have the same class. -/
theorem shapes_of_same_reference {n m : Node} {ref : Reference}
    (hn : n.Mirrors p.Stands (.ref ref)) (hm : m.Mirrors p.Stands (.ref ref))
    (hnt : p.Tells n.nodes) (hmt : p.Tells m.nodes) :
    ∃ id c, n.reference id = m.reference id ∧ n.Shapes p.Stands c ∧ m.Shapes p.Stands c := by
  obtain ⟨hnclass, id, hid, rfl⟩ := hn.of_ref
  obtain ⟨hmclass, k, hk, href⟩ := hm.of_ref
  obtain rfl : id = k := by simpa using congrArg Reference.target href
  obtain ⟨c, hc, hnc⟩ := ((hnt n n.mem_nodes).2 hnclass).shapes hid
  obtain ⟨d, hd, hmd⟩ := ((hmt m m.mem_nodes).2 hmclass).shapes hk
  obtain rfl : c = d := Option.some.inj (hc.symm.trans hd)
  exact ⟨id, c, href, hnc, hmd⟩

/-- Any node that the package tells of, and that has the same feature, is kept the same. -/
def Recovered (p : Package) (n : Node) : Prop :=
  ∀ (m : Node) f, n.Mirrors p.Stands f → m.Mirrors p.Stands f → p.Tells n.nodes →
    p.Tells m.nodes → n.kept = m.kept

def RecoveredAll (p : Package) (ns : List Node) : Prop :=
  ∀ ms fs, Forall₂ (Mirrors p.Stands) ns fs → Forall₂ (Mirrors p.Stands) ms fs →
    p.Tells (nodesOf ns) → p.Tells (nodesOf ms) → keptAll ns = keptAll ms

/-- Groups and segments that brought in the same class have the same children. -/
theorem RecoveredAll.children {n m : Node} (ih : RecoveredAll p n.children)
    (hn : n.isStructural) (hm : m.isStructural) {c : ClassDef} (hnc : n.Shapes p.Stands c)
    (hmc : m.Shapes p.Stands c) (hnt : p.Tells n.nodes) (hmt : p.Tells m.nodes) :
    keptAll n.children = keptAll m.children := by
  rw [nodes_structural hn] at hnt
  rw [nodes_structural hm] at hmt
  exact ih _ _ (hnc.features hn) (hmc.features hm) (List.forall_mem_cons.mp hnt).2
    (List.forall_mem_cons.mp hmt).2

/-- A group or segment is recovered from its reference, its class, and the features of that class,
which recover its children. -/
theorem recovered_structural {n : Node} (hn : n.isStructural) (ih : RecoveredAll p n.children) :
    n.Recovered p := by
  intro m f hnf hmf hnt hmt
  obtain ⟨_, _, rfl⟩ := hnf.eq_reference (hasClass_of_isStructural hn)
  obtain ⟨id, c, href, hnc, hmc⟩ := shapes_of_same_reference hnf hmf hnt hmt
  have hm : m.isStructural := by
    rw [isStructural_iff, ← kind_eq_of_reference href, ← isStructural_iff]
    exact hn
  exact kept_eq hn hm (hnt n n.mem_nodes).1 (hmt m m.mem_nodes).1 href
    (hnc.bare_eq.symm.trans hmc.bare_eq) (ih.children hn hm hnc hmc hnt hmt)

/-- A simple field is recovered from its attribute, and a composite one from its reference and its
class. -/
theorem recovered_field (leaf : Field) : (field leaf).Recovered p := by
  intro m f hnf hmf hnt hmt
  have hleaf : leaf.Legible := (hnt _ (mem_nodes _)).1
  cases f with
  | attr a =>
    obtain ⟨other, rfl, hother⟩ := hmf.of_attr
    have hothers : other.Legible := (hmt _ (mem_nodes _)).1
    obtain ⟨_, h, hattr⟩ := hnf.of_attr
    cases h
    obtain ⟨hl, ha⟩ := Field.toAttribute_ok hattr
    obtain ⟨ho, hb⟩ := Field.toAttribute_ok hother
    rw [Node.kept, Node.kept, Field.kept_eq_of_textAttribute hl ho hleaf.value hothers.value
      (ha.trans hb.symm)]
  | ref ref =>
    obtain ⟨id, c, href, hnc, hmc⟩ := shapes_of_same_reference hnf hmf hnt hmt
    have hm : ¬ m.isStructural := by
      rw [isStructural_iff, ← kind_eq_of_reference href]
      exact fun h => h rfl
    cases m with
    | field other =>
      have hothers : other.Legible := (hmt _ (mem_nodes _)).1
      rw [Node.kept, Node.kept, Field.kept_eq_of_class hnf.of_ref.1 hmf.of_ref.1 hleaf hothers href
        hnc.toClass hmc.toClass]
    | group => exact absurd rfl hm
    | segment => exact absurd rfl hm

theorem recoveredAll_nil : RecoveredAll p [] := by
  intro ms fs hns hms _ _
  cases hns
  cases hms
  rfl

/-- Children are recovered one by one, since each has a feature of its own. -/
theorem recoveredAll_cons {n : Node} {rest : List Node} (hn : n.Recovered p)
    (hrest : RecoveredAll p rest) : RecoveredAll p (n :: rest) := by
  intro ms fs hns hms hnt hmt
  cases hns with
  | cons hnf hrestf =>
    cases hms with
    | cons hmf hmsf =>
      obtain ⟨hnt₁, hnt₂⟩ := Package.tells_append.mp hnt
      obtain ⟨hmt₁, hmt₂⟩ := Package.tells_append.mp hmt
      rw [keptAll, keptAll, hn _ _ hnf hmf hnt₁ hmt₁, hrest _ _ hrestf hmsf hnt₂ hmt₂]

theorem recoveredAll (p : Package) (ns : List Node) : RecoveredAll p ns :=
  (forest_induction (fun _ hn ih => recovered_structural hn ih) recovered_field recoveredAll_nil
    fun _ _ hn hrest => recoveredAll_cons hn hrest).2 ns

end Node

/-! ## Documents -/

namespace Document

variable {doc doc' : Document} {policy policy' : ConflictPolicy} {p p' : Package} {g g' : Group}

/-- The package of a legible tree tells of all its nodes, the first class of the root. -/
theorem toPackage_tells (h : doc.toPackage policy = .ok p) (hroot : doc.root = some g)
    (hg : g.Legible) :
    p.Tells (Node.ofGroup g).nodes ∧
      ∃ c, p.class? ⟨0⟩ = some c ∧ (Node.ofGroup g).Shapes p.Stands c := by
  refine ⟨fun n hn => ⟨hg.nodes n hn, fun hclass => toPackage_shows h ?_⟩, ?_⟩
  · have hnames : ([] ++ (((Node.ofGroup g).nodes.filter Node.hasClass).map
        Node.className)).Nodup := hg.names
    rw [introduced, hroot]
    show n ∈ (Node.ofGroup g).introduced []
    rw [Node.introduced_of_nodup.1 _ _ hnames]
    exact List.mem_filter.mpr ⟨hn, hclass⟩
  · obtain ⟨c, _, hc, _, hshape⟩ := toPackage_message h hroot
    exact ⟨c, hc, hshape⟩

/-- Two legible documents whose packages have the same classes have the same trees, as far as a
conversion keeps them; of the root the tag is left as a class name, and the bounds are lost. -/
theorem toPackage_recovers (h : doc.toPackage policy = .ok p) (h' : doc'.toPackage policy' = .ok p')
    (hroot : doc.root = some g) (hroot' : doc'.root = some g') (hg : g.Legible) (hg' : g'.Legible)
    (hclasses : p.classes = p'.classes) :
    className g.header.tag = className g'.header.tag ∧
      g.header.documentation = g'.header.documentation ∧
      keptAll g.children = keptAll g'.children := by
  obtain ⟨htells, c, hc, hshape⟩ := toPackage_tells h hroot hg
  obtain ⟨htells', d, hd, hshape'⟩ := toPackage_tells h' hroot' hg'
  -- one package may stand for both, since only its classes matter
  rw [Package.class?_congr hclasses, hd] at hc
  rw [Package.stands_congr hclasses] at hshape
  have htells : p'.Tells (Node.ofGroup g).nodes :=
    fun n hn => ⟨(htells n hn).1, fun hclass => ((htells n hn).2 hclass).congr hclasses⟩
  obtain rfl : d = c := Option.some.inj hc
  have hbare : g.header.bareClass = g'.header.bareClass :=
    hshape.bare_eq.symm.trans hshape'.bare_eq
  refine ⟨congrArg ClassDef.name hbare, Header.documentation_eq ?_ ?_ hbare, ?_⟩
  · exact hg.nodes _ (Node.mem_nodes _)
  · exact hg'.nodes _ (Node.mem_nodes _)
  · exact (Node.recoveredAll p' _).children (n := .ofGroup g) (m := .ofGroup g') rfl rfl hshape
      hshape' htells htells'

/-- An order of a few nodes of every kind. -/
def order : Document where
  description := { name := "ORDERS", version := "1" }
  root := some {
    header := { tag := "ORDERS", documentation := some "An order.", maxOccurs := .unbounded }
    children := [
      .segment { tag := "BGM" } ⟨"BGM", ⟨"^BGM"⟩, true, false, some "Beginning of message"⟩ [
        .field { tag := "C002", required := true, typeRef := some "name", components := [
          { tag := "code", value := { typeClass := some "string", maxLength := some 3 } },
          { tag := "count", value := { typeClass := some "integer" } }] },
        .field { tag := "number", value := { dataType := some "an..35" } }],
      .group { tag := "lines", minOccurs := 0, maxOccurs := .bounded 200000 } [
        .segment { tag := "LIN" } ⟨"LIN", ⟨"^LIN"⟩, false, true, none⟩ []]] }

/-- The same order in other words, of which nothing is kept. -/
def orderReworded : Document where
  description := { name := "ORDER", version := "2" }
  root := some {
    header := { tag := "orders", documentation := some "An order.", minOccurs := 5 }
    children := [
      .segment { tag := "BGM" } ⟨"BGM", ⟨"^BGM"⟩, true, false, some "Beginning of message"⟩ [
        .field { tag := "C002", required := true, typeRef := some "name", components := [
          { tag := "code", value := { maxLength := some 3 } },
          { tag := "count", value := { typeClass := some "integer" } }] },
        .field {
          tag := "number"
          typeRef := some "text"
          value := {
            dataType := some "an..35"
            typeClass := some "decimal"
            documentation := some "As given by the buyer." } }],
      .group { tag := "lines", minOccurs := 0, maxOccurs := .bounded 200000 } [
        .segment { tag := "LIN" } ⟨"LIN", ⟨"^LIN"⟩, false, true, none⟩ []]] }

theorem order_converts : ∃ p p', order.toPackage .fail = .ok p ∧
    orderReworded.toPackage .reuseFirst = .ok p' ∧ p.classes = p'.classes := by
  have hsame : (order.toPackage .fail).toOption.map Package.classes =
      (orderReworded.toPackage .reuseFirst).toOption.map Package.classes := by decide +kernel
  obtain ⟨p, hp⟩ : ∃ p, order.toPackage .fail = .ok p := exists_of_isOk (by decide +kernel)
  obtain ⟨p', hp'⟩ : ∃ p', orderReworded.toPackage .reuseFirst = .ok p' :=
    exists_of_isOk (by decide +kernel)
  rw [hp, hp'] at hsame
  exact ⟨p, p', hp, hp', Option.some.inj hsame⟩

/-- The words that differ are the words that a conversion drops. -/
theorem toPackage_recovers_order : ∃ g g', order.root = some g ∧ orderReworded.root = some g' ∧
    g.header.tag ≠ g'.header.tag ∧ g.header.minOccurs ≠ g'.header.minOccurs ∧
    className g.header.tag = className g'.header.tag ∧
    keptAll g.children = keptAll g'.children := by
  obtain ⟨p, p', hp, hp', hclasses⟩ := order_converts
  obtain ⟨htag, _, hchildren⟩ := toPackage_recovers hp hp' rfl rfl (by decide +kernel)
    (by decide +kernel) hclasses
  exact ⟨_, _, rfl, rfl, by decide, by decide, htag, hchildren⟩

end Document

end EdiSchema
