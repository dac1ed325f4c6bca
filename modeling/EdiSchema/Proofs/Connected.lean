import EdiSchema.Package.Cursor
import EdiSchema.Proofs.Walks
import EdiSchema.Proofs.Policies

/-!
# Converted packages are closed and connected

The features of a class mirror the children of its node, so a reference of a converted package leads
to the class of a child, which exists. And every class is led to: a node that brings in a class is
the message itself, to which the document root refers, or the child of a node that brought in a
class before it (`Node.reachable_introduced`). A node that brings in nothing adds no class, so it
need not be followed.

`Document.toPackage_connected` says what follows for walks, which see the whole package, and for
cursors, which never come to a class that is not there.
-/

namespace EdiSchema

namespace Package

variable {p : Package}

/-- All references lead to classes. -/
def Closed (p : Package) : Prop :=
  ∀ c ∈ p.classes, ∀ ref ∈ c.references, (p.class? ref.target).isSome

/-- References that own lead from the document root to the class at `id`. -/
def Reachable (p : Package) (id : ClassId) : Prop := ∃ path, p.LeadsTo path id

/-- What a reachable class owns is reachable. -/
theorem Reachable.follow {id : ClassId} (h : p.Reachable id) {c : ClassDef}
    (hc : p.class? id = some c) {r : Reference} (hr : .ref r ∈ c.features) (hown : r.containment) :
    p.Reachable r.target := by
  obtain ⟨path, hpath⟩ := h
  exact ⟨path ++ [r.name], .follow hpath hc (ClassDef.mem_references.mpr hr) hown⟩

end Package

namespace Node

variable {p : Package}

/-- References to the classes of nodes own what they refer to. -/
theorem reference_containment (n : Node) (id : ClassId) : (n.reference id).containment := by
  cases n <;> rfl

/-- The children of a node whose class is reachable have reachable classes. -/
theorem reachable_children {n : Node} (hn : n.isStructural) (hshows : p.Shows n)
    (hreach : ∀ id, p.Stands n id → p.Reachable id) {child : Node} (hmem : child ∈ n.children)
    (hclass : child.hasClass) {id : ClassId} (hid : p.Stands child id) : p.Reachable id := by
  obtain ⟨k, c, hc, hk, hshape⟩ := hshows
  obtain ⟨f, hf, hmirrors⟩ := exists_left_of_mem (hshape.features hn).flip hmem
  obtain ⟨target, htarget, rfl⟩ := Mirrors.eq_reference hmirrors hclass
  obtain rfl := htarget.unique hid
  have := (hreach k hk).follow hc hf (child.reference_containment _)
  rwa [reference_target] at this

/-- Below a node whose class is reachable, all nodes that bring in classes have reachable ones. -/
theorem reachable_introduced :
    (∀ (n : Node) met, (∀ m ∈ n.introduced met, p.Shows m) →
      (n.hasClass → ∀ id, p.Stands n id → p.Reachable id) →
      ∀ m ∈ n.introduced met, ∀ id, p.Stands m id → p.Reachable id) ∧
    ∀ (ns : List Node) met, (∀ m ∈ introducedBy ns met, p.Shows m) →
      (∀ n ∈ ns, n.hasClass → ∀ id, p.Stands n id → p.Reachable id) →
      ∀ m ∈ introducedBy ns met, ∀ id, p.Stands m id → p.Reachable id := by
  refine forest_induction (fun n hn ih => ?_) (fun leaf => ?_) ?_ (fun n rest ihn ihrest => ?_)
  · intro met hshows hreach m hm
    rw [introduced_structural hn] at hshows hm
    split at hm
    · cases hm
    next hfree =>
    rw [if_neg hfree] at hshows
    obtain ⟨hshow, hbelow⟩ := List.forall_mem_cons.mp hshows
    have hhere := hreach (hasClass_of_isStructural hn)
    rcases List.mem_cons.mp hm with rfl | hm
    · exact hhere
    · exact ih _ hbelow
        (fun child hmem hclass _ hid => reachable_children hn hshow hhere hmem hclass hid) m hm
  · intro met _ hreach m hm
    rw [introduced] at hm
    split at hm
    · next hcomposite =>
      obtain rfl := List.mem_singleton.mp hm
      exact hreach (Bool.and_eq_true_iff.mp hcomposite).1
    · cases hm
  · intro met _ _ m hm
    rw [introducedBy] at hm
    cases hm
  · intro met hshows hreach m hm
    rw [introducedBy] at hshows hm
    obtain ⟨hhere, hrest⟩ := List.forall_mem_cons.mp hreach
    rcases List.mem_append.mp hm with hm | hm
    · exact ihn met (fun k hk => hshows k (List.mem_append_left _ hk)) hhere m hm
    · exact ihrest _ (fun k hk => hshows k (List.mem_append_right _ hk)) hrest m hm

end Node

/-! ## References of converted packages -/

/-- What a class of a node refers to is there, and is owned. -/
theorem Node.closed_of_shapes {p : Package} {n : Node} {c : ClassDef} (h : n.Shapes p.Stands c)
    {ref : Reference} (href : ref ∈ c.references) :
    ref.containment ∧ (p.class? ref.target).isSome := by
  cases h with
  | composite _ hc =>
    rw [Field.toClass_references hc] at href
    cases href
  | structural _ hfs =>
    rw [ClassDef.mem_references, ClassDef.withFeatures, bareClass_features] at href
    obtain ⟨child, _, hmirrors⟩ := exists_left_of_mem hfs href
    cases hmirrors with
    | @reference _ id _ hid =>
      obtain ⟨target, htarget, _⟩ := (hid id).mpr rfl
      rw [reference_target, htarget]
      exact ⟨reference_containment _ _, rfl⟩

namespace Document

variable {doc : Document} {policy : ConflictPolicy} {p : Package}

/-- In a converted document every reference owns a class that exists. -/
theorem toPackage_closed (h : doc.toPackage policy = .ok p) {c : ClassDef} (hc : c ∈ p.classes)
    {ref : Reference} (href : ref ∈ c.references) :
    ref.containment ∧ (p.class? ref.target).isSome := by
  rcases toPackage_class_cases h hc with ⟨n, hshape⟩ | rfl
  · exact Node.closed_of_shapes hshape href
  · rw [ClassDef.mem_references] at href
    obtain ⟨id, cls, _, hcls, href⟩ := Package.mem_features_documentRootClass.mp href
    cases href
    exact ⟨rfl, Option.isSome_iff_exists.mpr ⟨cls, hcls⟩⟩

/-- The class of the document root stands last and refers to the class of the message. -/
theorem toPackage_last (h : doc.toPackage policy = .ok p) :
    ∃ id last, p.documentRoot = some id ∧ p.class? id = some last ∧ last.name = documentRootName ∧
      p.classes.length = id.index + 1 ∧ doc.introduced.length = id.index ∧
      (doc.root.isSome → ∃ ref, .ref ref ∈ last.features ∧ ref.containment ∧ ref.target = ⟨0⟩) := by
  obtain ⟨hdoc, hlen, hlast⟩ := toPackage_documentRoot h
  refine ⟨_, _, hdoc, hlast, rfl, hlen, rfl, fun hsome => ?_⟩
  obtain ⟨g, hg⟩ := Option.isSome_iff_exists.mp hsome
  obtain ⟨c, hroot, hc, _⟩ := toPackage_message h hg
  refine ⟨c.messageReference ⟨0⟩, ?_, rfl, rfl⟩
  exact Package.mem_features_documentRootClass.mpr ⟨⟨0⟩, c, hroot, hc, rfl⟩

/-- Every class of a converted package is reachable. -/
theorem toPackage_reachable (h : doc.toPackage policy = .ok p) {id : ClassId}
    (hid : (p.class? id).isSome) : p.Reachable id := by
  obtain ⟨last, c, hdoc, hc, _, hlen, hintroduced, hmessage⟩ := toPackage_last h
  have hstart : p.Reachable last := ⟨[], .start hdoc⟩
  have hlt : id.index < last.index + 1 := by
    rw [← hlen]
    simpa [Package.class?] using hid
  rcases Nat.lt_or_eq_of_le (Nat.le_of_lt_succ hlt) with hi | heq
  · have hn : doc.introduced[id.index]? = some doc.introduced[id.index] :=
      List.getElem?_eq_getElem (hintroduced.symm ▸ hi)
    obtain ⟨_, _, hstands, _⟩ := toPackage_stands h hn
    cases hg : doc.root with
    | none => simp [introduced, hg] at hn
    | some g =>
      have hwalk : doc.introduced = (Node.ofGroup g).introduced [] := by rw [introduced, hg]
      obtain ⟨ref, href, hown, htarget⟩ := hmessage (by rw [hg]; rfl)
      have hzero : p.Reachable ⟨0⟩ := htarget ▸ hstart.follow hc href hown
      refine Node.reachable_introduced.1 (Node.ofGroup g) [] (fun m hm => ?_) (fun _ k hk => ?_) _
        (hwalk ▸ List.mem_of_getElem? hn) id hstands
      · exact toPackage_shows h (hwalk ▸ hm)
      · obtain ⟨_, _, _, hmessage, _⟩ := toPackage_message h hg
        exact (hmessage.unique hk) ▸ hzero
  · obtain ⟨i⟩ := id
    obtain rfl : i = last.index := heq
    exact hstart

end Document

/-! ## Cursors in closed packages -/

namespace Cursor

variable {p : Package}

/-- Where all references lead to classes, no step ends for want of one. -/
theorem child_ne_classNotFound (hp : p.Closed) (c : Cursor p)
    (name shown : String) : c.child name ≠ .error (.classNotFound shown) := by
  intro h
  rcases c.child_cases name with
    ⟨_, _, _, hok, _⟩ | ⟨ref, href, hnone, _⟩ | ⟨_, _, herr⟩ | ⟨_, herr⟩
  · rw [hok] at h
    cases h
  · have hmem : c.cls ∈ p.classes := List.mem_of_getElem? c.isClass
    have hsome := hp c.cls hmem ref (ClassDef.mem_references.mpr (List.mem_of_find?_eq_some href))
    rw [hnone] at hsome
    cases hsome
  · rw [herr] at h
    cases h
  · rw [herr] at h
    cases h

/-- Where every target exists no name leads to a class that is not found. -/
theorem follow_ne_classNotFound (hp : p.Closed) (c : Cursor p)
    (names : List String) (shown : String) : c.follow names ≠ .error (.classNotFound shown) := by
  intro h
  obtain ⟨_, name, _, b, _, _, hchild⟩ := follow_error h
  exact child_ne_classNotFound hp b name shown hchild

/-- Nor does a path text. -/
theorem navigate_ne_classNotFound (hp : p.Closed) (c : Cursor p)
    (text shown : String) : c.navigate text ≠ .error (.classNotFound shown) := by
  unfold navigate
  split
  · intro h
    cases h
  · exact follow_ne_classNotFound hp c _ shown

end Cursor

namespace Document

variable {doc : Document} {policy : ConflictPolicy} {p : Package}

/-- A converted package is closed and connected, whatever the document and the policy. All its
references own what they refer to, and that is a class of the package; a walk that nothing stops
begins with the document root and visits every class exactly once; and no move of a cursor, from
any class, ends for want of a class. -/
theorem toPackage_connected (h : doc.toPackage policy = .ok p) :
    (∀ c ∈ p.classes, ∀ ref ∈ c.references, ref.containment ∧ (p.class? ref.target).isSome) ∧
    ((visitsOf p.walkAll).map Visit.id).Perm ((List.range p.classes.length).map ClassId.mk) ∧
    (∃ id cls events, p.walkAll = .visit id cls [] :: events ∧ p.documentRoot = some id ∧
      cls.name = documentRootName) ∧
    ∀ (c : Cursor p) (shown : String), (∀ name, c.child name ≠ .error (.classNotFound shown)) ∧
      ∀ text, c.navigate text ≠ .error (.classNotFound shown) := by
  have hclosed : ∀ c ∈ p.classes, ∀ ref ∈ c.references,
      ref.containment ∧ (p.class? ref.target).isSome :=
    fun _ hc _ href => toPackage_closed h hc href
  have hsome : p.Closed := fun c hc ref href => (hclosed c hc ref href).2
  refine ⟨hclosed, ?_, ?_, fun c shown =>
    ⟨fun name => c.child_ne_classNotFound hsome name shown,
      fun text => c.navigate_ne_classNotFound hsome text shown⟩⟩
  · refine (List.perm_ext_iff_of_nodup p.walkAll_nodup ?_).mpr fun id => ?_
    · exact (List.nodup_map_iff fun _ _ h => ClassId.mk.inj h).mpr List.nodup_range
    calc id ∈ (visitsOf p.walkAll).map Visit.id
        ↔ ∃ path, ⟨id, path⟩ ∈ visitsOf p.walkAll := by
          rw [List.mem_map]
          exact ⟨fun ⟨v, hv, hid⟩ => ⟨v.path, hid ▸ hv⟩, fun ⟨path, hv⟩ => ⟨_, hv, rfl⟩⟩
      _ ↔ (p.class? id).isSome ∧ p.Reachable id := p.visited_iff id
      _ ↔ (p.class? id).isSome := and_iff_left_of_imp (toPackage_reachable h)
      _ ↔ id ∈ (List.range p.classes.length).map ClassId.mk := by
          obtain ⟨i⟩ := id
          simp [Package.class?]
  · obtain ⟨id, last, hdoc, hc, hname, _⟩ := toPackage_last h
    obtain ⟨events, hwalk⟩ := Package.walkAll_eq_cons hdoc hc
    exact ⟨id, last, events, hwalk, hdoc, hname⟩

/-- Four classes, though eight nodes of the tree have one. -/
theorem toPackage_connected_shipment : ∃ p, shipment.toPackage .reuseFirst = .ok p ∧
    ((visitsOf p.walkAll).map Visit.id).Perm [⟨0⟩, ⟨1⟩, ⟨2⟩, ⟨3⟩] := by
  obtain ⟨p, hp⟩ := shipment_converts
  obtain ⟨_, hvisits, _⟩ := toPackage_connected hp
  have hlen : p.classes.length = 4 := by
    obtain ⟨_, _, _, _, _, hlen, hintroduced, _⟩ := toPackage_last hp
    rw [hlen, ← hintroduced]
    decide +kernel
  rw [hlen] at hvisits
  exact ⟨p, hp, hvisits⟩

end Document

end EdiSchema
