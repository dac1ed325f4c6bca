import EdiSchema.Proofs.Faults
import EdiSchema.Proofs.Histories

/-!
# Converting a node again

A node that has been converted finds its class when it is converted again, and then its children are
checked only. Two things have to hold for that to end well. What has been built passes the check,
although building and checking are two recursions: `Node.passes_and_passesAll`, under either
policy. And the class may still be used for the node, whatever has happened since: the name leads
where it led, a class keeps its kind, and a registry its policy (`Registry.Uses.afterAll`).

So the second conversion gives what the first gave and leaves the registry as it is
(`Registry.conversions_repeat`).
-/

namespace EdiSchema

/-! ## What is built passes the check -/

/-- The components of a field that converts pass the check, whether or not its class was made from
them. -/
theorem Registry.passes_of_addField {r : Registry} {leaf : Field} {ref : Reference}
    (h : (r.addField leaf).1 = .ok ref) : checkComponents leaf.components = .ok () := by
  have hres : ∀ e, r.resolve leaf.className Kind.field ≠ .error e := by
    intro e he
    rw [addField_of_refused he] at h
    cases h
  rw [← addField_check hres, h]
  rfl

namespace Node

/-- When the node converts, it passes its check. -/
def Passes (n : Node) : Prop :=
  ∀ (r : Registry) (f : Feature), (n.toFeature r).1 = .ok f → n.check = .ok ()

/-- When children convert, they pass their checks. -/
def PassesAll (ns : List Node) : Prop :=
  ∀ (r : Registry) (id : ClassId), (addChildren ns id r).1 = .ok () → checkNodes ns = .ok ()

/-- So do those below a group or segment that converts. -/
theorem passes_of_addClass {n : Node} (ih : PassesAll n.children) {r : Registry} {id : ClassId}
    (h : (n.addClass r).1 = .ok id) : checkNodes n.children = .ok () := by
  rcases r.resolve_cases n.className n.kind with
    ⟨_, hres⟩ | ⟨k, _, _, hres⟩ | ⟨k, _, _, _, hres⟩
  · rw [addClass_of_free hres] at h
    obtain ⟨_, hfilled, _⟩ := map_eq_ok.mp h
    exact ih _ _ hfilled
  · rw [addClass_of_found hres] at h
    obtain ⟨_, hcheck, _⟩ := map_eq_ok.mp h
    exact hcheck
  · rw [addClass_of_refused hres] at h
    cases h

theorem passes_field (leaf : Field) : (field leaf).Passes := by
  intro r f h
  cases hl : leaf.isComposite with
  | true =>
    rw [toFeature_composite hl] at h
    obtain ⟨ref, href, _⟩ := map_eq_ok.mp h
    rw [check]
    exact Registry.passes_of_addField href
  | false => exact check_simple hl

/-- Children that convert pass the check one by one. -/
theorem passesAll_cons {n : Node} {rest : List Node} (hn : n.Passes) (hrest : PassesAll rest) :
    PassesAll (n :: rest) := by
  intro r id h
  rcases hstep : n.toFeature r with ⟨e | f, r₁⟩
  · rw [addChildren_of_error hstep] at h
    cases h
  · rw [addChildren_of_ok hstep] at h
    rw [checkNodes, hn r f (congrArg Prod.fst hstep)]
    exact hrest _ _ h

/-- What converts under either policy, over whatever classes, passes the check. -/
theorem passes_and_passesAll : (∀ n : Node, n.Passes) ∧ ∀ ns, PassesAll ns := by
  refine forest_induction (fun n hn ih r f h => ?_) passes_field (fun _ _ _ => rfl)
    (fun _ _ hn hrest => passesAll_cons hn hrest)
  rw [toFeature_structural hn] at h
  obtain ⟨id, hid, _⟩ := map_eq_ok.mp h
  rw [check_structural hn]
  exact passes_of_addClass ih hid

end Node

/-! ## What may be used stays of use -/

namespace Registry

variable {r : Registry} {n : Node} {id : ClassId}

/-- A class that may be used for a node may be used for it after any history. -/
theorem Uses.afterAll (hu : r.Uses n id) (calls : List Call) : (r.afterAll calls).Uses n id :=
  afterAll_induction (P := fun s => s.Uses n id) hu (fun _ _ _ hs h => hs.adds h)
    (fun _ k f hs => hs.addFeature k f) calls

/-- A look-up for the node finds the class that may be used for it. -/
theorem Uses.resolve (hu : r.Uses n id) : r.resolve n.className n.kind = .ok (some id) := by
  obtain ⟨hid, c, hc, huse⟩ := hu
  rcases r.resolve_cases n.className n.kind with
    ⟨hfree, _⟩ | ⟨k, hk, _, hres⟩ | ⟨k, hk, hkind, hpolicy, _⟩
  · rw [hid] at hfree
    cases hfree
  · obtain rfl := Option.some.inj (hid.symm.trans hk)
    exact hres
  · obtain rfl := Option.some.inj (hid.symm.trans hk)
    rcases huse with huse | hlenient
    · exact absurd ((kindOf_eq hc).trans huse) hkind
    · rw [hpolicy] at hlenient
      cases hlenient

/-- A node that passes its check, and for which a class may be used, is converted to that class and
nothing happens. -/
theorem Uses.addClass (hu : r.Uses n id) (hcheck : checkNodes n.children = .ok ()) :
    n.addClass r = (.ok id, r) := by
  rw [Node.addClass_of_found hu.resolve, hcheck]
  rfl

/-- A field whose class may be used, and whose components pass, uses it and changes nothing. -/
theorem Uses.addField {leaf : Field} (hu : r.Uses (.field leaf) id)
    (hcheck : checkComponents leaf.components = .ok ()) :
    r.addField leaf = (.ok (leaf.referenceTo id), r) := by
  have hres : r.resolve leaf.className Kind.field = .ok (some id) := hu.resolve
  rw [addField_of_found hres, hcheck]
  rfl

/-- The reference that a field is converted to leads to a class that may be used for the field. -/
theorem uses_of_addField (hr : r.Sound) {leaf : Field} {ref : Reference}
    (h : (r.addField leaf).1 = .ok ref) :
    ∃ id, ref = leaf.referenceTo id ∧ (r.addField leaf).2.Uses (.field leaf) id := by
  rcases r.addField_cases leaf with ⟨e, hstep⟩ | ⟨id, hid, huse, hstep⟩ | ⟨c, hfree, hc, hstep⟩
  · rw [hstep] at h
    cases h
  · rw [hstep] at h ⊢
    cases h
    exact ⟨id, rfl, hr.uses (n := .field leaf) hid huse⟩
  · have hkind : c.kind = (Node.field leaf).kind := by
      rw [Field.toClass_bare hc]
      exact (Node.field leaf).bareClass_kind
    rw [hstep] at h ⊢
    cases h
    exact ⟨_, rfl, uses_register (n := .field leaf) (Field.toClass_name hc) hkind hfree⟩

/-- A group or segment that has been converted is converted again to the same class. -/
theorem addClass_afterAll (hr : r.Sound) (hn : n.isStructural) {r₁ : Registry}
    (h : n.addClass r = (.ok id, r₁)) (calls : List Call) :
    n.addClass (r₁.afterAll calls) = (.ok id, r₁.afterAll calls) := by
  obtain ⟨_, _, hok⟩ := Node.addClass_mirrors hn (Node.addChildren_mirrors _) hr
  rw [h] at hok
  apply Uses.addClass
  · exact (hok id rfl).1.afterAll calls
  · exact Node.passes_of_addClass (Node.passes_and_passesAll.2 _) (congrArg Prod.fst h)

/-- A field that converted once gives the same reference after any calls, and changes nothing. -/
theorem addField_afterAll (hr : r.Sound) {leaf : Field} {ref : Reference} {r₁ : Registry}
    (h : r.addField leaf = (.ok ref, r₁)) (calls : List Call) :
    (r₁.afterAll calls).addField leaf = (.ok ref, r₁.afterAll calls) := by
  have hok : (r.addField leaf).1 = .ok ref := congrArg Prod.fst h
  obtain ⟨id, rfl, huses⟩ := uses_of_addField hr hok
  rw [h] at huses
  exact (huses.afterAll calls).addField (passes_of_addField hok)

/-- Converting a node again. At whatever point of a history a node is converted with success, and
whatever calls come then, successful or not: converted once more, the node gives the same class, or
for a field the same reference, and the registry stays as it is. -/
theorem conversions_repeat (p : Package) (policy : ConflictPolicy) (before calls : List Call) :
    (∀ g id r, (ofHistory p policy before).addGroup g = (.ok id, r) →
      (r.afterAll calls).addGroup g = (.ok id, r.afterAll calls)) ∧
    (∀ s id r, (ofHistory p policy before).addSegment s = (.ok id, r) →
      (r.afterAll calls).addSegment s = (.ok id, r.afterAll calls)) ∧
    ∀ leaf ref r, (ofHistory p policy before).addField leaf = (.ok ref, r) →
      (r.afterAll calls).addField leaf = (.ok ref, r.afterAll calls) := by
  have hsound := ofHistory_sound p policy before
  refine ⟨fun g id r h => ?_, fun s id r h => ?_, fun leaf ref r h => ?_⟩
  · exact addClass_afterAll (n := Node.ofGroup g) hsound rfl h calls
  · exact addClass_afterAll (n := Node.ofSegment s) hsound rfl h calls
  · exact addField_afterAll hsound h calls

/-- Calls of other origin: a segment that fails below its first child, a feature for the class that
came first, and a class of another name. -/
def meddling : List Call := [
  .addSegment ⟨{ tag := "DTM" }, ⟨"DTM", ⟨"^DTM"⟩, false, false, none⟩, [
    .field {
      tag := "period"
      components := [{ tag := "date", value := { typeClass := some "date" } }] }]⟩,
  .addFeature ⟨0⟩ (.attr { name := "weight", dataType := .decimal }),
  .register { name := "Weight" }]

/-- By then the class of the message has been given a feature, and two classes have come in. -/
theorem conversions_repeat_shipment : ∃ g r, Document.shipment.root = some g ∧
    (ofHistory (.named "shipment") .reuseFirst []).addGroup g = (.ok ⟨0⟩, r) ∧
    (r.afterAll meddling).addGroup g = (.ok ⟨0⟩, r.afterAll meddling) ∧
    (r.afterAll meddling).package.classes.map (fun c => (c.name, c.features.length)) =
      [("Shipment", 5), ("Nad", 2), ("Party", 1), ("Dtm", 0), ("Weight", 0)] := by
  let g := Document.shipment.root.get rfl
  let done := (ofHistory (.named "shipment") .reuseFirst []).addGroup g
  have hok : done.1 = .ok ⟨0⟩ := by decide +kernel
  have hfirst : done = (.ok ⟨0⟩, done.2) := by
    rw [← hok]
  have hagain := (conversions_repeat _ _ [] meddling).1 g _ _ hfirst
  exact ⟨g, done.2, rfl, hfirst, hagain, by decide +kernel⟩

end Registry

end EdiSchema
