import EdiSchema.Proofs.Policies

/-!
# Which documents do not convert

A component is at fault when it has components of its own, or names a value type that is not known.
Under the lenient policy nothing else in a tree can go wrong, and nothing at fault is passed over:
the nodes whose classes are shared are checked, the others are built, and both ways the same
components are looked at in the same order. So the outcome is that of one walk over all components
(`check_report`, `Node.builds_and_fills_as_checked`), whatever is registered already.

What is left is the name of the document root, which a class of the message may have taken.
`Document.toPackage_error` puts the two together, and says what the strict policy adds.
-/

namespace EdiSchema

open List (Forall₂)

/-! ## Faults of components -/

/-- The value types that a component may name. -/
def knownTypes : List String := ["string", "integer", "decimal", "float"]

/-- What is wrong with a component, if anything is. -/
def Component.fault? (c : Component) : Option ConversionError :=
  if c.subComponents.isEmpty then
    match c.value.typeClass with
    | none => none
    | some requested =>
      if requested ∈ knownTypes then none else some (.unsupportedType requested)
  else some (.unsupportedStructure c.tag)

mutual

/-- A component and the components below it, in source order. -/
def Component.withParts : Component → List Component
  | ⟨tag, required, truncatable, value, parts⟩ =>
    ⟨tag, required, truncatable, value, parts⟩ :: partsOf parts

def partsOf : List Component → List Component
  | [] => []
  | c :: rest => c.withParts ++ partsOf rest

end

mutual

/-- All components at or below a node, in source order. -/
def Node.components : Node → List Component
  | .group _ children => componentsOf children
  | .segment _ _ children => componentsOf children
  | .field leaf => partsOf leaf.components

def componentsOf : List Node → List Component
  | [] => []
  | node :: rest => node.components ++ componentsOf rest

end

/-- All components of a document, in source order. -/
def Document.components (doc : Document) : List Component :=
  match doc.root with
  | none => []
  | some group => componentsOf group.children

/-- The first fault of some components. -/
def firstFault (cs : List Component) : Option ConversionError := cs.findSome? Component.fault?

/-- The outcome that reports a fault. -/
def report : Option ConversionError → Except ConversionError Unit
  | none => .ok ()
  | some e => .error e

/-- The first fault of two parts is that of the first part, if it has one. -/
theorem firstFault_append (cs ds : List Component) :
    firstFault (cs ++ ds) = (firstFault cs).or (firstFault ds) := List.findSome?_append

/-- A component without fault has nothing below it, so the first fault stands at the top. -/
theorem firstFault_partsOf (cs : List Component) : firstFault (partsOf cs) = firstFault cs := by
  induction cs with
  | nil => rw [partsOf]
  | cons c rest ih =>
    obtain ⟨tag, required, truncatable, value, parts⟩ := c
    rw [partsOf, Component.withParts, firstFault_append, ih]
    cases parts with
    | nil =>
      rw [partsOf]
      show (firstFault [_]).or (firstFault rest) = firstFault ([_] ++ rest)
      rw [firstFault_append]
    | cons part parts => rfl

/-! ## Checking -/

/-- The known types are those that have a primitive type. -/
theorem find?_valueTypes (requested : String) :
    (valueTypes.find? fun e => e.1 = requested).isSome ↔ requested ∈ knownTypes := by
  rw [List.find?_isSome]
  constructor
  · rintro ⟨e, he, heq⟩
    exact of_decide_eq_true heq ▸ List.mem_map_of_mem he
  · intro h
    obtain ⟨e, he, heq⟩ := List.mem_map.mp (show requested ∈ valueTypes.map Prod.fst from h)
    exact ⟨e, he, decide_eq_true heq⟩

/-- A component becomes an attribute unless it is at fault, and fails with its fault. -/
theorem Component.toAttribute_report (c : Component) :
    c.toAttribute.map (fun _ => ()) = report c.fault? := by
  unfold toAttribute fault?
  cases c.subComponents.isEmpty with
  | false => rfl
  | true =>
    cases htype : c.value.typeClass with
    | none => rfl
    | some requested =>
      have hfind := find?_valueTypes requested
      simp only [if_true, primitiveType, Option.getD_some]
      cases hf : valueTypes.find? fun e => e.1 = requested with
      | some e =>
        rw [if_pos (hfind.mp (by rw [hf]; rfl))]
        rfl
      | none =>
        rw [if_neg (fun h => by rw [hf] at hfind; exact absurd (hfind.mpr h) Bool.false_ne_true)]
        rfl

theorem toAttribute_eq_error {c : Component} {e : ConversionError} (h : c.fault? = some e) :
    c.toAttribute = .error e := by
  have := c.toAttribute_report
  rw [h] at this
  exact map_eq_error.mp this

/-- A component without fault becomes an attribute. -/
theorem toAttribute_eq_ok {c : Component} (h : c.fault? = none) : ∃ a, c.toAttribute = .ok a := by
  have := c.toAttribute_report
  rw [h] at this
  obtain ⟨a, ha, _⟩ := map_eq_ok.mp this
  exact ⟨a, ha⟩

/-- To check components is to report their first fault. -/
theorem checkComponents_report (cs : List Component) :
    checkComponents cs = report (firstFault cs) := by
  induction cs with
  | nil => rfl
  | cons c rest ih =>
    rw [checkComponents, firstFault, List.findSome?_cons]
    cases hc : c.fault? with
    | some e => rw [toAttribute_eq_error hc]; rfl
    | none =>
      obtain ⟨a, ha⟩ := toAttribute_eq_ok hc
      rw [ha]
      exact ih

/-- Two reports in a row are the report of the first fault. -/
theorem report_cons {first rest : Option ConversionError} :
    (match report first with
      | .error e => .error e
      | .ok _ => report rest) = report (first.or rest) := by
  cases first <;> rfl

/-- Checking looks at all components in source order. -/
theorem check_report :
    (∀ n : Node, n.check = report (firstFault n.components)) ∧
    ∀ ns, checkNodes ns = report (firstFault (componentsOf ns)) := by
  refine Node.forest_induction (fun n hn ih => ?_) (fun leaf => ?_) ?_ (fun n rest hn hrest => ?_)
  · rw [Node.check_structural hn, ih]
    cases n with
    | group => rw [Node.components]; rfl
    | segment => rw [Node.components]; rfl
    | field => cases hn
  · rw [Node.check, Node.components, firstFault_partsOf]
    exact checkComponents_report leaf.components
  · rw [checkNodes, componentsOf]
    rfl
  · rw [checkNodes, componentsOf, firstFault_append, hn, hrest]
    exact report_cons

/-! ## Converting -/

/-- Unless its name is refused, a field converts exactly when its components pass the check, and
fails as they do. It makes no difference whether a class is made or one is shared. -/
theorem Registry.addField_check {r : Registry} {leaf : Field}
    (h : ∀ e, r.resolve leaf.className Kind.field ≠ .error e) :
    (r.addField leaf).1.map (fun _ => ()) = checkComponents leaf.components := by
  rcases r.resolve_cases leaf.className Kind.field with
    ⟨_, hres⟩ | ⟨id, _, _, hres⟩ | ⟨id, _, _, _, hres⟩
  · rw [← leaf.toClass_check]
    cases hc : leaf.toClass with
    | error e => rw [addField_of_error hres hc]; rfl
    | ok c => rw [addField_of_free hres hc]; rfl
  · rw [addField_of_found hres, map_map, map_unit]
  · exact absurd hres (h _)

namespace Node

/-- Under the lenient policy the node converts or fails as its check does. -/
def BuildsAsChecked (n : Node) : Prop :=
  ∀ r : Registry, r.policy = .reuseFirst → (n.toFeature r).1.map (fun _ => ()) = n.check

/-- The same of children, while their parent is filled. -/
def FillsAsChecked (ns : List Node) : Prop :=
  ∀ (r : Registry) (id : ClassId), r.policy = .reuseFirst →
    (addChildren ns id r).1 = checkNodes ns

/-- Under the lenient policy no name is refused, so a group or segment converts as its children are
checked. -/
theorem addClass_check {n : Node} (ih : FillsAsChecked n.children) {r : Registry}
    (hp : r.policy = .reuseFirst) :
    (n.addClass r).1.map (fun _ => ()) = checkNodes n.children := by
  have hres := Registry.resolve_of_reuseFirst hp n.className n.kind
  cases hid : r.get? n.className with
  | none =>
    rw [hid] at hres
    have hbare : r.get? n.bareClass.name = none := n.bareClass_name.symm ▸ hid
    have hadds := Registry.register_adds hbare
    rw [addClass_of_free hres, map_map, map_unit]
    exact ih _ _ (hadds.policy.trans hp)
  | some id =>
    rw [hid] at hres
    rw [addClass_of_found hres, map_map, map_unit]

/-- A group or segment builds as it is checked if its children do. -/
theorem buildsAsChecked_structural {n : Node} (hn : n.isStructural)
    (ih : FillsAsChecked n.children) : n.BuildsAsChecked := by
  intro r hp
  rw [toFeature_structural hn, check_structural hn, map_map]
  exact addClass_check ih hp

theorem buildsAsChecked_field (leaf : Field) : (field leaf).BuildsAsChecked := by
  intro r hp
  cases hl : leaf.isComposite with
  | false =>
    rw [toFeature_simple hl, check_simple hl]
    rfl
  | true =>
    rw [toFeature_composite hl, check, map_map]
    exact Registry.addField_check fun e he => by
      rw [Registry.resolve_of_reuseFirst hp] at he
      cases he

theorem fillsAsChecked_nil : FillsAsChecked [] := fun _ _ _ => rfl

/-- Children are built in the order in which they are checked, so the first fault is the same. -/
theorem fillsAsChecked_cons {n : Node} {rest : List Node} (hn : n.BuildsAsChecked)
    (hrest : FillsAsChecked rest) : FillsAsChecked (n :: rest) := by
  intro r id hp
  have hcheck := hn r hp
  obtain ⟨news, hnews⟩ := n.toFeature_adds r
  rw [checkNodes]
  rcases hstep : n.toFeature r with ⟨e | f, r₁⟩
  · rw [hstep] at hcheck
    rw [addChildren_of_error hstep, ← hcheck]
    rfl
  · rw [hstep] at hcheck hnews
    rw [addChildren_of_ok hstep, ← hcheck]
    exact hrest (r₁.addFeature id f) id (hnews.policy.trans hp)

/-- Under the lenient policy, what is registered decides nothing: a tree converts or fails as its
check does. -/
theorem builds_and_fills_as_checked :
    (∀ n : Node, n.BuildsAsChecked) ∧ ∀ ns, FillsAsChecked ns :=
  forest_induction (fun _ hn ih => buildsAsChecked_structural hn ih) buildsAsChecked_field
    fillsAsChecked_nil fun _ _ hn hrest => fillsAsChecked_cons hn hrest

end Node

/-! ## Documents -/

namespace Document

variable {doc : Document}

/-- A group converts under the lenient policy, over any package, as its check does. -/
theorem addGroup_report (p : Package) (g : Group) :
    ((Registry.ofPackage p .reuseFirst).addGroup g).1.map (fun _ => ()) =
      report (firstFault (componentsOf g.children)) := by
  rw [Registry.addGroup_eq, ← check_report.2]
  exact Node.addClass_check (n := Node.ofGroup g) (Node.builds_and_fills_as_checked.2 _) rfl

/-- The document root cannot be added when a node has brought in a class with its name, and then the
failure is for the kind of that node. -/
theorem wrap_eq_error_of_shapes {q : Package} {stands : Node → ClassId → Prop} {ns : List Node}
    (hshapes : Forall₂ (Node.Shapes stands) ns q.classes)
    (hnames : (q.classes.map ClassDef.name).Nodup) {root : Option ClassId} {e : ConversionError} :
    q.wrap root = .error e ↔ ∃ n ∈ ns, n.className = documentRootName ∧
      e = .classNameConflict documentRootName n.kind Kind.documentRoot := by
  rw [Node.names_of_shapes hshapes] at hnames
  rw [wrap_eq_error]
  constructor
  · rintro ⟨c, hc, rfl⟩
    obtain ⟨n, hn, hshape⟩ := exists_left_of_mem hshapes (List.mem_of_find?_eq_some hc)
    have hname : c.name = documentRootName := by simpa using List.find?_some hc
    exact ⟨n, hn, hshape.name ▸ hname, by rw [hshape.kind]⟩
  · rintro ⟨n, hn, hname, rfl⟩
    have hmem : documentRootName ∈ q.classes.map ClassDef.name := by
      rw [Node.names_of_shapes hshapes, ← hname]
      exact List.mem_map_of_mem hn
    obtain ⟨c, hc⟩ := Package.exists_classNamed? hmem
    obtain ⟨m, hm, hshape⟩ := exists_left_of_mem hshapes (List.mem_of_find?_eq_some hc)
    have hname' : c.name = documentRootName := by simpa using List.find?_some hc
    -- no two nodes bring in classes of one name, so the class found is the one of the node
    obtain rfl : n = m := List.inj_on_of_nodup_map hnames hn hm
      (hname.trans (hname'.symm.trans hshape.name))
    exact ⟨c, hc, by rw [hshape.kind]⟩

/-- Under the lenient policy a document with a component at fault fails for the first of them. -/
theorem toPackage_of_fault {e : ConversionError} (h : firstFault doc.components = some e) :
    doc.toPackage .reuseFirst = .error e := by
  unfold components at h
  cases hroot : doc.root with
  | none =>
    rw [hroot] at h
    cases h
  | some g =>
    rw [hroot] at h
    have hreport := addGroup_report doc.barePackage g
    rw [show firstFault (componentsOf g.children) = some e from h] at hreport
    exact toPackage_of_error hroot (map_eq_error.mp hreport)

/-- Under the lenient policy a document without such components fails exactly when a node has taken
the name of the document root, and for the kind of that node. -/
theorem toPackage_of_no_fault (h : firstFault doc.components = none) (e : ConversionError) :
    doc.toPackage .reuseFirst = .error e ↔ ∃ n ∈ doc.introduced, n.className = documentRootName ∧
      e = .classNameConflict documentRootName n.kind Kind.documentRoot := by
  cases hroot : doc.root with
  | none =>
    simp only [toPackage, introduced, hroot, List.not_mem_nil, false_and, exists_false, iff_false]
    intro h
    cases h
  | some g =>
    have hreport := addGroup_report doc.barePackage g
    rw [show firstFault (componentsOf g.children) = none by simpa only [components, hroot] using h]
      at hreport
    obtain ⟨id, hid, _⟩ := map_eq_ok.mp hreport
    obtain ⟨r, hg⟩ : ∃ r, (Registry.ofPackage doc.barePackage .reuseFirst).addGroup g =
        (.ok id, r) := ⟨_, Prod.ext hid rfl⟩
    obtain ⟨_, hentries, _, _, _, hshapes⟩ := Registry.addGroup_ofPackage rfl hg
    have hwalk : doc.introduced = (Node.ofGroup g).introduced [] := by rw [introduced, hroot]
    rw [← hwalk] at hshapes
    rw [toPackage_of_ok hroot hg]
    exact wrap_eq_error_of_shapes hshapes (Registry.names_nodup hentries)

/-- Which documents fail, and for what. Under the lenient policy it is the first component at fault,
wherever in the tree it stands; or, when there is none, that a node has brought in a class with the
name of the document root. Under the strict policy a document fails for the very same, unless it
fails for a conflict between kinds of nodes. -/
theorem toPackage_error (doc : Document) :
    (∀ e, doc.toPackage .reuseFirst = .error e ↔
      doc.components.findSome? Component.fault? = some e ∨
      (∀ c ∈ doc.components, c.fault? = none) ∧
        ∃ n ∈ doc.introduced, n.className = documentRootName ∧
          e = .classNameConflict documentRootName n.kind Kind.documentRoot) ∧
    ∀ e, doc.toPackage .fail = .error e → ¬ e.BetweenNodes →
      doc.toPackage .reuseFirst = .error e := by
  constructor
  · intro e
    cases hfault : firstFault doc.components with
    | some e' =>
      rw [toPackage_of_fault hfault]
      have hsome : ¬ ∀ c ∈ doc.components, c.fault? = none := by
        intro hnone
        rw [firstFault, List.findSome?_eq_none_iff.mpr hnone] at hfault
        cases hfault
      rw [show doc.components.findSome? Component.fault? = some e' from hfault]
      simp [hsome]
    | none =>
      have hnone : ∀ c ∈ doc.components, c.fault? = none :=
        List.findSome?_eq_none_iff.mp hfault
      rw [toPackage_of_no_fault hfault,
        show doc.components.findSome? Component.fault? = none from hfault]
      constructor
      · exact fun h => .inr ⟨hnone, h⟩
      · rintro (h | ⟨_, h⟩)
        · cases h
        · exact h
  · intro e he hbetween
    rcases doc.toPackage_lockstep with hstep | ⟨⟨e', he', hbetween'⟩, _⟩
    · rw [hstep, he]
    · obtain rfl := Except.error.inj (he.symm.trans he')
      exact absurd hbetween' hbetween

end Document

end EdiSchema
