import EdiSchema.Proofs.Exploration

/-!
# The events of a walk

The events of a walk nest as the classes own each other (`Nested`), wherever the walk is stopped. Of
a walk that nothing stops, `Package.walkAll_visits` says what it visits: the classes that can be
reached from the document root, each once, on a path that leads to it.
-/

namespace EdiSchema

/-! ## Nesting -/

/-- Events that nest: a class that owns nothing is visited, and that is all; a class that owns
others is entered right after its visit, and left when all below it, on paths beyond its own, has
been done. -/
inductive Nested : List WalkEvent → Prop
  | nil : Nested []
  | leaf {id : ClassId} {cls : ClassDef} {path : List String} {rest : List WalkEvent}
      (h : ∀ r ∈ cls.references, r.containment = false) (hrest : Nested rest) :
      Nested (.visit id cls path :: rest)
  | owner {id : ClassId} {cls : ClassDef} {path : List String} {below rest : List WalkEvent}
      (h : ∃ r ∈ cls.references, r.containment = true) (hbelow : Nested below)
      (hbeyond : ∀ v ∈ visitsOf below, path <+: v.path ∧ path ≠ v.path) (hrest : Nested rest) :
      Nested (.visit id cls path :: .enter cls path :: (below ++ .leave cls path :: rest))

/-- Events of an exploration are nested: what a class is entered for is left before the next place
is gone to. -/
theorem Package.Explores.nested {p : Package} {goOn : List Visit → Bool}
    {seen seen' : List ClassId} {visits : List Visit} {todo : List (ClassId × List String)}
    {events : List WalkEvent} (h : p.Explores goOn seen visits todo events seen') :
    Nested events := by
  induction h with
  | nil => exact .nil
  | skip _ _ ih => exact ih
  | dangling _ _ _ _ ih => exact ih
  | @visit _ _ _ _ id path _ cls below events _ _ _ hbelow _ ihbelow ihrest =>
    rw [stay]
    cases hleaf : cls.containments with
    | nil => exact .leaf (ClassDef.containments_eq_nil_iff.mp hleaf) ihrest
    | cons r rs =>
      have howner : r ∈ cls.containments := hleaf ▸ List.mem_cons_self
      have hnested : Nested (.visit id cls path :: .enter cls path ::
          (below ++ .leave cls path :: events)) :=
        .owner ⟨r, ClassDef.mem_containments.mp howner⟩ ihbelow hbelow.beyond ihrest
      simpa using hnested

namespace WalkEvent

/-- The class that an event visits and that owns others, with the path of the visit. -/
def owner? : WalkEvent → Option (ClassDef × List String)
  | .visit _ cls path => if cls.references.any (·.containment) then some (cls, path) else none
  | .enter _ _ => none
  | .leave _ _ => none

/-- Where no reference owns, a visit is all there is. -/
theorem owner?_of_leaf {id : ClassId} {cls : ClassDef} {path : List String}
    (h : ∀ r ∈ cls.references, r.containment = false) : owner? (.visit id cls path) = none := by
  have hany : cls.references.any (·.containment) = false := List.any_eq_false.mpr (by simpa using h)
  rw [owner?, hany]
  rfl

/-- A visit to a class that owns something says what is to be entered next. -/
theorem owner?_of_owner {id : ClassId} {cls : ClassDef} {path : List String}
    (h : ∃ r ∈ cls.references, r.containment = true) :
    owner? (.visit id cls path) = some (cls, path) := by
  rw [owner?, List.any_eq_true.mpr h]
  rfl

/-- The class that an event enters. -/
def entered? : WalkEvent → Option (ClassDef × List String)
  | .visit _ _ _ => none
  | .enter cls path => some (cls, path)
  | .leave _ _ => none

/-- The class that an event leaves. -/
def left? : WalkEvent → Option (ClassDef × List String)
  | .visit _ _ _ => none
  | .enter _ _ => none
  | .leave cls path => some (cls, path)

end WalkEvent

/-- Classes that own others are entered as often as they are visited, in that order. -/
theorem Nested.entered {events : List WalkEvent} (h : Nested events) :
    events.filterMap WalkEvent.entered? = events.filterMap WalkEvent.owner? := by
  induction h with
  | nil => rfl
  | leaf h _ ih =>
    rw [List.filterMap_cons_none rfl, List.filterMap_cons_none (WalkEvent.owner?_of_leaf h)]
    exact ih
  | owner h _ _ _ ihbelow ihrest =>
    rw [List.filterMap_cons_none rfl, List.filterMap_cons_some (WalkEvent.owner?_of_owner h)]
    simp [List.filterMap_cons, WalkEvent.entered?, WalkEvent.owner?, ihbelow, ihrest]

/-- And they are left as often. -/
theorem Nested.left {events : List WalkEvent} (h : Nested events) :
    (events.filterMap WalkEvent.left?).Perm (events.filterMap WalkEvent.owner?) := by
  induction h with
  | nil => exact .nil
  | leaf h _ ih =>
    rw [List.filterMap_cons_none rfl, List.filterMap_cons_none (WalkEvent.owner?_of_leaf h)]
    exact ih
  | owner h _ _ _ ihbelow ihrest =>
    rw [List.filterMap_cons_none rfl, List.filterMap_cons_some (WalkEvent.owner?_of_owner h)]
    simp only [WalkEvent.left?, WalkEvent.owner?, List.filterMap_cons, List.filterMap_append]
    exact List.perm_middle.trans ((ihbelow.append ihrest).cons _)

/-! ## Whole walks -/

namespace Package

variable {p : Package}

/-- The walk of a package with a document root begins there. -/
theorem walkAll_eq_cons {id : ClassId} {cls : ClassDef} (hdoc : p.documentRoot = some id)
    (hc : p.class? id = some cls) : ∃ events, p.walkAll = .visit id cls [] :: events := by
  rw [walkAll, walk, hdoc]
  exact ⟨_, walkSteps_visit [] rfl List.not_mem_nil hc⟩

/-- A walk explores the package from the document root, if there is one. -/
theorem walk_explores (p : Package) (goOn : List Visit → Bool) :
    (p.documentRoot = none ∧ p.walk goOn = []) ∨
    ∃ id seen', p.documentRoot = some id ∧
      p.Explores goOn [] [] [(id, [])] (p.walk goOn) seen' := by
  cases hroot : p.documentRoot with
  | none => exact .inl ⟨rfl, by rw [walk, hroot]⟩
  | some id =>
    obtain ⟨events, seen', hexp, heq⟩ := p.exists_explores goOn id
    have hwalk : p.walk goOn = events := by rw [walk, hroot]; exact heq
    exact .inr ⟨id, seen', rfl, hwalk ▸ hexp⟩

/-- Without a document root there is nowhere to go. -/
theorem not_leadsTo (hroot : p.documentRoot = none) {path : List String} {id : ClassId} :
    ¬ p.LeadsTo path id := by
  intro h
  induction h with
  | start h => rw [hroot] at h; cases h
  | follow _ _ _ _ ih => exact ih

/-- A visit shows the class that the package has at the id, and its path leads there. -/
theorem of_visit_mem {id : ClassId} {cls : ClassDef} {path : List String}
    (h : .visit id cls path ∈ p.walkAll) : p.class? id = some cls ∧ p.LeadsTo path id := by
  rcases p.walk_explores fun _ => true with ⟨_, hwalk⟩ | ⟨root, _, hroot, hexp⟩
  · rw [walkAll, hwalk] at h
    cases h
  · refine ⟨hexp.class?_of_visit h, hexp.leadsTo (fun t ht => ?_) ⟨id, path⟩
      (List.mem_filterMap.mpr ⟨_, h, rfl⟩)⟩
    obtain rfl := List.mem_singleton.mp ht
    exact .start hroot

/-- A class is visited exactly when the references that classes own lead to it. -/
theorem visited_iff (p : Package) (id : ClassId) :
    (∃ path, ⟨id, path⟩ ∈ visitsOf p.walkAll) ↔
      (p.class? id).isSome ∧ ∃ path, p.LeadsTo path id := by
  constructor
  · rintro ⟨path, hv⟩
    obtain ⟨cls, he⟩ := exists_of_mem_visitsOf hv
    obtain ⟨hc, hpath⟩ := of_visit_mem he
    exact ⟨by rw [hc]; rfl, path, hpath⟩
  · rintro ⟨hsome, path, hpath⟩
    rcases p.walk_explores fun _ => true with ⟨hroot, _⟩ | ⟨root, seen', hroot, hexp⟩
    · exact absurd hpath (not_leadsTo hroot)
    -- the ids seen in the end hold the document root and are closed under following references
    have hseen : id ∈ seen' := by
      clear hsome
      induction hpath with
      | start h =>
        obtain rfl := Option.some.inj (hroot.symm.trans h)
        exact hexp.sees (fun _ => rfl) _ List.mem_cons_self
      | follow _ hc hr hown ih =>
        rcases hexp.closed (fun _ => rfl) hc ih with hnil | ⟨_, howned⟩
        · cases hnil
        · exact howned _ hr hown
    obtain ⟨cls, hc⟩ := Option.isSome_iff_exists.mp hsome
    rcases hexp.closed (fun _ => rfl) hc hseen with hnil | ⟨hv, _⟩
    · cases hnil
    · exact hv

/-- The events of a walk are nested, also where the walk was cut short. -/
theorem walk_nested (p : Package) (goOn : List Visit → Bool) : Nested (p.walk goOn) := by
  rcases p.walk_explores goOn with ⟨_, hwalk⟩ | ⟨_, _, _, hexp⟩
  · rw [hwalk]
    exact .nil
  · exact hexp.nested

/-- No class is visited twice. -/
theorem walkAll_nodup (p : Package) : ((visitsOf p.walkAll).map Visit.id).Nodup := by
  rcases p.walk_explores fun _ => true with ⟨_, hwalk⟩ | ⟨_, _, _, hexp⟩
  · rw [walkAll, hwalk]
    exact List.nodup_nil
  · exact hexp.fresh.1

/-- What a walk that nothing stops does, whatever the package: it visits the classes that can be
reached from the document root by references that own, and each of them once, so it ends; the path
of a visit leads to the class; and the events nest. Every class that owns others is entered and left
once for its visit, with its own path, and whatever is visited in between lies beyond that path. -/
theorem walkAll_visits (p : Package) :
    (∀ id, (∃ path, ⟨id, path⟩ ∈ visitsOf p.walkAll) ↔
      (p.class? id).isSome ∧ ∃ path, p.LeadsTo path id) ∧
    ((visitsOf p.walkAll).map Visit.id).Nodup ∧
    (∀ id cls path, .visit id cls path ∈ p.walkAll →
      p.class? id = some cls ∧ p.LeadsTo path id) ∧
    Nested p.walkAll ∧
    p.walkAll.filterMap WalkEvent.entered? = p.walkAll.filterMap WalkEvent.owner? ∧
    (p.walkAll.filterMap WalkEvent.left?).Perm (p.walkAll.filterMap WalkEvent.owner?) :=
  have hnested := p.walk_nested fun _ => true
  ⟨p.visited_iff, p.walkAll_nodup, fun _ _ _ h => of_visit_mem h, hnested, hnested.entered,
    hnested.left⟩

/-- A package with all that a walk has to cope with: orders that own each other, parties that own
their orders again, a party that is owned by two references, an owned class that is not there, two
classes and two references of one name, and an archive that orders refer to without owning it. -/
def tangle : Package where
  name := "tangle"
  nsPrefix := "tangle"
  classes := [
    { name := "Order", features := [
      .attr { name := "number", dataType := .long },
      .ref { name := "archive", target := ⟨3⟩, containment := false },
      .ref { name := "lost", target := ⟨9⟩ },
      .ref { name := "party", target := ⟨1⟩ },
      .ref { name := "billing party", target := ⟨1⟩ },
      .ref { name := "parent", target := ⟨0⟩ }] },
    { name := "Party", features := [
      .ref { name := "order", target := ⟨0⟩ },
      .ref { name := "order", target := ⟨4⟩ }] },
    { name := "DocumentRoot", contentKind := .mixed, features := [
      .ref { name := "Order", target := ⟨0⟩ }] },
    { name := "Archive", features := [.ref { name := "order", target := ⟨0⟩ }] },
    { name := "Party" }]
  documentRoot := some ⟨2⟩

/-- The events of the walk, with the classes that they are about. -/
theorem walkAll_tangle : ∃ root order party last, tangle.walkAll =
    [.visit ⟨2⟩ root [], .enter root [],
      .visit ⟨0⟩ order ["Order"], .enter order ["Order"],
      .visit ⟨1⟩ party ["Order", "party"], .enter party ["Order", "party"],
      .visit ⟨4⟩ last ["Order", "party", "order"],
      .leave party ["Order", "party"], .leave order ["Order"], .leave root []] :=
  ⟨tangle.classes[2], tangle.classes[0], tangle.classes[1], tangle.classes[4], by cbv⟩

/-- Four visits: the class that nothing owns is not among them, nor is the id without a class. -/
theorem visitsOf_tangle : visitsOf tangle.walkAll = [⟨⟨2⟩, []⟩, ⟨⟨0⟩, ["Order"]⟩,
    ⟨⟨1⟩, ["Order", "party"]⟩, ⟨⟨4⟩, ["Order", "party", "order"]⟩] := by
  obtain ⟨root, order, party, last, hevents⟩ := walkAll_tangle
  rw [hevents]
  rfl

/-- The walk visits four classes and ends. No references that own lead to the archive, and those
that are named in the path of the last visit do lead to its class. Three classes are entered, and
left from within: the class without references is not among them. -/
theorem walkAll_visits_tangle :
    visitsOf tangle.walkAll = [⟨⟨2⟩, []⟩, ⟨⟨0⟩, ["Order"]⟩, ⟨⟨1⟩, ["Order", "party"]⟩,
      ⟨⟨4⟩, ["Order", "party", "order"]⟩] ∧
    (tangle.class? ⟨3⟩).isSome ∧ (¬ ∃ path, tangle.LeadsTo path ⟨3⟩) ∧
    tangle.LeadsTo ["Order", "party", "order"] ⟨4⟩ ∧
    (tangle.walkAll.filterMap WalkEvent.entered?).map Prod.snd =
      [[], ["Order"], ["Order", "party"]] ∧
    (tangle.walkAll.filterMap WalkEvent.left?).map Prod.snd =
      [["Order", "party"], ["Order"], []] := by
  obtain ⟨hvisited, _, hleads, _, _, _⟩ := tangle.walkAll_visits
  obtain ⟨root, order, party, last, hevents⟩ := walkAll_tangle
  refine ⟨visitsOf_tangle, rfl, fun harchive => ?_, ?_, ?_, ?_⟩
  · obtain ⟨path, hpath⟩ := (hvisited ⟨3⟩).mpr ⟨rfl, harchive⟩
    simp [visitsOf_tangle] at hpath
  · have hlast : ⟨⟨4⟩, ["Order", "party", "order"]⟩ ∈ visitsOf tangle.walkAll := by
      simp [visitsOf_tangle]
    obtain ⟨cls, hcls⟩ := exists_of_mem_visitsOf hlast
    exact (hleads _ cls _ hcls).2
  · rw [hevents]
    rfl
  · rw [hevents]
    rfl

end Package

end EdiSchema
