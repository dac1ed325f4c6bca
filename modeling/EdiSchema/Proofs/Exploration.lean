import EdiSchema.Package.Walk

/-!
# What a walk sees

The steps of a walk are kept in one list, those that follow references and those that leave classes
together. `Package.Explores` says the same by recursion on the package: to follow a reference is to
pass over it, to find no class there, or to visit the class, explore what it owns and go on.
`exists_explores` is the law that joins the two, for any point at which a walk stops, and all that
is known of walks follows by induction on the relation: that no class is visited twice, that paths
lead where they say and only go onward, and that a walk which nothing stops has seen in the end
whatever the classes that it visited own.
-/

namespace EdiSchema

/-- The visits among events, in order. -/
def visitsOf (events : List WalkEvent) : List Visit := events.filterMap WalkEvent.visit?

@[simp] theorem visitsOf_nil : visitsOf [] = [] := rfl

@[simp] theorem visitsOf_append (es fs : List WalkEvent) :
    visitsOf (es ++ fs) = visitsOf es ++ visitsOf fs := List.filterMap_append

@[simp] theorem visitsOf_visit (id : ClassId) (cls : ClassDef) (path : List String)
    (es : List WalkEvent) : visitsOf (.visit id cls path :: es) = ⟨id, path⟩ :: visitsOf es := rfl

@[simp] theorem visitsOf_enter (cls : ClassDef) (path : List String) (es : List WalkEvent) :
    visitsOf (.enter cls path :: es) = visitsOf es := rfl

@[simp] theorem visitsOf_leave (cls : ClassDef) (path : List String) (es : List WalkEvent) :
    visitsOf (.leave cls path :: es) = visitsOf es := rfl

/-- A visit belongs to an event. -/
theorem exists_of_mem_visitsOf {events : List WalkEvent} {v : Visit} (h : v ∈ visitsOf events) :
    ∃ cls, .visit v.id cls v.path ∈ events := by
  obtain ⟨e, he, hv⟩ := List.mem_filterMap.mp h
  cases e with
  | visit id cls path => cases hv; exact ⟨cls, he⟩
  | enter => cases hv
  | leave => cases hv

/-- The references that a class owns, as places to go from `path`. -/
def ClassDef.owned (cls : ClassDef) (path : List String) : List (ClassId × List String) :=
  cls.containments.map fun r => (r.target, path ++ [r.name])

/-- The events of a class: its visit, and what happens below it if it owns anything. -/
def stay (id : ClassId) (cls : ClassDef) (path : List String) (below : List WalkEvent) :
    List WalkEvent :=
  .visit id cls path ::
    if cls.containments.isEmpty then [] else .enter cls path :: (below ++ [.leave cls path])

namespace Package

/-- What comes of going to the places `todo` one after the other: the events, and the ids seen in
the end. The walk has seen the ids in `seen` and made the visits in `visits` before. -/
inductive Explores (p : Package) (goOn : List Visit → Bool) : List ClassId → List Visit →
    List (ClassId × List String) → List WalkEvent → List ClassId → Prop
  | nil {seen : List ClassId} {visits : List Visit} : Explores p goOn seen visits [] [] seen
  /-- The walk has been stopped, or has been at the class before. -/
  | skip {seen seen' : List ClassId} {visits : List Visit} {id : ClassId} {path : List String}
      {rest : List (ClassId × List String)} {events : List WalkEvent}
      (h : goOn visits = false ∨ id ∈ seen)
      (hrest : Explores p goOn seen visits rest events seen') :
      Explores p goOn seen visits ((id, path) :: rest) events seen'
  /-- There is no class. -/
  | dangling {seen seen' : List ClassId} {visits : List Visit} {id : ClassId} {path : List String}
      {rest : List (ClassId × List String)} {events : List WalkEvent}
      (hgo : goOn visits = true) (hs : id ∉ seen) (hc : p.class? id = none)
      (hrest : Explores p goOn (id :: seen) visits rest events seen') :
      Explores p goOn seen visits ((id, path) :: rest) events seen'
  /-- The class is visited, what it owns is explored, and then the rest. -/
  | visit {seen seen₁ seen₂ : List ClassId} {visits : List Visit} {id : ClassId}
      {path : List String} {rest : List (ClassId × List String)} {cls : ClassDef}
      {below events : List WalkEvent}
      (hgo : goOn visits = true) (hs : id ∉ seen) (hc : p.class? id = some cls)
      (hbelow : Explores p goOn (id :: seen) (visits ++ [⟨id, path⟩]) (cls.owned path) below seen₁)
      (hrest : Explores p goOn seen₁ (visits ++ ⟨id, path⟩ :: visitsOf below) rest events seen₂) :
      Explores p goOn seen visits ((id, path) :: rest) (stay id cls path below ++ events) seen₂

variable {p : Package} {goOn : List Visit → Bool} {seen seen' : List ClassId} {visits : List Visit}
  {todo : List (ClassId × List String)} {events : List WalkEvent}

/-! ## One step -/

section Steps

variable {id : ClassId} {path : List String} (rest : List WalkStep)

/-- A place that was seen is passed over, and so is every place once the walk has stopped. -/
theorem walkSteps_skip (h : goOn visits = false ∨ id ∈ seen) :
    p.walkSteps goOn seen visits (.follow id path :: rest) = p.walkSteps goOn seen visits rest := by
  rw [walkSteps, dif_pos h]

/-- A place without a class counts as seen, and that is all. -/
theorem walkSteps_dangling (hgo : goOn visits = true) (hs : id ∉ seen) (hc : p.class? id = none) :
    p.walkSteps goOn seen visits (.follow id path :: rest) =
      p.walkSteps goOn (id :: seen) visits rest := by
  have h : ¬ (goOn visits = false ∨ id ∈ seen) := by simp [hgo, hs]
  rw [walkSteps, dif_neg h]
  split
  · rfl
  · next hsome => rw [hc] at hsome; cases hsome

/-- A class is visited where it is met first. If it owns anything the walk enters it, goes through
what it owns, and leaves it, before it goes on. -/
theorem walkSteps_visit (hgo : goOn visits = true) (hs : id ∉ seen) {cls : ClassDef}
    (hc : p.class? id = some cls) :
    p.walkSteps goOn seen visits (.follow id path :: rest) =
      .visit id cls path ::
        if cls.containments.isEmpty then
          p.walkSteps goOn (id :: seen) (visits ++ [⟨id, path⟩]) rest
        else
          .enter cls path :: p.walkSteps goOn (id :: seen) (visits ++ [⟨id, path⟩])
            (stepsBelow cls path ++ rest) := by
  have h : ¬ (goOn visits = false ∨ id ∈ seen) := by simp [hgo, hs]
  rw [walkSteps, dif_neg h]
  split
  · next hnone => rw [hc] at hnone; cases hnone
  · next cls' hsome =>
    obtain rfl := Option.some.inj (hc.symm.trans hsome)
    rfl

end Steps

/-! ## Exploring -/

/-- What was seen stays seen. -/
theorem Explores.subset (h : p.Explores goOn seen visits todo events seen') : seen ⊆ seen' := by
  induction h with
  | nil => exact List.Subset.refl _
  | skip _ _ ih => exact ih
  | dangling _ _ _ _ ih => exact fun k hk => ih (List.mem_cons_of_mem _ hk)
  | visit _ _ _ _ _ ihbelow ihrest =>
    exact fun k hk => ihrest (ihbelow (List.mem_cons_of_mem _ hk))

/-- The step that goes to a place. -/
def goTo (t : ClassId × List String) : WalkStep := .follow t.1 t.2

/-- Below a class the walk goes to what the class owns, and then leaves it. -/
theorem stepsBelow_eq (cls : ClassDef) (path : List String) :
    stepsBelow cls path = (cls.owned path).map goTo ++ [.leave cls path] := by
  rw [stepsBelow, ClassDef.owned, List.map_map]
  rfl

/-- A class that owns nothing has nothing below it. -/
theorem Explores.below_of_leaf {cls : ClassDef} {path : List String}
    (h : p.Explores goOn seen visits (cls.owned path) events seen')
    (hleaf : cls.containments = []) : events = [] ∧ seen' = seen := by
  rw [ClassDef.owned, hleaf] at h
  cases h
  exact ⟨rfl, rfl⟩

/-- The visits of a class and of what is below it. -/
theorem Explores.visitsOf_stay {cls : ClassDef} {path : List String}
    (h : p.Explores goOn seen visits (cls.owned path) events seen') (id : ClassId) :
    visitsOf (stay id cls path events) = ⟨id, path⟩ :: visitsOf events := by
  rw [stay, visitsOf_visit]
  cases hleaf : cls.containments.isEmpty with
  | true => rw [(h.below_of_leaf (List.isEmpty_iff.mp hleaf)).1]; rfl
  | false => simp

/-- The events of a class come first, if the steps below it explore what it owns. -/
theorem walkSteps_stay {id : ClassId} {path : List String} {cls : ClassDef}
    {below : List WalkEvent} {seen₁ : List ClassId}
    (hgo : goOn visits = true) (hs : id ∉ seen) (hc : p.class? id = some cls)
    (hbelow : p.Explores goOn (id :: seen) (visits ++ [⟨id, path⟩]) (cls.owned path) below seen₁)
    (heq : ∀ steps, p.walkSteps goOn (id :: seen) (visits ++ [⟨id, path⟩])
      ((cls.owned path).map goTo ++ steps) =
        below ++ p.walkSteps goOn seen₁ (visits ++ [⟨id, path⟩] ++ visitsOf below) steps)
    (steps : List WalkStep) :
    p.walkSteps goOn seen visits (.follow id path :: steps) =
      stay id cls path below ++
        p.walkSteps goOn seen₁ (visits ++ ⟨id, path⟩ :: visitsOf below) steps := by
  rw [walkSteps_visit _ hgo hs hc, stay]
  cases hleaf : cls.containments.isEmpty with
  | true =>
    obtain ⟨rfl, rfl⟩ := hbelow.below_of_leaf (List.isEmpty_iff.mp hleaf)
    rfl
  | false => simp [stepsBelow_eq, heq, walkSteps]

/-- The steps of a walk explore the places that they lead to, and then go on with what is behind
them. -/
theorem exists_explores_of_lt (p : Package) (goOn : List Visit → Bool) (n : Nat) :
    ∀ todo seen visits, p.unseen seen < n →
      ∃ events seen', p.Explores goOn seen visits todo events seen' ∧ ∀ steps,
        p.walkSteps goOn seen visits (todo.map goTo ++ steps) =
          events ++ p.walkSteps goOn seen' (visits ++ visitsOf events) steps := by
  induction n with
  | zero => exact fun _ _ _ h => absurd h (Nat.not_lt_zero _)
  | succ n outer =>
    intro todo
    induction todo with
    | nil => exact fun seen visits _ => ⟨[], seen, .nil, fun steps => by simp⟩
    | cons t rest inner =>
      obtain ⟨id, path⟩ := t
      intro seen visits hlt
      by_cases hskip : goOn visits = false ∨ id ∈ seen
      · obtain ⟨events, seen', hexp, heq⟩ := inner seen visits hlt
        exact ⟨events, seen', .skip hskip hexp,
          fun steps => (walkSteps_skip _ hskip).trans (heq steps)⟩
      obtain ⟨hgo, hs⟩ := not_or.mp hskip
      rw [Bool.not_eq_false] at hgo
      cases hc : p.class? id with
      | none =>
        obtain ⟨events, seen', hexp, heq⟩ := inner (id :: seen) visits
          (Nat.lt_of_le_of_lt (p.unseen_mono (List.subset_cons_self id seen)) hlt)
        exact ⟨events, seen', .dangling hgo hs hc hexp,
          fun steps => (walkSteps_dangling _ hgo hs hc).trans (heq steps)⟩
      | some cls =>
        -- the class takes one from the unseen, so the outer induction covers what is below it
        have hfewer := p.unseen_cons_lt hc hs
        obtain ⟨below, seen₁, hbelow, hbeq⟩ := outer (cls.owned path) (id :: seen)
          (visits ++ [⟨id, path⟩]) (by omega)
        have hless := p.unseen_mono hbelow.subset
        obtain ⟨events, seen₂, hrest, hreq⟩ := inner seen₁
          (visits ++ ⟨id, path⟩ :: visitsOf below) (by omega)
        refine ⟨_, seen₂, .visit hgo hs hc hbelow hrest, fun steps => ?_⟩
        rw [List.map_cons, List.cons_append, goTo, walkSteps_stay hgo hs hc hbelow hbeq, hreq]
        simp only [visitsOf_append, hbelow.visitsOf_stay, List.append_assoc, List.cons_append]

/-- What the walk does is an exploration. -/
theorem exists_explores (p : Package) (goOn : List Visit → Bool) (id : ClassId) :
    ∃ events seen', p.Explores goOn [] [] [(id, [])] events seen' ∧
      p.walkSteps goOn [] [] [.follow id []] = events := by
  obtain ⟨events, seen', hexp, heq⟩ := p.exists_explores_of_lt goOn _ [(id, [])] [] []
    (Nat.lt_succ_self _)
  refine ⟨events, seen', hexp, ?_⟩
  have := heq []
  rwa [walkSteps, List.append_nil, List.append_nil] at this

/-! ## Soundness -/

/-- The names in `path` lead from the document root to the class at `id`, by containment references
of classes that exist. -/
inductive LeadsTo (p : Package) : List String → ClassId → Prop
  | start {id : ClassId} (h : p.documentRoot = some id) : LeadsTo p [] id
  | follow {path : List String} {id : ClassId} {cls : ClassDef} {r : Reference}
      (hpath : LeadsTo p path id) (hc : p.class? id = some cls) (hr : r ∈ cls.references)
      (hown : r.containment = true) : LeadsTo p (path ++ [r.name]) r.target

/-- A visit shows the class that is at the id. -/
theorem Explores.class?_of_visit (h : p.Explores goOn seen visits todo events seen')
    {id : ClassId} {cls : ClassDef} {path : List String} (hmem : .visit id cls path ∈ events) :
    p.class? id = some cls := by
  induction h with
  | nil => cases hmem
  | skip _ _ ih => exact ih hmem
  | dangling _ _ _ _ ih => exact ih hmem
  | visit _ _ hc _ _ ihbelow ihrest =>
    rcases List.mem_append.mp hmem with hmem | hmem
    · rw [stay] at hmem
      split at hmem
      · obtain ⟨rfl, rfl, rfl⟩ : _ ∧ _ ∧ _ := by simpa using hmem
        exact hc
      · simp only [List.mem_cons, List.mem_append, WalkEvent.visit.injEq, reduceCtorEq,
          List.not_mem_nil, false_or, or_false] at hmem
        rcases hmem with ⟨rfl, rfl, rfl⟩ | hmem
        · exact hc
        · exact ihbelow hmem
    · exact ihrest hmem

/-- No class is visited twice, nor one that was seen before. -/
theorem Explores.fresh (h : p.Explores goOn seen visits todo events seen') :
    ((visitsOf events).map Visit.id).Nodup ∧
      ∀ v ∈ visitsOf events, v.id ∉ seen ∧ v.id ∈ seen' := by
  induction h with
  | nil => exact ⟨List.nodup_nil, fun v hv => by cases hv⟩
  | skip _ _ ih => exact ih
  | dangling _ _ _ _ ih =>
    exact ⟨ih.1, fun v hv => ⟨fun hm => (ih.2 v hv).1 (List.mem_cons_of_mem _ hm), (ih.2 v hv).2⟩⟩
  | @visit seen seen₁ seen₂ _ id path _ _ below events _ hs _ hbelow hrest ihbelow ihrest =>
    have hid : id ∈ seen₁ := hbelow.subset List.mem_cons_self
    rw [visitsOf_append, hbelow.visitsOf_stay, List.cons_append, List.map_cons, List.map_append]
    constructor
    · refine List.nodup_cons.mpr ⟨fun hmem => ?_, List.nodup_append.mpr
        ⟨ihbelow.1, ihrest.1, fun a ha b hb hab => ?_⟩⟩
      · rcases List.mem_append.mp hmem with hmem | hmem <;>
          obtain ⟨v, hv, rfl⟩ := List.mem_map.mp hmem
        · exact (ihbelow.2 v hv).1 List.mem_cons_self
        · exact (ihrest.2 v hv).1 hid
      · obtain ⟨v, hv, rfl⟩ := List.mem_map.mp ha
        obtain ⟨w, hw, rfl⟩ := List.mem_map.mp hb
        exact (ihrest.2 w hw).1 (hab ▸ (ihbelow.2 v hv).2)
    · intro v hv
      rcases List.mem_cons.mp hv with rfl | hv
      · exact ⟨hs, hrest.subset hid⟩
      rcases List.mem_append.mp hv with hv | hv
      · exact ⟨fun hm => (ihbelow.2 v hv).1 (List.mem_cons_of_mem _ hm),
          hrest.subset (ihbelow.2 v hv).2⟩
      · exact ⟨fun hm => (ihrest.2 v hv).1 (hbelow.subset (List.mem_cons_of_mem _ hm)),
          (ihrest.2 v hv).2⟩

/-- What is visited is led to by its path, if the places to go to are. -/
theorem Explores.leadsTo (h : p.Explores goOn seen visits todo events seen')
    (htodo : ∀ t ∈ todo, p.LeadsTo t.2 t.1) : ∀ v ∈ visitsOf events, p.LeadsTo v.path v.id := by
  induction h with
  | nil => exact fun v hv => by cases hv
  | skip _ _ ih => exact ih fun t ht => htodo t (List.mem_cons_of_mem _ ht)
  | dangling _ _ _ _ ih => exact ih fun t ht => htodo t (List.mem_cons_of_mem _ ht)
  | visit _ _ hc hbelow _ ihbelow ihrest =>
    have hhere := htodo _ List.mem_cons_self
    intro v hv
    rw [visitsOf_append, hbelow.visitsOf_stay, List.cons_append] at hv
    rcases List.mem_cons.mp hv with rfl | hv
    · exact hhere
    rcases List.mem_append.mp hv with hv | hv
    · refine ihbelow (fun t ht => ?_) v hv
      obtain ⟨r, hr, rfl⟩ := List.mem_map.mp ht
      obtain ⟨href, hown⟩ := ClassDef.mem_containments.mp hr
      exact .follow hhere hc href hown
    · exact ihrest (fun t ht => htodo t (List.mem_cons_of_mem _ ht)) v hv

/-! ## Form -/

/-- All visits lie on paths that go on from the places to go to. -/
theorem Explores.onward (h : p.Explores goOn seen visits todo events seen') :
    ∀ v ∈ visitsOf events, ∃ t ∈ todo, t.2 <+: v.path := by
  induction h with
  | nil => exact fun v hv => by cases hv
  | skip _ _ ih =>
    intro v hv
    obtain ⟨t, ht, hpath⟩ := ih v hv
    exact ⟨t, List.mem_cons_of_mem _ ht, hpath⟩
  | dangling _ _ _ _ ih =>
    intro v hv
    obtain ⟨t, ht, hpath⟩ := ih v hv
    exact ⟨t, List.mem_cons_of_mem _ ht, hpath⟩
  | @visit _ _ _ _ id path _ _ _ _ _ _ _ hbelow _ ihbelow ihrest =>
    intro v hv
    rw [visitsOf_append, hbelow.visitsOf_stay, List.cons_append] at hv
    rcases List.mem_cons.mp hv with rfl | hv
    · exact ⟨(id, path), List.mem_cons_self, List.prefix_refl _⟩
    rcases List.mem_append.mp hv with hv | hv
    · obtain ⟨t, ht, hpath⟩ := ihbelow v hv
      obtain ⟨r, hr, rfl⟩ := List.mem_map.mp ht
      exact ⟨(id, path), List.mem_cons_self, (List.prefix_append _ _).trans hpath⟩
    · obtain ⟨t, ht, hpath⟩ := ihrest v hv
      exact ⟨t, List.mem_cons_of_mem _ ht, hpath⟩

/-- What is below a class lies beyond its path. -/
theorem Explores.beyond {cls : ClassDef} {path : List String}
    (h : p.Explores goOn seen visits (cls.owned path) events seen') :
    ∀ v ∈ visitsOf events, path <+: v.path ∧ path ≠ v.path := by
  intro v hv
  obtain ⟨t, ht, hpath⟩ := h.onward v hv
  obtain ⟨r, _, rfl⟩ := List.mem_map.mp ht
  refine ⟨(List.prefix_append _ _).trans hpath, fun heq => ?_⟩
  have hlen := hpath.length_le
  rw [List.length_append, List.length_singleton, ← heq] at hlen
  omega

/-! ## Completeness -/

/-- A walk that nothing stops sees all places that it is to go to. -/
theorem Explores.sees (hgo : ∀ vs, goOn vs = true)
    (h : p.Explores goOn seen visits todo events seen') : ∀ t ∈ todo, t.1 ∈ seen' := by
  induction h with
  | nil => exact fun t ht => by cases ht
  | skip h hrest ih =>
    rcases h with h | hs
    · rw [hgo] at h
      cases h
    · exact List.forall_mem_cons.mpr ⟨hrest.subset hs, ih⟩
  | dangling _ _ _ hrest ih =>
    exact List.forall_mem_cons.mpr ⟨hrest.subset List.mem_cons_self, ih⟩
  | visit _ _ _ hbelow hrest _ ihrest =>
    exact List.forall_mem_cons.mpr ⟨hrest.subset (hbelow.subset List.mem_cons_self), ihrest⟩

/-- A class that such a walk comes to see has been visited, and the walk has seen what it owns. -/
theorem Explores.closed (hgo : ∀ vs, goOn vs = true)
    (h : p.Explores goOn seen visits todo events seen') {id : ClassId} {cls : ClassDef}
    (hc : p.class? id = some cls) (hid : id ∈ seen') :
    id ∈ seen ∨ (∃ path, ⟨id, path⟩ ∈ visitsOf events) ∧
      ∀ r ∈ cls.references, r.containment = true → r.target ∈ seen' := by
  induction h with
  | nil => exact .inl hid
  | skip _ _ ih => exact ih hid
  | dangling _ _ hnone _ ih =>
    rcases ih hid with hold | hnew
    · rcases List.mem_cons.mp hold with rfl | hold
      · rw [hnone] at hc
        cases hc
      · exact .inl hold
    · exact .inr hnew
  | @visit _ _ _ _ _ path _ here _ _ _ _ hhere hbelow hrest ihbelow ihrest =>
    rw [visitsOf_append, hbelow.visitsOf_stay]
    rcases ihrest hid with hmid | ⟨⟨place, hv⟩, howned⟩
    · rcases ihbelow hmid with hold | ⟨⟨place, hv⟩, howned⟩
      · rcases List.mem_cons.mp hold with rfl | hold
        · obtain rfl := Option.some.inj (hc.symm.trans hhere)
          refine .inr ⟨⟨path, List.mem_cons_self⟩, fun r hr hown => hrest.subset ?_⟩
          have hmem := ClassDef.mem_containments.mpr ⟨hr, hown⟩
          exact hbelow.sees hgo (r.target, path ++ [r.name]) (List.mem_map_of_mem hmem)
        · exact .inl hold
      · exact .inr ⟨⟨place, List.mem_cons_of_mem _ (List.mem_append_left _ hv)⟩,
          fun r hr hown => hrest.subset (howned r hr hown)⟩
    · exact .inr ⟨⟨place, List.mem_cons_of_mem _ (List.mem_append_right _ hv)⟩, howned⟩

end Package

end EdiSchema
