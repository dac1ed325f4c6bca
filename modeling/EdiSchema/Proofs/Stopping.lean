import EdiSchema.Proofs.Walks

/-!
# Walks that are stopped

Whether a walk goes on is asked before every visit, while the loops around it keep running: a
stopped walk still passes over what lies ahead and leaves what it has entered. So a stopped walk and
one that nothing stops are two runs of one recursion, which part for good at one point.
`Package.Explores.parts` says so for any places to go: either both runs do the same, or the first
was told to stop and its visits begin the visits of the other. Together with the fact that every
visit was asked for (`Package.Explores.asked`), this makes the visits of a walk the shortest
beginning at which it was told to stop (`StopsAt`).
-/

namespace EdiSchema

/-- The visits `made` are the shortest beginning of `all` at which a walk is told to stop. -/
structure StopsAt (goOn : List Visit → Bool) (all made : List Visit) : Prop where
  begins : made <+: all
  told : goOn made = false
  shortest : ∀ vs, vs <+: all → goOn vs = false → made <+: vs

namespace Package

variable {p : Package} {goOn : List Visit → Bool} {seen seen' seenAll : List ClassId}
  {visits : List Visit} {todo : List (ClassId × List String)} {events all : List WalkEvent}

/-- Nothing happens after a walk has been told to stop. -/
theorem Explores.idle (h : p.Explores goOn seen visits todo events seen')
    (hstop : goOn visits = false) : events = [] := by
  induction h with
  | nil => rfl
  | skip _ _ ih => exact ih hstop
  | dangling hgo => rw [hstop] at hgo; cases hgo
  | visit hgo => rw [hstop] at hgo; cases hgo

/-- Before each visit the walk was told to go on. -/
theorem Explores.asked (h : p.Explores goOn seen visits todo events seen') {vs : List Visit}
    (hvs : vs <+: visitsOf events) (hne : vs ≠ visitsOf events) : goOn (visits ++ vs) = true := by
  induction h generalizing vs with
  | nil => exact absurd (List.prefix_nil.mp hvs) hne
  | skip _ _ ih => exact ih hvs hne
  | dangling _ _ _ _ ih => exact ih hvs hne
  | @visit _ _ _ visits id path _ _ below events hgo _ _ hbelow _ ihbelow ihrest =>
    rw [visitsOf_append, hbelow.visitsOf_stay, List.cons_append] at hvs hne
    cases vs with
    | nil => rwa [List.append_nil]
    | cons v vs =>
      obtain ⟨rfl, hws⟩ := List.cons_prefix_cons.mp hvs
      rw [ne_eq, List.cons_inj_right] at hne
      -- what comes next is below the class, or all below it has been visited
      rcases List.prefix_or_prefix_of_prefix hws (List.prefix_append _ _) with h | ⟨ws, rfl⟩
      · by_cases heq : vs = visitsOf below
        · have hrest : [] ≠ visitsOf events := fun hnil =>
            hne (by rw [heq, ← hnil, List.append_nil])
          have := ihrest List.nil_prefix hrest
          rwa [List.append_nil, ← heq] at this
        · have := ihbelow h heq
          rwa [List.append_assoc, List.singleton_append] at this
      · have := ihrest ((List.prefix_append_right_inj _).mp hws) fun h => hne (by rw [h])
        rwa [List.append_assoc, List.cons_append] at this

/-- A walk and one that nothing stops do the same, unless the first is told to stop: its visits then
begin the visits of the other. -/
theorem Explores.parts (h : p.Explores goOn seen visits todo events seen')
    (hall : p.Explores (fun _ => true) seen visits todo all seenAll) :
    (events = all ∧ seen' = seenAll) ∨
      goOn (visits ++ visitsOf events) = false ∧ visitsOf events <+: visitsOf all := by
  induction h generalizing all seenAll with
  | nil =>
    cases hall
    exact .inl ⟨rfl, rfl⟩
  | skip hskip hrest ih =>
    rcases hskip with hstop | hs
    · rw [hrest.idle hstop, visitsOf_nil, List.append_nil]
      exact .inr ⟨hstop, List.nil_prefix⟩
    · cases hall with
      | skip _ hallrest => exact ih hallrest
      | dangling _ hnew => exact absurd hs hnew
      | visit _ hnew => exact absurd hs hnew
  | dangling hgo hs hnone hrest ih =>
    cases hall with
    | skip hskip => simp [hs] at hskip
    | dangling _ _ _ hallrest => exact ih hallrest
    | visit _ _ hc => rw [hnone] at hc; cases hc
  | @visit _ _ _ visits id path _ cls below _ hgo hs hc hbelow hrest ihbelow ihrest =>
    cases hall with
    | skip hskip => simp [hs] at hskip
    | dangling _ _ hnone => rw [hc] at hnone; cases hnone
    | @visit _ _ _ _ _ _ _ cls' belowAll _ _ _ hc' hallbelow hallrest =>
      obtain rfl := Option.some.inj (hc.symm.trans hc')
      rw [visitsOf_append, visitsOf_append, hbelow.visitsOf_stay, hallbelow.visitsOf_stay]
      rcases ihbelow hallbelow with ⟨rfl, rfl⟩ | ⟨hstop, hbegins⟩
      · rcases ihrest hallrest with ⟨rfl, rfl⟩ | ⟨hstop, hbegins⟩
        · exact .inl ⟨rfl, rfl⟩
        · refine .inr ⟨?_, (List.prefix_append_right_inj _).mpr hbegins⟩
          rwa [List.append_assoc] at hstop
      · -- told to stop below the class, the walk does nothing of the rest
        rw [List.append_assoc, List.singleton_append] at hstop
        right
        rw [hrest.idle hstop, visitsOf_nil, List.append_nil]
        exact ⟨hstop, ((List.prefix_append_right_inj [_]).mpr hbegins).trans
          (List.prefix_append _ _)⟩

/-! ## Whole walks -/

/-- Before each visit of a walk it was told to go on. -/
theorem walk_asked {vs : List Visit} (hvs : vs <+: visitsOf (p.walk goOn))
    (hne : vs ≠ visitsOf (p.walk goOn)) : goOn vs = true := by
  rcases p.walk_explores goOn with ⟨_, hwalk⟩ | ⟨_, _, _, hexp⟩
  · rw [hwalk] at hvs hne
    exact absurd (List.prefix_nil.mp hvs) hne
  · exact hexp.asked hvs hne

/-- A walk does what the walk does that nothing stops, unless it is told to stop. -/
theorem walk_parts (p : Package) (goOn : List Visit → Bool) :
    p.walk goOn = p.walkAll ∨
      goOn (visitsOf (p.walk goOn)) = false ∧ visitsOf (p.walk goOn) <+: visitsOf p.walkAll := by
  rcases p.walk_explores goOn with ⟨hroot, hwalk⟩ | ⟨_, _, hroot, hexp⟩
  · left
    rw [hwalk, walkAll, walk, hroot]
  · rcases p.walk_explores fun _ => true with ⟨hnone, _⟩ | ⟨_, _, hsome, hall⟩
    · rw [hroot] at hnone
      cases hnone
    · obtain rfl := Option.some.inj (hroot.symm.trans hsome)
      exact (hexp.parts hall).imp_left And.left

/-- No beginning at which the walk is told to stop is shorter than what it visits. -/
theorem walk_shortest (hbegins : visitsOf (p.walk goOn) <+: visitsOf p.walkAll) {vs : List Visit}
    (hvs : vs <+: visitsOf p.walkAll) (hstop : goOn vs = false) :
    visitsOf (p.walk goOn) <+: vs := by
  -- of two beginnings one begins the other
  rcases List.prefix_or_prefix_of_prefix hbegins hvs with h | h
  · exact h
  · by_cases heq : vs = visitsOf (p.walk goOn)
    · exact heq ▸ List.prefix_refl _
    · rw [walk_asked h heq] at hstop
      cases hstop

/-- A walk is cut short where it is first told to stop, and is the whole walk if that is nowhere. -/
theorem walk_cut (p : Package) (goOn : List Visit → Bool) :
    StopsAt goOn (visitsOf p.walkAll) (visitsOf (p.walk goOn)) ∨
      (∀ vs, vs <+: visitsOf p.walkAll → goOn vs = true) ∧ p.walk goOn = p.walkAll := by
  rcases p.walk_parts goOn with hsame | ⟨htold, hbegins⟩
  · by_cases hgo : ∀ vs, vs <+: visitsOf p.walkAll → goOn vs = true
    · exact .inr ⟨hgo, hsame⟩
    · -- told to stop somewhere, the walk still did everything: it was told so after the last visit
      obtain ⟨vs, hvs, hstop⟩ : ∃ vs, vs <+: visitsOf p.walkAll ∧ goOn vs = false := by
        simpa using hgo
      have hbegins : visitsOf (p.walk goOn) <+: visitsOf p.walkAll := hsame ▸ List.prefix_refl _
      have hall := walk_shortest hbegins hvs hstop
      obtain rfl : vs = visitsOf (p.walk goOn) :=
        (hsame ▸ hvs : vs <+: visitsOf (p.walk goOn)).eq_of_length_le hall.length_le
      exact .inl ⟨hvs, hstop, fun _ => walk_shortest hbegins⟩
  · exact .inl ⟨hbegins, htold, fun _ => walk_shortest hbegins⟩

/-- A limit on the number of visits lets the first ones through. -/
theorem visitsOf_walk_limit (p : Package) (n : Nat) :
    visitsOf (p.walk fun vs => vs.length < n) =
      (visitsOf p.walkAll).take (min n (visitsOf p.walkAll).length) := by
  rcases p.walk_cut fun vs => vs.length < n with h | ⟨hgo, hsame⟩
  · have htold : n ≤ (visitsOf (p.walk fun vs => vs.length < n)).length := by simpa using h.told
    have hlen := h.begins.length_le
    rw [Nat.min_eq_left (by omega)]
    have htake := h.shortest _ (List.take_prefix n _) (by simp; omega)
    refine htake.eq_of_length_le ?_
    rw [List.length_take]
    omega
  · have hlen : (visitsOf p.walkAll).length < n := by simpa using hgo _ (List.prefix_refl _)
    rw [hsame, Nat.min_eq_right (Nat.le_of_lt hlen), List.take_length]

/-- What stopping does to a walk, whatever the package and whatever stops it: the visits are the
shortest beginning of the visits of the whole walk at which the walk is told to stop, or all of them
if there is none; and what was entered is left all the same, the events nesting as ever. With a
limit on the number of visits the walk makes the first ones, as many as there are. -/
theorem walk_stops (p : Package) (goOn : List Visit → Bool) :
    (StopsAt goOn (visitsOf p.walkAll) (visitsOf (p.walk goOn)) ∨
      (∀ vs, vs <+: visitsOf p.walkAll → goOn vs = true) ∧ p.walk goOn = p.walkAll) ∧
    Nested (p.walk goOn) ∧
    (p.walk goOn).filterMap WalkEvent.entered? = (p.walk goOn).filterMap WalkEvent.owner? ∧
    ((p.walk goOn).filterMap WalkEvent.left?).Perm ((p.walk goOn).filterMap WalkEvent.owner?) ∧
    ∀ n, visitsOf (p.walk fun vs => vs.length < n) =
      (visitsOf p.walkAll).take (min n (visitsOf p.walkAll).length) :=
  have hnested := p.walk_nested goOn
  ⟨p.walk_cut goOn, hnested, hnested.entered, hnested.left, p.visitsOf_walk_limit⟩

/-- Goes on until a party has been visited. -/
def untilParty (vs : List Visit) : Bool := vs.all fun v => v.id ≠ ⟨1⟩

/-- The events of a walk that a party stops. -/
theorem walk_untilParty : ∃ root order party, tangle.walk untilParty =
    [.visit ⟨2⟩ root [], .enter root [],
      .visit ⟨0⟩ order ["Order"], .enter order ["Order"],
      .visit ⟨1⟩ party ["Order", "party"], .enter party ["Order", "party"],
      .leave party ["Order", "party"], .leave order ["Order"], .leave root []] :=
  ⟨tangle.classes[2], tangle.classes[0], tangle.classes[1], by cbv⟩

/-- Told to stop by the visit of a party, the walk visits nothing below the party and leaves the
three classes that it has entered. A limit of two cuts it one visit earlier, and a limit of nine not
at all. -/
theorem walk_stops_tangle :
    visitsOf (tangle.walk untilParty) =
      [⟨⟨2⟩, []⟩, ⟨⟨0⟩, ["Order"]⟩, ⟨⟨1⟩, ["Order", "party"]⟩] ∧
    StopsAt untilParty (visitsOf tangle.walkAll) (visitsOf (tangle.walk untilParty)) ∧
    ((tangle.walk untilParty).filterMap WalkEvent.left?).map Prod.snd =
      [["Order", "party"], ["Order"], []] ∧
    visitsOf (tangle.walk fun vs => vs.length < 2) = [⟨⟨2⟩, []⟩, ⟨⟨0⟩, ["Order"]⟩] ∧
    visitsOf (tangle.walk fun vs => vs.length < 9) = visitsOf tangle.walkAll := by
  obtain ⟨hcut, _, _, _, hlimit⟩ := tangle.walk_stops untilParty
  obtain ⟨root, order, party, hevents⟩ := walk_untilParty
  refine ⟨by rw [hevents]; rfl, ?_, by rw [hevents]; rfl, ?_, ?_⟩
  · rcases hcut with hstops | ⟨hgo, _⟩
    · exact hstops
    · have htold := hgo _ (List.prefix_refl _)
      rw [visitsOf_tangle] at htold
      exact absurd htold (by decide)
  · rw [hlimit, visitsOf_tangle]
    rfl
  · rw [hlimit, visitsOf_tangle]
    rfl

end Package

end EdiSchema
