import EdiSchema.Package.Basic

/-!
# Walking a package

A walk visits the classes that can be reached from the document root along containment references,
depth first, each class once, however many references share it and whatever cycles they close. A
class that owns others is entered after its visit and left when all below it has been seen. The path
of an event holds the names of the references that led to the class.

The walk is told after every visit whether to go on. Once it is told to stop it visits nothing more,
and leaves what it has entered.

The work ahead is a list of steps. Each step either makes the list shorter or visits a class that
was not seen before, and a package has finitely many of those; no bound has to be given.
-/

namespace EdiSchema

/-- A visit that was made. -/
structure Visit where
  id : ClassId
  path : List String
  deriving DecidableEq, Repr

/-- What happens on a walk. -/
inductive WalkEvent
  | visit (id : ClassId) (cls : ClassDef) (path : List String)
  /-- The references of a class are about to be followed. -/
  | enter (cls : ClassDef) (path : List String)
  /-- The references of a class have been followed. -/
  | leave (cls : ClassDef) (path : List String)
  deriving DecidableEq

/-- Work that lies ahead on a walk. -/
inductive WalkStep
  | follow (id : ClassId) (path : List String)
  | leave (cls : ClassDef) (path : List String)
  deriving DecidableEq

namespace Package

/-- How many classes are not among those seen. -/
def unseen (p : Package) (seen : List ClassId) : Nat :=
  (List.range p.classes.length).countP fun i => ⟨i⟩ ∉ seen

/-- Of any places, no more are unseen when more has been seen. -/
theorem countP_not_mem_mono {seen seen' : List ClassId} (h : seen ⊆ seen') (is : List Nat) :
    is.countP (fun i => decide (⟨i⟩ ∉ seen')) ≤ is.countP fun i => decide (⟨i⟩ ∉ seen) := by
  apply List.countP_mono_left
  intro i _ hi
  simp only [decide_eq_true_eq] at hi ⊢
  exact fun hmem => hi (h hmem)

/-- Seeing more leaves no more unseen. -/
theorem unseen_mono (p : Package) {seen seen' : List ClassId} (h : seen ⊆ seen') :
    p.unseen seen' ≤ p.unseen seen :=
  countP_not_mem_mono h _

/-- Seeing a class for the first time leaves fewer unseen. -/
theorem unseen_cons_lt (p : Package) {id : ClassId} {seen : List ClassId} {cls : ClassDef}
    (hc : p.class? id = some cls) (hs : id ∉ seen) : p.unseen (id :: seen) < p.unseen seen := by
  have hlt : id.index < p.classes.length := (List.getElem?_eq_some_iff.mp hc).1
  obtain ⟨before, after, happ⟩ := List.append_of_mem (List.mem_range.mpr hlt)
  have h1 := countP_not_mem_mono (List.subset_cons_self id seen) before
  have h2 := countP_not_mem_mono (List.subset_cons_self id seen) after
  have hin : decide ((⟨id.index⟩ : ClassId) ∉ id :: seen) = false := by simp
  have hout : decide ((⟨id.index⟩ : ClassId) ∉ seen) = true := by simpa using hs
  simp only [unseen, happ, List.countP_append, List.countP_cons, hin, hout, if_true,
    Bool.false_eq_true, if_false]
  omega

/-- The steps below a class: its containment references in order, then the way out. -/
def stepsBelow (cls : ClassDef) (path : List String) : List WalkStep :=
  cls.containments.map (fun r => .follow r.target (path ++ [r.name])) ++ [.leave cls path]

/-- Does the steps ahead, given the ids seen and the visits made. -/
def walkSteps (p : Package) (goOn : List Visit → Bool) (seen : List ClassId)
    (visits : List Visit) : List WalkStep → List WalkEvent
  | [] => []
  | .leave cls path :: rest => .leave cls path :: p.walkSteps goOn seen visits rest
  | .follow id path :: rest =>
    if _hs : goOn visits = false ∨ id ∈ seen then
      p.walkSteps goOn seen visits rest
    else
      match hc : p.class? id with
      | none => p.walkSteps goOn (id :: seen) visits rest
      | some cls =>
        .visit id cls path ::
          if cls.containments.isEmpty then
            p.walkSteps goOn (id :: seen) (visits ++ [⟨id, path⟩]) rest
          else
            .enter cls path ::
              p.walkSteps goOn (id :: seen) (visits ++ [⟨id, path⟩]) (stepsBelow cls path ++ rest)
termination_by steps => (p.unseen seen, steps.length)
decreasing_by
  · exact Prod.Lex.right _ (Nat.lt_succ_self _)
  · exact Prod.Lex.right _ (Nat.lt_succ_self _)
  · rcases Nat.lt_or_eq_of_le (p.unseen_mono (List.subset_cons_self id seen)) with h | h
    · exact Prod.Lex.left _ _ h
    · rw [h]
      exact Prod.Lex.right _ (Nat.lt_succ_self _)
  · exact Prod.Lex.left _ _ (p.unseen_cons_lt hc fun hm => _hs (.inr hm))
  · exact Prod.Lex.left _ _ (p.unseen_cons_lt hc fun hm => _hs (.inr hm))

/-- The events of a walk from the document root, which goes on while `goOn` holds of the visits
made so far. -/
def walk (p : Package) (goOn : List Visit → Bool) : List WalkEvent :=
  match p.documentRoot with
  | none => []
  | some id => p.walkSteps goOn [] [] [.follow id []]

/-- The events of a walk that nothing stops. -/
def walkAll (p : Package) : List WalkEvent := p.walk fun _ => true

end Package

namespace WalkEvent

/-- The visit that an event makes, if it is one. -/
def visit? : WalkEvent → Option Visit
  | .visit id _ path => some ⟨id, path⟩
  | .enter _ _ => none
  | .leave _ _ => none

/-- The class that an event visits, if it is a visit. -/
def visited? : WalkEvent → Option ClassDef
  | .visit _ cls _ => some cls
  | .enter _ _ => none
  | .leave _ _ => none

end WalkEvent

end EdiSchema
