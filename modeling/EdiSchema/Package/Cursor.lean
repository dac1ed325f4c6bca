import EdiSchema.Text.Blank
import EdiSchema.Text.Pieces
import EdiSchema.Package.Basic

/-!
# Moving through a package

A cursor stands on a class of a package and remembers how it came there: the name of the class that
it started on, then the names of the references that it followed. That it stands on the class that
the package has under its id is part of the type.

`child` follows one reference. `navigate` follows the names in a path text one after the other,
passing over the empty pieces between slashes; a blank text is no path. What can become of a move is
listed by `Cursor.child_cases`, and where a row of moves fails is said by `Cursor.follow_error`.
-/

namespace EdiSchema

/-! ## Failures -/

/-- Why a cursor cannot be set or moved. -/
inductive NavigationError
  /-- The class does not exist. -/
  | classNotFound (shown : String)
  /-- The class at the end of the path has no such feature. -/
  | featureNotFound (path : List String)
  /-- The path ends in an attribute. -/
  | notAReference (path : List String)
  /-- The path text holds nothing but white space. -/
  | blankPath (text : String)
  deriving DecidableEq, Repr

/-- The names of a path with slashes between them. -/
def pathText (path : List String) : String := "/".intercalate path

/-- What is said about a failed move. -/
def NavigationError.message : NavigationError → String
  | .classNotFound shown => "Class not found: " ++ shown
  | .featureNotFound path => "Feature not found at path: " ++ pathText path
  | .notAReference path => "Feature at path '" ++ pathText path ++ "' is not a reference"
  | .blankPath text => "Invalid path '" ++ text ++ "': path is empty"

/-! ## Cursors -/

/-- A place in the package `p`. -/
structure Cursor (p : Package) where
  id : ClassId
  cls : ClassDef
  /-- The class name at the start and the references followed since. -/
  path : List String
  isClass : p.class? id = some cls

namespace Cursor

variable {p : Package}

/-- A cursor on the class at `id`. -/
def start (p : Package) (id : ClassId) : Except NavigationError (Cursor p) :=
  match h : p.class? id with
  | some cls => .ok ⟨id, cls, [cls.name], h⟩
  | none => .error (.classNotFound id.text)

/-- A cursor on the class that wraps the message. -/
def documentRoot (p : Package) : Except NavigationError (Cursor p) :=
  match p.documentRoot with
  | some id => start p id
  | none => .error (.classNotFound "DocumentRoot")

/-- Follows the reference of a name. -/
def child (c : Cursor p) (name : String) : Except NavigationError (Cursor p) :=
  match c.cls.feature? name with
  | some (.ref r) =>
    match h : p.class? r.target with
    | some cls => .ok ⟨r.target, cls, c.path ++ [name], h⟩
    | none => .error (.classNotFound r.target.text)
  | some (.attr _) => .error (.notAReference (c.path ++ [name]))
  | none => .error (.featureNotFound (c.path ++ [name]))

/-- The attribute of a name. -/
def attribute? (c : Cursor p) (name : String) : Except NavigationError Attribute :=
  match c.cls.feature? name with
  | some (.attr a) => .ok a
  | _ => .error (.featureNotFound (c.path ++ [name]))

/-- Follows references one after the other. -/
def follow (c : Cursor p) : List String → Except NavigationError (Cursor p)
  | [] => .ok c
  | name :: rest =>
    match c.child name with
    | .ok d => d.follow rest
    | .error e => .error e

/-- The names in a path text. -/
def pathNames (text : String) : List String :=
  (Text.words (· = '/') text.toList).map String.ofList

/-- Follows the references that a path text names. -/
def navigate (c : Cursor p) (text : String) : Except NavigationError (Cursor p) :=
  if Text.isBlank text then .error (.blankPath text) else c.follow (pathNames text)

/-! ## What can become of moves -/

/-- A move to a child finds a reference to a class, or fails for one of three reasons. -/
theorem child_cases (c : Cursor p) (name : String) :
    (∃ r d, c.cls.feature? name = some (.ref r) ∧ c.child name = .ok d ∧ d.id = r.target ∧
      d.path = c.path ++ [name]) ∨
    (∃ r, c.cls.feature? name = some (.ref r) ∧ p.class? r.target = none ∧
      c.child name = .error (.classNotFound r.target.text)) ∨
    (∃ a, c.cls.feature? name = some (.attr a) ∧
      c.child name = .error (.notAReference (c.path ++ [name]))) ∨
    (c.cls.feature? name = none ∧
      c.child name = .error (.featureNotFound (c.path ++ [name]))) := by
  unfold child
  cases hf : c.cls.feature? name with
  | none => exact .inr (.inr (.inr ⟨rfl, rfl⟩))
  | some f =>
    cases f with
    | attr a => exact .inr (.inr (.inl ⟨a, rfl, rfl⟩))
    | ref r =>
      dsimp only
      split
      · exact .inl ⟨r, _, rfl, rfl, rfl, rfl⟩
      · next hnone => exact .inr (.inl ⟨r, rfl, hnone, rfl⟩)

/-- A failure strikes at one name, after the names before it have been followed. -/
theorem follow_error {c : Cursor p} {names : List String} {e : NavigationError}
    (h : c.follow names = .error e) : ∃ before name after b, names = before ++ name :: after ∧
      c.follow before = .ok b ∧ b.child name = .error e := by
  induction names generalizing c with
  | nil => cases h
  | cons name names ih =>
    cases hchild : c.child name with
    | error e' =>
      rw [follow, hchild] at h
      cases h
      exact ⟨[], name, names, c, rfl, rfl, hchild⟩
    | ok d =>
      rw [follow, hchild] at h
      obtain ⟨before, next, after, b, rfl, hbefore, hnext⟩ := ih h
      refine ⟨name :: before, next, after, b, rfl, ?_, hnext⟩
      rw [follow, hchild]
      exact hbefore

/-- A text that is not blank is navigated by following its names. -/
theorem navigate_of_not_blank {text : String} (h : Text.isBlank text = false) (c : Cursor p) :
    c.navigate text = c.follow (pathNames text) := by
  rw [navigate, h]
  rfl

end Cursor

end EdiSchema
