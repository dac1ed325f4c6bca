import EdiSchema.OrderedMap
import EdiSchema.Package.Basic
import EdiSchema.Conversion.Error

/-!
# The registry of a conversion

While a grammar is converted, every class is registered under its name, so that each name stands for
one class. The registry holds the package that grows, an index of names, and the policy for names
that belong to a class of another kind. Where the package that it starts from has several classes of
one name, the index names the last of them.

Nothing that is registered is taken back. A conversion that fails leaves behind what it had
registered by then, so its outcome is a result together with a registry.
-/

namespace EdiSchema

/-- What to do when a name belongs to a class of another kind. -/
inductive ConflictPolicy
  /-- The conversion fails. -/
  | fail
  /-- The class that has the name is used. -/
  | reuseFirst
  deriving DecidableEq, Repr

instance : Inhabited ConflictPolicy := ⟨.fail⟩

/-- Classes under construction, found by name. -/
structure Registry where
  package : Package
  index : OrderedMap String ClassId
  policy : ConflictPolicy
  deriving DecidableEq

/-- What a conversion comes to, and the registry that it leaves. -/
abbrev Outcome (α : Type) := Except ConversionError α × Registry

namespace Registry

/-- A registry over the classes that a package has. -/
def ofPackage (package : Package) (policy : ConflictPolicy) : Registry :=
  { package
    index := OrderedMap.ofList (package.identified.map fun e => (e.2.name, e.1))
    policy }

/-- The class registered under a name. -/
def get? (r : Registry) (name : String) : Option ClassId := r.index.get? name

def contains (r : Registry) (name : String) : Bool := r.index.contains name

/-- The class at an id. -/
def class? (r : Registry) (id : ClassId) : Option ClassDef := r.package.class? id

/-- How many names are registered. -/
def size (r : Registry) : Nat := r.index.size

def isEmpty (r : Registry) : Bool := r.index.isEmpty

/-- The kind of the class at an id. -/
def kindOf (r : Registry) (id : ClassId) : String :=
  ((r.class? id).map ClassDef.kind).getD Kind.segmentGroup

/-- The class that a node of the given kind may use under a name. A class of another kind is used
or refused as the policy says. -/
def resolve (r : Registry) (name kind : String) : Except ConversionError (Option ClassId) :=
  match r.get? name with
  | none => .ok none
  | some id =>
    if r.kindOf id = kind then .ok (some id)
    else
      match r.policy with
      | .reuseFirst => .ok (some id)
      | .fail => .error (.classNameConflict name (r.kindOf id) kind)

/-- Adds a class under its name, unless there is one; either way, the class of that name. -/
def register (r : Registry) (c : ClassDef) : ClassId × Registry :=
  match r.get? c.name with
  | some id => (id, r)
  | none =>
    (r.package.nextId,
      { r with
        package := r.package.addClass c
        index := r.index.insert c.name r.package.nextId })

/-- Adds a feature to the class at an id, if there is one. -/
def addFeature (r : Registry) (id : ClassId) (f : Feature) : Registry :=
  { r with package := r.package.addFeature id f }

end Registry

end EdiSchema
