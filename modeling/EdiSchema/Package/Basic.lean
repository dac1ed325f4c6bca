import EdiSchema.Bound
import EdiSchema.Package.Annotations

/-!
# Packages of classes

A package is an object schema: a list of classes, each with a list of features. A feature is an
attribute of a primitive type or a reference to a class of the same package. References name their
class by its place in the list, so a class that several references share is there once; a place
past the end is allowed and simply names no class.

Classes are only ever added at the end, and a feature is only ever added behind the features of its
class. An id therefore keeps its meaning for good.
-/

namespace EdiSchema

/-- The place of a class in its package. -/
structure ClassId where
  index : Nat
  deriving DecidableEq, Repr, Inhabited

/-- Ids are shown with a hash mark. -/
def ClassId.text (id : ClassId) : String := "#" ++ Nat.repr id.index

/-- The types of attributes. -/
inductive PrimitiveType
  | string
  /-- Signed integers of 64 bits. -/
  | long
  /-- Decimals of any precision. -/
  | decimal
  | float
  deriving DecidableEq, Repr, Inhabited

namespace PrimitiveType

/-- The name of the type in its namespace. -/
def name : PrimitiveType → String
  | .string => "string"
  | .long => "long"
  | .decimal => "decimal"
  | .float => "float"

/-- The namespace of all four types. -/
def namespaceUri : String := "http://www.eclipse.org/emf/2003/XMLType"

end PrimitiveType

/-- What the elements of a class may contain. -/
inductive ContentKind
  /-- Child elements and no text. -/
  | elementOnly
  /-- Child elements with text between them. -/
  | mixed
  deriving DecidableEq, Repr, Inhabited

/-- The kind as a binding names it. -/
def ContentKind.name : ContentKind → String
  | .elementOnly => "elementOnly"
  | .mixed => "mixed"

/-- A feature whose values are instances of a class. -/
structure Reference where
  name : String
  target : ClassId
  /-- Whether the instance that refers owns the one referred to. -/
  containment : Bool := true
  lowerBound : UInt32 := 0
  upperBound : UpperBound := .bounded 1
  annotations : Annotations := .empty
  deriving DecidableEq, Inhabited

/-- A feature with at most one value of a primitive type. -/
structure Attribute where
  name : String
  lowerBound : UInt32 := 0
  dataType : PrimitiveType
  annotations : Annotations := .empty
  deriving DecidableEq, Inhabited

/-- A feature of a class. -/
inductive Feature
  | ref (r : Reference)
  | attr (a : Attribute)
  deriving DecidableEq, Inhabited

/-- Attributes have at most one value. -/
def Attribute.upperBound (_ : Attribute) : UpperBound := .bounded 1

namespace Feature

def name : Feature → String
  | .ref r => r.name
  | .attr a => a.name

def lowerBound : Feature → UInt32
  | .ref r => r.lowerBound
  | .attr a => a.lowerBound

def upperBound : Feature → UpperBound
  | .ref r => r.upperBound
  | .attr a => a.upperBound

def annotations : Feature → Annotations
  | .ref r => r.annotations
  | .attr a => a.annotations

/-- Puts other annotations on a feature. -/
def withAnnotations (annotations : Annotations) : Feature → Feature
  | .ref r => .ref { r with annotations }
  | .attr a => .attr { a with annotations }

def asReference? : Feature → Option Reference
  | .ref r => some r
  | .attr _ => none

def asAttribute? : Feature → Option Attribute
  | .ref _ => none
  | .attr a => some a

end Feature

/-- A class with its features in order. -/
structure ClassDef where
  name : String
  contentKind : ContentKind := .elementOnly
  annotations : Annotations := .empty
  features : List Feature := []
  deriving DecidableEq, Inhabited

namespace ClassDef

/-- The first feature of a name. -/
def feature? (c : ClassDef) (name : String) : Option Feature :=
  c.features.find? fun f => f.name = name

def hasFeature (c : ClassDef) (name : String) : Bool := (c.feature? name).isSome

def references (c : ClassDef) : List Reference := c.features.filterMap Feature.asReference?

def attributes (c : ClassDef) : List Attribute := c.features.filterMap Feature.asAttribute?

/-- The references whose targets the class owns. -/
def containments (c : ClassDef) : List Reference := c.references.filter (·.containment)

theorem mem_containments {c : ClassDef} {r : Reference} :
    r ∈ c.containments ↔ r ∈ c.references ∧ r.containment = true :=
  List.mem_filter

/-- A class has nothing to own exactly when none of its references owns. -/
theorem containments_eq_nil_iff {c : ClassDef} :
    c.containments = [] ↔ ∀ r ∈ c.references, r.containment = false := by
  unfold containments
  simp

/-- Adds a feature behind the others. -/
def addFeature (c : ClassDef) (f : Feature) : ClassDef := { c with features := c.features ++ [f] }

/-- The kind of node that the class stands for. Classes of groups carry no mark. -/
def kind (c : ClassDef) : String := (c.annotations.mapping? Key.kind).getD Kind.segmentGroup

end ClassDef

/-- A package. -/
structure Package where
  name : String
  nsPrefix : String
  nsUri : Option String := none
  annotations : Annotations := .empty
  classes : List ClassDef := []
  /-- The class of the message itself. -/
  root : Option ClassId := none
  /-- The class that wraps the message. -/
  documentRoot : Option ClassId := none
  deriving DecidableEq, Inhabited

namespace Package

/-- A package without classes, whose prefix is its name. -/
def named (name : String) : Package := { name, nsPrefix := name }

def class? (p : Package) (id : ClassId) : Option ClassDef := p.classes[id.index]?

/-- The id that the next class will get. -/
def nextId (p : Package) : ClassId := ⟨p.classes.length⟩

/-- Adds a class at the end. -/
def addClass (p : Package) (c : ClassDef) : Package := { p with classes := p.classes ++ [c] }

/-- Changes the class at `id`, if there is one. -/
def modifyClass (p : Package) (id : ClassId) (f : ClassDef → ClassDef) : Package :=
  { p with classes := p.classes.modify id.index f }

/-- Adds a feature to the class at `id`, if there is one. -/
def addFeature (p : Package) (id : ClassId) (f : Feature) : Package :=
  p.modifyClass id (·.addFeature f)

/-- The id of the first class of a name. -/
def classId? (p : Package) (name : String) : Option ClassId :=
  (p.classes.findIdx? fun c => c.name = name).map ClassId.mk

/-- The first class of a name. -/
def classNamed? (p : Package) (name : String) : Option ClassDef :=
  p.classes.find? fun c => c.name = name

/-- Classes with their ids, in order. -/
def identified (p : Package) : List (ClassId × ClassDef) :=
  p.classes.zipIdx.map fun e => (⟨e.2⟩, e.1)

/-- The class of the message, if `root` names one. -/
def rootClass? (p : Package) : Option ClassDef := p.root.bind p.class?

/-- The class that wraps the message, if `documentRoot` names one. -/
def documentRootClass? (p : Package) : Option ClassDef := p.documentRoot.bind p.class?

/-- A new class is found under the id that was next. -/
theorem class?_addClass (p : Package) (c : ClassDef) (id : ClassId) :
    (p.addClass c).class? id = if id = p.nextId then some c else p.class? id := by
  obtain ⟨i⟩ := id
  simp only [class?, addClass, nextId, ClassId.mk.injEq]
  rcases Nat.lt_trichotomy i p.classes.length with h | h | h
  · rw [List.getElem?_append_left h, if_neg (Nat.ne_of_lt h)]
  · subst h; simp
  · rw [List.getElem?_append_right (Nat.le_of_lt h), if_neg (Nat.ne_of_gt h),
      List.getElem?_eq_none (Nat.le_of_lt h), List.getElem?_eq_none (by simp; omega)]

/-- A change concerns one class. -/
theorem class?_modifyClass (p : Package) (id k : ClassId) (f : ClassDef → ClassDef) :
    (p.modifyClass id f).class? k =
      if k = id then (p.class? k).map f else p.class? k := by
  obtain ⟨i⟩ := id
  obtain ⟨j⟩ := k
  simp only [class?, modifyClass, List.getElem?_modify, ClassId.mk.injEq]
  by_cases h : i = j
  · simp [h]
  · simp [h, Ne.symm h]

end Package

end EdiSchema
