import EdiSchema.Bound
import EdiSchema.Grammar.Pattern

/-!
# The tree of a message grammar

A grammar describes a message as a tree. Groups and segments are its structural nodes: both have a
tag, occurrence bounds and children in source order, and a segment has in addition the code and the
pattern by which it is recognised on the wire. Fields are the leaves. A field with components is
composite; components may have components of their own in a grammar, though no class can be made of
those.

`Group` and `Segment` are the structural nodes taken by themselves, as the root of a message or as
the subject of one conversion.
-/

namespace EdiSchema

/-! ## Leaves -/

/-- What fields and components say about their values. -/
structure ValueInfo where
  /-- The data type as the grammar names it. -/
  dataType : Option String := none
  /-- The abstract type that decides the type of the attribute. -/
  typeClass : Option String := none
  minLength : Option UInt32 := none
  maxLength : Option UInt32 := none
  documentation : Option String := none
  deriving DecidableEq, Repr, Inhabited

/-- A part of a composite field. -/
structure Component where
  tag : String
  required : Bool := false
  truncatable : Bool := false
  value : ValueInfo := {}
  subComponents : List Component := []
  deriving Repr, Inhabited

/-- A field of a segment or group. -/
structure Field where
  tag : String
  required : Bool := false
  truncatable : Bool := false
  /-- The type definition that the field was declared against. -/
  typeRef : Option String := none
  value : ValueInfo := {}
  /-- In source order; empty for a simple field. -/
  components : List Component := []
  deriving Repr, Inhabited

/-- A field is composite when it has components. -/
def Field.isComposite (f : Field) : Bool := !f.components.isEmpty

/-! ## Structural nodes -/

/-- What groups and segments have in common, children apart. -/
structure Header where
  tag : String
  documentation : Option String := none
  minOccurs : UInt32 := 1
  maxOccurs : UpperBound := .bounded 1
  deriving DecidableEq, Repr, Inhabited

/-- What makes a structural node a segment. -/
structure Signature where
  /-- The segment code, `NAD` for instance. -/
  code : String
  /-- Matches the start of a segment with this code. -/
  pattern : Pattern
  /-- Whether empty fields at the end may be left out. -/
  truncatable : Bool := false
  /-- Whether more fields than the declared ones are let through. -/
  ignoreUnmappedFields : Bool := false
  description : Option String := none
  deriving DecidableEq, Repr, Inhabited

/-- A node of the tree. -/
inductive Node
  | group (header : Header) (children : List Node)
  | segment (header : Header) (signature : Signature) (children : List Node)
  | field (leaf : Field)
  deriving Repr, Inhabited

/-- A group by itself. -/
structure Group where
  header : Header
  children : List Node := []
  deriving Repr, Inhabited

/-- A segment by itself. -/
structure Segment where
  header : Header
  signature : Signature
  children : List Node := []
  deriving Repr, Inhabited

/-- The signature of a new segment, whose pattern comes from its code; none when the pattern would
be too large. -/
def Signature.ofCode? (code : String) : Option Signature :=
  (Pattern.ofCode? code).map fun pattern => ⟨code, pattern, false, false, none⟩

namespace Node

def ofGroup (g : Group) : Node := .group g.header g.children

def ofSegment (s : Segment) : Node := .segment s.header s.signature s.children

def tag : Node → String
  | .group header _ => header.tag
  | .segment header _ _ => header.tag
  | .field leaf => leaf.tag

mutual

/-- The code of the first segment that a walk in source order meets at the node or below it. A
segment answers with its own code and is not entered. -/
def leadingCode? : Node → Option String
  | .group _ children => leadingCodeOf? children
  | .segment _ signature _ => some signature.code
  | .field _ => none

/-- The leading code of the first node that has one. -/
def leadingCodeOf? : List Node → Option String
  | [] => none
  | node :: rest => node.leadingCode?.or (leadingCodeOf? rest)

end

end Node

/-- The code by which a group is recognised on the wire. -/
def Group.segmentCode? (g : Group) : Option String := Node.leadingCodeOf? g.children

end EdiSchema
