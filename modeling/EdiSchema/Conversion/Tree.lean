import EdiSchema.Conversion.Field

/-!
# Groups and segments

Every group and every segment becomes a class, and each of its children becomes a feature of that
class, in source order: a simple field an attribute, all else a containment reference. The bounds of
a node stand on the reference to its class, since the class may be shared.

A node whose class name is registered uses the class as it is. Its children are not converted, but
the components below it are checked, so that a faulty component fails the conversion wherever it
stands.
-/

namespace EdiSchema

/-! ## Classes and references -/

/-- The class of a structural node before its features have been added. -/
def Header.bareClass (h : Header) : ClassDef where
  name := className h.tag
  contentKind := .elementOnly
  annotations :=
    ((Annotations.empty.annotate Key.documentation h.documentation).bind
      Binding.name (className h.tag)).bind
        Binding.kind ContentKind.elementOnly.name

/-- What is noted about a segment. -/
def Annotations.describeSegment (a : Annotations) (s : Signature) : Annotations :=
  (((((a.annotate Key.segmentCode (some s.code)).annotate
    Key.segmentPattern (some s.pattern.text)).annotate
    Key.truncatable (some (flagText s.truncatable))).annotate
    Key.ignoreUnmappedFields (some (flagText s.ignoreUnmappedFields))).annotate
    Key.description s.description).annotate
      Key.kind (some Kind.segment)

/-- The class of a segment before its features have been added. -/
def Header.segmentClass (h : Header) (s : Signature) : ClassDef :=
  { h.bareClass with annotations := h.bareClass.annotations.describeSegment s }

/-- The reference to the class of a group with the given children. -/
def Header.groupReference (h : Header) (children : List Node) (target : ClassId) : Reference where
  name := memberName h.tag
  target := target
  lowerBound := h.minOccurs
  upperBound := h.maxOccurs
  annotations :=
    ((((Annotations.empty.bindElement h.tag).annotate
      Key.minOccurs (some (decimal h.minOccurs))).annotate
      Key.maxOccurs (some h.maxOccurs.text)).annotate
      Key.kind (some Kind.segmentGroup)).annotate
        Key.segmentCode (Node.leadingCodeOf? children)

/-- The ASCII digit at the end of a text, if there is one. -/
def finalDigit? (s : String) : Option Char := s.toList.getLast?.filter Char.isDigit

/-- The name of the reference to a segment: its code, with the digit at the end of its member name
behind it. Occurrences such as `NAD` and `NAD2` in one group stay apart that way. A segment without
a code goes by its member name. -/
def segmentReferenceName (code member : String) : String :=
  if code.isEmpty then member
  else String.ofList (code.toList ++ (finalDigit? member).toList)

/-- The reference to the class of a segment. -/
def Header.segmentReference (h : Header) (s : Signature) (children : List Node)
    (target : ClassId) : Reference :=
  let group := h.groupReference children target
  { group with
    name := segmentReferenceName s.code group.name
    annotations :=
      (group.annotations.annotate Key.kind (some Kind.segment)).annotate
        Key.segmentCode (some s.code) }

/-! ## Checking -/

mutual

/-- Checks the components at or below a node in source order. -/
def Node.check : Node → Except ConversionError Unit
  | .group _ children => checkNodes children
  | .segment _ _ children => checkNodes children
  | .field leaf => checkComponents leaf.components

/-- Checks nodes one after the other. -/
def checkNodes : List Node → Except ConversionError Unit
  | [] => .ok ()
  | node :: rest =>
    match node.check with
    | .error e => .error e
    | .ok _ => checkNodes rest

end

/-! ## Converting -/

/-- Converts a structural node whose class would be `bare`. A class that may be used is used, and
then `checked` decides; otherwise `bare` is registered and `fill` adds its features. -/
def Registry.addStructure (r : Registry) (bare : ClassDef) (kind : String)
    (checked : Except ConversionError Unit) (fill : ClassId → Registry → Outcome Unit) :
    Outcome ClassId :=
  match r.resolve bare.name kind with
  | .error e => (.error e, r)
  | .ok (some id) => (checked.map fun _ => id, r)
  | .ok none =>
    match fill (r.register bare).1 (r.register bare).2 with
    | (.error e, r') => (.error e, r')
    | (.ok _, r') => (.ok (r.register bare).1, r')

mutual

/-- Converts a node to the feature that stands for it in the class of its parent. -/
def Node.toFeature : Node → Registry → Outcome Feature
  | .group h children, r =>
    match r.addStructure h.bareClass Kind.segmentGroup (checkNodes children)
        (addChildren children) with
    | (.error e, r') => (.error e, r')
    | (.ok id, r') => (.ok (.ref (h.groupReference children id)), r')
  | .segment h s children, r =>
    match r.addStructure (h.segmentClass s) Kind.segment (checkNodes children)
        (addChildren children) with
    | (.error e, r') => (.error e, r')
    | (.ok id, r') => (.ok (.ref (h.segmentReference s children id)), r')
  | .field leaf, r =>
    if leaf.isComposite then
      match r.addField leaf with
      | (.error e, r') => (.error e, r')
      | (.ok reference, r') => (.ok (.ref reference), r')
    else (leaf.toAttribute.map .attr, r)

/-- Converts the children of a class one after the other and adds their features to it. -/
def addChildren : List Node → ClassId → Registry → Outcome Unit
  | [], _, r => (.ok (), r)
  | node :: rest, id, r =>
    match node.toFeature r with
    | (.error e, r') => (.error e, r')
    | (.ok f, r') => addChildren rest id (r'.addFeature id f)

end

/-- Converts a group and all below it. -/
def Registry.addGroup (r : Registry) (g : Group) : Outcome ClassId :=
  r.addStructure g.header.bareClass Kind.segmentGroup (checkNodes g.children)
    (addChildren g.children)

/-- Converts a segment and all below it. -/
def Registry.addSegment (r : Registry) (s : Segment) : Outcome ClassId :=
  r.addStructure (s.header.segmentClass s.signature) Kind.segment (checkNodes s.children)
    (addChildren s.children)

end EdiSchema
