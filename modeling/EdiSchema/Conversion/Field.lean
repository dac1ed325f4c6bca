import EdiSchema.Grammar.Node
import EdiSchema.Conversion.Name
import EdiSchema.Conversion.ValueType
import EdiSchema.Conversion.Registry

/-!
# Fields and components

A component becomes an attribute of the type it names, and a simple field becomes an attribute that
holds text. A composite field becomes a reference to a class made for it, with one attribute for
each component; of components whose names come out alike the first one counts. The class is named
after the tag and the type definition of the field, so fields of one tag that are declared against
different types have different classes, and fields that agree in both share one.

A field that shares a class has its components checked all the same. So whether a field converts,
and with what failure, never depends on what was registered before, conflicts of names apart.
-/

namespace EdiSchema

/-! ## Annotations -/

/-- What is noted about the values of an element. -/
def Annotations.describeValue (a : Annotations) (value : ValueInfo) : Annotations :=
  ((a.annotate Key.dataType value.dataType).annotate
    Key.maxLength (value.maxLength.map decimal)).annotate
      Key.minLength (value.minLength.map decimal)

/-- What is noted about a leaf of the given kind, its documentation apart. -/
def Annotations.describeLeaf (a : Annotations) (kind : String) (truncatable required : Bool)
    (value : ValueInfo) : Annotations :=
  (((a.annotate Key.truncatable (some (flagText truncatable))).annotate
    Key.required (some (flagText required))).annotate
      Key.kind (some kind)).describeValue value

/-- What is noted about a field. -/
def Annotations.describeField (a : Annotations) (f : Field) : Annotations :=
  a.describeLeaf Kind.field f.truncatable f.required f.value

/-- What is required has at least one value. -/
def lowerBoundOf (required : Bool) : UInt32 := if required then 1 else 0

/-! ## Attributes -/

/-- The attribute of a component whose type is known. -/
def Component.attributeOfType (c : Component) (dataType : PrimitiveType) : Attribute where
  name := memberName c.tag
  lowerBound := lowerBoundOf c.required
  dataType := dataType
  annotations :=
    ((Annotations.empty.describeLeaf Kind.component c.truncatable c.required c.value).annotate
      Key.documentation c.value.documentation).bindElement c.tag

/-- The attribute of a component. -/
def Component.toAttribute (c : Component) : Except ConversionError Attribute :=
  if c.subComponents.isEmpty then
    (primitiveType c.value.typeClass).map c.attributeOfType
  else .error (.unsupportedStructure c.tag)

/-- The text attribute of a field. -/
def Field.textAttribute (f : Field) : Attribute where
  name := memberName f.tag
  lowerBound := lowerBoundOf f.required
  dataType := .string
  annotations := (Annotations.empty.bindElement f.tag).describeField f

/-- The attribute of a simple field. -/
def Field.toAttribute (f : Field) : Except ConversionError Attribute :=
  if f.isComposite then .error (.invalidConversion f.tag) else .ok f.textAttribute

/-! ## Classes of composite fields -/

/-- The name of the class made for a field. -/
def Field.className (f : Field) : String :=
  match f.typeRef with
  | none => EdiSchema.className f.tag
  | some typeRef => EdiSchema.className f.tag ++ "_" ++ typeRef

/-- Checks that every component can become an attribute. -/
def checkComponents : List Component → Except ConversionError Unit
  | [] => .ok ()
  | c :: rest =>
    match c.toAttribute with
    | .error e => .error e
    | .ok _ => checkComponents rest

/-- Adds the attributes of components to a class, passing over names that it has. -/
def addComponents (cls : ClassDef) : List Component → Except ConversionError ClassDef
  | [] => .ok cls
  | c :: rest =>
    match c.toAttribute with
    | .error e => .error e
    | .ok a => addComponents (if cls.hasFeature a.name then cls else cls.addFeature (.attr a)) rest

/-- The class of a field before its components have been added. -/
def Field.bareClass (f : Field) : ClassDef where
  name := f.className
  contentKind := .elementOnly
  annotations :=
    ((((Annotations.empty.annotate Key.documentation f.value.documentation).bind
      Binding.name f.className).bind
      Binding.kind ContentKind.elementOnly.name).annotate
      Key.kind (some Kind.field)).describeValue f.value

/-- The class made for a field. -/
def Field.toClass (f : Field) : Except ConversionError ClassDef :=
  addComponents f.bareClass f.components

/-- The reference to the class of a field. -/
def Field.referenceTo (f : Field) (target : ClassId) : Reference where
  name := memberName f.tag
  target := target
  lowerBound := lowerBoundOf f.required
  annotations :=
    ((Annotations.empty.describeField f).annotate
      Key.documentation f.value.documentation).bindElement f.tag

/-- Converts a composite field to a reference. Its class is registered once all of its components
have converted. -/
def Registry.addField (r : Registry) (f : Field) : Outcome Reference :=
  match r.resolve f.className Kind.field with
  | .error e => (.error e, r)
  | .ok (some id) => ((checkComponents f.components).map fun _ => f.referenceTo id, r)
  | .ok none =>
    match f.toClass with
    | .error e => (.error e, r)
    | .ok cls => (.ok (f.referenceTo (r.register cls).1), (r.register cls).2)

end EdiSchema
