import EdiSchema.Json.Decode
import EdiSchema.Json.Render
import EdiSchema.Package.Basic

/-!
# Packages in JSON

Each type of the schema has a JSON form: `encode` writes it and `decode` reads it. Records are
written as objects with all their fields in a fixed order, ids and counts as numbers, and choices by
the names of their variants. Fields that are not known are passed over when a record is read, and
the fields that may be null may be missing.
-/

namespace EdiSchema

open Json (Value Decoded)

/-! ## Annotations -/

namespace AnnotationMap

def encodeDetails (entries : List (String × String)) : Value :=
  .record (entries.map fun e => (e.1, .string e.2))

def encode (m : AnnotationMap) : Value :=
  .record [("source", .string m.source), ("details", encodeDetails m.details.entries)]

/-- Details in the order of their keys; a repeated key keeps its place and takes the later text. -/
def decodeDetails : Value → Decoded (OrderedMap String String)
  | .object members closed =>
    (Json.foldMembers (fun d key v => (Json.asString v).map (d.insert key)) OrderedMap.empty
      members).bind (ifClosed closed)
  | _ => .error .malformed

/-- Fields read so far. -/
structure Draft where
  source : Option String := none
  details : Option (OrderedMap String String) := none

def take (s : Draft) (key : String) (v : Value) : Decoded Draft :=
  match key with
  | "source" => (Json.fill "source" Json.asString v s.source).map fun x => { s with source := x }
  | "details" => (Json.fill "details" decodeDetails v s.details).map fun x => { s with details := x }
  | _ => .ok s

def decode (v : Value) : Decoded AnnotationMap := do
  let s ← Json.gather ["source", "details"] take {} v
  return { source := ← Json.need "source" s.source, details := ← Json.need "details" s.details }

end AnnotationMap

namespace Annotations

def encode (a : Annotations) : Value := .list (a.maps.map AnnotationMap.encode)

def decode (v : Value) : Decoded Annotations := (Json.asList AnnotationMap.decode v).map mk

end Annotations

/-! ## Ids, bounds and types -/

/-- Ids of more than sixty-four bits are not read. -/
def idLimit : Nat := UInt64.size

namespace ClassId

def encode (id : ClassId) : Value := .natural id.index

def decode (v : Value) : Decoded ClassId := (Json.asNatural idLimit v).map mk

end ClassId

/-- A count as a number. -/
def encodeCount (n : UInt32) : Value := .natural n.toNat

namespace UpperBound

def encode : UpperBound → Value
  | .bounded limit => .record [("Bounded", encodeCount limit)]
  | .unbounded => .string "Unbounded"

def decode : Value → Decoded UpperBound :=
  Json.choose ["Bounded", "Unbounded"]
    (fun name => if name = "Unbounded" then some .unbounded else none)
    fun name v =>
      if name = "Unbounded" then (Json.asNull v).map fun _ => .unbounded
      else (Json.asUInt32 v).map .bounded

end UpperBound

namespace PrimitiveType

/-- The name of the type in JSON. -/
def code : PrimitiveType → String
  | .string => "String"
  | .long => "Long"
  | .decimal => "Decimal"
  | .float => "Float"

def encode (t : PrimitiveType) : Value := .string t.code

def decode : Value → Decoded PrimitiveType :=
  Json.chooseName [("String", .string), ("Long", .long), ("Decimal", .decimal), ("Float", .float)]

end PrimitiveType

namespace ContentKind

/-- The name of the kind in JSON. -/
def code : ContentKind → String
  | .elementOnly => "ElementOnly"
  | .mixed => "Mixed"

def encode (k : ContentKind) : Value := .string k.code

def decode : Value → Decoded ContentKind :=
  Json.chooseName [("ElementOnly", .elementOnly), ("Mixed", .mixed)]

end ContentKind

/-! ## Features -/

namespace Reference

def encode (r : Reference) : Value :=
  .record [
    ("name", .string r.name),
    ("target", r.target.encode),
    ("containment", .bool r.containment),
    ("lower_bound", encodeCount r.lowerBound),
    ("upper_bound", r.upperBound.encode),
    ("annotations", r.annotations.encode)]

/-- Fields read so far. -/
structure Draft where
  name : Option String := none
  target : Option ClassId := none
  containment : Option Bool := none
  lowerBound : Option UInt32 := none
  upperBound : Option UpperBound := none
  annotations : Option Annotations := none

def take (s : Draft) (key : String) (v : Value) : Decoded Draft :=
  match key with
  | "name" => (Json.fill "name" Json.asString v s.name).map fun x => { s with name := x }
  | "target" => (Json.fill "target" ClassId.decode v s.target).map fun x => { s with target := x }
  | "containment" =>
    (Json.fill "containment" Json.asBool v s.containment).map fun x => { s with containment := x }
  | "lower_bound" =>
    (Json.fill "lower_bound" Json.asUInt32 v s.lowerBound).map fun x => { s with lowerBound := x }
  | "upper_bound" =>
    (Json.fill "upper_bound" UpperBound.decode v s.upperBound).map fun x =>
      { s with upperBound := x }
  | "annotations" =>
    (Json.fill "annotations" Annotations.decode v s.annotations).map fun x =>
      { s with annotations := x }
  | _ => .ok s

def fields : List String :=
  ["name", "target", "containment", "lower_bound", "upper_bound", "annotations"]

def decode (v : Value) : Decoded Reference := do
  let s ← Json.gather fields take {} v
  return {
    name := ← Json.need "name" s.name
    target := ← Json.need "target" s.target
    containment := ← Json.need "containment" s.containment
    lowerBound := ← Json.need "lower_bound" s.lowerBound
    upperBound := ← Json.need "upper_bound" s.upperBound
    annotations := ← Json.need "annotations" s.annotations }

end Reference

namespace Attribute

def encode (a : Attribute) : Value :=
  .record [
    ("name", .string a.name),
    ("lower_bound", encodeCount a.lowerBound),
    ("data_type", a.dataType.encode),
    ("annotations", a.annotations.encode)]

/-- Fields read so far. -/
structure Draft where
  name : Option String := none
  lowerBound : Option UInt32 := none
  dataType : Option PrimitiveType := none
  annotations : Option Annotations := none

def take (s : Draft) (key : String) (v : Value) : Decoded Draft :=
  match key with
  | "name" => (Json.fill "name" Json.asString v s.name).map fun x => { s with name := x }
  | "lower_bound" =>
    (Json.fill "lower_bound" Json.asUInt32 v s.lowerBound).map fun x => { s with lowerBound := x }
  | "data_type" =>
    (Json.fill "data_type" PrimitiveType.decode v s.dataType).map fun x => { s with dataType := x }
  | "annotations" =>
    (Json.fill "annotations" Annotations.decode v s.annotations).map fun x =>
      { s with annotations := x }
  | _ => .ok s

def fields : List String := ["name", "lower_bound", "data_type", "annotations"]

def decode (v : Value) : Decoded Attribute := do
  let s ← Json.gather fields take {} v
  return {
    name := ← Json.need "name" s.name
    lowerBound := ← Json.need "lower_bound" s.lowerBound
    dataType := ← Json.need "data_type" s.dataType
    annotations := ← Json.need "annotations" s.annotations }

end Attribute

namespace Feature

def encode : Feature → Value
  | .ref r => .record [("Reference", r.encode)]
  | .attr a => .record [("Attribute", a.encode)]

def decode : Value → Decoded Feature :=
  Json.choose ["Reference", "Attribute"] (fun _ => none) fun name v =>
    if name = "Reference" then (Reference.decode v).map .ref else (Attribute.decode v).map .attr

end Feature

/-! ## Classes -/

namespace ClassDef

def encode (c : ClassDef) : Value :=
  .record [
    ("name", .string c.name),
    ("content_kind", c.contentKind.encode),
    ("annotations", c.annotations.encode),
    ("features", .list (c.features.map Feature.encode))]

/-- Fields read so far. -/
structure Draft where
  name : Option String := none
  contentKind : Option ContentKind := none
  annotations : Option Annotations := none
  features : Option (List Feature) := none

def take (s : Draft) (key : String) (v : Value) : Decoded Draft :=
  match key with
  | "name" => (Json.fill "name" Json.asString v s.name).map fun x => { s with name := x }
  | "content_kind" =>
    (Json.fill "content_kind" ContentKind.decode v s.contentKind).map fun x =>
      { s with contentKind := x }
  | "annotations" =>
    (Json.fill "annotations" Annotations.decode v s.annotations).map fun x =>
      { s with annotations := x }
  | "features" =>
    (Json.fill "features" (Json.asList Feature.decode) v s.features).map fun x =>
      { s with features := x }
  | _ => .ok s

def fields : List String := ["name", "content_kind", "annotations", "features"]

def decode (v : Value) : Decoded ClassDef := do
  let s ← Json.gather fields take {} v
  return {
    name := ← Json.need "name" s.name
    contentKind := ← Json.need "content_kind" s.contentKind
    annotations := ← Json.need "annotations" s.annotations
    features := ← Json.need "features" s.features }

end ClassDef

/-! ## Packages -/

namespace Package

def encode (p : Package) : Value :=
  .record [
    ("name", .string p.name),
    ("ns_prefix", .string p.nsPrefix),
    ("ns_uri", .optional (p.nsUri.map .string)),
    ("annotations", p.annotations.encode),
    ("classes", .list (p.classes.map ClassDef.encode)),
    ("root", .optional (p.root.map ClassId.encode)),
    ("document_root", .optional (p.documentRoot.map ClassId.encode))]

/-- Fields read so far. -/
structure Draft where
  name : Option String := none
  nsPrefix : Option String := none
  nsUri : Option (Option String) := none
  annotations : Option Annotations := none
  classes : Option (List ClassDef) := none
  root : Option (Option ClassId) := none
  documentRoot : Option (Option ClassId) := none

def take (s : Draft) (key : String) (v : Value) : Decoded Draft :=
  match key with
  | "name" => (Json.fill "name" Json.asString v s.name).map fun x => { s with name := x }
  | "ns_prefix" =>
    (Json.fill "ns_prefix" Json.asString v s.nsPrefix).map fun x => { s with nsPrefix := x }
  | "ns_uri" =>
    (Json.fill "ns_uri" (Json.asOptional Json.asString) v s.nsUri).map fun x =>
      { s with nsUri := x }
  | "annotations" =>
    (Json.fill "annotations" Annotations.decode v s.annotations).map fun x =>
      { s with annotations := x }
  | "classes" =>
    (Json.fill "classes" (Json.asList ClassDef.decode) v s.classes).map fun x =>
      { s with classes := x }
  | "root" =>
    (Json.fill "root" (Json.asOptional ClassId.decode) v s.root).map fun x => { s with root := x }
  | "document_root" =>
    (Json.fill "document_root" (Json.asOptional ClassId.decode) v s.documentRoot).map fun x =>
      { s with documentRoot := x }
  | _ => .ok s

def fields : List String :=
  ["name", "ns_prefix", "ns_uri", "annotations", "classes", "root", "document_root"]

def decode (v : Value) : Decoded Package := do
  let s ← Json.gather fields take {} v
  return {
    name := ← Json.need "name" s.name
    nsPrefix := ← Json.need "ns_prefix" s.nsPrefix
    nsUri := s.nsUri.getD none
    annotations := ← Json.need "annotations" s.annotations
    classes := ← Json.need "classes" s.classes
    root := s.root.getD none
    documentRoot := s.documentRoot.getD none }

/-- The JSON text of a package. -/
def toJson (p : Package) : String := p.encode.render

/-- The package that a JSON text holds. -/
def ofJson (s : String) : Decoded Package := Json.decode decode s

end Package

end EdiSchema
