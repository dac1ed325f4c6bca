import EdiSchema.Package.Codec
import EdiSchema.Proofs.Growth
import EdiSchema.Proofs.JsonReading

/-!
# Packages read back

Each type of the schema is read back from what is written of it: `decode` undoes `encode`. For lists
and optional values it is enough that what they hold is read back (`readAll_map`,
`asOptional_optional`). Details come back in their order because a map has each key once, so each
detail that is read goes behind those before it. Ids are numbers of sixty-four bits in a package
(`Package.IdsFit`); that is the one thing the reader checks that a written package could fail.

What is written is plain, so its text is read as the value that was written, and
`Package.ofJson_toJson` puts the two together.
-/

namespace EdiSchema

open Json (Value Decoded Plain)

/-! ## Shapes -/

namespace Json

variable {α β : Type} {read : Value → Decoded α} {write : α → Value}

/-- What is written one behind the other is read one behind the other. -/
theorem readAll_map {as : List α} (h : ∀ a ∈ as, read (write a) = .ok a) :
    readAll read (as.map write) = .ok as := by
  induction as with
  | nil => rfl
  | cons a as ih =>
    obtain ⟨ha, has⟩ := List.forall_mem_cons.mp h
    rw [List.map_cons, readAll, ha, ih has]
    rfl

/-- A list is read back if each of its elements is. -/
theorem asList_map {as : List α} (h : ∀ a ∈ as, read (write a) = .ok a) :
    asList read (.list (as.map write)) = .ok as := by
  rw [Value.list, asList, readAll_map h, bind_ok, ifClosed_true]

/-- A value that is not written as null may be absent. -/
theorem asOptional_optional {o : Option α} (hnull : ∀ a, write a ≠ .null)
    (h : ∀ a ∈ o, read (write a) = .ok a) : asOptional read (.optional (o.map write)) = .ok o := by
  cases o with
  | none => rfl
  | some a =>
    rw [Option.map_some, Value.optional, asOptional.eq_2 _ _ (hnull a), h a rfl, map_ok]

/-- The members of a written record are gathered in their order. -/
theorem gather_record {σ : Type} (fields : List String) (take : σ → String → Value → Decoded σ)
    (start : σ) (members : List (String × Value)) :
    gather fields take start (.record members) =
      foldMembers take start (members.map fun m => (some m.1, m.2)) := by
  rw [Value.record, gather]
  cases foldMembers take start (members.map fun m => (some m.1, m.2)) <;> rfl

/-- A number below the limit is read back. -/
theorem asNatural_natural {n limit : Nat} (h : n < limit) :
    asNatural limit (.natural n) = .ok n := by
  rw [Value.natural, asNatural, naturalOf?_repr]
  exact if_pos h

end Json

/-! ## Annotations -/

namespace AnnotationMap

/-- Details that are read one after the other are inserted one after the other. -/
theorem foldMembers_details (d : OrderedMap String String) (es : List (String × String)) :
    Json.foldMembers (fun d key v => (Json.asString v).map (d.insert key)) d
      (es.map fun e => (some e.1, .string e.2)) = .ok (d.insertAll es) := by
  induction es generalizing d with
  | nil => rfl
  | cons e es ih => exact ih (d.insert e.1 e.2)

/-- The details of a map are read back in their order, since no key stands there twice. -/
theorem decodeDetails_encodeDetails (d : OrderedMap String String) :
    decodeDetails (encodeDetails d.entries) = .ok d := by
  rw [encodeDetails, Value.record, decodeDetails, List.map_map]
  have hfold := foldMembers_details .empty d.entries
  rw [d.empty_insertAll] at hfold
  exact congrArg (·.bind (ifClosed true)) hfold

theorem decode_encode (m : AnnotationMap) : decode m.encode = .ok m := by
  rw [decode, encode, Json.gather_record]
  -- every member fills a field of the draft that was empty, and in the end none is
  simp [take, decodeDetails_encodeDetails]
  rfl

end AnnotationMap

/-- Annotations are read back, several maps of one source included. -/
@[simp] theorem Annotations.decode_encode (a : Annotations) : decode a.encode = .ok a := by
  rw [decode, encode, Json.asList_map fun m _ => m.decode_encode, Json.map_ok]

/-! ## Ids, bounds and types -/

/-- An id is read back if it fits. -/
theorem ClassId.decode_encode {id : ClassId} (h : id.index < idLimit) :
    decode id.encode = .ok id := by
  rw [decode, encode, Json.asNatural_natural h, Json.map_ok]

/-- Counts fit always. -/
@[simp] theorem asUInt32_encodeCount (n : UInt32) : Json.asUInt32 (encodeCount n) = .ok n := by
  rw [Json.asUInt32, encodeCount, Json.asNatural_natural n.toNat_lt, Json.map_ok,
    UInt32.ofNat_toNat]

/-- A bound is read back: a number for one that is bounded, and a word for the other. -/
@[simp] theorem UpperBound.decode_encode (u : UpperBound) : decode u.encode = .ok u := by
  cases u with
  | bounded limit =>
    simp [decode, encode, Value.record, Json.choose]
  | unbounded => rfl

@[simp] theorem PrimitiveType.decode_encode (t : PrimitiveType) : decode t.encode = .ok t := by
  cases t <;> rfl

@[simp] theorem ContentKind.decode_encode (k : ContentKind) : decode k.encode = .ok k := by
  cases k <;> rfl

/-! ## Features and classes -/

/-- A reference is read back if its target fits. -/
theorem Reference.decode_encode {r : Reference} (h : r.target.index < idLimit) :
    decode r.encode = .ok r := by
  rw [decode, encode, Json.gather_record]
  simp [take, ClassId.decode_encode h]
  rfl

@[simp] theorem Attribute.decode_encode (a : Attribute) : decode a.encode = .ok a := by
  rw [decode, encode, Json.gather_record]
  simp [take]
  rfl

/-- A feature is read back by the tag that says what it is. -/
theorem Feature.decode_encode {f : Feature} (h : ∀ r, f = .ref r → r.target.index < idLimit) :
    decode f.encode = .ok f := by
  cases f with
  | ref r => simp [decode, encode, Value.record, Json.choose, Reference.decode_encode (h r rfl)]
  | attr a => simp [decode, encode, Value.record, Json.choose]

/-- A class is read back if the targets of its references fit. -/
theorem ClassDef.decode_encode {c : ClassDef} (h : ∀ r ∈ c.references, r.target.index < idLimit) :
    decode c.encode = .ok c := by
  have hfeatures : Json.asList Feature.decode (.list (c.features.map Feature.encode)) =
      .ok c.features := by
    refine Json.asList_map fun f hf => Feature.decode_encode fun r hr => h r ?_
    exact mem_references.mpr (hr ▸ hf)
  rw [decode, encode, Json.gather_record]
  simp [take, hfeatures]
  rfl

/-! ## Packages -/

namespace Package

/-- Ids are numbers of sixty-four bits. -/
structure IdsFit (p : Package) : Prop where
  targets : ∀ c ∈ p.classes, ∀ r ∈ c.references, r.target.index < idLimit
  root : ∀ id ∈ p.root, id.index < idLimit
  documentRoot : ∀ id ∈ p.documentRoot, id.index < idLimit

/-- The ids of a package are the targets of its references and those of its two roots. -/
theorem idsFit_iff {p : Package} : p.IdsFit ↔
    (∀ c ∈ p.classes, ∀ r ∈ c.references, r.target.index < idLimit) ∧
      (∀ id ∈ p.root, id.index < idLimit) ∧ ∀ id ∈ p.documentRoot, id.index < idLimit :=
  ⟨fun h => ⟨h.targets, h.root, h.documentRoot⟩, fun ⟨htargets, hroot, hdocumentRoot⟩ =>
    ⟨htargets, hroot, hdocumentRoot⟩⟩

instance (p : Package) : Decidable p.IdsFit := decidable_of_iff' _ idsFit_iff

/-- A package is read back if its ids fit. -/
theorem decode_encode {p : Package} (h : p.IdsFit) : decode p.encode = .ok p := by
  have huri : Json.asOptional Json.asString (.optional (p.nsUri.map .string)) = .ok p.nsUri :=
    Json.asOptional_optional (fun _ h => by cases h) fun _ _ => rfl
  have hclasses : Json.asList ClassDef.decode (.list (p.classes.map ClassDef.encode)) =
      .ok p.classes :=
    Json.asList_map fun c hc => ClassDef.decode_encode (h.targets c hc)
  have hroot : Json.asOptional ClassId.decode (.optional (p.root.map ClassId.encode)) =
      .ok p.root :=
    Json.asOptional_optional (fun _ h => by cases h) fun id hid =>
      ClassId.decode_encode (h.root id hid)
  have hdocumentRoot : Json.asOptional ClassId.decode
      (.optional (p.documentRoot.map ClassId.encode)) = .ok p.documentRoot :=
    Json.asOptional_optional (fun _ h => by cases h) fun id hid =>
      ClassId.decode_encode (h.documentRoot id hid)
  rw [decode, encode, Json.gather_record]
  simp [take, huri, hclasses, hroot, hdocumentRoot]
  rfl

end Package

/-! ## What is written is plain -/

/-- A value that may be absent is plain. -/
theorem Json.Plain.optional {o : Option Value} (h : ∀ v ∈ o, Plain v) : Plain (.optional o) := by
  cases o with
  | none => exact .null
  | some v => exact h v rfl

/-- A list is plain if each of its elements is. -/
theorem Json.Plain.map {α : Type} {write : α → Value} (h : ∀ a, Plain (write a)) (as : List α) :
    Plain (.list (as.map write)) := by
  refine .list fun v hv => ?_
  obtain ⟨a, _, rfl⟩ := List.mem_map.mp hv
  exact h a

/-- No key of a map of annotations stands there twice. -/
theorem AnnotationMap.plain_encode (m : AnnotationMap) : Plain m.encode := by
  have hdetails : Plain (encodeDetails m.details.entries) := by
    refine .record fun e he => ?_
    obtain ⟨_, _, rfl⟩ := List.mem_map.mp he
    exact .string _
  exact .record (by simp [hdetails, Plain.string])

theorem Annotations.plain_encode (a : Annotations) : Plain a.encode :=
  .map AnnotationMap.plain_encode a.maps

theorem UpperBound.plain_encode (u : UpperBound) : Plain u.encode := by
  cases u with
  | bounded limit => exact .record (by simp [encodeCount, Plain.natural])
  | unbounded => exact .string _

theorem Reference.plain_encode (r : Reference) : Plain r.encode :=
  .record (by simp [encodeCount, ClassId.encode, Plain.string, Plain.bool, Plain.natural,
    UpperBound.plain_encode, Annotations.plain_encode])

theorem Attribute.plain_encode (a : Attribute) : Plain a.encode :=
  .record (by simp [encodeCount, PrimitiveType.encode, Plain.string, Plain.natural,
    Annotations.plain_encode])

theorem Feature.plain_encode (f : Feature) : Plain f.encode := by
  cases f with
  | ref r => exact .record (by simp [Reference.plain_encode])
  | attr a => exact .record (by simp [Attribute.plain_encode])

theorem ClassDef.plain_encode (c : ClassDef) : Plain c.encode :=
  .record (by simp [ContentKind.encode, Plain.string, Plain.map Feature.plain_encode,
    Annotations.plain_encode])

namespace Package

/-- What is written of a package is plain, so its text says all of it. -/
theorem plain_encode (p : Package) : Plain p.encode := by
  have huri : Plain (.optional (p.nsUri.map .string)) := .optional fun v hv => by
    obtain ⟨s, _, rfl⟩ := Option.map_eq_some_iff.mp hv
    exact .string s
  have hid : ∀ id : Option ClassId, Plain (.optional (id.map ClassId.encode)) :=
    fun id => .optional fun v hv => by
      obtain ⟨k, _, rfl⟩ := Option.map_eq_some_iff.mp hv
      exact .natural k.index
  exact .record (by simp [Plain.string, Annotations.plain_encode, Plain.map ClassDef.plain_encode,
    huri, hid])

/-- Reading the text of a package gives the package again, whatever its strings are made of and
wherever its ids lead. -/
theorem ofJson_toJson {p : Package} (h : p.IdsFit) : ofJson p.toJson = .ok p := by
  rw [ofJson, Json.decode, toJson, p.plain_encode.parse_render, decode_encode h, Json.bind_ok,
    Json.ifClosed_true]

/-- A package that few would write: strings of special characters, a source that comes three times,
an empty map, classes and features of one name, ids that lead nowhere. -/
def oddities : Package where
  name := "a \"b\" \\ /\n\t\x01\x1f\x7f é 漢 😀"
  nsPrefix := ""
  annotations := ⟨[⟨"s", .ofList [("b", "2"), ("", "\r\x08\x0c"), ("a", "1")]⟩, ⟨"s", .empty⟩,
    ⟨"s", .ofList [("b", "3")]⟩]⟩
  classes := [
    { name := "C", contentKind := .mixed, features := [
        .ref {
          name := "r", target := ⟨18446744073709551615⟩, containment := false
          lowerBound := 4294967295, upperBound := .bounded 0 },
        .attr { name := "r", dataType := .float }] },
    { name := "C", features := [.ref { name := "r", target := ⟨0⟩, upperBound := .unbounded }] }]
  root := some ⟨7⟩

/-- A package comes back with all that no conversion leaves behind. -/
theorem ofJson_toJson_oddities : oddities.IdsFit ∧ ofJson oddities.toJson = .ok oddities := by
  have hfit : oddities.IdsFit := by decide
  exact ⟨hfit, ofJson_toJson hfit⟩

end Package

end EdiSchema
