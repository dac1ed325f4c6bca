import EdiSchema.OrderedMap
import EdiSchema.Text.Blank
import EdiSchema.Package.Vocabulary

/-!
# Annotations

Packages, classes and features carry annotations: a list of maps, each under a source, each from
keys to texts in the order of first writing. A map comes into being with the first detail written
under its source, so no write leaves an empty map behind. A list that was read from elsewhere may
hold two maps of one source; look-ups and writes then concern the first.

Details of the grammar go under `Source.mapping` by `annotate`, which passes over values that are
absent or blank. Bindings go under `Source.binding` by `bind`, which writes the empty text too: the
document root is bound to the element without a name.
-/

namespace EdiSchema

/-- The details under one source. -/
structure AnnotationMap where
  source : String
  details : OrderedMap String String
  deriving DecidableEq

/-- All annotations of an element. -/
structure Annotations where
  maps : List AnnotationMap
  deriving DecidableEq

namespace AnnotationMap

def get? (m : AnnotationMap) (key : String) : Option String := m.details.get? key

def contains (m : AnnotationMap) (key : String) : Bool := m.details.contains key

def size (m : AnnotationMap) : Nat := m.details.size

def isEmpty (m : AnnotationMap) : Bool := m.details.isEmpty

end AnnotationMap

namespace Annotations

def empty : Annotations := ⟨[]⟩

instance : Inhabited Annotations := ⟨empty⟩

def isEmpty (a : Annotations) : Bool := a.maps.isEmpty

/-- The first map of a source. -/
def source? (a : Annotations) (source : String) : Option AnnotationMap :=
  a.maps.find? fun m => m.source = source

/-- A detail of a source. -/
def get? (a : Annotations) (source key : String) : Option String :=
  (a.source? source).bind fun m => m.get? key

/-- A detail of the grammar. -/
def mapping? (a : Annotations) (key : String) : Option String := a.get? Source.mapping key

/-- A detail of the binding. -/
def binding? (a : Annotations) (key : String) : Option String := a.get? Source.binding key

/-- Writes into the first map of the source, or into a new map at the end. -/
def writeMaps (source key value : String) : List AnnotationMap → List AnnotationMap
  | [] => [⟨source, OrderedMap.empty.insert key value⟩]
  | m :: rest =>
    if m.source = source then ⟨m.source, m.details.insert key value⟩ :: rest
    else m :: writeMaps source key value rest

/-- Writes one detail. -/
def write (a : Annotations) (source key value : String) : Annotations :=
  ⟨writeMaps source key value a.maps⟩

/-- Writes a detail of the grammar, unless it is absent or blank. -/
def annotate (a : Annotations) (key : String) : Option String → Annotations
  | none => a
  | some value => if Text.isBlank value then a else a.write Source.mapping key value

/-- Writes a detail of the binding. -/
def bind (a : Annotations) (key value : String) : Annotations := a.write Source.binding key value

/-- Binds a feature to the element of the given name in the namespace of the package. -/
def bindElement (a : Annotations) (name : String) : Annotations :=
  ((a.bind Binding.name name).bind Binding.kind Binding.element).bind
    Binding.namespaceKey Binding.targetNamespace

/-- A write concerns the first map of its source, and makes one if there is none. -/
theorem source?_write (a : Annotations) (source key value s : String) :
    (a.write source key value).source? s =
      if s = source then
        some ⟨source, (((a.source? source).map AnnotationMap.details).getD .empty).insert key value⟩
      else a.source? s := by
  obtain ⟨maps⟩ := a
  simp only [write, source?]
  induction maps with
  | nil =>
    by_cases hs : s = source
    · simp [writeMaps, hs]
    · simp [writeMaps, hs, Ne.symm hs]
  | cons m rest ih =>
    by_cases hm : m.source = source
    · by_cases hs : s = source
      · simp [writeMaps, hm, hs]
      · have hms : ¬ m.source = s := fun h => hs (h.symm.trans hm)
        simp [writeMaps, hm, hs, Ne.symm hs]
    · by_cases hs : m.source = s
      · have hne : ¬ s = source := fun h => hm (hs.trans h)
        simp [writeMaps, hs, hne]
      · rw [writeMaps, if_neg hm]
        simp only [List.find?_cons, hm, hs, decide_false]
        exact ih

/-- After a write every look-up answers as before, except for the detail written. -/
theorem get?_write (a : Annotations) (source key value s k : String) :
    (a.write source key value).get? s k =
      if s = source ∧ k = key then some value else a.get? s k := by
  rw [get?, source?_write]
  by_cases hs : s = source
  · subst hs
    by_cases hk : k = key
    · simp [AnnotationMap.get?, hk]
    · have hkey : ¬ key = k := fun h => hk h.symm
      cases hsource : a.source? s <;> simp [AnnotationMap.get?, get?, hsource, hk, hkey]
  · simp [get?, hs]

end Annotations

end EdiSchema
