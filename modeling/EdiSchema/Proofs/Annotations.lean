import EdiSchema.Package.Annotations

/-!
# What a look-up answers after a write

Elements are annotated by chains of `annotate`, `bind` and `bindElement`. The lemmas here push a
look-up through such a chain, one write at a time: a write under one key answers for that key and
no other, a value that is absent or blank answers for nothing, and the two sources never meet.
-/

namespace EdiSchema

namespace Annotations

/-- What `annotate` would write: the value, if there is one that is not blank. -/
def effective (value : Option String) : Option String := value.filter fun v => !Text.isBlank v

theorem effective_some {v : String} (h : Text.isBlank v = false) : effective (some v) = some v := by
  simp [effective, Option.filter, h]

/-- `annotate` writes the effective value, and nothing without one. -/
theorem annotate_eq (a : Annotations) (key : String) (value : Option String) :
    a.annotate key value = match effective value with
      | none => a
      | some v => a.write Source.mapping key v := by
  cases value with
  | none => rfl
  | some v => cases h : Text.isBlank v <;> simp [annotate, effective, Option.filter, h]

theorem mapping_ne_binding : Source.mapping ≠ Source.binding := by decide

/-- A key annotated last has the value annotated, if that is effective, and else what it had. -/
@[simp] theorem mapping?_annotate_self (a : Annotations) (key : String) (value : Option String) :
    (a.annotate key value).mapping? key = (effective value).or (a.mapping? key) := by
  rw [annotate_eq]
  cases effective value with
  | none => rfl
  | some v => simp [mapping?, get?_write]

/-- Annotating one key leaves the others. -/
theorem mapping?_annotate_of_ne (a : Annotations) {key k : String} (h : k ≠ key)
    (value : Option String) : (a.annotate key value).mapping? k = a.mapping? k := by
  rw [annotate_eq]
  cases effective value with
  | none => rfl
  | some v => simp [mapping?, get?_write, h]

/-- Bindings are no details of the grammar. -/
@[simp] theorem mapping?_bind (a : Annotations) (key value k : String) :
    (a.bind key value).mapping? k = a.mapping? k := by
  simp [mapping?, bind, get?_write, mapping_ne_binding]

@[simp] theorem mapping?_bindElement (a : Annotations) (name k : String) :
    (a.bindElement name).mapping? k = a.mapping? k := by
  simp [bindElement]

@[simp] theorem mapping?_empty (k : String) : Annotations.empty.mapping? k = none := rfl

/-- Both at once, for chains in which all keys are known. -/
theorem mapping?_annotate (a : Annotations) (key k : String) (value : Option String) :
    (a.annotate key value).mapping? k =
      if k = key then (effective value).or (a.mapping? k) else a.mapping? k := by
  split
  · next h =>
    subst h
    exact mapping?_annotate_self a k value
  · next h => exact mapping?_annotate_of_ne a h value

/-! ## Bindings -/

@[simp] theorem binding?_annotate (a : Annotations) (key k : String) (value : Option String) :
    (a.annotate key value).binding? k = a.binding? k := by
  rw [annotate_eq]
  cases effective value with
  | none => rfl
  | some v => simp [binding?, get?_write, mapping_ne_binding.symm]

@[simp] theorem binding?_bind (a : Annotations) (key value k : String) :
    (a.bind key value).binding? k = if k = key then some value else a.binding? k := by
  simp [binding?, bind, get?_write]

/-- An element is bound to the name that it was bound to last. -/
@[simp] theorem binding?_bindElement (a : Annotations) (name : String) :
    (a.bindElement name).binding? Binding.name = some name := by
  have hkind : Binding.name ≠ Binding.kind := by decide
  have hnamespace : Binding.name ≠ Binding.namespaceKey := by decide
  simp [bindElement, hkind, hnamespace]

end Annotations

end EdiSchema
