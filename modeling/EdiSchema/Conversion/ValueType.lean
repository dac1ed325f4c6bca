import EdiSchema.Package.Basic
import EdiSchema.Conversion.Error

/-!
# The types of values

A component names an abstract value type, and the attribute made of it has the primitive type that
belongs to it. There are four, told apart letter by letter; a component that names none holds text.
-/

namespace EdiSchema

/-- The value types with the primitive types that belong to them. -/
def valueTypes : List (String × PrimitiveType) :=
  [("string", .string), ("integer", .long), ("decimal", .decimal), ("float", .float)]

/-- The value type of a component that names none. -/
def defaultValueType : String := "string"

/-- The primitive type of a value type. -/
def primitiveType (typeClass : Option String) : Except ConversionError PrimitiveType :=
  let requested := typeClass.getD defaultValueType
  match valueTypes.find? fun e => e.1 = requested with
  | some e => .ok e.2
  | none => .error (.unsupportedType requested)

end EdiSchema
