/-!
# Why a conversion fails

A conversion fails for a cause in the grammar: a component that cannot become an attribute, a field
that is converted the wrong way, or a name that two classes of different kinds want to have.
-/

namespace EdiSchema

/-- The cause of a failed conversion. -/
inductive ConversionError
  /-- A component has components of its own. -/
  | unsupportedStructure (tag : String)
  /-- A composite field cannot become an attribute. -/
  | invalidConversion (tag : String)
  /-- A component has a value type that is not known. -/
  | unsupportedType (requested : String)
  /-- The name belongs to a class of another kind. -/
  | classNameConflict (name existing requested : String)
  deriving DecidableEq, Repr

/-- What is said about a failed conversion. -/
def ConversionError.message : ConversionError → String
  | .unsupportedStructure tag =>
    "Unsupported structure: component '" ++ tag ++ "' has sub-components"
  | .invalidConversion tag =>
    "Invalid conversion: '" ++ tag ++ "' has components, convert it to a reference instead"
  | .unsupportedType requested => "Unsupported type: " ++ requested
  | .classNameConflict name existing requested =>
    "Class name '" ++ name ++ "' is registered as " ++ existing ++ ", requested as " ++ requested

end EdiSchema
