/-!
# Why a written value is refused

Values of the library are read from JSON and YAML. Where a text is refused for what it says rather
than for how it is spelled, the cause names the field or the variant at fault and what may stand in
its place.
-/

namespace EdiSchema

/-- The cause of a refusal. -/
inductive DecodeError
  /-- A record has a field that it may not have. -/
  | unknownField (name : String) (expected : List String)
  /-- A choice is made that there is not. -/
  | unknownVariant (name : String) (expected : List String)
  | duplicateField (name : String)
  | missingField (name : String)
  /-- The text is not well formed, or a value is of the wrong sort or out of range. -/
  | malformed
  deriving DecidableEq, Repr

/-- What was read, if it was read to its end. -/
def ifClosed {α : Type} (closed : Bool) (a : α) : Except DecodeError α :=
  if closed then .ok a else .error .malformed

/-- A name between backticks. -/
def ticked (name : String) : String := "`" ++ name ++ "`"

/-- The names that may stand in a place. -/
def alternatives : List String → String
  | [a] => ticked a
  | [a, b] => ticked a ++ " or " ++ ticked b
  | names => "one of " ++ ", ".intercalate (names.map ticked)

/-- What is said about the field or variant at fault, if there is one. -/
def DecodeError.detail? : DecodeError → Option String
  | .unknownField name expected =>
    some ("unknown field " ++ ticked name ++ ", expected " ++ alternatives expected)
  | .unknownVariant name expected =>
    some ("unknown variant " ++ ticked name ++ ", expected " ++ alternatives expected)
  | .duplicateField name => some ("duplicate field " ++ ticked name)
  | .missingField name => some ("missing field " ++ ticked name)
  | .malformed => none

end EdiSchema
