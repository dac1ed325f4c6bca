import EdiSchema.Json.Text
import EdiSchema.Json.Value

/-!
# Writing JSON

Values are written without any blanks. What is not closed, or broken, is written as far as it goes.
-/

namespace EdiSchema.Json

/-- A text between quotes; one that stands for no characters is written as the empty text. -/
def quoteOptional (s : Option String) : List Char := quote (s.getD "")

/-- The closing bracket, if there is one. -/
def close (closed : Bool) (bracket : Char) : List Char := if closed then [bracket] else []

namespace Value

mutual

/-- The characters of a value. -/
def chars : Value → List Char
  | .null => ['n', 'u', 'l', 'l']
  | .bool true => ['t', 'r', 'u', 'e']
  | .bool false => ['f', 'a', 'l', 's', 'e']
  | .number written => written.toList
  | .text s => quoteOptional s
  | .array [] closed => '[' :: close closed ']'
  | .array (v :: rest) closed => '[' :: (v.chars ++ (itemChars rest ++ close closed ']'))
  | .object [] closed => '{' :: close closed '}'
  | .object ((key, v) :: rest) closed =>
    '{' :: (quoteOptional key ++ ':' :: (v.chars ++ (memberChars rest ++ close closed '}')))
  | .broken => []

/-- Items behind the first. -/
def itemChars : List Value → List Char
  | [] => []
  | v :: rest => ',' :: (v.chars ++ itemChars rest)

/-- Members behind the first. -/
def memberChars : List (Option String × Value) → List Char
  | [] => []
  | (key, v) :: rest => ',' :: (quoteOptional key ++ ':' :: (v.chars ++ memberChars rest))

end

/-- The text of a value. -/
def render (v : Value) : String := String.ofList v.chars

end Value

end EdiSchema.Json
