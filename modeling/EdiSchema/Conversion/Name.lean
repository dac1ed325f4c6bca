import EdiSchema.Text.Case
import EdiSchema.Text.Pieces

/-!
# From tags to names

Classes and features are named after the tags of a grammar in camel case. Underscores and full stops
are the separators of a tag: they are dropped, and the character after them is upper-cased. Every
other character is lower-cased, but for the first one of a class name. Characters are mapped one by
one, each by its own full mapping.

`normalize` works in one pass over the tag, after every pair of underscores has become one
underscore. `capitalized` says the same by pieces.
-/

namespace EdiSchema

/-- Which kind of name is made of a tag. -/
inductive NameStyle
  /-- Starts with a capital. -/
  | className
  /-- Starts small. -/
  | memberName
  deriving DecidableEq, Repr, Inhabited

namespace Name

/-- The separators of a tag. -/
def isSeparator (c : Char) : Bool := c = '_' || c = '.'

/-- Turns pairs of underscores into single ones, from left to right. -/
def collapse : List Char → List Char
  | '_' :: '_' :: rest => '_' :: collapse rest
  | c :: rest => c :: collapse rest
  | [] => []

/-- Drops separators and sets the case; `capital` says whether the next character is
upper-cased. -/
def scan (capital : Bool) : List Char → List Char
  | [] => []
  | c :: rest =>
    if isSeparator c then scan true rest
    else (if capital then Text.upperChar c else Text.lowerChar c) ++ scan false rest

/-- Whether a name of the style starts with a capital. -/
def startsCapital : NameStyle → Bool
  | .className => true
  | .memberName => false

/-- The name in characters. -/
def normalizeChars (style : NameStyle) (tag : List Char) : List Char :=
  scan (startsCapital style) (collapse tag)

/-- The name that a tag gives. -/
def normalize (style : NameStyle) (tag : String) : String :=
  String.ofList (normalizeChars style tag.toList)

/-! ## The same by pieces -/

/-- A piece in lower case, its first character apart where that is a capital. -/
def piece (capital : Bool) : List Char → List Char
  | [] => []
  | c :: rest =>
    (if capital then Text.upperChar c else Text.lowerChar c) ++ rest.flatMap Text.lowerChar

/-- The pieces of a tag in a row, every one but the first with a capital. -/
def capitalized (style : NameStyle) (tag : List Char) : List Char :=
  match Text.pieces isSeparator tag with
  | [] => []
  | first :: rest => piece (startsCapital style) first ++ rest.flatMap (piece true)

end Name

/-- The name of the class that a tag gives. -/
def className (tag : String) : String := Name.normalize .className tag

/-- The name of the feature that a tag gives. -/
def memberName (tag : String) : String := Name.normalize .memberName tag

end EdiSchema
