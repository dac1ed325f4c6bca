import EdiSchema.Grammar.Node

/-!
# Grammar documents

A document names the message it describes, declares the separators that the message is written
with, and holds the root group of the tree.
-/

namespace EdiSchema

/-- The separators of a message. They are texts, because a grammar may declare a terminator of
several characters; an empty one is not declared. -/
structure Delimiters where
  segment : String := "'"
  component : String := ":"
  field : String := "+"
  fieldRepeat : String := "*"
  escape : String := "?"
  /-- Whether line ends between segments are passed over. -/
  ignoreLineEnds : Bool := false
  deriving DecidableEq, Repr

namespace Delimiters

/-- The separators of UN/EDIFACT. -/
def standard : Delimiters := {}

instance : Inhabited Delimiters := ⟨standard⟩

/-- The three separators that every message needs, and no others. -/
def basic (segment component field : String) : Delimiters :=
  ⟨segment, component, field, "", "", false⟩

end Delimiters

/-- Which message a document describes. -/
structure Description where
  name : String
  version : String
  /-- The target namespace of the message. -/
  namespaceUri : Option String := none
  deriving DecidableEq, Repr, Inhabited

/-- A grammar read from a source. -/
structure Document where
  description : Description
  delimiters : Delimiters := .standard
  /-- Where the grammar was read from. -/
  source : Option String := none
  root : Option Group := none
  deriving Repr, Inhabited

end EdiSchema
