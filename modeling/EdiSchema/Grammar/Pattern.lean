/-!
# Patterns that tell segments apart

On the wire a segment is recognised by a pattern, kept as text. The pattern of a segment code is a
caret and the code with its special characters escaped by backslashes; the pattern of the empty
code, `^$`, matches the empty text alone. In such a pattern a caret stands for the start of the
text, a dollar for its end, and everything else, escaped or not, for itself: `Pattern.atoms` reads
that off the text, and `Pattern.isFoundIn` searches for it.

A pattern given by the grammar instead of derived from a code is carried along as text only.
-/

namespace EdiSchema

/-- The text of a pattern. -/
structure Pattern where
  text : String
  deriving DecidableEq, Repr, Inhabited

namespace Pattern

/-! ## Deriving a pattern -/

/-- The characters that mean something else than themselves in a pattern. -/
def specials : List Char :=
  ['\\', '.', '+', '*', '?', '(', ')', '|', '[', ']', '{', '}', '^', '$', '#', '&', '-', '~']

/-- Puts a backslash before every special character. -/
def escape : List Char → List Char
  | [] => []
  | c :: rest => if c ∈ specials then '\\' :: c :: escape rest else c :: escape rest

/-- The pattern that matches a segment code at the start of a text. -/
def ofCode (code : String) : Pattern :=
  if code.isEmpty then ⟨"^$"⟩ else ⟨String.ofList ('^' :: escape code.toList)⟩

/-! ## Matching -/

/-- What a position of a pattern asks for. -/
inductive Atom
  | atStart
  | atEnd
  | char (c : Char)
  deriving DecidableEq, Repr

/-- Reads a pattern of anchors and plain characters. A backslash at the very end asks for
itself. -/
def atomsOf : List Char → List Atom
  | [] => []
  | '\\' :: c :: rest => .char c :: atomsOf rest
  | '^' :: rest => .atStart :: atomsOf rest
  | '$' :: rest => .atEnd :: atomsOf rest
  | c :: rest => .char c :: atomsOf rest

def atoms (p : Pattern) : List Atom := atomsOf p.text.toList

/-- Whether the atoms match here; `fresh` says that nothing of the text stands before. -/
def matchesHere (fresh : Bool) : List Atom → List Char → Bool
  | [], _ => true
  | .atStart :: as, cs => fresh && matchesHere fresh as cs
  | .atEnd :: as, cs => cs.isEmpty && matchesHere fresh as cs
  | .char _ :: _, [] => false
  | .char a :: as, c :: cs => a = c && matchesHere false as cs

/-- Whether the atoms match here or further on. -/
def matchesFrom (as : List Atom) (fresh : Bool) : List Char → Bool
  | [] => matchesHere fresh as []
  | c :: cs => matchesHere fresh as (c :: cs) || matchesFrom as false cs

/-- Whether the pattern matches somewhere in a text. -/
def isFoundIn (p : Pattern) (s : String) : Bool := matchesFrom p.atoms true s.toList

/-! ## The size of a pattern -/

/-- A matcher may take ten binary megabytes. -/
def sizeLimit : Nat := 10 * (1024 * 1024)

/-- A matcher takes thirty-two bytes for each byte it has to recognise. -/
def matcherSize (code : String) : Nat := 32 * code.utf8ByteSize

/-- The derived pattern, if its matcher is within the limit. -/
def ofCode? (code : String) : Option Pattern :=
  if sizeLimit < matcherSize code then none else some (ofCode code)

end Pattern

end EdiSchema
