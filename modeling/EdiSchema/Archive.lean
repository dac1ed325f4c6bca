import EdiSchema.OrderedMap
import EdiSchema.Text.Blank

/-!
# Archives

An archive keeps generated files in memory until they are packed. Its entries stand in the order in
which their paths were first added, and adding a path again replaces the content and keeps the
place. Entries are addressed by normal paths: white space at both ends is trimmed off, and then one
slash at the start is dropped. Nothing is stored under an empty path.
-/

namespace EdiSchema

/-- Why an entry cannot be added. -/
inductive ArchiveError
  /-- Nothing is left of the path once it is normal. -/
  | emptyPath (path : String)
  deriving DecidableEq, Repr

/-- What is said about an entry that cannot be added. -/
def ArchiveError.message : ArchiveError → String
  | .emptyPath path => "Invalid archive entry path: '" ++ path ++ "'"

/-- Drops one slash at the start. -/
def dropSlash : List Char → List Char
  | '/' :: rest => rest
  | cs => cs

/-- The normal form of a path. -/
def normalPath (path : String) : String := String.ofList (dropSlash (Text.trim path.toList))

/-- Files with their contents, by path. -/
structure Archive where
  files : OrderedMap String ByteArray

namespace Archive

def empty : Archive := ⟨.empty⟩

instance : Inhabited Archive := ⟨empty⟩

/-- Paths and contents in order. -/
def entries (a : Archive) : List (String × ByteArray) := a.files.entries

/-- The number of entries. -/
def size (a : Archive) : Nat := a.files.size

def isEmpty (a : Archive) : Bool := a.files.isEmpty

/-- Adds a file, in the place of one that has the same path. -/
def add (a : Archive) (path : String) (bytes : ByteArray) : Except ArchiveError Archive :=
  if (normalPath path).isEmpty then .error (.emptyPath path)
  else .ok ⟨a.files.insert (normalPath path) bytes⟩

/-- The content under a path. -/
def bytes? (a : Archive) (path : String) : Option ByteArray := a.files.get? (normalPath path)

/-- Takes a file out: its content, if there is one, and the archive without it. -/
def remove (a : Archive) (path : String) : Option ByteArray × Archive :=
  (a.bytes? path, ⟨a.files.erase (normalPath path)⟩)

/-- The path of the entry at a place. -/
def name? (a : Archive) (place : Nat) : Option String := (a.entries[place]?).map Prod.fst

/-- Adds every entry of another archive, in its order. -/
def merge (a b : Archive) : Archive := ⟨a.files.insertAll b.entries⟩

/-- Whether two archives hold the same files, in whatever order. -/
def sameFiles (a b : Archive) : Bool :=
  a.size == b.size && a.entries.all fun e => b.files.get? e.1 == some e.2

end Archive

end EdiSchema
