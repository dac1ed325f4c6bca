/-!
# JSON values, whole and broken off

`Json.Value` is a JSON text as a reader meets it. Members keep their order and may repeat a key, and
a number is kept as it is written, since whether either is an error is for the one to say who wants
something of the value. So that such errors can be told from errors of the text in the order in
which a reader meets them, a text that stops being JSON somewhere still gives a value: the arrays
and objects that were open at that place are marked as not closed, and what could not be read is
`broken`. A value without such marks is whole (`Value.isWhole`).

Escapes can spell a surrogate that has no partner. Such a text stands for no sequence of characters,
and is kept as `none`.
-/

namespace EdiSchema.Json

/-- A JSON value, as far as it could be read. -/
inductive Value
  | null
  | bool (value : Bool)
  /-- A number as it is written. -/
  | number (written : String)
  | text (characters : Option String)
  | array (items : List Value) (closed : Bool)
  | object (members : List (Option String × Value)) (closed : Bool)
  /-- Here the text is no longer JSON. -/
  | broken
  deriving Inhabited

/-- The members of an object. -/
abbrev Members := List (Option String × Value)

/-- A JSON text: its value, and whether nothing but blanks follows it. -/
structure Document where
  value : Value
  ended : Bool

namespace Value

/-- A natural number in decimal digits. -/
def natural (n : Nat) : Value := .number (Nat.repr n)

/-- A text of the given characters. -/
def string (s : String) : Value := .text (some s)

/-- A whole array. -/
def list (items : List Value) : Value := .array items true

/-- A whole object. -/
def record (members : List (String × Value)) : Value :=
  .object (members.map fun m => (some m.1, m.2)) true

/-- A value, or null where there is none. -/
def optional : Option Value → Value
  | none => .null
  | some v => v

mutual

/-- Whether a value was read to its end. -/
def isWhole : Value → Bool
  | .null => true
  | .bool _ => true
  | .number _ => true
  | .text _ => true
  | .array items closed => closed && areWhole items
  | .object members closed => closed && membersAreWhole members
  | .broken => false

def areWhole : List Value → Bool
  | [] => true
  | v :: rest => v.isWhole && areWhole rest

def membersAreWhole : List (Option String × Value) → Bool
  | [] => true
  | (_, v) :: rest => v.isWhole && membersAreWhole rest

end

theorem areWhole_iff (items : List Value) : areWhole items ↔ ∀ v ∈ items, v.isWhole := by
  induction items with
  | nil => simp [areWhole]
  | cons v rest ih => simp [areWhole, ih]

theorem membersAreWhole_iff (members : Members) :
    membersAreWhole members ↔ ∀ m ∈ members, m.2.isWhole := by
  induction members with
  | nil => simp [membersAreWhole]
  | cons m rest ih => simp [membersAreWhole, ih]

end Value

end EdiSchema.Json
