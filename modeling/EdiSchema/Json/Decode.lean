import EdiSchema.Decoding
import EdiSchema.Json.Parse

/-!
# Taking JSON values apart

Readers for the shapes that records, choices and lists have in JSON. A record is an object with its
fields in any order, or an array of all of them in the order of their declaration. A choice is the
name of a variant, or an object with that name as its only key and what the variant holds as the
value.

Members are taken in the order in which they stand, and the first fault is the one that counts. A
value that breaks off is faulty at the place where it does, so a fault before that place comes
first.
-/

namespace EdiSchema.Json

/-- A value read, or why it is refused. -/
abbrev Decoded (α : Type) := Except DecodeError α

/-- The characters of a text. -/
def asString : Value → Decoded String
  | .text (some s) => .ok s
  | _ => .error .malformed

def asBool : Value → Decoded Bool
  | .bool b => .ok b
  | _ => .error .malformed

/-- The natural number that the digits stand for, if there is nothing but digits. -/
def naturalOf? (written : String) : Option Nat :=
  if written.toList.all Char.isDigit then some (Nat.ofDigitChars 10 written.toList 0) else none

/-- A natural number below a limit. -/
def asNatural (limit : Nat) : Value → Decoded Nat
  | .number written =>
    match naturalOf? written with
    | some n => if n < limit then .ok n else .error .malformed
    | none => .error .malformed
  | _ => .error .malformed

/-- A number of thirty-two bits. -/
def asUInt32 (v : Value) : Decoded UInt32 := (asNatural UInt32.size v).map UInt32.ofNat

/-- A value, or nothing where there is null. -/
def asOptional {α : Type} (read : Value → Decoded α) : Value → Decoded (Option α)
  | .null => .ok none
  | v => (read v).map some

/-- Null, which holds nothing. -/
def asNull : Value → Decoded Unit
  | .null => .ok ()
  | _ => .error .malformed

/-- Reads values one after the other. -/
def readAll {α : Type} (read : Value → Decoded α) : List Value → Decoded (List α)
  | [] => .ok []
  | v :: rest =>
    match read v with
    | .error e => .error e
    | .ok a => (readAll read rest).map (a :: ·)

/-- A list of values of one shape. -/
def asList {α : Type} (read : Value → Decoded α) : Value → Decoded (List α)
  | .array items closed => (readAll read items).bind (ifClosed closed)
  | _ => .error .malformed

/-! ## Records -/

/-- Takes members one after the other into what has been gathered. -/
def foldMembers {σ : Type} (take : σ → String → Value → Decoded σ) :
    σ → Members → Decoded σ
  | s, [] => .ok s
  | _, (none, _) :: _ => .error .malformed
  | s, (some key, v) :: rest =>
    match take s key v with
    | .error e => .error e
    | .ok s' => foldMembers take s' rest

/-- The fields of a record gathered from a value. -/
def gather {σ : Type} (fields : List String) (take : σ → String → Value → Decoded σ) (start : σ) :
    Value → Decoded σ
  | .object members closed => (foldMembers take start members).bind (ifClosed closed)
  | .array items closed =>
    (foldMembers take start (fields.zipWith (fun f v => (some f, v)) items)).bind
      (ifClosed (closed && items.length == fields.length))
  | _ => .error .malformed

/-- Reads a field that has not been read before. -/
def fill {α : Type} (name : String) (read : Value → Decoded α) (v : Value) :
    Option α → Decoded (Option α)
  | some _ => .error (.duplicateField name)
  | none => (read v).map some

/-- A field that has to be there. -/
def need {α : Type} (name : String) : Option α → Decoded α
  | some a => .ok a
  | none => .error (.missingField name)

/-! ## Choices -/

/-- Reads a choice. `bare` says what a variant is by its name alone; `full` reads what a variant
holds. Both are asked about names among `variants` only. -/
def choose {α : Type} (variants : List String) (bare : String → Option α)
    (full : String → Value → Decoded α) : Value → Decoded α
  | .text (some name) =>
    if name ∈ variants then
      match bare name with
      | some a => .ok a
      | none => .error .malformed
    else .error (.unknownVariant name variants)
  | .object ((some name, v) :: rest) closed =>
    if name ∈ variants then
      (full name v).bind (ifClosed (closed && rest.isEmpty))
    else .error (.unknownVariant name variants)
  | _ => .error .malformed

/-- Reads a choice whose variants hold nothing. -/
def chooseName {α : Type} (table : List (String × α)) : Value → Decoded α :=
  choose (table.map Prod.fst) (fun name => table.lookup name) fun name v =>
    (asNull v).bind fun _ =>
      match table.lookup name with
      | some a => .ok a
      | none => .error .malformed

/-- Reads a whole text. -/
def decode {α : Type} (read : Value → Decoded α) (s : String) : Decoded α :=
  (read (parse s).value).bind (ifClosed (parse s).ended)

/-! ## What the readers answer -/

section

variable {α β : Type} {read : Value → Decoded α}

@[simp] theorem map_ok (a : α) (f : α → β) : (Except.ok a : Decoded α).map f = .ok (f a) := rfl

@[simp] theorem bind_ok (a : α) (f : α → Decoded β) : (Except.ok a : Decoded α).bind f = f a := rfl

@[simp] theorem ifClosed_true (a : α) : ifClosed true a = .ok a := rfl

/-- What is read in two steps is read when both steps read. -/
theorem bind_eq_ok_iff {d : Decoded α} {f : α → Decoded β} {b : β} :
    d.bind f = .ok b ↔ ∃ a, d = .ok a ∧ f a = .ok b := by
  cases d with
  | error e => simp [Except.bind]
  | ok a => simp

/-- Only what ends where it should is read. -/
theorem ifClosed_eq_ok_iff {closed : Bool} {a b : α} :
    ifClosed closed a = .ok b ↔ closed = true ∧ a = b := by
  cases closed <;> simp [ifClosed]

@[simp] theorem foldMembers_nil {σ : Type} (take : σ → String → Value → Decoded σ) (s : σ) :
    foldMembers take s [] = .ok s := rfl

/-- Members are taken one after the other, and the first that is refused ends it. -/
@[simp] theorem foldMembers_cons {σ : Type} (take : σ → String → Value → Decoded σ) (s : σ)
    (key : String) (v : Value) (rest : Members) :
    foldMembers take s ((some key, v) :: rest) =
      (take s key v).bind fun s' => foldMembers take s' rest := by
  rw [foldMembers]
  cases take s key v <;> rfl

@[simp] theorem fill_none (name : String) (v : Value) :
    fill name read v none = (read v).map some := rfl

@[simp] theorem need_some (name : String) (a : α) : need name (some a) = .ok a := rfl

@[simp] theorem asString_string (s : String) : asString (.string s) = .ok s := rfl

@[simp] theorem asBool_bool (b : Bool) : asBool (.bool b) = .ok b := rfl

end

end EdiSchema.Json
