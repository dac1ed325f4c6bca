import EdiSchema.Json.Token

/-!
# Reading JSON

The reader takes the tokens of a text one by one. Its state is what may come next, together with the
arrays and objects that are still open, the innermost first. A token that may not come here ends the
reading; what has been read by then is enclosed in the open arrays and objects, none of them closed.
-/

namespace EdiSchema.Json

/-- An array or object that is being read. -/
inductive Frame
  /-- An array with the items before the one being read. -/
  | item (before : List Value)
  /-- An object with the members before the one being read, and the key of that. -/
  | member (before : Members) (key : Option String)

/-- What may come next. -/
inductive Expect
  | value
  /-- Just after an opening bracket. -/
  | itemOrEnd
  /-- Just after an opening brace. -/
  | memberOrEnd
  /-- After a comma in an object. -/
  | nextKey (before : Members)
  | colon (before : Members) (key : Option String)
  /-- After a value: what separates or closes, or the end. -/
  | afterValue (value : Value)

/-- Starts to read a value. -/
def startValue (frames : List Frame) : Token → Option (List Frame × Expect)
  | .beginArray => some (frames, .itemOrEnd)
  | .beginObject => some (frames, .memberOrEnd)
  | .scalar value => some (frames, .afterValue value)
  | _ => none

/-- Goes on after a value inside the innermost open array or object. -/
def afterValue (value : Value) : List Frame → Token → Option (List Frame × Expect)
  | .item before :: frames, .comma => some (.item (before ++ [value]) :: frames, .value)
  | .item before :: frames, .endArray =>
    some (frames, .afterValue (.array (before ++ [value]) true))
  | .member before key :: frames, .comma => some (frames, .nextKey (before ++ [(key, value)]))
  | .member before key :: frames, .endObject =>
    some (frames, .afterValue (.object (before ++ [(key, value)]) true))
  | _, _ => none

/-- Takes one token, if it may come here. -/
def step (frames : List Frame) : Expect → Token → Option (List Frame × Expect)
  | .value, t => startValue frames t
  | .itemOrEnd, .endArray => some (frames, .afterValue (.array [] true))
  | .itemOrEnd, t => startValue (.item [] :: frames) t
  | .memberOrEnd, .endObject => some (frames, .afterValue (.object [] true))
  | .memberOrEnd, .scalar (.text key) => some (frames, .colon [] key)
  | .nextKey before, .scalar (.text key) => some (frames, .colon before key)
  | .colon before key, .colon => some (.member before key :: frames, .value)
  | .afterValue value, t => afterValue value frames t
  | _, _ => none

/-- What has been read of the innermost value. -/
def Expect.soFar : Expect → Value
  | .value => .broken
  | .itemOrEnd => .array [] false
  | .memberOrEnd => .object [] false
  | .nextKey before => .object before false
  | .colon before key => .object (before ++ [(key, .broken)]) false
  | .afterValue v => v

/-- Encloses what has been read in what is open. -/
def enclose : List Frame → Value → Value
  | [], value => value
  | .item before :: frames, value => enclose frames (.array (before ++ [value]) false)
  | .member before key :: frames, value =>
    enclose frames (.object (before ++ [(key, value)]) false)

/-- The end of a reading for want of a token that may come here. -/
def breakOff (frames : List Frame) (expect : Expect) : Document :=
  ⟨enclose frames expect.soFar, false⟩

/-- The end of a reading for want of tokens. -/
def finish : List Frame → Expect → Document
  | [], .afterValue value => ⟨value, true⟩
  | frames, expect => breakOff frames expect

/-- Reads on. -/
def run (frames : List Frame) (expect : Expect) : List Token → Document
  | [] => finish frames expect
  | t :: rest =>
    match step frames expect t with
    | some (frames', expect') => run frames' expect' rest
    | none => breakOff frames expect

/-- Reads a JSON text as far as it goes. -/
def parse (s : String) : Document := run [] .value (tokens s.toList)

end EdiSchema.Json
