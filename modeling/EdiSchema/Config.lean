import EdiSchema.Conversion.Registry
import EdiSchema.Json.Decode
import EdiSchema.Yaml.Node

/-!
# Configuration

A configuration says what a conversion does about names that belong to a class of another kind; how
elements are named cannot be configured. It is written in JSON or YAML with one key,
`name_conflict`, which may be left out. A key that is not known or stands twice is refused.

In a file the format is told by the extension of the name: `yaml` and `yml`, in small letters, stand
for YAML, and every other name for JSON.
-/

namespace EdiSchema

/-- The configuration of a conversion. -/
structure Config where
  nameConflict : ConflictPolicy := .fail
  deriving DecidableEq, Repr, Inhabited

/-- The languages that a configuration may be written in. -/
inductive ConfigFormat
  | json
  | yaml
  deriving DecidableEq, Repr

def ConfigFormat.name : ConfigFormat → String
  | .json => "JSON"
  | .yaml => "YAML"

/-- Why the text of a file cannot be had. -/
inductive FileError
  | missing
  | isDirectory
  | notUtf8
  deriving DecidableEq, Repr

def FileError.message : FileError → String
  | .missing => "No such file or directory (os error 2)"
  | .isDirectory => "Is a directory (os error 21)"
  | .notUtf8 => "stream did not contain valid UTF-8"

/-- Why a configuration cannot be loaded. -/
inductive ConfigError
  | unreadable (cause : FileError)
  | refused (format : ConfigFormat) (cause : DecodeError)
  deriving DecidableEq, Repr

/-- What is said about a configuration that cannot be loaded. -/
def ConfigError.message : ConfigError → String
  | .unreadable cause => "IO error: " ++ cause.message
  | .refused format cause =>
    "Invalid configuration: " ++ format.name ++ " parse error" ++
      match cause.detail? with
      | some detail => ": " ++ detail
      | none => ""

namespace ConflictPolicy

/-- The policies by the names they are written with. -/
def table : List (String × ConflictPolicy) := [("fail", .fail), ("reuse_first", .reuseFirst)]

/-- The name of a policy. -/
def name : ConflictPolicy → String
  | .fail => "fail"
  | .reuseFirst => "reuse_first"

/-- The policy of a name. -/
def ofName (name : String) : Except DecodeError ConflictPolicy :=
  match table.lookup name with
  | some policy => .ok policy
  | none => .error (.unknownVariant name (table.map Prod.fst))

end ConflictPolicy

namespace Config

/-- The only key of a configuration. -/
def policyKey : String := "name_conflict"

/-- What a key is refused with. -/
def refuseKey {α : Type} (key : String) : Except DecodeError α :=
  .error (.unknownField key [policyKey])

/-- The configuration with the policy that was given, or else the default. -/
def withPolicy (policy : Option ConflictPolicy) : Config :=
  { nameConflict := policy.getD default }

/-! ## JSON -/

/-- Reads a policy. -/
def policyOfJson : Json.Value → Json.Decoded ConflictPolicy := Json.chooseName ConflictPolicy.table

/-- Takes a member into the policy read so far. -/
def takeJson (policy : Option ConflictPolicy) (key : String) (v : Json.Value) :
    Json.Decoded (Option ConflictPolicy) :=
  if key = policyKey then Json.fill policyKey policyOfJson v policy else refuseKey key

/-- Reads a configuration: an object, or an array with the policy or without. -/
def decodeJson : Json.Value → Json.Decoded Config
  | .object members closed =>
    (Json.foldMembers takeJson none members).bind fun p => ifClosed closed (withPolicy p)
  | .array [] closed => ifClosed closed default
  | .array (v :: rest) closed =>
    (policyOfJson v).bind fun p => ifClosed (closed && rest.isEmpty) (withPolicy (some p))
  | _ => .error .malformed

/-- The configuration that a JSON text holds. -/
def ofJson (s : String) : Except ConfigError Config :=
  (Json.decode decodeJson s).mapError (.refused .json)

/-! ## YAML -/

/-- Reads a policy: its name, or its name as the tag of nothing. -/
def policyOfYaml : Yaml.Node → Except DecodeError ConflictPolicy
  | .scalar tag plain text =>
    match Yaml.localTag? tag with
    | none => ConflictPolicy.ofName text
    | some name =>
      (ConflictPolicy.ofName name).bind fun policy =>
        if Yaml.isNull plain text then .ok policy else .error .malformed
  | .sequence tag _ _ => ofTag tag
  | .mapping tag _ _ => ofTag tag
  | .broken => .error .malformed
where
  /-- A tag on something that is not a scalar names a policy, but nothing may stand there. -/
  ofTag (tag : Option String) : Except DecodeError ConflictPolicy :=
    match Yaml.localTag? tag with
    | none => .error .malformed
    | some name => (ConflictPolicy.ofName name).bind fun _ => .error .malformed

/-- Takes entries one after the other into the policy read so far. -/
def takeYaml (policy : Option ConflictPolicy) :
    List (Yaml.Node × Yaml.Node) → Except DecodeError (Option ConflictPolicy)
  | [] => .ok policy
  | (.scalar _ _ key, v) :: rest =>
    if key = policyKey then
      match policy with
      | some _ => .error (.duplicateField policyKey)
      | none =>
        match policyOfYaml v with
        | .error e => .error e
        | .ok p => takeYaml (some p) rest
    else refuseKey key
  | _ :: _ => .error .malformed

/-- Reads a configuration: a mapping, or nothing at all. -/
def decodeYaml : Option Yaml.Node → Except DecodeError Config
  | none => .ok default
  | some (.scalar _ true "") => .ok default
  | some (.mapping _ entries closed) =>
    (takeYaml none entries).bind fun p => ifClosed closed (withPolicy p)
  | some _ => .error .malformed

/-- The configuration that a YAML text holds. -/
def ofYaml (s : String) : Except ConfigError Config :=
  ((decodeYaml (Yaml.parse s).root).bind (ifClosed (Yaml.parse s).ended)).mapError
    (.refused .yaml)

/-! ## Files -/

/-- What is found under a file name. -/
inductive FileContent
  | nothing
  | directory
  | file (bytes : ByteArray)

/-- The text of a file. -/
def FileContent.text : FileContent → Except FileError String
  | .nothing => .error .missing
  | .directory => .error .isDirectory
  | .file bytes =>
    match String.fromUTF8? bytes with
    | some s => .ok s
    | none => .error .notUtf8

/-- The extension of a file name: what follows its last full stop, unless that stands at the
front. -/
def extension? (fileName : String) : Option String :=
  match (fileName.toList.reverse.span (· ≠ '.')) with
  | (after, '.' :: before) =>
    if before.isEmpty then none else some (String.ofList after.reverse)
  | _ => none

/-- The format of a file. -/
def formatOf (fileName : String) : ConfigFormat :=
  if extension? fileName = some "yaml" ∨ extension? fileName = some "yml" then .yaml else .json

/-- The configuration that a text in the given format holds. -/
def ofText : ConfigFormat → String → Except ConfigError Config
  | .json => ofJson
  | .yaml => ofYaml

/-- The configuration in a file of the given name and content. -/
def ofFile (fileName : String) (content : FileContent) : Except ConfigError Config :=
  match content.text with
  | .error cause => .error (.unreadable cause)
  | .ok s => ofText (formatOf fileName) s

end Config

end EdiSchema
