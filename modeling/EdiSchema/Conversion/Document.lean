import EdiSchema.Grammar.Document
import EdiSchema.Conversion.Tree

/-!
# Documents

The package of a document has the classes of its root group, and one more at the end: the document
root, which wraps the message. The package is named after the message in small letters, and the
description and the separators of the message are noted on it. A document without a root group gives
a package with an empty document root.

The name of the document root must be free. If a class of the message has it the conversion fails,
whatever the policy says about names.
-/

namespace EdiSchema

/-- The name of the class that wraps the message. -/
def documentRootName : String := "DocumentRoot"

/-- What is noted about separators. -/
def Annotations.describeDelimiters (a : Annotations) (d : Delimiters) : Annotations :=
  (((((a.annotate Key.segmentDelimiter (some d.segment)).annotate
    Key.componentDelimiter (some d.component)).annotate
    Key.fieldDelimiter (some d.field)).annotate
    Key.fieldRepeatDelimiter (some d.fieldRepeat)).annotate
    Key.escapeDelimiter (some d.escape)).annotate
      Key.ignoreLineEnds (some (flagText d.ignoreLineEnds))

/-- The package of a document before it has classes. -/
def Document.barePackage (doc : Document) : Package :=
  { Package.named (Text.lowerString doc.description.name) with
    nsUri := doc.description.namespaceUri
    annotations :=
      (((Annotations.empty.annotate Key.source doc.source).annotate
        Key.descriptionName (some doc.description.name)).annotate
        Key.descriptionVersion (some doc.description.version)).describeDelimiters
          doc.delimiters }

/-- The reference from the document root to the class of the message. It bears the name that the
class is bound to. -/
def ClassDef.messageReference (cls : ClassDef) (id : ClassId) : Reference :=
  let name := (cls.annotations.binding? Binding.name).getD cls.name
  { name, target := id, annotations := Annotations.empty.bindElement name }

/-- The class that wraps the message. -/
def Package.documentRootClass (p : Package) (root : Option ClassId) : ClassDef where
  name := documentRootName
  contentKind := .mixed
  annotations :=
    (Annotations.empty.bind Binding.name "").bind Binding.kind ContentKind.mixed.name
  features :=
    match root with
    | none => []
    | some id => ((p.class? id).map fun cls => .ref (cls.messageReference id)).toList

/-- Adds the document root to the classes of a message. -/
def Package.wrap (p : Package) (root : Option ClassId) : Except ConversionError Package :=
  match p.classNamed? documentRootName with
  | some cls => .error (.classNameConflict documentRootName cls.kind Kind.documentRoot)
  | none =>
    .ok { p.addClass (p.documentRootClass root) with
          root := root
          documentRoot := some p.nextId }

/-- The package of a document. -/
def Document.toPackage (doc : Document) (policy : ConflictPolicy) :
    Except ConversionError Package :=
  match doc.root with
  | none => doc.barePackage.wrap none
  | some group =>
    match (Registry.ofPackage doc.barePackage policy).addGroup group with
    | (.error e, _) => .error e
    | (.ok id, r) => r.package.wrap (some id)

end EdiSchema
