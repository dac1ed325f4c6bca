/-!
# The words of annotations

Sources, keys and values of the annotations that a package carries. Serializers and code generators
read them letter by letter, so the spellings are fixed, `delimeters` and `ignoreCLRF` among them.
-/

namespace EdiSchema

/-! Annotation sources. -/

namespace Source

/-- Details of the message grammar. -/
def mapping : String := "smooks-mapping-data"

/-- How classes and features are bound to elements of a document. -/
def binding : String := "http:///org/eclipse/emf/ecore/util/ExtendedMetaData"

end Source

/-! Keys under `Source.mapping`. -/

namespace Key

/-- Which kind of node an element stands for; its values are those of `Kind`. -/
def kind : String := "type"
def segmentCode : String := "segcode"
def segmentPattern : String := "segcodePattern"
def truncatable : String := "truncable"
def ignoreUnmappedFields : String := "ignoreUnmappedFields"
def description : String := "description"
def documentation : String := "documentation"
def minOccurs : String := "minOccurs"
def maxOccurs : String := "maxOccurs"
def dataType : String := "datatype"
def minLength : String := "minLength"
def maxLength : String := "maxLength"
def required : String := "required"

/-! Keys of a package. -/

def source : String := "src"
def descriptionName : String := "description.name"
def descriptionVersion : String := "description.version"
def segmentDelimiter : String := "delimeters.segment"
def componentDelimiter : String := "delimeters.component"
def fieldDelimiter : String := "delimeters.field"
def fieldRepeatDelimiter : String := "delimeters.fieldRepeat"
def escapeDelimiter : String := "delimeters.escape"
def ignoreLineEnds : String := "delimeters.ignoreCLRF"

end Key

/-! The kinds of nodes that classes and features stand for. -/

namespace Kind

def segment : String := "segment"
def segmentGroup : String := "segmentGroup"
def field : String := "field"
def component : String := "component"

/-- What a document root is said to be where its name is taken. -/
def documentRoot : String := "documentRoot"

end Kind

/-! Keys and values under `Source.binding`. -/

namespace Binding

def name : String := "name"
def kind : String := "kind"
def namespaceKey : String := "namespace"

/-- The kind of a feature that is bound to an element. -/
def element : String := "element"

/-- The namespace of the package itself. -/
def targetNamespace : String := "##targetNamespace"

end Binding

/-- How a flag is written. -/
def flagText (flag : Bool) : String := if flag then "true" else "false"

end EdiSchema
