import LoftGraph.Graph.Document
import LoftGraph.Json.Reader
import LoftGraph.Json.Writer
import LoftGraph.Log
import LoftGraph.Text.Line
import LoftGraph.Value.Document

/-!
# Graphs in files

A graph is stored as a document: its version, then the entries of the document form of the graph.
`Graph.document` is that document, `Graph.fileText` the text of the file; there is none while an
override holds something that a document cannot, or a place is no pair.  `Graph.load` takes the
content of a file, if there is such a file.

A document is taken as it is; whether the graph makes sense is for validation to find out.
-/

namespace LoftGraph

/-- The version of documents that are written. -/
def documentVersion : String := "1.0"

/-- Why a graph cannot be stored. -/
inductive SaveFault where
  | form (fault : DocumentFault)
  /-- An override holds something that a document cannot. -/
  | unstorable
  deriving Repr

/-- Why a file does not hold a graph. -/
inductive LoadFault where
  | noFile (name : String)
  | text (error : Json.SyntaxError) (content : String)
  | notGraph (name : String)
  | malformed (name : String) (fault : DocumentFault)
  /-- The document is no graph, in a way that loading does not account for. -/
  | unforeseen (fault : DocumentFault)
  deriving Repr

/-- The sentence shown for a fault. -/
def LoadFault.message : LoadFault → String
  | noFile name => s!"Graph file not found: {name}"
  | text error content => error.message content
  | notGraph name => s!"Not a graph document: {name}"
  | malformed name fault => s!"Malformed graph document {name}: {fault.message}"
  | unforeseen fault => fault.message

/-- Does loading account for the fault?  It does not for a node that is no object, for a coordinate
out of range, nor for a document that is too deep. -/
def DocumentFault.isForeseen : DocumentFault → Bool
  | .notObject _ | .tooDeep => false
  | .coordinate fault => !fault.isRange
  | _ => true

/-- What loading a file comes to, with what it logged. -/
structure Loaded where
  log : List LogLine
  /-- The graph, or why there is none. -/
  result : Except LoadFault Graph

namespace Graph

/-- The document that stores a graph. -/
def document (g : Graph) : Except SaveFault Json := do
  let entries ← g.entries.mapError SaveFault.form
  match (Value.object (("version", .text documentVersion) :: entries)).toJson? with
  | some document => return document
  | none => .error .unstorable

/-- The text of a file that holds a graph. -/
def fileText (g : Graph) : Except SaveFault String := Json.write <$> g.document

/-- What is to be said about the version of a document. -/
def versionNotes (name : String) (document : Fields Value) : List LogLine :=
  match (document.value? "version").getD .null with
  | .null => [⟨.warning, s!"Graph document {name} has no version field"⟩]
  | version =>
    if version.plain = documentVersion then []
    else
      [⟨.warning,
        s!"Graph document version {version.plain} differs from {documentVersion}; loading anyway"⟩]

def loadDocument (name : String) (document : Json) : Loaded :=
  match document with
  | .object entries =>
    let fields : Fields Value := Value.ofEntries entries
    if !fields.has "nodes" then ⟨[], .error (.notGraph name)⟩
    else
      let log := versionNotes name fields
      match Graph.ofValue (.object fields) with
      | .ok g => ⟨log, .ok g⟩
      | .error fault =>
        ⟨log, .error (if fault.isForeseen then .malformed name fault else .unforeseen fault)⟩
  | _ => ⟨[], .error (.notGraph name)⟩

def load (name : String) (content : Option String) : Loaded :=
  match content with
  | none => ⟨[], .error (.noFile name)⟩
  | some content =>
    let text := String.ofList (Text.plainLineEnds content.toList)
    match Json.read text with
    | .error e => ⟨[], .error (if e.cause = .tooDeep then .unforeseen .tooDeep else .text e text)⟩
    | .ok document => loadDocument name document

end Graph

end LoftGraph
