import LoftGraph.CommandLine.Command
import LoftGraph.Decimal.Round
import LoftGraph.Graph.Evaluator
import LoftGraph.Graph.Storage
import LoftGraph.Graph.Validation
import LoftGraph.MeshFile.Exchange
import LoftGraph.Node.Builtin

/-!
# What commands come to

`Command.run` carries a command out on the files it is given.  The outcome lists what is printed,
what is logged, which files are written and the exit code; nothing is done yet.

* Exit code 0 is success, 1 a computation that failed, 2 a line or a graph that cannot be used.
* A document that loading does not account for, a fault that escapes from the evaluation, or the
  name of an exported file that is nothing but an extension, ends the run without an outcome: a
  `RunFault`.
-/

namespace LoftGraph.CommandLine

/-- The files a run can see. -/
structure Files where
  /-- The content of a file, if there is one of this name. -/
  content? : String → Option String
  /-- Why a file of this name cannot be written, if it cannot. -/
  refusal? : String → Option FileRefusal

structure Outcome where
  exit : Nat
  printed : List String
  log : List LogLine
  /-- The files written, with their content. -/
  written : List (String × String)

/-- Why a run ends without an outcome. -/
inductive RunFault where
  /-- The document is malformed in an unforeseen way. -/
  | document (fault : DocumentFault)
  | evaluation (fault : NodeFault)
  /-- The name of the exported file is nothing but an extension. -/
  | bareName (name : String)

/-- The sentence shown for a run without an outcome. -/
def RunFault.message : RunFault → String
  | document fault => fault.message
  | evaluation fault => fault.message
  | bareName name => (ExportFault.bare name).message

namespace Outcome

/-- The run of a line of arguments that is wrong. -/
def ofArgumentFault : ArgumentFault → Outcome
  | .help => ⟨0, [], [], []⟩
  | _ => ⟨2, [], [], []⟩

/-- A run that ends with an error. -/
def failure (exit : Nat) (log : List LogLine) (message : String) : Outcome :=
  ⟨exit, [], log ++ [⟨.error, message⟩], []⟩

/-- A run that does something before. -/
def after (printed : List String) (log : List LogLine) (o : Outcome) : Outcome :=
  { o with printed := printed ++ o.printed, log := log ++ o.log }

end Outcome

namespace Command

/-- A corner of a box, in thousandths. -/
def cornerText (p : Point3 Float) : String :=
  Value.bracketed "[" "]" (p.toList.map (fun x => Value.showFloat (toThousandths x)))

def meshLine (label : String) (m : Mesh Float) : String :=
  let (low, high) := m.bounds
  s!"{label}: {m.vertexCount} vertices, {m.triangleCount} triangles, bounds " ++
    s!"{cornerText low} .. {cornerText high}"

/-- The text of the file a mesh is written to. -/
def fileText (files : Files) (name : String) (m : Mesh Float) : Except ExportFault String := do
  let text ← exportMesh name m
  match files.refusal? name with
  | none => return text
  | some refusal => .error (.refused name refusal)

/-- Exports a mesh, if there is a file to export it to. -/
def exportTo (files : Files) (target : Option String) (m : Mesh Float) :
    Except RunFault Outcome :=
  match target.getD "" with
  | "" => .ok ⟨0, [], [], []⟩
  | name =>
    match fileText files name m with
    | .ok text => .ok ⟨0, [s!"Mesh written to {name}"], [], [(name, text)]⟩
    | .error (.bare name) => .error (.bareName name)
    | .error fault => .ok (.failure 1 [] s!"Export failed: {fault.message}")

/-- The line about a node type. -/
def definitionLine (d : NodeDefinition) : String :=
  let padded := fun (width : Nat) (text : String) =>
    text ++ String.ofList (List.replicate (width - text.length) ' ')
  let ids := fun (ports : List Port) => String.intercalate ", " (ports.map Port.id)
  s!"  {padded 16 d.type} {padded 18 d.name} ({ids d.inputs}) -> ({ids d.outputs})"

/-- The node types of a registry, in their groups. -/
def listing (r : Registry) : List String :=
  r.byCategory.flatMap (fun group => group.1 :: group.2.map definitionLine)

/-- The lines about what evaluation found wrong. -/
def diagnosticLines (s : Session) : List String :=
  s.diagnostics.map (fun d => s!"{d.kind.name}: [{d.node}] {d.message}")

def meshLines (meshes : List (Mesh Float)) : List String :=
  if meshes.isEmpty then ["no geometry outputs"]
  else meshes.zipIdx.map (fun entry => meshLine s!"mesh {entry.2}" entry.1)

/-- Evaluates a graph and exports what comes out. -/
def evaluateGraph (files : Files) (g : Graph) (target : Option String) :
    Except RunFault Outcome := do
  let e : Evaluation := ⟨g, Registry.builtin⟩
  match Evaluator.meshOutputs e (Session.ofGraph g) with
  | .error fault _ => .error (.evaluation fault)
  | .ok meshes s =>
    let exported ← exportTo files target (Mesh.merge meshes)
    return exported.after (diagnosticLines s ++ meshLines meshes) s.log

def reportLines (r : Report) : List String :=
  r.warnings.map (fun w => s!"warning: {w.message}") ++
    r.errors.map (fun e => s!"error: {e.message}")

/-- Evaluates a graph, unless it is to be validated first and has errors. -/
def evaluateChecked (files : Files) (g : Graph) (validate : Bool) (target : Option String) :
    Except RunFault Outcome :=
  if validate then do
    let report := g.validate Registry.builtin
    let rest ← if report.errors.isEmpty then evaluateGraph files g target
      else .ok ⟨1, [], [], []⟩
    return rest.after (reportLines report) []
  else evaluateGraph files g target

/-- Loads a graph and evaluates it. -/
def runEvaluate (files : Files) (name : String) (validate : Bool) (target : Option String) :
    Except RunFault Outcome :=
  let loaded := Graph.load name (files.content? name)
  match loaded.result with
  | .ok g => (Outcome.after [] loaded.log) <$> evaluateChecked files g validate target
  | .error (.unforeseen fault) => .error (.document fault)
  | .error fault => .ok (.failure 2 loaded.log s!"Could not load graph: {fault.message}")

/-- Builds a body and exports it. -/
def runBody (files : Files) (settings : BodySettings) (seed : Option Seed)
    (target : Option String) : Except RunFault Outcome :=
  match settings.build seed with
  | .error fault => .ok (.failure 1 [] s!"Could not build body: {fault.message}")
  | .ok built => do
    let warnings := built.warnings.map LoftWarning.message
    let log := (built.notices.map Notice.message ++ warnings).map (LogLine.mk .warning)
    let exported ← exportTo files target built.mesh
    return exported.after
      (warnings.map ("warning: " ++ ·) ++ [meshLine "body" built.mesh]) log

/-- Builds a shell and exports it. -/
def runShell (files : Files) (settings : ShellSettings Float) (target : Option String) :
    Except RunFault Outcome :=
  match settings.mesh with
  | .error fault => .ok (.failure 1 [] fault.message)
  | .ok m => (Outcome.after [meshLine "shell" m] []) <$> exportTo files target m

def run (files : Files) : Command → Except RunFault Outcome
  | evaluate graph validate target => runEvaluate files graph validate target
  | nodes => .ok ⟨0, listing Registry.builtin, [], []⟩
  | body settings seed target => runBody files settings seed target
  | shell settings target => runShell files settings target

end Command

/-- Reads a line of arguments and carries it out. -/
def run (files : Files) (arguments : List String) : Except RunFault Outcome :=
  match Command.read arguments with
  | .ok command => command.run files
  | .error fault => .ok (.ofArgumentFault fault)

end LoftGraph.CommandLine
