import LoftGraph.CommandLine.Arguments
import LoftGraph.Geometry.Body
import LoftGraph.Geometry.Shell

/-!
# Commands

The four commands with their options: `evaluate` runs a graph, `nodes` lists the node types,
`body` and `shell` build a mesh from options alone.  `Command.read` reads a command off a whole
line of arguments; before the command only the verbosity of the log may be set.
-/

namespace LoftGraph.CommandLine

/-- What the program is asked to do. -/
inductive Command where
  /-- Evaluate a graph, maybe validate it first and export what comes out. -/
  | evaluate (graph : String) (validate : Bool) (target : Option String)
  | nodes
  /-- Build a body and maybe export it. -/
  | body (settings : BodySettings) (seed : Option Seed) (target : Option String)
  /-- Build a shell and maybe export it. -/
  | shell (settings : ShellSettings Float) (target : Option String)

/-- The option that names the file to export to. -/
def exportOption : OptionSpec := ⟨"--export", .text⟩

/-- The option for the verbosity of the log. -/
def verbosityOption : OptionSpec :=
  ⟨"--log-level", .choice ["DEBUG", "INFO", "WARNING", "ERROR", "CRITICAL"]⟩

/-- What may stand before the command. -/
def leadingGrammar : Grammar := ⟨[verbosityOption], 0⟩

/-- The options of `evaluate`. -/
def evaluateGrammar : Grammar := ⟨[exportOption, ⟨"--validate", .flag⟩], 1⟩

/-- The options of `nodes`. -/
def nodesGrammar : Grammar := ⟨[], 0⟩

/-- The options of `body`. -/
def bodyGrammar : Grammar :=
  ⟨[⟨"--shape", .choice (ShapeKind.all.map ShapeKind.name)⟩, ⟨"--steps", .whole⟩,
    ⟨"--height", .real⟩, ⟨"--twist", .real⟩, ⟨"--taper", .real⟩,
    ⟨"--easing", .choice (Easing.all.map Easing.name)⟩, ⟨"--normalize", .flag⟩,
    ⟨"--holes", .flag⟩, ⟨"--remove-frequency", .whole⟩, ⟨"--spine", .flag⟩, ⟨"--seed", .whole⟩,
    exportOption], 0⟩

/-- The options of `shell`. -/
def shellGrammar : Grammar :=
  ⟨[⟨"--shape", .choice (ShellShape.all.map ShellShape.name)⟩, ⟨"--height", .real⟩,
    ⟨"--radius", .real⟩, ⟨"--thickness", .real⟩, exportOption], 0⟩

namespace Command

/-- The command of the arguments of `evaluate`. -/
def evaluateOf (a : Arguments) : Command :=
  .evaluate (a.places.headD "") (a.has "--validate") (a.text? exportOption.name)

/-- The settings of the arguments of `body`. -/
def bodySettings (a : Arguments) : BodySettings :=
  let standard := BodySettings.standard
  let removal := (a.whole? "--remove-frequency").getD 0
  { standard with
    shape := (a.text? "--shape").elim standard.shape ShapeKind.ofName
    steps := .ok ((a.whole? "--steps").getD 10)
    height := (a.real? "--height").elim standard.height .real
    twist := (a.real? "--twist").elim standard.twist .real
    taper := (a.real? "--taper").elim standard.taper .real
    easing := (a.text? "--easing").elim standard.easing Easing.ofName
    normalize := a.has "--normalize"
    enableHoles := a.has "--holes"
    removeShapes := 0 < removal
    removeFrequency := .ok (max removal 1)
    useSpine := a.has "--spine" }

/-- The command of the arguments of `body`. -/
def bodyOf (a : Arguments) : Command :=
  .body (bodySettings a) ((a.whole? "--seed").map Seed.ofInt) (a.text? exportOption.name)

/-- The settings of the arguments of `shell`. -/
def shellSettings (a : Arguments) : ShellSettings Float :=
  let standard : ShellSettings Float := ShellSettings.standard
  { shape := (a.text? "--shape").getD standard.shape
    height := (a.real? "--height").getD standard.height
    radius := (a.real? "--radius").getD standard.radius
    thickness := (a.real? "--thickness").getD standard.thickness }

/-- The command of the arguments of `shell`. -/
def shellOf (a : Arguments) : Command :=
  .shell (shellSettings a) (a.text? exportOption.name)

/-- The names of the commands, with their grammars and what they come to. -/
def table : List (String × Grammar × (Arguments → Command)) :=
  [("evaluate", evaluateGrammar, evaluateOf), ("nodes", nodesGrammar, fun _ => nodes),
   ("body", bodyGrammar, bodyOf), ("shell", shellGrammar, shellOf)]

/-- A command that starts with its name. -/
def named (name : String) (arguments : List String) : Except ArgumentFault Command :=
  match table.find? (fun entry => entry.1 = name) with
  | some (_, grammar, command) => command <$> grammar.read arguments
  | none => .error (.unknownCommand name)

/-- Reads what may stand before the command, then the command.  `skip` says that the first
argument has been used as a value; `extras` are arguments nobody asked for. -/
def readFrom : Bool → List String → List String → Except ArgumentFault Command
  | _, _, [] => .error .missingCommand
  | true, extras, _ :: rest => readFrom false extras rest
  | false, extras, argument :: rest =>
    match Argument.classify leadingGrammar.allOptions argument with
    | .plain => do
      let command ← named argument rest
      if extras.isEmpty then return command else .error (.unrecognized extras)
    | .ambiguous => .error (.ambiguous argument)
    | .unknown => readFrom false (extras ++ [argument]) rest
    | .option o (some value) =>
      match Argument.convert o value with
      | .error fault => .error fault
      | .ok _ => readFrom false extras rest
    | .option o none =>
      match leadingGrammar.giveNext o rest.head? Arguments.empty with
      | .error fault => .error fault
      | .ok (_, used) => readFrom used extras rest

/-- Reads a whole line of arguments. -/
def read (arguments : List String) : Except ArgumentFault Command := do
  leadingGrammar.requireDistinct arguments
  readFrom false [] arguments

end Command

end LoftGraph.CommandLine
