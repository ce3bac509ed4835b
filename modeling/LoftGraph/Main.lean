import LoftGraph.CommandLine.Outcome

/-!
# The program

The outer layer: it looks at the files a command names, lets `CommandLine.run` decide what is to
be done, and does it.
-/

open LoftGraph LoftGraph.CommandLine

/-- The content of a file, if it can be read. -/
def contentOf (name : String) : IO (Option String) := do
  try
    return some (← IO.FS.readFile name)
  catch _ => return none

/-- The files a line of arguments names. -/
def filesFor (arguments : List String) : IO Files := do
  match Command.read arguments with
  | .ok (.evaluate graph _ _) =>
    let content ← contentOf graph
    return ⟨fun name => if name = graph then content else none, fun _ => none⟩
  | _ => return ⟨fun _ => none, fun _ => none⟩

/-- Prints, logs and writes; the exit code is that of the outcome unless a file cannot be
written. -/
def enact (outcome : Outcome) : IO UInt32 := do
  for line in outcome.log do
    IO.eprintln line.text
  for line in outcome.printed do
    IO.println line
  try
    for (name, text) in outcome.written do
      IO.FS.writeFile name text
    return outcome.exit.toUInt32
  catch e =>
    IO.eprintln s!"{LogLevel.error.name}: Export failed: {e}"
    return 1

def main (arguments : List String) : IO UInt32 := do
  let files ← filesFor arguments
  match LoftGraph.CommandLine.run files arguments with
  | .ok outcome => enact outcome
  | .error fault =>
    IO.eprintln fault.message
    return 1
