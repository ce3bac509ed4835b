import LoftGraph.Fields
import LoftGraph.Numeral

/-!
# Command-line arguments

A grammar lists the options of a command and how many places, arguments without a name, it has.
`Grammar.read` takes a list of arguments apart.

* An option may be cut short as long as no other option starts in the same way; an option that is
  spelled out is never ambiguous.
* The value of an option is the next argument, or what follows an equals sign.  An argument that
  looks like a negative number, or has a blank in it, is not an option.
* After a double dash everything is a place; the double dash has to stand next to a place.
* Arguments nobody asked for are collected, and make the whole line wrong in the end.
-/

namespace LoftGraph.CommandLine

inductive OptionKind where
  | flag
  | text
  | choice (words : List String)
  | whole
  | real
  | help
  deriving Repr, DecidableEq

structure OptionSpec where
  name : String
  kind : OptionKind
  deriving Repr, DecidableEq

inductive ArgumentValue where
  | flag
  | text (s : String)
  | whole (i : Int)
  | real (x : Float)

/-- Why a line of arguments is wrong. -/
inductive ArgumentFault where
  | help
  | ambiguous (argument : String)
  | missingValue (option : String)
  | unexpectedValue (option : String)
  /-- The option cannot take this value. -/
  | badValue (option value : String)
  | missingPlace
  | missingCommand
  | unknownCommand (name : String)
  | unrecognized (arguments : List String)
  deriving Repr, DecidableEq

/-- The options and the number of places of a command. -/
structure Grammar where
  options : List OptionSpec
  places : Nat

/-- The option for help, which every command has. -/
def helpOption : OptionSpec := ⟨"--help", .help⟩

/-- What an argument is taken for. -/
inductive Piece where
  | plain
  /-- An option, maybe with its value. -/
  | option (spec : OptionSpec) (value : Option String)
  /-- An option of no known name. -/
  | unknown
  /-- A start that several options share. -/
  | ambiguous

namespace Argument

/-- The text without a newline at its end. -/
def withoutNewline (cs : List Char) : List Char :=
  if cs.getLast? = some '\n' then cs.dropLast else cs

/-- Does the text look like a negative number?  A newline at its end does not count. -/
def isNegativeNumber (cs : List Char) : Bool :=
  match withoutNewline cs with
  | '-' :: rest =>
    let isDigit := fun c => (Text.digit? c).isSome
    let fraction := (rest.dropWhile isDigit)
    match fraction with
    | [] => !rest.isEmpty
    | '.' :: more => !more.isEmpty && more.all isDigit
    | _ => false
  | _ => false

/-- What stands before and after the first equals sign. -/
def splitValue (argument : String) : String × Option String :=
  let name := argument.toList.takeWhile (· ≠ '=')
  match argument.toList.drop name.length with
  | [] => (argument, none)
  | _ :: value => (String.ofList name, some (String.ofList value))

/-- The options a cut-off argument may stand for, each with its value. -/
def candidates (options : List OptionSpec) (argument : String) :
    List (OptionSpec × Option String) :=
  match argument.toList with
  | '-' :: '-' :: _ =>
    let (name, value) := splitValue argument
    (options.filter (fun o => name.toList.isPrefixOf o.name.toList)).map (fun o => (o, value))
  | '-' :: 'h' :: rest =>
    -- the short form may be given several times in one argument, also behind an equals sign
    let again :=
      match rest with
      | '=' :: c :: more => c :: more
      | _ => rest
    [(helpOption, if again.all (· = 'h') then none else some (String.ofList rest))]
  | _ => []

/-- What an argument that is no option by its spelling is taken for. -/
def classifyCut (options : List OptionSpec) (argument : String) : Piece :=
  match candidates options argument with
  | [(o, value)] => .option o value
  | _ :: _ :: _ => .ambiguous
  | [] =>
    if isNegativeNumber argument.toList || argument.toList.contains ' ' then .plain else .unknown

/-- What an argument is taken for. -/
def classify (options : List OptionSpec) (argument : String) : Piece :=
  if argument.toList.head? ≠ some '-' || argument = "-" then .plain
  else
    -- a name that is spelled out wins over every longer one it begins
    match options.find? (fun o => o.name = argument) with
    | some o => .option o none
    | none =>
      let (name, value) := splitValue argument
      match options.find? (fun o => value.isSome && o.name = name) with
      | some o => .option o value
      | none => classifyCut options argument

def convert (o : OptionSpec) (value : String) : Except ArgumentFault ArgumentValue :=
  match o.kind with
  | .flag => .error (.unexpectedValue o.name)
  | .help => .error (.unexpectedValue o.name)
  | .text => .ok (.text value)
  | .choice words =>
    if value ∈ words then .ok (.text value) else .error (.badValue o.name value)
  | .whole =>
    match Numeral.int? value with
    | some i => .ok (.whole i)
    | none => .error (.badValue o.name value)
  | .real =>
    match Numeral.float? value with
    | some x => .ok (.real x)
    | none => .error (.badValue o.name value)

end Argument

/-- What a line of arguments comes to. -/
structure Arguments where
  options : Fields ArgumentValue
  places : List String
  extras : List String

namespace Arguments

def empty : Arguments := ⟨[], [], []⟩

/-- Records the value of an option. -/
def give (a : Arguments) (o : OptionSpec) (value : ArgumentValue) : Arguments :=
  { a with options := Fields.set a.options o.name value }

/-- Fills a place, if there is one left. -/
def place (a : Arguments) (places : Nat) (argument : String) : Arguments :=
  if a.places.length < places then { a with places := a.places ++ [argument] }
  else { a with extras := a.extras ++ [argument] }

def has (a : Arguments) (name : String) : Bool := Fields.has a.options name

/-- The text an option is given. -/
def text? (a : Arguments) (name : String) : Option String :=
  match Fields.value? a.options name with
  | some (.text s) => some s
  | _ => none

/-- The whole number an option is given. -/
def whole? (a : Arguments) (name : String) : Option Int :=
  match Fields.value? a.options name with
  | some (.whole i) => some i
  | _ => none

/-- The floating point number an option is given. -/
def real? (a : Arguments) (name : String) : Option Float :=
  match Fields.value? a.options name with
  | some (.real x) => some x
  | _ => none

end Arguments

namespace Grammar

/-- The options with the one for help. -/
def allOptions (g : Grammar) : List OptionSpec := helpOption :: g.options

/-- Is the argument plain, so that it can be a value? -/
def isPlain (g : Grammar) (argument : String) : Bool :=
  match Argument.classify g.allOptions argument with
  | .plain => true
  | _ => false

/-- Records an option without a value of its own: the value is the next argument, if it takes
one.  The result tells whether the next argument was used. -/
def giveNext (g : Grammar) (o : OptionSpec) (next : Option String) (a : Arguments) :
    Except ArgumentFault (Arguments × Bool) :=
  match o.kind, next with
  | .help, _ => .error .help
  | .flag, _ => .ok (a.give o .flag, false)
  | _, none => .error (.missingValue o.name)
  | _, some value =>
    if value ≠ "--" && g.isPlain value then do
      let converted ← Argument.convert o value
      return (a.give o converted, true)
    else .error (.missingValue o.name)

/-- Records what stands after a double dash: places alone. -/
def readPlaces (g : Grammar) (arguments : List String) (a : Arguments) : Arguments :=
  arguments.foldl (fun a argument => a.place g.places argument) a

/-- Reads arguments from one on.  `skip` says that the first one has been used as a value,
`placed` that the one before was a place. -/
def readFrom (g : Grammar) :
    Bool → Bool → List String → Arguments → Except ArgumentFault Arguments
  | _, _, [], a => .ok a
  | true, _, _ :: rest, a => readFrom g false false rest a
  | false, placed, argument :: rest, a =>
    if argument = "--" then
      -- apart from places the double dash belongs to nothing, and is left over with all that
      -- follows
      if a.places.length < g.places || placed then .ok (g.readPlaces rest a)
      else .ok { a with extras := a.extras ++ argument :: rest }
    else
      match Argument.classify g.allOptions argument with
      | .plain =>
        readFrom g false (a.places.length < g.places) rest (a.place g.places argument)
      | .ambiguous => .error (.ambiguous argument)
      | .unknown => readFrom g false false rest { a with extras := a.extras ++ [argument] }
      | .option o (some value) =>
        match Argument.convert o value with
        | .error fault => .error fault
        | .ok converted => readFrom g false false rest (a.give o converted)
      | .option o none =>
        match g.giveNext o rest.head? a with
        | .error fault => .error fault
        | .ok (a, used) => readFrom g used false rest a

/-- The first argument before a double dash that several options share, if any. -/
def ambiguity? (g : Grammar) (arguments : List String) : Option String :=
  (arguments.takeWhile (· ≠ "--")).find? (fun argument =>
    match Argument.classify g.allOptions argument with
    | .ambiguous => true
    | _ => false)

/-- No argument before a double dash may be ambiguous, whatever stands before it. -/
def requireDistinct (g : Grammar) (arguments : List String) : Except ArgumentFault Unit :=
  match g.ambiguity? arguments with
  | some argument => .error (.ambiguous argument)
  | none => .ok ()

/-- Takes a line of arguments apart. -/
def read (g : Grammar) (arguments : List String) : Except ArgumentFault Arguments := do
  g.requireDistinct arguments
  let a ← g.readFrom false false arguments Arguments.empty
  if a.places.length < g.places then .error .missingPlace
  else if !a.extras.isEmpty then .error (.unrecognized a.extras)
  else return a

end Grammar

end LoftGraph.CommandLine
