import LoftGraph.Node.Kind

/-!
# Faults of nodes

A node that runs either yields its outputs or fails for one of the causes of `NodeFault`.  An
input may be absent, because the absent value is of every kind; a node fails only where it really
uses an absent input, and the cause names the use.

Most causes can be told in a sentence, and the evaluation that comes upon them goes on.  A cause
that cannot be told escapes from the evaluation, as `NodeFault.escape?` says.
-/

namespace LoftGraph

/-- How an absent input was to be used. -/
inductive OpenUse where
  | count
  /-- As a number that may also be spelled. -/
  | number
  /-- As an angle or a length. -/
  | measure
  | comparison
  /-- In an operation; the names of the kinds of both operands follow. -/
  | operand (operation left right : String)
  deriving Repr, DecidableEq

/-- The sentence shown for an absent input. -/
def OpenUse.message : OpenUse → String
  | count =>
    "int() argument must be a string, a bytes-like object or a real number, not 'NoneType'"
  | number => "float() argument must be a string or a real number, not 'NoneType'"
  | measure => "must be real number, not NoneType"
  | comparison => "'>' not supported between instances of 'NoneType' and 'int'"
  | operand operation left right =>
    s!"unsupported operand type(s) for {operation}: '{left}' and '{right}'"

/-- Why a node did not yield its outputs. -/
inductive NodeFault where
  /-- An input could not be brought into its kind. -/
  | input (fault : CoercionFault)
  | geometry (fault : Fault)
  | openInput (use : OpenUse)
  /-- Declared outputs of this node type were not produced. -/
  | missingOutputs (nodeType : String) (ports : List String)
  /-- The node says itself what is wrong. -/
  | stated (text : String)
  /-- No sentence can be made of what is wrong: asking for one raises another fault. -/
  | untold (raised : NodeFault)
  /-- The node asks for the whole program to end. -/
  | exit (text : String)
  deriving Repr, DecidableEq

/-- Does a fault ask for the program to end? -/
def NodeFault.isExit : NodeFault → Bool
  | exit _ => true
  | _ => false

/-- What escapes from an evaluation in which a node fails like this.  Nothing does if the failure
can be told. -/
def NodeFault.escape? : NodeFault → Option NodeFault
  | untold raised => some raised
  | exit text => some (exit text)
  | _ => none

/-- The sentence shown for a fault.  It is empty if there is none. -/
def NodeFault.message : NodeFault → String
  | input fault => fault.message
  | geometry fault => fault.message
  | openInput use => use.message
  | missingOutputs nodeType ports =>
    s!"Node type '{nodeType}' did not produce outputs " ++
      Value.bracketed "[" "]" (ports.map Text.quoted)
  | stated text => text
  | untold _ => ""
  | exit text => text

end LoftGraph
