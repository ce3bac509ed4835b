/-!
# Faults of a geometric computation

A computation on numbers fails for one of a few causes.  `Fault` lists the causes, and
`Fault.message` words them.  Nothing here depends on how a fault is reported: a graph turns it
into a diagnostic, the command line into a line of its log.
-/

namespace LoftGraph

/-- Why a geometric computation has no result. -/
inductive Fault where
  /-- A number was asked of something that is none. -/
  | notNumber
  /-- A whole number beyond the range of floating point was to be computed with. -/
  | numberTooLarge
  /-- A whole number was asked of something that is not a number. -/
  | countOfNaN
  /-- A whole number was asked of an infinity. -/
  | countOfInfinity
  /-- The circle functions were asked for an infinite angle. -/
  | infiniteAngle
  /-- A power of a finite number left the range of the number type. -/
  | powerOverflow
  /-- A full turn was to be shared among no segments. -/
  | noSegments
  /-- A ring was to have fewer than no segments. -/
  | negativeSegments
  /-- More numbers were asked for than can be counted. -/
  | tooMany
  /-- More numbers were asked for than can be held together. -/
  | tooBig
  /-- A number of copies was asked for that no machine word holds. -/
  | countTooLarge
  /-- A triangle names a corner that the mesh of `size` vertices does not have. -/
  | cornerOutOfRange (corner : Int) (size : Nat)
  /-- A random stream was asked for with a seed below zero. -/
  | negativeSeed
  /-- A random stream was asked for with something that is no seed. -/
  | unsuitableSeed
  /-- A random stream was asked for with a text that spells no seed. -/
  | malformedSeed
  /-- A name was asked of something that cannot be one. -/
  | unsuitableName
  /-- No easing curve has this name. -/
  | unknownEasing (name : String)
  /-- No primitive shape has this name. -/
  | unknownShape (name : String)
  /-- A measure that was left open takes part in an operation; the flags tell which operands
  are open. -/
  | openOperand (operation : String) (left right : Bool)
  deriving Repr, DecidableEq

namespace Fault

/-- How an operand that is open, or a number, is called in `message`. -/
def operandName (isOpen : Bool) : String :=
  if isOpen then "NoneType" else "float"

/-- The sentence shown for a fault. -/
def message : Fault → String
  | notNumber => "a number is needed"
  | numberTooLarge => "int too large to convert to float"
  | countOfNaN => "cannot convert float NaN to integer"
  | countOfInfinity => "cannot convert float infinity to integer"
  | infiniteAngle => "math domain error"
  | powerOverflow => "(34, 'Numerical result out of range')"
  | noSegments => "float division by zero"
  | negativeSegments => "negative dimensions are not allowed"
  | tooMany => "Maximum allowed size exceeded"
  | tooBig =>
      "array is too big; `arr.size * arr.dtype.itemsize` is larger than the maximum possible size."
  | countTooLarge => "the count is too large"
  | cornerOutOfRange corner size =>
      s!"index {corner} is out of bounds for axis 0 with size {size}"
  | negativeSeed => "expected non-negative integer"
  | unsuitableSeed => "a seed is a whole number or a list of them"
  | malformedSeed => "unrecognized seed string"
  | unsuitableName => "a name is a text"
  | unknownEasing name =>
      s!"Unknown easing '{name}'. Expected one of: linear, easeOut, easeInOut"
  | unknownShape name => s!"'{name}' is not a valid ShapeKind"
  | openOperand operation left right =>
      s!"unsupported operand type(s) for {operation}: " ++
        s!"'{operandName left}' and '{operandName right}'"

end Fault

/-- The first number of numbers that cannot be held together. -/
def leastExcess : Nat := Nat.pow 2 60

/-- The first number that is not counted, as floating point rounds it. -/
def leastUncounted : Nat := Nat.pow 2 63 - 512

/-- Can so many numbers be held together? -/
def requireHeld (count : Int) : Except Fault Unit :=
  if (leastUncounted : Int) ≤ count then .error .tooMany
  else if (leastExcess : Int) ≤ count then .error .tooBig
  else .ok ()

/-- A computation has a result exactly when its first step has one from which the rest gets
there. -/
theorem bind_eq_ok_iff {ε α β : Type} {x : Except ε α} {f : α → Except ε β} {b : β} :
    (x >>= f) = .ok b ↔ ∃ a, x = .ok a ∧ f a = .ok b := by
  cases x <;> simp [bind, Except.bind]

/-- A whole number read off a number that may have none: an infinity or something that is not
a number is a fault, but only where the count is used. -/
abbrev Count := Except Fault Int

end LoftGraph
