import LoftGraph.Decimal.Layout
import LoftGraph.Decimal.Round

/-!
# Values of fixed storage

A host may keep a value in a storage format: a truth value, a whole number between two bounds, a
floating point number of half, single, double or extended precision, or a text.

* `StorageFormat.ofName?` finds a format by any of its names.
* A `FixedValue` is a value in such a format.  A whole number is kept only if it is within the
  bounds (`WholeFormat.holds`), a floating point number is rounded to the format
  (`RealFormat.keep`).
-/

namespace LoftGraph

inductive RealFormat where
  /-- Eleven bits. -/
  | half
  /-- Twenty-four bits. -/
  | single
  /-- Fifty-three bits. -/
  | double
  /-- Sixty-four bits. -/
  | extended
  deriving Repr, DecidableEq

namespace RealFormat

def name : RealFormat → String
  | half => "float16"
  | single => "float32"
  | double => "float64"
  | extended => "longdouble"

/-- What the format keeps of a number. -/
def precision : RealFormat → Precision
  | half => .half
  | single => .single
  | double => .double
  | extended => .extended

/-- The layout of numbers of the format: the wider it is, the longer notation stays
positional. -/
def layout (f : RealFormat) : NumberLayout :=
  { NumberLayout.display with
    positionalBelow :=
      match f with
      | half => 3
      | single => 6
      | double | extended => 16 }

/-- The number of the format that is nearest to a number. -/
def keep (f : RealFormat) (x : Float) : Float := f.precision.nearest x

end RealFormat

structure WholeFormat where
  name : String
  /-- How many bits wide it is. -/
  bits : Nat
  signed : Bool
  deriving Repr, DecidableEq

namespace WholeFormat

/-- The name that tells the width, which formats of one width share. -/
def widthName (f : WholeFormat) : String := (if f.signed then "int" else "uint") ++ toString f.bits

/-- A format that is named for its width. -/
def ofWidth (bits : Nat) (signed : Bool) : WholeFormat :=
  { name := widthName ⟨"", bits, signed⟩, bits, signed }

/-- Is the whole number within the bounds of the format? -/
def holds (f : WholeFormat) (i : Int) : Bool :=
  if f.signed then -(Int.pow 2 (f.bits - 1)) ≤ i && i < Int.pow 2 (f.bits - 1)
  else 0 ≤ i && i < Int.pow 2 f.bits

end WholeFormat

inductive StorageFormat where
  | truth
  | whole (format : WholeFormat)
  | real (format : RealFormat)
  | text
  deriving Repr, DecidableEq

namespace StorageFormat

/-- The formats, each with its names. -/
def table : List (StorageFormat × List String) :=
  [(truth, ["bool", "bool_"]),
   (whole (.ofWidth 8 true), ["int8", "byte"]),
   (whole (.ofWidth 16 true), ["int16", "short"]),
   (whole (.ofWidth 32 true), ["int32", "intc"]),
   (whole (.ofWidth 64 true), ["int64", "int_", "intp", "long"]),
   (whole ⟨"longlong", 64, true⟩, ["longlong"]),
   (whole (.ofWidth 8 false), ["uint8", "ubyte"]),
   (whole (.ofWidth 16 false), ["uint16", "ushort"]),
   (whole (.ofWidth 32 false), ["uint32", "uintc"]),
   (whole (.ofWidth 64 false), ["uint64", "uint", "uintp", "ulong"]),
   (whole ⟨"ulonglong", 64, false⟩, ["ulonglong"]),
   (real .half, ["float16", "half"]),
   (real .single, ["float32", "single"]),
   (real .double, ["float64", "double"]),
   (real .extended, ["longdouble", "float128"]),
   (text, ["str_"])]

def ofName? (name : String) : Option StorageFormat :=
  (table.find? (fun entry => entry.2.contains name)).map Prod.fst

end StorageFormat

/-- A value kept in a storage format. -/
inductive FixedValue where
  | truth (b : Bool)
  | whole (format : WholeFormat) (i : Int)
  | real (format : RealFormat) (x : Float)
  | text (s : String)

/-- The name of the format of a value. -/
def FixedValue.formatName : FixedValue → String
  | truth _ => "bool"
  | whole format _ => format.name
  | real format _ => format.name
  | text _ => "str_"

end LoftGraph
