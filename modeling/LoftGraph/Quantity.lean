import LoftGraph.Decimal.Binary

/-!
# Quantities

A number that somebody wrote down is either whole or it is not, and where it is shown the two are
told apart.  A `Quantity` keeps a whole number exact, whatever its size.

`Quantity.toFloat` forgets the difference; on what is floating point already it changes nothing.
-/

namespace LoftGraph

/-- A number that is whole or floating point. -/
inductive Quantity where
  | whole (i : Int)
  | real (x : Float)

namespace Quantity

/-- The nearest floating point number; a whole number out of range becomes infinite. -/
def toFloat : Quantity → Float
  | whole i => Float.ofInt i
  | real x => x

@[simp] theorem toFloat_real (x : Float) : (real x).toFloat = x := rfl

end Quantity

end LoftGraph
