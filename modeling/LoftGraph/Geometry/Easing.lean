import LoftGraph.Scalar
import LoftGraph.Fault

/-!
# Easing curves

An easing curve maps a position in `[0, 1]` onto `[0, 1]`.  There are three, known by name.
Outside that interval a power may leave the range of floating point, which is a fault.
-/

namespace LoftGraph

inductive Easing where
  | linear
  /-- Fast start, slow approach to one: a cubic. -/
  | easeOut
  /-- Slow at both ends: two quadratics that meet at one half. -/
  | easeInOut
  deriving Repr, DecidableEq

namespace Easing

/-- All curves, in the order in which they are offered. -/
def all : List Easing := [linear, easeOut, easeInOut]

def name : Easing → String
  | linear => "linear"
  | easeOut => "easeOut"
  | easeInOut => "easeInOut"

def ofName (text : String) : Except Fault Easing :=
  match all.find? (fun e => e.name = text) with
  | some e => .ok e
  | none => .error (.unknownEasing text)

@[simp] theorem ofName_name (e : Easing) : ofName e.name = .ok e := by
  cases e <;> rfl

variable {α : Type} [Scalar α]

/-- A power; a fault when that of a finite number leaves the range.  Over floats every product is
rounded, where a power function rounds once, so that the last digit may differ: `easeOut` takes one
ninth to 0.2976680384087792 here, and to 0.2976680384087793 with such a function. -/
def power (x : α) (n : Nat) : Except Fault α :=
  let y := (List.replicate n x).foldl (· * ·) 1
  if Scalar.finite x && Scalar.infinite y then .error .powerOverflow else .ok y

/-- The curve's value at a position. -/
def apply (e : Easing) (t : α) : Except Fault α :=
  match e with
  | linear => .ok t
  | easeOut => do
    let cube ← power (1 - t) 3
    return 1 - cube
  | easeInOut =>
    if Scalar.lt t (Scalar.ofDecimal 5 1) then .ok (2 * t * t)
    else do
      let square ← power (-2 * t + 2) 2
      return 1 - square / 2

end Easing

end LoftGraph
