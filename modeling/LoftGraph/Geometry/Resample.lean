import LoftGraph.Geometry.Polygon

/-!
# Resampling by arc length

`Polygon.resample` spreads a number of vertices evenly along the boundary of a closed polygon,
the first on the first vertex.  It walks the edges once: the walk carries how far it has come and
the edges still ahead, and moves on while the edge ahead ends before the next target.

* A count below three is raised to three; a polygon that has the count already is kept.
* A polygon without extent comes back as copies of its place, with a `Notice`.
* `Polygon.resampled` is for counts that nobody has checked: it refuses those that are out of
  reach.
* `length_resample`: the result of a polygon with vertices has exactly the count asked for.
-/

namespace LoftGraph

/-- Something a computation had to do differently, worth a line in a log. -/
inductive Notice where
  /-- A polygon without extent was resampled. -/
  | zeroPerimeter (points copies : Nat)
  deriving Repr, DecidableEq

def Notice.message : Notice → String
  | .zeroPerimeter points copies =>
    s!"Resampling a zero-perimeter polygon of {points} points; " ++
      s!"returning {copies} copies of its location"

structure Stretch (α : Type) where
  start : Point α
  stop : Point α
  length : α

namespace Polygon

variable {α : Type} [Scalar α]

/-- The edges with their lengths, the closing one included. -/
def stretches (p : Polygon α) : List (Stretch α) :=
  p.edges.map (fun e => ⟨e.1, e.2, e.1.distance e.2⟩)

/-- Passes the edges that end before a target: how far that is, and the edges still ahead. -/
def passUntil (target : α) : α → List (Stretch α) → α × List (Stretch α)
  | travelled, [] => (travelled, [])
  | travelled, e :: rest =>
    if Scalar.lt (travelled + e.length) target then passUntil target (travelled + e.length) rest
    else (travelled, e :: rest)

/-- The part of an edge that lies before a target, between none and all of it. -/
def fraction (e : Stretch α) (beyond : α) : α :=
  if Scalar.eq e.length 0 then 0 else Scalar.smaller (Scalar.larger (beyond / e.length) 0) 1

/-- The point of the edge ahead that lies so far beyond its start; the fallback stands for a walk
that has run out of edges. -/
def pointAhead (fallback : Point α) (beyond : α) : List (Stretch α) → Point α
  | [] => fallback
  | e :: _ => e.start.add ((e.stop.sub e.start).scale (fraction e beyond))

/-- The points at `i * step`, `(i + 1) * step`, … along the edges ahead. -/
def walk (fallback : Point α) (step : α) : Nat → Nat → α → List (Stretch α) → Polygon α
  | 0, _, _, _ => []
  | n + 1, i, travelled, ahead =>
    let target := Scalar.ofNat i * step
    let (travelled, ahead) := passUntil target travelled ahead
    pointAhead fallback (target - travelled) ahead :: walk fallback step n (i + 1) travelled ahead

/-- The count that is used for a count that is asked for. -/
def resampleCount (count : Int) : Nat := (max count 3).toNat

/-- A number of vertices evenly spaced along the boundary. -/
def resample (p : Polygon α) (count : Int) : Polygon α :=
  let k := resampleCount count
  match p with
  | [] => []
  | first :: rest =>
    -- a polygon of that count is kept as it is, however its vertices lie
    if p.length = k then p
    else
      let total := Scalar.sum p.edgeLengths
      if Scalar.eq total 0 then List.replicate k first
      else walk ((first :: rest).getLast (by simp)) (total / Scalar.ofNat k) k 0 0 p.stretches

/-- Resampling to a count from outside, which may be more than can be held: two numbers a vertex.
The copies of one place are counted in a machine word. -/
def resampled (p : Polygon α) (count : Int) : Except Fault (Polygon α) :=
  let k := resampleCount count
  if p.isEmpty ∨ p.length = k ∨ 2 * k < leastExcess then .ok (p.resample count)
  else
    let limit := if Scalar.eq (Scalar.sum p.edgeLengths) 0 then Nat.pow 2 63 else Nat.pow 2 1024
    .error (if limit ≤ k then .countTooLarge else .tooMany)

/-- The notice that goes with resampling, if any. -/
def resampleNotice? (p : Polygon α) (count : Int) : Option Notice :=
  let k := resampleCount count
  if p.isEmpty ∨ p.length = k then none
  else if Scalar.eq (Scalar.sum p.edgeLengths) 0 then some (.zeroPerimeter p.length k)
  else none

@[simp] theorem length_walk (fallback : Point α) (step : α) (n i : Nat) (travelled : α)
    (ahead : List (Stretch α)) : (walk fallback step n i travelled ahead).length = n := by
  induction n generalizing i travelled ahead with
  | zero => rfl
  | succ n ih => simp [walk, ih]

@[simp] theorem resample_nil (count : Int) : resample ([] : Polygon α) count = [] := rfl

theorem length_resample {p : Polygon α} (h : p ≠ []) (count : Int) :
    (p.resample count).length = resampleCount count := by
  cases p with
  | nil => exact absurd rfl h
  | cons first rest =>
      simp only [resample]
      split
      · assumption
      · split
        · simp
        · simp

end Polygon

end LoftGraph
