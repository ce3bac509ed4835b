import LoftGraph.Scalar
import LoftGraph.Fault

/-!
# Plane polygons

A polygon is the list of its vertices; the edge from the last vertex back to the first is
implicit, so a polygon never repeats its first vertex at the end.

* `signedArea` is positive for a counter-clockwise polygon.
* `turn` rotates by an angle whose cosine and sine are given; `rotate` computes them first, and
  fails where the circle functions do.
* `ensureCounterClockwise` reverses a clockwise polygon and leaves every other one alone.
-/

namespace LoftGraph

/-- A point of the working plane. -/
structure Point (α : Type) where
  x : α
  y : α
  deriving Repr, DecidableEq, Inhabited

/-- The point with both coordinates changed in the same way. -/
def Point.map {α β : Type} (f : α → β) (p : Point α) : Point β := ⟨f p.x, f p.y⟩

abbrev Polygon (α : Type) := List (Point α)

namespace Point

variable {α : Type} [Scalar α]

def origin : Point α := ⟨0, 0⟩

/-- The point moved by another, taken as a vector. -/
def add (p q : Point α) : Point α := ⟨p.x + q.x, p.y + q.y⟩

/-- The vector from `q` to `p`. -/
def sub (p q : Point α) : Point α := ⟨p.x - q.x, p.y - q.y⟩

/-- A vector stretched by a factor. -/
def scale (p : Point α) (factor : α) : Point α := ⟨p.x * factor, p.y * factor⟩

/-- A vector turned by the angle of cosine `c` and sine `s`. -/
def turn (p : Point α) (c s : α) : Point α := ⟨p.x * c - p.y * s, p.x * s + p.y * c⟩

/-- Twice the signed area of the triangle of the origin and two points. -/
def cross (p q : Point α) : α := p.x * q.y - q.x * p.y

/-- Length of the vector from `p` to `q`. -/
def distance (p q : Point α) : α := Scalar.hypot (q.x - p.x) (q.y - p.y)

/-- The point, if both coordinates are numbers that can be computed with. -/
def settled (p : Point α) : Except Fault (Point α) := do
  let x ← Scalar.settled p.x
  let y ← Scalar.settled p.y
  return ⟨x, y⟩

end Point

namespace Polygon

variable {α : Type}

/-- The same closed polygon, started one vertex later. -/
def shifted : Polygon α → Polygon α
  | [] => []
  | p :: rest => rest ++ [p]

/-- The edges, the closing one included, each with its start and its end. -/
def edges (p : Polygon α) : List (Point α × Point α) := p.zip (shifted p)

@[simp] theorem length_shifted (p : Polygon α) : (shifted p).length = p.length := by
  cases p <;> simp [shifted]

@[simp] theorem length_edges (p : Polygon α) : (edges p).length = p.length := by
  simp [edges]

variable [Scalar α]

/-- The area the polygon encloses, positive when it runs counter-clockwise.  Fewer than three
vertices enclose none. -/
def signedArea (p : Polygon α) : α :=
  if p.length < 3 then 0
  else Scalar.ofDecimal 5 1 * Scalar.sum (p.edges.map (fun e => e.1.cross e.2))

def area (p : Polygon α) : α := Scalar.abs p.signedArea

/-- Length of every edge, the closing one included. -/
def edgeLengths (p : Polygon α) : List α := p.edges.map (fun e => e.1.distance e.2)

/-- Length of the boundary. -/
def perimeter (p : Polygon α) : α :=
  if p.length < 2 then 0 else Scalar.sum p.edgeLengths

/-- The average of the vertices; the origin for a polygon without any. -/
def centroid (p : Polygon α) : Point α :=
  if p.isEmpty then Point.origin
  else
    let n : α := Scalar.ofNat p.length
    ⟨Scalar.sum (p.map Point.x) / n, Scalar.sum (p.map Point.y) / n⟩

/-- Every vertex moved toward the center, or away from it for a factor above one. -/
def scaleAbout (p : Polygon α) (center : Point α) (factor : α) : Polygon α :=
  p.map (fun v => center.add ((v.sub center).scale factor))

/-- Scaling about the average of the vertices. -/
def scaleAboutCentroid (p : Polygon α) (factor : α) : Polygon α :=
  p.scaleAbout p.centroid factor

/-- The polygon turned about a center by the angle of cosine `c` and sine `s`. -/
def turn (p : Polygon α) (c s : α) (center : Point α) : Polygon α :=
  p.map (fun v => ((v.sub center).turn c s).add center)

/-- Does the polygon not run clockwise? -/
def isCounterClockwise (p : Polygon α) : Bool := Scalar.le 0 p.signedArea

/-- The polygon, reversed if it runs clockwise. -/
def ensureCounterClockwise (p : Polygon α) : Polygon α :=
  if 3 ≤ p.length ∧ Scalar.lt p.signedArea 0 then p.reverse else p

@[simp] theorem length_scaleAbout (p : Polygon α) (center : Point α) (factor : α) :
    (p.scaleAbout center factor).length = p.length := by
  simp [scaleAbout]

@[simp] theorem length_scaleAboutCentroid (p : Polygon α) (factor : α) :
    (p.scaleAboutCentroid factor).length = p.length := by
  simp [scaleAboutCentroid]

@[simp] theorem length_turn (p : Polygon α) (c s : α) (center : Point α) :
    (p.turn c s center).length = p.length := by
  simp [turn]

/-- Turning a polygon over keeps its vertices, up to their order. -/
theorem ensureCounterClockwise_eq_or (p : Polygon α) :
    p.ensureCounterClockwise = p ∨ p.ensureCounterClockwise = p.reverse := by
  unfold ensureCounterClockwise
  split
  · exact Or.inr rfl
  · exact Or.inl rfl

@[simp] theorem length_ensureCounterClockwise (p : Polygon α) :
    p.ensureCounterClockwise.length = p.length := by
  rcases ensureCounterClockwise_eq_or p with h | h <;> simp [h]

end Polygon

/-- Cosine and sine of an angle in radians; an infinite angle has none. -/
def cosSin {α : Type} [Circular α] (angle : α) : Except Fault (α × α) := do
  let angle ← Scalar.settled angle
  if Scalar.infinite angle then .error .infiniteAngle
  else .ok (Circular.cos angle, Circular.sin angle)

namespace Polygon

/-- The polygon turned about a center by an angle in radians. -/
def rotate {α : Type} [Circular α] (p : Polygon α) (angle : α) (center : Point α) :
    Except Fault (Polygon α) := do
  let (c, s) ← cosSin angle
  return p.turn c s center

end Polygon

end LoftGraph
