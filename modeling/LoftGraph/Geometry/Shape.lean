import LoftGraph.Geometry.Polygon

/-!
# Primitive shapes

The six shapes a pattern is made of, and the outline of a shape that has been placed somewhere.

* A `Placement` says where a shape stands, how it is turned and scaled, and its measures.  The
  size and the thickness of a cross may be left open: such a placement is a value like any other,
  but an outline that needs the open measure does not exist.
* `Placement.outline` is the counter-clockwise outline.  The number of segments matters to the
  circle alone.
-/

namespace LoftGraph

inductive ShapeKind where
  /-- A regular polygon of many sides. -/
  | circle
  /-- A square whose half side is the radius. -/
  | square
  /-- An equilateral triangle that points down. -/
  | triangle
  | hexagon
  | star
  | cross
  deriving Repr, DecidableEq, Inhabited

namespace ShapeKind

/-- All shapes, in the order in which they are offered. -/
def all : List ShapeKind := [circle, square, triangle, hexagon, star, cross]

def name : ShapeKind → String
  | circle => "circle"
  | square => "square"
  | triangle => "triangle"
  | hexagon => "hexagon"
  | star => "star"
  | cross => "cross"

def ofName? (text : String) : Option ShapeKind := all.find? (fun k => k.name = text)

/-- The shape of a name; another name is a fault. -/
def ofName (text : String) : Except Fault ShapeKind :=
  match ofName? text with
  | some k => .ok k
  | none => .error (.unknownShape text)

@[simp] theorem ofName?_name (k : ShapeKind) : ofName? k.name = some k := by
  cases k <;> rfl

end ShapeKind

/-- A shape placed in the plane. -/
structure Placement (α : Type) where
  center : Point α
  /-- By how much it is turned, in radians. -/
  rotation : α
  scale : α
  shape : ShapeKind
  size : Option α
  /-- How many tips a star has. -/
  starPoints : Int
  /-- Half the thickness of the arms of a cross, relative to its size. -/
  crossThickness : Option α
  deriving Repr

/-- The placement with all its measures changed in the same way. -/
def Placement.map {α β : Type} (f : α → β) (p : Placement α) : Placement β where
  center := p.center.map f
  rotation := f p.rotation
  scale := f p.scale
  shape := p.shape
  size := p.size.map f
  starPoints := p.starPoints
  crossThickness := p.crossThickness.map f

/-- The placement with all its measures changed in the same way, if all of them can be. -/
def Placement.mapM {α β : Type} (f : α → Except Fault β) (p : Placement α) :
    Except Fault (Placement β) := do
  return {
    center := ⟨← f p.center.x, ← f p.center.y⟩
    rotation := ← f p.rotation
    scale := ← f p.scale
    shape := p.shape
    size := ← p.size.mapM f
    starPoints := p.starPoints
    crossThickness := ← p.crossThickness.mapM f }

namespace Shape

/-- Segments of a circle whose number is not given. -/
def circleSegments : Nat := 32

variable {α : Type}

/-- The corners of a square around the origin. -/
def squareCorners [Scalar α] (radius : α) : Polygon α :=
  [⟨radius, radius⟩, ⟨-radius, radius⟩, ⟨-radius, -radius⟩, ⟨radius, -radius⟩]

/-- A plus sign whose arms reach `half` and are twice `arm` thick. -/
def crossCorners [Scalar α] (half arm : α) : Polygon α :=
  [⟨half, -arm⟩, ⟨half, arm⟩, ⟨arm, arm⟩, ⟨arm, half⟩, ⟨-arm, half⟩, ⟨-arm, arm⟩,
   ⟨-half, arm⟩, ⟨-half, -arm⟩, ⟨-arm, -arm⟩, ⟨-arm, -half⟩, ⟨arm, -half⟩, ⟨arm, -arm⟩]

variable [Circular α]

/-- The point of a circle around the origin at an angle. -/
def onCircle (radius angle : α) : Point α :=
  ⟨Circular.cos angle * radius, Circular.sin angle * radius⟩

/-- A regular polygon around the origin whose first corner lies at the angle `phase`. -/
def regularCorners (count : Nat) (radius phase : α) : Polygon α :=
  (List.range count).map (fun i =>
    onCircle radius (phase + Scalar.ofNat i * (2 * Circular.pi / Scalar.ofNat count)))

/-- A star around the origin; its inner corners lie at half the radius. -/
def starCorners (tips : Nat) (radius : α) : Polygon α :=
  (List.range (2 * tips)).map (fun i =>
    onCircle (if i % 2 = 0 then radius else radius * Scalar.ofDecimal 5 1)
      (Scalar.ofNat i * (Circular.pi / Scalar.ofNat tips)))

end Shape

namespace Placement

variable {α : Type} [Circular α]

def radius (p : Placement α) : Except Fault α :=
  match p.size with
  | some size => Scalar.checked (size * p.scale)
  | none => .error (.openOperand "*" true false)

/-- Half the thickness of the arms of a cross of a radius. -/
def arm (p : Placement α) (radius : α) : Except Fault α :=
  match p.crossThickness with
  | some thickness => Scalar.checked (radius * thickness)
  | none => .error (.openOperand "*" false true)

/-- The tips a star really has. -/
def tips (p : Placement α) : Nat := (max p.starPoints 2).toNat

/-- The corners of the shape around the origin, unturned.  A radius is brought to the numbers that
are computed with where the corners are formed, and not before. -/
def corners (p : Placement α) (segments : Count) : Except Fault (Polygon α) := do
  let radius ← p.radius
  match p.shape with
  | .circle =>
    let n ← segments
    requireHeld n
    return Shape.regularCorners (max n 3).toNat (← Scalar.settled radius) 0
  | .square => return Shape.squareCorners (← Scalar.settled radius)
  | .triangle => return Shape.regularCorners 3 (← Scalar.settled radius) (-Circular.pi / 2)
  | .hexagon => return Shape.regularCorners 6 (← Scalar.settled radius) 0
  | .star =>
    requireHeld (2 * p.tips)
    return Shape.starCorners p.tips (← Scalar.settled radius)
  | .cross =>
    let arm ← p.arm radius
    return Shape.crossCorners (← Scalar.settled radius) (← Scalar.settled arm)

/-- The counter-clockwise outline of a placed shape. -/
def outline (p : Placement α) (segments : Count) : Except Fault (Polygon α) := do
  let corners ← p.corners segments
  let center ← p.center.settled
  let turned ← corners.rotate p.rotation Point.origin
  return Polygon.ensureCounterClockwise (turned.map (fun v => v.add center))

/-- The number of segments when none is asked for. -/
def defaultSegments : Count := .ok (Shape.circleSegments : Int)

/-- How many vertices the outline of a shape has when the circle has its usual segments. -/
def vertexCount (p : Placement α) : Nat :=
  match p.shape with
  | .circle => Shape.circleSegments
  | .square => 4
  | .triangle => 3
  | .hexagon => 6
  | .star => 2 * p.tips
  | .cross => 12

/-- A shape has as many corners as its kind says. -/
theorem length_corners {p : Placement α} {corners : Polygon α}
    (h : p.corners defaultSegments = .ok corners) : corners.length = p.vertexCount := by
  obtain ⟨radius, -, h⟩ := bind_eq_ok_iff.1 h
  unfold vertexCount
  cases hs : p.shape with
  | circle =>
      simp only [hs] at h
      obtain ⟨n, hn, h⟩ := bind_eq_ok_iff.1 h
      obtain ⟨-, -, h⟩ := bind_eq_ok_iff.1 h
      obtain ⟨settled, -, h⟩ := bind_eq_ok_iff.1 h
      cases hn
      cases h
      simp only [Shape.regularCorners, List.length_map, List.length_range]
      rfl
  | star =>
      simp only [hs] at h
      obtain ⟨-, -, h⟩ := bind_eq_ok_iff.1 h
      obtain ⟨settled, -, h⟩ := bind_eq_ok_iff.1 h
      cases h
      simp [Shape.starCorners]
  | cross =>
      simp only [hs] at h
      obtain ⟨arm, -, h⟩ := bind_eq_ok_iff.1 h
      obtain ⟨settled, -, h⟩ := bind_eq_ok_iff.1 h
      obtain ⟨settledArm, -, h⟩ := bind_eq_ok_iff.1 h
      cases h
      rfl
  | _ =>
      simp only [hs] at h
      obtain ⟨settled, -, h⟩ := bind_eq_ok_iff.1 h
      cases h
      simp [Shape.squareCorners, Shape.regularCorners]

/-- An outline has as many vertices as its shape says. -/
theorem length_outline {p : Placement α} {outline : Polygon α}
    (h : p.outline defaultSegments = .ok outline) : outline.length = p.vertexCount := by
  obtain ⟨corners, hc, h⟩ := bind_eq_ok_iff.1 h
  obtain ⟨center, -, h⟩ := bind_eq_ok_iff.1 h
  obtain ⟨turned, ht, h⟩ := bind_eq_ok_iff.1 h
  obtain ⟨⟨c, s⟩, -, ht⟩ := bind_eq_ok_iff.1 ht
  cases ht
  cases h
  simp [length_corners hc]

end Placement

end LoftGraph
