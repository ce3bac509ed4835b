import LoftGraph.Geometry.Polygon
import LoftGraph.Geometry.RandomStream
import LoftGraph.Mesh.Builder

/-!
# Spines

A spine is a walk upward along a drifting and spiralling center line.  Every retained point of the
walk carries a ring, and consecutive rings are stitched.

* The walk advances past removed points, so they leave a longer segment and not a shorter body.
* The radius runs from start to end and may be varied at random, one draw for each retained
  point; it never falls below a least radius.
* The walk itself (`advance`) does not depend on what is removed.
-/

namespace LoftGraph

/-- A point of a spine with its ring. -/
structure SpinePoint (α : Type) where
  position : Point3 α
  radius : α
  length : α
  /-- Rotation about the vertical axis, in degrees. -/
  rotation : α
  deriving Repr

/-- The point with all its measures changed in the same way. -/
def SpinePoint.map {α β : Type} (f : α → β) (p : SpinePoint α) : SpinePoint β where
  position := p.position.map f
  radius := f p.radius
  length := f p.length
  rotation := f p.rotation

/-- What a spine is grown from. -/
structure SpineSettings (α : Type) where
  steps : Count
  startRadius : α
  endRadius : α
  height : α
  /-- Degrees the heading turns with every step. -/
  spiralAmount : α
  /-- Drift along the first axis with every step. -/
  driftX : α
  /-- Drift along the third axis with every step. -/
  driftY : α
  segmentLength : α
  /-- How much the radius varies, as a share of it. -/
  radiusVariation : α
  /-- Every how many points one is removed; none for zero or less. -/
  removeFrequency : Count
  seed : Option Seed

structure SpineWalk (α : Type) where
  position : Point3 α
  /-- The rotation so far, in degrees. -/
  rotation : α

namespace SpineSettings

variable {α : Type}

/-- The settings of a spine nobody has touched. -/
def standard [Scalar α] : SpineSettings α where
  steps := .ok 20
  startRadius := 15
  endRadius := 5
  height := 200
  spiralAmount := 0
  driftX := 0
  driftY := 0
  segmentLength := 20
  radiusVariation := 0
  removeFrequency := .ok 0
  seed := none

/-- Is the point at an index kept? -/
def keeps (removeFrequency : Int) (index : Nat) : Bool :=
  !(0 < removeFrequency && index % removeFrequency.toNat == 0)

section

variable [Scalar α]

def leastRadius : α := Scalar.ofDecimal 1 1

/-- The share of the walk that lies below an index. -/
def progress (steps index : Nat) : α :=
  if 1 < steps then Scalar.ofNat index / Scalar.ofNat (steps - 1) else 0

/-- The radius at an index before it is varied. -/
def baseRadius (s : SpineSettings α) (steps index : Nat) : Except Fault α :=
  Scalar.checked (s.startRadius + (s.endRadius - s.startRadius) * progress steps index)

/-- The next variation of a radius, and the stream after it. -/
def variation (s : SpineSettings α) (stream : Option RandomStream) (base : α) :
    Except Fault (α × Option RandomStream) :=
  match stream with
  | none => .ok (0, none)
  | some stream => do
    let (u, stream) : α × RandomStream := stream.unit
    let varied ← Scalar.checked ((u - Scalar.ofDecimal 5 1) * s.radiusVariation * base)
    return (varied, some stream)

/-- The point a walk emits at an index. -/
def point (s : SpineSettings α) (base varied : α) (w : SpineWalk α) : SpinePoint α where
  position := w.position
  radius := Scalar.larger leastRadius (base + varied)
  length := s.segmentLength
  rotation := w.rotation

/-- The stream that varies the radii, if they vary. -/
def stream (s : SpineSettings α) : Except Fault (Option RandomStream) := do
  let amount ← Scalar.checked s.radiusVariation
  if Scalar.lt 0 amount then
    (s.seed.getD (Seed.ofInt 0)).map (fun words => some (RandomStream.ofSeed words))
  else return none

/-- How much a walk of so many steps rises with each. -/
def rise (s : SpineSettings α) (steps : Nat) : Except Fault α :=
  if 0 < steps then Scalar.checked (s.height / Scalar.ofNat steps) else .ok 0

end

variable [Circular α]

/-- Where the walk stands after a step. -/
def advance (s : SpineSettings α) (rise : α) (w : SpineWalk α) :
    Except Fault (SpineWalk α) := do
  let rotation ← Scalar.checked (w.rotation + s.spiralAmount)
  let (c, sn) ← cosSin (Circular.radians rotation)
  let tenth : α := Scalar.ofDecimal 1 1
  let x ← Scalar.checked (s.driftX + c * s.segmentLength * tenth)
  let z ← Scalar.checked (s.driftY + sn * s.segmentLength * tenth)
  return {
    position := ⟨w.position.x + x, w.position.y + rise, w.position.z + z⟩
    rotation := rotation }

/-- The point a walk emits at an index, and the stream after it. -/
def emit (s : SpineSettings α) (steps index : Nat) (stream : Option RandomStream)
    (w : SpineWalk α) : Except Fault (SpinePoint α × Option RandomStream) := do
  let base ← s.baseRadius steps index
  let (varied, stream) ← s.variation stream base
  return (s.point base varied w, stream)

/-- The retained points of so many steps from an index on.  A removed point draws nothing, so
removal shifts the variation of what follows. -/
def walk (s : SpineSettings α) (steps : Nat) (rise : α) (removeFrequency : Int) :
    Nat → Nat → Option RandomStream → SpineWalk α → Except Fault (List (SpinePoint α))
  | 0, _, _, _ => .ok []
  | n + 1, i, stream, w => do
    if keeps removeFrequency i then
      let (p, stream) ← s.emit steps i stream w
      let w' ← s.advance rise w
      let rest ← walk s steps rise removeFrequency n (i + 1) stream w'
      return p :: rest
    else
      let w' ← s.advance rise w
      walk s steps rise removeFrequency n (i + 1) stream w'

/-- The retained points of a spine. -/
def generate (s : SpineSettings α) : Except Fault (List (SpinePoint α)) := do
  let steps ← s.steps
  let removeFrequency ← s.removeFrequency
  let stream ← s.stream
  let rise ← s.rise steps.toNat
  s.walk steps.toNat rise removeFrequency steps.toNat 0 stream ⟨Point3.zero, 0⟩

end SpineSettings

namespace Spine

variable {α : Type} [Circular α]

/-- Segments of a ring whose number is not given. -/
def ringSegments : Int := 16

/-- The points of a full turn in steps of equal angle: a turn cannot be shared among none. -/
def turnAngles (segments : Int) (phase : α) : Except Fault (List α) :=
  if segments = 0 then .error .noSegments
  else if segments < 0 then .error .negativeSegments
  else do
    requireHeld segments
    let step := 2 * Circular.pi / Scalar.ofInt segments
    return (List.range segments.toNat).map (fun i => Scalar.ofNat i * step + phase)

/-- The horizontal ring around a point. -/
def ring (p : SpinePoint α) (segments : Int) : Except Fault (List (Point3 α)) := do
  let angles ← turnAngles segments (Circular.radians p.rotation)
  return angles.map (fun a =>
    ⟨p.position.x + Circular.cos a * p.radius, p.position.y,
     p.position.z + Circular.sin a * p.radius⟩)

/-- Stitches each ring to the one before, of which the block is known. -/
def stitchAbove (segments : Nat) :
    Nat → List (List (Point3 α)) → MeshBuilder α → MeshBuilder α
  | _, [], b => b
  | lower, r :: rest, b =>
    let upper := b.vertexCount
    stitchAbove segments upper rest ((b.addVertices r).connectRings lower upper segments false)

/-- The rings of a spine stitched in order. -/
def stitch (segments : Nat) : List (List (Point3 α)) → MeshBuilder α
  | [] => MeshBuilder.empty
  | r :: rest => stitchAbove segments 0 rest (MeshBuilder.empty.addVertices r)

/-- The mesh of a spine; empty for fewer than two points. -/
def mesh (points : List (SpinePoint α)) (segments : Int) (smooth : Bool) :
    Except Fault (Mesh α) := do
  if points.length < 2 then return Mesh.empty
  let rings ← points.mapM (fun p => ring p segments)
  return (stitch segments.toNat rings).build smooth

end Spine

end LoftGraph
