import LoftGraph.Geometry.Hole
import LoftGraph.Geometry.Loft
import LoftGraph.Geometry.Spine

/-!
# Bodies from one record of settings

A body is built without a graph from one flat record, along one of two roads.

* The lofted road grows a pattern, takes its outlines, stacks them, pierces them with holes and
  lofts the stack with its tip closed.
* The spine road walks up a spine; it shares the steps, the spiral, the drift and the height.

A setting that only one road uses may be unusable without harm to the other.  The order in which
the lofted road looks at its settings decides which fault is told when there are several: the
shape, the counts of the pattern, the removal, the easing curve and the holes.
-/

namespace LoftGraph

/-- Everything a body is built from. -/
structure BodySettings where
  shape : Except Fault ShapeKind
  /-- Steps of the pattern or of the spine. -/
  steps : Count
  /-- Size of the shape before scaling. -/
  size : Measure
  scaleStart : Measure
  /-- Factor on the scale after every step. -/
  scaleFactor : Measure
  /-- Rotation of the first placement, in degrees. -/
  rotationStart : Measure
  /-- Rotation added after every step, in degrees. -/
  rotationStep : Measure
  /-- Drift along the first axis after every step. -/
  driftX : Measure
  /-- Drift along the second axis after every step. -/
  driftY : Measure
  /-- Degrees added to the direction of the drift after every step. -/
  spiralAmount : Measure
  /-- Are the odd placements kept, and not the even ones? -/
  inverted : Bool
  starPoints : Count
  /-- Half the thickness of the arms of a cross, relative to its size. -/
  crossThickness : Measure
  height : Measure
  /-- Rotation of the tip against the base, in degrees. -/
  twist : Measure
  /-- The share of its size the tip has lost. -/
  taper : Measure
  /-- Is every outline resampled to the largest count? -/
  normalize : Bool
  easing : Except Fault Easing
  enableHoles : Bool
  /-- Every how many sections there is one. -/
  holeFrequency : Count
  /-- The size of a hole against its section. -/
  holeScale : Measure
  /-- Are outlines removed to leave openings? -/
  removeShapes : Bool
  /-- Every how many outlines, or points of the spine, one is removed. -/
  removeFrequency : Count
  useSpine : Bool
  /-- Radius at the base of the spine. -/
  startRadius : Measure
  /-- Radius at the tip of the spine. -/
  endRadius : Measure
  /-- Length of a segment of the spine. -/
  segmentLength : Measure
  /-- How much the radius of the spine varies, as a share of it. -/
  radiusVariation : Measure

/-- A body with what is to be told about it. -/
structure Body where
  mesh : Mesh Float
  notices : List Notice
  warnings : List LoftWarning

namespace BodySettings

/-- The settings of a panel nobody has touched. -/
def standard : BodySettings where
  shape := .ok .circle
  steps := .ok 10
  size := 20
  scaleStart := 1
  scaleFactor := Scalar.ofDecimal 11 1
  rotationStart := 0
  rotationStep := 15
  driftX := 5
  driftY := 5
  spiralAmount := 0
  inverted := false
  starPoints := .ok 5
  crossThickness := Scalar.ofDecimal 2 1
  height := 200
  twist := 0
  taper := 0
  normalize := false
  easing := .ok .linear
  enableHoles := false
  holeFrequency := .ok 2
  holeScale := .real Hole.defaultScale
  removeShapes := false
  removeFrequency := .ok 2
  useSpine := false
  startRadius := 15
  endRadius := 5
  segmentLength := 20
  radiusVariation := 0

/-- The pattern of the lofted road. -/
def pattern (s : BodySettings) : PatternSettings Measure where
  shape := s.shape
  steps := s.steps
  size := some s.size
  scaleStart := s.scaleStart
  scaleFactor := s.scaleFactor
  rotationStart := s.rotationStart
  rotationStep := s.rotationStep
  driftX := s.driftX
  driftY := s.driftY
  spiralAmount := s.spiralAmount
  starPoints := s.starPoints
  crossThickness := some s.crossThickness

/-- How the lofted road takes outlines. -/
def outlines (s : BodySettings) : OutlineSettings :=
  ⟨s.removeShapes, s.removeFrequency, s.inverted⟩

/-- How the lofted road stacks outlines.  Openings survive only when the order is kept. -/
def sections (s : BodySettings) (easing : Easing) : SectionSettings Float :=
  ⟨some easing.apply, s.normalize, s.removeShapes⟩

/-- How the lofted road lofts the stack. -/
def lofting (s : BodySettings) : LoftSettings Measure := ⟨s.height, s.twist, s.taper, true, true⟩

/-- The spine of the spine road. -/
def spine (s : BodySettings) (seed : Option Seed) : SpineSettings Measure where
  steps := s.steps
  startRadius := s.startRadius
  endRadius := s.endRadius
  height := s.height
  spiralAmount := s.spiralAmount
  driftX := s.driftX
  driftY := s.driftY
  segmentLength := s.segmentLength
  radiusVariation := s.radiusVariation
  removeFrequency := if s.removeShapes then s.removeFrequency else .ok 0
  seed := seed

/-- The stack with its holes, if it has any. -/
def pierced (s : BodySettings) (stack : List (CrossSection Float)) :
    Except Fault (List (CrossSection Float)) :=
  if s.enableHoles then do
    let frequency ← s.holeFrequency
    let scale ← s.holeScale.float
    return addHoles stack (Hole.ofFrequency frequency) (Hole.ofScale scale)
  else .ok stack

/-- The body of the lofted road. -/
def buildLofted (s : BodySettings) : Except Fault Body := do
  let placements ← s.pattern.generate
  let outlines ← measuredOutlines placements s.outlines Placement.defaultSegments
  let easing ← s.easing
  let stack ← crossSections outlines (s.sections easing)
  let sections ← s.pierced stack.sections
  let lofted ← measuredLoft (sections.map (CrossSection.map .real)) s.lofting
  return ⟨lofted.mesh, stack.notices, lofted.warnings⟩

/-- The body of the spine road. -/
def buildSpine (s : BodySettings) (seed : Option Seed) : Except Fault Body := do
  let points ← (s.spine seed).generate
  let mesh ← Spine.mesh (points.map (SpinePoint.map Measure.toFloat)) Spine.ringSegments true
  return ⟨mesh, [], []⟩

def build (s : BodySettings) (seed : Option Seed) : Except Fault Body :=
  if s.useSpine then s.buildSpine seed else s.buildLofted

end BodySettings

end LoftGraph
