import LoftGraph.Geometry.Body
import LoftGraph.Proofs.Geometry.Manifold
import LoftGraph.Proofs.Geometry.Measured
import LoftGraph.Proofs.Geometry.Wording

/-!
# The panel of the lofted road

A `Panel` is a record of settings as a panel of controls holds them: numbers that are floating
point or whole, switches and names. `Panel.settings` are the settings that a body is built from.

A body comes about by way of placements, outlines, a stack, the stack with its holes and the loft of
that (`Waypoints`), and these are the ones that the settings determine (`Panel.Passes`,
`buildLofted_eq_ok_iff`).
-/

namespace LoftGraph

/-- The settings of a body of the lofted road. -/
structure Panel where
  shape : ShapeKind
  steps : Int
  /-- Size of the shape before scaling. -/
  size : Float
  scaleStart : Float
  /-- Factor on the scale after every step. -/
  scaleFactor : Float
  /-- Rotation of the first placement, in degrees. -/
  rotationStart : Float
  /-- Rotation added after every step, in degrees. -/
  rotationStep : Float
  /-- Drift along the first axis after every step. -/
  driftX : Float
  /-- Drift along the second axis after every step. -/
  driftY : Float
  /-- Degrees added to the direction of the drift after every step. -/
  spiralAmount : Float
  /-- Are the odd placements kept, and not the even ones? -/
  inverted : Bool
  starPoints : Int
  /-- Half the thickness of the arms of a cross, relative to its size. -/
  crossThickness : Float
  height : Float
  /-- Rotation of the tip against the base, in degrees. -/
  twist : Float
  /-- The share of its size the tip has lost. -/
  taper : Float
  /-- Is every outline resampled to the largest count? -/
  normalize : Bool
  /-- The name of an easing curve. -/
  easing : String
  enableHoles : Bool
  /-- Every how many sections there is one. -/
  holeFrequency : Int
  /-- The size of a hole against its section. -/
  holeScale : Float
  /-- Are outlines removed to leave openings? -/
  removeShapes : Bool
  /-- Every how many outlines one is removed. -/
  removeFrequency : Int
  /-- Radius at the base of a spine. -/
  startRadius : Float
  /-- Radius at the tip of a spine. -/
  endRadius : Float
  /-- Length of a segment of a spine. -/
  segmentLength : Float
  /-- How much the radius of a spine varies, as a share of it. -/
  radiusVariation : Float

namespace Panel

/-- The settings of the body. -/
def settings (p : Panel) : BodySettings where
  shape := .ok p.shape
  steps := .ok p.steps
  size := .real p.size
  scaleStart := .real p.scaleStart
  scaleFactor := .real p.scaleFactor
  rotationStart := .real p.rotationStart
  rotationStep := .real p.rotationStep
  driftX := .real p.driftX
  driftY := .real p.driftY
  spiralAmount := .real p.spiralAmount
  inverted := p.inverted
  starPoints := .ok p.starPoints
  crossThickness := .real p.crossThickness
  height := .real p.height
  twist := .real p.twist
  taper := .real p.taper
  normalize := p.normalize
  easing := Easing.ofName p.easing
  enableHoles := p.enableHoles
  holeFrequency := .ok p.holeFrequency
  holeScale := .real p.holeScale
  removeShapes := p.removeShapes
  removeFrequency := .ok p.removeFrequency
  useSpine := false
  startRadius := .real p.startRadius
  endRadius := .real p.endRadius
  segmentLength := .real p.segmentLength
  radiusVariation := .real p.radiusVariation

/-- The pattern of the body, on floating point numbers. -/
def pattern (p : Panel) : PatternSettings Float where
  shape := .ok p.shape
  steps := .ok p.steps
  size := some p.size
  scaleStart := p.scaleStart
  scaleFactor := p.scaleFactor
  rotationStart := p.rotationStart
  rotationStep := p.rotationStep
  driftX := p.driftX
  driftY := p.driftY
  spiralAmount := p.spiralAmount
  starPoints := .ok p.starPoints
  crossThickness := some p.crossThickness

/-- The whole numbers of the panel. -/
def counts (p : Panel) : List Int := [p.steps, p.starPoints, p.holeFrequency, p.removeFrequency]

theorem pattern_settings (p : Panel) : p.settings.pattern = p.pattern.map .real := rfl

end Panel

/-- What there is on the way to a body. -/
structure Waypoints where
  placements : List (Placement Float)
  outlines : Outlines Float
  easing : Easing
  stack : Stack Float
  /-- The stack with its holes. -/
  sections : List (CrossSection Float)
  lofted : Lofted Float

/-- The body at the end of the way. -/
def Waypoints.body (w : Waypoints) : Body := ⟨w.lofted.mesh, w.stack.notices, w.lofted.warnings⟩

namespace Panel

/-- The way that the settings of the panel lead. -/
structure Passes (p : Panel) (w : Waypoints) : Prop where
  placements : p.pattern.generate = .ok w.placements
  outlines : measuredOutlines (w.placements.map (Placement.map .real)) p.settings.outlines
    Placement.defaultSegments = .ok w.outlines
  easing : Easing.ofName p.easing = .ok w.easing
  stack : crossSections w.outlines (p.settings.sections w.easing) = .ok w.stack
  sections : p.settings.pierced w.stack.sections = .ok w.sections
  lofted : measuredLoft (w.sections.map (CrossSection.map .real)) p.settings.lofting
    = .ok w.lofted

/-- There is only one way. -/
theorem Passes.unique {p : Panel} {w w' : Waypoints} (h : p.Passes w) (h' : p.Passes w') :
    w = w' := by
  obtain ⟨placements, outlines, easing, stack, sections, lofted⟩ := w
  obtain ⟨hplacements, houtlines, heasing, hstack, hsections, hlofted⟩ := h
  cases Except.ok.inj (hplacements.symm.trans h'.placements)
  cases Except.ok.inj (houtlines.symm.trans h'.outlines)
  cases Except.ok.inj (heasing.symm.trans h'.easing)
  cases Except.ok.inj (hstack.symm.trans h'.stack)
  cases Except.ok.inj (hsections.symm.trans h'.sections)
  cases Except.ok.inj (hlofted.symm.trans h'.lofted)
  rfl

theorem Passes.sections_of_holes {p : Panel} {w : Waypoints} (h : p.Passes w)
    (hholes : p.enableHoles = true) :
    w.sections = addHoles w.stack.sections (Hole.ofFrequency p.holeFrequency)
      (Hole.ofScale p.holeScale) := by
  have hpierced : p.settings.pierced w.stack.sections = .ok (addHoles w.stack.sections
      (Hole.ofFrequency p.holeFrequency) (Hole.ofScale p.holeScale)) := if_pos hholes
  exact Except.ok.inj (h.sections.symm.trans hpierced)

/-- Without holes the stack is lofted as it is. -/
theorem Passes.sections_of_solid {p : Panel} {w : Waypoints} (h : p.Passes w)
    (hsolid : p.enableHoles = false) : w.sections = w.stack.sections := by
  have hpierced : p.settings.pierced w.stack.sections = .ok w.stack.sections :=
    if_neg (Bool.not_eq_true _ ▸ hsolid)
  exact Except.ok.inj (h.sections.symm.trans hpierced)

/-- Nothing is told twice about a body. -/
theorem Passes.nodup_messages {p : Panel} {w : Waypoints} (h : p.Passes w) :
    (w.lofted.warnings.map LoftWarning.message).Nodup := by
  obtain ⟨measured, hmeasured, hw⟩ := map_eq_ok_iff.mp h.lofted
  have hwarnings : w.lofted.warnings = measured.warnings := congrArg Lofted.warnings hw.symm
  rw [hwarnings]
  exact Loft.nodup_messages hmeasured

/-- Does the loft close the tip of the body by a fan? -/
def ClosesTip (p : Panel) : Prop :=
  ∃ w, p.Passes w ∧
    ∃ i, Loft.ClosedTip (w.sections.map (CrossSection.map .real)) p.settings.lofting i

/-- **A body is built** by going all the way. -/
theorem buildLofted_eq_ok_iff {p : Panel} {body : Body} :
    p.settings.buildLofted = .ok body ↔ ∃ w, p.Passes w ∧ w.body = body := by
  rw [BodySettings.buildLofted, pattern_settings, PatternSettings.generate_real]
  constructor
  · intro h
    obtain ⟨measured, hmeasured, h⟩ := bind_eq_ok_iff.mp h
    obtain ⟨placements, hplacements, rfl⟩ := map_eq_ok_iff.mp hmeasured
    obtain ⟨outlines, houtlines, h⟩ := bind_eq_ok_iff.mp h
    obtain ⟨easing, heasing, h⟩ := bind_eq_ok_iff.mp h
    obtain ⟨stack, hstack, h⟩ := bind_eq_ok_iff.mp h
    obtain ⟨sections, hsections, h⟩ := bind_eq_ok_iff.mp h
    obtain ⟨lofted, hlofted, h⟩ := bind_eq_ok_iff.mp h
    exact ⟨⟨placements, outlines, easing, stack, sections, lofted⟩,
      ⟨hplacements, houtlines, heasing, hstack, hsections, hlofted⟩, Except.ok.inj h⟩
  · rintro ⟨w, h, rfl⟩
    rw [h.placements]
    refine bind_eq_ok_iff.mpr ⟨_, rfl, bind_eq_ok_iff.mpr ⟨_, h.outlines, ?_⟩⟩
    refine bind_eq_ok_iff.mpr ⟨_, h.easing, bind_eq_ok_iff.mpr ⟨_, h.stack, ?_⟩⟩
    exact bind_eq_ok_iff.mpr ⟨_, h.sections, bind_eq_ok_iff.mpr ⟨_, h.lofted, rfl⟩⟩

end Panel

end LoftGraph
