import LoftGraph.Geometry.Hole
import LoftGraph.Geometry.Loft
import LoftGraph.Node.Builtin.Stack

/-!
# Measures that are floating point numbers

A computation on measures that are floating point numbers throughout does what the computation on
those numbers does, with the same faults. This is shown for growing a pattern (`generate_real`) and
for piercing a stack with shrunk outlines (`addHoles_real`).
-/

namespace LoftGraph

open LoftGraph.Measure (real)

/-- The settings with all their measures changed in the same way. -/
def PatternSettings.map {α β : Type} (f : α → β) (s : PatternSettings α) : PatternSettings β where
  shape := s.shape
  steps := s.steps
  size := s.size.map f
  scaleStart := f s.scaleStart
  scaleFactor := f s.scaleFactor
  rotationStart := f s.rotationStart
  rotationStep := f s.rotationStep
  driftX := f s.driftX
  driftY := f s.driftY
  spiralAmount := f s.spiralAmount
  starPoints := s.starPoints
  crossThickness := s.crossThickness.map f

/-- The state with all its measures changed in the same way. -/
def Growth.map {α β : Type} (f : α → β) (g : Growth α) : Growth β where
  center := g.center.map f
  rotation := f g.rotation
  scale := f g.scale
  curl := f g.curl

theorem Placement.ofQuantity_real (p : Placement Float) :
    (p.map .real).map Measure.ofQuantity = p.map real := by
  simp only [Placement.map, Option.map_map]
  rfl

theorem CrossSection.ofQuantity_real (s : CrossSection Float) :
    (s.map .real).map Measure.ofQuantity = s.map real := by
  simp only [CrossSection.map, List.map_map, Function.comp_def]
  rfl

namespace PatternSettings

variable {s : PatternSettings Float} {g : Growth Float} {shape : ShapeKind}

theorem cosSin_real (x : Float) :
    cosSin (real x) = (cosSin x).map (Prod.map real real) := by
  have hmeasure : cosSin (real x) = if Scalar.infinite x then .error .infiniteAngle
      else .ok (real (Circular.cos x), real (Circular.sin x)) := rfl
  have hfloat : cosSin x = if Scalar.infinite x then .error .infiniteAngle
      else .ok (Circular.cos x, Circular.sin x) := rfl
  rw [hmeasure, hfloat]
  split <;> rfl

theorem place_real : (s.map real).place shape (g.map real)
    = (s.place shape g).map (Placement.map real) := by
  show (s.starPoints >>= _) = (s.starPoints >>= _ : Except Fault (Placement Float)).map _
  cases s.starPoints <;> rfl

theorem next_real : (s.map real).next (g.map real) = (s.next g).map (Growth.map real) := by
  have hmeasure : (s.map real).next (g.map real)
      = cosSin (real (s.driftHeading + Circular.radians g.curl)) >>= fun cs => .ok {
          center := ⟨real g.center.x + real s.driftDistance * cs.1,
            real g.center.y + real s.driftDistance * cs.2⟩
          rotation := real (g.rotation + s.rotationStep)
          scale := real (g.scale * s.scaleFactor)
          curl := real (g.curl + s.spiralAmount) } := rfl
  have hfloat : s.next g = cosSin (s.driftHeading + Circular.radians g.curl) >>= fun cs => .ok {
          center := ⟨g.center.x + s.driftDistance * cs.1, g.center.y + s.driftDistance * cs.2⟩
          rotation := g.rotation + s.rotationStep
          scale := g.scale * s.scaleFactor
          curl := g.curl + s.spiralAmount } := rfl
  rw [hmeasure, hfloat, cosSin_real]
  cases cosSin (s.driftHeading + Circular.radians g.curl) <;> rfl

theorem grow_real (n : Nat) : (s.map real).grow shape n (g.map real)
    = (s.grow shape n g).map (List.map (Placement.map real)) := by
  induction n generalizing g with
  | zero => rfl
  | succ n ih =>
    rw [grow, grow, place_real]
    cases s.place shape g with
    | error fault => rfl
    | ok placement =>
      show ((s.map real).next (g.map real) >>= _) = (s.next g >>= _).map _
      rw [next_real]
      cases s.next g with
      | error fault => rfl
      | ok g' =>
        show ((s.map real).grow shape n (g'.map real) >>= _) = (s.grow shape n g' >>= _).map _
        rw [ih]
        cases s.grow shape n g' <;> rfl

/-- **Growing on measures** that are floating point numbers is growing on floating point. -/
theorem generate_real (s : PatternSettings Float) : (s.map real).generate
    = s.generate.map (List.map (Placement.map real)) := by
  show (s.shape >>= fun shape => s.steps >>= fun steps =>
      (s.map real).grow shape steps.toNat (s.start.map real))
    = (s.shape >>= fun shape => s.steps >>= fun steps => s.grow shape steps.toNat s.start).map _
  cases s.shape with
  | error fault => rfl
  | ok shape =>
    cases s.steps with
    | error fault => rfl
    | ok steps => exact grow_real steps.toNat

end PatternSettings

/-! ## Holes -/

/-- A shrunk outline among quantities is the one among their numbers. -/
theorem shrunk_real (scale : Float) (outer : Polygon Float) (t : Float) :
    Builtin.shrunk scale (outer.map (Point.map .real)) (.real t)
      = (Hole.ofScale scale outer t).map (Point.map .real) := by
  have houter : (outer.map (Point.map Quantity.real)).map (Point.map Quantity.toFloat) = outer := by
    rw [List.map_map]
    exact List.map_id outer
  rw [Builtin.shrunk, houter]
  rfl

theorem addHole_real (pattern : HolePattern) (scale : Float) (i : Nat) (s : CrossSection Float) :
    addHole pattern (Builtin.shrunk scale) i (s.map .real)
      = (addHole pattern (Hole.ofScale scale) i s).map .real := by
  have hgap : (s.map Quantity.real).isGap = s.isGap := List.isEmpty_map
  have hhole : Builtin.shrunk scale (s.map Quantity.real).outer (s.map Quantity.real).t
      = (Hole.ofScale scale s.outer s.t).map (Point.map .real) := shrunk_real scale s.outer s.t
  unfold addHole
  simp only [hgap, hhole, List.isEmpty_map]
  split
  · rfl
  · split
    · rfl
    · simp [CrossSection.withHole, CrossSection.map]

/-- **Piercing a stack of quantities** that are floating point numbers with shrunk outlines is
piercing the stack of these numbers. -/
theorem addHoles_real (pattern : HolePattern) (scale : Float)
    (sections : List (CrossSection Float)) :
    addHoles (sections.map (CrossSection.map .real)) pattern (Builtin.shrunk scale)
      = (addHoles sections pattern (Hole.ofScale scale)).map (CrossSection.map .real) := by
  rw [addHoles, addHoles, List.zipIdx_map, List.map_map, List.map_map]
  exact List.map_congr_left fun entry _ => addHole_real pattern scale entry.2 entry.1

end LoftGraph
