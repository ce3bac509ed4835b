import LoftGraph.Geometry.Shape

/-!
# Growing patterns

A pattern is a list of placements in the order in which they grow.  Each step emits the current
state and then drifts, turns, scales and curls it.  The drift is turned by the curl so far before
it is applied, so a spiral amount bends the path.

* Rotations and the spiral amount are given in degrees; placements carry radians.
* A setting that is no number does harm only where it is looked at: the drift at once, everything
  else with the first step.
* `Growth.next` is one step; `Pattern.grow` repeats it.
* Fewer steps give a prefix of the pattern of more steps (`grow_prefix`).
-/

namespace LoftGraph

/-- What a pattern is grown from. -/
structure PatternSettings (α : Type) where
  shape : Except Fault ShapeKind
  /-- How many placements; none for a negative count. -/
  steps : Count
  /-- Size of the shape before scaling. -/
  size : Option α
  scaleStart : α
  /-- Factor on the scale after every step. -/
  scaleFactor : α
  /-- Rotation of the first placement, in degrees. -/
  rotationStart : α
  /-- Rotation added after every step, in degrees. -/
  rotationStep : α
  /-- Drift along the first axis after every step. -/
  driftX : α
  /-- Drift along the second axis after every step. -/
  driftY : α
  /-- Degrees added to the direction of the drift after every step. -/
  spiralAmount : α
  starPoints : Count
  /-- Half the thickness of the arms of a cross, relative to its size. -/
  crossThickness : Option α

/-- The state a pattern grows through. -/
structure Growth (α : Type) where
  center : Point α
  rotation : α
  scale : α
  /-- How far the drift has been curled, in degrees. -/
  curl : α

namespace PatternSettings

variable {α : Type}

/-- The settings of a panel nobody has touched. -/
def standard [Scalar α] : PatternSettings α where
  shape := .ok .circle
  steps := .ok 10
  size := some 20
  scaleStart := 1
  scaleFactor := Scalar.ofDecimal 11 1
  rotationStart := 0
  rotationStep := 15
  driftX := 5
  driftY := 5
  spiralAmount := 0
  starPoints := .ok 5
  crossThickness := some (Scalar.ofDecimal 2 1)

/-- The state before the first step. -/
def start [Scalar α] (s : PatternSettings α) : Growth α :=
  ⟨Point.origin, s.rotationStart, s.scaleStart, 0⟩

variable [Circular α]

/-- Length of the drift of one step. -/
def driftDistance (s : PatternSettings α) : α := Scalar.hypot s.driftX s.driftY

/-- Heading of the drift before it is curled, in radians. -/
def driftHeading (s : PatternSettings α) : α := Circular.atan2 s.driftY s.driftX

/-- The placement of a shape that a state emits. -/
def place (s : PatternSettings α) (shape : ShapeKind) (g : Growth α) :
    Except Fault (Placement α) := do
  let rotation ← Scalar.checked (Circular.radians g.rotation)
  let starPoints ← s.starPoints
  return {
    center := g.center
    rotation := rotation
    scale := g.scale
    shape := shape
    size := s.size
    starPoints := starPoints
    crossThickness := s.crossThickness }

def next (s : PatternSettings α) (g : Growth α) : Except Fault (Growth α) := do
  let (c, sn) ← cosSin (s.driftHeading + Circular.radians g.curl)
  let rotation ← Scalar.checked (g.rotation + s.rotationStep)
  let scale ← Scalar.checked (g.scale * s.scaleFactor)
  let curl ← Scalar.checked (g.curl + s.spiralAmount)
  return {
    center := ⟨g.center.x + s.driftDistance * c, g.center.y + s.driftDistance * sn⟩
    rotation := rotation
    scale := scale
    curl := curl }

/-- The placements of so many steps from a state on. -/
def grow (s : PatternSettings α) (shape : ShapeKind) :
    Nat → Growth α → Except Fault (List (Placement α))
  | 0, _ => .ok []
  | n + 1, g => do
    let placement ← s.place shape g
    let g' ← s.next g
    let rest ← grow s shape n g'
    return placement :: rest

/-- The pattern of the settings.  The number of tips is looked at only when something is
placed. -/
def generate (s : PatternSettings α) : Except Fault (List (Placement α)) := do
  let shape ← s.shape
  let _ ← Scalar.checked s.driftDistance
  let steps ← s.steps
  s.grow shape steps.toNat s.start

/-- What a pattern takes: a shape, a drift that is a number, and a number of steps. -/
theorem generate_eq_ok_iff {s : PatternSettings α} {placements : List (Placement α)} :
    s.generate = .ok placements ↔
      ∃ shape steps, s.shape = .ok shape ∧ Scalar.fault? s.driftDistance = none ∧
        s.steps = .ok steps ∧ s.grow shape steps.toNat s.start = .ok placements := by
  have hchecked : (∃ distance, Scalar.checked s.driftDistance = .ok distance)
      ↔ Scalar.fault? s.driftDistance = none := by
    unfold Scalar.checked
    cases Scalar.fault? s.driftDistance <;> simp
  rw [generate]
  simp only [bind_eq_ok_iff]
  constructor
  · intro ⟨shape, hshape, distance, hdistance, steps, hsteps, hgrow⟩
    exact ⟨shape, steps, hshape, hchecked.mp ⟨distance, hdistance⟩, hsteps, hgrow⟩
  · intro ⟨shape, steps, hshape, hdrift, hsteps, hgrow⟩
    obtain ⟨distance, hdistance⟩ := hchecked.mpr hdrift
    exact ⟨shape, hshape, distance, hdistance, steps, hsteps, hgrow⟩

/-- A pattern of `n` steps is the beginning of any longer one. -/
theorem grow_prefix {s : PatternSettings α} {k : ShapeKind} {n m : Nat} {g : Growth α}
    {long : List (Placement α)} (hnm : n ≤ m) (h : s.grow k m g = .ok long) :
    s.grow k n g = .ok (long.take n) := by
  induction n generalizing m g long with
  | zero => simp [grow]
  | succ n ih =>
      obtain ⟨m, rfl⟩ : ∃ m', m = m' + 1 := ⟨m - 1, by omega⟩
      cases hp : s.place k g with
      | error f => simp [grow, hp, bind, Except.bind] at h
      | ok placement =>
          cases hg : s.next g with
          | error f => simp [grow, hp, hg, bind, Except.bind] at h
          | ok g' =>
              simp only [grow, hp, hg, bind, Except.bind] at h ⊢
              cases hr : s.grow k m g' with
              | error f => simp [hr] at h
              | ok rest =>
                  simp only [hr, pure, Except.pure, Except.ok.injEq] at h
                  subst h
                  rw [ih (by omega) hr]
                  simp [pure, Except.pure]

/-- A pattern of `n` steps has `n` placements. -/
theorem length_grow {s : PatternSettings α} {k : ShapeKind} {n : Nat} {g : Growth α}
    {placements : List (Placement α)} (h : s.grow k n g = .ok placements) :
    placements.length = n := by
  induction n generalizing g placements with
  | zero =>
      simp only [grow, Except.ok.injEq] at h
      subst h
      rfl
  | succ n ih =>
      cases hp : s.place k g with
      | error f => simp [grow, hp, bind, Except.bind] at h
      | ok placement =>
          cases hg : s.next g with
          | error f => simp [grow, hp, hg, bind, Except.bind] at h
          | ok g' =>
              simp only [grow, hp, hg, bind, Except.bind] at h
              cases hr : s.grow k n g' with
              | error f => simp [hr] at h
              | ok rest =>
                  simp only [hr, pure, Except.pure, Except.ok.injEq] at h
                  subst h
                  simp [ih hr]

end PatternSettings

end LoftGraph
