import LoftGraph.Geometry.CrossSection
import LoftGraph.Mesh.Builder

/-!
# Lofting

A loft joins a stack of cross-sections into a mesh.  Each section is tapered toward its own middle,
twisted about the vertical axis and lifted to its height; the plane's two coordinates become the
first and third coordinate of space.

* Neighbouring sections with outer boundaries of one vertex count are stitched index for index;
  holes are stitched per slot, facing inward.
* A gap, a missing hole or unequal counts leave an opening.  Unequal counts and outlines that have
  collapsed are worth a `LoftWarning`.
* The block of a ring is added when its first wall needs it, and the wall above shares it.  So it
  is enough for `stitch` to carry where the block of the lower ring starts, if it has one.
* With `closeTip` a last section that has collapsed is closed by a fan.
-/

namespace LoftGraph

/-- Something about a loft worth telling. -/
inductive LoftWarning where
  /-- An outline has no area left. -/
  | collapsed (index : Nat)
  /-- Outer boundaries of neighbours differ in their counts. -/
  | outerMismatch (lower : Nat) (lowerCount upperCount : Nat)
  /-- Holes of neighbours in one slot differ in their counts. -/
  | holeMismatch (slot lower : Nat) (lowerCount upperCount : Nat)
  deriving Repr, DecidableEq

def LoftWarning.message : LoftWarning → String
  | collapsed index =>
    s!"Section {index} has collapsed to zero area; its walls will be degenerate."
  | outerMismatch lower lowerCount upperCount =>
    s!"Sections {lower} and {lower + 1} have different vertex counts (" ++
      s!"{lowerCount} vs {upperCount}); leaving an opening."
  | holeMismatch slot lower lowerCount upperCount =>
    s!"Hole {slot} of sections {lower} and {lower + 1} has different vertex counts (" ++
      s!"{lowerCount} vs {upperCount}); leaving the hole wall open."

abbrev Ring (α : Type) := List (Point3 α)

structure LoftSettings (α : Type) where
  height : α
  /-- Rotation of the tip against the base, in degrees. -/
  twist : α
  /-- The share of its size a section at the tip has lost. -/
  taper : α
  /-- Are normals averaged over the triangles around a vertex? -/
  smooth : Bool
  closeTip : Bool

/-- The settings of a loft nobody has touched. -/
def LoftSettings.standard {α : Type} [Scalar α] : LoftSettings α := ⟨200, 0, 0, true, false⟩

structure PlacedSection (α : Type) where
  outer : Ring α
  holes : List (Ring α)
  /-- The outer boundary in the plane, tapered and twisted. -/
  outline : Polygon α

namespace Loft

variable {α : Type}

/-- A polygon of the plane at a height. -/
def lift (p : Polygon α) (y : α) : Ring α := p.map (fun v => ⟨v.x, y, v.y⟩)

@[simp] theorem length_lift (p : Polygon α) (y : α) : (lift p y).length = p.length := by
  simp [lift]

/-- Where the block of a ring starts; the block is added if it has not been yet. -/
def blockOf (block : Option Nat) (ring : Ring α) (b : MeshBuilder α) : Nat × MeshBuilder α :=
  match block with
  | some start => (start, b)
  | none => (b.vertexCount, b.addVertices ring)

/-- Stitches neighbouring rings from an index on.  `block` is where the block of the first ring
starts, if it has one; the result tells the same about the last ring.  An empty ring is an
opening, and a mismatch of counts leaves one and is told. -/
def stitch (reverse : Bool) (mismatch : Nat → Nat → Nat → LoftWarning) :
    Nat → Option Nat → List (Ring α) → MeshBuilder α →
      Option Nat × MeshBuilder α × List LoftWarning
  | _, block, [], b => (block, b, [])
  | _, block, [_], b => (block, b, [])
  | i, block, lower :: upper :: rest, b =>
    if lower.isEmpty || upper.isEmpty then stitch reverse mismatch (i + 1) none (upper :: rest) b
    else if lower.length ≠ upper.length then
      let (last, b, warnings) := stitch reverse mismatch (i + 1) none (upper :: rest) b
      (last, b, mismatch i lower.length upper.length :: warnings)
    else
      let (start, b) := blockOf block lower b
      -- the block of the upper ring starts where the builder stands now
      let above := b.vertexCount
      let b := (b.addVertices upper).connectRings start above lower.length reverse
      stitch reverse mismatch (i + 1) (some above) (upper :: rest) b

/-- The rings of one hole slot; a section without that hole has an empty one. -/
def slotRings (slot : Nat) (placed : List (PlacedSection α)) : List (Ring α) :=
  placed.map (fun s => (s.holes[slot]?).getD [])

/-- How many hole slots there are. -/
def slotCount (placed : List (PlacedSection α)) : Nat :=
  (placed.map (fun s => s.holes.length)).foldl max 0

/-- Stitches the holes of one slot. -/
def stitchSlot (placed : List (PlacedSection α)) (done : MeshBuilder α × List LoftWarning)
    (slot : Nat) : MeshBuilder α × List LoftWarning :=
  let (_, b, more) :=
    stitch true (LoftWarning.holeMismatch slot) 0 none (slotRings slot placed) done.1
  (b, done.2 ++ more)

/-- Stitches the holes, slot by slot. -/
def stitchHoles (placed : List (PlacedSection α)) (b : MeshBuilder α) :
    MeshBuilder α × List LoftWarning :=
  (List.range (slotCount placed)).foldl (stitchSlot placed) (b, [])

variable [Scalar α]

/-- An outline with less area has collapsed. -/
def collapseThreshold : α := Scalar.ofDecimal 1 3

def hasCollapsed (s : PlacedSection α) : Bool :=
  !s.outline.isEmpty && Scalar.lt s.outline.area collapseThreshold

/-- The warnings about outlines that have collapsed; a tip that gets closed is expected to. -/
def collapseWarnings (placed : List (PlacedSection α)) (closeTip : Bool) : List LoftWarning :=
  placed.zipIdx.filterMap (fun entry =>
    if closeTip && entry.2 + 1 == placed.length then none
    else if hasCollapsed entry.1 then some (.collapsed entry.2) else none)

/-- The average of the points of a ring. -/
def ringCenter (ring : Ring α) : Point3 α :=
  let n : α := Scalar.ofNat ring.length
  ⟨Scalar.sum (ring.map Point3.x) / n, Scalar.sum (ring.map Point3.y) / n,
   Scalar.sum (ring.map Point3.z) / n⟩

/-- Closes the last section if it has collapsed. -/
def closeLast (placed : List (PlacedSection α)) (block : Option Nat) (b : MeshBuilder α) :
    MeshBuilder α :=
  match placed.getLast? with
  | some tip =>
    if hasCollapsed tip then
      let (start, b) := blockOf block tip.outer b
      b.addFan start tip.outer.length [ringCenter tip.outer] true
    else b
  | none => b

/-- Walls, holes and tip of sections in space, with what is to be told. -/
def assemble (placed : List (PlacedSection α)) (closeTip : Bool) :
    MeshBuilder α × List LoftWarning :=
  let (last, b, outerWarnings) :=
    stitch false LoftWarning.outerMismatch 0 none (placed.map PlacedSection.outer) MeshBuilder.empty
  let (b, holeWarnings) := stitchHoles placed b
  let b := if closeTip then closeLast placed last b else b
  (b, collapseWarnings placed closeTip ++ outerWarnings ++ holeWarnings)

end Loft

namespace CrossSection

variable {α : Type} [Circular α]

/-- A polygon of a section at height `t`, shrunk toward its middle. -/
def taperAt (p : Polygon α) (t taper : α) : Except Fault (Polygon α) :=
  if Scalar.eq taper 0 then .ok p
  else (Scalar.checked (1 - taper * t)).map p.scaleAboutCentroid

/-- A polygon of a section at height `t`, turned about the vertical axis. -/
def twistAt (p : Polygon α) (t twist : α) : Except Fault (Polygon α) :=
  if Scalar.eq twist 0 then .ok p
  else p.rotate (Circular.radians (twist * t)) Point.origin

/-- A polygon of a section at height `t`, tapered and twisted.  An empty polygon needs neither
taper nor twist. -/
def transform (p : Polygon α) (t taper twist : α) : Except Fault (Polygon α) :=
  if p.isEmpty then .ok p
  else do
    let tapered ← taperAt p t taper
    twistAt tapered t twist

def place (s : CrossSection α) (height taper twist : α) : Except Fault (PlacedSection α) := do
  let y ← Scalar.checked (s.t * height)
  let outline ← transform s.outer s.t taper twist
  let holes ← s.holes.mapM (fun h => transform h s.t taper twist)
  let y ← Scalar.settled y
  return ⟨Loft.lift outline y, holes.map (fun h => Loft.lift h y), outline⟩

end CrossSection

/-- A mesh with what is to be told about it. -/
structure Lofted (α : Type) where
  mesh : Mesh α
  warnings : List LoftWarning

/-- The result with all its measures changed in the same way. -/
def Lofted.map {α β : Type} (f : α → β) (l : Lofted α) : Lofted β := ⟨l.mesh.map f, l.warnings⟩

/-- The loft of a stack of cross-sections. -/
def loft {α : Type} [Circular α] (sections : List (CrossSection α)) (settings : LoftSettings α) :
    Except Fault (Lofted α) := do
  if sections.isEmpty then return ⟨Mesh.empty, []⟩
  let placed ← sections.mapM (fun s => s.place settings.height settings.taper settings.twist)
  let (b, warnings) := Loft.assemble placed settings.closeTip
  return ⟨b.build settings.smooth, warnings⟩

/-- The loft of cross-sections whose heights are measures. -/
def measuredLoft (sections : List (CrossSection Measure)) (settings : LoftSettings Measure) :
    Except Fault (Lofted Float) :=
  (loft sections settings).map (Lofted.map Measure.toFloat)

end LoftGraph
