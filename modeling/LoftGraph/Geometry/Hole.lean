import LoftGraph.Geometry.CrossSection

/-!
# Holes in cross-sections

`addHoles` gives one more hole to every section that a pattern of indices selects.  Gaps never
receive one, and neither does a section for which the hole has no vertices.  Sections keep their
number, order, height, outer boundary and the holes they have.
-/

namespace LoftGraph

/-- Which sections receive a hole, by index. -/
abbrev HolePattern := Nat → Bool

/-- The hole for an outer boundary at a height. -/
abbrev HoleShape (α : Type) := Polygon α → α → Polygon α

namespace Hole

/-- Every second section, the first included. -/
def everySecond : HolePattern := fun index => index % 2 == 0

/-- Every section whose index is a multiple of the frequency; a frequency below one selects
all. -/
def ofFrequency (frequency : Int) : HolePattern :=
  fun index => index % (max frequency 1).toNat == 0

variable {α : Type} [Scalar α]

/-- The scale of a hole when none is asked for. -/
def defaultScale : α := Scalar.ofDecimal 35 2

/-- The outer boundary shrunk toward its middle, from two fifths at the base to a quarter at the
tip. -/
def tapering : HoleShape α := fun outer t =>
  let base := Scalar.ofDecimal 40 2
  let tip := Scalar.ofDecimal 25 2
  outer.scaleAboutCentroid (base - (base - tip) * t)

/-- A scale kept between a fifth and three fifths. -/
def clampedScale (scale : α) : α :=
  Scalar.smaller (Scalar.larger scale (Scalar.ofDecimal 2 1)) (Scalar.ofDecimal 6 1)

/-- The outer boundary shrunk by one scale at every height. -/
def ofScale (scale : α) : HoleShape α := fun outer _ =>
  outer.scaleAboutCentroid (clampedScale scale)

end Hole

/-- The section at an index, with one more hole if it is selected. -/
def addHole {α : Type} (pattern : HolePattern) (shape : HoleShape α) (index : Nat)
    (s : CrossSection α) : CrossSection α :=
  if s.isGap || !pattern index then s
  else
    let hole := shape s.outer s.t
    if hole.isEmpty then s else s.withHole hole

/-- The sections, the selected ones with one more hole. -/
def addHoles {α : Type} (sections : List (CrossSection α)) (pattern : HolePattern)
    (shape : HoleShape α) : List (CrossSection α) :=
  sections.zipIdx.map (fun entry => addHole pattern shape entry.2 entry.1)

namespace CrossSection

variable {α : Type} (pattern : HolePattern) (shape : HoleShape α)

@[simp] theorem addHole_outer (index : Nat) (s : CrossSection α) :
    (addHole pattern shape index s).outer = s.outer := by
  unfold addHole
  split
  · rfl
  · simp only
    split <;> rfl

@[simp] theorem addHole_t (index : Nat) (s : CrossSection α) :
    (addHole pattern shape index s).t = s.t := by
  unfold addHole
  split
  · rfl
  · simp only
    split <;> rfl

@[simp] theorem length_addHoles (sections : List (CrossSection α)) :
    (addHoles sections pattern shape).length = sections.length := by
  simp [addHoles]

end CrossSection

end LoftGraph
