import LoftGraph.Geometry.Easing
import LoftGraph.Geometry.Pattern
import LoftGraph.Geometry.Resample
import LoftGraph.Geometry.StableOrder
import LoftGraph.Measure

/-!
# Cross-sections

A cross-section is an outline, with holes, placed at a height `t` between the base and the tip.
One without an outer boundary is a gap, where the walls are left open.

`patternOutlines` turns a pattern into outlines: every other placement is kept, and kept ones may
be removed to mark openings.  `crossSections` stacks outlines in one of two ways:

* sorted: by descending area, so that the largest is the base; removed outlines are dropped;
* preserving their order: removed outlines become gaps.

Heights are spread evenly over `[0, 1]` and then eased.  With normalization every outline is
resampled to the largest vertex count among them.
-/

namespace LoftGraph

/-- An outline with holes at a height. -/
structure CrossSection (α : Type) where
  /-- The outer boundary; a gap has none. -/
  outer : Polygon α
  /-- The inner boundaries. -/
  holes : List (Polygon α)
  /-- The height, between zero at the base and one at the tip. -/
  t : α
  deriving Repr

namespace CrossSection

variable {α : Type}

def isGap (s : CrossSection α) : Bool := s.outer.isEmpty

/-- The section with all its measures changed in the same way. -/
def map {β : Type} (f : α → β) (s : CrossSection α) : CrossSection β where
  outer := s.outer.map (Point.map f)
  holes := s.holes.map (fun hole => hole.map (Point.map f))
  t := f s.t

/-- The section with one more hole. -/
def withHole (s : CrossSection α) (hole : Polygon α) : CrossSection α :=
  { s with holes := s.holes ++ [hole] }

end CrossSection

/-- Outlines in order; a removed one leaves its place empty. -/
abbrev Outlines (α : Type) := List (Option (Polygon α))

structure OutlineSettings where
  /-- Are kept outlines removed to mark openings? -/
  removeShapes : Bool
  /-- Every how many kept outlines one is removed. -/
  removeFrequency : Count
  /-- Are the odd placements kept, and not the even ones? -/
  inverted : Bool

/-- The entries at even places, or at odd ones. -/
def everyOther {β : Type} (odd : Bool) (xs : List β) : List β :=
  (xs.zipIdx.filter (fun entry => entry.2 % 2 == if odd then 1 else 0)).map Prod.fst

/-- Is the kept outline at this index removed? -/
def OutlineSettings.removes (remove : Bool) (frequency : Int) (index : Nat) : Bool :=
  remove && 1 ≤ frequency && index % frequency.toNat == 0

def patternOutlines {α : Type} [Circular α] (placements : List (Placement α))
    (settings : OutlineSettings) (segments : Count) : Except Fault (Outlines α) := do
  let kept := everyOther settings.inverted placements
  let frequency ← settings.removeFrequency
  kept.zipIdx.mapM (fun entry =>
    if OutlineSettings.removes settings.removeShapes frequency entry.2 then .ok none
    else do
      let outline ← entry.1.outline segments
      return some outline)

/-- The outline of a shape placed by measures. -/
def measuredOutline (segments : Count) (p : Placement Measure) : Except Fault (Polygon Float) :=
  (p.outline segments).map (fun outline => outline.map (Point.map Measure.toFloat))

/-- The outlines of a pattern whose placements are given by measures. -/
def measuredOutlines (placements : List (Placement Measure)) (settings : OutlineSettings)
    (segments : Count) : Except Fault (Outlines Float) := do
  let outlines ← patternOutlines placements settings segments
  return outlines.map (Option.map (fun p => p.map (Point.map Measure.toFloat)))

structure SectionSettings (α : Type) where
  /-- The curve that eases heights, if any.  It may be one that has no name. -/
  easing : Option (α → Except Fault α)
  /-- Is every outline resampled to the largest count? -/
  normalize : Bool
  /-- Is the order kept, and are removed outlines gaps? -/
  preserveOrder : Bool

/-- Cross-sections with what had to be said about making them. -/
structure Stack (α : Type) where
  /-- The sections from base to tip. -/
  sections : List (CrossSection α)
  notices : List Notice

namespace Outlines

variable {α : Type} [Scalar α]

/-- Outlines from the largest to the smallest; equally large ones keep their order.  When an area is
undefined there is no such order, and the place of each outline follows from how runs are merged. -/
def byDescendingArea (ps : List (Polygon α)) : List (Polygon α) :=
  let keyed := ps.map (fun p => (-p.area, p))
  let ordered :=
    if keyed.any (fun e => Scalar.undefined e.1) then
      StableOrder.sort (fun a b => Scalar.lt a.1 b.1) keyed
    else keyed.mergeSort (fun a b => !Scalar.lt b.1 a.1)
  ordered.map Prod.snd

/-- The outlines that make sections, in their order, none running clockwise. -/
def arranged (shapes : Outlines α) (preserveOrder : Bool) : Outlines α :=
  if preserveOrder then shapes.map (Option.map Polygon.ensureCounterClockwise)
  else (byDescendingArea (shapes.filterMap (Option.map Polygon.ensureCounterClockwise))).map some

/-- The largest vertex count of an outline that has vertices; none if there is no such outline. -/
def largestCount (shapes : Outlines α) : Nat :=
  (shapes.map (fun s => (s.getD []).length)).foldl max 0

/-- Every outline that has vertices resampled to a count. -/
def resampled (shapes : Outlines α) (count : Nat) : Outlines α :=
  shapes.map (Option.map (fun p => p.resample count))

def resampleNotices (shapes : Outlines α) (count : Nat) : List Notice :=
  shapes.filterMap (fun s => s.bind (fun p => p.resampleNotice? count))

/-- The height of the section at an index, before easing. -/
def height (count index : Nat) : α :=
  if count ≤ 1 then 0 else Scalar.ofNat index / Scalar.ofNat (count - 1)

/-- The height of the section at an index. -/
def easedHeight (easing : Option (α → Except Fault α)) (count index : Nat) : Except Fault α :=
  match easing with
  | none => .ok (height count index)
  | some curve => curve (height count index)

def placed (shapes : Outlines α) (easing : Option (α → Except Fault α)) :
    Except Fault (List (CrossSection α)) :=
  shapes.zipIdx.mapM (fun entry => do
    let t ← easedHeight easing shapes.length entry.2
    return ⟨entry.1.getD [], [], t⟩)

end Outlines

def crossSections {α : Type} [Scalar α] (shapes : Outlines α) (settings : SectionSettings α) :
    Except Fault (Stack α) := do
  let entries := Outlines.arranged shapes settings.preserveOrder
  let count := Outlines.largestCount entries
  let normalize := settings.normalize && 0 < count
  let sized := if normalize then Outlines.resampled entries count else entries
  let notices := if normalize then Outlines.resampleNotices entries count else []
  let sections ← Outlines.placed sized settings.easing
  return ⟨sections, notices⟩

end LoftGraph
