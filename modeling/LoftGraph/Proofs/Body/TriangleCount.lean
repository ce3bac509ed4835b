import LoftGraph.Geometry.Body
import LoftGraph.Proofs.Geometry.Ordering
import LoftGraph.Proofs.Geometry.Piercing
import LoftGraph.Proofs.Geometry.TriangleCount

/-!
# How many triangles a body of the lofted road has

All placements of a pattern have one shape, so all outlines that are not removed have one count
(`Outlines.Alike`).  Neither the order of the sections nor resampling changes it, and holes have it
too.  Hence the walls of a body are counted by the neighbouring outlines that are both there, once
for the outer boundary and once more for holes if every section has one; holes in every second
section or in fewer never meet (`triangleCount_of_outlines`).

What is left is to read off the settings how many placements there are, which of them are kept, and
which of the kept outlines are removed.  A body that comes about has looked at these numbers
(`BodySettings.exists_reads`), and they give its triangles (`BodySettings.Reads.triangleCount`).
-/

namespace LoftGraph

open Loft

variable {α : Type}

/-! ## Outlines of one count -/

namespace Outlines

/-- Are these so many outlines of so many vertices, apart from those that are removed? -/
def Alike (shapes : Outlines α) (v n : Nat) (removed : Nat → Bool) : Prop :=
  shapes.map (Option.map List.length)
    = (List.range n).map fun j => if removed j then none else some v

namespace Alike

variable {shapes : Outlines α} {v n : Nat} {removed : Nat → Bool}

theorem length_of_mem (h : shapes.Alike v n removed) {p : Polygon α} (hp : some p ∈ shapes) :
    p.length = v := by
  have hmem : some p.length ∈ shapes.map (Option.map List.length) :=
    List.mem_map.mpr ⟨some p, hp, rfl⟩
  rw [h] at hmem
  obtain ⟨j, -, hj⟩ := List.mem_map.mp hmem
  split at hj
  · cases hj
  · exact (Option.some.inj hj).symm

theorem lengths_eq (h : shapes.Alike v n removed) :
    shapes.map (fun s => (s.getD []).length)
      = (List.range n).map fun j => if removed j then 0 else v := by
  have hcounts : shapes.map (fun s => (s.getD []).length)
      = (shapes.map (Option.map List.length)).map fun count => count.getD 0 := by
    rw [List.map_map]
    refine List.map_congr_left fun s _ => ?_
    cases s <;> rfl
  rw [hcounts, h, List.map_map]
  refine List.map_congr_left fun j _ => ?_
  rw [Function.comp_apply]
  split <;> rfl

variable [Scalar α]

/-- The order of the sections keeps outlines alike, unless some are removed and others take their
places. -/
theorem arranged (h : shapes.Alike v n removed) {preserveOrder : Bool}
    (hkeep : preserveOrder = false → ∀ j, removed j = false) :
    (arranged shapes preserveOrder).Alike v n removed := by
  have hturned : ∀ s : Option (Polygon α),
      (s.map Polygon.ensureCounterClockwise).map List.length = s.map List.length := by
    intro s
    rw [Option.map_map]
    exact congrFun (congrArg Option.map (funext Polygon.length_ensureCounterClockwise)) s
  cases preserveOrder with
  | true =>
    rw [Alike, arranged_kept, List.map_map, ← h]
    exact List.map_congr_left fun s _ => hturned s
  | false =>
    have hall : shapes.map (Option.map List.length) = List.replicate n (some v) := by
      rw [h]
      simp [hkeep rfl, List.map_const']
    have hlengths : shapes.turned.map List.length = List.replicate n v := by
      have hcounts : shapes.turned.map List.length
          = (shapes.map (Option.map List.length)).filterMap id := by
        rw [turned, List.map_filterMap, List.filterMap_map]
        exact congrArg (fun f => List.filterMap f shapes) (funext hturned)
      rw [hcounts, hall]
      simp
    have hsorted : (byDescendingArea shapes.turned).map List.length = List.replicate n v :=
      List.perm_replicate.mp (hlengths ▸ (byDescendingArea_perm shapes.turned).map List.length)
    have hsome : (byDescendingArea shapes.turned).map (fun p => some p.length)
        = ((byDescendingArea shapes.turned).map List.length).map some := by
      rw [List.map_map]
      rfl
    rw [Alike, arranged_sorted, List.map_map]
    exact hsome.trans (by simp [hsorted, hkeep rfl, List.map_const'])

/-- Outlines of one count are not resampled. -/
theorem getD_sized (h : shapes.Alike v n removed) (hv : 3 ≤ v) (settings : SectionSettings α)
    (hkeep : settings.preserveOrder = false → ∀ j, removed j = false) :
    (sized shapes settings).map (fun s => s.getD [])
      = (Outlines.arranged shapes settings.preserveOrder).map fun s => s.getD [] := by
  rw [Outlines.getD_sized]
  refine List.map_congr_left fun s hs => ?_
  split
  · cases s with
    | none => exact Polygon.resample_nil _
    | some p =>
      have hlength : p.length = v := (h.arranged hkeep).length_of_mem hs
      have hlargest : largestCount shapes = v := by
        refine Nat.le_antisymm (largestCount_le_iff.mpr fun s' hs' => ?_) ?_
        · cases s' with
          | none => exact Nat.zero_le v
          | some q => exact Nat.le_of_eq (h.length_of_mem hs')
        · rw [← largestCount_arranged shapes settings.preserveOrder, ← hlength]
          exact length_le_largestCount hs
      refine resample_of_length (.inr ?_)
      rw [hlargest, resampleCount_ofNat, Option.getD_some, hlength]
      omega
  · rfl

/-- The sections of such outlines have their counts, and no holes yet. -/
theorem lengths_of_crossSections (h : shapes.Alike v n removed) (hv : 3 ≤ v)
    {settings : SectionSettings α}
    (hkeep : settings.preserveOrder = false → ∀ j, removed j = false) {stack : Stack α}
    (hstack : crossSections shapes settings = .ok stack) :
    stack.sections.map (fun s => s.outer.length)
        = ((List.range n).map fun j => if removed j then 0 else v) ∧
      ∀ s ∈ stack.sections, s.holes = [] := by
  obtain ⟨houter, hnone⟩ := outer_of_placed (placed_of_crossSections hstack)
  rw [h.getD_sized hv settings hkeep] at houter
  refine ⟨?_, hnone⟩
  have hlengths := congrArg (List.map List.length) houter
  rw [List.map_map, List.map_map] at hlengths
  exact hlengths.trans (h.arranged hkeep).lengths_eq

/-- All rings of their sections have one count. -/
theorem uniform_of_crossSections (h : shapes.Alike v n removed) (hv : 3 ≤ v)
    {settings : SectionSettings α}
    (hkeep : settings.preserveOrder = false → ∀ j, removed j = false) {stack : Stack α}
    (hstack : crossSections shapes settings = .ok stack) : Uniform v stack.sections := by
  obtain ⟨hlengths, hnone⟩ := h.lengths_of_crossSections hv hkeep hstack
  constructor
  · intro s hs hgap
    have hmem : s.outer.length ∈ stack.sections.map fun s => s.outer.length :=
      List.mem_map.mpr ⟨s, hs, rfl⟩
    rw [hlengths] at hmem
    obtain ⟨j, -, hj⟩ := List.mem_map.mp hmem
    split at hj
    · rw [CrossSection.isGap, List.isEmpty_eq_false_iff_exists_mem] at hgap
      obtain ⟨q, hq⟩ := hgap
      exact absurd hj (Nat.ne_of_lt (List.length_pos_of_mem hq))
    · exact hj.symm
  · intro s hs hole hhole
    rw [hnone s hs] at hhole
    cases hhole

end Alike

end Outlines

/-! ## From outlines to triangles -/

namespace BodySettings

variable {s : BodySettings}

/-- Holes leave the outer boundaries.  There is at most one in a section, and those that meet have
the walls that the outer boundaries have. -/
theorem pierced_walls {stack sections : List (CrossSection Float)}
    (hnone : ∀ c ∈ stack, c.holes = []) {frequency : Int}
    (hfrequency : s.enableHoles = true → s.holeFrequency = .ok frequency)
    (h : s.pierced stack = .ok sections) :
    sections.length = stack.length ∧ (∀ c ∈ sections, c.holes.length ≤ 1) ∧
      Tube.outer.count sections = Tube.outer.count stack ∧
      ∀ n, wallTriangles ((Tube.hole 0).count sections) n =
        if s.enableHoles = true ∧ frequency ≤ 1 then wallTriangles (Tube.outer.count stack) n
        else 0 := by
  unfold pierced at h
  split at h
  · next hholes =>
    obtain ⟨frequency', hread, h⟩ := bind_eq_ok_iff.mp h
    cases Except.ok.inj ((hfrequency hholes).symm.trans hread)
    obtain ⟨scale, -, h⟩ := bind_eq_ok_iff.mp h
    cases h
    refine ⟨CrossSection.length_addHoles _ _ _, length_holes_addHoles hnone _ _,
      Tube.count_outer_addHoles _ _, fun n => ?_⟩
    rw [wallTriangles_of_frequency (Tube.count_hole_addHoles hnone _ (.ofScale scale))]
    simp only [hholes, true_and]
  · next hsolid =>
    cases h
    have hlength : ∀ c ∈ stack, c.holes.length ≤ 0 := by
      intro c hc
      rw [hnone c hc]
      exact Nat.le_refl 0
    refine ⟨rfl, fun c hc => Nat.le_succ_of_le (hlength c hc), rfl, fun n => ?_⟩
    rw [if_neg fun h => hsolid h.1]
    exact wallTriangles_of_absent (Tube.count_hole_eq_zero hlength) n

/-- Holes have the count of the boundary around them. -/
theorem uniform_pierced {v : Nat} {stack sections : List (CrossSection Float)}
    (huniform : Uniform v stack) (h : s.pierced stack = .ok sections) : Uniform v sections := by
  unfold pierced at h
  split at h
  · obtain ⟨frequency, -, h⟩ := bind_eq_ok_iff.mp h
    obtain ⟨scale, -, h⟩ := bind_eq_ok_iff.mp h
    cases h
    exact huniform.addHoles _ (.ofScale scale)
  · cases h
    exact huniform

/-- How many triangles the outer walls of a body have: two for each vertex where two neighbouring
outlines are both there. -/
def wallCount (v n : Nat) (removed : Nat → Bool) : Nat :=
  2 * v * (List.range (n - 1)).countP fun j => !removed j && !removed (j + 1)

/-- **The triangles of a body from its outlines.** -/
theorem triangleCount_of_outlines {outlines : Outlines Float} {v n : Nat} {removed : Nat → Bool}
    (halike : outlines.Alike v n removed) (hv : 3 ≤ v)
    (hkeep : s.removeShapes = false → ∀ j, removed j = false) {easing : Easing}
    {stack : Stack Float} (hstack : crossSections outlines (s.sections easing) = .ok stack)
    {frequency : Int} (hfrequency : s.enableHoles = true → s.holeFrequency = .ok frequency)
    {sections : List (CrossSection Float)} (hpierced : s.pierced stack.sections = .ok sections)
    {lofted : Lofted Float}
    (hlofted : measuredLoft (sections.map (CrossSection.map .real)) s.lofting = .ok lofted) :
    sections.length = n ∧
      (tipCollapses (sections.map (CrossSection.map .real)) s.lofting = true →
        removed (n - 1) = false) ∧
      lofted.mesh.triangleCount = wallCount v n removed +
        (if s.enableHoles = true ∧ frequency ≤ 1 then wallCount v n removed else 0) +
        (if tipCollapses (sections.map (CrossSection.map .real)) s.lofting = true then v
          else 0) := by
  obtain ⟨hlengths, hnone⟩ := halike.lengths_of_crossSections hv hkeep hstack
  obtain ⟨hlength, hholes, hbody, hinner⟩ := pierced_walls hnone hfrequency hpierced
  have hcount := Tube.count_outer_eq hlengths
  have hn : sections.length = n := by
    have h := congrArg List.length hlengths
    rw [List.length_map, List.length_map, List.length_range] at h
    exact hlength.trans h
  have houter : wallTriangles (Tube.outer.count stack.sections) n = wallCount v n removed := by
    rw [wallTriangles_eq (by omega) hcount, wallCount]
    refine congrArg (2 * v * ·) (List.countP_congr fun j _ => ?_)
    simp
  have hstands : tipCollapses (sections.map (CrossSection.map .real)) s.lofting = true →
      n - 1 < n ∧ removed (n - 1) = false := by
    intro hclosed
    have hne := count_ne_zero_of_tipCollapses hclosed
    rw [Tube.count_map, List.length_map, hn, hbody, hcount] at hne
    simpa using (ite_ne_right_iff.mp hne).1
  have htip : (if s.lofting.closeTip && tipCollapses (sections.map (CrossSection.map .real))
        s.lofting then Tube.outer.count stack.sections (n - 1) else 0)
      = if tipCollapses (sections.map (CrossSection.map .real)) s.lofting = true then v else 0 := by
    show (if tipCollapses _ _ = true then _ else _) = _
    split
    · next hclosed => simp [hcount, hstands hclosed]
    · rfl
  obtain ⟨measured, hloft, rfl⟩ := map_eq_ok_iff.mp hlofted
  have hslots : ∀ c ∈ sections.map (CrossSection.map Measure.real), c.holes.length ≤ 1 := by
    intro c hc
    obtain ⟨c, hmem, rfl⟩ := List.mem_map.mp hc
    rw [CrossSection.map, List.length_map]
    exact hholes c hmem
  have htriangles := triangleCount_loft hloft rfl hslots
  simp only [Tube.count_map, List.length_map, hn, hbody, htip] at htriangles
  refine ⟨hn, fun hclosed => (hstands hclosed).2, htriangles.trans ?_⟩
  show wallTriangles (Tube.outer.count sections) n +
    (wallTriangles ((Tube.hole 0).count sections) n + 0) + _ = _
  rw [hbody, hinner, houter, Nat.add_zero]

/-- Three squares, with a hole in each: two walls outside and two inside. -/
example :
    let square : Polygon Float := [⟨2, 2⟩, ⟨-2, 2⟩, ⟨-2, -2⟩, ⟨2, -2⟩]
    let s := { standard with removeShapes := true, enableHoles := true, holeFrequency := .ok 1 }
    (do
      let stack ← crossSections [some square, some square, some square] (s.sections .linear)
      let sections ← s.pierced stack.sections
      let lofted ← measuredLoft (sections.map (CrossSection.map .real)) s.lofting
      return lofted.mesh.triangleCount).toOption = some (wallCount 4 3 (fun _ => false) * 2) := by
  decide +kernel

end BodySettings

/-! ## From settings to outlines -/

/-- How many vertices the outline of a shape has, a star of so many points. -/
def ShapeKind.vertexCount (kind : ShapeKind) (starPoints : Int) : Nat :=
  match kind with
  | .circle => 32
  | .square => 4
  | .triangle => 3
  | .hexagon => 6
  | .star => 2 * (max starPoints 2).toNat
  | .cross => 12

theorem ShapeKind.three_le_vertexCount (kind : ShapeKind) (starPoints : Int) :
    3 ≤ kind.vertexCount starPoints := by
  cases kind <;> simp only [vertexCount] <;> omega

theorem Placement.vertexCount_eq (p : Placement α) :
    p.vertexCount = p.shape.vertexCount p.starPoints := by
  unfold vertexCount ShapeKind.vertexCount
  cases p.shape <;> rfl

/-- All placements of a pattern have its shape. -/
theorem PatternSettings.of_mem_grow [Circular α] {s : PatternSettings α}
    {kind : ShapeKind} {n : Nat} {g : Growth α} {placements : List (Placement α)}
    (h : s.grow kind n g = .ok placements) {p : Placement α} (hp : p ∈ placements) :
    p.shape = kind ∧ s.starPoints = .ok p.starPoints := by
  induction n generalizing g placements with
  | zero =>
    cases h
    cases hp
  | succ n ih =>
    obtain ⟨placement, hplacement, h⟩ := bind_eq_ok_iff.mp h
    obtain ⟨g', -, h⟩ := bind_eq_ok_iff.mp h
    obtain ⟨rest, hrest, h⟩ := bind_eq_ok_iff.mp h
    cases h
    cases hp with
    | tail _ hp => exact ih hrest hp
    | head =>
      obtain ⟨rotation, -, hplacement⟩ := bind_eq_ok_iff.mp hplacement
      obtain ⟨starPoints, hstar, hplacement⟩ := bind_eq_ok_iff.mp hplacement
      cases hplacement
      exact ⟨rfl, hstar⟩

/-- The points of a star are looked at with the first step. -/
theorem PatternSettings.exists_starPoints [Circular α] {s : PatternSettings α}
    {kind : ShapeKind} {n : Nat} {g : Growth α} {placements : List (Placement α)}
    (h : s.grow kind n g = .ok placements) :
    ∃ starPoints, 0 < n → s.starPoints = .ok starPoints := by
  cases hplacements : placements with
  | nil =>
    have hn : 0 = n := by simpa [hplacements] using length_grow h
    exact ⟨0, fun hpos => absurd hn (Nat.ne_of_lt hpos)⟩
  | cons first rest =>
    rw [hplacements] at h
    exact ⟨first.starPoints, fun _ => (of_mem_grow h (.head rest)).2⟩

/-- How many entries stand at even places, or at odd ones. -/
theorem length_everyOther {β : Type} (odd : Bool) (xs : List β) : (everyOther odd xs).length
    = (List.range xs.length).countP fun i => i % 2 == if odd then 1 else 0 := by
  rw [everyOther, List.length_map, ← List.countP_eq_length_filter, List.range_eq_range',
    ← List.zipIdx_map_snd, List.countP_map]
  rfl

theorem mem_of_mem_everyOther {β : Type} {odd : Bool} {xs : List β} {x : β}
    (h : x ∈ everyOther odd xs) : x ∈ xs := by
  obtain ⟨entry, hentry, rfl⟩ := List.mem_map.mp h
  exact List.fst_mem_of_mem_zipIdx (List.mem_of_mem_filter hentry)

/-- Placements of one count have outlines of that count. -/
theorem alike_of_measuredOutlines {placements : List (Placement Measure)} {v : Nat}
    (hv : ∀ p ∈ placements, p.vertexCount = v) {settings : OutlineSettings} {frequency : Int}
    (hfrequency : settings.removeFrequency = .ok frequency) {outlines : Outlines Float}
    (h : measuredOutlines placements settings Placement.defaultSegments = .ok outlines) :
    outlines.Alike v (everyOther settings.inverted placements).length
      (OutlineSettings.removes settings.removeShapes frequency) := by
  obtain ⟨measured, hmeasured, h⟩ := bind_eq_ok_iff.mp h
  cases h
  obtain ⟨frequency', hread, hmeasured⟩ := bind_eq_ok_iff.mp hmeasured
  cases Except.ok.inj (hfrequency.symm.trans hread)
  have hcounts := map_eq_map_of_mapM
    (k := fun entry => if OutlineSettings.removes settings.removeShapes frequency entry.2 then none
      else some entry.1.vertexCount) (l := Option.map List.length) hmeasured
    fun entry outline houtline => by
      split at houtline
      · next hremoved =>
        cases houtline
        exact if_pos hremoved
      · next hkept =>
        obtain ⟨polygon, hpolygon, houtline⟩ := bind_eq_ok_iff.mp houtline
        cases houtline
        rw [if_neg hkept, Option.map_some, Placement.length_outline hpolygon]
  have hmap : ∀ s : Option (Polygon Measure),
      (s.map fun p => p.map (Point.map Measure.toFloat)).map List.length = s.map List.length := by
    intro s
    cases s <;> simp
  rw [Outlines.Alike, List.map_map, List.range_eq_range', ← List.zipIdx_map_snd, List.map_map]
  refine (List.map_congr_left fun s _ => hmap s).trans (hcounts.symm.trans ?_)
  refine List.map_congr_left fun entry hentry => ?_
  rw [hv entry.1 (mem_of_mem_everyOther (List.fst_mem_of_mem_zipIdx hentry))]
  rfl

namespace BodySettings

/-- The numbers among the settings, as far as a body that comes about has looked at them. -/
structure Reads (s : BodySettings) (kind : ShapeKind) (steps starPoints removal holes : Int) :
    Prop where
  shape_eq : s.shape = .ok kind
  steps_eq : s.steps = .ok steps
  removal_eq : s.removeFrequency = .ok removal
  /-- The points of a star are looked at with the first step. -/
  starPoints_eq : 0 < steps → s.starPoints = .ok starPoints
  holes_eq : s.enableHoles = true → s.holeFrequency = .ok holes

/-- How many outlines are kept. -/
def kept (s : BodySettings) (steps : Int) : Nat :=
  (List.range steps.toNat).countP fun i => i % 2 == if s.inverted then 1 else 0

/-- Is the kept outline at this index removed to leave an opening? -/
def Opens (s : BodySettings) (removal : Int) (j : Nat) : Prop :=
  s.removeShapes = true ∧ 1 ≤ removal ∧ removal ∣ j

instance (s : BodySettings) (removal : Int) (j : Nat) : Decidable (s.Opens removal j) :=
  inferInstanceAs (Decidable (_ ∧ _ ∧ _))

/-- How many of so many kept outlines are there together with the next one. -/
def joints (s : BodySettings) (removal : Int) (n : Nat) : Nat :=
  (List.range (n - 1)).countP fun j => decide (¬ s.Opens removal j ∧ ¬ s.Opens removal (j + 1))

/-- The sections that are lofted. -/
def stacked (s : BodySettings) : Except Fault (List (CrossSection Float)) := do
  let placements ← s.pattern.generate
  let outlines ← measuredOutlines placements s.outlines Placement.defaultSegments
  let easing ← s.easing
  let stack ← crossSections outlines (s.sections easing)
  s.pierced stack.sections

/-- What a body of the lofted road has been through. -/
theorem build_inv {s : BodySettings} {seed : Option Seed} {body : Body} (hroad : s.useSpine = false)
    (h : s.build seed = .ok body) :
    ∃ placements outlines easing stack sections lofted,
      s.pattern.generate = .ok placements ∧
      measuredOutlines placements s.outlines Placement.defaultSegments = .ok outlines ∧
      crossSections outlines (s.sections easing) = .ok stack ∧
      s.pierced stack.sections = .ok sections ∧
      measuredLoft (sections.map (CrossSection.map .real)) s.lofting = .ok lofted ∧
      s.stacked = .ok sections ∧ body = ⟨lofted.mesh, stack.notices, lofted.warnings⟩ := by
  rw [build, hroad, if_neg Bool.false_ne_true] at h
  obtain ⟨placements, hplacements, h⟩ := bind_eq_ok_iff.mp h
  obtain ⟨outlines, houtlines, h⟩ := bind_eq_ok_iff.mp h
  obtain ⟨easing, heasing, h⟩ := bind_eq_ok_iff.mp h
  obtain ⟨stack, hstack, h⟩ := bind_eq_ok_iff.mp h
  obtain ⟨sections, hsections, h⟩ := bind_eq_ok_iff.mp h
  obtain ⟨lofted, hlofted, h⟩ := bind_eq_ok_iff.mp h
  cases h
  have hstacked : s.stacked = .ok sections :=
    bind_eq_ok_iff.mpr ⟨placements, hplacements, bind_eq_ok_iff.mpr ⟨outlines, houtlines,
      bind_eq_ok_iff.mpr ⟨easing, heasing, bind_eq_ok_iff.mpr ⟨stack, hstack, hsections⟩⟩⟩⟩
  exact ⟨placements, outlines, easing, stack, sections, lofted, hplacements, houtlines, hstack,
    hsections, hlofted, hstacked, rfl⟩

theorem exists_removeFrequency {placements : List (Placement Measure)}
    {settings : OutlineSettings} {segments : Count} {outlines : Outlines Float}
    (h : measuredOutlines placements settings segments = .ok outlines) :
    ∃ removal, settings.removeFrequency = .ok removal := by
  obtain ⟨measured, hmeasured, -⟩ := bind_eq_ok_iff.mp h
  obtain ⟨removal, hremoval, -⟩ := bind_eq_ok_iff.mp hmeasured
  exact ⟨removal, hremoval⟩

theorem exists_holeFrequency {s : BodySettings} {stack sections : List (CrossSection Float)}
    (h : s.pierced stack = .ok sections) :
    ∃ holes, s.enableHoles = true → s.holeFrequency = .ok holes := by
  by_cases hholes : s.enableHoles = true
  · rw [pierced, if_pos hholes] at h
    obtain ⟨holes, hread, -⟩ := bind_eq_ok_iff.mp h
    exact ⟨holes, fun _ => hread⟩
  · exact ⟨0, fun h => absurd h hholes⟩

theorem removes_eq (s : BodySettings) (removal : Int) (j : Nat) :
    OutlineSettings.removes s.removeShapes removal j = decide (s.Opens removal j) := by
  rw [OutlineSettings.removes, Bool.eq_iff_iff, Bool.and_eq_true, Bool.and_eq_true,
    decide_eq_true_eq, decide_eq_true_eq, beq_iff_eq, and_assoc]
  refine and_congr_right fun _ => and_congr_right fun hpos => ?_
  rw [← Nat.dvd_iff_mod_eq_zero, ← Int.natCast_dvd_natCast, Int.toNat_of_nonneg (by omega)]

theorem wallCount_removes (s : BodySettings) (removal : Int) (v n : Nat) :
    wallCount v n (OutlineSettings.removes s.removeShapes removal)
      = 2 * v * s.joints removal n := by
  refine congrArg (2 * v * ·) (List.countP_congr fun j _ => ?_)
  simp [removes_eq]

/-- A body that comes about has looked at its numbers. -/
theorem exists_reads {s : BodySettings} {seed : Option Seed} {body : Body}
    (hroad : s.useSpine = false) (h : s.build seed = .ok body) :
    ∃ kind steps starPoints removal holes, s.Reads kind steps starPoints removal holes := by
  obtain ⟨placements, outlines, easing, stack, sections, lofted, hplacements, houtlines, -,
    hsections, -⟩ := build_inv hroad h
  obtain ⟨kind, steps, hkind, -, hsteps, hgrow⟩ :=
    PatternSettings.generate_eq_ok_iff.mp hplacements
  obtain ⟨starPoints, hstar⟩ := PatternSettings.exists_starPoints hgrow
  obtain ⟨removal, hremoval⟩ := exists_removeFrequency houtlines
  obtain ⟨holes, hholes⟩ := exists_holeFrequency hsections
  exact ⟨kind, steps, starPoints, removal, holes, hkind, hsteps, hremoval,
    fun hpos => hstar (by omega), hholes⟩

section Reads

variable {s : BodySettings} {kind : ShapeKind} {steps starPoints removal holes : Int}

/-- The outlines of a body have the count of its shape, and as many are kept as it says. -/
theorem Reads.alike (h : s.Reads kind steps starPoints removal holes)
    {placements : List (Placement Measure)} (hplacements : s.pattern.generate = .ok placements)
    {outlines : Outlines Float}
    (houtlines : measuredOutlines placements s.outlines Placement.defaultSegments = .ok outlines) :
    outlines.Alike (kind.vertexCount starPoints) (s.kept steps)
      (OutlineSettings.removes s.removeShapes removal) := by
  obtain ⟨kind', steps', hkind, -, hsteps, hgrow⟩ :=
    PatternSettings.generate_eq_ok_iff.mp hplacements
  cases Except.ok.inj (h.shape_eq.symm.trans hkind)
  cases Except.ok.inj (h.steps_eq.symm.trans hsteps)
  have hlength : placements.length = steps.toNat := PatternSettings.length_grow hgrow
  have hvertices : ∀ p ∈ placements, p.vertexCount = kind.vertexCount starPoints := by
    intro p hp
    obtain ⟨hshape, hstar⟩ := PatternSettings.of_mem_grow hgrow hp
    have hpos : 0 < steps := by
      have := List.length_pos_of_mem hp
      omega
    rw [p.vertexCount_eq, hshape, Except.ok.inj (hstar.symm.trans (h.starPoints_eq hpos))]
  have halike := alike_of_measuredOutlines hvertices h.removal_eq houtlines
  rwa [length_everyOther, hlength] at halike

/-- Only if outlines are to be removed any is. -/
theorem removes_of_off (hoff : s.removeShapes = false) (removal : Int) (j : Nat) :
    OutlineSettings.removes s.removeShapes removal j = false := by
  rw [OutlineSettings.removes, hoff]
  rfl

/-- **The triangles of a body from its numbers.** -/
theorem Reads.triangleCount (h : s.Reads kind steps starPoints removal holes)
    (hroad : s.useSpine = false) {seed : Option Seed} {body : Body}
    (hbuild : s.build seed = .ok body) :
    let v := kind.vertexCount starPoints
    let m := s.kept steps
    let P := s.joints removal m
    ∃ sections, s.stacked = .ok sections ∧ sections.length = m ∧
      (tipCollapses (sections.map (CrossSection.map .real)) s.lofting = true →
        ¬ s.Opens removal (m - 1)) ∧
      body.mesh.triangleCount = 2 * v * P +
        (if s.enableHoles = true ∧ holes ≤ 1 then 2 * v * P else 0) +
        (if tipCollapses (sections.map (CrossSection.map .real)) s.lofting = true then v
          else 0) := by
  intro v m P
  obtain ⟨placements, outlines, easing, stack, sections, lofted, hplacements, houtlines, hstack,
    hsections, hlofted, hstacked, rfl⟩ := build_inv hroad hbuild
  obtain ⟨hlength, htip, htriangles⟩ := triangleCount_of_outlines
    (h.alike hplacements houtlines) (kind.three_le_vertexCount starPoints)
    (fun hoff => removes_of_off hoff removal) hstack h.holes_eq hsections hlofted
  refine ⟨sections, hstacked, hlength, fun hclosed => ?_, ?_⟩
  · simpa [removes_eq] using htip hclosed
  · rw [wallCount_removes] at htriangles
    exact htriangles

/-- All that is told of a body is which of its outlines have collapsed. -/
theorem Reads.warnings_collapsed (h : s.Reads kind steps starPoints removal holes)
    (hroad : s.useSpine = false) {seed : Option Seed} {body : Body}
    (hbuild : s.build seed = .ok body) : ∀ w ∈ body.warnings, ∃ i, w = .collapsed i := by
  obtain ⟨placements, outlines, easing, stack, sections, lofted, hplacements, houtlines, hstack,
    hsections, hlofted, -, rfl⟩ := build_inv hroad hbuild
  have huniform := (h.alike hplacements houtlines).uniform_of_crossSections
    (kind.three_le_vertexCount starPoints) (fun hoff => removes_of_off hoff removal) hstack
  have hmatching : ∀ t i,
      ¬ Mismatched (Tube.count t (sections.map (CrossSection.map Measure.real))) i := by
    intro t i
    rw [Tube.count_map]
    exact (uniform_pierced huniform hsections).not_mismatched t i
  obtain ⟨measured, hloft, rfl⟩ := map_eq_ok_iff.mp hlofted
  intro w hw
  have hpair := pair?_of_matching hmatching hloft w hw
  cases w with
  | collapsed i => exact ⟨i, rfl⟩
  | outerMismatch => cases hpair
  | holeMismatch => cases hpair

end Reads

/-- **The triangles of a body of the lofted road.** Outside there are two for each vertex wherever
two neighbouring kept outlines are both there, and as many inside if every section has a hole. A tip
whose outline has collapsed adds one for each of its vertices. -/
theorem body_triangleCount (s : BodySettings) (seed : Option Seed) (body : Body)
    (hroad : s.useSpine = false) (h : s.build seed = .ok body) :
    ∃ kind steps starPoints removal holes sections,
      s.Reads kind steps starPoints removal holes ∧ s.stacked = .ok sections ∧
      let v := kind.vertexCount starPoints
      let m := s.kept steps
      let P := s.joints removal m
      sections.length = m ∧
      body.mesh.triangleCount = 2 * v * P +
        (if s.enableHoles = true ∧ holes ≤ 1 then 2 * v * P else 0) +
        (if tipCollapses (sections.map (CrossSection.map .real)) s.lofting = true then v
          else 0) := by
  obtain ⟨kind, steps, starPoints, removal, holes, hreads⟩ := exists_reads hroad h
  obtain ⟨sections, hstacked, hlength, -, htriangles⟩ := hreads.triangleCount hroad h
  exact ⟨kind, steps, starPoints, removal, holes, sections, hreads, hstacked, hlength, htriangles⟩

/-- The settings nobody has touched, but with every third outline removed and a hole in each of the
others. -/
def openwork : BodySettings :=
  { standard with
    enableHoles := true
    holeFrequency := .ok 1
    removeShapes := true
    removeFrequency := .ok 3 }

/-- Without steps there are no triangles.  With ten, five outlines are kept and the second and third
are joined: 64 triangles outside and 64 inside, and the last outline is there to be closed. -/
theorem openwork_triangleCount :
    openwork.useSpine = false ∧
    (∃ body, { openwork with steps := .ok 0 }.build none = .ok body ∧
      body.mesh.triangleCount = 0) ∧
    ∀ body, openwork.build none = .ok body →
      body.mesh.triangleCount = 128 ∨ body.mesh.triangleCount = 160 := by
  refine ⟨rfl, ?_, fun body hbody => ?_⟩
  · have hbody : ∃ body, { openwork with steps := .ok 0 }.build none = .ok body := ⟨_, rfl⟩
    obtain ⟨body, hbody⟩ := hbody
    refine ⟨body, hbody, ?_⟩
    obtain ⟨kind, steps, starPoints, removal, holes, sections, hreads, -, hlength, htriangles⟩ :=
      body_triangleCount _ none body rfl hbody
    cases hreads.steps_eq
    have hnone : sections = [] := List.eq_nil_of_length_eq_zero hlength
    have hjoints : { openwork with steps := .ok 0 }.joints removal
        ({ openwork with steps := .ok 0 }.kept 0) = 0 := rfl
    rw [htriangles, hnone, hjoints, Nat.mul_zero, ite_self]
    rfl
  · obtain ⟨kind, steps, starPoints, removal, holes, sections, hreads, -, -, htriangles⟩ :=
      body_triangleCount _ none body rfl hbody
    cases hreads.shape_eq
    cases hreads.steps_eq
    cases hreads.removal_eq
    cases hreads.holes_eq rfl
    have hjoints : openwork.joints 3 (openwork.kept 10) = 1 := by decide
    rw [htriangles, hjoints, if_pos ⟨rfl, Int.le_refl 1⟩]
    show 2 * 32 * 1 + 2 * 32 * 1 + (if _ then 32 else 0) = 128 ∨ _ = 160
    split
    · exact .inr rfl
    · exact .inl rfl

end BodySettings

end LoftGraph
