import LoftGraph.Geometry.Hole
import LoftGraph.Proofs.Geometry.Contents

/-!
# How many triangles a loft has

A wall has two triangles for every vertex of the ring it stands on, and the fan has one for every
vertex of the last ring.  So the triangles of a smooth loft are counted by the counts of its rings
alone (`triangleCount_loft`): tube by tube and segment by segment, and once more for a tip that has
collapsed.  Where the rings of a tube have one count, or are not there, that is a matter of how many
neighbours are both there (`wallTriangles_eq`).
-/

namespace LoftGraph

namespace Loft

/-! ## The walls of a tube -/

/-- How many triangles the walls of a tube have whose rings have these counts. -/
def wallTriangles (count : Nat → Nat) (height : Nat) : Nat :=
  ((List.range height).map (fun k => if Stitched count k then 2 * count k else 0)).sum

theorem length_walls (reverse : Bool) (count start : Nat → Nat) (height : Nat) :
    (walls reverse count start height).length = wallTriangles count height := by
  rw [walls, List.length_flatMap, wallTriangles]
  refine congrArg List.sum (List.map_congr_left fun k _ => ?_)
  split
  · exact MeshBuilder.length_wall _ _ _ _
  · rfl

theorem wallTriangles_of_open {count : Nat → Nat} (h : ∀ k, ¬ Stitched count k) (height : Nat) :
    wallTriangles count height = 0 := by
  refine List.sum_eq_zero_iff_forall_eq_nat.mpr fun n hn => ?_
  obtain ⟨k, -, rfl⟩ := List.mem_map.mp hn
  exact if_neg (h k)

theorem wallTriangles_of_absent {count : Nat → Nat} (h : ∀ k, count k = 0) (height : Nat) :
    wallTriangles count height = 0 :=
  wallTriangles_of_open (fun k hstitched => hstitched.1 (h k)) height

theorem sum_map_ite (p : Nat → Prop) [DecidablePred p] (c n : Nat) :
    ((List.range n).map (fun k => if p k then c else 0)).sum
      = c * (List.range n).countP (fun k => decide (p k)) := by
  induction n with
  | zero => rfl
  | succ n ih =>
    rw [List.range_succ, List.map_append, List.sum_append, List.countP_append, ih, Nat.mul_add]
    by_cases h : p n <;> simp [h]

/-- Rings that have one count or are not there are stitched where two neighbours are there. -/
theorem wallTriangles_eq {count : Nat → Nat} {v n : Nat} {there : Nat → Prop}
    [DecidablePred there] (hv : v ≠ 0)
    (hcount : ∀ k, count k = if k < n ∧ there k then v else 0) :
    wallTriangles count n
      = 2 * v * (List.range (n - 1)).countP (fun k => decide (there k ∧ there (k + 1))) := by
  have hstitched : ∀ k, Stitched count k ↔ k + 1 < n ∧ there k ∧ there (k + 1) := by
    intro k
    rw [Stitched, hcount, hcount]
    by_cases hk : k + 1 < n
    · by_cases h : there k <;> by_cases h' : there (k + 1) <;>
        simp [h, h', hk, Nat.lt_of_succ_lt hk, hv, hv.symm]
    · by_cases h : k < n ∧ there k <;> simp [h, hk, hv, hv.symm]
  have hterm : ∀ k, (if Stitched count k then 2 * count k else 0)
      = if k + 1 < n ∧ there k ∧ there (k + 1) then 2 * v else 0 := by
    intro k
    by_cases h : Stitched count k
    · obtain ⟨hk, hthere, -⟩ := (hstitched k).mp h
      rw [if_pos h, if_pos ((hstitched k).mp h), hcount, if_pos ⟨Nat.lt_of_succ_lt hk, hthere⟩]
    · rw [if_neg h, if_neg fun hk => h ((hstitched k).mpr hk)]
  rw [wallTriangles, List.map_congr_left fun k _ => hterm k, sum_map_ite]
  refine congrArg (2 * v * ·) ?_
  -- the last ring has no neighbour above
  cases n with
  | zero => rfl
  | succ n =>
    rw [List.range_succ, List.countP_append, Nat.add_sub_cancel]
    simp only [List.countP_singleton, Nat.lt_irrefl, false_and, decide_false, Bool.false_eq_true,
      if_false, Nat.add_zero]
    refine List.countP_congr fun k hk => ?_
    simp [List.mem_range.mp hk]

/-! ## Rings at a frequency -/

/-- Of two neighbours one at most is a multiple of a frequency above one. -/
theorem not_ofFrequency_succ {frequency : Int} (h : 1 < frequency) {i : Nat}
    (hi : Hole.ofFrequency frequency i = true) : Hole.ofFrequency frequency (i + 1) = false := by
  simp only [Hole.ofFrequency, beq_iff_eq, beq_eq_false_iff_ne] at hi ⊢
  intro hnext
  have hone := (Nat.dvd_add_right (Nat.dvd_of_mod_eq_zero hi)).mp (Nat.dvd_of_mod_eq_zero hnext)
  have hfrequency := Nat.dvd_one.mp hone
  omega

theorem ofFrequency_of_le_one {frequency : Int} (h : frequency ≤ 1) (i : Nat) :
    Hole.ofFrequency frequency i = true := by
  rw [Hole.ofFrequency, Int.max_eq_right h]
  exact beq_iff_eq.mpr (Nat.mod_one i)

/-- Rings that are there at a frequency have all walls or none: those that are not in every section
never meet. -/
theorem wallTriangles_of_frequency {count selected : Nat → Nat} {frequency : Int}
    (h : ∀ i, selected i = if Hole.ofFrequency frequency i then count i else 0) (n : Nat) :
    wallTriangles selected n = if frequency ≤ 1 then wallTriangles count n else 0 := by
  split
  · next hall =>
    refine congrArg (wallTriangles · n) (funext fun i => ?_)
    rw [h, if_pos (ofFrequency_of_le_one hall i)]
  · next hrare =>
    refine wallTriangles_of_open (fun i hstitched => ?_) n
    have hselected : ∀ j, selected j ≠ 0 → Hole.ofFrequency frequency j = true := by
      intro j hj
      rw [h] at hj
      exact (ite_ne_right_iff.mp hj).1
    have hlower := hselected i hstitched.1
    have hupper := hselected (i + 1) (hstitched.2 ▸ hstitched.1)
    exact Bool.false_ne_true
      ((not_ofFrequency_succ (Int.not_le.mp hrare) hlower).symm.trans hupper)

/-! ## The whole stack -/

/-- Numbers that end may be added up that far or farther. -/
theorem sum_range_eq {f : Nat → Nat} {m n : Nat} (hm : ∀ k, m ≤ k → f k = 0)
    (hn : ∀ k, n ≤ k → f k = 0) : ((List.range m).map f).sum = ((List.range n).map f).sum := by
  have hfar : ∀ {m} d, (∀ k, m ≤ k → f k = 0) →
      ((List.range (m + d)).map f).sum = ((List.range m).map f).sum := by
    intro m d hm
    induction d with
    | zero => rfl
    | succ d ih =>
      rw [← Nat.add_assoc, List.range_succ, List.map_append, List.sum_append, ih]
      simp [hm (m + d) (Nat.le_add_right m d)]
  rw [← hfar n hm, ← hfar m hn, Nat.add_comm]

variable {α : Type}

theorem Assembled.length_triangles [Scalar α] {placed : List (PlacedSection α)} {closeTip : Bool}
    {b : MeshBuilder α} {start : Tube → Nat → Nat} (h : Assembled placed closeTip b start) :
    b.triangles.toList.length
      = ((Tube.all (slotCount placed)).map fun t =>
          wallTriangles (counts placed t) placed.length).sum +
        ((tip? placed closeTip).toList.map (counts placed .outer)).sum := by
  rw [h.triangles, List.length_append, List.length_flatMap, List.length_flatMap]
  simp only [length_walls, MeshBuilder.length_fan]
  rfl

/-- The walls of the tubes, when there are holes in so many slots at most. -/
theorem sum_wallTriangles (placed : List (PlacedSection α)) {slots : Nat}
    (hslots : ∀ slot, slots ≤ slot → ∀ i, counts placed (.hole slot) i = 0) :
    ((Tube.all (slotCount placed)).map fun t => wallTriangles (counts placed t) placed.length).sum
      = ((Tube.all slots).map fun t => wallTriangles (counts placed t) placed.length).sum := by
  have hnone : ∀ slot, slotCount placed ≤ slot → ∀ i, counts placed (.hole slot) i = 0 := by
    intro slot hslot i
    by_contra hcount
    exact absurd (slot_lt_slotCount hcount) (Nat.not_lt.mpr hslot)
  simp only [Tube.all, List.map_cons, List.sum_cons, List.map_map]
  refine congrArg (_ + ·) (sum_range_eq (fun slot hslot => ?_) fun slot hslot => ?_)
  · exact wallTriangles_of_absent (hnone slot hslot) placed.length
  · exact wallTriangles_of_absent (hslots slot hslot) placed.length

/-! ## Counts of sections -/

section Counts

variable {sections : List (CrossSection α)}

theorem Tube.count_map {β : Type} (f : α → β) (t : Tube) :
    t.count (sections.map (CrossSection.map f)) = t.count sections := by
  funext i
  rw [Tube.count, Tube.count, List.getElem?_map, Option.map_map]
  refine congrArg (fun count : Option Nat => count.getD 0) (Option.map_congr fun s _ => ?_)
  cases t with
  | outer => exact List.length_map _
  | hole slot =>
    simp only [Function.comp_apply, Tube.outline, CrossSection.map, List.getElem?_map]
    cases s.holes[slot]? with
    | none => rfl
    | some hole => exact List.length_map _

theorem Tube.count_outer_eq {v n : Nat} {removed : Nat → Bool}
    (h : sections.map (fun s => s.outer.length)
      = (List.range n).map fun j => if removed j then 0 else v) (i : Nat) :
    Tube.outer.count sections i = if i < n ∧ removed i = false then v else 0 := by
  have hcount : Tube.outer.count sections i
      = (sections.map fun s => s.outer.length)[i]?.getD 0 := by
    rw [List.getElem?_map]
    rfl
  rw [hcount, h, List.getElem?_map]
  by_cases hi : i < n
  · rw [List.getElem?_range hi, Option.map_some, Option.getD_some]
    cases removed i <;> simp [hi]
  · rw [List.getElem?_eq_none (by simpa using hi), if_neg fun h => hi h.1]
    rfl

theorem Tube.count_hole_eq_zero {slot : Nat} (h : ∀ s ∈ sections, s.holes.length ≤ slot) (i : Nat) :
    (Tube.hole slot).count sections i = 0 := by
  rw [Tube.count]
  cases hs : sections[i]? with
  | none => rfl
  | some s => simp [Tube.outline, List.getElem?_eq_none (h s (List.mem_of_getElem? hs))]

end Counts

/-! ## The finished mesh -/

variable [Circular α] {sections : List (CrossSection α)} {settings : LoftSettings α}

/-- Has the last section an outer boundary, and this less area than an outline that stands? -/
def tipCollapses (sections : List (CrossSection α)) (settings : LoftSettings α) : Bool :=
  sections.getLast?.any fun s => !s.isGap &&
    (placeBy settings s).toOption.any fun p => Scalar.lt p.outline.area collapseThreshold

theorem hasCollapsed_eq {s : CrossSection α} {p : PlacedSection α}
    (h : placeBy settings s = .ok p) :
    hasCollapsed p = (!s.isGap && Scalar.lt p.outline.area collapseThreshold) := by
  obtain ⟨y, -, h⟩ := bind_eq_ok_iff.mp h
  obtain ⟨outline, houtline, h⟩ := bind_eq_ok_iff.mp h
  obtain ⟨holes, -, h⟩ := bind_eq_ok_iff.mp h
  obtain ⟨y, -, h⟩ := bind_eq_ok_iff.mp h
  cases h
  have hempty : outline.isEmpty = s.outer.isEmpty := by
    rw [Bool.eq_iff_iff, List.isEmpty_iff_length_eq_zero, List.isEmpty_iff_length_eq_zero,
      CrossSection.length_transform houtline]
  rw [hasCollapsed, CrossSection.isGap, ← hempty]

theorem tip?_eq {placed : List (PlacedSection α)}
    (h : sections.mapM (placeBy settings) = .ok placed) :
    tip? placed settings.closeTip
      = if settings.closeTip && tipCollapses sections settings then some (sections.length - 1)
        else none := by
  have hlast : placed.getLast?.any hasCollapsed = tipCollapses sections settings := by
    rw [tipCollapses, List.getLast?_eq_getElem?, List.getLast?_eq_getElem?, length_of_mapM h]
    cases hp : placed[sections.length - 1]? with
    | none =>
      rw [List.getElem?_eq_none_iff, length_of_mapM h] at hp
      rw [List.getElem?_eq_none hp]
      rfl
    | some p =>
      obtain ⟨s, hs, hplace⟩ := (getElem?_eq_some_iff_of_mapM h).mp hp
      rw [hs, Option.any_some, Option.any_some, hasCollapsed_eq hplace, hplace]
      rfl
  rw [tip?, hlast, length_of_mapM h]

/-- A tip that is closed by a fan collapses. -/
theorem tipCollapses_of_closedTip {i : Nat} (h : ClosedTip sections settings i) :
    tipCollapses sections settings = true := by
  obtain ⟨-, hlength, s, p, hs, hplace, hcollapsed⟩ := h
  have hlast : sections.getLast? = some s := by
    rw [List.getLast?_eq_getElem?, hlength, Nat.add_sub_cancel, hs]
  rw [hasCollapsed_eq hplace] at hcollapsed
  rw [tipCollapses, hlast, Option.any_some, hplace]
  exact hcollapsed

/-- A tip that collapses has vertices. -/
theorem count_ne_zero_of_tipCollapses (h : tipCollapses sections settings = true) :
    Tube.outer.count sections (sections.length - 1) ≠ 0 := by
  rw [tipCollapses, List.getLast?_eq_getElem?] at h
  rw [Tube.count]
  cases hs : sections[sections.length - 1]? with
  | none =>
    rw [hs] at h
    cases h
  | some s =>
    rw [hs, Option.any_some] at h
    have hsolid : s.outer.isEmpty = false := by
      simpa [CrossSection.isGap] using (Bool.and_eq_true_iff.mp h).1
    exact fun hzero => List.isEmpty_eq_false_iff.mp hsolid (List.length_eq_zero_iff.mp hzero)

/-- **The triangles of a smooth loft** whose sections have so many holes at most: those of the
walls, and one for each vertex of a tip that is closed. -/
theorem triangleCount_loft {lofted : Lofted α} (hloft : loft sections settings = .ok lofted)
    (hsmooth : settings.smooth = true) {slots : Nat}
    (hslots : ∀ s ∈ sections, s.holes.length ≤ slots) :
    lofted.mesh.triangleCount
      = ((Tube.all slots).map fun t => wallTriangles (t.count sections) sections.length).sum +
        if settings.closeTip && tipCollapses sections settings then
          Tube.outer.count sections (sections.length - 1) else 0 := by
  obtain ⟨placed, hplaced, rfl⟩ := exists_assemble hloft
  obtain ⟨blocks, hcontents⟩ := exists_contents hplaced settings.closeTip
  obtain ⟨start, hassembled⟩ := exists_assembled placed settings.closeTip
  have hcount : ∀ t, counts placed t = t.count sections :=
    fun t => (count_eq_ringCount hplaced t).symm
  have hnone : ∀ slot, slots ≤ slot → ∀ i, counts placed (.hole slot) i = 0 := by
    intro slot hslot i
    rw [hcount]
    exact Tube.count_hole_eq_zero (fun s hs => Nat.le_trans (hslots s hs) hslot) i
  show ((assemble placed settings.closeTip).1.build settings.smooth).triangles.size = _
  rw [hsmooth, (build_contents hcontents).2, ← Array.length_toList, hassembled.length_triangles,
    sum_wallTriangles placed hnone, tip?_eq hplaced, length_of_mapM hplaced]
  simp only [hcount]
  split
  · rw [Option.toList_some, List.map_singleton, List.sum_singleton]
  · rfl

end Loft

end LoftGraph
