import LoftGraph.Geometry.Hole
import LoftGraph.Proofs.Geometry.Normalized
import LoftGraph.Proofs.Mesh.Beginning

/-!
# Holes do not disturb the body

* A section places its outer boundary whether it has holes or not (`place_withoutHoles`), so a loft
  whose tip stays open and the loft of its sections without holes stitch the same outer rings.
* Holes are stitched behind the body. Each of their walls stands on blocks of vertices that are
  added for it, so the builder only goes on (`Assembly.goesOn`) and the mesh of the body is the
  beginning of the mesh with holes. The fan would come behind the holes, and is left out.
* `addHoles` gives a section one more hole at most and changes nothing else (`addHole_keeps`). Where
  no section had holes, the new ones have the counts of the outer boundaries they lie in
  (`Tube.count_hole_addHoles`).
-/

namespace LoftGraph

open Loft

/-- The placed section with its outer boundary alone. -/
def PlacedSection.withoutHoles {α : Type} (p : PlacedSection α) : PlacedSection α :=
  { p with holes := [] }

namespace CrossSection

variable {α : Type}

/-- The section with its outer boundary alone. -/
def withoutHoles (s : CrossSection α) : CrossSection α := { s with holes := [] }

/-- What a section keeps when it may get a hole. -/
structure Keeps (s s' : CrossSection α) : Prop where
  t : s'.t = s.t
  outer : s'.outer = s.outer
  holes : s.holes <+: s'.holes
  /-- One more hole at most. -/
  length_le : s'.holes.length ≤ s.holes.length + 1
  gap : s.isGap = true → s'.holes = s.holes

theorem holes_addHole (pattern : HolePattern) (shape : HoleShape α) (index : Nat)
    (s : CrossSection α) : (addHole pattern shape index s).holes = s.holes ∨
      s.isGap = false ∧ ∃ hole, (addHole pattern shape index s).holes = s.holes ++ [hole] := by
  unfold addHole
  split
  · exact .inl rfl
  · next hselected =>
    obtain ⟨hsolid, -⟩ := Bool.or_eq_false_iff.mp (Bool.eq_false_iff.mpr hselected)
    simp only
    split
    · exact .inl rfl
    · exact .inr ⟨hsolid, _, rfl⟩

theorem addHole_keeps (pattern : HolePattern) (shape : HoleShape α) (index : Nat)
    (s : CrossSection α) : s.Keeps (addHole pattern shape index s) := by
  have ht := addHole_t pattern shape index s
  have houter := addHole_outer pattern shape index s
  rcases holes_addHole pattern shape index s with h | ⟨hsolid, hole, h⟩
  · refine ⟨ht, houter, h ▸ List.prefix_rfl, ?_, fun _ => h⟩
    rw [h]
    exact Nat.le_succ _
  · have hlength := congrArg List.length h
    rw [List.length_append] at hlength
    refine ⟨ht, houter, h ▸ List.prefix_append _ _, Nat.le_of_eq hlength, fun hgap => ?_⟩
    cases hsolid.symm.trans hgap

/-- Every section keeps what it should. -/
theorem addHoles_keeps (sections : List (CrossSection α)) (pattern : HolePattern)
    (shape : HoleShape α) : List.Forall₂ Keeps sections (addHoles sections pattern shape) := by
  refine List.forall₂_iff_get.mpr ⟨(length_addHoles pattern shape sections).symm, ?_⟩
  intro i hi hi'
  have hadded : (addHoles sections pattern shape).get ⟨i, hi'⟩
      = addHole pattern shape i (sections.get ⟨i, hi⟩) := by
    simp [addHoles]
  rw [hadded]
  exact addHole_keeps pattern shape i _

variable [Circular α]

/-- Without its holes, a section is placed as it is with them. -/
theorem place_withoutHoles {s : CrossSection α} {settings : LoftSettings α} {p : PlacedSection α}
    (h : placeBy settings s = .ok p) : placeBy settings s.withoutHoles = .ok p.withoutHoles := by
  obtain ⟨y, hy, h⟩ := bind_eq_ok_iff.mp h
  obtain ⟨outline, houtline, h⟩ := bind_eq_ok_iff.mp h
  obtain ⟨holes, -, h⟩ := bind_eq_ok_iff.mp h
  obtain ⟨y', hy', h⟩ := bind_eq_ok_iff.mp h
  cases h
  refine bind_eq_ok_iff.mpr ⟨y, hy, bind_eq_ok_iff.mpr ⟨outline, houtline, ?_⟩⟩
  exact bind_eq_ok_iff.mpr ⟨[], rfl, bind_eq_ok_iff.mpr ⟨y', hy', rfl⟩⟩

end CrossSection

namespace Loft

variable {α : Type}

/-! ## Counts of holes -/

section Counts

variable {sections : List (CrossSection α)}

theorem getElem?_addHoles (sections : List (CrossSection α)) (pattern : HolePattern)
    (shape : HoleShape α) (i : Nat) :
    (addHoles sections pattern shape)[i]? = sections[i]?.map (addHole pattern shape i) := by
  rw [addHoles, List.getElem?_map, List.getElem?_zipIdx, Option.map_map, Nat.zero_add]
  rfl

theorem Tube.count_outer_addHoles (pattern : HolePattern) (shape : HoleShape α) :
    Tube.outer.count (addHoles sections pattern shape) = Tube.outer.count sections := by
  funext i
  rw [Tube.count, Tube.count, getElem?_addHoles, Option.map_map]
  refine congrArg (fun count : Option Nat => count.getD 0) (Option.map_congr fun s _ => ?_)
  exact congrArg List.length (CrossSection.addHole_outer pattern shape i s)

/-- The first holes have the counts of the outer boundaries of the sections that are selected. -/
theorem Tube.count_hole_addHoles [Scalar α] (hnone : ∀ s ∈ sections, s.holes = [])
    (pattern : HolePattern) {shape : HoleShape α} (hshape : Hole.Shrinks shape) (i : Nat) :
    (Tube.hole 0).count (addHoles sections pattern shape) i
      = if pattern i then Tube.outer.count sections i else 0 := by
  rw [Tube.count, Tube.count, getElem?_addHoles]
  cases hs : sections[i]? with
  | none => simp
  | some s =>
    have hholes := hnone s (List.mem_of_getElem? hs)
    simp only [Option.map_some, Option.getD_some, Tube.outline]
    unfold addHole
    cases hpattern : pattern i with
    | false => simp [hholes]
    | true =>
      cases hgap : s.isGap with
      | true =>
        have hempty : s.outer = [] := List.isEmpty_iff.mp hgap
        simp [hholes, hempty]
      | false =>
        have hlength : (shape s.outer s.t).length = s.outer.length := hshape.length_eq _ _
        have hsolid : (shape s.outer s.t).isEmpty = false := by
          rw [Bool.eq_false_iff, Ne, List.isEmpty_iff_length_eq_zero, hlength,
            ← List.isEmpty_iff_length_eq_zero]
          exact Bool.eq_false_iff.mp hgap
        simp [hsolid, CrossSection.withHole, hholes, hlength]

theorem length_holes_addHoles (hnone : ∀ s ∈ sections, s.holes = []) (pattern : HolePattern)
    (shape : HoleShape α) : ∀ s ∈ addHoles sections pattern shape, s.holes.length ≤ 1 := by
  intro s hs
  obtain ⟨entry, hentry, rfl⟩ := List.mem_map.mp hs
  have hle := (CrossSection.addHole_keeps pattern shape entry.2 entry.1).length_le
  rwa [hnone entry.1 (List.fst_mem_of_mem_zipIdx hentry)] at hle

end Counts

/-! ## Holes behind the body -/

/-- The walls of some tubes stand behind all vertices that were there before. -/
theorem Assembly.goesOn {placed : List (PlacedSection α)} {tubes : List Tube}
    {b b' : MeshBuilder α} {start : Tube → Nat → Nat}
    (h : Assembly placed tubes b b' start) : b.GoesOn b' := by
  have hring : ∀ t k, t ∈ tubes → Walled (ringCount (t.rings placed)) k → ∀ m : Nat,
      (b.vertexCount : Int) ≤ start t k + (m : Nat) := by
    intro t k ht hk m
    have hstart : b.vertexCount ≤ start t k := h.laid.le_start (mem_walledRings.mpr ⟨ht, hk⟩)
    omega
  refine ⟨⟨_, h.vertices.symm⟩, (tubes.flatMap fun t =>
    walls t.isInner (ringCount (t.rings placed)) (start t) placed.length).toArray,
    Array.ext' (h.triangles.trans (by rw [Array.toList_append])), fun T hT corner hc => ?_⟩
  obtain ⟨t, ht, hT⟩ := List.mem_flatMap.mp hT
  obtain ⟨k, -, hT⟩ := List.mem_flatMap.mp hT
  split at hT
  · next hstitched =>
    obtain ⟨m, -, rfl | rfl⟩ := MeshBuilder.corner_of_mem_wall hT hc
    · exact hring t k ht (.inl hstitched) m
    · exact hring t (k + 1) ht (.inr hstitched) m
  · cases hT

theorem slotCount_withoutHoles (placed : List (PlacedSection α)) :
    slotCount (placed.map PlacedSection.withoutHoles) = 0 := by
  refine Nat.le_zero.mp (foldl_max_le_iff.mpr ⟨Nat.le_refl 0, fun n hn => ?_⟩)
  rw [List.map_map] at hn
  obtain ⟨p, -, rfl⟩ := List.mem_map.mp hn
  exact Nat.le_refl 0

/-- Holes are stitched behind whatever there is. -/
theorem stitchHoles_goesOn (placed : List (PlacedSection α)) (b : MeshBuilder α) :
    b.GoesOn (stitchHoles placed b).1 := by
  obtain ⟨start, hholes, -⟩ :=
    (Assembly.nil placed b fun _ _ => 0).holes (slotCount placed) (by simp) []
  exact hholes.goesOn

variable [Scalar α]

theorem collapseWarnings_withoutHoles (placed : List (PlacedSection α)) (closeTip : Bool) :
    collapseWarnings (placed.map PlacedSection.withoutHoles) closeTip
      = collapseWarnings placed closeTip := by
  rw [collapseWarnings, List.zipIdx_map, List.filterMap_map, List.length_map]
  rfl

/-- A stack whose tip stays open is assembled to its outer boundary and to the holes behind it. -/
theorem assemble_holes (placed : List (PlacedSection α)) :
    let body := assemble (placed.map PlacedSection.withoutHoles) false
    assemble placed false
      = ((stitchHoles placed body.1).1, body.2 ++ (stitchHoles placed body.1).2) := by
  let outer := stitch false LoftWarning.outerMismatch 0 none (placed.map PlacedSection.outer)
    MeshBuilder.empty
  have hbody : assemble (placed.map PlacedSection.withoutHoles) false
      = (outer.2.1, collapseWarnings placed false ++ outer.2.2) := by
    have houter : (placed.map PlacedSection.withoutHoles).map PlacedSection.outer
        = placed.map PlacedSection.outer := by
      rw [List.map_map]
      rfl
    simp only [assemble, houter, collapseWarnings_withoutHoles, stitchHoles,
      slotCount_withoutHoles]
    exact congrArg (Prod.mk _) (List.append_nil _)
  intro body
  show _ = ((stitchHoles placed body.1).1, body.2 ++ (stitchHoles placed body.1).2)
  rw [show body = _ from hbody]
  rfl

end Loft

/-- **Holes never disturb the body.** A loft comes about if every section can be placed. If its tip
stays open, the same sections without any hole make a loft too, and its vertices, triangles, normals
and warnings are the beginning of those of the loft with holes. Adding holes keeps number and order
of the sections, their heights, outer boundaries and the holes they have, gives each one more at
most, and gives gaps none. -/
theorem holes_keep_body {α : Type} [Circular α] (sections : List (CrossSection α))
    (settings : LoftSettings α) (hopen : settings.closeTip = false) :
    ((∃ lofted, loft sections settings = .ok lofted) ↔
      ∀ s ∈ sections, ∃ p, placeBy settings s = .ok p) ∧
    (∀ lofted, loft sections settings = .ok lofted → ∃ body,
      loft (sections.map CrossSection.withoutHoles) settings = .ok body ∧
      body.mesh.Begins lofted.mesh ∧ body.warnings <+: lofted.warnings) ∧
    ∀ (pattern : HolePattern) (shape : HoleShape α),
      List.Forall₂ CrossSection.Keeps sections (addHoles sections pattern shape) := by
  refine ⟨exists_loft_iff, fun lofted hloft => ?_, CrossSection.addHoles_keeps sections⟩
  obtain ⟨placed, hplaced, rfl⟩ := exists_assemble hloft
  have hwithout : (sections.map CrossSection.withoutHoles).mapM (placeBy settings)
      = .ok (placed.map PlacedSection.withoutHoles) := by
    refine mapM_eq_ok_iff.mpr ?_
    rw [List.map_map, List.map_map]
    exact map_eq_map_of_mapM hplaced fun s p hp => CrossSection.place_withoutHoles hp
  obtain ⟨start, hassembled⟩ := exists_assembled (placed.map PlacedSection.withoutHoles) false
  refine ⟨_, by rw [loft_eq_map, hwithout]; rfl, ?_, ?_⟩
  · rw [hopen, assemble_holes]
    exact (stitchHoles_goesOn placed _).begins_build hassembled.sound settings.smooth
  · rw [hopen, assemble_holes]
    exact List.prefix_append _ _

/-- A smooth loft without twist or taper whose tip stays open. -/
def uncappedSettings : LoftSettings Float := { cappedSettings with closeTip := false }

/-- With a hole through the first two sections, six vertices stand behind the fourteen of the
body. -/
theorem broken_stack_keeps_body :
    uncappedSettings.closeTip = false ∧ ∃ lofted body,
      loft brokenStack uncappedSettings = .ok lofted ∧
      loft (brokenStack.map CrossSection.withoutHoles) uncappedSettings = .ok body ∧
      body.mesh.Begins lofted.mesh ∧ body.warnings <+: lofted.warnings ∧
      body.mesh.vertices.size = 14 ∧ lofted.mesh.vertices.size = 20 ∧
      List.Forall₂ CrossSection.Keeps brokenStack
        (addHoles brokenStack Hole.everySecond Hole.tapering) ∧
      (addHoles brokenStack Hole.everySecond Hole.tapering).map (fun s => s.holes.length)
        = [2, 1, 0, 0, 2, 0] := by
  obtain ⟨-, hbody, hadded⟩ := holes_keep_body brokenStack uncappedSettings rfl
  have hloft : ∃ lofted, loft brokenStack uncappedSettings = .ok lofted := ⟨_, rfl⟩
  obtain ⟨lofted, hloft⟩ := hloft
  obtain ⟨body, hwithout, hbegins, hwarnings⟩ := hbody lofted hloft
  have hfourteen : (loft (brokenStack.map CrossSection.withoutHoles)
      uncappedSettings).toOption.map (fun l => l.mesh.vertices.size) = some 14 := by
    decide +kernel
  have htwenty : (loft brokenStack uncappedSettings).toOption.map
      (fun l => l.mesh.vertices.size) = some 20 := by
    decide +kernel
  rw [hwithout] at hfourteen
  rw [hloft] at htwenty
  exact ⟨rfl, lofted, body, hloft, hwithout, hbegins, hwarnings, Option.some.inj hfourteen,
    Option.some.inj htwenty, hadded _ _, by decide +kernel⟩

end LoftGraph
