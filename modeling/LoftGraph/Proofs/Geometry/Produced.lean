import LoftGraph.Proofs.Geometry.Contents
import LoftGraph.Geometry.Shell

/-!
# All meshes are well formed

Spines and shells stitch rings of one length, each to the one added before it
(`Spine.sound_stitch`, `Shell.sound_addTube`), and the corners of a loft are on its rings or its
apex (`Assembled.sound`). So their builders are sound, and what a sound builder gives is well
formed.
-/

namespace LoftGraph

open Loft

variable {α : Type} [Circular α]

theorem Spine.length_turnAngles {segments : Int} {phase : α} {angles : List α}
    (h : turnAngles segments phase = .ok angles) : angles.length = segments.toNat := by
  unfold turnAngles at h
  split at h
  · cases h
  · split at h
    · cases h
    · obtain ⟨_, -, h⟩ := bind_eq_ok_iff.mp h
      cases h
      rw [List.length_map, List.length_range]

theorem Spine.length_ring {p : SpinePoint α} {segments : Int} {r : List (Point3 α)}
    (h : ring p segments = .ok r) : r.length = segments.toNat := by
  obtain ⟨angles, hangles, h⟩ := bind_eq_ok_iff.mp h
  cases h
  rw [List.length_map, length_turnAngles hangles]

omit [Circular α] in
theorem Spine.sound_stitchAbove {segments lower : Nat} {rings : List (List (Point3 α))}
    {b : MeshBuilder α} (h : b.Sound True) (hlower : lower + segments ≤ b.vertexCount)
    (hrings : ∀ r ∈ rings, r.length = segments) :
    (stitchAbove segments lower rings b).Sound True := by
  induction rings generalizing lower b with
  | nil => exact h
  | cons r rest ih =>
    have hr := hrings r (.head _)
    have hcount : (b.addVertices r).vertexCount = b.vertexCount + segments := by
      rw [MeshBuilder.vertexCount_addVertices, hr]
    refine ih ((h.addVertices r).connectRings ?_ ?_ false) ?_ fun r' hr' => hrings r' (.tail _ hr')
    · rw [hcount]
      exact Nat.le_add_right_of_le hlower
    · exact Nat.le_of_eq hcount.symm
    · exact Nat.le_of_eq hcount.symm

omit [Circular α] in
/-- Rings of one length are stitched soundly. -/
theorem Spine.sound_stitch {segments : Nat} {rings : List (List (Point3 α))}
    (hrings : ∀ r ∈ rings, r.length = segments) : (stitch segments rings).Sound True := by
  cases rings with
  | nil => exact MeshBuilder.sound_empty True
  | cons r rest =>
    refine sound_stitchAbove ((MeshBuilder.sound_empty True).addVertices r) ?_
      fun r' hr' => hrings r' (.tail _ hr')
    rw [MeshBuilder.vertexCount_addVertices, hrings r (.head _)]
    exact Nat.add_le_add_right (Nat.zero_le _) _

theorem Spine.wellFormed_mesh {points : List (SpinePoint α)} {segments : Int} {smooth : Bool}
    {m : Mesh α} (h : mesh points segments smooth = .ok m) : m.WellFormed := by
  unfold mesh at h
  split at h
  · cases h
    exact Mesh.wellFormed_empty
  · obtain ⟨rings, hrings, h⟩ := bind_eq_ok_iff.mp h
    cases h
    refine (sound_stitch fun r hr => ?_).wellFormed_build smooth
    obtain ⟨p, -, hp⟩ := exists_of_mem_mapM hrings hr
    exact length_ring hp

theorem Shell.length_ring {radius y : α} {segments : Int} {r : List (Point3 α)}
    (h : ring radius y segments = .ok r) : r.length = segments.toNat := by
  obtain ⟨angles, hangles, h⟩ := bind_eq_ok_iff.mp h
  obtain ⟨_, -, h⟩ := bind_eq_ok_iff.mp h
  cases h
  rw [List.length_map, Spine.length_turnAngles hangles]

omit [Circular α] in
/-- A tube between rings of one length is added soundly. -/
theorem Shell.sound_addTube {b : MeshBuilder α} (h : b.Sound True)
    {bottom top : List (Point3 α)} (hlength : bottom.length = top.length) (reverse : Bool) :
    (addTube b bottom top reverse).Sound True := by
  refine ((h.addVertices bottom).addVertices top).connectRings ?_ ?_ reverse
  · rw [MeshBuilder.vertexCount_addVertices, MeshBuilder.vertexCount_addVertices]
    exact Nat.le_add_right _ _
  · exact Nat.le_of_eq (by rw [MeshBuilder.vertexCount_addVertices _ top, hlength])

theorem Shell.wellFormed_openShell {height radius thickness : α} {segments : Count} {m : Mesh α}
    (h : openShell height radius thickness segments = .ok m) : m.WellFormed := by
  obtain ⟨width, -, h⟩ := bind_eq_ok_iff.mp h
  obtain ⟨half, -, h⟩ := bind_eq_ok_iff.mp h
  obtain ⟨segments, -, h⟩ := bind_eq_ok_iff.mp h
  obtain ⟨outerBottom, houterBottom, h⟩ := bind_eq_ok_iff.mp h
  obtain ⟨outerTop, houterTop, h⟩ := bind_eq_ok_iff.mp h
  obtain ⟨innerBottom, hinnerBottom, h⟩ := bind_eq_ok_iff.mp h
  obtain ⟨innerTop, hinnerTop, h⟩ := bind_eq_ok_iff.mp h
  cases h
  have houter := sound_addTube (MeshBuilder.sound_empty True)
    ((length_ring houterBottom).trans (length_ring houterTop).symm) false
  have hinner := sound_addTube houter
    ((length_ring hinnerBottom).trans (length_ring hinnerTop).symm) true
  exact hinner.wellFormed_build _

theorem wellFormed_loft {sections : List (CrossSection α)} {settings : LoftSettings α}
    {lofted : Lofted α} (h : loft sections settings = .ok lofted) : lofted.mesh.WellFormed := by
  obtain ⟨placed, -, rfl⟩ := exists_assemble h
  obtain ⟨start, hassembled⟩ := exists_assembled placed settings.closeTip
  exact hassembled.sound.wellFormed_build settings.smooth

theorem wellFormed_measuredLoft {sections : List (CrossSection Measure)}
    {settings : LoftSettings Measure} {lofted : Lofted Float}
    (h : measuredLoft sections settings = .ok lofted) : lofted.mesh.WellFormed := by
  obtain ⟨measured, hloft, rfl⟩ := map_eq_ok_iff.mp h
  exact (wellFormed_loft hloft).map Measure.toFloat

/-- **Every mesh that is produced is well formed**, by lofts, smooth or flat and with the tip closed
or not, by spines and by shells; by unwelding and merging well-formed meshes; and by any run of a
builder whose rings are blocks of at least the given count and whose single triangles name vertices
that are there. Such a run gives a mesh if every fan has a middle, and in a smooth mesh that is not
empty each block has kept its points at its offset. -/
theorem produced_meshes_wellFormed (α : Type) [Circular α] :
    (∀ (sections : List (CrossSection α)) settings lofted,
      loft sections settings = .ok lofted → lofted.mesh.WellFormed) ∧
    (∀ sections settings lofted,
      measuredLoft sections settings = .ok lofted → lofted.mesh.WellFormed) ∧
    (∀ (points : List (SpinePoint α)) segments smooth mesh,
      Spine.mesh points segments smooth = .ok mesh → mesh.WellFormed) ∧
    (∀ (height radius thickness : α) segments mesh,
      Shell.openShell height radius thickness segments = .ok mesh → mesh.WellFormed) ∧
    (∀ m : Mesh α, m.WellFormed → (Mesh.unweld m.vertices m.triangles).WellFormed) ∧
    (∀ meshes : List (Mesh α), (∀ m ∈ meshes, m.WellFormed) → (Mesh.merge meshes).WellFormed) ∧
    ∀ (steps : List (BuilderStep α)) (l : Ledger α), Ledger.Reaches steps l → ∀ smooth,
      ((∀ s ∈ steps, s.Centered) → ∃ mesh, l.builder.build? smooth = .ok mesh) ∧
      ∀ mesh, l.builder.build? smooth = .ok mesh → mesh.WellFormed ∧
        (smooth = true → mesh.isEmpty = false → ∀ offset points, (offset, points) ∈ l.blocks →
          ∀ k < points.length, mesh.vertices[offset + k]? = points[k]?) := by
  refine ⟨fun _ _ _ h => wellFormed_loft h, fun _ _ _ h => wellFormed_measuredLoft h,
    fun _ _ _ _ h => Spine.wellFormed_mesh h, fun _ _ _ _ _ h => Shell.wellFormed_openShell h,
    fun m _ => Mesh.wellFormed_unweld _ _, fun _ h => Mesh.wellFormed_merge h,
    fun steps l hrun smooth => ⟨fun hcentered => ?_, fun mesh hmesh => ?_⟩⟩
  · exact ⟨_, (hrun.kept.sound.mono fun _ => hcentered).build?_eq smooth⟩
  · obtain ⟨hbuild, hwellFormed⟩ :=
      (hrun.kept.sound.mono False.elim).wellFormed_of_build? hmesh
    refine ⟨hwellFormed, ?_⟩
    rintro rfl hnonempty offset points hblock k hk
    rw [hbuild] at hnonempty ⊢
    rw [MeshBuilder.vertices_build_of_nonempty hnonempty]
    exact (hrun.kept.blocks _ hblock).getElem?_eq k hk

def twoPoints : List (SpinePoint Float) := [⟨⟨0, 0, 0⟩, 2, 1, 0⟩, ⟨⟨0, 1, 0⟩, 1, 1, 30⟩]

/-- The lower and the upper ring of a small tube. -/
def tubeRing (y : Float) : List (Point3 Float) := [⟨0, y, 0⟩, ⟨2, y, 0⟩, ⟨0, y, 2⟩]

/-- A tube with a fan over its upper ring and a triangle under the lower one. -/
def tubeSteps : List (BuilderStep Float) :=
  [.vertices (tubeRing 0), .vertices (tubeRing 1), .rings 0 3 3 false,
    .fan 3 3 [⟨0.5, 1.5, 0.5⟩] true, .triangle ⟨0, 2, 1⟩]

def tubeLedger : Ledger Float := tubeSteps.foldl Ledger.perform .empty

theorem tube_run_wellFormed :
    (∃ lofted, loft brokenStack { cappedSettings with smooth := false } = .ok lofted ∧
      lofted.mesh.WellFormed ∧ (Mesh.unweld lofted.mesh.vertices lofted.mesh.triangles).WellFormed ∧
      (Mesh.merge [lofted.mesh, lofted.mesh]).WellFormed) ∧
    (∃ lofted, measuredLoft (brokenStack.map (CrossSection.map .real))
        ⟨.real 10, .real 0, .real 0, false, false⟩ = .ok lofted ∧ lofted.mesh.WellFormed) ∧
    (∃ mesh, Spine.mesh twoPoints 1 true = .ok mesh ∧ mesh.WellFormed) ∧
    (∃ mesh, Shell.openShell (10 : Float) 5 1 (.ok 3) = .ok mesh ∧ mesh.WellFormed) ∧
    Ledger.Reaches tubeSteps tubeLedger ∧
    ∃ mesh, tubeLedger.builder.build? true = .ok mesh ∧ mesh.WellFormed ∧
      mesh.triangles.size = 10 ∧ mesh.vertices[3 + 1]? = some ⟨2, 1, 0⟩ := by
  obtain ⟨hloft, hmeasured, hspine, hshell, hunweld, hmerge, hbuilder⟩ :=
    produced_meshes_wellFormed Float
  obtain ⟨lofted, hlofted⟩ :
      ∃ lofted, loft brokenStack { cappedSettings with smooth := false } = .ok lofted := ⟨_, rfl⟩
  obtain ⟨measured, hmeasuredLoft⟩ : ∃ lofted, measuredLoft
      (brokenStack.map (CrossSection.map .real)) ⟨.real 10, .real 0, .real 0, false, false⟩
        = .ok lofted := ⟨_, rfl⟩
  obtain ⟨spine, hspineMesh⟩ : ∃ mesh, Spine.mesh twoPoints 1 true = .ok mesh := ⟨_, rfl⟩
  obtain ⟨shell, hshellMesh⟩ : ∃ mesh, Shell.openShell (10 : Float) 5 1 (.ok 3) = .ok mesh :=
    ⟨_, rfl⟩
  have hwellFormed := hloft _ _ _ hlofted
  have hrun : Ledger.Reaches tubeSteps tubeLedger := by
    have hrings := (Ledger.Reaches.empty.step (s := .vertices (tubeRing 0)) trivial).step
      (s := .vertices (tubeRing 1)) trivial
    refine .step (.step (.step hrings ?_) ?_) ?_
    · exact ⟨⟨_, .head _, Nat.le_refl _⟩, _, .tail _ (.head _), Nat.le_refl _⟩
    · exact ⟨_, .tail _ (.head _), Nat.le_refl _⟩
    · exact fun corner hc => by
        revert corner
        decide
  obtain ⟨hexists, hkeeps⟩ := hbuilder _ _ hrun true
  obtain ⟨mesh, hmesh⟩ := hexists (by simp [tubeSteps, BuilderStep.Centered])
  obtain ⟨hmeshWellFormed, hblocks⟩ := hkeeps mesh hmesh
  have htriangles : mesh.triangles.size = 10 := by
    have h : (tubeLedger.builder.build? true).toOption.map (fun m => m.triangles.size)
        = some 10 := by
      decide +kernel
    rw [hmesh] at h
    exact Option.some.inj h
  have hnonempty : mesh.isEmpty = false := by
    rw [Mesh.isEmpty, Array.isEmpty, htriangles]
    rfl
  refine ⟨⟨lofted, hlofted, hwellFormed, hunweld _ hwellFormed, hmerge _ ?_⟩,
    ⟨measured, hmeasuredLoft, hmeasured _ _ _ hmeasuredLoft⟩,
    ⟨spine, hspineMesh, hspine _ _ _ _ hspineMesh⟩,
    ⟨shell, hshellMesh, hshell _ _ _ _ _ hshellMesh⟩,
    hrun, mesh, hmesh, hmeshWellFormed, htriangles,
    hblocks rfl hnonempty 3 (tubeRing 1) (.tail _ (.head _)) 1 (Nat.lt_add_of_pos_left Nat.two_pos)⟩
  simpa using hwellFormed

end LoftGraph
