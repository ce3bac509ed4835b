import LoftGraph.Proofs.Mesh.Blocks
import LoftGraph.Proofs.Traversal

/-!
# Well-formed meshes

A mesh is well formed with a normal for every vertex and corner numbers that are places of vertices.

* Unwelding makes such a mesh of any triangles, and merging keeps what holds of the parts.
* `MeshBuilder.Sound` is what a builder needs for its mesh to be well formed. Vertices may always be
  added; walls and fans may where their rings have been (`Sound.connectRings`, `Sound.addFan`).
* `Ledger.Reaches` is about runs of a builder whose rings are blocks that it was given. Each step
  keeps these blocks and soundness (`Ledger.kept_perform`), so every run does
  (`Ledger.Reaches.kept`).
-/

namespace LoftGraph

/-! ## Unwelding and merging -/

namespace Mesh

variable {α : Type}

theorem WellFormed.map {β : Type} {m : Mesh α} (h : m.WellFormed) (f : α → β) :
    (m.map f).WellFormed := by
  refine ⟨by simp [Mesh.map, h.normals_size], fun t ht i hi => ?_⟩
  have hlt := h.corners_lt t ht i hi
  rwa [Mesh.map, Array.size_map]

/-- Meshes side by side are well formed if each of them is. -/
theorem wellFormed_merge {meshes : List (Mesh α)} (h : ∀ m ∈ meshes, m.WellFormed) :
    (merge meshes).WellFormed := by
  suffices ∀ m : Mesh α, m.WellFormed → (meshes.foldl beside m).WellFormed from
    this empty wellFormed_empty
  induction meshes with
  | nil => exact fun m hm => hm
  | cons n rest ih =>
    intro m hm
    exact ih (fun n hn => h n (.tail _ hn)) _ (hm.beside (h n (.head _)))

variable [Scalar α]

theorem size_vertices_unweld (vertices : Array (Point3 α)) (triangles : Array Triangle) :
    (unweld vertices triangles).vertices.size = 3 * triangles.size := by
  rw [unweld, ← Array.length_toList, Array.toList_flatMap, ← Array.length_toList]
  exact length_flatMap_of_length fun t _ => rfl

/-- Three vertices and three normals for each triangle. -/
theorem wellFormed_unweld (vertices : Array (Point3 α)) (triangles : Array Triangle) :
    (unweld vertices triangles).WellFormed := by
  have hvertices := size_vertices_unweld vertices triangles
  have hnormals : (unweld vertices triangles).normals.size = 3 * triangles.size := by
    have hthree : ∀ v ∈ (faceNormals vertices triangles).toList, #[v, v, v].toList.length = 3 :=
      fun _ _ => rfl
    rw [unweld, ← Array.length_toList, Array.toList_flatMap, length_flatMap_of_length hthree,
      Array.length_toList, faceNormals, areaNormals, Array.size_map, Array.size_map]
  refine ⟨hnormals.trans hvertices.symm, fun t ht i hi => ?_⟩
  obtain ⟨n, hn, rfl⟩ := Array.mem_map.mp ht
  have hlt := Array.mem_range.mp hn
  rw [hvertices]
  simp only [consecutive, Triangle.corners, List.mem_cons, List.not_mem_nil, or_false] at hi
  omega

end Mesh

/-! ## Builders -/

namespace MeshBuilder

variable {α : Type} {b : MeshBuilder α}

/-- A triangle of a quad has a corner on each of the two rings, and all of them at the two
places. -/
theorem corners_of_mem_quad {lower upper : Int} {reverse : Bool} {k k' : Nat} {T : Triangle}
    (h : T ∈ quad lower upper reverse k k') :
    (∃ m, (m = k ∨ m = k') ∧ lower + (m : Nat) ∈ T.corners) ∧
      (∃ m, (m = k ∨ m = k') ∧ upper + (m : Nat) ∈ T.corners) ∧
      ∀ corner ∈ T.corners, ∃ m, (m = k ∨ m = k') ∧
        (corner = lower + (m : Nat) ∨ corner = upper + (m : Nat)) := by
  cases reverse <;>
    simp only [quad, Bool.false_eq_true, if_false, if_true, List.mem_cons, List.not_mem_nil,
      or_false] at h <;>
    rcases h with rfl | rfl <;> simp [Triangle.corners]

theorem exists_mem_quad (lower upper : Int) (reverse : Bool) (k k' : Nat) :
    ∃ T ∈ quad lower upper reverse k k', lower + k ∈ T.corners ∧ upper + k ∈ T.corners := by
  cases reverse <;> exact ⟨_, .head _, by simp [Triangle.corners]⟩

theorem corner_of_mem_wall {lower upper : Int} {n : Nat} {reverse : Bool} {T : Triangle}
    (h : T ∈ wall lower upper n reverse) {corner : Int} (hc : corner ∈ T.corners) :
    ∃ m < n, corner = lower + (m : Nat) ∨ corner = upper + (m : Nat) := by
  obtain ⟨k, hk, hT⟩ := List.mem_flatMap.mp h
  have hlt := List.mem_range.mp hk
  obtain ⟨m, hm, hcorner⟩ := (corners_of_mem_quad hT).2.2 corner hc
  refine ⟨m, ?_, hcorner⟩
  rcases hm with rfl | rfl
  · exact hlt
  · exact Nat.mod_lt _ (Nat.zero_lt_of_lt hlt)

theorem corner_of_mem_fan {apex ring : Int} {n : Nat} {upward : Bool} {T : Triangle}
    (h : T ∈ fan apex ring n upward) {corner : Int} (hc : corner ∈ T.corners) :
    corner = apex ∨ ∃ m < n, corner = ring + (m : Nat) := by
  obtain ⟨k, hk, rfl⟩ := List.mem_map.mp h
  have hlt := List.mem_range.mp hk
  have hnext : (k + 1) % n < n := Nat.mod_lt _ (Nat.zero_lt_of_lt hlt)
  cases upward <;>
    simp only [Bool.false_eq_true, if_false, if_true, Triangle.corners, List.mem_cons,
      List.not_mem_nil, or_false] at hc <;>
    rcases hc with rfl | rfl | rfl <;>
    first | exact .inl rfl | exact .inr ⟨_, hlt, rfl⟩ | exact .inr ⟨_, hnext, rfl⟩

/-- Are the corner numbers not negative, and places of vertices? The latter is asked for only as far
as `whole` says: a fan without a middle has none for its apex. -/
def Sound (b : MeshBuilder α) (whole : Prop) : Prop :=
  ∀ T ∈ b.triangles.toList, ∀ corner ∈ T.corners,
    0 ≤ corner ∧ (whole → corner < b.vertexCount)

theorem sound_empty (whole : Prop) : (empty : MeshBuilder α).Sound whole := nofun

namespace Sound

variable {whole whole' : Prop} (h : b.Sound whole)

include h

theorem mono (hw : whole' → whole) : b.Sound whole' := fun T hT corner hc =>
  ⟨(h T hT corner hc).1, fun hwhole => (h T hT corner hc).2 (hw hwhole)⟩

theorem addVertices (points : List (Point3 α)) : (b.addVertices points).Sound whole := by
  intro T hT corner hc
  obtain ⟨hpos, hlt⟩ := h T hT corner hc
  refine ⟨hpos, fun hwhole => Int.lt_of_lt_of_le (hlt hwhole) ?_⟩
  rw [vertexCount_addVertices]
  exact Int.ofNat_le.mpr (Nat.le_add_right _ _)

theorem addTriangles {ts : List Triangle}
    (hts : ∀ T ∈ ts, ∀ corner ∈ T.corners, 0 ≤ corner ∧ (whole → corner < b.vertexCount)) :
    (b.addTriangles ts).Sound whole := by
  intro T hT
  rw [toList_addTriangles] at hT
  exact (List.mem_append.mp hT).elim (h T) (hts T)

/-- A wall between rings that the builder has. -/
theorem connectRings {lower upper n : Nat} (hlower : lower + n ≤ b.vertexCount)
    (hupper : upper + n ≤ b.vertexCount) (reverse : Bool) :
    (b.connectRings lower upper n reverse).Sound whole := by
  refine h.addTriangles fun T hT corner hc => ?_
  obtain ⟨m, hm, rfl | rfl⟩ := corner_of_mem_wall hT hc <;> exact ⟨by omega, fun _ => by omega⟩

/-- A fan over a ring that the builder has. -/
theorem addFan {ring n : Nat} (hring : ring + n ≤ b.vertexCount) {center : List (Point3 α)}
    (hcenter : whole → center ≠ []) (upward : Bool) :
    (b.addFan ring n center upward).Sound whole := by
  refine (h.addVertices center).addTriangles fun T hT corner hc => ?_
  rw [vertexCount_addVertices]
  rcases corner_of_mem_fan hT hc with rfl | ⟨m, hm, rfl⟩
  · refine ⟨Int.natCast_nonneg _, fun hwhole => ?_⟩
    have hpos := List.length_pos_iff.mpr (hcenter hwhole)
    omega
  · exact ⟨by omega, fun _ => by omega⟩

end Sound

variable [Scalar α]

/-- The finished mesh is well formed once every corner names a vertex. -/
theorem Sound.wellFormed_build (h : b.Sound True) (smooth : Bool) :
    (b.build smooth).WellFormed := by
  unfold build
  split
  · exact Mesh.wellFormed_empty
  · split
    · refine ⟨Mesh.size_vertexNormals _ _, fun T hT corner hc => ?_⟩
      obtain ⟨hpos, hlt⟩ := h T (Array.mem_toList_iff.mpr hT) corner hc
      exact ⟨hpos, hlt trivial⟩
    · exact Mesh.wellFormed_unweld _ _

omit [Scalar α] in
/-- Without negative corner numbers, no corner is astray exactly when all are places of vertices. -/
theorem checkCorners_eq_ok_iff (h : b.Sound False) :
    Mesh.checkCorners b.vertices.size b.triangles = .ok () ↔ b.Sound True := by
  have hnone : Mesh.checkCorners b.vertices.size b.triangles = .ok () ↔
      Mesh.strayCorner? b.vertices.size b.triangles = none := by
    unfold Mesh.checkCorners
    split <;> simp [*]
  rw [hnone, Mesh.strayCorner?, List.findSome?_eq_none_iff]
  refine forall₂_congr fun T hT => ?_
  rw [List.find?_eq_none]
  refine forall₂_congr fun corner hc => ?_
  have hpos := (h T hT corner hc).1
  simp only [cornerIndex?, if_pos hpos, vertexCount, true_imp_iff, and_iff_right hpos]
  split <;> simp [*]

/-- What a builder without negative corner numbers gives is well formed, if it gives something. -/
theorem Sound.wellFormed_of_build? (h : b.Sound False) {smooth : Bool} {mesh : Mesh α}
    (hmesh : b.build? smooth = .ok mesh) : mesh = b.build smooth ∧ mesh.WellFormed := by
  unfold build? at hmesh
  split at hmesh
  · next hempty =>
    cases hmesh
    rw [build, if_pos hempty]
    exact ⟨rfl, Mesh.wellFormed_empty⟩
  · obtain ⟨_, hcorners, hmesh⟩ := bind_eq_ok_iff.mp hmesh
    cases hmesh
    exact ⟨rfl, ((checkCorners_eq_ok_iff h).mp hcorners).wellFormed_build smooth⟩

/-- A sound builder gives its mesh. -/
theorem Sound.build?_eq (h : b.Sound True) (smooth : Bool) :
    b.build? smooth = .ok (b.build smooth) := by
  unfold build?
  split
  · next hempty => rw [build, if_pos hempty]
  · exact bind_eq_ok_iff.mpr ⟨(), (checkCorners_eq_ok_iff (h.mono False.elim)).mpr h, rfl⟩

/-- A smooth mesh with triangles has the vertices of its builder. -/
theorem vertices_build_of_nonempty (h : (b.build true).isEmpty = false) :
    (b.build true).vertices = b.vertices := by
  unfold build at h ⊢
  split
  · next hempty =>
    rw [if_pos hempty] at h
    cases h
  · rfl

end MeshBuilder

/-! ## Runs of a builder -/

/-- What can be asked of a builder. -/
inductive BuilderStep (α : Type) where
  | vertices (points : List (Point3 α))
  | triangle (corners : Triangle)
  | rings (lower upper count : Nat) (reverse : Bool)
  | fan (ring count : Nat) (center : List (Point3 α)) (upward : Bool)

/-- Has the fan, if it is one, a middle? -/
def BuilderStep.Centered {α : Type} : BuilderStep α → Prop
  | fan _ _ center _ => center ≠ []
  | _ => True

/-- A builder with the blocks that it was given, each with the offset that was the answer. -/
structure Ledger (α : Type) where
  builder : MeshBuilder α
  blocks : List (Nat × List (Point3 α))

namespace Ledger

variable {α : Type}

def empty : Ledger α := ⟨.empty, []⟩

/-- A block of so many vertices was given this offset. -/
def Has (l : Ledger α) (offset count : Nat) : Prop :=
  ∃ points, (offset, points) ∈ l.blocks ∧ count ≤ points.length

def perform (l : Ledger α) : BuilderStep α → Ledger α
  | .vertices points =>
    ⟨l.builder.addVertices points, l.blocks ++ [(l.builder.vertexCount, points)]⟩
  | .triangle corners => ⟨l.builder.addTriangles [corners], l.blocks⟩
  | .rings lower upper count reverse =>
    ⟨l.builder.connectRings lower upper count reverse, l.blocks⟩
  | .fan ring count center upward =>
    ⟨l.builder.addFan ring count center upward, l.blocks ++ [(l.builder.vertexCount, center)]⟩

/-- May the step be asked for? Rings are offsets of blocks of at least the given count, and single
triangles name vertices that are there. -/
def Allows (l : Ledger α) : BuilderStep α → Prop
  | .vertices _ => True
  | .triangle T => ∀ corner ∈ T.corners, 0 ≤ corner ∧ corner < l.builder.vertexCount
  | .rings lower upper count _ => l.Has lower count ∧ l.Has upper count
  | .fan ring count _ _ => l.Has ring count

/-- The ledgers that a run of steps leads to. -/
inductive Reaches : List (BuilderStep α) → Ledger α → Prop
  | empty : Reaches [] empty
  | step {steps : List (BuilderStep α)} {l : Ledger α} {s : BuilderStep α} (h : Reaches steps l)
      (hs : l.Allows s) : Reaches (steps ++ [s]) (l.perform s)

/-- The blocks stand where their offsets say, and the triangles name vertices. -/
structure Kept (l : Ledger α) (whole : Prop) : Prop where
  blocks : ∀ e ∈ l.blocks, l.builder.Block e.1 e.2
  sound : l.builder.Sound whole

theorem Kept.le_vertexCount {l : Ledger α} {whole : Prop} (h : l.Kept whole) {offset count : Nat}
    (hhas : l.Has offset count) : offset + count ≤ l.builder.vertexCount := by
  obtain ⟨points, hmem, hle⟩ := hhas
  exact Nat.le_trans (Nat.add_le_add_left hle offset) (h.blocks _ hmem).le_vertexCount

/-- A block that is given a builder stands at its end, and those before stay. -/
theorem Kept.block_concat {l : Ledger α} {whole : Prop} (h : l.Kept whole)
    (points : List (Point3 α)) :
    ∀ e ∈ l.blocks ++ [(l.builder.vertexCount, points)],
      (l.builder.addVertices points).Block e.1 e.2 := by
  intro e he
  rcases List.mem_append.mp he with he | he
  · exact (h.blocks e he).mono (MeshBuilder.extends_addVertices _ _)
  · cases List.mem_singleton.mp he
    exact MeshBuilder.block_addVertices _ _

/-- What a step keeps. -/
theorem kept_perform {l : Ledger α} {whole : Prop} (h : l.Kept whole) {s : BuilderStep α}
    (hs : l.Allows s) : (l.perform s).Kept (whole ∧ s.Centered) := by
  have hsound : l.builder.Sound (whole ∧ s.Centered) := h.sound.mono And.left
  cases s with
  | vertices points => exact ⟨h.block_concat points, hsound.addVertices points⟩
  | triangle T =>
    refine ⟨fun e he => (h.blocks e he).mono (MeshBuilder.extends_addTriangles _ _),
      hsound.addTriangles fun T' hT' corner hc => ?_⟩
    cases List.mem_singleton.mp hT'
    exact ⟨(hs corner hc).1, fun _ => (hs corner hc).2⟩
  | rings lower upper count reverse =>
    exact ⟨fun e he => (h.blocks e he).mono (MeshBuilder.extends_addTriangles _ _),
      hsound.connectRings (h.le_vertexCount hs.1) (h.le_vertexCount hs.2) reverse⟩
  | fan ring count center upward =>
    exact ⟨fun e he => (h.block_concat center e he).mono (MeshBuilder.extends_addTriangles _ _),
      hsound.addFan (h.le_vertexCount hs) (fun hwhole => hwhole.2) upward⟩

/-- What a run keeps. -/
theorem Reaches.kept {steps : List (BuilderStep α)} {l : Ledger α} (h : Reaches steps l) :
    l.Kept (∀ s ∈ steps, s.Centered) := by
  induction h with
  | empty => exact ⟨nofun, MeshBuilder.sound_empty _⟩
  | @step steps l s _ hs ih =>
    have hkept := kept_perform ih hs
    refine ⟨hkept.blocks, hkept.sound.mono fun hall => ⟨fun s' hs' => ?_, ?_⟩⟩
    · exact hall s' (List.mem_append_left _ hs')
    · exact hall s (List.mem_append_right _ (.head _))

end Ledger

end LoftGraph
