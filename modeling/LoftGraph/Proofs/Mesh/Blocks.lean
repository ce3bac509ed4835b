import LoftGraph.Mesh.Builder
import Mathlib.Algebra.GroupWithZero.Nat
import Mathlib.Data.List.Pairwise

/-!
# Blocks of vertices

A builder only appends vertices, so a block that stands stays where it is
(`MeshBuilder.Block.mono`): what is told of a block when it is added holds at the end.

`Laid` says of some blocks that they come one behind the other, without a space between them. Then
no two of them overlap (`Laid.disjoint`), and each vertex is in one of them (`Laid.exists_of_lt`).
If the vertices are those of rings, in the same order, each block is that of its ring
(`Laid.block`).
-/

namespace LoftGraph

namespace MeshBuilder

variable {α : Type} {b b' b'' : MeshBuilder α}

/-- Has a builder got vertices and nothing else happened to those that were there? -/
def Extends (b b' : MeshBuilder α) : Prop := ∃ points, b'.vertices = b.vertices ++ points

theorem Extends.refl (b : MeshBuilder α) : b.Extends b := ⟨#[], by simp⟩

theorem Extends.trans (h : b.Extends b') (h' : b'.Extends b'') : b.Extends b'' := by
  obtain ⟨points, h⟩ := h
  obtain ⟨points', h'⟩ := h'
  exact ⟨points ++ points', by rw [h', h, Array.append_assoc]⟩

theorem Extends.vertexCount_le (h : b.Extends b') : b.vertexCount ≤ b'.vertexCount := by
  obtain ⟨points, h⟩ := h
  simp [vertexCount, h]

theorem extends_addVertices (b : MeshBuilder α) (points : List (Point3 α)) :
    b.Extends (b.addVertices points) := ⟨points.toArray, rfl⟩

theorem extends_addTriangles (b : MeshBuilder α) (ts : List Triangle) :
    b.Extends (b.addTriangles ts) := ⟨#[], by simp [addTriangles]⟩

theorem toList_addVertices (b : MeshBuilder α) (points : List (Point3 α)) :
    (b.addVertices points).vertices.toList = b.vertices.toList ++ points := by
  simp [addVertices]

theorem toList_addTriangles (b : MeshBuilder α) (ts : List Triangle) :
    (b.addTriangles ts).triangles.toList = b.triangles.toList ++ ts := by
  simp [addTriangles]

theorem length_toList_vertices (b : MeshBuilder α) : b.vertices.toList.length = b.vertexCount :=
  Array.length_toList

/-- A ring stands among the vertices, from a place on. -/
structure Block (b : MeshBuilder α) (start : Nat) (ring : List (Point3 α)) : Prop where
  le_vertexCount : start + ring.length ≤ b.vertexCount
  getElem?_eq : ∀ k < ring.length, b.vertices[start + k]? = ring[k]?

variable {start : Nat} {ring : List (Point3 α)}

theorem Block.mono (h : b.Block start ring) (hb : b.Extends b') : b'.Block start ring := by
  refine ⟨Nat.le_trans h.le_vertexCount hb.vertexCount_le, fun k hk => ?_⟩
  obtain ⟨points, hpoints⟩ := hb
  have hlt : start + k < b.vertices.size := by
    have hle := h.le_vertexCount
    rw [vertexCount] at hle
    omega
  rw [hpoints, Array.getElem?_append_left hlt, h.getElem?_eq k hk]

theorem block_of_eq_append (front back : List (Point3 α))
    (h : b.vertices.toList = front ++ ring ++ back) : b.Block front.length ring := by
  have hlength : b.vertexCount = front.length + ring.length + back.length := by
    rw [← length_toList_vertices, h, List.length_append, List.length_append]
  refine ⟨by omega, fun k hk => ?_⟩
  rw [← Array.getElem?_toList, h, List.append_assoc,
    List.getElem?_append_right (Nat.le_add_right _ _), Nat.add_sub_cancel_left,
    List.getElem?_append_left hk]

theorem block_addVertices (b : MeshBuilder α) (ring : List (Point3 α)) :
    (b.addVertices ring).Block b.vertexCount ring := by
  rw [← length_toList_vertices]
  exact block_of_eq_append _ [] (by rw [toList_addVertices, List.append_nil])

end MeshBuilder

/-- Do blocks of these sizes come one behind the other, from a place on? -/
def Laid {ι : Type} (size start : ι → Nat) : Nat → List ι → Prop
  | _, [] => True
  | place, k :: rest => start k = place ∧ Laid size start (place + size k) rest

section Laid

variable {ι κ : Type} {size start : ι → Nat} {place : Nat} {blocks : List ι} {k k' : ι}

theorem laid_append {more : List ι} : Laid size start place (blocks ++ more) ↔
    Laid size start place blocks ∧ Laid size start (place + (blocks.map size).sum) more := by
  induction blocks generalizing place with
  | nil => simp [Laid]
  | cons k rest ih =>
    simp only [List.cons_append, Laid, ih, List.map_cons, List.sum_cons, and_assoc, Nat.add_assoc]

theorem laid_map {f : κ → ι} {blocks : List κ} :
    Laid size start place (blocks.map f) ↔ Laid (size ∘ f) (start ∘ f) place blocks := by
  induction blocks generalizing place with
  | nil => rfl
  | cons k rest ih => exact and_congr_right fun _ => ih

namespace Laid

variable (h : Laid size start place blocks)

include h

theorem congr {start' : ι → Nat} (hstart : ∀ k ∈ blocks, start' k = start k) :
    Laid size start' place blocks := by
  induction blocks generalizing place with
  | nil => trivial
  | cons k rest ih =>
    obtain ⟨hk, hrest⟩ := h
    exact ⟨(hstart k (.head _)).trans hk, ih hrest fun k hk => hstart k (.tail _ hk)⟩

theorem le_start (hk : k ∈ blocks) : place ≤ start k := by
  induction blocks generalizing place with
  | nil => cases hk
  | cons k rest ih =>
    obtain ⟨hfirst, hrest⟩ := h
    cases hk with
    | head => exact Nat.le_of_eq hfirst.symm
    | tail _ hk => exact Nat.le_trans (Nat.le_add_right _ _) (ih hrest hk)

theorem le_sum (hk : k ∈ blocks) : start k + size k ≤ place + (blocks.map size).sum := by
  induction blocks generalizing place with
  | nil => cases hk
  | cons k rest ih =>
    obtain ⟨hfirst, hrest⟩ := h
    rw [List.map_cons, List.sum_cons, ← Nat.add_assoc]
    cases hk with
    | head => rw [hfirst]; exact Nat.le_add_right _ _
    | tail _ hk => exact ih hrest hk

theorem pairwise : blocks.Pairwise (fun k k' => start k + size k ≤ start k') := by
  induction blocks generalizing place with
  | nil => exact .nil
  | cons k rest ih =>
    obtain ⟨hfirst, hrest⟩ := h
    exact .cons (fun k' hk' => hfirst ▸ hrest.le_start hk') (ih hrest)

theorem disjoint (hk : k ∈ blocks) (hk' : k' ∈ blocks) (hne : k ≠ k') :
    start k + size k ≤ start k' ∨ start k' + size k' ≤ start k := by
  have hsymm : Std.Symm (fun k k' => start k + size k ≤ start k' ∨ start k' + size k' ≤ start k) :=
    ⟨fun _ _ => Or.symm⟩
  have hapart : blocks.Pairwise
      (fun k k' => start k + size k ≤ start k' ∨ start k' + size k' ≤ start k) :=
    h.pairwise.imp Or.inl
  exact hapart.forall hk hk' hne

/-- No vertex is between the blocks. -/
theorem exists_of_lt {v : Nat} (hle : place ≤ v) (hlt : v < place + (blocks.map size).sum) :
    ∃ k ∈ blocks, start k ≤ v ∧ v < start k + size k := by
  induction blocks generalizing place with
  | nil =>
    simp only [List.map_nil, List.sum_nil] at hlt
    omega
  | cons k rest ih =>
    obtain ⟨hfirst, hrest⟩ := h
    rw [List.map_cons, List.sum_cons, ← Nat.add_assoc] at hlt
    rcases Nat.lt_or_ge v (place + size k) with hin | hbehind
    · exact ⟨k, .head _, by omega, by omega⟩
    · obtain ⟨k', hk', hv⟩ := ih hrest hbehind hlt
      exact ⟨k', .tail _ hk', hv⟩

end Laid

/-- Where the vertices are those of rings, in the order of the blocks, each ring has its block. -/
theorem Laid.block {α : Type} {b : MeshBuilder α} {ring : ι → List (Point3 α)}
    (front : List (Point3 α)) {back : List (Point3 α)}
    (h : Laid (fun k => (ring k).length) start front.length blocks)
    (hvertices : b.vertices.toList = front ++ blocks.flatMap ring ++ back) (hk : k ∈ blocks) :
    b.Block (start k) (ring k) := by
  induction blocks generalizing front with
  | nil => cases hk
  | cons k rest ih =>
    obtain ⟨hfirst, hrest⟩ := h
    rw [List.flatMap_cons] at hvertices
    cases hk with
    | head =>
      rw [hfirst]
      exact MeshBuilder.block_of_eq_append front (rest.flatMap ring ++ back)
        (by rw [hvertices]; simp only [List.append_assoc])
    | tail _ hk =>
      refine ih (front ++ ring k) ?_ ?_ hk
      · rw [List.length_append]
        exact hrest
      · rw [hvertices]
        simp only [List.append_assoc]

end Laid

end LoftGraph
