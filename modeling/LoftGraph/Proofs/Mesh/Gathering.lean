import Mathlib.Algebra.BigOperators.Group.List.Basic
import Mathlib.Data.List.Rotate
import LoftGraph.Proofs.Mesh.Beginning
import LoftGraph.Proofs.Number.Field

/-!
# Normals gathered

The normals of the vertices are scattered: every triangle adds its own to the entries of its three
corners, one corner after the other. In exact arithmetic each vertex has then gathered the normals
of the triangles around it (`Mesh.summedNormals_eq`), once for every corner that a triangle has
there (`Mesh.gathered`).

* One round of adding gives an entry a sum over the triangles (`Mesh.getElem?_scatter`), whatever it
  held before; the sums of the three rounds make up the one over all corners.
* A sum of vectors does not depend on the order of its terms, and the normal of a triangle not on
  the corner it starts with. It turns round with the triangle, and is that of the moved triangle.
-/

namespace LoftGraph

section Exact

-- the operations and numerals of the field itself are the ones that are meant below
attribute [-instance] Scalar.toAdd Scalar.toSub Scalar.toMul Scalar.toDiv Scalar.toNeg
  Scalar.instOfNatScalar

attribute [ext] Point3

variable {K : Type} [Field K] [LinearOrder K] [Gauge K]

/-! ## Vectors of an exact field -/

namespace Point3

instance : Zero (Point3 K) := ⟨zero⟩

instance : Add (Point3 K) := ⟨add⟩

instance : Sub (Point3 K) := ⟨sub⟩

instance : Neg (Point3 K) := ⟨map (-·)⟩

theorem zero_eq : (0 : Point3 K) = ⟨0, 0, 0⟩ := by
  show zero = _
  rw [zero, Scalar.zero_eq]

theorem add_eq (p q : Point3 K) : p + q = ⟨p.x + q.x, p.y + q.y, p.z + q.z⟩ := rfl

theorem sub_eq (p q : Point3 K) : p - q = ⟨p.x - q.x, p.y - q.y, p.z - q.z⟩ := rfl

omit [LinearOrder K] [Gauge K] in
theorem neg_eq (p : Point3 K) : -p = ⟨-p.x, -p.y, -p.z⟩ := rfl

theorem cross_eq (p q : Point3 K) : p.cross q
    = ⟨p.y * q.z - p.z * q.y, p.z * q.x - p.x * q.z, p.x * q.y - p.y * q.x⟩ := rfl

instance addCommGroup : AddCommGroup (Point3 K) where
  add_assoc p q r := by simp only [add_eq, add_assoc]
  add_comm p q := by simp only [add_eq, add_comm]
  zero_add p := by simp only [zero_eq, add_eq, zero_add]
  add_zero p := by simp only [zero_eq, add_eq, add_zero]
  neg_add_cancel p := by simp only [zero_eq, add_eq, neg_eq, neg_add_cancel]
  sub_eq_add_neg p q := by simp only [sub_eq, add_eq, neg_eq, sub_eq_add_neg]
  nsmul := nsmulRec
  zsmul := zsmulRec

theorem normalized_neg (p : Point3 K) : (-p).normalized = -p.normalized := by
  have hnorm : (-p).norm = p.norm := by
    show Gauge.sqrt (-p.x * -p.x + -p.y * -p.y + -p.z * -p.z)
      = Gauge.sqrt (p.x * p.x + p.y * p.y + p.z * p.z)
    simp only [neg_mul_neg]
  rw [normalized, normalized, hnorm]
  ext <;> exact neg_div _ _

theorem normalized_zero : (0 : Point3 K).normalized = 0 := by
  rw [zero_eq]
  ext <;> exact zero_div _

/-- The normal of a triangle does not depend on the corner it starts with. -/
theorem cross_rotate (p q r : Point3 K) : (r - q).cross (p - q) = (q - p).cross (r - p) := by
  simp only [cross_eq, sub_eq, mk.injEq]
  exact ⟨by ring, by ring, by ring⟩

/-- The normal of a triangle turns round with the triangle. -/
theorem cross_swap (p q : Point3 K) : q.cross p = -p.cross q := by
  simp only [cross_eq, neg_eq, mk.injEq]
  exact ⟨by ring, by ring, by ring⟩

end Point3

/-! ## What an entry gathers -/

namespace Mesh

variable {vertices sums : Array (Point3 K)} {triangles : Array Triangle} {place : Nat}

/-- Does a corner number name the vertex at a place among so many? A number below zero counts from
the end. -/
def Names (size place : Nat) (corner : Int) : Prop := corner = place ∨ corner = place - size

instance (size place : Nat) : DecidablePred (Names size place) :=
  fun _ => inferInstanceAs (Decidable (_ ∨ _))

/-- The sum of the normals around a vertex: that of every triangle once for each corner that the
triangle has there. -/
def gathered (vertices : Array (Point3 K)) (triangles : Array Triangle) (place : Nat) :
    Point3 K :=
  (triangles.toList.flatMap fun t => (t.corners.filter (Names vertices.size place)).map
    fun _ => areaNormal vertices t).sum

theorem cornerIndex?_eq_some_iff {size : Nat} {corner : Int} (h : place < size) :
    cornerIndex? size corner = some place ↔ Names size place corner := by
  unfold cornerIndex? Names
  split
  · split <;> simp <;> omega
  · split <;> simp <;> omega

/-- What a corner of every triangle gives to an entry, in one round of adding. -/
def share (vertices : Array (Point3 K)) (triangles : List Triangle) (size place : Nat)
    (corner : Triangle → Int) : Point3 K :=
  (triangles.map fun t =>
    if Names size place (corner t) then areaNormal vertices t else 0).sum

@[simp] theorem share_nil (size : Nat) (corner : Triangle → Int) :
    share vertices [] size place corner = 0 := rfl

theorem share_cons (t : Triangle) (rest : List Triangle) (size : Nat) (corner : Triangle → Int) :
    share vertices (t :: rest) size place corner
      = (if Names size place (corner t) then areaNormal vertices t else 0)
        + share vertices rest size place corner := rfl

/-- One round of adding, read at an entry. -/
theorem getElem?_scatter (corner : Triangle → Int) (h : place < sums.size) :
    (scatter vertices corner triangles sums)[place]?
      = sums[place]?.map (· + share vertices triangles.toList sums.size place corner) := by
  rw [scatter, ← Array.foldl_toList]
  generalize triangles.toList = ts
  induction ts generalizing sums with
  | nil => simp
  | cons t rest ih =>
    have hsize := size_addAt sums (corner t) (areaNormal vertices t)
    rw [List.foldl_cons, ih (hsize.symm ▸ h), hsize, getElem?_addAt, share_cons]
    simp only [cornerIndex?_eq_some_iff h]
    split
    · rw [Option.map_map]
      exact congrArg (Option.map · _) (funext fun s => add_assoc s _ _)
    · simp only [zero_add]

/-- What a triangle gives to an entry, corner by corner. -/
theorem sum_corners (t : Triangle) (p : Int → Prop) [DecidablePred p] (v : Point3 K) :
    ((t.corners.filter p).map fun _ => v).sum
      = (if p t.a then v else 0) + (if p t.b then v else 0) + (if p t.c then v else 0) := by
  simp only [Triangle.corners, List.filter_cons, List.filter_nil]
  by_cases ha : p t.a <;> by_cases hb : p t.b <;> by_cases hc : p t.c <;>
    simp [ha, hb, hc, add_assoc]

theorem gathered_eq_shares (vertices : Array (Point3 K)) (triangles : Array Triangle)
    (place : Nat) : gathered vertices triangles place
      = share vertices triangles.toList vertices.size place Triangle.a
        + share vertices triangles.toList vertices.size place Triangle.b
        + share vertices triangles.toList vertices.size place Triangle.c := by
  rw [gathered, List.flatMap, List.sum_flatten, List.map_map]
  simp only [Function.comp_def, sum_corners, List.sum_map_add, share]

/-- The three rounds of adding give every vertex the normals around it. -/
theorem summedNormals_eq : summedNormals vertices triangles
    = (Array.range vertices.size).map (gathered vertices triangles) := by
  have hsize : (summedNormals vertices triangles).size = vertices.size := by
    simp [summedNormals]
  refine Array.ext_getElem? fun place => ?_
  by_cases h : place < vertices.size
  · have hzeros : (Array.replicate vertices.size (Point3.zero : Point3 K))[place]? = some 0 := by
      rw [Array.getElem?_replicate, if_pos h]
      rfl
    rw [summedNormals, getElem?_scatter _ (by simpa using h), getElem?_scatter _ (by simpa using h),
      getElem?_scatter _ (by simpa using h), hzeros]
    simp [h, gathered_eq_shares]
  · simp [h, hsize]

/-- Where there are no triangles the normals are sums as well. -/
theorem vertexNormals_eq (vertices : Array (Point3 K)) (triangles : Array Triangle) :
    vertexNormals vertices triangles
      = (summedNormals vertices triangles).map Point3.normalized := by
  unfold vertexNormals
  split
  · next hempty =>
    have hnone : triangles = #[] := by simpa using hempty
    have hsums : summedNormals vertices triangles
        = Array.replicate vertices.size (0 : Point3 K) := by
      rw [hnone]
      rfl
    rw [hsums, Array.map_replicate, Point3.normalized_zero]
    rfl
  · rfl

/-! ## Other lists of triangles, and other places -/

section Change

variable {vertices' : Array (Point3 K)} {others : Array Triangle}

/-- Sums of vectors do not depend on their order. -/
theorem gathered_perm (h : others.toList.Perm triangles.toList) :
    gathered vertices others place = gathered vertices triangles place :=
  (h.flatMap_right _).sum_eq

/-- Triangles of the same corners whose normals are changed additively give sums that are changed
so. -/
theorem gathered_changed (f : Point3 K →+ Point3 K) (hsize : vertices'.size = vertices.size)
    (h : List.Forall₂ (fun t u => u.corners.Perm t.corners ∧
      areaNormal vertices' u = f (areaNormal vertices t)) triangles.toList others.toList) :
    gathered vertices' others place = f (gathered vertices triangles place) := by
  rw [gathered, gathered, hsize, map_list_sum]
  generalize triangles.toList = ts at h
  generalize others.toList = us at h
  induction h with
  | nil => simp
  | @cons t u ts us htu _ ih =>
    obtain ⟨hcorners, hnormal⟩ := htu
    have hperm := (hcorners.filter (Names vertices.size place)).map
      fun _ => areaNormal vertices' u
    rw [List.flatMap_cons, List.sum_append, hperm.sum_eq, hnormal, ih, List.flatMap_cons,
      List.map_append, List.sum_append, List.map_map]
    rfl

end Change

/-! ## Turning a triangle and turning it round -/

theorem isRotated_cases {t u : Triangle} (h : u.corners.IsRotated t.corners) :
    t = u ∨ t = ⟨u.b, u.c, u.a⟩ ∨ t = ⟨u.c, u.a, u.b⟩ := by
  obtain ⟨n, hn⟩ := h
  have hlength : u.corners.length = 3 := rfl
  rw [← List.rotate_mod, hlength] at hn
  have hcases : n % 3 = 0 ∨ n % 3 = 1 ∨ n % 3 = 2 := by omega
  cases t
  rcases hcases with h | h | h <;> rw [h] at hn <;> cases hn
  · exact .inl rfl
  · exact .inr (.inl rfl)
  · exact .inr (.inr rfl)

theorem areaNormal_eq_cross (vertices : Array (Point3 K)) (t : Triangle) :
    areaNormal vertices t
      = (cornerPosition vertices t.b - cornerPosition vertices t.a).cross
        (cornerPosition vertices t.c - cornerPosition vertices t.a) := rfl

theorem areaNormal_of_isRotated {t u : Triangle} (h : u.corners.IsRotated t.corners) :
    areaNormal vertices u = areaNormal vertices t := by
  rcases isRotated_cases h with rfl | rfl | rfl
  · rfl
  · exact (Point3.cross_rotate _ _ _).symm
  · rw [areaNormal_eq_cross, areaNormal_eq_cross, Point3.cross_rotate, Point3.cross_rotate]

theorem areaNormal_of_reversed {t u : Triangle} (h : u.corners.IsRotated t.corners.reverse) :
    areaNormal vertices u = -areaNormal vertices t := by
  have hturned : areaNormal vertices u = areaNormal vertices ⟨t.c, t.b, t.a⟩ :=
    areaNormal_of_isRotated h
  rw [hturned, areaNormal_eq_cross, Point3.cross_swap, Point3.cross_rotate, Point3.cross_rotate]
  rfl

/-! ## Moving the vertices -/

/-- Does every corner of a triangle name one of so many vertices? -/
def Naming (size : Nat) (t : Triangle) : Prop :=
  ∀ corner ∈ t.corners, ∃ place < size, Names size place corner

/-- A corner is found at the place it names. -/
theorem cornerPosition_of_names {corner : Int} (h : place < vertices.size)
    (hcorner : Names vertices.size place corner) :
    cornerPosition vertices corner = vertices[place] := by
  rw [cornerPosition, (cornerIndex?_eq_some_iff h).mpr hcorner]
  simp [h]

theorem areaNormal_moved {t : Triangle} (h : Naming vertices.size t) (offset : Point3 K) :
    areaNormal (vertices.map (·.add offset)) t = areaNormal vertices t := by
  have hcorner : ∀ corner ∈ t.corners, cornerPosition (vertices.map (·.add offset)) corner
      = cornerPosition vertices corner + offset := by
    intro corner hmem
    obtain ⟨place, hlt, hnames⟩ := h corner hmem
    have hsize : (vertices.map (·.add offset)).size = vertices.size := Array.size_map
    rw [cornerPosition_of_names hlt hnames,
      cornerPosition_of_names (hsize.symm ▸ hlt) (hsize.symm ▸ hnames), Array.getElem_map]
    rfl
  rw [areaNormal_eq_cross, hcorner t.a (.head _), hcorner t.b (.tail _ (.head _)),
    hcorner t.c (.tail _ (.tail _ (.head _))), add_sub_add_right_eq_sub,
    add_sub_add_right_eq_sub, areaNormal_eq_cross]

theorem gathered_moved (h : ∀ t ∈ triangles, Naming vertices.size t) (offset : Point3 K) :
    gathered (vertices.map (·.add offset)) triangles place = gathered vertices triangles place := by
  refine gathered_changed (.id _) Array.size_map (List.forall₂_same.mpr fun t ht => ?_)
  exact ⟨.refl _, areaNormal_moved (h t (Array.mem_toList_iff.mp ht)) offset⟩

theorem gathered_of_isRotated {others : Array Triangle}
    (h : List.Forall₂ (fun t u => u.corners.IsRotated t.corners) triangles.toList others.toList) :
    gathered vertices others place = gathered vertices triangles place :=
  gathered_changed (.id _) rfl (h.imp fun _ _ hturned =>
    ⟨hturned.perm, areaNormal_of_isRotated hturned⟩)

theorem gathered_of_reversed {others : Array Triangle}
    (h : List.Forall₂ (fun t u => u.corners.IsRotated t.corners.reverse)
      triangles.toList others.toList) :
    gathered vertices others place = -gathered vertices triangles place :=
  gathered_changed (-.id _) rfl (h.imp fun _ _ hturned =>
    ⟨hturned.perm.trans (List.reverse_perm _), areaNormal_of_reversed hturned⟩)

/-- A vertex without triangles gathers nothing. -/
theorem gathered_eq_zero
    (h : ∀ t ∈ triangles, ∀ corner ∈ t.corners, ¬ Names vertices.size place corner) :
    gathered vertices triangles place = 0 := by
  have hnone : triangles.toList.flatMap (fun t => (t.corners.filter
      (Names vertices.size place)).map fun _ => areaNormal vertices t) = [] := by
    refine List.flatMap_eq_nil_iff.mpr fun t ht => ?_
    rw [List.map_eq_nil_iff, List.filter_eq_nil_iff]
    simpa using h t (Array.mem_toList_iff.mp ht)
  rw [gathered, hnone, List.sum_nil]

theorem vertexNormals_eq_map (vertices : Array (Point3 K)) (triangles : Array Triangle) :
    vertexNormals vertices triangles
      = (Array.range vertices.size).map fun place =>
          (gathered vertices triangles place).normalized := by
  rw [vertexNormals_eq, summedNormals_eq, Array.map_map]
  rfl

end Mesh

/-- **Smooth normals are gathered**. The sum that is scattered to a vertex is that of the normals of
all triangles, each as often as the triangle has the vertex for a corner. So the normals stay the
same when the triangles come in another order, start with other corners or are moved with the
vertices, and turn round when all triangles are turned round. -/
theorem smooth_normals_are_gathered {vertices : Array (Point3 K)} {triangles : Array Triangle}
    (h : ∀ t ∈ triangles, Mesh.Naming vertices.size t) :
    (Mesh.vertexNormals vertices triangles
        = (Mesh.summedNormals vertices triangles).map Point3.normalized ∧
      Mesh.summedNormals vertices triangles
        = (Array.range vertices.size).map (Mesh.gathered vertices triangles) ∧
      ∀ place, (∀ t ∈ triangles, ∀ corner ∈ t.corners, ¬ Mesh.Names vertices.size place corner) →
        Mesh.gathered vertices triangles place = 0) ∧
    (∀ others : Array Triangle,
      (others.toList.Perm triangles.toList →
        Mesh.vertexNormals vertices others = Mesh.vertexNormals vertices triangles) ∧
      (List.Forall₂ (fun t u => u.corners.IsRotated t.corners) triangles.toList others.toList →
        Mesh.vertexNormals vertices others = Mesh.vertexNormals vertices triangles) ∧
      (List.Forall₂ (fun t u => u.corners.IsRotated t.corners.reverse)
          triangles.toList others.toList →
        Mesh.vertexNormals vertices others = (Mesh.vertexNormals vertices triangles).map (-·))) ∧
    ∀ offset : Point3 K, Mesh.vertexNormals (vertices.map (·.add offset)) triangles
      = Mesh.vertexNormals vertices triangles := by
  refine ⟨⟨Mesh.vertexNormals_eq _ _, Mesh.summedNormals_eq, fun place => Mesh.gathered_eq_zero⟩,
    fun others => ⟨fun hperm => ?_, fun hturned => ?_, fun hreversed => ?_⟩, fun offset => ?_⟩
  · simp only [Mesh.vertexNormals_eq_map, Mesh.gathered_perm hperm]
  · simp only [Mesh.vertexNormals_eq_map, Mesh.gathered_of_isRotated hturned]
  · simp only [Mesh.vertexNormals_eq_map, Mesh.gathered_of_reversed hreversed,
      Point3.normalized_neg, Array.map_map, Function.comp_def]
  · simp only [Mesh.vertexNormals_eq_map, Mesh.gathered_moved h, Array.size_map]

end Exact

/-- Corners of a cube and a vertex apart. -/
def cubeCorners : Array (Point3 ℚ) := #[⟨0, 0, 0⟩, ⟨1, 0, 0⟩, ⟨0, 1, 0⟩, ⟨0, 0, 1⟩, ⟨5, 5, 5⟩]

/-- Halves of two sides of the cube and a triangle without area; a corner is counted from the
end. -/
def cubeSides : Array Triangle := #[⟨0, 1, 2⟩, ⟨0, 2, -2⟩, ⟨1, 1, 0⟩]

theorem cube_normals_are_gathered :
    (∀ t ∈ cubeSides, Mesh.Naming cubeCorners.size t) ∧
      (Mesh.summedNormals cubeCorners cubeSides)[0]? = some ⟨1, 0, 1⟩ ∧
      Mesh.gathered cubeCorners cubeSides 4 = 0 ∧
      Mesh.vertexNormals cubeCorners #[⟨2, 1, 0⟩, ⟨2, 0, -2⟩, ⟨1, 0, 1⟩]
        = (Mesh.vertexNormals cubeCorners cubeSides).map (-·) := by
  have hnaming : ∀ t ∈ cubeSides, Mesh.Naming cubeCorners.size t := by
    unfold Mesh.Naming
    decide
  obtain ⟨⟨-, hsums, hunused⟩, hothers, -⟩ := smooth_normals_are_gathered hnaming
  refine ⟨hnaming, ?_, hunused 4 (by decide), (hothers _).2.2 ?_⟩
  · rw [hsums]
    decide +kernel
  · exact .cons ⟨0, rfl⟩ (.cons ⟨2, rfl⟩ (.cons ⟨1, rfl⟩ .nil))

end LoftGraph
