import Mathlib.Tactic.NormNum
import LoftGraph.Proofs.Geometry.Way
import LoftGraph.Proofs.Number.Field

/-!
# The signed area over an ordered field

The shoelace sum goes round a polygon and adds up what each edge contributes (`signedArea_eq`).

* Turned round, every edge contributes the opposite, and where the way round begins makes no
  difference: a polygon turned round has the opposite area (`signedArea_reverse`).  So turning a
  clockwise polygon over leaves the amount of its area alone and makes it positive
  (`signedArea_ensureCounterClockwise`).
* Seen from its first vertex a polygon falls into triangles, one for each edge that the vertex does
  not lie on (`around_cross_eq`).
-/

namespace LoftGraph

attribute [-instance] Scalar.toAdd Scalar.toSub Scalar.toMul Scalar.toDiv Scalar.toNeg
  Scalar.instOfNatScalar

namespace Polygon

section Area

variable {K : Type} [Field K] [LinearOrder K] [Gauge K]

/-! ## Triangles -/

theorem cross_eq (p q : Point K) : p.cross q = p.x * q.y - q.x * p.y := rfl

/-- Twice the signed area of the triangle of three points. -/
def triangle (o p q : Point K) : K := (p.sub o).cross (q.sub o)

theorem triangle_eq (o p q : Point K) :
    triangle o p q = (p.x - o.x) * (q.y - o.y) - (q.x - o.x) * (p.y - o.y) := rfl

@[simp] theorem triangle_self (o p : Point K) : triangle o p p = 0 := sub_self _

@[simp] theorem triangle_right_origin (o p : Point K) : triangle o p o = 0 := by
  rw [triangle_eq]
  ring

@[simp] theorem triangle_left_origin (o q : Point K) : triangle o o q = 0 := by
  rw [triangle_eq]
  ring

theorem triangle_rotate (o p q : Point K) : triangle p q o = triangle o p q := by
  rw [triangle_eq, triangle_eq]
  ring

theorem triangle_swap (o p q : Point K) : triangle o q p = -triangle o p q := by
  rw [triangle_eq, triangle_eq]
  ring

/-- A polygon falls into the triangles of its first vertex and each edge that does not meet it. -/
theorem around_cross_eq (o : Point K) (rest : List (Point K)) :
    around Point.cross (o :: rest) = along (triangle o) rest := by
  have hfan : ∀ p rest, o.cross p + along Point.cross (p :: (rest ++ [o]))
      = along (triangle o) (p :: rest) := by
    intro p rest
    induction rest generalizing p with
    | nil =>
      rw [List.nil_append, along_cons_cons, along_singleton, along_singleton, cross_eq, cross_eq]
      ring
    | cons q rest ih =>
      rw [List.cons_append, along_cons_cons, along_cons_cons, ← ih q, triangle_eq, cross_eq,
        cross_eq, cross_eq]
      ring
  cases rest with
  | nil =>
    rw [around_cons, List.nil_append, along_cons_cons, along_singleton, cross_eq]
    exact (add_zero _).trans (sub_self _)
  | cons p rest =>
    rw [around_cons, List.cons_append, along_cons_cons, hfan]

/-- An edge that meets the point it is seen from makes no triangle. -/
theorem along_origin (o : Point K) (ps : List (Point K)) :
    along (triangle o) (o :: ps) = along (triangle o) ps := by
  cases ps with
  | nil => rfl
  | cons p rest => rw [along_cons_cons, triangle_left_origin, zero_add]

theorem around_triangle_eq (o : Point K) (ps : List (Point K)) :
    around (triangle o) (o :: ps) = along (triangle o) ps := by
  rw [around_cons, along_origin]
  induction ps with
  | nil => rfl
  | cons p ps ih =>
    cases ps with
    | nil =>
      rw [List.cons_append, List.nil_append, along_cons_cons, triangle_right_origin, zero_add,
        along_singleton, along_singleton]
    | cons q rest =>
      rw [List.cons_append] at ih
      rw [List.cons_append, List.cons_append, along_cons_cons, ih, along_cons_cons]

/-! ## The area, and turning a clockwise polygon over -/

theorem ensureCounterClockwise_eq_ite (p : Polygon K) :
    p.ensureCounterClockwise = if p.signedArea < 0 then p.reverse else p := by
  rw [ensureCounterClockwise, Scalar.zero_eq, Scalar.lt_eq]
  refine if_congr ?_ rfl rfl
  rw [decide_eq_true_eq]
  refine and_iff_right_of_imp fun harea => not_lt.mp fun hshort => ?_
  -- fewer than three vertices enclose nothing, which is not below zero
  rw [signedArea, if_pos hshort, Scalar.zero_eq] at harea
  exact lt_irrefl 0 harea

theorem ensureCounterClockwise_of_nonneg {p : Polygon K} (h : 0 ≤ p.signedArea) :
    p.ensureCounterClockwise = p := by
  rw [ensureCounterClockwise_eq_ite, if_neg (not_lt.mpr h)]

variable [IsStrictOrderedRing K]

/-- Half of what the edges contribute.  With fewer than three vertices nothing is left of it. -/
theorem signedArea_eq (p : Polygon K) : p.signedArea = around Point.cross p / 2 := by
  have hhalf : (Scalar.ofDecimal 5 1 : K) = 1 / 2 := by
    rw [Scalar.ofDecimal_eq]
    norm_num
  rw [signedArea]
  split
  · next h =>
    rw [Scalar.zero_eq]
    match p, h with
    | [], _ => rw [around, edges, List.zip_nil_left, List.map_nil, List.sum_nil, zero_div]
    | [p], _ =>
      rw [around_cons, List.nil_append, along_cons_cons, along_singleton, cross_eq]
      ring
    | [p, q], _ =>
      rw [around_cons, List.cons_append, List.nil_append, along_cons_cons, along_cons_cons,
        along_singleton, cross_eq, cross_eq]
      ring
  · rw [hhalf, Scalar.sum_eq]
    exact one_div_mul_eq_div 2 _

/-- The area of a polygon turned round is the opposite. -/
theorem signedArea_reverse (p : Polygon K) : signedArea p.reverse = -p.signedArea := by
  have hopposite : around (fun v u => Point.cross u v) p = -around (Point.cross (α := K)) p := by
    rw [around, around, List.sum_neg, List.map_map]
    refine congrArg List.sum (List.map_congr_left fun e _ => ?_)
    exact (neg_sub _ _).symm
  rw [signedArea_eq, signedArea_eq, around_reverse, hopposite, neg_div]

/-- Copies of one point enclose nothing. -/
theorem signedArea_replicate (n : Nat) (o : Point K) : signedArea (List.replicate n o) = 0 := by
  rw [signedArea_eq]
  cases n with
  | zero => exact zero_div 2
  | succ n =>
    rw [List.replicate_succ, around_cross_eq, along_replicate _ (triangle_self o o), zero_div]

theorem area_eq (p : Polygon K) : p.area = |p.signedArea| := Scalar.abs_eq _

/-- Turning over a clockwise polygon makes the amount of its area its area. -/
theorem signedArea_ensureCounterClockwise (p : Polygon K) :
    p.ensureCounterClockwise.signedArea = |p.signedArea| := by
  rw [ensureCounterClockwise_eq_ite]
  split
  · next h => rw [signedArea_reverse, abs_of_neg h]
  · next h => exact (abs_of_nonneg (not_lt.mp h)).symm

theorem signedArea_ensureCounterClockwise_nonneg (p : Polygon K) :
    0 ≤ p.ensureCounterClockwise.signedArea := by
  rw [signedArea_ensureCounterClockwise]
  exact abs_nonneg _

theorem area_ensureCounterClockwise (p : Polygon K) : p.ensureCounterClockwise.area = p.area := by
  rw [area_eq, signedArea_ensureCounterClockwise, abs_abs, area_eq]

theorem ensureCounterClockwise_idem (p : Polygon K) :
    p.ensureCounterClockwise.ensureCounterClockwise = p.ensureCounterClockwise :=
  ensureCounterClockwise_of_nonneg p.signedArea_ensureCounterClockwise_nonneg

end Area

end Polygon

end LoftGraph
