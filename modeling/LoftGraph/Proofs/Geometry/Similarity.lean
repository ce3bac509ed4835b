import Mathlib.Algebra.BigOperators.Ring.List
import Mathlib.Tactic.FieldSimp
import LoftGraph.Proofs.Geometry.SignedArea

/-!
# Similarities of the plane

A similarity stretches, turns and moves the plane (`Point.similar`).  Scaling a polygon about a
point and turning it are two of them (`Polygon.scaleAbout_eq_map`, `Polygon.turn_eq_map`).

* What an edge contributes to the shoelace sum is multiplied by the square of the stretch, apart
  from a difference between its two ends.  Such differences cancel round a polygon, so its area is
  multiplied by the same square (`Polygon.signedArea_similar`).
* The average of the vertices is moved along (`Polygon.centroid_similar`), and therefore it makes no
  difference whether a polygon is scaled about that average before or after
  (`Polygon.scaleAboutCentroid_similar`).
-/

namespace LoftGraph

attribute [-instance] Scalar.toAdd Scalar.toSub Scalar.toMul Scalar.toDiv Scalar.toNeg
  Scalar.instOfNatScalar

namespace Polygon

/-! ## Sums round a polygon that has been mapped -/

section Sums

variable {α β : Type}

theorem shifted_map (φ : Point α → Point β) (p : Polygon α) :
    shifted (p.map φ) = (shifted p).map φ := by
  cases p <;> simp [shifted]

theorem around_map {M : Type} [AddCommMonoid M] (f : Point β → Point β → M)
    (φ : Point α → Point β) (p : Polygon α) :
    around f (p.map φ) = around (fun u v => f (φ u) (φ v)) p := by
  rw [around, around, edges, edges, shifted_map, List.zip_map, List.map_map]
  rfl

theorem around_add {M : Type} [AddCommMonoid M] (f g : Point α → Point α → M) (p : Polygon α) :
    around (fun u v => f u v + g u v) p = around f p + around g p := List.sum_map_add

theorem around_mul_left {R : Type} [NonUnitalNonAssocSemiring R] (d : R)
    (f : Point α → Point α → R) (p : Polygon α) :
    around (fun u v => d * f u v) p = d * around f p := List.sum_map_mul_left _ _ d

/-- Differences between the ends of the edges cancel. -/
theorem around_sub_eq_zero {M : Type} [AddCommGroup M] (g : Point α → M) (p : Polygon α) :
    around (fun u v => g v - g u) p = 0 := by
  have hway : ∀ (u : Point α) (ps : List (Point α)) (last : Point α),
      along (fun u v => g v - g u) (u :: (ps ++ [last])) = g last - g u := by
    intro u ps last
    induction ps generalizing u with
    | nil => simp
    | cons v rest ih => rw [List.cons_append, along_cons_cons, ih, add_comm, sub_add_sub_cancel]
  cases p with
  | nil => rfl
  | cons u rest => rw [around_cons, hway, sub_self]

end Sums

end Polygon

/-! ## Stretching, turning and moving -/

variable {K : Type} [Field K] [LinearOrder K] [Gauge K]

/-- The point `v` stretched and turned by the vector `(a, b)`, as complex numbers are multiplied,
and then moved by `o`. -/
def Point.similar (a b : K) (o v : Point K) : Point K := (v.turn a b).add o

namespace Point

theorem similar_eq (a b : K) (o v : Point K) :
    similar a b o v = ⟨v.x * a - v.y * b + o.x, v.x * b + v.y * a + o.y⟩ := rfl

theorem cross_similar (a b : K) (o u v : Point K) :
    (similar a b o u).cross (similar a b o v) = (a * a + b * b) * u.cross v +
      ((o.x * (v.x * b + v.y * a) - o.y * (v.x * a - v.y * b)) -
        (o.x * (u.x * b + u.y * a) - o.y * (u.x * a - u.y * b))) := by
  simp only [Polygon.cross_eq, similar_eq]
  ring

end Point

namespace Polygon

theorem scaleAbout_eq_map (p : Polygon K) (c : Point K) (factor : K) :
    p.scaleAbout c factor
      = p.map (Point.similar factor 0 ⟨c.x - c.x * factor, c.y - c.y * factor⟩) := by
  refine List.map_congr_left fun v _ => ?_
  show (⟨c.x + (v.x - c.x) * factor, c.y + (v.y - c.y) * factor⟩ : Point K) = _
  rw [Point.similar_eq, Point.mk.injEq]
  exact ⟨by ring, by ring⟩

theorem turn_eq_map (p : Polygon K) (c s : K) :
    p.turn c s Point.origin = p.map (Point.similar c s Point.origin) := by
  refine List.map_congr_left fun v _ => ?_
  have hsub : v.sub Point.origin = v := by
    show (⟨v.x - (Point.origin : Point K).x, v.y - (Point.origin : Point K).y⟩ : Point K) = v
    rw [Point.origin, Scalar.zero_eq, sub_zero, sub_zero]
  rw [hsub]
  rfl

theorem turn_one_zero (p : Polygon K) : p.turn 1 0 Point.origin = p := by
  rw [turn_eq_map]
  refine (List.map_congr_left fun v _ => ?_).trans (List.map_id p)
  rw [Point.similar_eq, Point.origin, Scalar.zero_eq]
  simp

theorem scaleAboutCentroid_one (p : Polygon K) : p.scaleAboutCentroid 1 = p := by
  rw [scaleAboutCentroid, scaleAbout_eq_map]
  refine (List.map_congr_left fun v _ => ?_).trans (List.map_id p)
  rw [Point.similar_eq]
  simp

/-! ## The average of the vertices -/

theorem centroid_eq (p : Polygon K) :
    p.centroid = ⟨(p.map Point.x).sum / p.length, (p.map Point.y).sum / p.length⟩ := by
  unfold centroid
  split
  · next h =>
    rw [List.isEmpty_iff.mp h, Point.origin, Scalar.zero_eq, List.length_nil, Nat.cast_zero,
      div_zero, div_zero]
  · rw [Scalar.sum_eq, Scalar.sum_eq, Scalar.ofNat_eq]

theorem sum_similar (a b : K) (o : Point K) (p : Polygon K) :
    ((p.map (Point.similar a b o)).map Point.x).sum
        = (p.map Point.x).sum * a - (p.map Point.y).sum * b + p.length * o.x ∧
      ((p.map (Point.similar a b o)).map Point.y).sum
        = (p.map Point.x).sum * b + (p.map Point.y).sum * a + p.length * o.y := by
  induction p with
  | nil => simp
  | cons v rest ih =>
    simp only [List.map_cons, List.sum_cons, List.length_cons, Nat.cast_succ, ih.1, ih.2,
      Point.similar_eq]
    exact ⟨by ring, by ring⟩

variable [IsStrictOrderedRing K]

theorem centroid_similar {p : Polygon K} (hp : p ≠ []) (a b : K) (o : Point K) :
    centroid (p.map (Point.similar a b o)) = Point.similar a b o p.centroid := by
  have hlength : (p.length : K) ≠ 0 :=
    Nat.cast_ne_zero.mpr (List.length_pos_iff.mpr hp).ne'
  obtain ⟨hx, hy⟩ := sum_similar a b o p
  rw [centroid_eq, centroid_eq, Point.similar_eq, hx, hy, List.length_map, Point.mk.injEq]
  exact ⟨by field_simp, by field_simp⟩

/-- Scaling about the average of the vertices commutes with every similarity. -/
theorem scaleAboutCentroid_similar (p : Polygon K) (a b : K) (o : Point K) (factor : K) :
    scaleAboutCentroid (p.map (Point.similar a b o)) factor
      = (p.scaleAboutCentroid factor).map (Point.similar a b o) := by
  cases p with
  | nil => rfl
  | cons first rest =>
    rw [scaleAboutCentroid, scaleAboutCentroid, centroid_similar (List.cons_ne_nil first rest),
      scaleAbout_eq_map, scaleAbout_eq_map, List.map_map, List.map_map]
    refine List.map_congr_left fun v _ => ?_
    simp only [Function.comp_apply, Point.similar_eq, Point.mk.injEq]
    exact ⟨by ring, by ring⟩

/-- Scaling about the average of the vertices leaves it where it is. -/
theorem centroid_scaleAboutCentroid (p : Polygon K) (factor : K) :
    (p.scaleAboutCentroid factor).centroid = p.centroid := by
  cases p with
  | nil => rfl
  | cons first rest =>
    rw [scaleAboutCentroid, scaleAbout_eq_map, centroid_similar (List.cons_ne_nil first rest),
      Point.similar_eq]
    show (⟨_, _⟩ : Point K) = ⟨(centroid (first :: rest)).x, (centroid (first :: rest)).y⟩
    rw [Point.mk.injEq]
    exact ⟨by ring, by ring⟩

theorem scaleAboutCentroid_comm (p : Polygon K) (f g : K) :
    (p.scaleAboutCentroid f).scaleAboutCentroid g
      = (p.scaleAboutCentroid g).scaleAboutCentroid f := by
  have hg : (p.scaleAboutCentroid g).scaleAboutCentroid f
      = (p.scaleAboutCentroid g).scaleAbout p.centroid f := by
    rw [scaleAboutCentroid, centroid_scaleAboutCentroid]
  rw [hg, scaleAboutCentroid.eq_1 p f, scaleAbout_eq_map, scaleAbout_eq_map,
    scaleAboutCentroid_similar]

/-! ## The area -/

/-- A similarity multiplies the area by the square of its stretch. -/
theorem signedArea_similar (p : Polygon K) (a b : K) (o : Point K) :
    signedArea (p.map (Point.similar a b o)) = (a * a + b * b) * p.signedArea := by
  rw [signedArea_eq, signedArea_eq, around_map]
  simp only [Point.cross_similar]
  rw [around_add, around_mul_left,
    around_sub_eq_zero fun v => o.x * (v.x * b + v.y * a) - o.y * (v.x * a - v.y * b), add_zero,
    mul_div_assoc]

theorem signedArea_scaleAboutCentroid (p : Polygon K) (factor : K) :
    (p.scaleAboutCentroid factor).signedArea = factor * factor * p.signedArea := by
  rw [scaleAboutCentroid, scaleAbout_eq_map, signedArea_similar, mul_zero, add_zero]

/-- Turning keeps the area. -/
theorem signedArea_turn (p : Polygon K) {c s : K} (hcircle : c * c + s * s = 1) :
    (p.turn c s Point.origin).signedArea = p.signedArea := by
  rw [turn_eq_map, signedArea_similar, hcircle, one_mul]

theorem scaleAboutCentroid_turn (p : Polygon K) (c s factor : K) :
    (p.turn c s Point.origin).scaleAboutCentroid factor
      = (p.scaleAboutCentroid factor).turn c s Point.origin := by
  rw [turn_eq_map, turn_eq_map, scaleAboutCentroid_similar]

end Polygon

end LoftGraph
