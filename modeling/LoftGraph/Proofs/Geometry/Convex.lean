import Mathlib.Data.List.Triplewise
import LoftGraph.Proofs.Geometry.Boundary
import LoftGraph.Proofs.Geometry.Normalized
import LoftGraph.Proofs.Geometry.SignedArea

/-!
# Convex polygons

* The triangle of three points is affine in each of them (`triangle_point_right`,
  `triangle_point_left`), so a point of an edge lies on the side that both its ends lie on.
* If the vertices of a polygon pass from right to left as seen from its first, then so do the points
  at growing distances along its boundary (`triangle_pointAt_nonneg`), and with them the vertices
  after resampling (`Fanned.resample`).  Such a polygon stays counter-clockwise.
* `swept` is the area passed over, as seen from one point, on the way up to a distance.  Where every
  three points of the way turn left, the straight line between two places on it passes over no more
  than the way does (`swept_add_triangle_le`).  So a convex polygon is never larger after resampling
  (`Convex.area_resample_le`).
-/

namespace LoftGraph

attribute [-instance] Scalar.toAdd Scalar.toSub Scalar.toMul Scalar.toDiv Scalar.toNeg
  Scalar.instOfNatScalar

namespace Polygon

variable {K : Type} [Field K] [LinearOrder K] [Gauge K] {o p q r : Point K} {ps : List (Point K)}
  {s t : K}

/-! ## Points of an edge, seen from one point -/

theorem triangle_point_right (o p : Point K) (e : Stretch K) (part : K) :
    triangle o p (e.point part) =
      (1 - part) * triangle o p e.start + part * triangle o p e.stop := by
  change (p.x - o.x) * (e.start.y + (e.stop.y - e.start.y) * part - o.y)
    - (e.start.x + (e.stop.x - e.start.x) * part - o.x) * (p.y - o.y) = _
  rw [triangle_eq, triangle_eq]
  ring

theorem triangle_point_left (o q : Point K) (e : Stretch K) (part : K) :
    triangle o (e.point part) q =
      (1 - part) * triangle o e.start q + part * triangle o e.stop q := by
  rw [triangle_swap, triangle_point_right, triangle_swap o e.start, triangle_swap o e.stop]
  ring

theorem triangle_point_start (o : Point K) (e : Stretch K) (part : K) :
    triangle o e.start (e.point part) = part * triangle o e.start e.stop := by
  rw [triangle_point_right, triangle_self, mul_zero, zero_add]

/-- Two points of one edge. -/
theorem triangle_point_point (o : Point K) (e : Stretch K) (part part' : K) :
    triangle o (e.point part) (e.point part') = (part' - part) * triangle o e.start e.stop := by
  rw [triangle_point_left, triangle_point_right, triangle_point_right, triangle_self, triangle_self,
    triangle_swap o e.start]
  ring

/-- Going on to the end of an edge and from there to a point passes over one triangle more than
going to the point straight. -/
theorem triangle_add_triangle (o r : Point K) (e : Stretch K) (part : K) :
    triangle o e.start e.stop + triangle o e.stop r =
      part * triangle o e.start e.stop + triangle o (e.point part) r +
        (1 - part) * triangle e.start e.stop r := by
  rw [triangle_point_left]
  simp only [triangle_eq]
  ring

/-! ## Polygons that are fanned out, and convex ones -/

/-- Seen from its first vertex, do the vertices of the polygon pass from right to left, and never
further round than half a turn? -/
def Fanned : Polygon K → Prop
  | [] => True
  | o :: rest => rest.Pairwise fun p q => 0 ≤ triangle o p q

instance decidableFanned : DecidablePred (Fanned (K := K))
  | [] => .isTrue trivial
  | o :: rest => inferInstanceAs (Decidable (rest.Pairwise fun p q => 0 ≤ triangle o p q))

/-- Does the polygon turn right at no three of its vertices, in their order? -/
def Convex (p : Polygon K) : Prop := p.Triplewise fun a b c => 0 ≤ triangle a b c

instance decidableConvex : DecidablePred (Convex (K := K))
  | [] => .isTrue .nil
  | _ :: rest =>
    have := decidableConvex rest
    decidable_of_iff (_ ∧ Convex rest) List.triplewise_cons.symm

theorem Convex.fanned {p : Polygon K} (h : p.Convex) : p.Fanned := by
  cases p with
  | nil => trivial
  | cons o rest => exact (List.triplewise_cons.mp h).1

/-- Seen from the first vertex, the way round passes from right to left. -/
theorem Fanned.pairwise (h : Fanned (o :: ps)) :
    (o :: (ps ++ [o])).Pairwise fun p q => 0 ≤ triangle o p q := by
  refine List.pairwise_cons.mpr ⟨fun q _ => (triangle_left_origin o q).ge, ?_⟩
  refine List.pairwise_append.mpr ⟨h, List.pairwise_singleton _ _, fun p _ q hq => ?_⟩
  rw [List.mem_singleton.mp hq, triangle_right_origin]

/-- The way round a convex polygon turns left. -/
theorem Convex.triplewise (h : Convex (o :: ps)) :
    (o :: (ps ++ [o])).Triplewise fun a b c => 0 ≤ triangle a b c := by
  obtain ⟨hfirst, hrest⟩ := List.triplewise_cons.mp h
  refine List.triplewise_cons.mpr ⟨(List.pairwise_cons.mp h.fanned.pairwise).2, ?_⟩
  refine List.triplewise_append.mpr ⟨hrest, List.triplewise_singleton _ _,
    fun a _ => List.pairwise_singleton _ _, fun c hc => ?_⟩
  rw [List.mem_singleton.mp hc]
  refine hfirst.imp fun hturn => ?_
  rwa [triangle_rotate]

variable [IsStrictOrderedRing K]

omit [Gauge K] in
theorem along_nonneg {f : Point K → Point K → K} (h : ps.Pairwise fun p q => 0 ≤ f p q) :
    0 ≤ along f ps := by
  induction ps with
  | nil => exact le_rfl
  | cons p ps ih =>
    obtain ⟨hfirst, hrest⟩ := List.pairwise_cons.mp h
    cases ps with
    | nil => exact le_rfl
    | cons q rest => exact add_nonneg (hfirst q (.head _)) (ih hrest)

theorem Fanned.signedArea_nonneg {p : Polygon K} (h : p.Fanned) : 0 ≤ p.signedArea := by
  rw [signedArea_eq]
  refine div_nonneg ?_ zero_le_two
  cases p with
  | nil => exact le_rfl
  | cons o rest =>
    rw [around_cross_eq]
    exact along_nonneg h

/-! ## Points along a way -/

/-- A point of an edge lies on the side of both its ends. -/
theorem triangle_point_nonneg {e : Stretch K} {part : K} (hlow : 0 ≤ part) (hhigh : part ≤ 1)
    (hstart : 0 ≤ triangle o p e.start) (hstop : 0 ≤ triangle o p e.stop) :
    0 ≤ triangle o p (e.point part) := by
  rw [triangle_point_right]
  exact add_nonneg (mul_nonneg (sub_nonneg.mpr hhigh) hstart) (mul_nonneg hlow hstop)

/-- A point along a way lies on the side of all the points that the way goes through. -/
theorem triangle_nonneg_of_liesAt (hps : ∀ p ∈ ps, 0 ≤ triangle o q p) (hr : LiesAt (way ps) t r) :
    0 ≤ triangle o q r := by
  obtain ⟨e, he, part, hlow, hhigh, rfl⟩ := hr.exists_mem
  obtain ⟨step, hstep, rfl⟩ := List.mem_map.mp he
  obtain ⟨hstart, hstop⟩ := mem_of_mem_steps hstep
  exact triangle_point_nonneg hlow hhigh (hps _ hstart) (hps _ hstop)

omit [IsStrictOrderedRing K] in
/-- Where two points lie that are searched along the same edges. -/
theorem pointAt_cons_cases {e : Stretch K} {rest : List (Stretch K)} (hst : s ≤ t)
    (hq : pointAt (e :: rest) s = some q) (hr : pointAt (e :: rest) t = some r) :
    (e.length < s ∧ e.length < t ∧
      pointAt rest (s - e.length) = some q ∧ pointAt rest (t - e.length) = some r) ∨
    (¬ e.length < s ∧ e.length < t ∧
      q = e.point (s / e.length) ∧ pointAt rest (t - e.length) = some r) ∨
    (¬ e.length < s ∧ ¬ e.length < t ∧
      q = e.point (s / e.length) ∧ r = e.point (t / e.length)) := by
  rw [pointAt] at hq hr
  by_cases hs : e.length < s
  · have ht : e.length < t := lt_of_lt_of_le hs hst
    rw [if_pos hs] at hq
    rw [if_pos ht] at hr
    exact .inl ⟨hs, ht, hq, hr⟩
  · rw [if_neg hs] at hq
    cases hq
    by_cases ht : e.length < t
    · rw [if_pos ht] at hr
      exact .inr (.inl ⟨hs, ht, rfl, hr⟩)
    · rw [if_neg ht] at hr
      cases hr
      exact .inr (.inr ⟨hs, ht, rfl, rfl⟩)

/-- Where the points of a way pass from right to left, so do the points at growing distances. -/
theorem triangle_pointAt_nonneg (hps : ps.Pairwise fun p q => 0 ≤ triangle o p q) (hs : 0 ≤ s)
    (hst : s ≤ t) (hq : pointAt (way ps) s = some q) (hr : pointAt (way ps) t = some r) :
    0 ≤ triangle o q r := by
  induction ps generalizing s t with
  | nil => cases hq
  | cons a ps ih =>
    cases ps with
    | nil => cases hq
    | cons b rest =>
      obtain ⟨ha, hps⟩ := List.pairwise_cons.mp hps
      have hb : ∀ p ∈ b :: rest, 0 ≤ triangle o b p :=
        List.forall_mem_cons.mpr ⟨(triangle_self o b).ge, (List.pairwise_cons.mp hps).1⟩
      have hlength : 0 ≤ a.distance b := Gauge.hypot_nonneg _ _
      rcases pointAt_cons_cases hst hq hr with ⟨hbeyond, -, hq, hr⟩ | ⟨hreach, hbeyond, rfl, hr⟩ |
        ⟨hreach, -, rfl, rfl⟩
      · exact ih hps (sub_nonneg.mpr hbeyond.le) (sub_le_sub_right hst _) hq hr
      · -- all that comes after this edge lies to the left of both its ends
        obtain ⟨hlow, hhigh, -⟩ := fraction_eq hlength hs (not_lt.mp hreach)
        refine triangle_nonneg_of_liesAt (fun p hp => ?_)
          (liesAt_of_pointAt (fun e => way_nonneg) (sub_nonneg.mpr hbeyond.le) hr)
        rw [triangle_point_left]
        exact add_nonneg (mul_nonneg (sub_nonneg.mpr hhigh) (ha p hp)) (mul_nonneg hlow (hb p hp))
      · rw [triangle_point_point]
        exact mul_nonneg (sub_nonneg.mpr (div_le_div_of_nonneg_right hst hlength))
          (ha b (.head _))

/-! ## Resampling a polygon that is fanned out -/

/-- The vertices of a polygon that is resampled along its boundary lie in equal steps on the way
round it. -/
theorem exists_step {count : Int} (htotal : 0 < (edgeLengths (o :: ps)).sum)
    (hcount : (o :: ps).length ≠ resampleCount count) :
    ∃ step : K, 0 ≤ step ∧ ∀ (i : Nat) q, (Polygon.resample (o :: ps) count)[i]? = some q →
      pointAt (way (o :: (ps ++ [o]))) (i * step) = some q := by
  obtain ⟨-, hvisits⟩ := resample_visits (List.cons_ne_nil o ps) htotal hcount
  refine ⟨(edgeLengths (o :: ps)).sum / (resampleCount count : ℕ),
    div_nonneg htotal.le (Nat.cast_nonneg _), fun i q hq => ?_⟩
  have hi : i < resampleCount count := by
    rw [← length_resample (List.cons_ne_nil o ps) count]
    exact (List.getElem?_eq_some_iff.mp hq).1
  obtain ⟨q', hq', hvisit⟩ := hvisits i hi
  rw [hq] at hq'
  cases hq'
  rw [← stretches_eq_way]
  exact hvisit.searched

theorem Fanned.pairwise_resample (h : Fanned (o :: ps)) {count : Int}
    (htotal : 0 < (edgeLengths (o :: ps)).sum)
    (hcount : (o :: ps).length ≠ resampleCount count) :
    (Polygon.resample (o :: ps) count).Pairwise fun p q => 0 ≤ triangle o p q := by
  obtain ⟨step, hstep, hsearched⟩ := exists_step htotal hcount
  refine List.pairwise_iff_getElem.mpr fun i j hi hj hij => ?_
  exact triangle_pointAt_nonneg h.pairwise (mul_nonneg i.cast_nonneg hstep)
    (mul_le_mul_of_nonneg_right (Nat.cast_le.mpr hij.le) hstep)
    (hsearched i _ (List.getElem?_eq_getElem hi)) (hsearched j _ (List.getElem?_eq_getElem hj))

/-- A polygon that is fanned out stays so when it is resampled. -/
theorem Fanned.resample {p : Polygon K} (h : p.Fanned) (count : Int) :
    (p.resample count).Fanned := by
  cases p with
  | nil => exact h
  | cons o ps =>
    by_cases hcount : (o :: ps).length = resampleCount count
    · rwa [Outlines.resample_of_length (.inr hcount)]
    have hpairwise : (Polygon.resample (o :: ps) count).Pairwise fun p q => 0 ≤ triangle o p q := by
      rcases (perimeter_nonneg (o :: ps)).eq_or_lt with htotal | htotal
      · rw [resample_eq_replicate htotal.symm hcount]
        exact List.pairwise_replicate.mpr (.inr (triangle_self o o).ge)
      · exact h.pairwise_resample htotal hcount
    -- the first vertex stays the one that the others are seen from
    have hfirst := resample_head? (o :: ps) count
    cases hresampled : Polygon.resample (o :: ps) count with
    | nil => trivial
    | cons o' others =>
      rw [hresampled] at hfirst hpairwise
      cases hfirst
      exact hpairwise.of_cons

/-! ## The area of a convex polygon after resampling -/

/-- Twice the area passed over, as seen from one point, on the way up to a distance along edges laid
one after the other. -/
def swept (o : Point K) : List (Stretch K) → K → K
  | [], _ => 0
  | e :: rest, t =>
    if e.length < t then triangle o e.start e.stop + swept o rest (t - e.length)
    else triangle o e.start (e.point (t / e.length))

omit [IsStrictOrderedRing K] in
theorem swept_zero {es : List (Stretch K)} (hlengths : ∀ e ∈ es, 0 ≤ e.length) :
    swept o es 0 = 0 := by
  cases es with
  | nil => rfl
  | cons e rest =>
    rw [swept, if_neg (not_lt.mpr (hlengths e (.head _))), zero_div, e.point_zero, triangle_self]

/-- Where the points of a way pass from right to left, no more is passed over up to a place on it
than on the whole way. -/
theorem swept_le_along (hps : ps.Pairwise fun p q => 0 ≤ triangle o p q) (t : K) :
    swept o (way ps) t ≤ along (triangle o) ps := by
  induction ps generalizing t with
  | nil => exact le_rfl
  | cons a ps ih =>
    cases ps with
    | nil => exact le_rfl
    | cons b rest =>
      obtain ⟨ha, hps⟩ := List.pairwise_cons.mp hps
      have hway : way (a :: b :: rest) = ⟨a, b, a.distance b⟩ :: way (b :: rest) := rfl
      rw [hway, swept, along_cons_cons]
      split
      · exact add_le_add_right (ih hps _) _
      · next hreach =>
        have hpart : t / a.distance b ≤ 1 :=
          div_le_one_of_le₀ (not_lt.mp hreach) (Gauge.hypot_nonneg _ _)
        rw [triangle_point_start]
        exact (mul_le_of_le_one_left (ha b (.head _)) hpart).trans
          (le_add_of_nonneg_right (along_nonneg hps))

omit [IsStrictOrderedRing K] in
/-- A way on which something lies begins at its first point. -/
theorem pointAt_way_zero (hr : pointAt (way (p :: ps)) t = some r) :
    pointAt (way (p :: ps)) 0 = some p := by
  cases ps with
  | nil => cases hr
  | cons q rest => exact pointAt_zero (Gauge.hypot_nonneg _ _) _

/-- Where every three points of a way turn left, the straight line between two places passes over no
more than the way between them. -/
theorem swept_add_triangle_le (o : Point K) (hps : ps.Triplewise fun a b c => 0 ≤ triangle a b c)
    (hs : 0 ≤ s) (hst : s ≤ t) (hq : pointAt (way ps) s = some q)
    (hr : pointAt (way ps) t = some r) :
    swept o (way ps) s + triangle o q r ≤ swept o (way ps) t := by
  induction ps generalizing s t q with
  | nil => cases hq
  | cons a ps ih =>
    cases ps with
    | nil => cases hq
    | cons b rest =>
      obtain ⟨ha, hps⟩ := List.triplewise_cons.mp hps
      have hlength : 0 ≤ a.distance b := Gauge.hypot_nonneg _ _
      have hway : way (a :: b :: rest) = ⟨a, b, a.distance b⟩ :: way (b :: rest) := rfl
      rw [hway] at hq hr ⊢
      rw [swept, swept]
      rcases pointAt_cons_cases hst hq hr with ⟨hbeyond, hbeyond', hq, hr⟩ |
        ⟨hreach, hbeyond, rfl, hr⟩ | ⟨hreach, hreach', rfl, rfl⟩
      · rw [if_pos hbeyond, if_pos hbeyond', add_assoc]
        exact add_le_add_right (ih hps (sub_nonneg.mpr hbeyond.le) (sub_le_sub_right hst _) hq hr) _
      · -- by the end of this edge, which lies to the right of all that comes after it
        obtain ⟨-, hhigh, -⟩ := fraction_eq hlength hs (not_lt.mp hreach)
        have hahead : 0 ≤ t - a.distance b := sub_nonneg.mpr hbeyond.le
        have hb : ∀ p ∈ b :: rest, 0 ≤ triangle a b p :=
          List.forall_mem_cons.mpr ⟨(triangle_self a b).ge, (List.pairwise_cons.mp ha).1⟩
        have hturn : 0 ≤ triangle a b r :=
          triangle_nonneg_of_liesAt hb (liesAt_of_pointAt (fun e => way_nonneg) hahead hr)
        have hend := ih hps le_rfl hahead (pointAt_way_zero hr) hr
        rw [swept_zero fun e => way_nonneg, zero_add] at hend
        rw [if_neg hreach, if_pos hbeyond, triangle_point_start]
        refine le_trans ?_ (add_le_add_right hend _)
        rw [triangle_add_triangle o r ⟨a, b, a.distance b⟩ (s / a.distance b)]
        exact le_add_of_nonneg_right (mul_nonneg (sub_nonneg.mpr hhigh) hturn)
      · rw [if_neg hreach, if_neg hreach', triangle_point_start, triangle_point_start,
          triangle_point_point, ← add_mul, add_sub_cancel]

/-- Points in equal steps along such a way pass over no more than the rest of the way does. -/
theorem swept_add_along_le {qs : List (Point K)} {step : K} {m : Nat}
    (hturns : ps.Triplewise fun a b c => 0 ≤ triangle a b c)
    (hps : ps.Pairwise fun p q => 0 ≤ triangle o p q) (hstep : 0 ≤ step)
    (hqs : ∀ i p, (q :: qs)[i]? = some p → pointAt (way ps) ((m + i : ℕ) * step) = some p) :
    swept o (way ps) (m * step) + along (triangle o) (q :: qs) ≤ along (triangle o) ps := by
  induction qs generalizing q m with
  | nil =>
    rw [along_singleton, add_zero]
    exact swept_le_along hps _
  | cons r rest ih =>
    have hrest := ih (q := r) (m := m + 1) fun i p hp => by
      have hp := hqs (i + 1) p hp
      rwa [← add_assoc, add_right_comm] at hp
    have hstraight := swept_add_triangle_le o hturns (mul_nonneg m.cast_nonneg hstep)
      (mul_le_mul_of_nonneg_right (Nat.cast_le.mpr m.le_succ) hstep) (hqs 0 q rfl) (hqs 1 r rfl)
    calc swept o (way ps) (m * step) + along (triangle o) (q :: r :: rest)
        = swept o (way ps) (m * step) + triangle o q r + along (triangle o) (r :: rest) := by
          rw [along_cons_cons, add_assoc]
      _ ≤ swept o (way ps) ((m + 1 : ℕ) * step) + along (triangle o) (r :: rest) :=
          add_le_add_left hstraight _
      _ ≤ along (triangle o) ps := hrest

/-- Resampling makes no convex polygon larger. -/
theorem Convex.signedArea_resample_le {p : Polygon K} (h : p.Convex) (count : Int) :
    (p.resample count).signedArea ≤ p.signedArea := by
  cases p with
  | nil => exact le_rfl
  | cons o ps =>
    by_cases hcount : (o :: ps).length = resampleCount count
    · rw [Outlines.resample_of_length (.inr hcount)]
    rcases (perimeter_nonneg (o :: ps)).eq_or_lt with htotal | htotal
    · rw [resample_eq_replicate htotal.symm hcount, signedArea_replicate]
      exact h.fanned.signedArea_nonneg
    obtain ⟨step, hstep, hsearched⟩ := exists_step htotal hcount
    have hfirst := resample_head? (o :: ps) count
    cases hresampled : Polygon.resample (o :: ps) count with
    | nil =>
      rw [hresampled] at hfirst
      cases hfirst
    | cons o' others =>
      rw [hresampled] at hfirst hsearched
      cases hfirst
      have hswept := swept_add_along_le (m := 0) h.triplewise h.fanned.pairwise hstep
        fun i p hp => by simpa using hsearched i p hp
      rw [Nat.cast_zero, zero_mul, swept_zero fun e => way_nonneg, zero_add, along_origin,
        ← around_cons, around_triangle_eq] at hswept
      rw [signedArea_eq, signedArea_eq, around_cross_eq, around_cross_eq]
      exact div_le_div_of_nonneg_right hswept zero_le_two

theorem Convex.area_resample_le {p : Polygon K} (h : p.Convex) (count : Int) :
    (p.resample count).area ≤ p.area := by
  rw [area_eq, area_eq, abs_of_nonneg (h.fanned.resample count).signedArea_nonneg,
    abs_of_nonneg h.fanned.signedArea_nonneg]
  exact h.signedArea_resample_le count

end Polygon

end LoftGraph
