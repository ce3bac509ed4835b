import LoftGraph.Proofs.Geometry.Normalized
import LoftGraph.Proofs.Geometry.Similarity
import LoftGraph.Proofs.Number.Compass

/-!
# Placing sections without rounding

Over a field with a compass every section can be placed: its rings are shrunk, turned and lifted to
one height (`CrossSection.exists_place`).  Shrinking and turning are similarities, each about a
point that the other one moves along, so placing multiplies the area of every ring by the square of
the shrinking, and a hole that is a copy of the outer boundary stays one
(`placement_keeps_winding_and_nesting`).
-/

namespace LoftGraph

open Loft

attribute [-instance] Scalar.toAdd Scalar.toSub Scalar.toMul Scalar.toDiv Scalar.toNeg
  Scalar.instOfNatScalar

section Placement

variable {K : Type} [Field K] [LinearOrder K] [Compass K]

/-- A polygon scaled about the average of its vertices and turned about the origin. -/
def Polygon.moved (p : Polygon K) (factor c s : K) : Polygon K :=
  (p.scaleAboutCentroid factor).turn c s Point.origin

namespace CrossSection

theorem taperAt_eq (p : Polygon K) (t taper : K) :
    taperAt p t taper = .ok (p.scaleAboutCentroid (1 - taper * t)) := by
  have hone : (@OfNat.ofNat K 1 Scalar.instOfNatScalar) = 1 := Scalar.one_eq
  unfold taperAt
  split
  · next h =>
    have hzero : taper = 0 := (of_decide_eq_true h).trans Scalar.zero_eq
    rw [hzero, zero_mul, sub_zero, p.scaleAboutCentroid_one]
  · show Except.ok (p.scaleAboutCentroid (@OfNat.ofNat K 1 Scalar.instOfNatScalar - taper * t)) = _
    rw [hone]

/-- A twist turns about the origin by an angle that depends on the height alone. -/
theorem exists_twistAt (t twist : K) : ∃ c s : K, c * c + s * s = 1 ∧
    ∀ p : Polygon K, twistAt p t twist = .ok (p.turn c s Point.origin) := by
  by_cases h : twist = 0
  · refine ⟨1, 0, by rw [mul_one, mul_zero, add_zero], fun p => ?_⟩
    rw [p.turn_one_zero]
    exact if_pos (decide_eq_true (h.trans Scalar.zero_eq.symm))
  · refine ⟨_, _, Compass.cos_mul_add_sin_mul (Circular.radians (twist * t)), fun p => ?_⟩
    exact if_neg fun heq => h ((of_decide_eq_true heq).trans Scalar.zero_eq)

theorem exists_transform (t taper twist : K) : ∃ c s : K, c * c + s * s = 1 ∧
    ∀ p : Polygon K, transform p t taper twist = .ok (p.moved (1 - taper * t) c s) := by
  obtain ⟨c, s, hcircle, htwist⟩ := exists_twistAt t twist
  refine ⟨c, s, hcircle, fun p => ?_⟩
  unfold transform
  split
  · next h =>
    rw [List.isEmpty_iff.mp h]
    rfl
  · rw [taperAt_eq]
    exact htwist _

/-- The section in space, each ring shrunk and turned alike. -/
def placedAt (s : CrossSection K) (y factor c sn : K) : PlacedSection K :=
  ⟨lift (s.outer.moved factor c sn) y, s.holes.map fun hole => lift (hole.moved factor c sn) y,
    s.outer.moved factor c sn⟩

/-- Every section can be placed. -/
theorem exists_place (s : CrossSection K) (height taper twist : K) :
    ∃ c sn : K, c * c + sn * sn = 1 ∧ s.place height taper twist
      = .ok (s.placedAt (s.t * height) (1 - taper * s.t) c sn) := by
  obtain ⟨c, sn, hcircle, htransform⟩ := exists_transform s.t taper twist
  refine ⟨c, sn, hcircle, ?_⟩
  have hholes : s.holes.mapM (fun hole => transform hole s.t taper twist)
      = .ok (s.holes.map fun hole => hole.moved (1 - taper * s.t) c sn) := by
    rw [mapM_eq_ok_iff, List.map_map]
    exact List.map_congr_left fun hole _ => htransform hole
  unfold place
  rw [htransform, hholes]
  refine congrArg Except.ok ?_
  rw [placedAt, List.map_map]
  rfl

end CrossSection

/-! ## Rings in space -/

namespace Loft

/-- A ring as it is seen from above. -/
def shadow {α : Type} (ring : Ring α) : Polygon α := ring.map fun v => ⟨v.x, v.z⟩

@[simp] theorem shadow_lift {α : Type} (p : Polygon α) (y : α) : shadow (lift p y) = p := by
  rw [shadow, lift, List.map_map]
  exact List.map_id p

/-- A ring scaled about the average of its vertices. -/
def scaledRing (ring : Ring K) (factor : K) : Ring K :=
  let m := ringCenter ring
  ring.map fun v =>
    ⟨m.x + (v.x - m.x) * factor, m.y + (v.y - m.y) * factor, m.z + (v.z - m.z) * factor⟩

/-- Has the ring the vertices of the polygon, all at one height, and the area of the polygon
multiplied by the square of the factor, so that it is not turned over? -/
structure Upright (factor y : K) (p : Polygon K) (ring : Ring K) : Prop where
  length_eq : ring.length = p.length
  height : ∀ v ∈ ring, v.y = y
  signedArea_eq : (shadow ring).signedArea = factor * factor * p.signedArea
  not_turned : 0 ≤ (shadow ring).signedArea * p.signedArea

namespace Upright

theorem of_mem {factor y : K} {ps : List (Polygon K)} {rings : List (Ring K)}
    (h : List.Forall₂ (Upright factor y) ps rings) {ring : Ring K} (hring : ring ∈ rings) :
    ∃ p ∈ ps, Upright factor y p ring := by
  induction h with
  | nil => cases hring
  | cons hfirst _ ih =>
    rcases List.mem_cons.mp hring with rfl | hring
    · exact ⟨_, .head _, hfirst⟩
    · obtain ⟨p, hp, hupright⟩ := ih hring
      exact ⟨p, .tail _ hp, hupright⟩

/-- The areas of the rings, in order. -/
theorem areas_eq {factor y : K} {ps : List (Polygon K)} {rings : List (Ring K)}
    (h : List.Forall₂ (Upright factor y) ps rings) :
    rings.map (fun ring => (shadow ring).signedArea)
      = ps.map fun p => factor * factor * p.signedArea := by
  induction h with
  | nil => rfl
  | cons hfirst _ ih => rw [List.map_cons, List.map_cons, hfirst.signedArea_eq, ih]

end Upright

variable [IsStrictOrderedRing K]

theorem ringCenter_lift {p : Polygon K} (hp : p ≠ []) (y : K) :
    ringCenter (lift p y) = ⟨p.centroid.x, y, p.centroid.y⟩ := by
  have hlength : (p.length : K) ≠ 0 := Nat.cast_ne_zero.mpr (List.length_pos_iff.mpr hp).ne'
  have hlevel : ((lift p y).map Point3.y).sum / p.length = y := by
    rw [lift, List.map_map]
    show (p.map fun _ => y).sum / p.length = y
    rw [List.map_const', List.sum_replicate, nsmul_eq_mul, mul_div_cancel_left₀ y hlength]
  rw [p.centroid_eq, ringCenter]
  simp only [Scalar.sum_eq, Scalar.ofNat_eq, length_lift]
  rw [Point3.mk.injEq]
  refine ⟨?_, hlevel, ?_⟩ <;> simp only [lift, List.map_map] <;> rfl

/-- Scaling a polygon before it is lifted is scaling the ring. -/
theorem lift_scaleAboutCentroid (p : Polygon K) (factor y : K) :
    lift (p.scaleAboutCentroid factor) y = scaledRing (lift p y) factor := by
  cases p with
  | nil => rfl
  | cons first rest =>
    rw [scaledRing, ringCenter_lift (List.cons_ne_nil first rest)]
    simp only [lift, Polygon.scaleAboutCentroid, Polygon.scaleAbout, List.map_map]
    refine List.map_congr_left fun v _ => ?_
    simp only [Function.comp_apply, sub_self, zero_mul, add_zero]
    rfl

theorem upright_lift (p : Polygon K) (factor y : K) {c s : K} (hcircle : c * c + s * s = 1) :
    Upright factor y p (lift (p.moved factor c s) y) := by
  have harea : (p.moved factor c s).signedArea = factor * factor * p.signedArea := by
    rw [Polygon.moved, Polygon.signedArea_turn _ hcircle, Polygon.signedArea_scaleAboutCentroid]
  refine ⟨?_, fun v hv => ?_, ?_, ?_⟩
  · rw [length_lift, Polygon.moved, Polygon.length_turn, Polygon.length_scaleAboutCentroid]
  · obtain ⟨u, -, rfl⟩ := List.mem_map.mp hv
    rfl
  · rw [shadow_lift, harea]
  · rw [shadow_lift, harea, mul_assoc]
    exact mul_nonneg (mul_self_nonneg factor) (mul_self_nonneg p.signedArea)

end Loft

/-- The copy of a polygon moves like the polygon. -/
theorem Polygon.moved_scaleAboutCentroid [IsStrictOrderedRing K] (p : Polygon K)
    (scale factor c s : K) :
    (p.scaleAboutCentroid scale).moved factor c s
      = (p.moved factor c s).scaleAboutCentroid scale := by
  rw [moved, moved, scaleAboutCentroid_turn, scaleAboutCentroid_comm]

/-- The built-in holes are copies of the outer boundary. -/
theorem Hole.Shrinks.exists_scale {shape : HoleShape K} (h : Hole.Shrinks shape)
    (outer : Polygon K) (t : K) : ∃ scale, shape outer t = outer.scaleAboutCentroid scale := by
  cases h with
  | tapering => exact ⟨_, rfl⟩
  | ofScale scale => exact ⟨_, rfl⟩

/-- **Placing a section keeps winding and nesting.** Every section can be placed. The outer boundary
and each hole get a ring with as many vertices, all at the height `t * height`, and seen from above
its area is that of the polygon multiplied by the square of `1 - taper * t`: neither taper nor twist
turns a ring over. A hole that is the outer boundary scaled about the average of its vertices, as
the built-in holes are, becomes the outer ring scaled by the same amount about the average of its
vertices. -/
theorem placement_keeps_winding_and_nesting [IsStrictOrderedRing K] (s : CrossSection K)
    (height taper twist : K) :
    ∃ placed, s.place height taper twist = .ok placed ∧
      List.Forall₂ (Upright (1 - taper * s.t) (s.t * height)) (s.outer :: s.holes)
        (placed.outer :: placed.holes) ∧
      placed.outline = shadow placed.outer ∧
      (∀ (k : Nat) (scale : K), s.holes[k]? = some (s.outer.scaleAboutCentroid scale) →
        placed.holes[k]? = some (scaledRing placed.outer scale)) ∧
      ∀ shape, Hole.Shrinks shape →
        ∃ scale, shape s.outer s.t = s.outer.scaleAboutCentroid scale := by
  obtain ⟨c, sn, hcircle, hplace⟩ := s.exists_place height taper twist
  refine ⟨_, hplace, .cons (upright_lift _ _ _ hcircle) ?_, (shadow_lift _ _).symm,
    fun k scale hhole => ?_, fun shape hshape => hshape.exists_scale s.outer s.t⟩
  · exact List.forall₂_map_right_iff.mpr (List.forall₂_same.mpr fun hole _ =>
      upright_lift hole _ _ hcircle)
  · show (s.holes.map fun hole =>
        lift (hole.moved (1 - taper * s.t) c sn) (s.t * height))[k]? = _
    rw [List.getElem?_map, hhole, Option.map_some, Polygon.moved_scaleAboutCentroid,
      lift_scaleAboutCentroid]
    rfl

/-- A square, with a hole that is its copy at a third of the size and a triangular one that runs
clockwise. -/
noncomputable def squareSection : CrossSection ℝ :=
  let square : Polygon ℝ := [⟨0, 0⟩, ⟨4, 0⟩, ⟨4, 4⟩, ⟨0, 4⟩]
  ⟨square, [square.scaleAboutCentroid (1 / 3), [⟨1, 1⟩, ⟨1, 3⟩, ⟨3, 1⟩]], 1⟩

/-- At half the size and a quarter turn further. -/
theorem square_placement_keeps_nesting :
    squareSection.holes[0]? = some (squareSection.outer.scaleAboutCentroid (1 / 3)) ∧
    ∃ placed, squareSection.place 10 (1 / 2) 90 = .ok placed ∧
      (shadow placed.outer).signedArea = 4 ∧
      placed.holes.map (fun ring => (shadow ring).signedArea) = [4 / 9, -(1 / 2)] ∧
      (∀ ring ∈ placed.outer :: placed.holes, ∀ v ∈ ring, v.y = 10) ∧
      placed.holes[0]? = some (scaledRing placed.outer (1 / 3)) := by
  obtain ⟨placed, hplace, hrings, -, hnested, -⟩ :=
    placement_keeps_winding_and_nesting squareSection 10 (1 / 2) 90
  have hfactor : 1 - 1 / 2 * squareSection.t = 1 / 2 := by norm_num [squareSection]
  have hheight : squareSection.t * 10 = 10 := by norm_num [squareSection]
  have harea : squareSection.outer.signedArea = 16 := by
    rw [Polygon.signedArea_eq]
    simp only [squareSection, Polygon.around, Polygon.edges, Polygon.shifted, Polygon.cross_eq]
    norm_num
  have hareas : squareSection.holes.map Polygon.signedArea = [16 / 9, -2] := by
    show [(squareSection.outer.scaleAboutCentroid (1 / 3)).signedArea, Polygon.signedArea _] = _
    rw [Polygon.signedArea_scaleAboutCentroid, harea, Polygon.signedArea_eq]
    simp only [Polygon.around, Polygon.edges, Polygon.shifted, Polygon.cross_eq]
    norm_num
  rw [hfactor, hheight] at hrings
  have hplaced := Upright.areas_eq hrings
  simp only [List.map_cons, List.cons.injEq] at hplaced
  refine ⟨rfl, _, hplace, ?_, ?_, fun ring hring => ?_, hnested 0 (1 / 3) rfl⟩
  · rw [hplaced.1, harea]
    norm_num
  · have hscaled : squareSection.holes.map (fun p => 1 / 2 * (1 / 2) * p.signedArea)
        = (squareSection.holes.map Polygon.signedArea).map fun a => 1 / 2 * (1 / 2) * a :=
      (List.map_map ..).symm
    rw [hplaced.2, hscaled, hareas]
    norm_num
  · obtain ⟨p, -, hupright⟩ := Upright.of_mem hrings hring
    exact hupright.height

end Placement

end LoftGraph
