import LoftGraph.Proofs.Geometry.Ordering
import LoftGraph.Proofs.Geometry.Placement

/-!
# The heights of sections

Over an ordered field every easing curve rises from zero to one on the unit interval
(`Easing.curve_mono`): the cubic because its complement falls, the two quadratics each on its half,
and across the middle because the first ends where the second begins.

Sections stand at the curve's values at evenly spread positions, whatever their outlines
(`Outlines.heights_of_placed`), so no section stands below the one before it.  A section is lifted
to one height in space, and with a height that is not negative the upper ring of a wall is never
below the lower one (`section_heights_ascend`).
-/

namespace LoftGraph

open Loft

attribute [-instance] Scalar.toAdd Scalar.toSub Scalar.toMul Scalar.toDiv Scalar.toNeg
  Scalar.instOfNatScalar

/-! ## Easing curves -/

namespace Easing

section Curve

variable {K : Type} [Field K] [LinearOrder K]

/-- The value of a curve without rounding. -/
def curve : Easing → K → K
  | linear, t => t
  | easeOut, t => 1 - (1 - t) ^ 3
  | easeInOut, t => if t < 1 / 2 then 2 * t ^ 2 else 1 - (2 - 2 * t) ^ 2 / 2

theorem power_eq [Gauge K] (x : K) (n : Nat) : power x n = .ok (x ^ n) := by
  have hproduct : ∀ y : K, (List.replicate n x).foldl (· * ·) y = y * x ^ n := by
    induction n with
    | zero => simp
    | succ n ih => intro y; rw [List.replicate_succ, List.foldl_cons, ih, pow_succ', mul_assoc]
  have hfinite : power x n = .ok ((List.replicate n x).foldl (· * ·)
      (@OfNat.ofNat K 1 Scalar.instOfNatScalar)) := by
    refine if_neg ?_
    rw [Scalar.infinite_eq, Bool.and_false]
    exact Bool.false_ne_true
  rw [hfinite, hproduct, Scalar.one_eq, one_mul]

variable [IsStrictOrderedRing K]

/-- Nothing is rounded and nothing leaves the range of the field. -/
theorem apply_eq [Gauge K] (e : Easing) (t : K) : e.apply t = .ok (e.curve t) := by
  have hone : (@OfNat.ofNat K 1 Scalar.instOfNatScalar) = 1 := Scalar.one_eq
  have htwo : (@OfNat.ofNat K 2 Scalar.instOfNatScalar) = 2 := Int.cast_ofNat 2
  cases e with
  | linear => rfl
  | easeOut =>
    show (power (@OfNat.ofNat K 1 Scalar.instOfNatScalar - t) 3 >>= fun cube =>
      .ok (@OfNat.ofNat K 1 Scalar.instOfNatScalar - cube)) = _
    rw [hone, power_eq]
    rfl
  | easeInOut =>
    have hhalf : (Scalar.ofDecimal 5 1 : K) = 1 / 2 := by
      rw [Scalar.ofDecimal_eq]
      norm_num
    show (if Scalar.lt t (Scalar.ofDecimal 5 1) then
        .ok (@OfNat.ofNat K 2 Scalar.instOfNatScalar * t * t)
      else power (-(@OfNat.ofNat K 2 Scalar.instOfNatScalar) * t
          + @OfNat.ofNat K 2 Scalar.instOfNatScalar) 2 >>= fun square =>
        .ok (@OfNat.ofNat K 1 Scalar.instOfNatScalar
          - square / @OfNat.ofNat K 2 Scalar.instOfNatScalar)) = _
    rw [hone, htwo, hhalf, Scalar.lt_eq, power_eq, curve]
    by_cases h : t < 1 / 2
    · rw [if_pos (decide_eq_true h), if_pos h, mul_assoc, sq]
    · rw [if_neg (mt of_decide_eq_true h), if_neg h, neg_mul, neg_add_eq_sub]
      rfl

theorem curve_zero (e : Easing) : e.curve (0 : K) = 0 := by
  cases e <;> simp [curve]

theorem curve_one (e : Easing) : e.curve (1 : K) = 1 := by
  cases e with
  | easeInOut => rw [curve, if_neg (by norm_num)]; norm_num
  | _ => simp [curve]

/-- Every curve rises. -/
theorem curve_mono (e : Easing) {t u : K} (ht : 0 ≤ t) (htu : t ≤ u) (hu : u ≤ 1) :
    e.curve t ≤ e.curve u := by
  cases e with
  | linear => exact htu
  | easeOut =>
    have hcube : (1 - u) ^ 3 ≤ (1 - t) ^ 3 :=
      pow_le_pow_left₀ (sub_nonneg.mpr hu) (sub_le_sub_left htu 1) 3
    exact sub_le_sub_left hcube 1
  | easeInOut =>
    have hlower : t ^ 2 ≤ u ^ 2 := pow_le_pow_left₀ ht htu 2
    have hupper : (2 - 2 * u) ^ 2 ≤ (2 - 2 * t) ^ 2 :=
      pow_le_pow_left₀ (by linarith) (by linarith) 2
    simp only [curve]
    split
    · next hhalf =>
      split
      · linarith
      · next hhalf' =>
        -- one half lies between the two values
        have hfirst : t ^ 2 ≤ (1 / 2) ^ 2 := pow_le_pow_left₀ ht hhalf.le 2
        have hsecond : (2 - 2 * u) ^ 2 ≤ 1 ^ 2 :=
          pow_le_pow_left₀ (by linarith) (by linarith [not_lt.mp hhalf']) 2
        linarith
    · next hhalf =>
      rw [if_neg fun h => hhalf (htu.trans_lt h)]
      linarith

theorem curve_mem_unit (e : Easing) {t : K} (ht : 0 ≤ t) (ht' : t ≤ 1) :
    0 ≤ e.curve t ∧ e.curve t ≤ 1 := by
  constructor
  · have hrises := e.curve_mono le_rfl ht ht'
    rwa [e.curve_zero] at hrises
  · have hrises := e.curve_mono ht ht' le_rfl
    rwa [e.curve_one] at hrises

end Curve

end Easing

/-! ## Heights -/

namespace Outlines

variable {K : Type} [Field K]

/-- The position of an index among so many, from zero to one. -/
def position (count index : Nat) : K := index / (count - 1 : Nat)

theorem position_zero (count : Nat) : (position count 0 : K) = 0 := by
  rw [position, Nat.cast_zero, zero_div]

variable [LinearOrder K] [IsStrictOrderedRing K]

theorem position_last {count : Nat} (h : 2 ≤ count) : (position count (count - 1) : K) = 1 := by
  have hpos : ((count - 1 : Nat) : K) ≠ 0 := Nat.cast_ne_zero.mpr (by omega)
  exact div_self hpos

theorem position_nonneg (count index : Nat) : (0 : K) ≤ position count index :=
  div_nonneg (Nat.cast_nonneg index) (Nat.cast_nonneg (count - 1))

theorem position_mono (count : Nat) {i j : Nat} (hij : i ≤ j) :
    (position count i : K) ≤ position count j :=
  div_le_div_of_nonneg_right (Nat.cast_le.mpr hij) (Nat.cast_nonneg (count - 1))

theorem position_le_one {count index : Nat} (h : index < count) :
    (position count index : K) ≤ 1 :=
  div_le_one_of_le₀ (Nat.cast_le.mpr (Nat.le_sub_one_of_lt h)) (Nat.cast_nonneg (count - 1))

variable [Gauge K]

omit [IsStrictOrderedRing K] in
theorem height_eq {count index : Nat} (h : index < count) :
    (height count index : K) = position count index := by
  unfold height
  split
  · next hone =>
    have hzero : index = 0 := by omega
    rw [hzero, position_zero, Scalar.zero_eq]
  · rw [Scalar.ofNat_eq, Scalar.ofNat_eq]
    rfl

/-- Where no curve is asked for, heights are not eased. -/
theorem easedHeight_eq (easing : Option Easing) {count index : Nat} (h : index < count) :
    easedHeight (easing.map Easing.apply) count index
      = .ok ((easing.getD .linear).curve (position count index : K)) := by
  rw [← height_eq h]
  cases easing with
  | none => rfl
  | some e => exact e.apply_eq _

/-- The heights of sections are the curve's values at their positions. -/
theorem heights_of_placed {shapes : Outlines K} {easing : Option Easing}
    {sections : List (CrossSection K)}
    (h : placed shapes (easing.map Easing.apply) = .ok sections) :
    sections.map CrossSection.t = (List.range sections.length).map fun i =>
      (easing.getD .linear).curve (position sections.length i) := by
  have hlength : sections.length = shapes.length := by
    rw [length_of_mapM h, List.length_zipIdx]
  have hheights : (shapes.zipIdx.map Prod.snd).map
        (easedHeight (α := K) (easing.map Easing.apply) shapes.length)
      = (sections.map CrossSection.t).map .ok := by
    rw [List.map_map, List.map_map]
    refine map_eq_map_of_mapM h fun entry s hs => ?_
    obtain ⟨t, ht, hs⟩ := bind_eq_ok_iff.mp hs
    cases hs
    exact ht
  rw [List.zipIdx_map_snd, ← List.range_eq_range', ← hlength] at hheights
  refine List.map_injective_iff.mpr (fun _ _ h => Except.ok.inj h) (hheights.symm.trans ?_)
  rw [List.map_map]
  exact List.map_congr_left fun i hi => easedHeight_eq easing (List.mem_range.mp hi)

end Outlines

section Sections

open Outlines

variable {K : Type} [Field K] [LinearOrder K] [IsStrictOrderedRing K]

/-- Do the sections stand one above the other between zero and one, the first at zero and the last,
if there are more, at one? -/
structure Ascending (sections : List (CrossSection K)) : Prop where
  pairwise : (sections.map CrossSection.t).Pairwise (· ≤ ·)
  mem_unit : ∀ s ∈ sections, 0 ≤ s.t ∧ s.t ≤ 1
  first_eq : ∀ s, sections.head? = some s → s.t = 0
  last_eq : 2 ≤ sections.length → ∀ s, sections.getLast? = some s → s.t = 1

theorem ascending_of_placed [Gauge K] {shapes : Outlines K} {easing : Option Easing}
    {sections : List (CrossSection K)}
    (h : placed shapes (easing.map Easing.apply) = .ok sections) :
    Ascending sections := by
  have hheights := heights_of_placed h
  generalize easing.getD .linear = e at hheights
  have hheight : ∀ {i s}, sections[i]? = some s →
      i < sections.length ∧ s.t = e.curve (position sections.length i) := by
    intro i s hs
    obtain ⟨hi, -⟩ := List.getElem?_eq_some_iff.mp hs
    have hheight := congrArg (·[i]?) hheights
    simp only [List.getElem?_map, hs, List.getElem?_range hi, Option.map_some] at hheight
    exact ⟨hi, Option.some.inj hheight⟩
  refine ⟨?_, fun s hs => ?_, fun s hs => ?_, fun hmore s hs => ?_⟩
  · rw [hheights, List.pairwise_map]
    refine List.pairwise_lt_range.imp_of_mem fun _ hj hij => ?_
    exact e.curve_mono (position_nonneg _ _) (position_mono _ hij.le)
      (position_le_one (List.mem_range.mp hj))
  · obtain ⟨i, hi⟩ := List.getElem?_of_mem hs
    obtain ⟨hlt, ht⟩ := hheight hi
    rw [ht]
    exact e.curve_mem_unit (position_nonneg _ _) (position_le_one hlt)
  · rw [List.head?_eq_getElem?] at hs
    rw [(hheight hs).2, position_zero, e.curve_zero]
  · rw [List.getLast?_eq_getElem?] at hs
    rw [(hheight hs).2, position_last hmore, e.curve_one]

variable [Compass K]

/-- Every ring of a section lies at the height of the section. -/
theorem CrossSection.height_of_mem_ring {s : CrossSection K} {settings : LoftSettings K}
    {p : PlacedSection K} (h : placeBy settings s = .ok p) {t : Tube} {v : Point3 K}
    (hv : v ∈ t.ring p) : v.y = s.t * settings.height := by
  obtain ⟨c, sn, hcircle, hplace⟩ := s.exists_place settings.height settings.taper settings.twist
  cases Except.ok.inj (h.symm.trans hplace)
  cases t with
  | outer => exact (upright_lift _ _ _ hcircle).height v hv
  | hole slot =>
    rw [Tube.ring, placedAt, List.getElem?_map] at hv
    cases hhole : s.holes[slot]? with
    | none =>
      rw [hhole] at hv
      cases hv
    | some hole =>
      rw [hhole] at hv
      exact (upright_lift hole _ _ hcircle).height v hv

/-- Of two rings of sections that ascend, the upper one is not below the lower one. -/
theorem ring_le_ring {sections : List (CrossSection K)} {settings : LoftSettings K}
    {placed : List (PlacedSection K)} (hplaced : sections.mapM (placeBy settings) = .ok placed)
    (hascends : (sections.map CrossSection.t).Pairwise (· ≤ ·)) (hheight : 0 ≤ settings.height)
    {t : Tube} {i : Nat} {v v' : Point3 K} (hv : v ∈ ringAt placed (t, i))
    (hv' : v' ∈ ringAt placed (t, i + 1)) : v.y ≤ v'.y := by
  have hring : ∀ {j : Nat} {u : Point3 K}, u ∈ ringAt placed (t, j) →
      ∃ s, sections[j]? = some s ∧ u.y = s.t * settings.height := by
    intro j u hu
    rw [ringAt, Tube.getD_rings] at hu
    cases hp : placed[j]? with
    | none =>
      rw [hp] at hu
      cases hu
    | some p =>
      obtain ⟨s, hs, hplace⟩ := (getElem?_eq_some_iff_of_mapM hplaced).mp hp
      rw [hp] at hu
      exact ⟨s, hs, CrossSection.height_of_mem_ring hplace hu⟩
  obtain ⟨s, hs, hy⟩ := hring hv
  obtain ⟨s', hs', hy'⟩ := hring hv'
  obtain ⟨hi, rfl⟩ := List.getElem?_eq_some_iff.mp hs
  obtain ⟨hi', rfl⟩ := List.getElem?_eq_some_iff.mp hs'
  have hle : sections[i].t ≤ sections[i + 1].t :=
    List.pairwise_iff_getElem.mp (List.pairwise_map.mp hascends) i (i + 1) hi hi'
      (Nat.lt_succ_self i)
  rw [hy, hy']
  exact mul_le_mul_of_nonneg_right hle hheight

/-- **Heights ascend from zero to one.** With a curve that has a name, or with none, sections always
come about, and none stands below the one
before it: their heights lie between zero and one, begin at zero and, if there are at least two, end
at one. A loft of sections that stand like that, whatever rings they have, comes about, and if its
height is not negative, no ring lies below the one of the section before it. So no wall has its
upper ring below its lower ring. -/
theorem section_heights_ascend (shapes : Outlines K) (easing : Option Easing)
    (normalize preserveOrder : Bool) :
    ∃ stack, crossSections shapes ⟨easing.map Easing.apply, normalize, preserveOrder⟩ = .ok stack ∧
      Ascending stack.sections ∧
      ∀ (sections : List (CrossSection K)) (lofting : LoftSettings K),
        sections.map CrossSection.t = stack.sections.map CrossSection.t → 0 ≤ lofting.height →
        ∃ (lofted : Lofted K) (placed : List (PlacedSection K)) (b : MeshBuilder K)
            (blocks : Blocks),
          loft sections lofting = .ok lofted ∧ lofted.mesh = b.build lofting.smooth ∧
          sections.mapM (placeBy lofting) = .ok placed ∧
          Contents (fun t => t.count sections) (ringAt placed) (tip? placed lofting.closeTip)
            blocks b.vertices.toList b.triangles.toList ∧
          ∀ (t : Tube) (i : Nat), ∀ v ∈ ringAt placed (t, i), ∀ v' ∈ ringAt placed (t, i + 1),
            v.y ≤ v'.y := by
  obtain ⟨stack, hstack⟩ := exists_crossSections shapes
    ⟨easing.map Easing.apply, normalize, preserveOrder⟩ ⟨easing, rfl⟩
  have hascends := ascending_of_placed (placed_of_crossSections hstack)
  refine ⟨stack, hstack, hascends, fun sections lofting hheights hheight => ?_⟩
  obtain ⟨lofted, hloft⟩ := exists_loft_iff.mpr fun (s : CrossSection K) (_ : s ∈ sections) =>
    (s.exists_place lofting.height lofting.taper lofting.twist).elim fun _ h =>
      h.elim fun _ h => ⟨_, h.2⟩
  obtain ⟨placed, hplaced, hmesh⟩ := exists_placed hloft
  obtain ⟨blocks, hcontents⟩ := exists_contents hplaced lofting.closeTip
  refine ⟨lofted, placed, _, blocks, hloft, hmesh, hplaced, hcontents, fun t i v hv v' hv' => ?_⟩
  exact ring_le_ring hplaced (hheights ▸ hascends.pairwise) hheight hv hv'

/-- A square, a smaller one, a place that was left empty, and two triangles. -/
def steppedOutlines : Outlines ℚ :=
  [some [⟨0, 0⟩, ⟨4, 0⟩, ⟨4, 4⟩, ⟨0, 4⟩], some [⟨0, 0⟩, ⟨2, 0⟩, ⟨2, 2⟩, ⟨0, 2⟩], none,
    some [⟨0, 0⟩, ⟨4, 0⟩, ⟨0, 4⟩], some [⟨0, 0⟩, ⟨1, 0⟩, ⟨0, 1⟩]]

/-- With a hole in every second section, the walls rise through one eighth and seven eighths. -/
theorem stepped_sections_ascend : ∃ stack,
    crossSections steppedOutlines ⟨some (Easing.apply .easeInOut), false, true⟩ = .ok stack ∧
    stack.sections.map CrossSection.t = [0, 1 / 8, 1 / 2, 7 / 8, 1] ∧
    let sections := addHoles stack.sections Hole.everySecond Hole.tapering
    sections.map CrossSection.t = stack.sections.map CrossSection.t ∧ (0 : ℚ) ≤ 10 ∧
    ∃ lofted placed, loft sections ⟨10, 90, 1 / 2, true, false⟩ = .ok lofted ∧
      sections.mapM (placeBy ⟨10, 90, 1 / 2, true, false⟩) = .ok placed ∧
      ∀ (t : Tube) (i : Nat), ∀ v ∈ ringAt placed (t, i), ∀ v' ∈ ringAt placed (t, i + 1),
        v.y ≤ v'.y := by
  obtain ⟨stack, hstack, -, hlofts⟩ :=
    section_heights_ascend steppedOutlines (some .easeInOut) false true
  rw [Option.map_some] at hstack
  have hheights : (crossSections steppedOutlines
      ⟨some (Easing.apply .easeInOut), false, true⟩).toOption.map
      (fun stack => stack.sections.map CrossSection.t) = some [0, 1 / 8, 1 / 2, 7 / 8, 1] := by
    decide +kernel
  rw [hstack] at hheights
  have hholes : (addHoles stack.sections Hole.everySecond Hole.tapering).map CrossSection.t
      = stack.sections.map CrossSection.t := by
    rw [addHoles, List.map_map]
    refine (List.map_congr_left fun entry _ => CrossSection.addHole_t _ _ _ _).trans ?_
    show stack.sections.zipIdx.map (CrossSection.t ∘ Prod.fst) = _
    rw [← List.map_map, List.zipIdx_map_fst]
  obtain ⟨lofted, placed, -, -, hloft, -, hplaced, -, hrises⟩ :=
    hlofts _ ⟨10, 90, 1 / 2, true, false⟩ hholes (by norm_num)
  exact ⟨stack, hstack, Option.some.inj hheights, hholes, by norm_num, lofted, placed, hloft,
    hplaced, hrises⟩

end Sections

end LoftGraph
