import Mathlib.Data.List.Chain
import Mathlib.Tactic.Linarith
import Mathlib.Tactic.NormNum
import LoftGraph.Geometry.Resample
import LoftGraph.Proofs.Geometry.Way
import LoftGraph.Proofs.Number.Field

/-!
# Resampling follows the boundary by arc length

* `sweep` is where the walk along the edges stands before each vertex; the walk puts every vertex on
  the edge ahead (`walk_sweep`).  As targets only grow, walking on from one target to the next leads
  to where a walk from the very beginning leads (`sweep_succ_eq`).
* `pointAt` searches the point at a distance without regard to any other.  The walk finds an edge
  (`passUntil_ne_nil`) and on it the point of that search (`pointAt_of_passUntil`).
* `LiesAt` says that a point lies at a distance from the beginning of the edges.  The point that the
  search finds does (`liesAt_of_pointAt`), and it is the only one (`pointAt_of_liesAt`) where edges
  without length join a place to itself.
-/

namespace LoftGraph

namespace Polygon

/-! ## The walk from one vertex to the next -/

section Sweep

variable {α : Type} [Scalar α]

/-- How far the walk has come before the vertex of an index, and the edges still ahead of it. -/
def sweep (step : α) (es : List (Stretch α)) : Nat → α × List (Stretch α)
  | 0 => (0, es)
  | i + 1 => passUntil (Scalar.ofNat i * step) (sweep step es i).1 (sweep step es i).2

/-- Each vertex is put on the edge that lies ahead of the walk once it has come to the target. -/
theorem walk_sweep (fallback : Point α) (step : α) (es : List (Stretch α)) (n i : Nat) :
    walk fallback step n i (sweep step es i).1 (sweep step es i).2 =
      (List.range' i n).map fun j => pointAhead fallback
        (Scalar.ofNat j * step - (sweep step es (j + 1)).1) (sweep step es (j + 1)).2 := by
  induction n generalizing i with
  | zero => rfl
  | succ n ih =>
    rw [List.range'_succ, List.map_cons, ← ih (i + 1)]
    rfl

end Sweep

end Polygon

attribute [-instance] Scalar.toAdd Scalar.toSub Scalar.toMul Scalar.toDiv Scalar.toNeg
  Scalar.instOfNatScalar

namespace Polygon

section Exact

variable {K : Type} [Field K] [LinearOrder K] [Gauge K] {s travelled : K}
  {e : Stretch K} {es rest : List (Stretch K)}

theorem passUntil_cons (s travelled : K) (e : Stretch K) (rest : List (Stretch K)) :
    passUntil s travelled (e :: rest) =
      if travelled + e.length < s then passUntil s (travelled + e.length) rest
      else (travelled, e :: rest) := by
  rw [passUntil, Scalar.lt_eq]
  exact if_congr (decide_eq_true_iff) rfl rfl

theorem passUntil_suffix (s travelled : K) (es : List (Stretch K)) :
    (passUntil s travelled es).2 <:+ es := by
  induction es generalizing travelled with
  | nil => exact List.suffix_rfl
  | cons e rest ih =>
    rw [passUntil_cons]
    split
    · exact (ih _).trans (List.suffix_cons e rest)
    · exact List.suffix_rfl

/-- A walk that goes on to a target further away gets to where it had got without the stop. -/
theorem passUntil_passUntil {t : K} (h : s ≤ t) (travelled : K) (es : List (Stretch K)) :
    passUntil t (passUntil s travelled es).1 (passUntil s travelled es).2
      = passUntil t travelled es := by
  induction es generalizing travelled with
  | nil => rfl
  | cons e rest ih =>
    rw [passUntil_cons s]
    split
    · next hpass => rw [ih, passUntil_cons t, if_pos (lt_of_lt_of_le hpass h)]
    · rfl

/-- The walk stops short of the target, on an edge that reaches it. -/
theorem passUntil_bounds (h : travelled ≤ s) {travelled' : K}
    (hpass : passUntil s travelled es = (travelled', e :: rest)) :
    travelled' ≤ s ∧ s ≤ travelled' + e.length := by
  induction es generalizing travelled with
  | nil => cases hpass
  | cons e' rest' ih =>
    rw [passUntil_cons] at hpass
    split at hpass
    · next hbefore => exact ih hbefore.le hpass
    · next hreached =>
      cases hpass
      exact ⟨h, not_lt.mp hreached⟩

/-- A walk does not come to the end of the edges before a target on them. -/
theorem passUntil_ne_nil (hne : es ≠ []) (h : s ≤ travelled + (es.map Stretch.length).sum) :
    (passUntil s travelled es).2 ≠ [] := by
  induction es generalizing travelled with
  | nil => exact absurd rfl hne
  | cons e rest ih =>
    rw [List.map_cons, List.sum_cons, ← add_assoc] at h
    rw [passUntil_cons]
    split
    · next hpass =>
      refine ih ?_ h
      intro hnone
      rw [hnone, List.map_nil, List.sum_nil, add_zero] at h
      exact absurd hpass (not_lt.mpr h)
    · exact List.cons_ne_nil e rest

theorem sweep_zero (step : K) (es : List (Stretch K)) : sweep step es 0 = (0, es) :=
  Prod.ext Scalar.zero_eq rfl

variable [IsStrictOrderedRing K]

/-- Walking on from target to target leads to where a walk from the beginning leads. -/
theorem sweep_succ_eq {step : K} (h : 0 ≤ step) (es : List (Stretch K)) (i : Nat) :
    sweep step es (i + 1) = passUntil (i * step) 0 es := by
  induction i with
  | zero =>
    rw [sweep, sweep_zero, Scalar.ofNat_eq]
  | succ i ih =>
    have hfurther : (i : K) * step ≤ (i + 1 : ℕ) * step :=
      mul_le_mul_of_nonneg_right (Nat.cast_le.mpr i.le_succ) h
    rw [sweep, ih, Scalar.ofNat_eq]
    exact passUntil_passUntil hfurther 0 es

end Exact

end Polygon

/-! ## Points at a distance -/

section Points

variable {K : Type} [Field K] [LinearOrder K] [Gauge K] {s travelled part : K} {q : Point K}
  {e : Stretch K} {es rest : List (Stretch K)}

/-- The point of an edge that lies at a part of its length. -/
def Stretch.point (e : Stretch K) (part : K) : Point K :=
  e.start.add ((e.stop.sub e.start).scale part)

@[simp] theorem Stretch.point_zero (e : Stretch K) : e.point 0 = e.start := by
  change Point.mk (e.start.x + (e.stop.x - e.start.x) * 0)
    (e.start.y + (e.stop.y - e.start.y) * 0) = e.start
  rw [mul_zero, mul_zero, add_zero, add_zero]

@[simp] theorem Stretch.point_one (e : Stretch K) : e.point 1 = e.stop := by
  change Point.mk (e.start.x + (e.stop.x - e.start.x) * 1)
    (e.start.y + (e.stop.y - e.start.y) * 1) = e.stop
  rw [mul_one, mul_one, add_sub_cancel, add_sub_cancel]

/-- An edge that joins a place to itself has one point. -/
theorem Stretch.point_of_flat (h : e.start = e.stop) (part : K) : e.point part = e.start := by
  change Point.mk (e.start.x + (e.stop.x - e.start.x) * part)
    (e.start.y + (e.stop.y - e.start.y) * part) = e.start
  rw [← h, sub_self, sub_self, zero_mul, add_zero, add_zero]

namespace Polygon

/-- The point at a distance along edges laid one after the other: on the first edge if that is long
enough, else on the edges behind it at what is left of the distance. -/
def pointAt : List (Stretch K) → K → Option (Point K)
  | [], _ => none
  | e :: rest, s => if e.length < s then pointAt rest (s - e.length) else e.point (s / e.length)

/-- Does the point lie at a distance from the beginning of edges laid one after the other? -/
def LiesAt : List (Stretch K) → K → Point K → Prop
  | [], _, _ => False
  | e :: rest, s, q =>
    (∃ part, 0 ≤ part ∧ part ≤ 1 ∧ s = part * e.length ∧ q = e.point part) ∨
      LiesAt rest (s - e.length) q

/-- What lies at a distance lies on one of the edges. -/
theorem LiesAt.exists_mem (h : LiesAt es s q) :
    ∃ e ∈ es, ∃ part, 0 ≤ part ∧ part ≤ 1 ∧ q = e.point part := by
  induction es generalizing s with
  | nil => exact h.elim
  | cons e rest ih =>
    rcases h with ⟨part, hlow, hhigh, -, hq⟩ | h
    · exact ⟨e, .head _, part, hlow, hhigh, hq⟩
    · obtain ⟨e', he', hpart⟩ := ih h
      exact ⟨e', .tail _ he', hpart⟩

/-- Nothing lies before the beginning of the first edge. -/
theorem pointAt_zero (hlength : 0 ≤ e.length) (rest : List (Stretch K)) :
    pointAt (e :: rest) 0 = some e.start := by
  rw [pointAt, if_neg (not_lt.mpr hlength), zero_div, e.point_zero]

/-! ## The edges of a polygon -/

/-- The steps of a way through points with their lengths. -/
def way (ps : List (Point K)) : List (Stretch K) :=
  (steps ps).map fun e => ⟨e.1, e.2, e.1.distance e.2⟩

theorem stretches_eq_way (first : Point K) (rest : List (Point K)) :
    stretches (first :: rest) = way (first :: (rest ++ [first])) := by
  rw [stretches, edges_eq_steps, way]

theorem way_nonneg {ps : List (Point K)} (he : e ∈ way ps) : 0 ≤ e.length := by
  obtain ⟨step, -, rfl⟩ := List.mem_map.mp he
  exact Gauge.hypot_nonneg _ _

theorem map_length_stretches (p : Polygon K) : p.stretches.map Stretch.length = p.edgeLengths := by
  rw [stretches, List.map_map, edgeLengths]
  rfl

theorem stretches_nonneg {p : Polygon K} (he : e ∈ p.stretches) : 0 ≤ e.length := by
  cases p with
  | nil => cases he
  | cons first rest =>
    rw [stretches_eq_way] at he
    exact way_nonneg he

theorem stretches_ne_nil {p : Polygon K} (hp : p ≠ []) : p.stretches ≠ [] := by
  rw [← List.length_pos_iff, stretches, List.length_map, length_edges]
  exact List.length_pos_iff.mpr hp

theorem stretches_linked (p : Polygon K) : p.stretches.IsChain fun e e' => e.stop = e'.start := by
  cases p with
  | nil => exact .nil
  | cons first rest =>
    rw [stretches_eq_way, way, List.isChain_map]
    exact steps_linked _

theorem head?_stretches (p : Polygon K) : p.stretches.head?.map Stretch.start = p.head? := by
  cases p with
  | nil => rfl
  | cons first rest => cases rest <;> rfl

theorem resampleCount_pos (count : Int) : 0 < resampleCount count := by
  unfold resampleCount
  omega

/-- A polygon without extent becomes copies of its first vertex. -/
theorem resample_eq_replicate {first : Point K} {rest : List (Point K)} {count : Int}
    (htotal : (edgeLengths (first :: rest)).sum = 0)
    (hcount : (first :: rest).length ≠ resampleCount count) :
    resample (first :: rest) count = List.replicate (resampleCount count) first := by
  simp only [resample]
  rw [if_neg hcount, Scalar.sum_eq, Scalar.zero_eq, Scalar.eq_eq, if_pos (decide_eq_true htotal)]

theorem resample_eq_walk {p : Polygon K} {count : Int} (htotal : p.edgeLengths.sum ≠ 0)
    (hcount : p.length ≠ resampleCount count) (hp : p ≠ []) :
    p.resample count = walk (p.getLast hp) (p.edgeLengths.sum / (resampleCount count : ℕ))
      (resampleCount count) 0 0 p.stretches := by
  cases p with
  | nil => exact absurd rfl hp
  | cons first rest =>
    simp only [resample]
    rw [if_neg hcount, Scalar.sum_eq, Scalar.zero_eq, Scalar.ofNat_eq, Scalar.eq_eq,
      if_neg (mt of_decide_eq_true htotal)]

/-! ## Searching a point -/

variable [IsStrictOrderedRing K]

/-- The part of an edge up to a target on it needs no bringing between none and all of it. -/
theorem fraction_eq (hlength : 0 ≤ e.length) (h : 0 ≤ s) (hreach : s ≤ e.length) :
    0 ≤ s / e.length ∧ s / e.length ≤ 1 ∧ fraction e s = s / e.length := by
  have hlow : 0 ≤ s / e.length := div_nonneg h hlength
  have hhigh : s / e.length ≤ 1 := div_le_one_of_le₀ hreach hlength
  refine ⟨hlow, hhigh, ?_⟩
  rw [fraction, Scalar.eq_eq, Scalar.zero_eq, Scalar.one_eq]
  split
  · next hzero => rw [of_decide_eq_true hzero, div_zero]
  · exact Scalar.smaller_larger_eq hlow hhigh

/-- On the edge it stops at, the walk finds the point that is searched from the beginning. -/
theorem pointAt_of_passUntil {travelled' : K}
    (hpass : passUntil s travelled es = (travelled', e :: rest)) :
    pointAt es (s - travelled) = some (e.point ((s - travelled') / e.length)) := by
  induction es generalizing travelled with
  | nil => cases hpass
  | cons e' rest' ih =>
    rw [passUntil_cons] at hpass
    rw [pointAt]
    split at hpass
    · next hbefore => rw [if_pos (by linarith), sub_sub, ih hpass]
    · next hreached =>
      cases hpass
      rw [if_neg (by linarith)]

/-- A point that is found lies at its distance. -/
theorem liesAt_of_pointAt (hlengths : ∀ e ∈ es, 0 ≤ e.length) (h : 0 ≤ s)
    (hq : pointAt es s = some q) : LiesAt es s q := by
  induction es generalizing s with
  | nil => cases hq
  | cons e rest ih =>
    obtain ⟨hlength, hlengths⟩ := List.forall_mem_cons.mp hlengths
    rw [pointAt] at hq
    split at hq
    · next hbeyond => exact .inr (ih hlengths (sub_nonneg.mpr hbeyond.le) hq)
    · next hreach =>
      cases hq
      obtain ⟨hlow, hhigh, -⟩ := fraction_eq hlength h (not_lt.mp hreach)
      refine .inl ⟨_, hlow, hhigh, ?_, rfl⟩
      -- an edge without length is reached by no distance but nought
      by_cases hzero : e.length = 0
      · rw [hzero] at hreach
        rw [hzero, mul_zero]
        exact le_antisymm (not_lt.mp hreach) h
      · exact (div_mul_cancel₀ s hzero).symm

theorem LiesAt.nonneg (hlengths : ∀ e ∈ es, 0 ≤ e.length) (h : LiesAt es s q) : 0 ≤ s := by
  induction es generalizing s with
  | nil => exact h.elim
  | cons e rest ih =>
    obtain ⟨hlength, hlengths⟩ := List.forall_mem_cons.mp hlengths
    rcases h with ⟨part, hlow, -, rfl, -⟩ | h
    · exact mul_nonneg hlow hlength
    · exact hlength.trans (sub_nonneg.mp (ih hlengths h))

/-- Only one point lies at a distance, if every edge begins where the one before it ends and edges
without length join a place to itself. -/
theorem pointAt_of_liesAt (hlinked : es.IsChain fun e e' => e.stop = e'.start)
    (hlengths : ∀ e ∈ es, 0 ≤ e.length) (hflat : ∀ e ∈ es, e.length = 0 → e.start = e.stop)
    (h : LiesAt es s q) : pointAt es s = some q := by
  induction es generalizing s with
  | nil => exact h.elim
  | cons e rest ih =>
    obtain ⟨hlength, hlengths⟩ := List.forall_mem_cons.mp hlengths
    obtain ⟨hflat₁, hflat⟩ := List.forall_mem_cons.mp hflat
    rw [pointAt]
    rcases h with ⟨part, -, hhigh, rfl, rfl⟩ | h
    · have hreach : part * e.length ≤ e.length := mul_le_of_le_one_left hlength hhigh
      rw [if_neg (not_lt.mpr hreach)]
      by_cases hzero : e.length = 0
      · rw [e.point_of_flat (hflat₁ hzero), e.point_of_flat (hflat₁ hzero)]
      · rw [mul_div_cancel_right₀ part hzero]
    · have hrest := ih hlinked.of_cons hlengths hflat h
      split
      · exact hrest
      · next hreach =>
        -- the end of this edge, which is the beginning of the next
        have hend : s = e.length :=
          le_antisymm (not_lt.mp hreach) (sub_nonneg.mp (h.nonneg hlengths))
        rw [hend] at hrest ⊢
        cases rest with
        | nil => exact h.elim
        | cons e' rest =>
          rw [sub_self, pointAt_zero (hlengths e' (.head _))] at hrest
          rw [← Option.some.inj hrest, ← (List.isChain_cons_cons.mp hlinked).1]
          by_cases hzero : e.length = 0
          · rw [e.point_of_flat (hflat₁ hzero), hflat₁ hzero]
          · rw [div_self hzero, e.point_one]

/-! ## The vertices that the walk puts -/

/-- What a walk in equal steps along edges does for the vertex `q` of an index. -/
structure Visits (es : List (Stretch K)) (step : K) (i : Nat) (q : Point K) : Prop where
  /-- The walk has come to where a walk from the beginning comes, an edge is ahead of it, and the
  part of that edge which is still to go needs no bringing between none and all of it. -/
  carried : ∃ travelled e rest, sweep step es (i + 1) = (travelled, e :: rest) ∧
    passUntil (i * step) 0 es = (travelled, e :: rest) ∧
    0 ≤ (i * step - travelled) / e.length ∧ (i * step - travelled) / e.length ≤ 1 ∧
    fraction e (i * step - travelled) = (i * step - travelled) / e.length
  searched : pointAt es (i * step) = some q
  lies : LiesAt es (i * step) q
  /-- No other point lies there, if edges without length join a place to itself. -/
  unique : (∀ e ∈ es, e.length = 0 → e.start = e.stop) → ∀ q', LiesAt es (i * step) q' → q' = q

theorem perimeter_nonneg (p : Polygon K) : 0 ≤ p.edgeLengths.sum := by
  rw [← map_length_stretches]
  exact List.sum_nonneg (List.forall_mem_map.mpr fun e he => stretches_nonneg he)

/-- A walk in equal steps that ends with the edges takes each of them along the edges. -/
theorem exists_visits {step : K} {es : List (Stretch K)} {i : Nat} (hne : es ≠ [])
    (hlinked : es.IsChain fun e e' => e.stop = e'.start) (hlengths : ∀ e ∈ es, 0 ≤ e.length)
    (hstep : 0 ≤ step) (hi : i * step ≤ (es.map Stretch.length).sum) :
    ∃ q, Visits es step i q ∧ ∀ fallback, pointAhead fallback
      (i * step - (sweep step es (i + 1)).1) (sweep step es (i + 1)).2 = q := by
  have htarget : 0 ≤ (i : K) * step := mul_nonneg i.cast_nonneg hstep
  have hahead : (passUntil (i * step) 0 es).2 ≠ [] :=
    passUntil_ne_nil hne (hi.trans_eq (zero_add _).symm)
  obtain ⟨e, rest, hrest⟩ := List.exists_cons_of_ne_nil hahead
  have he : e ∈ es := (passUntil_suffix (i * step) 0 es).mem (hrest ▸ .head _)
  have hpass : passUntil (i * step) 0 es = ((passUntil (i * step) 0 es).1, e :: rest) :=
    Prod.ext rfl hrest
  generalize (passUntil (i * step) 0 es).1 = travelled at hpass
  obtain ⟨hbefore, hreach⟩ := passUntil_bounds htarget hpass
  obtain ⟨hlow, hhigh, hfraction⟩ :=
    fraction_eq (hlengths e he) (sub_nonneg.mpr hbefore) (sub_le_iff_le_add'.mpr hreach)
  have hsearched := pointAt_of_passUntil hpass
  rw [sub_zero] at hsearched
  refine ⟨e.point ((i * step - travelled) / e.length), ⟨⟨travelled, e, rest, ?_, hpass, hlow, hhigh,
    hfraction⟩, hsearched, liesAt_of_pointAt hlengths htarget hsearched, ?_⟩, fun fallback => ?_⟩
  · rw [sweep_succ_eq hstep, hpass]
  · intro hflat q' hq'
    have hq := pointAt_of_liesAt hlinked hlengths hflat hq'
    rw [hsearched] at hq
    exact (Option.some.inj hq).symm
  · rw [sweep_succ_eq hstep, hpass, pointAhead, hfraction]
    rfl

/-- A walk in equal steps that ends with the edges visits every target, and never looks at what
stands for having run out of edges. -/
theorem walk_visits {step : K} {es : List (Stretch K)} {n : Nat} (hne : es ≠ [])
    (hlinked : es.IsChain fun e e' => e.stop = e'.start) (hlengths : ∀ e ∈ es, 0 ≤ e.length)
    (hstep : 0 ≤ step) (hn : n * step ≤ (es.map Stretch.length).sum) (fallback : Point K) :
    (∀ fallback', walk fallback' step n 0 0 es = walk fallback step n 0 0 es) ∧
      ∀ i < n, ∃ q, (walk fallback step n 0 0 es)[i]? = some q ∧ Visits es step i q := by
  have hvisits : ∀ i < n, ∃ q, Visits es step i q ∧ ∀ fallback, pointAhead fallback
      (i * step - (sweep step es (i + 1)).1) (sweep step es (i + 1)).2 = q := by
    intro i hi
    have hfurther : (i : K) * step ≤ n * step :=
      mul_le_mul_of_nonneg_right (Nat.cast_le.mpr hi.le) hstep
    exact exists_visits hne hlinked hlengths hstep (hfurther.trans hn)
  have hwalk : ∀ fallback, walk fallback step n 0 0 es = (List.range n).map fun i =>
      pointAhead fallback (i * step - (sweep step es (i + 1)).1) (sweep step es (i + 1)).2 := by
    intro fallback
    have hsweep := walk_sweep fallback step es n 0
    simp only [sweep_zero, Scalar.ofNat_eq, ← List.range_eq_range'] at hsweep
    exact hsweep
  refine ⟨fun fallback' => ?_, fun i hi => ?_⟩
  · rw [hwalk, hwalk]
    refine List.map_congr_left fun i hi => ?_
    obtain ⟨q, -, hq⟩ := hvisits i (List.mem_range.mp hi)
    rw [hq, hq]
  · obtain ⟨q, hvisit, hq⟩ := hvisits i hi
    refine ⟨q, ?_, hvisit⟩
    rw [hwalk, List.getElem?_map, List.getElem?_range hi, Option.map_some, hq]

/-- The vertices of a polygon that is resampled along its boundary. -/
theorem resample_visits {p : Polygon K} (hp : p ≠ []) {count : Int}
    (htotal : 0 < p.edgeLengths.sum) (hcount : p.length ≠ resampleCount count) :
    (∀ fallback, walk fallback (p.edgeLengths.sum / (resampleCount count : ℕ))
      (resampleCount count) 0 0 p.stretches = p.resample count) ∧
    ∀ i < resampleCount count, ∃ q, (p.resample count)[i]? = some q ∧
      Visits p.stretches (p.edgeLengths.sum / (resampleCount count : ℕ)) i q := by
  have hpos : (0 : K) < (resampleCount count : ℕ) := Nat.cast_pos.mpr (resampleCount_pos count)
  rw [resample_eq_walk htotal.ne' hcount hp]
  refine walk_visits (stretches_ne_nil hp) p.stretches_linked (fun e he => stretches_nonneg he)
    (div_nonneg htotal.le hpos.le) ?_ _
  rw [map_length_stretches, mul_div_cancel₀ _ hpos.ne']

/-- The first vertex stays where it is. -/
theorem resample_head? (p : Polygon K) (count : Int) : (p.resample count)[0]? = p.head? := by
  cases p with
  | nil => rfl
  | cons first rest =>
    by_cases hcount : (first :: rest).length = resampleCount count
    · rw [resample, if_pos hcount]
      rfl
    rcases (perimeter_nonneg (first :: rest)).eq_or_lt with htotal | htotal
    · rw [resample_eq_replicate htotal.symm hcount,
        List.getElem?_replicate_of_lt (resampleCount_pos count), List.head?_cons]
    · obtain ⟨q, hq, hvisit⟩ := (resample_visits (List.cons_ne_nil first rest) htotal hcount).2 0
        (resampleCount_pos count)
      obtain ⟨e, others, he⟩ := List.exists_cons_of_ne_nil
        (stretches_ne_nil (List.cons_ne_nil first rest))
      have hstart := head?_stretches (first :: rest)
      have hsearched := hvisit.searched
      have hlength : 0 ≤ e.length := stretches_nonneg (he ▸ List.mem_cons_self)
      rw [he, Nat.cast_zero, zero_mul, pointAt_zero hlength] at hsearched
      rw [he, List.head?_cons, Option.map_some, hsearched] at hstart
      rw [hq, hstart]

/-- **Resampling follows the boundary by arc length.** However many vertices are asked for, there
are as many, but no less than three, and the first stays the first. If the edges have some length
together, whatever the length of each is, and the count is not the one there is, then every vertex
lies on the boundary where the walk in equal steps from the first vertex comes to: the walk that is
carried on from vertex to vertex visits what a search of its own finds, and neither runs out of
edges nor has to keep to the edge it is on. -/
theorem resample_follows_boundary (p : Polygon K) (hp : p ≠ []) (count : Int) :
    (resampleCount count : Int) = max count 3 ∧
    (p.resample count).length = resampleCount count ∧
    (p.resample count)[0]? = p.head? ∧
    (0 < p.edgeLengths.sum → p.length ≠ resampleCount count →
      (∀ fallback, walk fallback (p.edgeLengths.sum / (resampleCount count : ℕ))
        (resampleCount count) 0 0 p.stretches = p.resample count) ∧
      ∀ i < resampleCount count, ∃ q, (p.resample count)[i]? = some q ∧
        Visits p.stretches (p.edgeLengths.sum / (resampleCount count : ℕ)) i q) := by
  refine ⟨?_, length_resample hp count, p.resample_head? count, resample_visits hp⟩
  unfold resampleCount
  omega

end Polygon

end Points

namespace Polygon

/-- A triangle of the sides 3, 4 and 5 that stays on each of its corners for one more vertex, so
that the first edge, the last one and one between them have no length. -/
def haltingTriangle : Polygon ℚ := [⟨0, 0⟩, ⟨0, 0⟩, ⟨4, 0⟩, ⟨4, 0⟩, ⟨0, 3⟩, ⟨0, 0⟩]

theorem halting_triangle_follows_boundary :
    haltingTriangle ≠ [] ∧ haltingTriangle.edgeLengths.sum = 12 ∧
    0 < haltingTriangle.edgeLengths.sum ∧ haltingTriangle.length ≠ resampleCount 4 ∧ 2 < 4 ∧
    haltingTriangle.resample 4 = [⟨0, 0⟩, ⟨3, 0⟩, ⟨12 / 5, 6 / 5⟩, ⟨0, 3⟩] ∧
    LiesAt haltingTriangle.stretches 6 ⟨12 / 5, 6 / 5⟩ ∧
    ∀ q, LiesAt haltingTriangle.stretches 6 q → q = ⟨12 / 5, 6 / 5⟩ := by
  have hperimeter : haltingTriangle.edgeLengths.sum = 12 := by decide +kernel
  have hpositive : 0 < haltingTriangle.edgeLengths.sum := by decide +kernel
  have hcount : haltingTriangle.length ≠ resampleCount 4 := by decide
  have hvertices : haltingTriangle.resample 4 = [⟨0, 0⟩, ⟨3, 0⟩, ⟨12 / 5, 6 / 5⟩, ⟨0, 3⟩] := by
    decide +kernel
  obtain ⟨-, -, -, hfollows⟩ := resample_follows_boundary haltingTriangle (by decide) 4
  obtain ⟨-, hvisits⟩ := hfollows hpositive hcount
  obtain ⟨q, hq, hvisit⟩ := hvisits 2 (by decide)
  have hstep : (2 : ℕ) * (haltingTriangle.edgeLengths.sum / (resampleCount 4 : ℕ)) = (6 : ℚ) := by
    have hfour : resampleCount 4 = 4 := rfl
    rw [hperimeter, hfour]
    norm_num
  rw [hvertices] at hq
  cases hq
  have hlies := hvisit.lies
  have hunique := hvisit.unique (by decide +kernel)
  rw [hstep] at hlies hunique
  exact ⟨by decide, hperimeter, hpositive, hcount, by decide, hvertices, hlies, hunique⟩

end Polygon

end LoftGraph
