import LoftGraph.Measure
import LoftGraph.Proofs.Geometry.Stack

/-!
# Removing points of a spine

Removal thins the walk of a spine and does not bend it: the points that stay stand where they stand
on the walk from which nothing is removed.

* The walk advances in the same way past a point that stays and past one that is removed, so one
  induction compares both walks index by index (`staying_walk`). What is drawn at random differs,
  because a removed point draws nothing; without random variation the radii agree as well.
* The whole walk has more radii to compute. Where a radius is a number if any other one is, one
  point that stays is enough for the whole walk to go through (`exists_walk`). Measures are of this
  kind (`exists_emit_measure`).
-/

namespace LoftGraph

/-- What of a point its ring has nothing to do with: where it stands, how it is turned, and how long
its segment is. -/
def SpinePoint.anchor {α : Type} (p : SpinePoint α) : Point3 α × α × α :=
  (p.position, p.rotation, p.length)

namespace SpineSettings

/-! ## The indices that stay -/

/-- Does the point at an index stay, if one is removed every so many points? -/
def Stays (frequency : Int) (index : Nat) : Prop := frequency ≤ 0 ∨ ¬ frequency ∣ index

instance (frequency : Int) (index : Nat) : Decidable (Stays frequency index) :=
  inferInstanceAs (Decidable (_ ∨ _))

theorem keeps_iff {frequency : Int} {index : Nat} :
    keeps frequency index = true ↔ Stays frequency index := by
  unfold keeps Stays
  by_cases hpos : 0 < frequency
  · obtain ⟨k, rfl⟩ := Int.eq_ofNat_of_zero_le (Int.le_of_lt hpos)
    rw [Int.natCast_dvd_natCast, Nat.dvd_iff_mod_eq_zero, Int.toNat_natCast]
    simp
  · simp [Int.not_lt.mp hpos, hpos]

/-- The entries of a list that stay, where the first one has the given index. -/
def staying {β : Type} (frequency : Int) (start : Nat) (xs : List β) : List β :=
  ((xs.zipIdx start).filter (fun e => Stays frequency e.2)).map Prod.fst

section

variable {β : Type} {frequency : Int} {start : Nat} {x : β} {xs : List β}

theorem staying_cons_of_stays (h : Stays frequency start) :
    staying frequency start (x :: xs) = x :: staying frequency (start + 1) xs := by
  simp [staying, h]

theorem staying_cons_of_not_stays (h : ¬ Stays frequency start) :
    staying frequency start (x :: xs) = staying frequency (start + 1) xs := by
  simp [staying, h]

end

/-- The settings with nothing removed. -/
def unthinned {α : Type} (s : SpineSettings α) : SpineSettings α :=
  { s with removeFrequency := .ok 0 }

/-! ## Walks -/

section Walk

variable {α : Type} [Circular α] {s : SpineSettings α} {steps n i : Nat} {rise : α}
  {frequency : Int} {stream stream' : Option RandomStream} {w : SpineWalk α} {p p' : SpinePoint α}
  {points all : List (SpinePoint α)}

theorem stays_zero (i : Nat) : Stays 0 i := .inl (Int.le_refl 0)

/-- A point that stays is emitted before the walk goes on. -/
theorem walk_succ_of_stays (h : Stays frequency i) :
    s.walk steps rise frequency (n + 1) i stream w = .ok points ↔
      ∃ p stream' w' rest, s.emit steps i stream w = .ok (p, stream') ∧
        s.advance rise w = .ok w' ∧
        s.walk steps rise frequency n (i + 1) stream' w' = .ok rest ∧ points = p :: rest := by
  rw [walk, if_pos (keeps_iff.mpr h), bind_eq_ok_iff]
  constructor
  · rintro ⟨⟨p, stream'⟩, hp, hrest⟩
    obtain ⟨w', hw', hrest⟩ := bind_eq_ok_iff.mp hrest
    obtain ⟨rest, hwalk, hrest⟩ := bind_eq_ok_iff.mp hrest
    exact ⟨p, stream', w', rest, hp, hw', hwalk, (Except.ok.inj hrest).symm⟩
  · rintro ⟨p, stream', w', rest, hp, hw', hwalk, rfl⟩
    exact ⟨(p, stream'), hp, bind_eq_ok_iff.mpr ⟨w', hw', bind_eq_ok_iff.mpr ⟨rest, hwalk, rfl⟩⟩⟩

/-- The walk goes on past a removed point. -/
theorem walk_succ_of_not_stays (h : ¬ Stays frequency i) :
    s.walk steps rise frequency (n + 1) i stream w = .ok points ↔
      ∃ w', s.advance rise w = .ok w' ∧
        s.walk steps rise frequency n (i + 1) stream w' = .ok points := by
  rw [walk, if_neg (mt keeps_iff.mp h)]
  exact bind_eq_ok_iff

/-- What is emitted at an index. -/
theorem emit_eq_ok_iff : s.emit steps i stream w = .ok (p, stream') ↔
    ∃ base varied, s.baseRadius steps i = .ok base ∧
      s.variation stream base = .ok (varied, stream') ∧ p = s.point base varied w := by
  rw [emit, bind_eq_ok_iff]
  constructor
  · rintro ⟨base, hbase, h⟩
    obtain ⟨⟨varied, _⟩, hvaried, h⟩ := bind_eq_ok_iff.mp h
    cases h
    exact ⟨base, varied, hbase, hvaried, rfl⟩
  · rintro ⟨base, varied, hbase, hvaried, rfl⟩
    exact ⟨base, hbase, bind_eq_ok_iff.mpr ⟨(varied, stream'), hvaried, rfl⟩⟩

theorem anchor_of_emit (h : s.emit steps i stream w = .ok (p, stream')) :
    p.anchor = (w.position, w.rotation, s.segmentLength) := by
  obtain ⟨_, _, -, -, rfl⟩ := emit_eq_ok_iff.mp h
  rfl

/-- Without a stream nothing is drawn, and the radius is the one of the index. -/
theorem emit_none (h : s.emit steps i none w = .ok (p, stream))
    (h' : s.emit steps i none w = .ok (p', stream')) : p = p' ∧ stream = none ∧ stream' = none := by
  obtain ⟨_, _, -, hvaried, -⟩ := emit_eq_ok_iff.mp h
  cases hvaried
  cases h.symm.trans h'
  exact ⟨rfl, rfl, rfl⟩

/-- A walk with points removed is the whole walk less these points. -/
theorem staying_walk (h : s.walk steps rise frequency n i stream w = .ok points)
    (hall : s.walk steps rise 0 n i stream' w = .ok all) :
    all.length = n ∧
      points.map SpinePoint.anchor = (staying frequency i all).map SpinePoint.anchor ∧
      (stream = none → stream' = none → points = staying frequency i all) := by
  induction n generalizing i stream stream' w points all with
  | zero =>
    cases h
    cases hall
    exact ⟨rfl, rfl, fun _ _ => rfl⟩
  | succ n ih =>
    obtain ⟨p', later', w', rest', hp', hw', hrest', rfl⟩ :=
      (walk_succ_of_stays (stays_zero i)).mp hall
    by_cases hstays : Stays frequency i
    · obtain ⟨p, later, w'', rest, hp, hw, hrest, rfl⟩ := (walk_succ_of_stays hstays).mp h
      cases hw.symm.trans hw'
      obtain ⟨hlength, hanchors, hradii⟩ := ih hrest hrest'
      rw [staying_cons_of_stays hstays]
      refine ⟨congrArg (· + 1) hlength, ?_, ?_⟩
      · rw [List.map_cons, List.map_cons, hanchors, anchor_of_emit hp, anchor_of_emit hp']
      · rintro rfl rfl
        obtain ⟨rfl, rfl, rfl⟩ := emit_none hp hp'
        rw [hradii rfl rfl]
    · obtain ⟨w'', hw, hrest⟩ := (walk_succ_of_not_stays hstays).mp h
      cases hw.symm.trans hw'
      obtain ⟨hlength, hanchors, hradii⟩ := ih hrest hrest'
      rw [staying_cons_of_not_stays hstays]
      refine ⟨congrArg (· + 1) hlength, hanchors, ?_⟩
      rintro rfl rfl
      obtain ⟨-, -, rfl⟩ := emit_none hp' hp'
      exact hradii rfl rfl

/-- As many points as indices that stay. -/
theorem length_walk (h : s.walk steps rise frequency n i stream w = .ok points) :
    points.length = (List.range' i n).countP (fun j => Stays frequency j) := by
  induction n generalizing i stream w points with
  | zero =>
    cases h
    rfl
  | succ n ih =>
    rw [List.range'_succ, List.countP_cons]
    by_cases hstays : Stays frequency i
    · obtain ⟨p, later, w', rest, -, -, hrest, rfl⟩ := (walk_succ_of_stays hstays).mp h
      rw [List.length_cons, ih hrest, if_pos (decide_eq_true hstays)]
    · obtain ⟨w', -, hrest⟩ := (walk_succ_of_not_stays hstays).mp h
      rw [ih hrest, if_neg (by simpa using hstays)]
      rfl

/-- A variation is drawn from a stream. -/
theorem variation_some (s : SpineSettings α) (st : RandomStream) (base : α) :
    s.variation (some st) base =
      (Scalar.checked (((st.unit : α × RandomStream).1 - Scalar.ofDecimal 5 1)
        * s.radiusVariation * base)).map
          (fun varied => (varied, some (st.unit : α × RandomStream).2)) := by
  rw [variation]
  generalize (st.unit : α × RandomStream) = drawn
  obtain ⟨u, later⟩ := drawn
  show (Scalar.checked ((u - Scalar.ofDecimal 5 1) * s.radiusVariation * base) >>= _) = _
  cases Scalar.checked ((u - Scalar.ofDecimal 5 1) * s.radiusVariation * base) <;> rfl

/-- A stream stays a stream. -/
theorem isSome_of_emit (h : s.emit steps i stream w = .ok (p, stream')) :
    stream'.isSome = stream.isSome := by
  obtain ⟨base, varied, -, hvaried, -⟩ := emit_eq_ok_iff.mp h
  cases stream with
  | none =>
    cases hvaried
    rfl
  | some st =>
    rw [variation_some] at hvaried
    obtain ⟨_, -, hpair⟩ := map_eq_ok_iff.mp hvaried
    rw [← (Prod.mk.inj hpair).2, Option.isSome_some, Option.isSome_some]

theorem exists_emit_of_mem (h : s.walk steps rise frequency n i stream w = .ok points)
    (hp : p ∈ points) :
    ∃ j before after w', s.emit steps j before w' = .ok (p, after) ∧
      before.isSome = stream.isSome := by
  induction n generalizing i stream w points with
  | zero =>
    cases h
    cases hp
  | succ n ih =>
    by_cases hstays : Stays frequency i
    · obtain ⟨first, later, w', rest, hfirst, -, hrest, rfl⟩ := (walk_succ_of_stays hstays).mp h
      cases hp with
      | head => exact ⟨i, stream, later, w, hfirst, rfl⟩
      | tail _ hp =>
        obtain ⟨j, before, after, w'', hemit, hsome⟩ := ih hrest hp
        exact ⟨j, before, after, w'', hemit, hsome.trans (isSome_of_emit hfirst)⟩
    · obtain ⟨w', -, hrest⟩ := (walk_succ_of_not_stays hstays).mp h
      exact ih hrest hp

/-- Where every point can be emitted, the whole walk goes through if a thinned one does. -/
theorem exists_walk (h : s.walk steps rise frequency n i stream w = .ok points)
    (hsome : stream'.isSome = stream.isSome)
    (hemit : ∀ j before w', before.isSome = stream.isSome →
      ∃ p after, s.emit steps j before w' = .ok (p, after)) :
    ∃ all, s.walk steps rise 0 n i stream' w = .ok all := by
  induction n generalizing i stream stream' w points with
  | zero => exact ⟨[], rfl⟩
  | succ n ih =>
    obtain ⟨p', later', hp'⟩ := hemit i stream' w hsome
    have hlater' := (isSome_of_emit hp').trans hsome
    by_cases hstays : Stays frequency i
    · obtain ⟨p, later, w', rest, hp, hw', hrest, -⟩ := (walk_succ_of_stays hstays).mp h
      have hlater := isSome_of_emit hp
      obtain ⟨all, hall⟩ := ih hrest (hlater'.trans hlater.symm) fun j before w'' hbefore =>
        hemit j before w'' (hbefore.trans hlater)
      exact ⟨_, (walk_succ_of_stays (stays_zero i)).mpr ⟨_, _, _, _, hp', hw', hall, rfl⟩⟩
    · obtain ⟨w', hw', hrest⟩ := (walk_succ_of_not_stays hstays).mp h
      obtain ⟨all, hall⟩ := ih hrest hlater' hemit
      exact ⟨_, (walk_succ_of_stays (stays_zero i)).mpr ⟨_, _, _, _, hp', hw', hall, rfl⟩⟩

/-! ## Spines -/

/-- What a computed spine was computed of. -/
theorem generate_eq_ok_iff : s.generate = .ok points ↔
    ∃ steps frequency stream rise, s.steps = .ok steps ∧ s.removeFrequency = .ok frequency ∧
      s.stream = .ok stream ∧ s.rise steps.toNat = .ok rise ∧
      s.walk steps.toNat rise frequency steps.toNat 0 stream ⟨Point3.zero, 0⟩ = .ok points := by
  simp only [generate, bind_eq_ok_iff]
  constructor
  · rintro ⟨steps, hsteps, frequency, hfrequency, stream, hstream, rise, hrise, h⟩
    exact ⟨steps, frequency, stream, rise, hsteps, hfrequency, hstream, hrise, h⟩
  · rintro ⟨steps, frequency, stream, rise, hsteps, hfrequency, hstream, hrise, h⟩
    exact ⟨steps, hsteps, frequency, hfrequency, stream, hstream, rise, hrise, h⟩

/-- Radii that do not vary need no stream. -/
theorem stream_eq_none (h : s.stream = .ok stream)
    (hvariation : Scalar.lt 0 s.radiusVariation = false) : stream = none := by
  obtain ⟨amount, hamount, h⟩ := bind_eq_ok_iff.mp h
  have hsame : amount = s.radiusVariation := by
    unfold Scalar.checked at hamount
    split at hamount
    · exact (Except.ok.inj hamount).symm
    · cases hamount
  rw [hsame, if_neg (by simp [hvariation])] at h
  exact (Except.ok.inj h).symm

/-- Is a spine the whole walk less the points that do not stay? The whole walk is that of the same
settings with nothing removed. -/
structure Thinned (s : SpineSettings α) (steps frequency : Int) (points : List (SpinePoint α)) :
    Prop where
  length_eq : points.length = (List.range steps.toNat).countP (fun i => Stays frequency i)
  least_le : ∀ p ∈ points, Scalar.le leastRadius p.radius = true
  length_all : ∀ all, s.unthinned.generate = .ok all → all.length = steps.toNat
  anchors : ∀ all, s.unthinned.generate = .ok all →
    points.map SpinePoint.anchor = (staying frequency 0 all).map SpinePoint.anchor
  unvaried : Scalar.lt 0 s.radiusVariation = false →
    ∀ all, s.unthinned.generate = .ok all → points = staying frequency 0 all

theorem walk_unthinned : s.unthinned.walk steps rise frequency n i stream w
    = s.walk steps rise frequency n i stream w := by
  induction n generalizing i stream w with
  | zero => rfl
  | succ n ih =>
    simp only [walk, ih]
    rfl

/-- What a spine is once the larger of two radii is not below the least one. -/
theorem exists_thinned
    (hleast : ∀ x : α, Scalar.le leastRadius (Scalar.larger leastRadius x) = true)
    (h : s.generate = .ok points) :
    ∃ steps frequency, s.steps = .ok steps ∧ s.removeFrequency = .ok frequency ∧
      s.Thinned steps frequency points := by
  obtain ⟨steps, frequency, stream, rise, hsteps, hfrequency, hstream, hrise, hwalk⟩ :=
    generate_eq_ok_iff.mp h
  have hwhole : ∀ all, s.unthinned.generate = .ok all →
      s.walk steps.toNat rise 0 steps.toNat 0 stream ⟨Point3.zero, 0⟩ = .ok all := by
    intro all hall
    obtain ⟨steps', frequency', stream', rise', hsteps', hfrequency', hstream', hrise', hall⟩ :=
      generate_eq_ok_iff.mp hall
    cases hsteps.symm.trans hsteps'
    cases hfrequency'
    cases hstream.symm.trans hstream'
    cases hrise.symm.trans hrise'
    rwa [walk_unthinned] at hall
  have hagree all hall := staying_walk hwalk (hwhole all hall)
  refine ⟨steps, frequency, hsteps, hfrequency,
    { length_eq := ?length, least_le := ?least, length_all := fun all hall => (hagree all hall).1,
      anchors := fun all hall => (hagree all hall).2.1, unvaried := ?unvaried }⟩
  case length => rw [length_walk hwalk, List.range_eq_range']
  case least =>
    intro p hp
    obtain ⟨j, before, after, w, hemit, -⟩ := exists_emit_of_mem hwalk hp
    obtain ⟨base, varied, -, -, rfl⟩ := emit_eq_ok_iff.mp hemit
    exact hleast _
  case unvaried =>
    intro hvariation all hall
    have hnone := stream_eq_none hstream hvariation
    exact (hagree all hall).2.2 hnone hnone

/-- The whole walk goes through if a thinned one does and every point can be emitted. -/
theorem exists_unthinned (h : s.generate = .ok points)
    (hemit : ∀ stream, s.stream = .ok stream → ∀ steps, s.steps = .ok steps →
      ∀ i before w, before.isSome = stream.isSome →
        ∃ p after, s.emit steps.toNat i before w = .ok (p, after)) :
    ∃ all, s.unthinned.generate = .ok all := by
  obtain ⟨steps, frequency, stream, rise, hsteps, hfrequency, hstream, hrise, hwalk⟩ :=
    generate_eq_ok_iff.mp h
  obtain ⟨all, hall⟩ := exists_walk hwalk rfl (hemit stream hstream steps hsteps)
  exact ⟨all, generate_eq_ok_iff.mpr
    ⟨steps, 0, stream, rise, hsteps, rfl, hstream, hrise, walk_unthinned.trans hall⟩⟩

end Walk

end SpineSettings

/-! ## Floating point -/

/-- A floating point number below another one is at most the other. -/
theorem FloatScalar.le_of_lt {x y : Float} (h : x < y) : x ≤ y := by
  have hcompare : (x.toModel.unpack.compare y.toModel.unpack == some .lt) = true :=
    of_decide_eq_true h
  show decide ((x.toModel.unpack.compare y.toModel.unpack).any Ordering.isLE = true) = true
  rw [eq_of_beq hcompare]
  rfl

namespace SpineSettings

theorem least_le_of_lt {x : Float} (h : Scalar.lt leastRadius x = true) :
    Scalar.le leastRadius x = true :=
  decide_eq_true (FloatScalar.le_of_lt (of_decide_eq_true h))

theorem least_le_larger (x : Float) :
    Scalar.le leastRadius (Scalar.larger leastRadius x) = true := by
  unfold Scalar.larger
  split
  · next h => exact least_le_of_lt h
  · decide +kernel

/-- On floating point numbers every point can be emitted. -/
theorem exists_emit_float (s : SpineSettings Float) (steps i : Nat)
    (stream : Option RandomStream) (w : SpineWalk Float) :
    ∃ p after, s.emit steps i stream w = .ok (p, after) := by
  cases stream with
  | none => exact ⟨_, _, emit_eq_ok_iff.mpr ⟨_, 0, rfl, rfl, rfl⟩⟩
  | some st => exact ⟨_, _, emit_eq_ok_iff.mpr ⟨_, _, rfl, variation_some s st _, rfl⟩⟩

end SpineSettings

/-! ## Numbers as they are given -/

namespace Measure

theorem combine_real_right (onWhole : Int → Int → Int) (onReal : Float → Float → Float)
    (p : Measure) (y : Float) :
    combine onWhole onReal p (real y) = ofResult (p.float.map (fun x => onReal x y)) := by
  cases p with
  | whole i =>
    show ofResult (float (whole i) >>= _) = _
    cases float (whole i) <;> rfl
  | _ => rfl

theorem combine_real_left (onWhole : Int → Int → Int) (onReal : Float → Float → Float)
    (x : Float) (q : Measure) :
    combine onWhole onReal (real x) q = ofResult (q.float.map (onReal x)) := by
  cases q with
  | whole i =>
    show ofResult (float (whole i) >>= _) = _
    cases float (whole i) <;> rfl
  | _ => rfl

/-- What is missing stays missing, whatever it is combined with. -/
theorem checked_combine_missing (onWhole : Int → Int → Int) (onReal : Float → Float → Float)
    (p : Measure) (why : Fault) (m : Measure) :
    Scalar.checked (combine onWhole onReal p (missing why)) ≠ .ok m := by
  cases p <;> nofun

/-- A sum with a weighted number is a number for every weight if it is one for some weight. -/
theorem exists_affine {a d base : Measure} {t : Float}
    (h : Scalar.checked (a + d * real t) = .ok base) :
    ∃ f : Float → Float, ∀ t', Scalar.checked (a + d * real t') = .ok (real (f t')) := by
  have hproduct (t' : Float) : d * real t' = ofResult (d.float.map (· * t')) :=
    combine_real_right _ _ d t'
  have hsum (x : Float) : a + real x = ofResult (a.float.map (· + x)) :=
    combine_real_right _ _ a x
  rw [hproduct] at h
  cases hd : d.float with
  | error why =>
    rw [hd] at h
    exact absurd h (checked_combine_missing _ _ a why base)
  | ok y =>
    rw [hd] at h
    cases ha : a.float with
    | error why =>
      have hmissing := hsum (y * t)
      rw [ha] at hmissing
      cases (congrArg Scalar.checked hmissing).symm.trans h
    | ok x =>
      refine ⟨fun t' => x + y * t', fun t' => ?_⟩
      have hreal := hsum (y * t')
      rw [ha] at hreal
      rw [hproduct, hd]
      exact congrArg Scalar.checked hreal

/-- A product of three is a number whatever the outer factors are, if it is one for some. -/
theorem exists_product {r varied : Measure} {u b : Float}
    (h : Scalar.checked (real u * r * real b) = .ok varied) :
    ∃ f : Float → Float → Float, ∀ u' b',
      Scalar.checked (real u' * r * real b') = .ok (real (f u' b')) := by
  have hproduct (u' : Float) : real u' * r = ofResult (r.float.map (u' * ·)) :=
    combine_real_left _ _ u' r
  rw [hproduct] at h
  cases hr : r.float with
  | error why =>
    rw [hr] at h
    cases h
  | ok x =>
    refine ⟨fun u' b' => u' * x * b', fun u' b' => ?_⟩
    rw [hproduct, hr]
    rfl

end Measure

namespace SpineSettings

open LoftGraph.Measure (real)

variable {s : SpineSettings Measure} {points : List (SpinePoint Measure)}

theorem least_le_larger_measure (m : Measure) :
    Scalar.le leastRadius (Scalar.larger leastRadius m) = true := by
  unfold Scalar.larger
  split
  · next h =>
    -- a measure is compared as the floating point number that it stands for
    cases m <;> exact least_le_of_lt h
  · decide +kernel

theorem exists_progress (steps i : Nat) : ∃ t, (progress steps i : Measure) = real t := by
  unfold progress
  split <;> exact ⟨_, rfl⟩

theorem exists_unit (st : RandomStream) :
    ∃ u, (st.unit : Measure × RandomStream).1 - Scalar.ofDecimal 5 1 = real u := by
  rw [RandomStream.unit]
  generalize st.next = drawn
  exact ⟨_, rfl⟩

/-- One radius is a number if any other one is. -/
theorem exists_emit_measure {steps i : Nat} {before after : Option RandomStream}
    {w : SpineWalk Measure} {p : SpinePoint Measure}
    (h : s.emit steps i before w = .ok (p, after)) (j : Nat) {before' : Option RandomStream}
    (hsome : before'.isSome = before.isSome) (w' : SpineWalk Measure) :
    ∃ p' after', s.emit steps j before' w' = .ok (p', after') := by
  obtain ⟨base, varied, hbase, hvaried, -⟩ := emit_eq_ok_iff.mp h
  obtain ⟨t, ht⟩ := exists_progress steps i
  obtain ⟨t', ht'⟩ := exists_progress steps j
  rw [baseRadius, ht] at hbase
  obtain ⟨f, hf⟩ := Measure.exists_affine hbase
  have hbase' : s.baseRadius steps j = .ok (real (f t')) := by
    rw [baseRadius, ht']
    exact hf t'
  cases (hf t).symm.trans hbase
  cases before' with
  | none => exact ⟨_, _, emit_eq_ok_iff.mpr ⟨_, 0, hbase', rfl, rfl⟩⟩
  | some st' =>
    obtain ⟨st, rfl⟩ := Option.isSome_iff_exists.mp (hsome.symm.trans rfl)
    obtain ⟨u, hu⟩ := exists_unit st
    obtain ⟨u', hu'⟩ := exists_unit st'
    rw [variation_some, hu] at hvaried
    obtain ⟨_, hproduct, -⟩ := map_eq_ok_iff.mp hvaried
    obtain ⟨g, hg⟩ := Measure.exists_product hproduct
    have hvaried' : s.variation (some st') (real (f t'))
        = .ok (real (g u' (f t')), some (st'.unit : Measure × RandomStream).2) := by
      rw [variation_some, hu', hg]
      rfl
    exact ⟨_, _, emit_eq_ok_iff.mpr ⟨_, _, hbase', hvaried', rfl⟩⟩

/-- The whole walk goes through if a point stays. -/
theorem exists_unthinned_measure (h : s.generate = .ok points) (hne : points ≠ []) :
    ∃ all, s.unthinned.generate = .ok all := by
  obtain ⟨p, hp⟩ := List.exists_mem_of_ne_nil points hne
  obtain ⟨steps, frequency, stream, rise, hsteps, -, hstream, -, hwalk⟩ := generate_eq_ok_iff.mp h
  obtain ⟨i, before, after, w, hemit, hbefore⟩ := exists_emit_of_mem hwalk hp
  refine exists_unthinned h fun stream' hstream' steps' hsteps' j before' w' hsome => ?_
  cases hstream.symm.trans hstream'
  cases hsteps.symm.trans hsteps'
  exact exists_emit_measure hemit j (hsome.trans hbefore.symm) w'

end SpineSettings

/-- **Removal thins the walk and does not bend it**. The points of a spine stand, turn and reach as
those of the whole walk do, less the ones whose index is a multiple of the frequency of removal; so
do their radii where these do not vary, and no radius falls below the least one. The whole walk goes
through as well: on floating point numbers always, and on numbers as they are given once a point
stays, for without one no radius is ever looked at. The points that stay are stitched to one another
in their order, which leaves no opening where one was removed; only rings too large to be held are
refused. -/
theorem spine_removal_thins_walk :
    (∀ (s : SpineSettings Measure) points, s.generate = .ok points → ∃ steps frequency,
      s.steps = .ok steps ∧ s.removeFrequency = .ok frequency ∧
      s.Thinned steps frequency points ∧
      (points ≠ [] → ∃ all, s.unthinned.generate = .ok all)) ∧
    (∀ (s : SpineSettings Float) points, s.generate = .ok points → ∃ steps frequency,
      s.steps = .ok steps ∧ s.removeFrequency = .ok frequency ∧
      s.Thinned steps frequency points ∧ ∃ all, s.unthinned.generate = .ok all) ∧
    ∀ (α : Type) [Circular α] (points : List (SpinePoint α)) (n : Nat),
      2 ≤ points.length → 1 ≤ n →
      (∀ why, Spine.mesh points n true = .error why ↔ requireHeld n = .error why) ∧
      ∀ mesh, Spine.mesh points n true = .ok mesh → Spine.Stacked points n mesh := by
  refine ⟨fun s points h => ?_, fun s points h => ?_, fun α _ points n hlength hpos => ?_⟩
  · obtain ⟨steps, frequency, hsteps, hfrequency, hthinned⟩ :=
      SpineSettings.exists_thinned SpineSettings.least_le_larger_measure h
    exact ⟨steps, frequency, hsteps, hfrequency, hthinned,
      SpineSettings.exists_unthinned_measure h⟩
  · obtain ⟨steps, frequency, hsteps, hfrequency, hthinned⟩ :=
      SpineSettings.exists_thinned SpineSettings.least_le_larger h
    exact ⟨steps, frequency, hsteps, hfrequency, hthinned,
      SpineSettings.exists_unthinned h fun _ _ _ _ j before w _ => s.exists_emit_float _ j before w⟩
  · exact ⟨fun why => Spine.mesh_eq_error_iff hpos hlength,
      fun mesh hmesh => Spine.stacked_of_mesh hpos hlength hmesh⟩

/-- A spine of five steps with every second point removed, its radii at random. -/
def everySecondRemoved : SpineSettings Measure :=
  { SpineSettings.standard with
    steps := .ok 5
    startRadius := .whole 15
    spiralAmount := .whole 30
    radiusVariation := .real 0.5
    removeFrequency := .ok 2
    seed := some (Seed.ofInt 7) }

theorem every_second_removal_thins_walk :
    (∃ points all, everySecondRemoved.generate = .ok points ∧
      everySecondRemoved.Thinned 5 2 points ∧ points.length = 2 ∧
      everySecondRemoved.unthinned.generate = .ok all ∧ all.length = 5 ∧
      points.map SpinePoint.anchor = (SpineSettings.staying 2 0 all).map SpinePoint.anchor) ∧
    2 ≤ twoPoints.length ∧
    ∃ mesh, Spine.mesh twoPoints 3 true = .ok mesh ∧ Spine.Stacked twoPoints 3 mesh ∧
      mesh.triangleCount = 6 := by
  obtain ⟨hmeasured, -, hmesh⟩ := spine_removal_thins_walk
  have hgenerate : everySecondRemoved.generate.toOption.isSome = true := by decide +kernel
  obtain ⟨points, hpoints⟩ : ∃ points, everySecondRemoved.generate = .ok points := by
    cases h : everySecondRemoved.generate with
    | ok points => exact ⟨points, rfl⟩
    | error why =>
      rw [h] at hgenerate
      cases hgenerate
  obtain ⟨steps, frequency, hsteps, hfrequency, hthinned, hwhole⟩ := hmeasured _ points hpoints
  cases hsteps
  cases hfrequency
  have hlength : points.length = 2 := hthinned.length_eq
  obtain ⟨all, hall⟩ := hwhole (List.ne_nil_of_length_pos (by omega))
  have hspine : ∃ mesh, Spine.mesh twoPoints 3 true = .ok mesh := ⟨_, rfl⟩
  obtain ⟨mesh, hspine⟩ := hspine
  have hstacked := (hmesh Float twoPoints 3 (Nat.le_refl 2) (by decide)).2 mesh hspine
  exact ⟨⟨points, all, hpoints, hthinned, hlength, hall, hthinned.length_all all hall,
    hthinned.anchors all hall⟩, Nat.le_refl 2, mesh, hspine, hstacked, hstacked.triangleCount⟩

end LoftGraph
