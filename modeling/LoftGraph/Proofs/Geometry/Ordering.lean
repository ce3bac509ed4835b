import LoftGraph.Proofs.Geometry.Convex

/-!
# The order of sections

* Over an ordered field the curves that have a name ease every height (`exists_crossSections`).
* Ordering by area loses nothing (`byDescendingArea_perm`), puts no outline behind a smaller one
  (`pairwise_byDescendingArea`) and keeps equally large ones as they come
  (`filter_byDescendingArea`).  So an outline is put before another exactly if it outranks it
  (`pair_sublist_byDescendingArea_iff`).
* The order is that of the outlines before they are resampled.  The sections have it exactly if
  resampling lets no outline be overtaken by one that it outranks (`sorted_areas_descend_iff`).
  A convex outline overtakes none that keeps its vertices (`Polygon.Convex.area_resample_le`), but a
  square that gets one more may be overtaken by a pentagon (`resampled_square_is_overtaken`).
-/

namespace LoftGraph

attribute [-instance] Scalar.toAdd Scalar.toSub Scalar.toMul Scalar.toDiv Scalar.toNeg
  Scalar.instOfNatScalar

namespace Outlines

/-- Of two different entries of a list one stands before the other. -/
theorem pair_sublist_or {β : Type} {xs : List β} {a b : β} (ha : a ∈ xs) (hb : b ∈ xs)
    (hne : a ≠ b) : [a, b].Sublist xs ∨ [b, a].Sublist xs := by
  obtain ⟨before, after, rfl⟩ := List.append_of_mem ha
  rcases List.mem_append.mp hb with hb | hb
  · exact .inr ((List.singleton_sublist.mpr hb).append
      (List.singleton_sublist.mpr List.mem_cons_self))
  · have hb := (List.mem_cons.mp hb).resolve_left hne.symm
    exact .inl (((List.singleton_sublist.mpr hb).cons_cons a).trans
      (List.sublist_append_right before _))

section Arranged

variable {α : Type} [Scalar α]

/-- The outlines there are, none running clockwise. -/
def turned (shapes : Outlines α) : List (Polygon α) :=
  shapes.filterMap (Option.map Polygon.ensureCounterClockwise)

theorem arranged_sorted (shapes : Outlines α) :
    arranged shapes false = (byDescendingArea shapes.turned).map some := rfl

theorem arranged_kept (shapes : Outlines α) :
    arranged shapes true = shapes.map (Option.map Polygon.ensureCounterClockwise) := rfl

end Arranged

end Outlines

/-- Are heights eased by a curve that has a name, if they are eased at all? -/
def SectionSettings.Named {α : Type} [Scalar α] (settings : SectionSettings α) : Prop :=
  ∃ easing : Option Easing, settings.easing = easing.map Easing.apply

namespace Outlines

variable {K : Type} [Field K] [LinearOrder K] [Gauge K]

/-! ## Sections over an ordered field -/

theorem exists_power (x : K) (n : Nat) : ∃ y : K, Easing.power x n = .ok y := by
  refine ⟨_, if_neg ?_⟩
  rw [Scalar.infinite_eq, Bool.and_false]
  exact Bool.false_ne_true

/-- Nothing leaves the range of a field. -/
theorem exists_apply (e : Easing) (t : K) : ∃ u : K, e.apply t = .ok u := by
  cases e with
  | linear => exact ⟨t, rfl⟩
  | easeOut =>
    obtain ⟨cube, hcube⟩ := exists_power (K := K) _ 3
    exact ⟨_, bind_eq_ok_iff.mpr ⟨cube, hcube, rfl⟩⟩
  | easeInOut =>
    simp only [Easing.apply]
    split
    · exact ⟨_, rfl⟩
    · obtain ⟨square, hsquare⟩ := exists_power (K := K) _ 2
      exact ⟨_, bind_eq_ok_iff.mpr ⟨square, hsquare, rfl⟩⟩

theorem exists_easedHeight (easing : Option Easing) (count index : Nat) :
    ∃ t : K, easedHeight (easing.map Easing.apply) count index = .ok t := by
  cases easing with
  | none => exact ⟨_, rfl⟩
  | some e => exact exists_apply e _

/-- Sections come about with a curve that has a name, and with none. -/
theorem exists_crossSections (shapes : Outlines K) (settings : SectionSettings K)
    (h : settings.Named) : ∃ stack, crossSections shapes settings = .ok stack := by
  obtain ⟨easing, heasing⟩ := h
  refine exists_crossSections_iff.mpr fun i _ => ?_
  rw [heasing]
  exact exists_easedHeight easing _ i

/-! ## Ordering by area -/

variable {ps : List (Polygon K)} {p q : Polygon K}

/-- Does an outline come before another when they are ordered by area: is it larger, or as large and
given first? -/
def Outranks (ps : List (Polygon K)) (p q : Polygon K) : Prop :=
  (p ∈ ps ∧ q ∈ ps ∧ q.area < p.area) ∨ ([p, q].Sublist ps ∧ q.area = p.area)

instance Outranks.decidable : Decidable (Outranks ps p q) :=
  inferInstanceAs (Decidable (_ ∨ _))

theorem Outranks.left_mem (h : Outranks ps p q) : p ∈ ps :=
  h.elim And.left fun h => h.1.subset (.head _)

theorem Outranks.right_mem (h : Outranks ps p q) : q ∈ ps :=
  h.elim (fun h => h.2.1) fun h => h.1.subset (.tail _ (.head _))

theorem Outranks.area_le (h : Outranks ps p q) : q.area ≤ p.area :=
  h.elim (fun h => h.2.2.le) fun h => h.2.le

theorem descends_trans (p q r : Polygon K) (hpq : decide (q.area ≤ p.area) = true)
    (hqr : decide (r.area ≤ q.area) = true) : decide (r.area ≤ p.area) = true :=
  decide_eq_true ((of_decide_eq_true hqr).trans (of_decide_eq_true hpq))

theorem descends_total (p q : Polygon K) :
    (decide (q.area ≤ p.area) || decide (p.area ≤ q.area)) = true := by
  simpa using le_total q.area p.area

variable [IsStrictOrderedRing K]

theorem byDescendingArea_eq (ps : List (Polygon K)) :
    byDescendingArea ps = ps.mergeSort fun p q => decide (q.area ≤ p.area) := by
  have hdefined : (ps.map (fun p => (-p.area, p))).any (fun e => Scalar.undefined e.1) = false := by
    simp
  have hkeyed : (ps.map (fun p => (-p.area, p))).map Prod.snd = ps := by
    rw [List.map_map]
    exact List.map_id _
  simp only [byDescendingArea]
  rw [if_neg (by rw [hdefined]; exact Bool.false_ne_true)]
  refine (List.map_mergeSort ?_).trans (congrArg (List.mergeSort · _) hkeyed)
  intro e he e' he'
  obtain ⟨p, -, rfl⟩ := List.mem_map.mp he
  obtain ⟨q, -, rfl⟩ := List.mem_map.mp he'
  rw [Scalar.lt_eq, ← decide_not, decide_eq_decide, not_lt]
  exact neg_le_neg_iff

theorem pairwise_byDescendingArea (ps : List (Polygon K)) :
    (byDescendingArea ps).Pairwise fun p q => q.area ≤ p.area := by
  rw [byDescendingArea_eq]
  exact (List.pairwise_mergeSort descends_trans descends_total ps).imp of_decide_eq_true

/-- Outlines that descend already stay as they are. -/
theorem byDescendingArea_of_pairwise (h : ps.Pairwise fun p q => q.area ≤ p.area) :
    byDescendingArea ps = ps := by
  rw [byDescendingArea_eq]
  exact List.mergeSort_of_pairwise (h.imp decide_eq_true)

/-- Equally large outlines keep their order. -/
theorem filter_byDescendingArea (ps : List (Polygon K)) (a : K) :
    (byDescendingArea ps).filter (fun p => p.area = a) = ps.filter (fun p => p.area = a) := by
  have hequal : (ps.filter (fun p => p.area = a)).Pairwise
      fun p q => decide (q.area ≤ p.area) = true := by
    refine List.pairwise_of_forall_mem_list fun p hp q hq => decide_eq_true ?_
    rw [of_decide_eq_true (List.mem_filter.mp hp).2, of_decide_eq_true (List.mem_filter.mp hq).2]
  have hkept : (ps.filter (fun p => p.area = a)).Sublist (byDescendingArea ps) := by
    rw [byDescendingArea_eq]
    exact List.sublist_mergeSort descends_trans descends_total hequal List.filter_sublist
  have hfiltered := hkept.filter (fun p => p.area = a)
  simp only [List.filter_filter, Bool.and_self] at hfiltered
  exact (hfiltered.eq_of_length ((byDescendingArea_perm ps).filter _).length_eq.symm).symm

theorem pair_sublist_byDescendingArea_iff :
    [p, q].Sublist (byDescendingArea ps) ↔ Outranks ps p q := by
  have hkept : q.area = p.area → [p, q].filter (fun r => r.area = p.area) = [p, q] := by
    intro harea
    simp [harea]
  constructor
  · intro h
    have hdescends := List.pairwise_iff_forall_sublist.mp (pairwise_byDescendingArea ps) h
    rcases hdescends.lt_or_eq with hlt | heq
    · refine .inl ⟨?_, ?_, hlt⟩
      · exact (byDescendingArea_perm ps).mem_iff.mp (h.subset (.head _))
      · exact (byDescendingArea_perm ps).mem_iff.mp (h.subset (.tail _ (.head _)))
    · have hfiltered := h.filter (fun r => r.area = p.area)
      rw [hkept heq, filter_byDescendingArea] at hfiltered
      exact .inr ⟨hfiltered.trans List.filter_sublist, heq⟩
  · intro h
    rcases h with ⟨hp, hq, hlt⟩ | ⟨h, heq⟩
    · have hmem : ∀ r ∈ ps, r ∈ byDescendingArea ps :=
        fun r hr => (byDescendingArea_perm ps).mem_iff.mpr hr
      refine (pair_sublist_or (hmem p hp) (hmem q hq) fun heq => ?_).resolve_right fun h => ?_
      · rw [heq] at hlt
        exact lt_irrefl _ hlt
      · -- the larger one does not stand behind
        exact not_le.mpr hlt (List.pairwise_iff_forall_sublist.mp (pairwise_byDescendingArea ps) h)
    · have hfiltered := h.filter (fun r => r.area = p.area)
      rw [hkept heq, ← filter_byDescendingArea] at hfiltered
      exact hfiltered.trans List.filter_sublist

end Outlines

/-! ## Sections as they are given -/

section Sections

open Outlines

variable {K : Type} [Field K] [LinearOrder K] [Gauge K] [IsStrictOrderedRing K]

/-- **Sections keep the outlines.** Without normalization sections come about exactly if every
height can be eased, as it is by a curve that has a name. Sorted, they have the outlines that there
are, turned counter-clockwise, each as often as it is given, none behind a smaller one and equally
large ones as they are given. In the order that is kept, every outline has its section, which is a
gap where there is no outline or one without vertices. Turning leaves a polygon or reverses it,
makes it counter-clockwise, keeps the amount of its area and does nothing more the second time. -/
theorem sections_keep_outlines (shapes : Outlines K) (settings : SectionSettings K)
    (hplain : settings.normalize = false) :
    ((∃ stack, crossSections shapes settings = .ok stack) ↔
      ∀ i < (arranged shapes settings.preserveOrder).length, ∃ t : K,
        easedHeight settings.easing (arranged shapes settings.preserveOrder).length i = .ok t) ∧
    (settings.Named → ∃ stack, crossSections shapes settings = .ok stack) ∧
    (∀ stack, crossSections shapes settings = .ok stack →
      (settings.preserveOrder = false →
        (stack.sections.map CrossSection.outer).Perm shapes.turned ∧
        (stack.sections.map CrossSection.outer).Pairwise (fun p q => q.area ≤ p.area) ∧
        ∀ a, (stack.sections.map CrossSection.outer).filter (fun p => p.area = a)
          = shapes.turned.filter (fun p => p.area = a)) ∧
      (settings.preserveOrder = true →
        stack.sections.length = shapes.length ∧
        ∀ (i : Nat) (shape : Option (Polygon K)), shapes[i]? = some shape →
          ∃ s : CrossSection K, stack.sections[i]? = some s ∧
            (s.isGap = true ↔ shape = none ∨ shape = some []) ∧
            ∀ p : Polygon K, shape = some p → s.outer = p.ensureCounterClockwise)) ∧
    ∀ p : Polygon K,
      (p.ensureCounterClockwise = p ∨ p.ensureCounterClockwise = p.reverse) ∧
      0 ≤ p.ensureCounterClockwise.signedArea ∧
      p.ensureCounterClockwise.area = p.area ∧
      p.ensureCounterClockwise.ensureCounterClockwise = p.ensureCounterClockwise := by
  refine ⟨exists_crossSections_iff, exists_crossSections _ _, fun stack hstack => ?_,
    fun p => ⟨p.ensureCounterClockwise_eq_or, p.signedArea_ensureCounterClockwise_nonneg,
      p.area_ensureCounterClockwise, p.ensureCounterClockwise_idem⟩⟩
  have houter := outer_of_crossSections hstack
  simp only [hplain, Bool.false_eq_true, if_false] at houter
  refine ⟨fun hsorted => ?_, fun hkept => ?_⟩
  · have hsections : stack.sections.map CrossSection.outer = byDescendingArea shapes.turned := by
      rw [houter, hsorted, arranged_sorted, List.map_map]
      exact List.map_id _
    rw [hsections]
    exact ⟨byDescendingArea_perm _, pairwise_byDescendingArea _, filter_byDescendingArea _⟩
  · rw [hkept, arranged_kept, List.map_map] at houter
    constructor
    · have hlength := congrArg List.length houter
      rwa [List.length_map, List.length_map] at hlength
    · intro i shape hshape
      have hi := congrArg (·[i]?) houter
      simp only [List.getElem?_map, hshape, Option.map_some] at hi
      obtain ⟨s, hs, hsouter⟩ := Option.map_eq_some_iff.mp hi
      refine ⟨s, hs, ?_, ?_⟩
      · rw [CrossSection.isGap, hsouter]
        cases shape with
        | none => simp
        | some p => simp [isEmpty_ensureCounterClockwise]
      · intro p hp
        rw [hsouter, hp]
        rfl

/-- A square that runs clockwise, a place that was left empty, a triangle, a rectangle as large as
the square and an outline without vertices. -/
def scatteredOutlines : Outlines ℚ :=
  [some [⟨0, 0⟩, ⟨0, 2⟩, ⟨2, 2⟩, ⟨2, 0⟩], none, some [⟨0, 0⟩, ⟨4, 0⟩, ⟨0, 4⟩],
    some [⟨0, 0⟩, ⟨4, 0⟩, ⟨4, 1⟩, ⟨0, 1⟩], some []]

theorem scattered_sections_keep_outlines : ∃ sorted kept,
    SectionSettings.normalize (α := ℚ) ⟨some (Easing.apply .easeOut), false, false⟩ = false ∧
    crossSections scatteredOutlines ⟨some (Easing.apply .easeOut), false, false⟩ = .ok sorted ∧
    (sorted.sections.map CrossSection.outer).Perm
      [[⟨2, 0⟩, ⟨2, 2⟩, ⟨0, 2⟩, ⟨0, 0⟩], [⟨0, 0⟩, ⟨4, 0⟩, ⟨0, 4⟩],
        [⟨0, 0⟩, ⟨4, 0⟩, ⟨4, 1⟩, ⟨0, 1⟩], []] ∧
    (sorted.sections.map CrossSection.outer).Pairwise (fun p q => q.area ≤ p.area) ∧
    (sorted.sections.map CrossSection.outer).filter (fun p => p.area = 4) =
      [[⟨2, 0⟩, ⟨2, 2⟩, ⟨0, 2⟩, ⟨0, 0⟩], [⟨0, 0⟩, ⟨4, 0⟩, ⟨4, 1⟩, ⟨0, 1⟩]] ∧
    SectionSettings.normalize (α := ℚ) ⟨some fun t => .ok (t * t), false, true⟩ = false ∧
    crossSections scatteredOutlines ⟨some fun t => .ok (t * t), false, true⟩ = .ok kept ∧
    kept.sections.length = 5 ∧
    (∃ s, kept.sections[0]? = some s ∧ s.outer = [⟨2, 0⟩, ⟨2, 2⟩, ⟨0, 2⟩, ⟨0, 0⟩]) ∧
    (∃ s, kept.sections[1]? = some s ∧ s.isGap = true) ∧
    ∃ s, kept.sections[4]? = some s ∧ s.isGap = true := by
  obtain ⟨-, hnamed, hordered, -⟩ :=
    sections_keep_outlines scatteredOutlines ⟨some (Easing.apply .easeOut), false, false⟩ rfl
  obtain ⟨heased, -, hplaces, -⟩ :=
    sections_keep_outlines scatteredOutlines ⟨some fun t => .ok (t * t), false, true⟩ rfl
  obtain ⟨sorted, hsorted⟩ := hnamed ⟨some .easeOut, rfl⟩
  obtain ⟨kept, hkept⟩ := heased.mpr fun _ _ => ⟨_, rfl⟩
  obtain ⟨hperm, hdescends, hequal⟩ := (hordered sorted hsorted).1 rfl
  obtain ⟨hlength, hplaces⟩ := (hplaces kept hkept).2 rfl
  obtain ⟨square, hsquare, -, hturned⟩ := hplaces 0 _ rfl
  obtain ⟨removed, hremoved, hremovedGap, -⟩ := hplaces 1 _ rfl
  obtain ⟨bare, hbare, hbareGap, -⟩ := hplaces 4 _ rfl
  refine ⟨sorted, kept, rfl, hsorted, ?_, hdescends, ?_, rfl, hkept, hlength,
    ⟨square, hsquare, ?_⟩, ⟨removed, hremoved, hremovedGap.mpr (.inl rfl)⟩,
    ⟨bare, hbare, hbareGap.mpr (.inr rfl)⟩⟩
  · exact hperm.trans (.of_eq (by decide +kernel))
  · exact (hequal 4).trans (by decide +kernel)
  · exact (hturned _ rfl).trans (by decide +kernel)

/-! ## Areas after resampling -/

/-- **The areas of sorted sections descend unless resampling lets an outline be overtaken.** Sorted
sections come about exactly if every height can be eased, as it is by a curve that has a name. Their
areas descend exactly if they are not resampled or if, after it, no outline has less area than one
that it outranked before. In particular they do if every outline that outranks another one has the
common count already, and the other one has it too or is convex: a convex outline is never larger
after resampling. -/
theorem sorted_areas_descend_iff (shapes : Outlines K) (settings : SectionSettings K)
    (hsorted : settings.preserveOrder = false) :
    ((∃ stack, crossSections shapes settings = .ok stack) ↔
      ∀ i < (arranged shapes false).length, ∃ t : K,
        easedHeight settings.easing (arranged shapes false).length i = .ok t) ∧
    (settings.Named → ∃ stack, crossSections shapes settings = .ok stack) ∧
    ∀ stack, crossSections shapes settings = .ok stack →
      ((stack.sections.map CrossSection.outer).Pairwise (fun p q => q.area ≤ p.area) ↔
        settings.normalize = false ∨ ∀ p q, Outranks shapes.turned p q →
          (q.resample (largestCount shapes)).area ≤ (p.resample (largestCount shapes)).area) ∧
      ((∀ p q, Outranks shapes.turned p q →
          (p = [] ∨ p.length = max 3 (largestCount shapes)) ∧
          (q.length = max 3 (largestCount shapes) ∨ q.Convex)) →
        (stack.sections.map CrossSection.outer).Pairwise (fun p q => q.area ≤ p.area)) := by
  refine ⟨hsorted ▸ exists_crossSections_iff, exists_crossSections _ _, fun stack hstack => ?_⟩
  have houter := outer_of_crossSections hstack
  rw [hsorted, arranged_sorted, List.map_map] at houter
  have hdescends : (stack.sections.map CrossSection.outer).Pairwise (fun p q => q.area ≤ p.area) ↔
      settings.normalize = false ∨ ∀ p q, Outranks shapes.turned p q →
        (q.resample (largestCount shapes)).area ≤ (p.resample (largestCount shapes)).area := by
    rw [houter, List.pairwise_map]
    cases settings.normalize with
    | false => exact iff_of_true (pairwise_byDescendingArea _) (.inl rfl)
    | true =>
      rw [List.pairwise_iff_forall_sublist]
      simp only [pair_sublist_byDescendingArea_iff, Bool.true_eq_false, false_or]
      rfl
  refine ⟨hdescends, fun hshapes => hdescends.mpr (.inr fun p q hrank => ?_)⟩
  obtain ⟨hp, hq⟩ := hshapes p q hrank
  rw [← resampleCount_ofNat] at hp hq
  rw [resample_of_length hp]
  rcases hq with hcount | hconvex
  · rw [resample_of_length (.inr hcount)]
    exact hrank.area_le
  · exact (hconvex.area_resample_le _).trans hrank.area_le

/-- A triangle that runs clockwise, a place that was left empty and a hexagon. -/
def hexagonFirst : Outlines ℚ :=
  [some [⟨0, 0⟩, ⟨0, 4⟩, ⟨4, 0⟩], none,
    some [⟨0, 0⟩, ⟨4, 0⟩, ⟨7, 4⟩, ⟨7, 8⟩, ⟨3, 8⟩, ⟨0, 4⟩]]

theorem resampled_triangle_stays_behind :
    SectionSettings.preserveOrder (α := ℚ) ⟨some (Easing.apply .easeInOut), true, false⟩ = false ∧
    ∃ stack, crossSections hexagonFirst ⟨some (Easing.apply .easeInOut), true, false⟩ = .ok stack ∧
      (stack.sections.map CrossSection.outer).Pairwise (fun p q => q.area ≤ p.area) := by
  obtain ⟨-, hnamed, hareas⟩ :=
    sorted_areas_descend_iff hexagonFirst ⟨some (Easing.apply .easeInOut), true, false⟩ rfl
  obtain ⟨stack, hstack⟩ := hnamed ⟨some .easeInOut, rfl⟩
  obtain ⟨-, hdescends⟩ := hareas stack hstack
  have hshapes : ∀ p ∈ hexagonFirst.turned, ∀ q ∈ hexagonFirst.turned,
      Outranks hexagonFirst.turned p q →
        (p = [] ∨ p.length = max 3 (largestCount hexagonFirst)) ∧
        (q.length = max 3 (largestCount hexagonFirst) ∨ q.Convex) := by
    decide +kernel
  exact ⟨rfl, stack, hstack, hdescends fun p q hrank =>
    hshapes p hrank.left_mem q hrank.right_mem hrank⟩

/-- A square and a pentagon that is a little smaller. -/
def closeOutlines : Outlines ℚ :=
  [some [⟨0, 0⟩, ⟨10, 0⟩, ⟨10, 10⟩, ⟨0, 10⟩], some [⟨0, 0⟩, ⟨9, 0⟩, ⟨10, 5⟩, ⟨9, 10⟩, ⟨0, 10⟩]]

/-- The square loses its corners when it gets a fifth vertex, and the pentagon keeps its own. -/
theorem resampled_square_is_overtaken :
    ∃ stack, crossSections closeOutlines ⟨none, true, false⟩ = .ok stack ∧
      stack.sections.map (fun s => s.outer.area) = [80, 95] ∧
      ¬ (stack.sections.map CrossSection.outer).Pairwise (fun p q => q.area ≤ p.area) := by
  obtain ⟨stack, hstack⟩ := exists_crossSections closeOutlines ⟨none, true, false⟩ ⟨none, rfl⟩
  have houter := outer_of_crossSections hstack
  have hdescending : byDescendingArea closeOutlines.turned = closeOutlines.turned :=
    byDescendingArea_of_pairwise (by decide +kernel)
  have hsections : stack.sections.map CrossSection.outer =
      [[⟨0, 0⟩, ⟨8, 0⟩, ⟨10, 6⟩, ⟨6, 10⟩, ⟨0, 8⟩],
        [⟨0, 0⟩, ⟨9, 0⟩, ⟨10, 5⟩, ⟨9, 10⟩, ⟨0, 10⟩]] := by
    rw [houter, arranged_sorted, hdescending]
    decide +kernel
  refine ⟨stack, hstack, ?_, ?_⟩
  · have hareas := congrArg (List.map Polygon.area) hsections
    rw [List.map_map] at hareas
    exact hareas.trans (by decide +kernel)
  · rw [hsections]
    decide +kernel

end Sections

end LoftGraph
