import LoftGraph.Proofs.Geometry.Contents
import LoftGraph.Geometry.Hole

/-!
# Normalized sections always stitch

* Resampling gives every outline that has vertices the largest count among them, but no less than
  three (`outer_of_normalized`). Neither the order of the sections nor resampling makes or fills a
  gap (`countP_nonGap`).
* A shrunk outline keeps its count, so the holes that are added have the common count too
  (`Uniform.addHoles`), and rings of one tube differ in their counts nowhere
  (`Uniform.not_mismatched`).
-/

namespace LoftGraph

open Loft

variable {α : Type}

/-! ## Counts of outlines -/

namespace Outlines

/-- Has the outline vertices? -/
def solid (s : Option (Polygon α)) : Bool := !(s.getD []).isEmpty

theorem largestCount_le_iff {shapes : Outlines α} {n : Nat} :
    largestCount shapes ≤ n ↔ ∀ s ∈ shapes, (s.getD []).length ≤ n := by
  rw [largestCount, foldl_max_le_iff, List.forall_mem_map]
  exact and_iff_right (Nat.zero_le n)

theorem length_le_largestCount {shapes : Outlines α} {s : Option (Polygon α)} (h : s ∈ shapes) :
    (s.getD []).length ≤ largestCount shapes :=
  largestCount_le_iff.mp (Nat.le_refl _) s h

variable [Scalar α]

theorem byDescendingArea_perm (ps : List (Polygon α)) : (byDescendingArea ps).Perm ps := by
  have hkeyed : (ps.map (fun p => (-p.area, p))).map Prod.snd = ps := by
    rw [List.map_map]
    exact List.map_id _
  rw [byDescendingArea]
  refine List.Perm.trans (List.Perm.map Prod.snd ?_) (.of_eq hkeyed)
  split
  · exact StableOrder.sort_perm _ _
  · exact List.mergeSort_perm _ _

theorem mem_arranged {shapes : Outlines α} {p : Polygon α} {preserveOrder : Bool} :
    some p ∈ arranged shapes preserveOrder ↔
      ∃ q, some q ∈ shapes ∧ q.ensureCounterClockwise = p := by
  unfold arranged
  split
  · simp
  · simp [(byDescendingArea_perm _).mem_iff]

/-- Arranging the outlines keeps their vertices. -/
theorem largestCount_arranged (shapes : Outlines α) (preserveOrder : Bool) :
    largestCount (arranged shapes preserveOrder) = largestCount shapes := by
  have hsolid : ∀ {shapes : Outlines α} {n : Nat}, largestCount shapes ≤ n ↔
      ∀ p, some p ∈ shapes → p.length ≤ n := by
    intro shapes n
    rw [largestCount_le_iff]
    constructor
    · exact fun h p hp => h _ hp
    · intro h s hs
      cases s with
      | none => exact Nat.zero_le n
      | some p => exact h p hs
  refine Nat.le_antisymm (hsolid.mpr fun p hp => ?_) (hsolid.mpr fun p hp => ?_)
  · obtain ⟨q, hq, rfl⟩ := mem_arranged.mp hp
    rw [q.length_ensureCounterClockwise]
    exact length_le_largestCount hq
  · rw [← p.length_ensureCounterClockwise]
    exact length_le_largestCount (mem_arranged.mpr ⟨p, hp, rfl⟩)

omit [Scalar α] in
theorem solid_map {f : Polygon α → Polygon α} {s : Option (Polygon α)}
    (h : ∀ p, s = some p → (f p).isEmpty = p.isEmpty) : solid (s.map f) = solid s := by
  cases s with
  | none => rfl
  | some p => exact congrArg Bool.not (h p rfl)

theorem isEmpty_ensureCounterClockwise (p : Polygon α) :
    p.ensureCounterClockwise.isEmpty = p.isEmpty := by
  rcases p.ensureCounterClockwise_eq_or with h | h <;> simp [h]

theorem isEmpty_resample (p : Polygon α) (count : Int) :
    (p.resample count).isEmpty = p.isEmpty := by
  cases p with
  | nil => rfl
  | cons v rest =>
    refine List.isEmpty_eq_false_iff.mpr (List.ne_nil_of_length_pos ?_)
    rw [Polygon.length_resample (List.cons_ne_nil v rest)]
    simp only [Polygon.resampleCount]
    omega

theorem resampleCount_ofNat (n : Nat) : Polygon.resampleCount n = max 3 n := by
  unfold Polygon.resampleCount
  omega

/-- A polygon that has the count already is kept. -/
theorem resample_of_length {p : Polygon α} {count : Int}
    (h : p = [] ∨ p.length = Polygon.resampleCount count) : p.resample count = p := by
  cases p with
  | nil => rfl
  | cons first rest => exact if_pos (h.resolve_left (List.cons_ne_nil first rest))

/-- Arranging makes and fills no gaps, apart from the ones that are dropped. -/
theorem countP_solid_arranged (shapes : Outlines α) (preserveOrder : Bool) :
    (arranged shapes preserveOrder).countP solid = shapes.countP solid := by
  unfold arranged
  split
  · rw [List.countP_map]
    refine List.countP_congr fun s _ => ?_
    rw [Function.comp_apply, solid_map fun p _ => isEmpty_ensureCounterClockwise p]
  · rw [List.countP_map, (byDescendingArea_perm _).countP_eq, List.countP_filterMap]
    refine List.countP_congr fun s _ => ?_
    cases s with
    | none => simp [solid]
    | some p => simp [solid, isEmpty_ensureCounterClockwise]

/-- The outlines resampled to the largest count among them, if there is something to resample. -/
def normalized (shapes : Outlines α) : Outlines α :=
  if 0 < largestCount shapes then resampled shapes (largestCount shapes) else shapes

theorem length_of_mem_normalized {shapes : Outlines α} {s : Option (Polygon α)}
    (h : s ∈ normalized shapes) (hsolid : solid s = true) :
    (s.getD []).length = max 3 (largestCount shapes) := by
  unfold normalized at h
  split at h
  · obtain ⟨entry, -, rfl⟩ := List.mem_map.mp h
    cases entry with
    | none => cases hsolid
    | some p =>
      have hne : p ≠ [] := by
        rintro rfl
        cases hsolid
      refine (Polygon.length_resample hne _).trans ?_
      simp only [Polygon.resampleCount]
      omega
  · next hnone =>
    -- without vertices there is no outline that has some
    have hlength : (s.getD []).length = 0 :=
      Nat.eq_zero_of_le_zero (Nat.le_trans (length_le_largestCount h) (Nat.not_lt.mp hnone))
    rw [solid, List.length_eq_zero_iff.mp hlength] at hsolid
    cases hsolid

theorem countP_solid_normalized (shapes : Outlines α) :
    (normalized shapes).countP solid = shapes.countP solid := by
  unfold normalized
  split
  · rw [resampled, List.countP_map]
    refine List.countP_congr fun s _ => ?_
    rw [Function.comp_apply, solid_map fun p _ => isEmpty_resample p _]
  · rfl

theorem length_normalized (shapes : Outlines α) : (normalized shapes).length = shapes.length := by
  unfold normalized
  split
  · exact List.length_map _
  · rfl

/-- The outlines of the sections, in their order and with the vertices they have there. -/
def sized (shapes : Outlines α) (settings : SectionSettings α) : Outlines α :=
  if settings.normalize then normalized (arranged shapes settings.preserveOrder)
  else arranged shapes settings.preserveOrder

theorem length_sized (shapes : Outlines α) (settings : SectionSettings α) :
    (sized shapes settings).length = (arranged shapes settings.preserveOrder).length := by
  unfold sized
  split
  · exact length_normalized _
  · rfl

theorem sized_of_normalize {shapes : Outlines α} {settings : SectionSettings α}
    (h : settings.normalize = true) :
    sized shapes settings = normalized (arranged shapes settings.preserveOrder) := if_pos h

/-- The outlines as they are looked at when sections are made. -/
theorem sized_eq (shapes : Outlines α) (settings : SectionSettings α) :
    sized shapes settings =
      if settings.normalize && 0 < largestCount (arranged shapes settings.preserveOrder) then
        resampled (arranged shapes settings.preserveOrder)
          (largestCount (arranged shapes settings.preserveOrder))
      else arranged shapes settings.preserveOrder := by
  rw [sized, normalized]
  cases settings.normalize <;> simp

theorem getD_normalized (shapes : Outlines α) :
    (normalized shapes).map (fun s => s.getD []) =
      shapes.map (fun s => (s.getD []).resample (largestCount shapes)) := by
  unfold normalized
  split
  · rw [resampled, List.map_map]
    refine List.map_congr_left fun s _ => ?_
    cases s <;> rfl
  · next hnone =>
    refine List.map_congr_left fun s hs => ?_
    have hempty : s.getD [] = [] := List.eq_nil_of_length_eq_zero
      (Nat.eq_zero_of_le_zero (Nat.le_trans (length_le_largestCount hs) (Nat.not_lt.mp hnone)))
    rw [hempty, Polygon.resample_nil]

/-- The outlines of the sections are the ones that were arranged, resampled if they are to be. -/
theorem getD_sized (shapes : Outlines α) (settings : SectionSettings α) :
    (sized shapes settings).map (fun s => s.getD []) =
      (arranged shapes settings.preserveOrder).map fun s =>
        if settings.normalize then (s.getD []).resample (largestCount shapes) else s.getD [] := by
  unfold sized
  split
  · rw [getD_normalized, largestCount_arranged]
  · rfl

theorem outer_of_placed {shapes : Outlines α} {easing : Option (α → Except Fault α)}
    {sections : List (CrossSection α)} (h : placed shapes easing = .ok sections) :
    sections.map CrossSection.outer = shapes.map (fun s => s.getD []) ∧
      ∀ s ∈ sections, s.holes = [] := by
  constructor
  · have houter := map_eq_map_of_mapM (k := fun entry => entry.1.getD []) (l := CrossSection.outer)
      h fun entry s hs => by
        obtain ⟨t, -, hs⟩ := bind_eq_ok_iff.mp hs
        cases hs
        rfl
    have hcomp : (fun entry : Option (Polygon α) × Nat => entry.1.getD [])
        = (fun s => s.getD []) ∘ Prod.fst := rfl
    rw [← houter, hcomp, ← List.map_map, List.zipIdx_map_fst]
  · intro s hs
    obtain ⟨entry, -, hentry⟩ := exists_of_mem_mapM h hs
    obtain ⟨t, -, hentry⟩ := bind_eq_ok_iff.mp hentry
    cases hentry
    rfl

/-- Outlines are placed if every height can be eased. -/
theorem exists_placed_iff {shapes : Outlines α} {easing : Option (α → Except Fault α)} :
    (∃ sections, placed shapes easing = .ok sections) ↔
      ∀ i < shapes.length, ∃ t : α, easedHeight easing shapes.length i = .ok t := by
  rw [placed, exists_mapM_iff]
  constructor
  · intro h i hi
    obtain ⟨s, hs⟩ := h (shapes[i], i) (List.mem_zipIdx_iff_getElem?.mpr
      (List.getElem?_eq_getElem hi))
    obtain ⟨t, ht, -⟩ := bind_eq_ok_iff.mp hs
    exact ⟨t, ht⟩
  · rintro h ⟨s, i⟩ hentry
    obtain ⟨hi, -⟩ := List.getElem?_eq_some_iff.mp (List.mem_zipIdx_iff_getElem?.mp hentry)
    obtain ⟨t, ht⟩ := h i hi
    exact ⟨_, bind_eq_ok_iff.mpr ⟨t, ht, rfl⟩⟩

end Outlines

/-! ## Sections of one count -/

/-- Do all rings of the sections have the same count? -/
structure Uniform (n : Nat) (sections : List (CrossSection α)) : Prop where
  outer : ∀ s ∈ sections, s.isGap = false → s.outer.length = n
  holes : ∀ s ∈ sections, ∀ hole ∈ s.holes, hole.length = n

section Uniform

variable {n : Nat} {sections : List (CrossSection α)}

theorem Uniform.count_eq (h : Uniform n sections) (t : Tube) (i : Nat) :
    t.count sections i = 0 ∨ t.count sections i = n := by
  rw [Tube.count]
  cases hs : sections[i]? with
  | none => exact .inl rfl
  | some s =>
    have hmem := List.mem_of_getElem? hs
    cases t with
    | outer =>
      cases hgap : s.isGap with
      | true =>
        refine .inl ?_
        rw [Option.map_some, Option.getD_some, Tube.outline, List.isEmpty_iff.mp hgap,
          List.length_nil]
      | false => exact .inr (h.outer s hmem hgap)
    | hole slot =>
      cases hhole : s.holes[slot]? with
      | none =>
        refine .inl ?_
        rw [Option.map_some, Option.getD_some, Tube.outline, hhole]
        rfl
      | some hole =>
        refine .inr ?_
        rw [Option.map_some, Option.getD_some, Tube.outline, hhole]
        exact h.holes s hmem hole (List.mem_of_getElem? hhole)

/-- Rings of one count differ in it nowhere. -/
theorem Uniform.not_mismatched (h : Uniform n sections) (t : Tube) (i : Nat) :
    ¬ Mismatched (t.count sections) i := by
  rintro ⟨hlower, hupper, hne⟩
  exact hne (((h.count_eq t i).resolve_left hlower).trans
    ((h.count_eq t (i + 1)).resolve_left hupper).symm)

theorem Uniform.count_outer (h : Uniform n sections) {i : Nat} {s : CrossSection α}
    (hs : sections[i]? = some s) (hgap : s.isGap = false) : Tube.outer.count sections i = n := by
  rw [Tube.count, hs]
  exact h.outer s (List.mem_of_getElem? hs) hgap

/-- Two neighbouring sections without a gap are stitched. -/
theorem Uniform.stitched (h : Uniform n sections) (hn : n ≠ 0) {i : Nat} {s s' : CrossSection α}
    (hs : sections[i]? = some s) (hs' : sections[i + 1]? = some s') (hgap : s.isGap = false)
    (hgap' : s'.isGap = false) : Stitched (Tube.outer.count sections) i := by
  rw [Stitched, h.count_outer hs hgap, h.count_outer hs' hgap']
  exact ⟨hn, rfl⟩

variable [Scalar α]

/-- The hole shapes that shrink an outline toward its middle. -/
inductive Hole.Shrinks : HoleShape α → Prop
  | tapering : Hole.Shrinks Hole.tapering
  | ofScale (scale : α) : Hole.Shrinks (Hole.ofScale scale)

theorem Hole.Shrinks.length_eq {shape : HoleShape α} (h : Hole.Shrinks shape) (outer : Polygon α)
    (t : α) : (shape outer t).length = outer.length := by
  cases h with
  | tapering => exact Polygon.length_scaleAboutCentroid _ _
  | ofScale scale => exact Polygon.length_scaleAboutCentroid _ _

/-- Holes that shrink the outline have its count. -/
theorem Uniform.addHoles (h : Uniform n sections) (pattern : HolePattern) {shape : HoleShape α}
    (hshape : Hole.Shrinks shape) : Uniform n (addHoles sections pattern shape) := by
  have hmem : ∀ s ∈ LoftGraph.addHoles sections pattern shape,
      ∃ s₀ ∈ sections, ∃ i, s = addHole pattern shape i s₀ := by
    intro s hs
    obtain ⟨entry, hentry, rfl⟩ := List.mem_map.mp hs
    exact ⟨entry.1, List.fst_mem_of_mem_zipIdx hentry, entry.2, rfl⟩
  constructor
  · intro s hs hgap
    obtain ⟨s₀, hs₀, i, rfl⟩ := hmem s hs
    rw [CrossSection.isGap, CrossSection.addHole_outer] at hgap
    rw [CrossSection.addHole_outer]
    exact h.outer s₀ hs₀ hgap
  · intro s hs hole hhole
    obtain ⟨s₀, hs₀, i, rfl⟩ := hmem s hs
    unfold addHole at hhole
    split at hhole
    · exact h.holes s₀ hs₀ hole hhole
    · next hselected =>
      simp only at hhole
      split at hhole
      · exact h.holes s₀ hs₀ hole hhole
      · rcases List.mem_append.mp hhole with hhole | hhole
        · exact h.holes s₀ hs₀ hole hhole
        · cases List.mem_singleton.mp hhole
          rw [hshape.length_eq]
          refine h.outer s₀ hs₀ ?_
          simpa using (not_or.mp (mt Bool.or_eq_true_iff.mpr hselected)).1

/-- Holes added any number of times. -/
def addAllHoles (sections : List (CrossSection α)) (rounds : List (HolePattern × HoleShape α)) :
    List (CrossSection α) :=
  rounds.foldl (fun sections r => addHoles sections r.1 r.2) sections

theorem Uniform.addAllHoles (h : Uniform n sections) {rounds : List (HolePattern × HoleShape α)}
    (hrounds : ∀ r ∈ rounds, Hole.Shrinks r.2) : Uniform n (addAllHoles sections rounds) := by
  induction rounds generalizing sections with
  | nil => exact h
  | cons r rest ih =>
    exact ih (h.addHoles r.1 (hrounds r (.head _))) fun r' hr' => hrounds r' (.tail _ hr')

end Uniform

/-! ## Normalized sections -/

section Sections

variable [Scalar α] {shapes : Outlines α} {settings : SectionSettings α} {stack : Stack α}

theorem placed_of_crossSections (hstack : crossSections shapes settings = .ok stack) :
    (shapes.sized settings).placed settings.easing = .ok stack.sections := by
  obtain ⟨sections, hsections, h⟩ := bind_eq_ok_iff.mp hstack
  cases h
  rw [← hsections, Outlines.sized_eq]

/-- Sections come about if their outlines can be placed. -/
theorem exists_crossSections_iff_placed : (∃ stack, crossSections shapes settings = .ok stack) ↔
    ∃ sections, (shapes.sized settings).placed settings.easing = .ok sections := by
  constructor
  · rintro ⟨stack, hstack⟩
    exact ⟨_, placed_of_crossSections hstack⟩
  · rintro ⟨sections, hsections⟩
    refine ⟨_, bind_eq_ok_iff.mpr ⟨sections, ?_, rfl⟩⟩
    rw [← hsections, Outlines.sized_eq]

/-- Sections come about if every height can be eased. -/
theorem exists_crossSections_iff :
    (∃ stack, crossSections shapes settings = .ok stack) ↔
      ∀ i < (Outlines.arranged shapes settings.preserveOrder).length, ∃ t : α,
        Outlines.easedHeight settings.easing
          (Outlines.arranged shapes settings.preserveOrder).length i = .ok t := by
  rw [exists_crossSections_iff_placed, Outlines.exists_placed_iff, Outlines.length_sized]

/-- The outlines of the sections, in their order. -/
theorem outer_of_crossSections (hstack : crossSections shapes settings = .ok stack) :
    stack.sections.map CrossSection.outer =
      (Outlines.arranged shapes settings.preserveOrder).map fun s =>
        if settings.normalize then (s.getD []).resample (Outlines.largestCount shapes)
        else s.getD [] := by
  rw [(Outlines.outer_of_placed (placed_of_crossSections hstack)).1, Outlines.getD_sized]

/-- Normalized sections have one count, the largest of the outlines but no less than three. -/
theorem uniform_of_crossSections (hnormalize : settings.normalize = true)
    (hstack : crossSections shapes settings = .ok stack) :
    Uniform (max 3 (Outlines.largestCount shapes)) stack.sections := by
  obtain ⟨houter, hholes⟩ :=
    Outlines.outer_of_placed (placed_of_crossSections hstack)
  rw [Outlines.sized_of_normalize hnormalize] at houter
  refine ⟨fun s hs hgap => ?_, fun s hs hole hhole => ?_⟩
  · have hmem : s.outer ∈ stack.sections.map CrossSection.outer := List.mem_map_of_mem hs
    rw [houter] at hmem
    obtain ⟨entry, hentry, heq⟩ := List.mem_map.mp hmem
    have hsolid : Outlines.solid entry = true := by
      rw [Outlines.solid, heq]
      exact congrArg Bool.not hgap
    rw [← heq, Outlines.length_of_mem_normalized hentry hsolid, Outlines.largestCount_arranged]
  · rw [hholes s hs] at hhole
    cases hhole

/-- There are as many sections without a gap as outlines with vertices. -/
theorem countP_nonGap (hnormalize : settings.normalize = true)
    (hstack : crossSections shapes settings = .ok stack) :
    stack.sections.countP (fun s => !s.isGap) = shapes.countP Outlines.solid := by
  obtain ⟨houter, -⟩ := Outlines.outer_of_placed (placed_of_crossSections hstack)
  rw [Outlines.sized_of_normalize hnormalize] at houter
  rw [← Outlines.countP_solid_arranged shapes settings.preserveOrder,
    ← Outlines.countP_solid_normalized]
  have hcount := congrArg (List.countP (fun p : Polygon α => !p.isEmpty)) houter
  rw [List.countP_map, List.countP_map] at hcount
  exact hcount

end Sections

/-- A loft of rings that nowhere differ in their counts tells of none that do. -/
theorem pair?_of_matching {α : Type} [Circular α] {sections : List (CrossSection α)}
    {settings : LoftSettings α} {lofted : Lofted α}
    (hmatching : ∀ t i, ¬ Mismatched (Tube.count t sections) i)
    (hloft : loft sections settings = .ok lofted) : ∀ w ∈ lofted.warnings, w.pair? = none := by
  obtain ⟨placed, hplaced, rfl⟩ := exists_assemble hloft
  intro w hw
  -- a warning about two rings would be among those that are told of them
  cases hpair : w.pair? with
  | none => rfl
  | some r =>
    have hmem : w ∈ (assemble placed settings.closeTip).2.filter
        (fun w => w.pair? == some (r.1, r.2)) :=
      List.mem_filter.mpr ⟨hw, beq_iff_eq.mpr hpair⟩
    rw [filter_warnings, if_neg] at hmem
    · cases hmem
    · rw [counts, ← count_eq_ringCount hplaced]
      exact hmatching r.1 r.2

/-- **Normalized sections always stitch.** They have as many vertices as the largest outline, but no
less than three, in every section that is no gap, and there are as many of these as outlines with
vertices. After holes that shrink the outline have been added any number of times, a loft tells of
no rings that differ in their counts, and between any two neighbouring sections without a gap it has
a wall of the outer boundary. -/
theorem normalized_sections_stitch {α : Type} [Circular α] (shapes : Outlines α)
    (settings : SectionSettings α) (hnormalize : settings.normalize = true) :
    ((∃ stack, crossSections shapes settings = .ok stack) ↔
      ∀ i < (Outlines.arranged shapes settings.preserveOrder).length, ∃ t : α,
        Outlines.easedHeight settings.easing
          (Outlines.arranged shapes settings.preserveOrder).length i = .ok t) ∧
    ∀ stack, crossSections shapes settings = .ok stack →
      (∀ s ∈ stack.sections, s.isGap = false →
        s.outer.length = max 3 (Outlines.largestCount shapes)) ∧
      stack.sections.countP (fun s => !s.isGap) = shapes.countP Outlines.solid ∧
      ∀ (rounds : List (HolePattern × HoleShape α)) (settings : LoftSettings α),
        (∀ r ∈ rounds, Hole.Shrinks r.2) →
        let sections := addAllHoles stack.sections rounds
        ((∃ lofted, loft sections settings = .ok lofted) ↔
          ∀ s ∈ sections, ∃ p, placeBy settings s = .ok p) ∧
        ∀ lofted, loft sections settings = .ok lofted →
          (∀ w ∈ lofted.warnings, w.pair? = none) ∧
          ∃ (b : MeshBuilder α) (placed : List (PlacedSection α)) (blocks : Blocks),
            lofted.mesh = b.build settings.smooth ∧
            sections.mapM (placeBy settings) = .ok placed ∧
            Contents (fun t => t.count sections) (ringAt placed) (tip? placed settings.closeTip)
              blocks b.vertices.toList b.triangles.toList ∧
            ∀ i s s', sections[i]? = some s → sections[i + 1]? = some s' →
              s.isGap = false → s'.isGap = false →
              (b.triangles.toList.filter (fun T => decide
                (blocks.Joins (fun t => t.count sections) .outer i T))).length
                = 2 * max 3 (Outlines.largestCount shapes) := by
  refine ⟨exists_crossSections_iff, fun stack hstack => ?_⟩
  have huniform := uniform_of_crossSections hnormalize hstack
  refine ⟨huniform.outer, countP_nonGap hnormalize hstack, fun rounds settings hrounds => ?_⟩
  intro sections
  have hholed : Uniform (max 3 (Outlines.largestCount shapes)) sections :=
    huniform.addAllHoles hrounds
  refine ⟨exists_loft_iff, fun lofted hloft =>
    ⟨pair?_of_matching hholed.not_mismatched hloft, ?_⟩⟩
  obtain ⟨placed, hplaced, rfl⟩ := exists_assemble hloft
  obtain ⟨blocks, hcontents⟩ := exists_contents hplaced settings.closeTip
  refine ⟨_, placed, blocks, rfl, hplaced, hcontents, ?_⟩
  intro i s s' hs hs' hgap hgap'
  have hstitched := hholed.stitched (by omega) hs hs' hgap hgap'
  rw [hcontents.joining, if_pos hstitched, hholed.count_outer hs hgap]

/-- Outlines of every kind: a removed one, one without vertices, and ones of one to five. -/
def mixedOutlines : Outlines Float :=
  [some [⟨0, 0⟩, ⟨4, 0⟩, ⟨4, 4⟩, ⟨2, 5⟩, ⟨0, 4⟩], some [⟨0, 0⟩, ⟨4, 0⟩, ⟨0, 4⟩], none,
    some [⟨1, 1⟩], some [⟨0, 0⟩, ⟨2, 2⟩], some []]

/-- Heights are squared, which no curve with a name does. -/
def mixedSettings : SectionSettings Float := ⟨some fun t => .ok (t * t), true, true⟩

def mixedRounds : List (HolePattern × HoleShape Float) :=
  [(Hole.everySecond, Hole.tapering), (Hole.ofFrequency 3, Hole.ofScale 0.3)]

theorem mixed_sections_stitch : ∃ stack lofted,
    mixedSettings.normalize = true ∧ crossSections mixedOutlines mixedSettings = .ok stack ∧
    (∀ r ∈ mixedRounds, Hole.Shrinks r.2) ∧
    loft (addAllHoles stack.sections mixedRounds) ⟨10, 0, 0.5, true, true⟩ = .ok lofted ∧
    (∀ s ∈ stack.sections, s.isGap = false → s.outer.length = 5) ∧
    stack.sections.countP (fun s => !s.isGap) = 4 ∧
    ∀ w ∈ lofted.warnings, w.pair? = none := by
  have hshrinks : ∀ r ∈ mixedRounds, Hole.Shrinks r.2 :=
    List.forall_mem_cons.mpr ⟨.tapering, List.forall_mem_singleton.mpr (.ofScale _)⟩
  -- without twist no section asks for the cosine of an angle
  have hplaced : ∀ s : CrossSection Float,
      ∃ p, placeBy ⟨10, 0, 0.5, true, true⟩ s = .ok p := by
    have htransform : ∀ (p : Polygon Float) (t : Float), ∃ q,
        CrossSection.transform p t 0.5 0 = .ok q := by
      intro p t
      unfold CrossSection.transform
      split
      · exact ⟨p, rfl⟩
      · exact ⟨_, rfl⟩
    intro s
    obtain ⟨outer, houter⟩ := htransform s.outer s.t
    obtain ⟨holes, hholes⟩ := exists_mapM_iff.mpr fun hole (_ : hole ∈ s.holes) =>
      htransform hole s.t
    exact ⟨_, bind_eq_ok_iff.mpr ⟨_, rfl, bind_eq_ok_iff.mpr ⟨outer, houter,
      bind_eq_ok_iff.mpr ⟨holes, hholes, rfl⟩⟩⟩⟩
  obtain ⟨hstacks, hsections⟩ := normalized_sections_stitch mixedOutlines mixedSettings rfl
  obtain ⟨stack, hstack⟩ := hstacks.mpr fun i _ => ⟨_, rfl⟩
  obtain ⟨houter, hcount, hlofts⟩ := hsections stack hstack
  obtain ⟨hreturns, htells⟩ := hlofts mixedRounds ⟨10, 0, 0.5, true, true⟩ hshrinks
  obtain ⟨lofted, hloft⟩ := hreturns.mpr fun s _ => hplaced s
  exact ⟨stack, lofted, rfl, hstack, hshrinks, hloft, houter, hcount, (htells lofted hloft).1⟩

end LoftGraph
