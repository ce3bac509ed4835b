import LoftGraph.Node.Builtin.Stack
import LoftGraph.Proofs.Geometry.Manifold
import LoftGraph.Proofs.Node.Coercion

/-!
# What a loft does not look at

* Where no fan closes the tip, it makes no difference that one would have been made
  (`loft_of_open`): the last section has not collapsed, so there is no warning to leave out either.
* Sections without rings need neither taper nor twist, and no sections need no height either. So a
  loft node, which looks at its inputs only as far as its sections ask for them, lofts as if it had
  looked at all of them (`lofted_eq`).
-/

namespace LoftGraph

namespace Loft

variable {α : Type}

section Open

variable [Scalar α] {placed : List (PlacedSection α)} {closeTip : Bool}

theorem collapseWarnings_of_open (h : tip? placed closeTip = none) :
    collapseWarnings placed closeTip = collapseWarnings placed false := by
  refine List.filterMap_congr fun ⟨p, i⟩ hentry => ?_
  cases hlast : closeTip && i + 1 == placed.length with
  | false => rfl
  | true =>
    obtain ⟨hclose, hi⟩ := Bool.and_eq_true_iff.mp hlast
    have hp : placed[i]? = some p := List.mk_mem_zipIdx_iff_getElem?.mp hentry
    have hstands : hasCollapsed p = false := by
      by_contra hcollapsed
      have htip := tip?_eq_some_iff.mpr
        ⟨hclose, (beq_iff_eq.mp hi).symm, p, hp, (Bool.not_eq_false _).mp hcollapsed⟩
      cases h.symm.trans htip
    simp [hstands]

/-- A stack whose tip stays open is assembled like one that is to stay open. -/
theorem assemble_of_open (h : tip? placed closeTip = none) :
    assemble placed closeTip = assemble placed false := by
  let outer := stitch false LoftWarning.outerMismatch 0 none (placed.map PlacedSection.outer)
    MeshBuilder.empty
  have hassemble : ∀ close, assemble placed close
      = (if close then closeLast placed outer.1 (stitchHoles placed outer.2.1).1
          else (stitchHoles placed outer.2.1).1,
        collapseWarnings placed close ++ outer.2.2 ++ (stitchHoles placed outer.2.1).2) :=
    fun _ => rfl
  rw [hassemble, closeLast_of_open h, collapseWarnings_of_open h, hassemble]
  rfl

end Open

section Settings

variable [Circular α] {sections : List (CrossSection α)} {settings : LoftSettings α}

/-- **A loft whose tip stays open** is that of the settings that leave it open. -/
theorem loft_of_open (h : ∀ i, ¬ ClosedTip sections settings i) :
    loft sections settings = loft sections { settings with closeTip := false } := by
  rw [loft_eq_map, loft_eq_map]
  show _ = (sections.mapM (placeBy settings)).map _
  cases hplaced : sections.mapM (placeBy settings) with
  | error fault => rfl
  | ok placed =>
    have hopen : tip? placed settings.closeTip = none :=
      Option.eq_none_iff_forall_ne_some.mpr fun i hi => h i ((closedTip_iff hplaced).mpr hi)
    rw [Except.map, Except.map, assemble_of_open hopen]

/-- A section without rings needs neither taper nor twist. -/
theorem place_of_ringless {s : CrossSection α} (h : Builtin.hasRing s = false)
    (height taper twist taper' twist' : α) :
    s.place height taper twist = s.place height taper' twist' := by
  obtain ⟨houter, hholes⟩ := Bool.or_eq_false_iff.mp h
  have hempty : ∀ p ∈ s.outer :: s.holes, ∀ taper twist : α,
      CrossSection.transform p s.t taper twist = .ok p := by
    intro p hp taper twist
    refine if_pos ?_
    rcases List.mem_cons.mp hp with rfl | hp
    · simpa using houter
    · simpa using List.any_eq_false.mp hholes p hp
  have hall : ∀ taper twist : α, s.holes.mapM (fun hole =>
      CrossSection.transform hole s.t taper twist) = s.holes.mapM .ok :=
    fun taper twist => mapM_congr fun hole hhole => hempty hole (.tail _ hhole) taper twist
  simp only [CrossSection.place, hempty s.outer (.head _), hall]

theorem loft_of_ringless (h : ∀ s ∈ sections, Builtin.hasRing s = false)
    (height twist taper twist' taper' : α) (smooth closeTip : Bool) :
    loft sections ⟨height, twist, taper, smooth, closeTip⟩
      = loft sections ⟨height, twist', taper', smooth, closeTip⟩ := by
  have hplace : sections.mapM (placeBy ⟨height, twist, taper, smooth, closeTip⟩)
      = sections.mapM (placeBy ⟨height, twist', taper', smooth, closeTip⟩) :=
    mapM_congr fun s hs => place_of_ringless (h s hs) height taper twist taper' twist'
  rw [loft_eq_map, loft_eq_map, hplace]

end Settings

theorem hasRing_map {α β : Type} (f : α → β) (s : CrossSection α) :
    Builtin.hasRing (s.map f) = Builtin.hasRing s := by
  simp [Builtin.hasRing, CrossSection.map, List.any_map, Function.comp_def]

/-- **A loft node** lofts as its inputs say, those that it does not look at included. -/
theorem lofted_eq {inputs : Inputs} {height twist taper : Float}
    (hheight : inputs.value "height" = .float height) (htwist : inputs.value "twist" = .float twist)
    (htaper : inputs.value "taper" = .float taper) (sections : List (CrossSection Quantity)) :
    Builtin.lofted inputs sections
      = NodeFault.lift (measuredLoft (sections.map (CrossSection.map Measure.ofQuantity))
          ⟨.real height, .real twist, .real taper, true, false⟩) := by
  have hsettings : Builtin.loftSettings inputs sections
      = if sections.isEmpty then .ok LoftSettings.standard
        else if !sections.any Builtin.hasRing then
          .ok { LoftSettings.standard with height := .real height }
        else .ok ⟨.real height, .real twist, .real taper, true, false⟩ := by
    simp only [Builtin.loftSettings, Inputs.need_float hheight, Inputs.need_float htwist,
      Inputs.need_float htaper]
    rfl
  rw [Builtin.lofted, hsettings]
  split
  · next hempty =>
    rw [List.isEmpty_iff.mp hempty]
    rfl
  · split
    · next hringless =>
      have hnone : ∀ s ∈ sections.map (CrossSection.map Measure.ofQuantity),
          Builtin.hasRing s = false := by
        intro s hs
        obtain ⟨s', hs', rfl⟩ := List.mem_map.mp hs
        rw [hasRing_map]
        simpa using List.any_eq_false.mp (Bool.not_eq_true' _ |>.mp hringless) s' hs'
      exact congrArg (fun l => NodeFault.lift (l.map (Lofted.map Measure.toFloat)))
        (loft_of_ringless hnone _ _ _ _ _ _ _)
    · rfl

end Loft

end LoftGraph
