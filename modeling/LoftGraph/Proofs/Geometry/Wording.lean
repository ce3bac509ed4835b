import LoftGraph.Proofs.Geometry.Contents

/-!
# Warnings of a loft are told apart by their words

Different warnings have different messages (`LoftWarning.message_injective`): the number that a
message names is the run of digits that ends at the first character that is none
(`digits_append_inj`). A loft gives no warning twice (`nodup_warnings`), so it gives no message
twice.
-/

namespace LoftGraph

/-- A number in front of a character that is no digit can be read off a text. -/
theorem digits_append_inj {m n : Nat} {xs ys : List Char}
    (hxs : xs.head?.all (fun c => !c.isDigit) = true)
    (hys : ys.head?.all (fun c => !c.isDigit) = true)
    (h : Nat.toDigits 10 m ++ xs = Nat.toDigits 10 n ++ ys) : m = n ∧ xs = ys := by
  have hfront : ∀ (k : Nat) (zs : List Char), zs.head?.all (fun c => !c.isDigit) = true →
      (Nat.toDigits 10 k ++ zs).takeWhile Char.isDigit = Nat.toDigits 10 k := by
    intro k zs hzs
    have hend : zs.takeWhile Char.isDigit = [] := by
      cases zs with
      | nil => rfl
      | cons c zs => exact List.takeWhile_cons_of_neg (by simpa using hzs)
    rw [List.takeWhile_append_of_pos fun d hd =>
      Nat.isDigit_of_mem_toDigits (by decide) (by decide) hd, hend, List.append_nil]
  have hdigits : Nat.toDigits 10 m = Nat.toDigits 10 n := by
    rw [← hfront m xs hxs, h, hfront n ys hys]
  have hnumber := congrArg (Nat.ofDigitChars 10 · 0) hdigits
  simp only [Nat.ofDigitChars_ten_toDigits] at hnumber
  rw [hdigits] at h
  exact ⟨hnumber, List.append_cancel_left h⟩

namespace LoftWarning

theorem toList_collapsed (i : Nat) : (collapsed i).message.toList
    = "Section ".toList ++ (Nat.toDigits 10 i ++
      " has collapsed to zero area; its walls will be degenerate.".toList) := by
  have hmessage : (collapsed i).message = "Section " ++ toString i ++
    " has collapsed to zero area; its walls will be degenerate." := rfl
  rw [hmessage]
  simp only [String.toList_append, Nat.toString_eq_repr, Nat.toList_repr, List.append_assoc]

theorem toList_outerMismatch (i m n : Nat) : (outerMismatch i m n).message.toList
    = "Sections ".toList ++ (Nat.toDigits 10 i ++ (" and ".toList ++ (Nat.toDigits 10 (i + 1) ++
      (" have different vertex counts (".toList ++ (Nat.toDigits 10 m ++ (" vs ".toList ++
        (Nat.toDigits 10 n ++ "); leaving an opening.".toList))))))) := by
  have hmessage : (outerMismatch i m n).message = "Sections " ++ toString i ++ " and " ++
    toString (i + 1) ++ " have different vertex counts (" ++ (toString m ++ " vs " ++
      toString n ++ "); leaving an opening.") := rfl
  rw [hmessage]
  simp only [String.toList_append, Nat.toString_eq_repr, Nat.toList_repr, List.append_assoc]

theorem toList_holeMismatch (slot i m n : Nat) : (holeMismatch slot i m n).message.toList
    = "Hole ".toList ++ (Nat.toDigits 10 slot ++ (" of sections ".toList ++ (Nat.toDigits 10 i ++
      (" and ".toList ++ (Nat.toDigits 10 (i + 1) ++ (" has different vertex counts (".toList ++
        (Nat.toDigits 10 m ++ (" vs ".toList ++ (Nat.toDigits 10 n ++
          "); leaving the hole wall open.".toList))))))))) := by
  have hmessage : (holeMismatch slot i m n).message = "Hole " ++ toString slot ++ " of sections " ++
    toString i ++ " and " ++ toString (i + 1) ++ " has different vertex counts (" ++
      (toString m ++ " vs " ++ toString n ++ "); leaving the hole wall open.") := rfl
  rw [hmessage]
  simp only [String.toList_append, Nat.toString_eq_repr, Nat.toList_repr, List.append_assoc]

/-- Two counts in a message. -/
theorem counts_inj {m n m' n' : Nat} {xs : List Char}
    (hxs : xs.head?.all (fun c => !c.isDigit) = true)
    (h : Nat.toDigits 10 m ++ (" vs ".toList ++ (Nat.toDigits 10 n ++ xs))
      = Nat.toDigits 10 m' ++ (" vs ".toList ++ (Nat.toDigits 10 n' ++ xs))) :
    m = m' ∧ n = n' := by
  obtain ⟨hm, h⟩ := digits_append_inj rfl rfl h
  obtain ⟨hn, -⟩ := digits_append_inj hxs hxs (List.append_cancel_left h)
  exact ⟨hm, hn⟩

/-- **The message tells the warning.** -/
theorem message_injective {w w' : LoftWarning} (h : w.message = w'.message) : w = w' := by
  have hlist := congrArg String.toList h
  cases w with
  | collapsed i =>
    rw [toList_collapsed] at hlist
    cases w' with
    | collapsed j =>
      rw [toList_collapsed] at hlist
      obtain ⟨rfl, -⟩ := digits_append_inj rfl rfl (List.append_cancel_left hlist)
      rfl
    | outerMismatch => simp [toList_outerMismatch] at hlist
    | holeMismatch => simp [toList_holeMismatch] at hlist
  | outerMismatch i m n =>
    rw [toList_outerMismatch] at hlist
    cases w' with
    | collapsed => simp [toList_collapsed] at hlist
    | outerMismatch j m' n' =>
      rw [toList_outerMismatch] at hlist
      obtain ⟨rfl, hlist⟩ := digits_append_inj rfl rfl (List.append_cancel_left hlist)
      have hcounts := List.append_cancel_left (List.append_cancel_left
        (List.append_cancel_left hlist))
      obtain ⟨rfl, rfl⟩ := counts_inj rfl hcounts
      rfl
    | holeMismatch => simp [toList_holeMismatch] at hlist
  | holeMismatch slot i m n =>
    rw [toList_holeMismatch] at hlist
    cases w' with
    | collapsed => simp [toList_collapsed] at hlist
    | outerMismatch => simp [toList_outerMismatch] at hlist
    | holeMismatch slot' j m' n' =>
      rw [toList_holeMismatch] at hlist
      obtain ⟨hslot, hlist⟩ := digits_append_inj rfl rfl (List.append_cancel_left hlist)
      obtain ⟨hlower, hlist⟩ := digits_append_inj rfl rfl (List.append_cancel_left hlist)
      rw [← hlower] at hlist
      have hcounts := List.append_cancel_left (List.append_cancel_left
        (List.append_cancel_left hlist))
      obtain ⟨hm, hn⟩ := counts_inj rfl hcounts
      rw [hslot, hlower, hm, hn]

end LoftWarning

/-! ## The warnings of a loft -/

namespace Loft

variable {α : Type} [Scalar α]

theorem mem_mismatches {t : Tube} {count : Nat → Nat} {height : Nat} {w : LoftWarning} :
    w ∈ mismatches t.mismatch count height ↔ ∃ i < height, Mismatched count i ∧
      w = t.mismatch i (count i) (count (i + 1)) := by
  rw [mismatches, List.mem_flatMap]
  refine exists_congr fun i => ?_
  rw [List.mem_range]
  refine and_congr_right fun _ => ?_
  split
  · next h => simp [h]
  · next h => simp [h]

theorem nodup_mismatches (t : Tube) (count : Nat → Nat) (height : Nat) :
    (mismatches t.mismatch count height).Nodup := by
  have hpairs : ∀ i, ∀ w ∈ (if Mismatched count i then
      [t.mismatch i (count i) (count (i + 1))] else []), w.pair? = some (t, i) := by
    intro i w hw
    split at hw
    · rw [List.mem_singleton.mp hw, pair?_mismatch]
    · cases hw
  refine List.nodup_flatMap.mpr ⟨fun i _ => ?_, List.nodup_range.imp fun {i j} hne w hi hj => ?_⟩
  · split
    · exact List.nodup_singleton _
    · exact List.nodup_nil
  · have hsame := (hpairs i w hi).symm.trans (hpairs j w hj)
    exact hne (Prod.mk.inj (Option.some.inj hsame)).2

theorem nodup_collapseWarnings (placed : List (PlacedSection α)) (closeTip : Bool) :
    (collapseWarnings placed closeTip).Nodup := by
  have hplaces : placed.zipIdx.Pairwise fun entry other => entry.2 ≠ other.2 := by
    refine List.pairwise_map.mp ?_
    rw [List.zipIdx_map_snd]
    exact List.nodup_range'
  have hindex : ∀ (entry : PlacedSection α × Nat) (w : LoftWarning),
      (if closeTip && entry.2 + 1 == placed.length then none
        else if hasCollapsed entry.1 then some (LoftWarning.collapsed entry.2) else none) = some w →
      w = .collapsed entry.2 := by
    intro entry w h
    split at h
    · cases h
    · split at h
      · exact (Option.some.inj h).symm
      · cases h
  refine List.pairwise_filterMap.mpr (hplaces.imp fun {entry other} hne w hw w' hw' hsame => hne ?_)
  rw [hindex entry w hw, hindex other w' hw'] at hsame
  exact LoftWarning.collapsed.inj hsame

/-- **A loft gives no warning twice.** -/
theorem nodup_warnings (placed : List (PlacedSection α)) (closeTip : Bool) :
    (assemble placed closeTip).2.Nodup := by
  rw [warnings_assemble]
  refine List.nodup_append.mpr ⟨nodup_collapseWarnings placed closeTip, ?_, ?_⟩
  · refine List.nodup_flatMap.mpr ⟨fun t _ => nodup_mismatches t _ _, ?_⟩
    refine (Tube.nodup_all _).imp fun {t u} hne w ht hu => ?_
    obtain ⟨i, -, -, hw⟩ := mem_mismatches.mp ht
    obtain ⟨j, -, -, hw'⟩ := mem_mismatches.mp hu
    have hsame := congrArg LoftWarning.pair? (hw.symm.trans hw')
    rw [pair?_mismatch, pair?_mismatch] at hsame
    exact hne (Prod.mk.inj (Option.some.inj hsame)).1
  · rintro w hw _ hw' rfl
    obtain ⟨entry, -, rfl⟩ := mem_collapseWarnings hw
    obtain ⟨t, -, ht⟩ := List.mem_flatMap.mp hw'
    obtain ⟨i, -, -, hcollapsed⟩ := mem_mismatches.mp ht
    cases t <;> cases hcollapsed

/-- A loft gives no message twice. -/
theorem nodup_messages {α : Type} [Circular α] {sections : List (CrossSection α)}
    {settings : LoftSettings α} {lofted : Lofted α} (h : loft sections settings = .ok lofted) :
    (lofted.warnings.map LoftWarning.message).Nodup := by
  obtain ⟨placed, -, rfl⟩ := exists_assemble h
  exact (nodup_warnings placed settings.closeTip).map fun w w' => LoftWarning.message_injective

end Loft

end LoftGraph
