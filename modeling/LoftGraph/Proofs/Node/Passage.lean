import LoftGraph.Proofs.Node.Kind

/-!
# Passing ports of one kind

A value that a port has brought into its kind passes every further port of that kind
(`coercion_is_idempotent`). What coercion gives is of the kind, and such a value is given back as
it is, so it does not matter how many ports of one kind a value passes.

The truth value of a number in a storage format is the one result that is not of its kind yet: the
next port takes it out of the format (`DataKind.coerce_of_coerce`), and out of it it stays
(`DataKind.coerce_unstored_of_coerce`). `Value.Equal` does not tell the two apart.
-/

namespace LoftGraph

/-- The value, out of its format if it is a truth value in a storage format. -/
def Value.unstored : Value → Value
  | fixed (.truth b) => bool b
  | v => v

/-- Are two values equal? A truth value is the same in a storage format and out of it. -/
def Value.Equal (v w : Value) : Prop := v.unstored = w.unstored

theorem Value.unstored_unstored (v : Value) : v.unstored.unstored = v.unstored := by
  cases v with
  | fixed stored => cases stored <;> rfl
  | _ => rfl

namespace DataKind

/-- What has become of a value behind so many ports of the kind. -/
def pass (kind : DataKind) : Nat → Value → Except CoercionFault Value
  | 0, value => .ok value
  | ports + 1, value => do kind.pass ports (← kind.coerce value)

variable {kind : DataKind} {value v : Value}

theorem pass_succ (h : kind.coerce value = .ok v) (ports : Nat) :
    kind.pass (ports + 1) value = kind.pass ports v := by
  rw [pass, h]
  rfl

/-- A value that one port leaves alone passes any number of them. -/
theorem pass_of_coerce_self (h : kind.coerce v = .ok v) (ports : Nat) :
    kind.pass ports v = .ok v := by
  induction ports with
  | zero => rfl
  | succ ports ih => rw [pass_succ h, ih]

theorem gives_of_coerce (hne : value ≠ .null) (h : kind.coerce value = .ok v) :
    kind.Gives value v := by
  rw [coerce_of_ne_null hne] at h
  have hends := kind.ends_coerceValue value
  rw [h] at hends
  cases hends with
  | gives hgives => exact hgives

/-- Nothing of a kind is a truth value in a storage format. -/
theorem unstored_of_isOf (h : kind.IsOf v) : v.unstored = v := by
  unfold Value.unstored
  split
  · cases kind <;> simp [IsOf, Value.ofPoint] at h
  · rfl

/-- What comes out of a port: a value that is out of any format and left alone from then on, or a
truth value in the format of the number that went in. -/
theorem coerce_cases (h : kind.coerce value = .ok v) :
    (¬ kind.KeepsFormat value ∧ v.unstored = v ∧ kind.coerce v = .ok v) ∨
      (kind.KeepsFormat value ∧ ∃ b, v = .fixed (.truth b)) := by
  rcases eq_or_ne value .null with rfl | hne
  · cases h
    exact .inl ⟨fun hkeeps => hkeeps.2, rfl, rfl⟩
  · rcases gives_of_coerce hne h with ⟨hplain, hof⟩ | hstored
    · exact .inl ⟨hplain, unstored_of_isOf hof, coerce_of_isOf hof⟩
    · exact .inr hstored

/-- The second port of a kind takes a truth value out of its format and changes nothing else. -/
theorem coerce_of_coerce (h : kind.coerce value = .ok v) : kind.coerce v = .ok v.unstored := by
  rcases coerce_cases h with ⟨-, hplain, hself⟩ | ⟨⟨rfl, -⟩, b, rfl⟩
  · rw [hself, hplain]
  · rfl

/-- From the third port of a kind on nothing changes any more. -/
theorem coerce_unstored_of_coerce (h : kind.coerce value = .ok v) :
    kind.coerce v.unstored = .ok v.unstored := by
  have hagain := coerce_of_coerce (coerce_of_coerce h)
  rwa [Value.unstored_unstored] at hagain

theorem exists_pass (h : kind.coerce value = .ok v) (ports : Nat) :
    ∃ w, kind.pass (ports + 1) value = .ok w ∧ w.Equal v := by
  rw [pass_succ h]
  cases ports with
  | zero => exact ⟨v, rfl, rfl⟩
  | succ ports =>
    refine ⟨v.unstored, ?_, v.unstored_unstored⟩
    rw [pass_succ (coerce_of_coerce h), pass_of_coerce_self (coerce_unstored_of_coerce h)]

end DataKind

/-- **Coercion is idempotent**. What a port has made of a value is accepted by a second port of the
kind, which gives an equal value, and behind any further number of such ports there is an equal
value too. It is the same value even, unless it is the truth value of a number in a storage format,
which the second port takes out of the format. -/
theorem coercion_is_idempotent {kind : DataKind} {value v : Value}
    (h : kind.coerce value = .ok v) :
    (∃ w, kind.coerce v = .ok w ∧ w.Equal v) ∧
      (∀ ports, ∃ w, kind.pass (ports + 1) value = .ok w ∧ w.Equal v) ∧
      (kind.coerce v = .ok v ↔ ¬ kind.KeepsFormat value) := by
  refine ⟨⟨_, DataKind.coerce_of_coerce h, v.unstored_unstored⟩, DataKind.exists_pass h, ?_⟩
  rcases DataKind.coerce_cases h with ⟨hplain, -, hself⟩ | ⟨hkeeps, b, rfl⟩
  · exact iff_of_true hself hplain
  · refine iff_of_false (fun hself => ?_) (not_not_intro hkeeps)
    obtain ⟨rfl, -⟩ := hkeeps
    cases hself

/-- A removed polygon, one written down flat with a number left open, and one of texts and
points. -/
def writtenOutlines : Value :=
  .tuple [.null, .list [.float 1, .null],
    .list [.tuple [.text "1", .bool true], .point ⟨.real 2, .real 3⟩]]

/-- The polygons that `writtenOutlines` writes down. -/
def readOutlines : Value := .list [.null, .block [1, 2] [1, 0 / 0], .block [2, 2] [1, 1, 2, 3]]

theorem written_outlines_pass :
    DataKind.point2DList.coerce writtenOutlines = .ok readOutlines ∧
      DataKind.point2DList.coerce readOutlines = .ok readOutlines ∧
      ∀ ports, ∃ w, DataKind.point2DList.pass (ports + 1) writtenOutlines = .ok w ∧
        w.Equal readOutlines := by
  have hcoerce : DataKind.point2DList.coerce writtenOutlines = .ok readOutlines := rfl
  obtain ⟨-, hpass, hself⟩ := coercion_is_idempotent hcoerce
  have hplain : ¬ DataKind.point2DList.KeepsFormat writtenOutlines := by
    intro hkeeps
    cases hkeeps.1
  exact ⟨hcoerce, hself.mpr hplain, hpass⟩

end LoftGraph
