import LoftGraph.Proofs.Node.Coercion
import LoftGraph.Proofs.Traversal

/-!
# What coercion leads to

Coercion gives a value of the kind (`DataKind.IsOf`) or refuses what it was given, with three
exceptions (`coercion_gives_kind_or_refuses`).

* A whole number out of the range of floating point is a fault of range. `DataKind.Overflows` says
  for every kind where coercion meets such a number, and there alone the fault arises.
* A refusal shows what it refuses, and cannot if that holds a whole number too long to be shown.
* The truth value of a number in a storage format stays in one (`DataKind.KeepsFormat`).
-/

namespace LoftGraph

/-- Does the fault say that a value of another kind was expected? -/
def CoercionFault.IsRefusal : CoercionFault → Prop
  | expected _ _ | unknownShape _ => True
  | outOfRange | unshown => False

/-- Is a value one of the kind? A text in a storage format is a text. -/
def DataKind.IsOf : DataKind → Value → Prop
  | number, v => ∃ x, v = .float x
  | boolean, v => ∃ b, v = .bool b
  | string, v => ∃ s, v = .text s ∨ v = .fixed (.text s)
  | shapeKind, v => ∃ k, v = .shape k
  | pattern, v => ∃ ps : List (Placement Quantity), v = .list (ps.map .placement)
  | geometry, v => ∃ m, v = .mesh m
  | crossSectionSet, v => ∃ ss : List (CrossSection Quantity), v = .list (ss.map .crossSection)
  | point2D, v => ∃ p, v = .ofPoint p
  | point2DList, v => ∃ os : Outlines Float, v = .list (os.map .ofOutline)

/-- The absent value is of no kind; it stands for one that is missing. -/
theorem DataKind.not_isOf_null (kind : DataKind) : ¬ kind.IsOf .null := by
  cases kind <;> simp [IsOf, Value.ofPoint]

/-- Is the value a number in a storage format? -/
def Value.IsStoredNumber : Value → Prop
  | fixed (.whole _ _) | fixed (.real _ _) => True
  | _ => False

/-- Does the truth value that coercion gives stay in a storage format? -/
def DataKind.KeepsFormat (kind : DataKind) (value : Value) : Prop :=
  kind = boolean ∧ value.IsStoredNumber

/-- Is `v` what coercion to the kind may make of a value? -/
def DataKind.Gives (kind : DataKind) (value v : Value) : Prop :=
  ¬ kind.KeepsFormat value ∧ kind.IsOf v ∨ kind.KeepsFormat value ∧ ∃ b, v = .fixed (.truth b)

theorem DataKind.Gives.ne_null {kind : DataKind} {value v : Value} (h : kind.Gives value v) :
    v ≠ .null := by
  rintro rfl
  rcases h with ⟨-, h⟩ | ⟨-, b, h⟩
  · exact kind.not_isOf_null h
  · cases h

/-! ## Numbers out of range -/

namespace Value

/-- Is the value a whole number out of the range of floating point? -/
def Oversized (v : Value) : Prop :=
  ∃ i, floatOfInt? i = none ∧ (v = int i ∨ ∃ format, v = fixed (.whole format i))

theorem wholeNumber_eq_tooLarge_iff {i : Int} :
    wholeNumber i = .error .tooLarge ↔ floatOfInt? i = none := by
  unfold wholeNumber
  cases floatOfInt? i <;> simp

theorem spelledNumber_ne_tooLarge (s : String) : spelledNumber s ≠ .error .tooLarge := by
  unfold spelledNumber
  split <;> nofun

theorem number_eq_tooLarge_iff {v : Value} : v.number = .error .tooLarge ↔ v.Oversized := by
  constructor
  · intro h
    unfold number at h
    split at h
    · cases h
    · next i => exact ⟨i, wholeNumber_eq_tooLarge_iff.mp h, .inl rfl⟩
    · cases h
    · cases h
    · next format i => exact ⟨i, wholeNumber_eq_tooLarge_iff.mp h, .inr ⟨format, rfl⟩⟩
    · cases h
    · exact absurd h (spelledNumber_ne_tooLarge _)
    · exact absurd h (spelledNumber_ne_tooLarge _)
    · exact absurd h (spelledNumber_ne_tooLarge _)
    · cases h
    · cases h
  · rintro ⟨i, hi, rfl | ⟨format, rfl⟩⟩ <;> exact wholeNumber_eq_tooLarge_iff.mpr hi

theorem arrangedNumber_eq_tooLarge_iff {v : Value} :
    v.arrangedNumber = .error .tooLarge ↔ v.Oversized := by
  unfold arrangedNumber
  split
  · refine iff_of_false nofun ?_
    rintro ⟨i, -, h | ⟨format, h⟩⟩ <;> cases h
  · exact number_eq_tooLarge_iff

theorem stack_ne_tooLarge (parts : List Arrangement) :
    Arrangement.stack parts ≠ .error .tooLarge := by
  unfold Arrangement.stack
  split
  · nofun
  · split <;> nofun

mutual

/-- What keeps values from being arranged is their form. -/
theorem nesting_ne_tooLarge : (v : Value) → nesting v ≠ .error .tooLarge
  | list items => fun h => by
    rw [nesting] at h
    rcases bind_eq_error_iff.mp h with h | ⟨parts, -, h⟩
    · exact nestings_ne_tooLarge items h
    · exact stack_ne_tooLarge parts h
  | tuple items => fun h => by
    rw [nesting] at h
    rcases bind_eq_error_iff.mp h with h | ⟨parts, -, h⟩
    · exact nestings_ne_tooLarge items h
    · exact stack_ne_tooLarge parts h
  | point _ | block _ _ | null | bool _ | int _ | float _ | fixed _ | text _ | shape _ | object _
  | placement _ | crossSection _ | mesh _ => nofun

theorem nestings_ne_tooLarge : (items : List Value) → nestings items ≠ .error .tooLarge
  | [] => nofun
  | item :: rest => fun h => by
    rw [nestings] at h
    rcases bind_eq_error_iff.mp h with h | ⟨first, -, h⟩
    · exact nesting_ne_tooLarge item h
    · rcases bind_eq_error_iff.mp h with h | ⟨others, -, h⟩
      · exact nestings_ne_tooLarge rest h
      · cases h

end

theorem arrangement_ne_tooLarge (v : Value) : v.arrangement ≠ .error .tooLarge := by
  intro h
  rcases bind_eq_error_iff.mp h with h | ⟨arranged, -, h⟩
  · exact nesting_ne_tooLarge v h
  · split at h <;> cases h

theorem pairs_ne_tooLarge (numbers : List Float) : pairs numbers ≠ .error .tooLarge := by
  induction numbers using pairs.induct with
  | case1 => nofun
  | case2 => nofun
  | case3 x y rest ih =>
    intro h
    rw [pairs] at h
    rcases bind_eq_error_iff.mp h with h | ⟨others, -, h⟩
    · exact ih h
    · cases h

/-- Is the first number of a polygon that cannot be read one out of range? Before any number is
read, the items have to make a rectangular arrangement. -/
def OversizedWithin (v : Value) : Prop :=
  (∀ dims numbers, v ≠ block dims numbers) ∧ ∃ items arranged before leaf after,
    v.items? = some items ∧ (list items).arrangement = .ok arranged ∧
    arranged.leaves = before ++ leaf :: after ∧
    (∀ b ∈ before, ∃ x, b.arrangedNumber = .ok x) ∧ leaf.Oversized

theorem numbers_eq_tooLarge_iff {v : Value} : v.numbers = .error .tooLarge ↔
    ∃ arranged before leaf after, v.arrangement = .ok arranged ∧
      arranged.leaves = before ++ leaf :: after ∧
      (∀ b ∈ before, ∃ x, b.arrangedNumber = .ok x) ∧ leaf.Oversized := by
  rw [numbers, bind_eq_error_iff]
  constructor
  · rintro (h | ⟨arranged, harranged, h⟩)
    · exact absurd h (arrangement_ne_tooLarge v)
    · obtain ⟨before, leaf, after, hleaves, hbefore, hleaf⟩ := mapM_eq_error_iff.mp h
      exact ⟨arranged, before, leaf, after, harranged, hleaves, hbefore,
        arrangedNumber_eq_tooLarge_iff.mp hleaf⟩
  · rintro ⟨arranged, before, leaf, after, harranged, hleaves, hbefore, hleaf⟩
    exact .inr ⟨arranged, harranged, mapM_eq_error_iff.mpr
      ⟨before, leaf, after, hleaves, hbefore, arrangedNumber_eq_tooLarge_iff.mpr hleaf⟩⟩

theorem polygon_eq_tooLarge_iff {v : Value} :
    v.polygon = .error .tooLarge ↔ v.OversizedWithin := by
  unfold polygon
  split
  · next dims numbers =>
    exact iff_of_false (pairs_ne_tooLarge _) fun h => h.1 dims numbers rfl
  · next hblock =>
    have hnone : ∀ dims numbers, v ≠ block dims numbers := hblock
    cases hitems : v.items? with
    | none =>
      refine iff_of_false nofun ?_
      rintro ⟨-, items, _, _, _, _, h, -⟩
      cases hitems.symm.trans h
    | some items =>
      simp only [bind_eq_error_iff, numbers_eq_tooLarge_iff]
      constructor
      · rintro (⟨arranged, before, leaf, after, h⟩ | ⟨numbers, -, h⟩)
        · exact ⟨hnone, items, arranged, before, leaf, after, hitems, h⟩
        · exact absurd h (pairs_ne_tooLarge numbers)
      · rintro ⟨-, items', arranged, before, leaf, after, h, hleaf⟩
        cases hitems.symm.trans h
        exact .inl ⟨arranged, before, leaf, after, hleaf⟩

/-! ## What is shown of the parts of a value -/

theorem holdLong_of_mem {items : List Value} {item : Value} (h : item ∈ items)
    (hlong : item.holdsLong = true) : holdLong items = true := by
  induction h with
  | head => rw [holdLong, hlong, Bool.true_or]
  | tail _ _ ih => rw [holdLong, ih, Bool.or_true]

theorem holdsLong_ofQuantity (q : Quantity) : (ofQuantity q).holdsLong = longQuantity q := by
  cases q <;> rfl

/-- A coordinate is no polygon. -/
theorem not_oversizedWithin_ofQuantity (q : Quantity) : ¬ (ofQuantity q).OversizedWithin := by
  rintro ⟨-, items, _, _, _, _, h, -⟩
  cases q <;> cases h

end Value

/-! ## How a reading ends -/

namespace Coercion

variable {α β : Type} {good : α → Prop} {overflow : Prop} {value : Value} {what : String}

/-- The ways in which reading a value can end: with a good result, or with a fault, and one of range
only where there is an overflow. -/
inductive Ends (good : α → Prop) (overflow : Prop) (value : Value) : Except CoercionFault α → Prop
  | gives {x : α} (h : good x) : Ends good overflow value (.ok x)
  | refuses {fault : CoercionFault} (h : fault.IsRefusal) : Ends good overflow value (.error fault)
  /-- The value cannot be shown to be refused. -/
  | unshown (h : value.holdsLong = true) : Ends good overflow value (.error .unshown)
  | outOfRange (h : overflow) : Ends good overflow value (.error .outOfRange)

theorem ends_showing {fault : String → CoercionFault} (h : ∀ s, (fault s).IsRefusal) :
    Ends good overflow value (showing fault value) := by
  unfold showing Value.display?
  cases hlong : value.holdsLong with
  | true => exact .unshown hlong
  | false => exact .refuses (h _)

theorem ends_refuse : Ends good overflow value (refuse what value) :=
  ends_showing fun _ => trivial

theorem ends_refuseKind : Ends good overflow value (refuseKind what value) := .refuses trivial

theorem ends_reading (read : Except ReadFault α) :
    Ends (fun _ => True) (read = .error .tooLarge) value (reading read what value) := by
  cases read with
  | ok x => exact .gives trivial
  | error fault =>
    cases fault with
    | tooLarge => exact .outOfRange rfl
    | _ => exact ends_refuse

theorem reading_tooLarge :
    reading (.error .tooLarge : Except ReadFault α) what value = .error .outOfRange := rfl

namespace Ends

variable {overflow' : Prop} {r : Except CoercionFault α}

theorem mono (h : Ends good overflow value r) (himp : overflow → overflow') :
    Ends good overflow' value r := by
  cases h with
  | gives h => exact .gives h
  | refuses h => exact .refuses h
  | unshown h => exact .unshown h
  | outOfRange h => exact .outOfRange (himp h)

/-- What is made of a good result is good. -/
theorem map (h : Ends good overflow value r) {good' : β → Prop} {f : α → β}
    (hf : ∀ x, good x → good' (f x)) : Ends good' overflow value (r >>= fun x => .ok (f x)) := by
  cases h with
  | gives h => exact .gives (hf _ h)
  | refuses h => exact .refuses h
  | unshown h => exact .unshown h
  | outOfRange h => exact .outOfRange h

end Ends

/-- A list read entry by entry ends as the first entry that gives nothing. -/
theorem ends_mapM {f : Value → Except CoercionFault α} {overflows : Value → Prop}
    {items : List Value} (hf : ∀ item, Ends (fun _ => True) (overflows item) item (f item))
    (hlong : ∀ item ∈ items, item.holdsLong = true → value.holdsLong = true) :
    Ends (fun _ => True) (∃ before entry after, items = before ++ entry :: after ∧
      (∀ b ∈ before, ∃ x, f b = .ok x) ∧ overflows entry) value (items.mapM f) := by
  cases hread : items.mapM f with
  | ok xs => exact .gives trivial
  | error fault =>
    obtain ⟨before, entry, after, rfl, hbefore, hentry⟩ := mapM_eq_error_iff.mp hread
    have hends := hf entry
    rw [hentry] at hends
    cases hends with
    | refuses h => exact .refuses h
    | unshown h => exact .unshown (hlong entry (by simp) h)
    | outOfRange h => exact .outOfRange ⟨before, entry, after, rfl, hbefore, h⟩

end Coercion

/-! ## Kind by kind -/

namespace DataKind

open Coercion

variable {kind : DataKind} {value : Value}

/-- Does coercion meet a whole number that is out of the range of floating point? A point is read
number by number, and a list of polygons entry by entry. -/
def Overflows : DataKind → Value → Prop
  | number, value => value.Oversized
  | point2D, value => ∃ x y, value.items? = some [x, y] ∧
    (x.Oversized ∨ (∃ a, x.number = .ok a) ∧ y.Oversized)
  | point2DList, value => ∃ before entry after,
    (value = .list (before ++ entry :: after) ∨ value = .tuple (before ++ entry :: after)) ∧
    (∀ b ∈ before, ∃ outline, toOutline b = .ok outline) ∧ entry.OversizedWithin
  | _, _ => False

theorem ends_toNumber (value : Value) :
    Ends (fun _ => True) value.Oversized value (toNumber value) := by
  unfold toNumber
  split <;>
    first | exact (ends_reading _).mono Value.number_eq_tooLarge_iff.mp | exact ends_refuse

theorem toNumber_of_oversized (h : value.Oversized) : toNumber value = .error .outOfRange := by
  have hnumber := Value.number_eq_tooLarge_iff.mpr h
  obtain ⟨i, -, rfl | ⟨format, rfl⟩⟩ := h <;> rw [toNumber, hnumber, reading_tooLarge]

theorem ends_toBoolean (value : Value) :
    Ends (boolean.Gives value) False value (toBoolean value) := by
  have hplain : ∀ {value : Value} {b : Bool}, ¬ value.IsStoredNumber →
      Ends (boolean.Gives value) False value (.ok (.bool b)) :=
    fun h => .gives (.inl ⟨fun hkeeps => h hkeeps.2, _, rfl⟩)
  unfold toBoolean
  split
  case h_1 | h_2 | h_3 | h_4 => exact hplain id
  case h_5 | h_6 => exact .gives (.inr ⟨⟨rfl, trivial⟩, _, rfl⟩)
  case h_7 | h_8 =>
    split
    · exact hplain id
    · exact ends_refuse
  case h_9 => exact ends_refuse

/-- What is of another kind than a truth value keeps no format. -/
theorem gives_of_isOf {v : Value} (hkind : kind ≠ boolean) (h : kind.IsOf v) :
    kind.Gives value v :=
  .inl ⟨fun hkeeps => hkind hkeeps.1, h⟩

theorem ends_toText (value : Value) : Ends (string.Gives value) False value (toText value) := by
  unfold toText
  split
  · exact .gives (gives_of_isOf nofun ⟨_, .inl rfl⟩)
  · exact .gives (gives_of_isOf nofun ⟨_, .inr rfl⟩)
  · exact .gives (gives_of_isOf nofun ⟨_, .inl rfl⟩)
  · exact ends_refuse

theorem ends_toShape (value : Value) : Ends (fun _ => True) False value (toShape value) := by
  have hunknown : Ends (fun (_ : ShapeKind) => True) False value (showing .unknownShape value) :=
    ends_showing fun _ => trivial
  unfold toShape
  split
  · exact .gives trivial
  · split
    · exact .gives trivial
    · exact hunknown
  · split
    · exact .gives trivial
    · exact hunknown
  · exact hunknown

theorem ends_toPattern (value : Value) : Ends (fun _ => True) False value (toPattern value) := by
  unfold toPattern
  split
  · exact .gives trivial
  · exact ends_refuseKind

theorem ends_toMesh (value : Value) : Ends (fun _ => True) False value (toMesh value) := by
  unfold toMesh
  split
  · exact .gives trivial
  · exact ends_refuseKind

theorem ends_toSections (value : Value) : Ends (fun _ => True) False value (toSections value) := by
  unfold toSections
  split
  · exact .gives trivial
  · exact ends_refuseKind

theorem point_eq_tooLarge_iff {x y : Value} :
    (do return ⟨← x.number, ← y.number⟩ : Except ReadFault (Point Float)) = .error .tooLarge ↔
      x.Oversized ∨ (∃ a, x.number = .ok a) ∧ y.Oversized := by
  simp only [bind_eq_error_iff, Value.number_eq_tooLarge_iff]
  constructor
  · rintro (hx | ⟨a, ha, hy | ⟨b, -, h⟩⟩)
    · exact .inl hx
    · exact .inr ⟨⟨a, ha⟩, hy⟩
    · cases h
  · exact fun h => h.imp_right fun ⟨⟨a, ha⟩, hy⟩ => ⟨a, ha, .inl hy⟩

theorem ends_toPoint (value : Value) :
    Ends (fun _ => True) (point2D.Overflows value) value (toPoint value) := by
  unfold toPoint
  split
  · next x y hitems =>
    exact (ends_reading _).mono fun h => ⟨x, y, hitems, point_eq_tooLarge_iff.mp h⟩
  · exact ends_refuse

theorem toPoint_of_overflows (h : point2D.Overflows value) :
    toPoint value = .error .outOfRange := by
  obtain ⟨x, y, hitems, h⟩ := h
  unfold toPoint
  rw [hitems]
  show reading (do return ⟨← x.number, ← y.number⟩ : Except ReadFault (Point Float)) _ _ = _
  rw [point_eq_tooLarge_iff.mpr h, reading_tooLarge]

theorem ends_toOutline (value : Value) :
    Ends (fun _ => True) value.OversizedWithin value (toOutline value) := by
  unfold toOutline
  split
  · exact .gives trivial
  · exact ((ends_reading _).mono Value.polygon_eq_tooLarge_iff.mp).map fun _ => id

theorem toOutline_of_oversizedWithin (h : value.OversizedWithin) :
    toOutline value = .error .outOfRange := by
  unfold toOutline
  split
  · obtain ⟨-, items, _, _, _, _, hitems, -⟩ := h
    cases hitems
  · rw [Value.polygon_eq_tooLarge_iff.mpr h, reading_tooLarge]
    rfl

theorem ends_toOutlines (value : Value) :
    Ends (fun _ => True) (point2DList.Overflows value) value (toOutlines value) := by
  unfold toOutlines
  split
  · next items =>
    have hlong : ∀ item ∈ items, item.holdsLong = true → (Value.list items).holdsLong = true :=
      fun item h hitem => Value.holdLong_of_mem h hitem
    refine (ends_mapM ends_toOutline hlong).mono ?_
    rintro ⟨before, entry, after, rfl, h⟩
    exact ⟨before, entry, after, .inl rfl, h⟩
  · next items =>
    have hlong : ∀ item ∈ items, item.holdsLong = true → (Value.tuple items).holdsLong = true :=
      fun item h hitem => Value.holdLong_of_mem h hitem
    refine (ends_mapM ends_toOutline hlong).mono ?_
    rintro ⟨before, entry, after, rfl, h⟩
    exact ⟨before, entry, after, .inr rfl, h⟩
  · next p =>
    -- the coordinates of a point are no polygons
    refine (ends_mapM ends_toOutline fun item h hlong => ?_).mono ?_
    · have hpoint : (Value.point p).holdsLong
          = Value.holdLong [.ofQuantity p.x, .ofQuantity p.y] := by
        rw [Value.holdLong, Value.holdLong, Value.holdLong, Value.holdsLong_ofQuantity,
          Value.holdsLong_ofQuantity, Bool.or_false]
        rfl
      rw [hpoint]
      exact Value.holdLong_of_mem h hlong
    · rintro ⟨before, entry, after, heq, -, hentry⟩
      have hmem : entry ∈ [Value.ofQuantity p.x, Value.ofQuantity p.y] := by simp [heq]
      simp only [List.mem_cons, List.not_mem_nil, or_false] at hmem
      rcases hmem with rfl | rfl <;> exact absurd hentry (Value.not_oversizedWithin_ofQuantity _)
  · exact ends_refuseKind

theorem toOutlines_of_overflows (h : point2DList.Overflows value) :
    toOutlines value = .error .outOfRange := by
  obtain ⟨before, entry, after, hvalue, hbefore, hentry⟩ := h
  have hread : (before ++ entry :: after).mapM toOutline = .error .outOfRange :=
    mapM_eq_error_iff.mpr
      ⟨before, entry, after, rfl, hbefore, toOutline_of_oversizedWithin hentry⟩
  rcases hvalue with rfl | rfl <;> exact hread

theorem ends_coerceValue (kind : DataKind) (value : Value) :
    Ends (kind.Gives value) (kind.Overflows value) value (kind.coerceValue value) := by
  cases kind with
  | number => exact (ends_toNumber value).map fun x _ => gives_of_isOf nofun ⟨x, rfl⟩
  | boolean => exact ends_toBoolean value
  | string => exact ends_toText value
  | shapeKind => exact (ends_toShape value).map fun k _ => gives_of_isOf nofun ⟨k, rfl⟩
  | pattern => exact (ends_toPattern value).map fun ps _ => gives_of_isOf nofun ⟨ps, rfl⟩
  | geometry => exact (ends_toMesh value).map fun m _ => gives_of_isOf nofun ⟨m, rfl⟩
  | crossSectionSet => exact (ends_toSections value).map fun ss _ => gives_of_isOf nofun ⟨ss, rfl⟩
  | point2D => exact (ends_toPoint value).map fun p _ => gives_of_isOf nofun ⟨p, rfl⟩
  | point2DList => exact (ends_toOutlines value).map fun os _ => gives_of_isOf nofun ⟨os, rfl⟩

theorem coerceValue_of_overflows (h : kind.Overflows value) :
    kind.coerceValue value = .error .outOfRange := by
  cases kind with
  | number => rw [coerceValue, toNumber_of_oversized h]; rfl
  | point2D => rw [coerceValue, toPoint_of_overflows h]; rfl
  | point2DList => rw [coerceValue, toOutlines_of_overflows h]; rfl
  | _ => cases h

theorem not_overflows_null (kind : DataKind) : ¬ kind.Overflows .null := by
  cases kind <;> simp [Overflows, Value.Oversized, Value.items?]

theorem coerce_of_ne_null (h : value ≠ .null) : kind.coerce value = kind.coerceValue value := by
  rw [coerce, if_neg (mt (Value.isNull_iff value).mp h)]

/-- What is of the kind already stays as it is. -/
theorem coerce_of_isOf (h : kind.IsOf value) : kind.coerce value = .ok value := by
  cases kind with
  | number =>
    obtain ⟨x, rfl⟩ := h
    exact coerce_float x
  | boolean =>
    obtain ⟨b, rfl⟩ := h
    exact coerce_bool b
  | string => obtain ⟨s, rfl | rfl⟩ := h <;> rfl
  | shapeKind =>
    obtain ⟨k, rfl⟩ := h
    exact coerce_shape k
  | pattern =>
    obtain ⟨ps, rfl⟩ := h
    exact coerce_placements ps
  | geometry =>
    obtain ⟨m, rfl⟩ := h
    rfl
  | crossSectionSet =>
    obtain ⟨ss, rfl⟩ := h
    exact coerce_sections ss
  | point2D =>
    obtain ⟨p, rfl⟩ := h
    rfl
  | point2DList =>
    obtain ⟨os, rfl⟩ := h
    exact coerce_outlines os

end DataKind

/-- **Coercion gives a value of the kind or refuses**, unless a number is too large. The absent
value passes and nothing else becomes it. A whole number out of the range of floating point, met
where a number, a point or a polygon is read, is a fault of its own, and what holds a whole number
too long to be shown may be refused without being shown. Only the truth value of a number in a
storage format is not of the kind. What is of the kind already is given back. -/
theorem coercion_gives_kind_or_refuses (kind : DataKind) (value : Value) :
    ((∃ v, kind.coerce value = .ok v ∧
        (value = .null ∧ v = .null ∨ value ≠ .null ∧ v ≠ .null ∧ kind.Gives value v)) ∨
      (∃ fault, kind.coerce value = .error fault ∧ fault.IsRefusal) ∨
      (kind.coerce value = .error .unshown ∧ value.holdsLong = true) ∨
      kind.coerce value = .error .outOfRange) ∧
    (kind.coerce value = .error .outOfRange ↔ kind.Overflows value) ∧
    (kind.IsOf value → kind.coerce value = .ok value) := by
  refine and_assoc.mp ⟨?_, DataKind.coerce_of_isOf⟩
  rcases eq_or_ne value .null with rfl | hne
  · exact ⟨.inl ⟨.null, rfl, .inl ⟨rfl, rfl⟩⟩, iff_of_false nofun kind.not_overflows_null⟩
  · rw [DataKind.coerce_of_ne_null hne]
    have hrange : kind.coerceValue value = .error .outOfRange ↔ kind.Overflows value := by
      refine ⟨fun h => ?_, DataKind.coerceValue_of_overflows⟩
      have hends := kind.ends_coerceValue value
      rw [h] at hends
      cases hends with
      | refuses h => cases h
      | outOfRange h => exact h
    refine ⟨?_, hrange⟩
    have hends := kind.ends_coerceValue value
    generalize kind.coerceValue value = result at hends
    cases hends with
    | gives h => exact .inl ⟨_, rfl, .inr ⟨hne, h.ne_null, h⟩⟩
    | refuses h => exact .inr (.inl ⟨_, rfl, h⟩)
    | unshown h => exact .inr (.inr (.inl ⟨rfl, h⟩))
    | outOfRange h => exact .inr (.inr (.inr rfl))

/-- A whole number out of the range of floating point is not refused, nor is a point or a polygon
that has it for a coordinate. -/
theorem oversized_number_is_not_refused :
    DataKind.number.coerce (.int (10 ^ 400)) = .error .outOfRange ∧
      DataKind.point2D.coerce (.list [.int (10 ^ 400), .int 0]) = .error .outOfRange ∧
      DataKind.point2DList.coerce (.list [.list [.list [.int (10 ^ 400), .int 0]]])
        = .error .outOfRange ∧
      ¬ CoercionFault.outOfRange.IsRefusal := by
  have hlarge : floatOfInt? (10 ^ 400) = none := Option.isNone_iff_eq_none.mp (by decide +kernel)
  generalize (10 : Int) ^ 400 = i at hlarge ⊢
  have hnumber : DataKind.number.Overflows (.int i) := ⟨i, hlarge, .inl rfl⟩
  have hpoint : DataKind.point2D.Overflows (.list [.int i, .int 0]) := ⟨_, _, rfl, .inl hnumber⟩
  have hpolygon : (Value.list [.list [.int i, .int 0]]).OversizedWithin :=
    ⟨nofun, _, _, [], _, [.int 0], rfl, rfl, rfl, nofun, hnumber⟩
  have hpolygons : DataKind.point2DList.Overflows (.list [.list [.list [.int i, .int 0]]]) :=
    ⟨[], _, [], .inl rfl, nofun, hpolygon⟩
  exact ⟨DataKind.coerceValue_of_overflows hnumber, DataKind.coerceValue_of_overflows hpoint,
    DataKind.coerceValue_of_overflows hpolygons, id⟩

end LoftGraph
