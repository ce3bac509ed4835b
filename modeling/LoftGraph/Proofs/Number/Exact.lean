import LoftGraph.Decimal.Binary
import Mathlib

/-!
# Whole numbers that floating point holds exactly

A whole number of magnitude at most `2 ^ 53` becomes a floating point number without loss, and
never an infinite one (`exact_of_le`).

A positive number below `2 ^ 53` is a mantissa of 53 bits, shifted (`Normal`).  The conversion
rounds it twice, once on its own and once as a factor of one; rounding drops zeros only
(`roundWithAccuracy_shifted`), and the parts are read back off the bits (`ofFloat?_packed`).
-/

namespace LoftGraph

open Float.Model Float.Model.UnpackedFloat

/-- A mantissa of 53 bits with an exponent in the range of numbers that have such a mantissa. -/
structure Normal (m : Nat) (e : Int) : Prop where
  log2_eq : m.log2 = 52
  le_exponent : -1074 ≤ e
  exponent_le : e ≤ 971

theorem Normal.pos {m : Nat} {e : Int} (h : Normal m e) : 0 < m := by
  rcases Nat.eq_zero_or_pos m with rfl | hpos
  · cases h.log2_eq
  · exact hpos

/-- The floating point number of a sign, a mantissa and an exponent. -/
def packed {m : Nat} {e : Int} (s : Sign) (h : Normal m e) : Float :=
  .ofModel (.pack (.finite s m e h.pos))

/-! ## Rounding -/

theorem log2_shiftLeft {m : Nat} (h : 0 < m) (j : Nat) : (m <<< j).log2 = m.log2 + j := by
  induction j with
  | zero => rfl
  | succ j ih =>
    rw [Nat.shiftLeft_succ, Nat.log2_two_mul (Nat.ne_of_gt (Nat.shiftLeft_pos_iff.mpr h)), ih]
    rfl

/-- Zeros at the end of a mantissa are dropped without a trace. -/
theorem shiftRight_shiftLeft (m j : Nat) :
    (⟨m <<< j, false, false⟩ : ExtendedMantissa) >>> j = ⟨m, false, false⟩ := by
  have hrepeat : ∀ i, j.repeat ExtendedMantissa.shiftRightOne ⟨m <<< (i + j), false, false⟩
      = ⟨m <<< i, false, false⟩ := by
    induction j with
    | zero => exact fun _ => rfl
    | succ j ih =>
      intro i
      have hassoc : i + (j + 1) = i + 1 + j := by omega
      have hhalf : 2 * m <<< i / 2 = m <<< i := Nat.mul_div_cancel_left _ (by omega)
      have hlast : 2 * m <<< i % 2 = 0 := Nat.mul_mod_right _ _
      rw [Nat.repeat, hassoc, ih, Nat.shiftLeft_succ, ExtendedMantissa.shiftRightOne]
      simp only [hhalf, hlast]
      rfl
  have hall := hrepeat 0
  rw [Nat.zero_add] at hall
  exact hall

section Normal

variable {m : Nat} {e : Int}

theorem targetExponent_add (h : Normal m e) : Format.binary64.targetExponent (e + 53) = e := by
  have hwidth : e + 53 - (Format.binary64.mantissaBits : Int) = e := Int.add_sub_cancel e 53
  rw [Format.targetExponent, hwidth]
  exact Int.max_eq_left h.le_exponent

theorem shiftToTargetExponent_shifted (h : Normal m e) (j : Nat) :
    shiftToTargetExponent Format.binary64 (m <<< j) (e - j) .exact = (⟨m, false, false⟩, e) := by
  have htotal : totalExponent (m <<< j) (e - j) = e + 53 := by
    rw [totalExponent, log2_shiftLeft h.pos, h.log2_eq]
    omega
  have hshift : (e - (e - (j : Int))).toNat = j := by omega
  have hback : e - (j : Int) + (j : Int) = e := by omega
  rw [shiftToTargetExponent, htotal, targetExponent_add h]
  simp only [shiftToExponent, ExtendedMantissa.ofMantissaAndAccuracy, hshift, hback,
    shiftRight_shiftLeft]

/-- A mantissa of 53 bits is not touched by rounding, however many zeros follow it. -/
theorem roundWithAccuracy_shifted (s : Sign) (h : Normal m e) (j : Nat) :
    roundWithAccuracy Format.binary64 s (m <<< j) (e - j) .exact = .finite s m e h.pos := by
  have hagain : shiftToTargetExponent Format.binary64 m e .exact = (⟨m, false, false⟩, e) := by
    simpa using shiftToTargetExponent_shifted h 0
  have hround : ExtendedMantissa.roundedMantissa ⟨m, false, false⟩ = m := rfl
  rw [roundWithAccuracy, shiftToTargetExponent_shifted h]
  simp only [hround, hagain]
  exact dif_neg (Nat.ne_of_gt h.pos)

theorem roundWithAccuracy_normal (s : Sign) (h : Normal m e) :
    roundWithAccuracy Format.binary64 s m e .exact = .finite s m e h.pos := by
  simpa using roundWithAccuracy_shifted s h 0

/-! ## Bits -/

theorem toNat_packComponents (s : Sign) (e : BitVec 11) (m : BitVec 52) :
    (packComponents Format.binary64 s e m).toNat
      = s.toBitVec.toNat <<< 63 + e.toNat <<< 52 + m.toNat := by
  rw [packComponents, BitVec.toNat_append, ← Nat.shiftLeft_add_eq_or_of_lt m.isLt,
    BitVec.toNat_append, ← Nat.shiftLeft_add_eq_or_of_lt e.isLt]
  have hexpand : (s.toBitVec.toNat <<< 11 + e.toNat) <<< 52
      = s.toBitVec.toNat <<< 63 + e.toNat <<< 52 := by omega
  exact congrArg (· + m.toNat) hexpand

theorem pack_normal (s : Sign) (h : Normal m e) :
    UnpackedFloat.pack Format.binary64 (.finite s m e h.pos)
      = packComponents Format.binary64 s (BitVec.ofNat 11 (e + 1075).toNat)
        (BitVec.ofNat 52 m) := by
  have hle := h.le_exponent
  have hge := h.exponent_le
  have hbiased : e + (Format.binary64.exponentBias : Int)
      + (Format.binary64.mantissaBitsWithoutImplicit : Int) = e + 1075 :=
    Int.add_assoc e 1023 52
  have hfits : ¬ 2048 ≤ (e + 1075).toNat + 1 := by omega
  rw [UnpackedFloat.pack]
  simp only [hbiased, h.log2_eq]
  exact (if_neg hfits).trans (if_pos rfl)

/-- The leading bit of the mantissa is set. -/
theorem Normal.bounds (h : Normal m e) : 1 <<< 52 ≤ m ∧ m < 1 <<< 53 :=
  (Nat.log2_eq_iff (Nat.ne_of_gt h.pos)).mp h.log2_eq

theorem Normal.toNat_exponent (h : Normal m e) :
    (BitVec.ofNat 11 (e + 1075).toNat).toNat = (e + 1075).toNat :=
  Nat.mod_eq_of_lt (by have := h.exponent_le; omega)

/-- The leading bit of the mantissa is not kept. -/
theorem Normal.toNat_mantissa (h : Normal m e) : (BitVec.ofNat 52 m).toNat = m - 1 <<< 52 := by
  have hbounds := h.bounds
  rw [BitVec.toNat_ofNat]
  omega

/-- The parts of a number of 53 bits, as they are read off its bits. -/
theorem ofFloat?_packed (s : Sign) (h : Normal m e) :
    Binary.ofFloat? (packed s h) = some ⟨s.toBitVec.toNat == 1, m, e⟩ := by
  have hle := h.le_exponent
  have hge := h.exponent_le
  have hbounds := h.bounds
  have hsign := s.toBitVec.isLt
  have hbits : (packed s h).toBits.toNat
      = s.toBitVec.toNat <<< 63 + (e + 1075).toNat <<< 52 + (m - 1 <<< 52) := by
    rw [← h.toNat_exponent, ← h.toNat_mantissa, ← toNat_packComponents]
    exact congrArg BitVec.toNat (pack_normal s h)
  have hnegative : (packed s h).toBits.toNat / Nat.pow 2 63 = s.toBitVec.toNat := by
    rw [Nat.pow_eq, hbits]
    omega
  have hexponent : (packed s h).toBits.toNat / Nat.pow 2 52 % 2048 = (e + 1075).toNat := by
    rw [Nat.pow_eq, hbits]
    omega
  have hfraction : (packed s h).toBits.toNat % Nat.pow 2 52 = m - 1 <<< 52 := by
    rw [Nat.pow_eq, hbits]
    omega
  have hfinite : (e + 1075).toNat ≠ 2047 := by omega
  have hnormal : (e + 1075).toNat ≠ 0 := by omega
  have hmantissa : m - 1 <<< 52 + Nat.pow 2 52 = m := by
    rw [Nat.pow_eq]
    omega
  have hback : ((e + 1075).toNat : Int) - 1075 = e := by omega
  rw [Binary.ofFloat?]
  simp only [hnegative, hexponent, hfraction, hmantissa, hback]
  rw [if_neg hfinite, if_neg hnormal]

theorem unpack_packed (s : Sign) (h : Normal m e) :
    (packed s h).toModel.unpack = .finite s m e h.pos := by
  have hexponent := h.toNat_exponent
  have hle := h.le_exponent
  have hge := h.exponent_le
  have hfinite : BitVec.ofNat 11 (e + 1075).toNat ≠ -1#_ := by
    intro hones
    have : (e + 1075).toNat = 2047 := hexponent.symm.trans (congrArg BitVec.toNat hones)
    omega
  have hnormal : BitVec.ofNat 11 (e + 1075).toNat ≠ 0#_ := by
    intro hzero
    have : (e + 1075).toNat = 0 := hexponent.symm.trans (congrArg BitVec.toNat hzero)
    omega
  have hmantissa : (1#1 ++ BitVec.ofNat 52 m).toNat = m := by
    have hbounds := h.bounds
    rw [BitVec.toNat_append, ← Nat.shiftLeft_add_eq_or_of_lt (BitVec.isLt _), h.toNat_mantissa]
    exact Nat.add_sub_of_le hbounds.1
  have hback : ((e + 1075).toNat : Int) - (((Format.binary64.exponentBias : Nat) : Int)
      + (Format.binary64.mantissaBitsWithoutImplicit : Int)) = e := by
    have hbias : ((Format.binary64.exponentBias : Nat) : Int)
      + (Format.binary64.mantissaBitsWithoutImplicit : Int) = 1075 := rfl
    omega
  have hbits : (packed s h).toModel.toBits.toBitVec
      = packComponents Format.binary64 s (BitVec.ofNat 11 (e + 1075).toNat) (BitVec.ofNat 52 m) :=
    pack_normal s h
  rw [Float.Model.unpack, hbits, UnpackedFloat.unpack]
  simp only [unpackExponent_packComponents, unpackMantissa_packComponents,
    unpackSign_packComponents, Sign.ofBitVec_toBitVec, hexponent, hmantissa, hback]
  rw [if_neg hfinite, if_neg hnormal]

theorem isInf_packed (s : Sign) (h : Normal m e) : (packed s h).isInf = false := by
  rw [Float.isInf, Float.Model.isInf, unpack_packed s h]
  rfl

/-- A number of 53 bits times one. -/
theorem packed_mul_one (s : Sign) (h : Normal m e) :
    packed s h * Float.ofBits 0x3FF0000000000000 = packed s h := by
  have hone : (Float.ofBits 0x3FF0000000000000).toModel.unpack
      = .finite .positive (1 <<< 52) (-52) (by decide) := rfl
  have hsign : s * .positive = s := by cases s <;> rfl
  have hshift : m * 1 <<< 52 = m <<< 52 := by omega
  have hmul : packed s h * Float.ofBits 0x3FF0000000000000
      = .ofModel (.pack (UnpackedFloat.mul Format.binary64 (packed s h).toModel.unpack
        (Float.ofBits 0x3FF0000000000000).toModel.unpack)) := rfl
  rw [hmul, unpack_packed, hone, UnpackedFloat.mul, hsign, hshift]
  exact congrArg (fun x => Float.ofModel (.pack x)) (roundWithAccuracy_shifted s h 52)

end Normal

/-! ## The conversion -/

/-- A positive number below `2 ^ 53`, shifted to 53 bits. -/
theorem normal_shifted {n : Nat} (hpos : 0 < n) (hlt : n < 1 <<< 53) :
    Normal (n <<< (52 - n.log2)) ((n.log2 : Int) - 52) := by
  have hlog : n.log2 < 53 := (Nat.log2_lt (Nat.ne_of_gt hpos)).mpr hlt
  refine ⟨?_, by omega, by omega⟩
  rw [log2_shiftLeft hpos]
  omega

theorem toFloat_eq_packed {n : Nat} (hpos : 0 < n) (hlt : n < 1 <<< 53) :
    n.toUInt64.toFloat = packed .positive (normal_shifted hpos hlt) := by
  have hword : n.toUInt64.toNat = n := Nat.mod_eq_of_lt (by omega)
  have hgt : compare (n : Int) 0 = .gt := by
    rw [Int.compare_eq_gt]
    omega
  have htotal : totalExponent n 0 = (n.log2 : Int) - 52 + 53 := by
    rw [totalExponent]
    omega
  have hshift : (0 - ((n.log2 : Int) - 52)).toNat = 52 - n.log2 := by omega
  have hback : (0 : Int) - ((52 - n.log2 : Nat) : Int) = (n.log2 : Int) - 52 := by
    have hlog : n.log2 < 53 := (Nat.log2_lt (Nat.ne_of_gt hpos)).mpr hlt
    omega
  have hround : UnpackedFloat.ofNat Format.binary64 n
      = .finite .positive (n <<< (52 - n.log2)) ((n.log2 : Int) - 52)
        (normal_shifted hpos hlt).pos := by
    rw [UnpackedFloat.ofNat, UnpackedFloat.ofInt, UnpackedFloat.normalize, hgt]
    simp only [UnpackedFloat.round, decreaseExponent, Int.toNat_natCast, htotal,
      targetExponent_add (normal_shifted hpos hlt), hshift, hback]
    exact roundWithAccuracy_normal .positive (normal_shifted hpos hlt)
  have hconvert : n.toUInt64.toFloat
      = .ofModel (.pack (UnpackedFloat.ofNat Format.binary64 n.toUInt64.toNat)) := rfl
  rw [hconvert, hword, hround]
  rfl

theorem ofNat_eq_packed {n : Nat} (hpos : 0 < n) (hlt : n < 1 <<< 53) :
    Float.ofNat n = packed .positive (normal_shifted hpos hlt) := by
  have hfast : n < 2 ^ 53 ∧ 0 ≤ 22 := ⟨hlt, by omega⟩
  have hconvert : Float.ofNat n = n.toUInt64.toFloat * Float.ofBits 0x3FF0000000000000 :=
    dif_pos hfast
  rw [hconvert, toFloat_eq_packed hpos hlt, packed_mul_one]

theorem neg_packed {m : Nat} {e : Int} (s : Sign) (h : Normal m e) :
    (packed s h).neg = packed (-s) h := by
  have hneg : (packed s h).neg = .ofModel (.pack (packed s h).toModel.unpack.neg) := rfl
  rw [hneg, unpack_packed]
  rfl

/-- A number other than zero, below `2 ^ 53` in magnitude, has the parts of its magnitude. -/
theorem ofInt_eq_packed {i : Int} (hpos : 0 < i.natAbs) (hlt : i.natAbs < 1 <<< 53) :
    ∃ s, Float.ofInt i = packed s (normal_shifted hpos hlt) ∧ s.apply i.natAbs = i := by
  cases i with
  | ofNat n => exact ⟨.positive, ofNat_eq_packed hpos hlt, rfl⟩
  | negSucc n =>
    refine ⟨.negative, ?_, rfl⟩
    have hneg : Float.ofInt (.negSucc n) = (Float.ofNat (n + 1)).neg := rfl
    exact hneg.trans ((congrArg Float.neg (ofNat_eq_packed hpos hlt)).trans (neg_packed _ _))

/-- The shift to 53 bits is undone when the fraction is dropped. -/
theorem floor_shifted {n : Nat} (hpos : 0 < n) (hlt : n < 1 <<< 53) (negative : Bool) :
    (⟨negative, n <<< (52 - n.log2), (n.log2 : Int) - 52⟩ : Binary).floor = n := by
  have hlog : n.log2 < 53 := (Nat.log2_lt (Nat.ne_of_gt hpos)).mpr hlt
  have hnumerator : ((n.log2 : Int) - 52).toNat = 0 := by omega
  have hdenominator : (-((n.log2 : Int) - 52)).toNat = 52 - n.log2 := by omega
  rw [Binary.floor, Binary.scaled]
  simp only [hnumerator, hdenominator]
  rw [Nat.pow_eq, Nat.pow_eq, Nat.pow_zero, Nat.mul_one, Nat.shiftLeft_eq]
  exact Nat.mul_div_cancel n (Nat.two_pow_pos _)

/-- Does floating point hold a whole number exactly? -/
def HeldExactly (i : Int) : Prop :=
  countOfFloat (Float.ofInt i) = .ok i ∧ (Float.ofInt i).isInf = false

theorem exact_zero : HeldExactly 0 := by
  have hparts : Binary.ofFloat? (Float.ofInt 0) = some ⟨false, 0, -1074⟩ := by decide +kernel
  have hfloor : (⟨false, 0, -1074⟩ : Binary).floor = 0 := by
    rw [Binary.floor, Binary.scaled, Nat.zero_mul, Nat.zero_div]
  refine ⟨?_, by decide +kernel⟩
  rw [countOfFloat, hparts]
  exact congrArg (fun n : Nat => Except.ok (n : Int)) hfloor

/-- What a number of 53 bits says of the whole number it comes from. -/
theorem exact_of_packed {m : Nat} {e i : Int} {s : Sign} (h : Normal m e)
    (hpacked : Float.ofInt i = packed s h)
    (htruncate : (⟨s.toBitVec.toNat == 1, m, e⟩ : Binary).truncate = i) : HeldExactly i := by
  refine ⟨?_, ?_⟩
  · rw [countOfFloat, hpacked, ofFloat?_packed]
    exact congrArg Except.ok htruncate
  · rw [hpacked]
    exact isInf_packed s h

theorem exact_of_lt {i : Int} (hpos : 0 < i.natAbs) (hlt : i.natAbs < 1 <<< 53) :
    HeldExactly i := by
  obtain ⟨s, hpacked, hsign⟩ := ofInt_eq_packed hpos hlt
  refine exact_of_packed _ hpacked (Eq.trans ?_ hsign)
  rw [Binary.truncate, floor_shifted hpos hlt]
  cases s <;> rfl

theorem normal_limit : Normal (1 <<< 52) 1 := ⟨by decide, by decide, by decide⟩

/-- The limit has one bit more, which is zero. -/
theorem exact_limit {i : Int} (h : i.natAbs = 1 <<< 53) : HeldExactly i := by
  have hpositive : Float.ofInt 9007199254740992 = packed .positive normal_limit := by decide +kernel
  have hnegative : Float.ofInt (-9007199254740992) = packed .negative normal_limit := by
    decide +kernel
  rcases Int.natAbs_eq_iff.mp h with rfl | rfl
  · exact exact_of_packed normal_limit hpositive (by decide)
  · exact exact_of_packed normal_limit hnegative (by decide)

/-- Whole numbers of magnitude at most `2 ^ 53` are held exactly. -/
theorem exact_of_le {i : Int} (h : i.natAbs ≤ Nat.pow 2 53) : HeldExactly i := by
  rcases Nat.eq_zero_or_pos i.natAbs with hzero | hpos
  · obtain rfl := Int.natAbs_eq_zero.mp hzero
    exact exact_zero
  · rcases Nat.lt_or_eq_of_le h with hlt | hlimit
    · exact exact_of_lt hpos hlt
    · exact exact_limit hlimit

end LoftGraph
