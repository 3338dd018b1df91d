import Mathlib
import Primer.Proofs.Equality

/-!
# The values of numbers

A finite number stands for a rational number. Its sign and its magnitude are those that the bits of
the number give, and the comparison with zero, the test for whole numbers and the whole part are known
from the rational number alone.
-/

namespace Primer.Numeric

open Float.Model Float.Model.UnpackedFloat

/-! ## Numbers and their bits -/

/-- The rational number that an unpacked number stands for, unless it is infinite or NaN. -/
def rational? : UnpackedFloat → Option ℚ
  | .zero _ => some 0
  | .finite s m e _ => some ((s.apply m : ℚ) * 2 ^ e)
  | .infinity _ | .notANumber => none

def value? (x : Float) : Option ℚ := rational? x.toModel.unpack

def signOf (x : Float) : Sign := if isNegative x then .negative else .positive

section
variable (x : Float)

theorem unpackSign_eq :
    Sign.ofBitVec (@unpackSign Format.binary64 x.toModel.toBits.toBitVec) = signOf x := by
  have hsign : @unpackSign Format.binary64 x.toModel.toBits.toBitVec = 0#1 ↔
      ¬signWeight ≤ x.toBits.toNat := by
    have hlt := x.toModel.toBits.toNat_lt
    rw [← BitVec.toNat_inj]
    simp [unpackSign, BitVec.extractLsb, BitVec.extractLsb', Nat.shiftRight_eq_div_pow, signWeight,
      Float.toBits]
    omega
  rw [Sign.ofBitVec, signOf, isNegative]
  simp only [hsign, ite_not, decide_eq_true_eq]

theorem unpackMantissa_toNat :
    (@unpackMantissa Format.binary64 x.toModel.toBits.toBitVec).toNat =
      magnitudeBits x % 2 ^ 52 := by
  simp [unpackMantissa, BitVec.extractLsb, BitVec.extractLsb', magnitudeBits, signWeight,
    Float.toBits]

theorem unpackExponent_toNat :
    (@unpackExponent Format.binary64 x.toModel.toBits.toBitVec).toNat =
      magnitudeBits x / 2 ^ 52 := by
  simp [unpackExponent, BitVec.extractLsb, BitVec.extractLsb', Nat.shiftRight_eq_div_pow,
    magnitudeBits, signWeight, Float.toBits]
  omega

end

/-- A mantissa with the bit in front that is not stored. -/
theorem implicitBit_toNat (m : BitVec 52) : (1#1 ++ m).toNat = 2 ^ 52 + m.toNat := by
  rw [BitVec.toNat_append, ← Nat.shiftLeft_add_eq_or_of_lt m.isLt]
  rfl

/-- The value of a magnitude. -/
def Dyadic.value (d : Dyadic) : ℚ := d.mantissa * 2 ^ d.exponent

section
variable {x : Float}

theorem Dyadic.ofBits_small {bits : ℕ} (h : bits / 2 ^ 52 = 0) : Dyadic.ofBits bits = ⟨bits, -1074⟩ :=
  if_pos h

theorem Dyadic.ofBits_large {bits : ℕ} (h : bits / 2 ^ 52 ≠ 0) :
    Dyadic.ofBits bits = ⟨2 ^ 52 + bits % 2 ^ 52, (bits / 2 ^ 52 : ℕ) - 1075⟩ := if_neg h

theorem magnitudeBits_lt (h : isFinite x = true) : magnitudeBits x < infinityBits :=
  of_decide_eq_true h

theorem unpackExponent_ne (h : isFinite x = true) :
    @unpackExponent Format.binary64 x.toModel.toBits.toBitVec ≠ -1#_ := by
  have hfinite := magnitudeBits_lt h
  rw [ne_eq, ← BitVec.toNat_inj, unpackExponent_toNat]
  simp [infinityBits] at hfinite ⊢
  omega

theorem unpack_zero (h : magnitudeBits x = 0) : x.toModel.unpack = .zero (signOf x) := by
  have hfinite : isFinite x = true := by
    rw [isFinite, h]
    rfl
  have hexponent : @unpackExponent Format.binary64 x.toModel.toBits.toBitVec = 0#_ :=
    BitVec.eq_of_toNat_eq ((unpackExponent_toNat x).trans (by rw [h]; rfl))
  have hmantissa : @unpackMantissa Format.binary64 x.toModel.toBits.toBitVec = 0#_ :=
    BitVec.eq_of_toNat_eq ((unpackMantissa_toNat x).trans (by rw [h]; rfl))
  delta Float.Model.unpack UnpackedFloat.unpack
  rw [if_neg (unpackExponent_ne hfinite), if_pos hexponent, dif_pos hmantissa, unpackSign_eq]

/-- The mantissa and the exponent of a finite number other than zero are those of its magnitude. -/
theorem unpack_finite (hfinite : isFinite x = true) (h : magnitudeBits x ≠ 0) :
    ∃ hm, x.toModel.unpack =
      .finite (signOf x) (Dyadic.ofFloat x).mantissa (Dyadic.ofFloat x).exponent hm := by
  have hmantissa := unpackMantissa_toNat x
  have hcongr {s s' : Sign} {m m' : ℕ} {e e' : ℤ} (hm : 0 < m) (hs : s = s') (hm' : m = m')
      (he : e = e') : ∃ h, UnpackedFloat.finite s m e hm = .finite s' m' e' h := by
    subst hs hm' he
    exact ⟨hm, rfl⟩
  delta Float.Model.unpack UnpackedFloat.unpack
  rw [if_neg (unpackExponent_ne hfinite)]
  by_cases hsub : magnitudeBits x / 2 ^ 52 = 0
  · have hexponent : @unpackExponent Format.binary64 x.toModel.toBits.toBitVec = 0#_ :=
      BitVec.eq_of_toNat_eq ((unpackExponent_toNat x).trans hsub)
    have hne : @unpackMantissa Format.binary64 x.toModel.toBits.toBitVec ≠ 0#_ := by
      intro h0
      rw [h0] at hmantissa
      have hzero : 0 = magnitudeBits x % 2 ^ 52 := hmantissa
      omega
    have hsmall : magnitudeBits x % 2 ^ 52 = magnitudeBits x := by omega
    rw [if_pos hexponent, dif_neg hne, Dyadic.ofFloat, Dyadic.ofBits_small hsub]
    refine hcongr _ (unpackSign_eq x) (hmantissa.trans hsmall) ?_
    rw [hexponent]
    rfl
  · have hexponent := unpackExponent_toNat x
    have himplicit := (implicitBit_toNat
      (@unpackMantissa Format.binary64 x.toModel.toBits.toBitVec)).trans
        (congrArg (2 ^ 52 + ·) hmantissa)
    rw [if_neg fun h0 => hsub (by rw [← hexponent, h0]; rfl), Dyadic.ofFloat,
      Dyadic.ofBits_large hsub]
    refine hcongr _ (unpackSign_eq x) himplicit ?_
    rw [hexponent]
    rfl

/-- The value of a finite number is that of its magnitude, behind its sign. -/
theorem value?_eq (h : isFinite x = true) : value? x =
    some (if isNegative x then -(Dyadic.ofFloat x).value else (Dyadic.ofFloat x).value) := by
  by_cases hzero : magnitudeBits x = 0
  · have hd : Dyadic.ofFloat x = ⟨0, -1074⟩ := by
      rw [Dyadic.ofFloat, Dyadic.ofBits_small (by rw [hzero]; rfl), hzero]
    rw [value?, unpack_zero hzero, rational?, hd, Dyadic.value]
    simp
  · obtain ⟨hm, hunpack⟩ := unpack_finite h hzero
    rw [value?, hunpack, rational?, signOf, Dyadic.value]
    split <;> simp [Sign.apply]

theorem isFinite_of_value {q : ℚ} (h : value? x = some q) : isFinite x = true := by
  rw [← unpack_isFinite]
  rw [value?] at h
  cases hu : x.toModel.unpack with
  | infinity s | notANumber => rw [hu] at h; cases h
  | zero s | finite s m e hm => rfl

end

/-- A mantissa that is as large as it can be. -/
structure Dyadic.Normal (d : Dyadic) : Prop where
  mantissa_lt : d.mantissa < 2 ^ 53
  least : -1074 ≤ d.exponent
  implicit : d.exponent ≠ -1074 → 2 ^ 52 ≤ d.mantissa

theorem Dyadic.ofBits_normal (bits : ℕ) : (Dyadic.ofBits bits).Normal := by
  by_cases h : bits / 2 ^ 52 = 0
  · rw [ofBits_small h]
    exact ⟨show bits < 2 ^ 53 by omega, le_rfl, fun hne => absurd rfl hne⟩
  · rw [ofBits_large h]
    refine ⟨show 2 ^ 52 + bits % 2 ^ 52 < 2 ^ 53 by omega, ?_, fun _ => Nat.le_add_right _ _⟩
    show (-1074 : ℤ) ≤ (bits / 2 ^ 52 : ℕ) - 1075
    omega

/-! ## Magnitudes as fractions -/

theorem Dyadic.value_nonneg (d : Dyadic) : 0 ≤ d.value := by
  show (0 : ℚ) ≤ d.mantissa * 2 ^ d.exponent
  positivity

theorem Dyadic.den_pos (d : Dyadic) : 0 < d.den := Nat.pow_pos (by decide)

theorem Dyadic.value_eq (d : Dyadic) : d.value = d.num / d.den := by
  have hden : (d.den : ℚ) ≠ 0 := by exact_mod_cast d.den_pos.ne'
  rw [eq_div_iff hden, value, num, den, Nat.pow_eq, Nat.pow_eq]
  push_cast
  rw [mul_assoc, ← zpow_natCast, ← zpow_natCast, ← zpow_add₀ (by norm_num)]
  congr 2
  omega

/-- A mantissa is too small to have both a fraction that is small and digits in front of it. -/
theorem Dyadic.small_fraction_iff (d : Dyadic) (h : d.mantissa < 2 ^ 53) :
    d.num % d.den * Nat.pow 2 52 < d.den ↔ d.den ∣ d.num ∨ d.num * 2 ^ 52 < d.den := by
  rw [Nat.pow_eq]
  constructor
  · intro hsmall
    rcases Nat.lt_or_ge 52 (-d.exponent).toNat with hexp | hexp
    · have hnum : d.num = d.mantissa := by
        have hnat : d.exponent.toNat = 0 := by omega
        rw [num, hnat]
        exact Nat.mul_one _
      have hden : 2 ^ 53 ≤ d.den := Nat.pow_le_pow_right (by decide) hexp
      rw [Nat.mod_eq_of_lt (by omega)] at hsmall
      exact .inr hsmall
    · have hden : d.den ≤ 2 ^ 52 := Nat.pow_le_pow_right (by decide) hexp
      refine .inl (Nat.dvd_of_mod_eq_zero ?_)
      omega
  · rintro (hdvd | hlt)
    · rw [Nat.mod_eq_zero_of_dvd hdvd, Nat.zero_mul]
      exact d.den_pos
    · rwa [Nat.mod_eq_of_lt (by omega)]

theorem Dyadic.den_dvd_num_iff (d : Dyadic) : d.den ∣ d.num ↔ ∃ k : ℕ, d.value = k := by
  have hden : (d.den : ℚ) ≠ 0 := by exact_mod_cast d.den_pos.ne'
  simp only [d.value_eq, div_eq_iff hden]
  constructor
  · rintro ⟨k, hk⟩
    exact ⟨k, by rw [hk, Nat.cast_mul, mul_comm]⟩
  · rintro ⟨k, hk⟩
    exact ⟨k, by rw [mul_comm]; exact_mod_cast hk⟩

theorem Dyadic.value_lt_iff (d : Dyadic) : d.value < 1 / 2 ^ 52 ↔ d.num * 2 ^ 52 < d.den := by
  have hden : (0 : ℚ) < d.den := by exact_mod_cast d.den_pos
  rw [d.value_eq, div_lt_div_iff₀ hden (by positivity), one_mul]
  exact_mod_cast Iff.rfl

/-! ## Tests -/

/-- The order of the numbers is that of their values; here against zero. -/
theorem lt_zero_iff {x : Float} {q : ℚ} (h : value? x = some q) : x < 0.0 ↔ q < 0 := by
  have hlt : x < 0.0 ↔ x.toModel.unpack.lt (.zero .positive) = true := by
    show decide (x.toModel < (0.0 : Float).toModel) = true ↔ _
    rw [decide_eq_true_eq]
    rfl
  rw [hlt]
  rw [value?] at h
  cases hu : x.toModel.unpack with
  | infinity s | notANumber => rw [hu] at h; cases h
  | zero s =>
    rw [hu] at h
    cases h
    simp [UnpackedFloat.lt, UnpackedFloat.compare]
  | finite s m e hm =>
    rw [hu] at h
    cases h
    have hpos : (0 : ℚ) < m * 2 ^ e := by positivity
    cases s with
    | negative => simp [UnpackedFloat.lt, UnpackedFloat.compare, Sign.apply, hpos]
    | positive => simp [UnpackedFloat.lt, UnpackedFloat.compare, Sign.apply, hpos.le]

theorem abs_value {x : Float} {q : ℚ} (h : value? x = some q) : |q| = (Dyadic.ofFloat x).value := by
  rw [value?_eq (isFinite_of_value h)] at h
  cases h
  split
  · rw [abs_neg, abs_of_nonneg (Dyadic.value_nonneg _)]
  · rw [abs_of_nonneg (Dyadic.value_nonneg _)]

/-- A number passes for whole if its magnitude is a natural or lies closer to zero than `2 ^ -52`. -/
theorem isWhole_iff {x : Float} {q : ℚ} (h : value? x = some q) :
    isWhole x = true ↔ (∃ k : ℕ, |q| = k) ∨ |q| < 1 / 2 ^ 52 := by
  have hfinite := isFinite_of_value h
  rw [abs_value h, ← Dyadic.den_dvd_num_iff, Dyadic.value_lt_iff,
    ← (Dyadic.ofFloat x).small_fraction_iff (Dyadic.ofBits_normal _).mantissa_lt]
  simp [isWhole, hfinite]

theorem not_isWhole {x : Float} (h : value? x = none) : isWhole x = false := by
  cases hf : isFinite x with
  | true => rw [value?_eq hf] at h; cases h
  | false => simp [isWhole, hf]

theorem wholePart_eq {x : Float} {q : ℚ} (h : value? x = some q) : wholePart x = ⌊q⌋₊ := by
  have hfinite := isFinite_of_value h
  rw [value?_eq hfinite] at h
  cases h
  rw [wholePart]
  split
  · rw [Nat.floor_of_nonpos (neg_nonpos.mpr (Dyadic.value_nonneg _))]
  · rw [Dyadic.value_eq, Nat.floor_div_eq_div]

end Primer.Numeric
