import Primer.Proofs.NumberValues

/-!
# The order of numbers

Finite numbers are ordered as their values are. A number whose text is positional is zero, or lies
between a thousandth and ten million.
-/

namespace Primer.Numeric

open Float.Model Float.Model.UnpackedFloat

/-! ## Magnitudes in order -/

namespace Dyadic

variable {d d' : Dyadic}

theorem value_lt_of_exponent (h : d.Normal) (h' : d'.Normal) (hlt : d.exponent < d'.exponent) :
    d.value < d'.value := by
  have hleast := h.least
  have hm : (d.mantissa : ℚ) < 2 ^ 53 := by exact_mod_cast h.mantissa_lt
  have hm' : (2 : ℚ) ^ 52 ≤ d'.mantissa := by exact_mod_cast h'.implicit (by omega)
  calc d.value = d.mantissa * 2 ^ d.exponent := rfl
    _ < 2 ^ 53 * 2 ^ d.exponent := by gcongr
    _ = 2 ^ 52 * 2 ^ (d.exponent + 1) := by
      rw [zpow_add_one₀ two_ne_zero]
      ring
    _ ≤ 2 ^ 52 * 2 ^ d'.exponent := by
      gcongr
      · exact one_le_two
      · omega
    _ ≤ d'.mantissa * 2 ^ d'.exponent := by gcongr

/-- Normal magnitudes are ordered by their exponents, and then by their mantissas. -/
theorem compare_value (h : d.Normal) (h' : d'.Normal) :
    (compare d.exponent d'.exponent).then (compare d.mantissa d'.mantissa) =
      compare d.value d'.value := by
  rcases lt_trichotomy d.exponent d'.exponent with hlt | heq | hgt
  · rw [compare_lt_iff_lt.mpr hlt, compare_lt_iff_lt.mpr (value_lt_of_exponent h h' hlt)]
    rfl
  · rw [compare_eq_iff_eq.mpr heq, value, value, heq]
    have hpos : (0 : ℚ) < 2 ^ d'.exponent := by positivity
    show compare d.mantissa d'.mantissa = _
    rcases lt_trichotomy d.mantissa d'.mantissa with hm | hm | hm
    · rw [compare_lt_iff_lt.mpr hm, eq_comm, compare_lt_iff_lt]
      gcongr
    · rw [compare_eq_iff_eq.mpr hm, hm, compare_eq_iff_eq.mpr rfl]
    · rw [compare_gt_iff_gt.mpr hm, eq_comm, compare_gt_iff_gt]
      show _ < _
      gcongr
  · rw [compare_gt_iff_gt.mpr hgt, compare_gt_iff_gt.mpr (value_lt_of_exponent h' h hgt)]
    rfl

end Dyadic

/-! ## Magnitudes as numbers -/

section
variable {x y : Float} {bits : ℕ}

theorem toBits_ofMagnitude (h : bits < infinityBits) :
    (ofMagnitude false bits).toBits = UInt64.ofNat bits := by
  have hlt : bits < 2 ^ 64 := by
    rw [infinityBits] at h
    omega
  have hexponent : @unpackExponent Format.binary64 (UInt64.ofNat bits).toBitVec ≠ -1#_ := by
    rw [ne_eq, ← BitVec.toNat_inj]
    simp [unpackExponent, BitVec.extractLsb, BitVec.extractLsb', Nat.shiftRight_eq_div_pow]
    rw [infinityBits] at h
    omega
  have hself := Float.ofBits_toBits
    (.ofModel ⟨UInt64.ofNat bits, ⟨fun hnan => absurd hnan hexponent⟩⟩)
  exact congrArg Float.toBits hself

theorem magnitudeBits_ofMagnitude (h : bits < infinityBits) :
    magnitudeBits (ofMagnitude false bits) = bits := by
  rw [magnitudeBits, toBits_ofMagnitude h, UInt64.toNat_ofNat']
  rw [infinityBits] at h
  rw [signWeight]
  omega

theorem isNegative_ofMagnitude (h : bits < infinityBits) :
    isNegative (ofMagnitude false bits) = false := by
  rw [isNegative, toBits_ofMagnitude h, UInt64.toNat_ofNat', decide_eq_false_iff_not, signWeight]
  rw [infinityBits] at h
  omega

theorem signOf_positive (h : isNegative x = false) : signOf x = .positive := by
  rw [signOf, h]
  rfl

/-- The absolute value of a finite number has the same magnitude. -/
theorem abs_eq (h : isFinite x = true) : x.abs = ofMagnitude false (magnitudeBits x) := by
  have hfinite := magnitudeBits_lt h
  have hbits := magnitudeBits_ofMagnitude hfinite
  have hsign := signOf_positive (isNegative_ofMagnitude hfinite)
  have habs : (ofMagnitude false (magnitudeBits x)).toModel.unpack = x.toModel.unpack.abs := by
    by_cases hzero : magnitudeBits x = 0
    · rw [unpack_zero (hbits.trans hzero), unpack_zero hzero, hsign]
      rfl
    · obtain ⟨_, hx⟩ := unpack_finite h hzero
      obtain ⟨_, hy⟩ := unpack_finite (x := ofMagnitude false (magnitudeBits x))
        (by rw [isFinite, hbits]; exact decide_eq_true hfinite) (by rwa [hbits])
      rw [hx, hy, hsign]
      simp only [Dyadic.ofFloat, hbits]
      rfl
  have hself := Float.ofBits_toBits (ofMagnitude false (magnitudeBits x))
  rw [← hself]
  show Float.ofModel (pack x.toModel.unpack.abs) = _
  rw [← habs]
  rfl

theorem ofFloat_abs (h : isFinite x = true) : Dyadic.ofFloat x.abs = Dyadic.ofFloat x := by
  rw [abs_eq h, Dyadic.ofFloat, magnitudeBits_ofMagnitude (magnitudeBits_lt h), Dyadic.ofFloat]

/-! ## Comparison -/

/-- A finite number above zero. -/
structure IsPositive (x : Float) : Prop where
  isFinite : isFinite x = true
  nonzero : magnitudeBits x ≠ 0
  isNegative : isNegative x = false

theorem IsPositive.compare_eq (hx : IsPositive x) (hy : IsPositive y) :
    x.toModel.unpack.compare y.toModel.unpack =
      some (compare (Dyadic.ofFloat x).value (Dyadic.ofFloat y).value) := by
  obtain ⟨_, hunpack⟩ := unpack_finite hx.isFinite hx.nonzero
  obtain ⟨_, hunpack'⟩ := unpack_finite hy.isFinite hy.nonzero
  rw [hunpack, hunpack', signOf_positive hx.isNegative, signOf_positive hy.isNegative]
  exact congrArg some (Dyadic.compare_value (Dyadic.ofBits_normal _) (Dyadic.ofBits_normal _))

theorem IsPositive.lt_iff (hx : IsPositive x) (hy : IsPositive y) :
    x < y ↔ (Dyadic.ofFloat x).value < (Dyadic.ofFloat y).value := by
  have hlt : x < y ↔ x.toModel.unpack.lt y.toModel.unpack = true := by
    show decide (x.toModel < y.toModel) = true ↔ _
    rw [decide_eq_true_eq]
    rfl
  rw [hlt, UnpackedFloat.lt, hx.compare_eq hy, beq_iff_eq, Option.some.injEq, compare_lt_iff_lt]

theorem IsPositive.le_iff (hx : IsPositive x) (hy : IsPositive y) :
    x ≤ y ↔ (Dyadic.ofFloat x).value ≤ (Dyadic.ofFloat y).value := by
  have hle : x ≤ y ↔ x.toModel.unpack.le y.toModel.unpack = true := by
    show decide (x.toModel ≤ y.toModel) = true ↔ _
    rw [decide_eq_true_eq]
    rfl
  rw [hle, UnpackedFloat.le, hx.compare_eq hy, Option.any_some, Ordering.isLE_iff_ne_gt,
    compare_gt_iff_gt.not, not_lt]

/-! ## The range of positional texts -/

theorem thousandth_positive : IsPositive 1e-3 := by
  refine ⟨?_, ?_, ?_⟩ <;> decide +kernel

theorem tenMillion_positive : IsPositive 1e7 := by
  refine ⟨?_, ?_, ?_⟩ <;> decide +kernel

/-- The number that is written as a thousandth is the least one that is not below a thousandth. -/
theorem thousandth_le_iff {d : Dyadic} (h : d.Normal) :
    (Dyadic.ofFloat 1e-3).value ≤ d.value ↔ 1 / 1000 ≤ d.value := by
  have hd : Dyadic.ofFloat 1e-3 = ⟨4611686018427388, -62⟩ := by decide +kernel
  have hvalue : (Dyadic.ofFloat 1e-3).value = 4611686018427388 / 2 ^ 62 := by
    rw [hd, Dyadic.value, zpow_neg, zpow_ofNat, ← div_eq_mul_inv, Nat.cast_ofNat]
  constructor
  · refine le_trans ?_
    rw [hvalue]
    norm_num
  · intro hle
    by_contra hlt
    rw [not_le] at hlt
    have hcompare := Dyadic.compare_value h (Dyadic.ofBits_normal (magnitudeBits 1e-3))
    rw [← Dyadic.ofFloat, compare_lt_iff_lt.mpr hlt, Ordering.then_eq_lt, hd, compare_lt_iff_lt,
      compare_eq_iff_eq, compare_lt_iff_lt] at hcompare
    -- a smaller number has a smaller exponent, or the mantissa before this one
    rcases hcompare with hexponent | ⟨hexponent, hmantissa⟩
    · have hle' : d.exponent ≤ -63 := Int.le_sub_one_of_lt hexponent
      have hsmall : d.value < 2 ^ 53 * 2 ^ (-63 : ℤ) := by
        have hm : (d.mantissa : ℚ) < 2 ^ 53 := by exact_mod_cast h.mantissa_lt
        calc d.value < 2 ^ 53 * 2 ^ d.exponent := by
              rw [Dyadic.value]
              gcongr
          _ ≤ 2 ^ 53 * 2 ^ (-63 : ℤ) := by
            gcongr
            exact one_le_two
      norm_num at hsmall hle
      linarith
    · have hm : (d.mantissa : ℚ) ≤ 4611686018427387 := by exact_mod_cast Nat.le_of_lt_succ hmantissa
      have hsmall : d.value ≤ 4611686018427387 / 2 ^ 62 := by
        have heq : d.exponent = -62 := hexponent
        rw [Dyadic.value, heq, zpow_neg, zpow_ofNat, ← div_eq_mul_inv]
        gcongr
      norm_num at hsmall hle
      linarith

theorem tenMillion_value : (Dyadic.ofFloat 1e7).value = 10 ^ 7 := by
  have hd : Dyadic.ofFloat 1e7 = ⟨5368709120000000, -29⟩ := by decide +kernel
  rw [hd, Dyadic.value]
  norm_num

theorem eq_zero_iff_magnitude {q : ℚ} (h : value? x = some q) : q = 0 ↔ magnitudeBits x = 0 := by
  rw [← abs_eq_zero, abs_value h, Dyadic.value, mul_eq_zero, Nat.cast_eq_zero,
    or_iff_left (zpow_ne_zero _ two_ne_zero), Dyadic.ofFloat, Dyadic.ofBits]
  split
  · rfl
  · next hlarge =>
    constructor
    · intro hm
      exact absurd (show 2 ^ 52 + magnitudeBits x % 2 ^ 52 = 0 from hm) (by omega)
    · intro hbits
      rw [hbits] at hlarge
      exact absurd rfl hlarge

theorem beq_zero_iff (h : isFinite x = true) : (x == 0.0) = true ↔ magnitudeBits x = 0 := by
  have hbeq : (x == 0.0) = x.toModel.unpack.beq (.zero .positive) := rfl
  rw [hbeq]
  by_cases hzero : magnitudeBits x = 0
  · rw [unpack_zero hzero]
    exact iff_of_true rfl hzero
  · obtain ⟨_, hunpack⟩ := unpack_finite h hzero
    rw [hunpack]
    refine iff_of_false ?_ hzero
    cases signOf x <;> exact Bool.false_ne_true

/-- Zeros and the numbers from a thousandth up to ten million are written without an exponent. -/
theorem isPositional_iff {q : ℚ} (h : value? x = some q) :
    isPositional x = true ↔ q = 0 ∨ 1 / 1000 ≤ |q| ∧ |q| < 10 ^ 7 := by
  have hfinite := isFinite_of_value h
  rw [isPositional, Bool.or_eq_true, beq_zero_iff hfinite, eq_zero_iff_magnitude h]
  refine or_congr_right' fun hne => ?_
  have hbits := magnitudeBits_lt hfinite
  have hpositive : IsPositive x.abs := by
    rw [abs_eq hfinite]
    refine ⟨?_, ?_, isNegative_ofMagnitude hbits⟩
    · rw [isFinite, magnitudeBits_ofMagnitude hbits]
      exact hfinite
    · rwa [magnitudeBits_ofMagnitude hbits]
  have hleast : (Dyadic.ofFloat 1e-3).value ≤ (Dyadic.ofFloat x).value ↔
      1 / 1000 ≤ (Dyadic.ofFloat x).value := thousandth_le_iff (Dyadic.ofBits_normal _)
  rw [Bool.and_eq_true, decide_eq_true_eq, decide_eq_true_eq, thousandth_positive.le_iff hpositive,
    hpositive.lt_iff tenMillion_positive, ofFloat_abs hfinite, tenMillion_value, abs_value h, hleast]

end

end Primer.Numeric
