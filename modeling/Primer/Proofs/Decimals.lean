import Primer.Proofs.Rounding

/-!
# Decimals

The decimal that is written for a finite magnitude denotes this magnitude. Which one it is depends on a
search, but whatever the search ends with has been read back, or is the magnitude itself.
-/

namespace Primer.Numeric

variable {bits : ℕ} {d d' : Decimal}

/-! ## Values -/

namespace Decimal

/-- The value of a decimal. -/
def value (d : Decimal) : ℚ := d.digits * 10 ^ d.exponent

theorem den_pos (d : Decimal) : 0 < d.den := Nat.pow_pos (by decide)

theorem value_eq (d : Decimal) : d.value = d.num / d.den := by
  have hden : (d.den : ℚ) ≠ 0 := by exact_mod_cast d.den_pos.ne'
  rw [eq_div_iff hden, value, num, den, Nat.pow_eq, Nat.pow_eq]
  push_cast
  rw [mul_assoc, ← zpow_natCast, ← zpow_natCast, ← zpow_add₀ (by norm_num)]
  congr 2
  omega

/-- What a decimal denotes depends on its value only. -/
theorem bits_congr (h : d.value = d'.value) : d.bits = d'.bits :=
  nearestBits_congr d.den_pos d'.den_pos (by rw [← value_eq, ← value_eq, h])

theorem strip_value (fuel : ℕ) (d : Decimal) : (d.strip fuel).value = d.value := by
  induction fuel generalizing d with
  | zero => rfl
  | succ fuel ih =>
    rw [strip]
    split
    · next hzero =>
      have hdigits : d.digits = d.digits / 10 * 10 := by omega
      rw [ih, value, value, zpow_add_one₀ (by norm_num)]
      nth_rewrite 2 [hdigits]
      push_cast
      ring
    · rfl

end Decimal

theorem Dyadic.exact_value (d : Dyadic) : d.exact.value = d.value := by
  have hexponent : min d.exponent 0 = -((-d.exponent).toNat : ℤ) := by omega
  have hten : (10 : ℚ) ^ (-d.exponent).toNat =
      2 ^ (-d.exponent).toNat * 5 ^ (-d.exponent).toNat := by
    rw [← mul_pow]
    norm_num
  rw [value_eq, Decimal.value, exact, hexponent, zpow_neg, zpow_natCast, hten, den, Nat.pow_eq,
    Nat.pow_eq]
  push_cast
  field_simp

/-! ## The decimal of a magnitude -/

theorem neighbour?_bits {value : Dyadic} {exponent : ℤ} (h : neighbour? bits value exponent = some d) :
    d.bits = bits := by
  unfold neighbour? at h
  dsimp only at h
  split at h
  · next hlower hupper =>
    obtain rfl := Option.some.inj h
    split
    · exact beq_iff_eq.mp hupper
    · exact beq_iff_eq.mp hlower
  · next hlower _ =>
    obtain rfl := Option.some.inj h
    exact beq_iff_eq.mp hlower
  · next _ hupper =>
    obtain rfl := Option.some.inj h
    exact beq_iff_eq.mp hupper
  · cases h

theorem shortest_bits (h : bits < infinityBits) : (shortest bits).bits = bits := by
  unfold shortest
  dsimp only
  split
  · next d hfound =>
    obtain ⟨n, -, hn⟩ := List.exists_of_findSome?_eq_some hfound
    rw [Decimal.bits_congr (Decimal.strip_value 20 d), neighbour?_bits hn]
  · -- no search has to come to this: the value itself is read back as well
    have hvalue := (Dyadic.ofBits bits).exact_value
    rw [Decimal.value_eq, Dyadic.value_eq] at hvalue
    exact (nearestBits_congr (Decimal.den_pos _) (Dyadic.den_pos _) hvalue).trans
      (nearestBits_ofBits h)

/-- The decimal that is written for a finite magnitude denotes it. -/
theorem decimalOf_bits (h : bits < infinityBits) : (decimalOf bits).bits = bits := by
  rw [decimalOf]
  split
  · next hzero =>
    rw [hzero]
    rfl
  · exact shortest_bits h

/-! ## The leading digit -/

theorem digitsOf_length {n : ℕ} (h : 0 < n) :
    10 ^ ((digitsOf n).length - 1) ≤ n ∧ n < 10 ^ (digitsOf n).length := by
  have hpos : 0 < (digitsOf n).length := Nat.length_toDigits_pos
  refine ⟨?_, (Nat.length_toDigits_le_iff (by decide) hpos).mp le_rfl⟩
  rcases Nat.eq_zero_or_pos ((digitsOf n).length - 1) with hone | hmany
  · rw [hone]
    exact h
  · by_contra hlt
    have hle := (Nat.length_toDigits_le_iff (b := 10) (by decide) hmany).mpr (not_le.mp hlt)
    rw [digitsOf] at hle hpos
    omega

namespace Decimal

/-- The value lies between the powers of ten around its leading digit. -/
theorem leading_spec (h : 0 < d.digits) :
    10 ^ d.leading ≤ d.value ∧ d.value < 10 ^ (d.leading + 1) := by
  obtain ⟨hlow, hhigh⟩ := digitsOf_length h
  have hpos : 0 < (digitsOf d.digits).length := Nat.length_toDigits_pos
  have hsplit : d.leading = ((digitsOf d.digits).length - 1 : ℕ) + d.exponent := by
    rw [leading]
    omega
  have hnext : d.leading + 1 = ((digitsOf d.digits).length : ℕ) + d.exponent := by
    rw [leading]
    omega
  rw [hnext, hsplit, zpow_add₀ (by norm_num), zpow_add₀ (by norm_num), zpow_natCast, zpow_natCast,
    value]
  constructor
  · refine mul_le_mul_of_nonneg_right ?_ (by positivity)
    exact_mod_cast hlow
  · refine mul_lt_mul_of_pos_right ?_ (by positivity)
    exact_mod_cast hhigh

theorem two_pow_le_ten_pow {n : ℕ} (h : n ≤ 1200) : (2 : ℚ) ^ n ≤ 10 ^ 400 :=
  calc (2 : ℚ) ^ n ≤ 2 ^ (3 * 400) := pow_le_pow_right₀ one_le_two h
    _ = 8 ^ 400 := by rw [pow_mul]; norm_num only
    _ ≤ 10 ^ 400 := pow_le_pow_left₀ (by norm_num) (by norm_num) 400

/-- The exponent of the leading digit of a decimal that denotes a finite number other than zero. -/
theorem leading_bounds (hpos : 0 < d.bits) (hfinite : d.bits < infinityBits) :
    -400 ≤ d.leading ∧ d.leading ≤ 400 := by
  have hdigits : 0 < d.digits := by
    refine Nat.pos_of_ne_zero fun h0 => hpos.ne' ?_
    rw [bits, num, h0, Nat.zero_mul, nearestBits, if_pos rfl]
  obtain ⟨hlow, hhigh⟩ := leading_spec hdigits
  constructor
  · have hsmall : 2 ^ (-1075 : ℤ) ≤ d.value := by
      by_contra hlt
      rw [not_le, value_eq] at hlt
      exact hpos.ne' (nearestBits_small d.den_pos hlt)
    have hten : (10 : ℚ) ^ (-400 : ℤ) ≤ 2 ^ (-1075 : ℤ) := by
      rw [zpow_neg, zpow_neg, zpow_ofNat, zpow_ofNat]
      exact inv_anti₀ (by positivity) (two_pow_le_ten_pow (by norm_num))
    have hlt : (10 : ℚ) ^ (-400 : ℤ) < 10 ^ (d.leading + 1) := by
      calc (10 : ℚ) ^ (-400 : ℤ) ≤ 2 ^ (-1075 : ℤ) := hten
        _ ≤ d.value := hsmall
        _ < 10 ^ (d.leading + 1) := hhigh
    rw [zpow_lt_zpow_iff_right₀ (by norm_num)] at hlt
    omega
  · have hlarge : d.value < 2 ^ (1024 : ℤ) := by
      by_contra hle
      rw [not_lt, value_eq] at hle
      exact hfinite.ne (nearestBits_large d.den_pos hle)
    have hlt : (10 : ℚ) ^ d.leading < 10 ^ (400 : ℤ) := by
      calc (10 : ℚ) ^ d.leading ≤ d.value := hlow
        _ < 2 ^ (1024 : ℤ) := hlarge
        _ ≤ 10 ^ (400 : ℤ) := by
          rw [zpow_ofNat, zpow_ofNat]
          exact two_pow_le_ten_pow (by norm_num)
    rw [zpow_lt_zpow_iff_right₀ (by norm_num)] at hlt
    omega

end Decimal

theorem decimalOf_leading (h : bits < infinityBits) :
    -400 ≤ (decimalOf bits).leading ∧ (decimalOf bits).leading ≤ 400 := by
  have hbits := decimalOf_bits h
  rcases Nat.eq_zero_or_pos bits with rfl | hpos
  · have hzero : (decimalOf 0).leading = 0 := by decide
    omega
  · exact Decimal.leading_bounds (by rwa [hbits]) (by rwa [hbits])

end Primer.Numeric
