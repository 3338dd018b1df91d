import Primer.Proofs.NumberValues

/-!
# Rounding

The magnitude nearest to a quotient of naturals depends on the value of the quotient only. A magnitude
is the nearest one to its own value, and what rounds to a finite magnitude other than zero lies between
`2 ^ -1075` and `2 ^ 1024`.
-/

namespace Primer.Numeric

variable {num den num' den' bits : ℕ}

/-! ## The binary exponent -/

theorem two_zpow_split (e : ℤ) :
    (2 : ℚ) ^ e * (2 ^ (-e).toNat : ℕ) = (2 ^ e.toNat : ℕ) := by
  push_cast
  rw [← zpow_natCast, ← zpow_natCast, ← zpow_add₀ (by norm_num)]
  congr 1
  omega

theorem reaches_iff (num : ℕ) (hden : 0 < den) (e : ℤ) :
    reaches num den e = true ↔ (2 : ℚ) ^ e ≤ num / den := by
  have hd : (0 : ℚ) < den := by exact_mod_cast hden
  have hp : (0 : ℚ) < (2 ^ (-e).toNat : ℕ) := by positivity
  rw [reaches, decide_eq_true_eq, Nat.pow_eq, Nat.pow_eq, le_div_iff₀ hd,
    ← mul_le_mul_iff_of_pos_right hp, mul_right_comm, two_zpow_split, mul_comm _ (den : ℚ)]
  exact_mod_cast Iff.rfl

/-- The logarithm of a quotient lies around the difference of the logarithms. -/
theorem quotient_between (hnum : 0 < num) (hden : 0 < den) :
    (2 : ℚ) ^ ((num.log2 : ℤ) - den.log2 - 1) ≤ num / den ∧
      (num / den : ℚ) < 2 ^ ((num.log2 : ℤ) - den.log2 + 1) := by
  have hd : (0 : ℚ) < den := by exact_mod_cast hden
  have hn : (0 : ℚ) < num := by exact_mod_cast hnum
  have hnum_le : (2 : ℚ) ^ (num.log2 : ℤ) ≤ num := by
    exact_mod_cast Nat.log2_self_le hnum.ne'
  have hden_le : (2 : ℚ) ^ (den.log2 : ℤ) ≤ den := by
    exact_mod_cast Nat.log2_self_le hden.ne'
  have hnum_lt : (num : ℚ) < 2 ^ (num.log2 : ℤ) * 2 := by
    exact_mod_cast pow_succ 2 num.log2 ▸ Nat.lt_log2_self
  have hden_lt : (den : ℚ) < 2 ^ (den.log2 : ℤ) * 2 := by
    exact_mod_cast pow_succ 2 den.log2 ▸ Nat.lt_log2_self
  constructor
  · rw [zpow_sub_one₀ two_ne_zero, zpow_sub₀ two_ne_zero, ← div_eq_mul_inv, div_div]
    gcongr
  · rw [zpow_add_one₀ two_ne_zero, zpow_sub₀ two_ne_zero, div_mul_eq_mul_div]
    gcongr

theorem binaryExponent_eq (hnum : 0 < num) (hden : 0 < den) :
    binaryExponent num den = Int.log 2 (num / den : ℚ) := by
  have hq : (0 : ℚ) < num / den := by positivity
  obtain ⟨hlow, hhigh⟩ := quotient_between hnum hden
  have hguess := reaches_iff num hden ((num.log2 : ℤ) - den.log2)
  rw [← Nat.cast_ofNat, Int.zpow_le_iff_le_log one_lt_two hq] at hlow hguess
  rw [← Nat.cast_ofNat, Int.lt_zpow_iff_log_lt one_lt_two hq] at hhigh
  rw [binaryExponent]
  split
  · next h =>
    have hle := hguess.mp h
    omega
  · next h =>
    have hlt := mt hguess.mpr h
    omega

/-! ## The nearest natural -/

theorem roundHalfEven_scaled {k : ℕ} (hk : 0 < k) :
    roundHalfEven (num * k) (den * k) = roundHalfEven num den := by
  have hcompare : compare (2 * (num % den * k)) (den * k) = compare (2 * (num % den)) den := by
    simp only [← mul_assoc, Nat.compare_eq_ite_lt, Nat.mul_lt_mul_right hk]
  rw [roundHalfEven, roundHalfEven, Nat.mul_div_mul_right _ _ hk, Nat.mul_mod_mul_right, hcompare]

theorem roundHalfEven_congr (hden : 0 < den) (hden' : 0 < den') (h : num * den' = num' * den) :
    roundHalfEven num den = roundHalfEven num' den' := by
  rw [← roundHalfEven_scaled hden', h, mul_comm den den', roundHalfEven_scaled hden]

theorem roundHalfEven_one (num : ℕ) : roundHalfEven num 1 = num := by
  rw [roundHalfEven, Nat.mod_one, Nat.div_one]
  rfl

theorem roundHalfEven_small (h : 2 * num < den) : roundHalfEven num den = 0 := by
  have hlt : num < den := by omega
  rw [roundHalfEven, Nat.mod_eq_of_lt hlt, Nat.compare_eq_lt.mpr h, Nat.div_eq_of_lt hlt]

theorem div_le_roundHalfEven (num den : ℕ) : num / den ≤ roundHalfEven num den := by
  unfold roundHalfEven
  dsimp only
  split <;> omega

/-- The mantissa of a quotient whose last place has the exponent. -/
def mantissaAt (num den : ℕ) (place : ℤ) : ℕ :=
  roundHalfEven (num * 2 ^ (-place).toNat) (den * 2 ^ place.toNat)

theorem mantissaAt_congr (hden : 0 < den) (hden' : 0 < den') (h : num * den' = num' * den)
    (place : ℤ) : mantissaAt num den place = mantissaAt num' den' place := by
  refine roundHalfEven_congr (by positivity) (by positivity) ?_
  rw [mul_mul_mul_comm, h, mul_mul_mul_comm]

/-- The mantissa of a natural number of units of the last place is exact. -/
theorem mantissaAt_exact (hden : 0 < den) {place : ℤ} {m : ℕ}
    (h : (num / den : ℚ) = m * 2 ^ place) : mantissaAt num den place = m := by
  have hd : (0 : ℚ) < den := by exact_mod_cast hden
  have hcross : num * 2 ^ (-place).toNat * 1 = m * (den * 2 ^ place.toNat) := by
    rw [div_eq_iff hd.ne'] at h
    have hsplit := two_zpow_split place
    push_cast at hsplit
    have hq : (num : ℚ) * 2 ^ (-place).toNat = m * (den * 2 ^ place.toNat) := by
      rw [h, ← hsplit]
      ring
    rw [mul_one]
    exact_mod_cast hq
  rw [mantissaAt, roundHalfEven_congr (by positivity) one_pos hcross, roundHalfEven_one]

/-! ## The nearest magnitude -/

theorem nearestBits_eq (hnum : 0 < num) (hden : 0 < den) {place : ℤ}
    (hplace : max (Int.log 2 (num / den : ℚ) - 52) (-1074) = place) :
    nearestBits num den =
      min ((place + 1074).toNat * 2 ^ 52 + mantissaAt num den place) infinityBits := by
  have hlast : lastPlace num den = place := by rw [lastPlace, binaryExponent_eq hnum hden, hplace]
  rw [nearestBits, if_neg hnum.ne', hlast]
  rfl

theorem nearestBits_congr (hden : 0 < den) (hden' : 0 < den') (h : (num / den : ℚ) = num' / den') :
    nearestBits num den = nearestBits num' den' := by
  have hcross : num * den' = num' * den := by
    rw [div_eq_div_iff (by positivity) (by positivity)] at h
    exact_mod_cast h
  rcases Nat.eq_zero_or_pos num with rfl | hnum
  · have hnum' : num' = 0 := by
      rw [Nat.zero_mul] at hcross
      exact (Nat.mul_eq_zero.mp hcross.symm).resolve_right hden.ne'
    rw [hnum', nearestBits, if_pos rfl, nearestBits, if_pos rfl]
  · have hnum' : 0 < num' := by
      refine Nat.pos_of_mul_pos_right (b := den) ?_
      rw [← hcross]
      positivity
    rw [nearestBits_eq hnum hden rfl, h, nearestBits_eq hnum' hden' rfl,
      mantissaAt_congr hden hden' hcross]

/-- A mantissa that is as large as it can be is not rounded. -/
theorem nearestBits_normal {d : Dyadic} (hd : d.Normal) (hm : 0 < d.mantissa) :
    nearestBits d.num d.den =
      min ((d.exponent + 1074).toNat * 2 ^ 52 + d.mantissa) infinityBits := by
  have hvalue : (d.num / d.den : ℚ) = d.mantissa * 2 ^ d.exponent := d.value_eq.symm
  have hq : (0 : ℚ) < d.num / d.den := by
    rw [hvalue]
    positivity
  have hnum : 0 < d.num := Nat.pos_of_ne_zero fun h0 => by simp [h0] at hq
  have hhigh : Int.log 2 (d.num / d.den : ℚ) < 53 + d.exponent := by
    rw [← Int.lt_zpow_iff_log_lt one_lt_two hq, hvalue, zpow_add₀ (by norm_num)]
    refine mul_lt_mul_of_pos_right ?_ (by positivity)
    exact_mod_cast hd.mantissa_lt
  have hlow : d.exponent ≠ -1074 → 52 + d.exponent ≤ Int.log 2 (d.num / d.den : ℚ) := by
    intro hne
    rw [← Int.zpow_le_iff_le_log one_lt_two hq, hvalue, zpow_add₀ (by norm_num)]
    refine mul_le_mul_of_nonneg_right ?_ (by positivity)
    exact_mod_cast hd.implicit hne
  have hleast := hd.least
  -- the mantissa has all its bits, or its last place is the least one
  have hlast : max (Int.log 2 (d.num / d.den : ℚ) - 52) (-1074) = d.exponent := by omega
  rw [nearestBits_eq hnum d.den_pos hlast, mantissaAt_exact d.den_pos hvalue]

/-- A finite magnitude is the nearest one to its own value. -/
theorem nearestBits_ofBits (hfinite : bits < infinityBits) :
    nearestBits (Dyadic.ofBits bits).num (Dyadic.ofBits bits).den = bits := by
  have hinfinity : infinityBits = 2047 * 2 ^ 52 := rfl
  rcases Nat.eq_zero_or_pos bits with rfl | hpos
  · rfl
  have hnormal := Dyadic.ofBits_normal bits
  by_cases hsub : bits / 2 ^ 52 = 0
  · rw [Dyadic.ofBits_small hsub] at hnormal ⊢
    rw [nearestBits_normal hnormal hpos]
    show min (0 * 2 ^ 52 + bits) infinityBits = bits
    omega
  · rw [Dyadic.ofBits_large hsub] at hnormal ⊢
    rw [nearestBits_normal hnormal (Nat.add_pos_left (by positivity) _)]
    show min (((bits / 2 ^ 52 : ℕ) - 1075 + 1074 : ℤ).toNat * 2 ^ 52 +
      (2 ^ 52 + bits % 2 ^ 52)) infinityBits = bits
    omega

/-- What lies below half of the least magnitude rounds to zero. -/
theorem nearestBits_small (hden : 0 < den) (h : (num / den : ℚ) < 2 ^ (-1075 : ℤ)) :
    nearestBits num den = 0 := by
  have hd : (0 : ℚ) < den := by exact_mod_cast hden
  rcases Nat.eq_zero_or_pos num with rfl | hnum
  · rw [nearestBits, if_pos rfl]
  have hq : (0 : ℚ) < num / den := by positivity
  have hhigh := h
  rw [← Nat.cast_ofNat, Int.lt_zpow_iff_log_lt one_lt_two hq] at hhigh
  have hlast : max (Int.log 2 (num / den : ℚ) - 52) (-1074) = -1074 := by omega
  have hhalf : 2 * (num * 2 ^ 1074) < den * 2 ^ 0 := by
    rw [div_lt_iff₀ hd, zpow_neg, inv_mul_eq_div, lt_div_iff₀ (by positivity)] at h
    have hnat : num * 2 ^ 1075 < den := by exact_mod_cast h
    omega
  have hmantissa : mantissaAt num den (-1074) = 0 := by
    have hup : (-(-1074) : ℤ).toNat = 1074 := rfl
    have hdown : (-1074 : ℤ).toNat = 0 := rfl
    rw [mantissaAt, hup, hdown]
    exact roundHalfEven_small hhalf
  rw [nearestBits_eq hnum hden hlast, hmantissa]
  rfl

/-- What is too large for a finite magnitude rounds to infinity. -/
theorem nearestBits_large (hden : 0 < den) (h : 2 ^ (1024 : ℤ) ≤ (num / den : ℚ)) :
    nearestBits num den = infinityBits := by
  have hd : (0 : ℚ) < den := by exact_mod_cast hden
  have hq : (0 : ℚ) < num / den := lt_of_lt_of_le (by positivity) h
  have hnum : 0 < num := Nat.pos_of_ne_zero fun h0 => by simp [h0] at hq
  rw [← Nat.cast_ofNat, Int.zpow_le_iff_le_log one_lt_two hq] at h
  obtain ⟨place, hplace⟩ : ∃ place : ℕ, Int.log 2 (num / den : ℚ) = place + 52 :=
    ⟨(Int.log 2 (num / den : ℚ) - 52).toNat, by omega⟩
  have hlast : max (Int.log 2 (num / den : ℚ) - 52) (-1074) = place := by omega
  have hmantissa : 2 ^ 52 ≤ mantissaAt num den place := by
    have hlow : (2 : ℚ) ^ (place + 52 : ℤ) ≤ num / den := by
      rw [← hplace]
      exact Int.zpow_log_le_self one_lt_two hq
    rw [le_div_iff₀ hd, zpow_add₀ two_ne_zero, zpow_natCast] at hlow
    have hnat : 2 ^ place * 2 ^ 52 * den ≤ num := by exact_mod_cast hlow
    refine le_trans ?_ (div_le_roundHalfEven _ _)
    rw [Nat.le_div_iff_mul_le (by positivity)]
    show 2 ^ 52 * (den * 2 ^ place) ≤ num * 2 ^ (-(place : ℤ)).toNat
    have hzero : (-(place : ℤ)).toNat = 0 := by omega
    rw [hzero, pow_zero, mul_one]
    calc 2 ^ 52 * (den * 2 ^ place) = 2 ^ place * 2 ^ 52 * den := by ring
      _ ≤ num := hnat
  have hinfinity : infinityBits = 2047 * 2 ^ 52 := rfl
  rw [nearestBits_eq hnum hden hlast]
  omega

end Primer.Numeric
