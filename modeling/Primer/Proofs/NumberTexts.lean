import Primer.Proofs.Decimals
import Primer.Proofs.LiteralAgreement
import Primer.Proofs.NumberOrder

/-!
# The texts of numbers

The canonical text of a finite number has digits on both sides of a point, and an exponent if the number
is very large or very small. It is read back as the number, so that no two numbers share a text.
-/

namespace Primer.Numeric

open Literal

variable {x : Float} {cs whole fraction : List Char}

/-! ## Digits -/

theorem digits_digitsOf (n : ℕ) : Digits (digitsOf n) :=
  ⟨List.length_pos_iff.mp Nat.length_toDigits_pos, fun _ h =>
    Nat.isDigit_of_mem_toDigits (by decide) (by decide) h⟩

theorem digits_zeros {n : ℕ} (h : 0 < n) : Digits (List.replicate n '0') :=
  ⟨by simp [h.ne'], fun _ hc => (List.mem_replicate.mp hc).2 ▸ rfl⟩

theorem digits_append (h : Digits cs) (hrest : ∀ c ∈ whole, c.isDigit = true) :
    Digits (cs ++ whole) :=
  ⟨List.append_ne_nil_of_left_ne_nil h.1 whole,
    fun c hc => (List.mem_append.mp hc).elim (h.2 c) (hrest c)⟩

theorem digitsValue_append_zeros (cs : List Char) (n : ℕ) :
    digitsValue (cs ++ List.replicate n '0') = digitsValue cs * 10 ^ n := by
  induction n with
  | zero => simp
  | succ n ih =>
    rw [List.replicate_succ', ← List.append_assoc, digitsValue, digitsFrom, List.foldl_append]
    show 10 * digitsValue (cs ++ List.replicate n '0') + 0 = _
    rw [ih, pow_succ]
    ring

theorem digitsValue_zeros_append (n : ℕ) (cs : List Char) :
    digitsValue (List.replicate n '0' ++ cs) = digitsValue cs := by
  induction n with
  | zero => rfl
  | succ n ih => exact ih

/-! ## Reading -/

/-- The decimal written with a point. -/
def pointedDecimal (whole fraction : List Char) (e : ℤ) : Decimal :=
  ⟨digitsValue (whole ++ fraction), e - fraction.length⟩

/-- The bounds of an exponent do not apply to the decimals of finite numbers. -/
theorem boundExponent_eq {count : ℕ} {e : ℤ} (he : -400 ≤ e ∧ e ≤ 400)
    (hfraction : fraction.length ≤ count) :
    boundExponent count (e - fraction.length) = e - fraction.length := by
  rw [boundExponent]
  omega

theorem decimal?_pointed (hwhole : Digits whole) (hfraction : Digits fraction) {rest : List Char}
    (hrest : ∀ c ∈ rest.head?, c.isDigit = false) {e : ℤ} (hexponent : exponentPart? rest = some e)
    (he : -400 ≤ e ∧ e ≤ 400) :
    decimal? (whole ++ '.' :: (fraction ++ rest)) = some (pointedDecimal whole fraction e) := by
  have hne : (whole ++ fraction).isEmpty = false := by
    simp [hwhole.1]
  have hcount : fraction.length ≤ (whole ++ fraction).length := by simp
  have hbound := boundExponent_eq he hcount
  rw [decimal?, spanDigits_append hwhole (by simp)]
  simp only [fractionPart, spanDigits_append hfraction hrest, hexponent, Option.map_some, hne, hbound,
    Bool.false_eq_true, if_false, pointedDecimal]

theorem splitSign_digits (h : Digits cs) : splitSign cs = (false, cs) :=
  splitSign_unsigned (.whole h)

theorem exponentPart?_signedDigits (e : ℤ) : exponentPart? ('E' :: signedDigits e) = some e := by
  have hdigits := digits_digitsOf e.natAbs
  have hempty : (digitsOf e.natAbs).isEmpty = false := by simp [hdigits.1]
  have hall : (digitsOf e.natAbs).all Char.isDigit = true := List.all_eq_true.mpr hdigits.2
  have hvalue : digitsValue (digitsOf e.natAbs) = e.natAbs := digitsValue_toDigits e.natAbs
  have hmark : ('E' == 'e' || 'E' == 'E') = true := rfl
  rw [exponentPart?, if_pos hmark, signedDigits]
  by_cases hneg : e < 0
  · simp only [if_pos hneg, splitSign, hempty, hall, hvalue, Bool.not_true, Bool.or_self,
      Bool.false_eq_true, if_false, if_true]
    exact congrArg some (by omega)
  · simp only [if_neg hneg, splitSign_digits hdigits, hempty, hall, hvalue, Bool.not_true,
      Bool.or_self, Bool.false_eq_true, if_false]
    exact congrArg some (by omega)

/-- A text with a point is none of the words for infinity and NaN. -/
theorem magnitude?_point (h : '.' ∈ cs) : magnitude? cs = (decimal? cs).map Decimal.bits := by
  have hpoint : '.' ∈ cs.map Char.toLower := List.mem_map.mpr ⟨'.', h, rfl⟩
  have hword (word : String) (hnone : '.' ∉ word.toList) :
      ¬(String.ofList (cs.map Char.toLower) == word) = true := by
    rw [beq_iff_eq]
    rintro rfl
    exact hnone (by rwa [String.toList_ofList])
  rw [magnitude?]
  simp only [hword "inf" (by decide), hword "infinity" (by decide), hword "nan" (by decide), or_self,
    Bool.or_eq_true, Bool.false_eq_true, if_false]

/-! ## Written decimals -/

/-- Zeros behind the digits are made up for by the exponent. -/
theorem scaled_value (m n : ℕ) (e : ℤ) : ((m * 10 ^ n : ℕ) : ℚ) * 10 ^ (e - n) = m * 10 ^ e := by
  rw [zpow_sub₀ (by norm_num), zpow_natCast]
  push_cast
  field_simp

/-- A point has digits on both sides; a zero that has to be added behind it is worth nothing. -/
theorem joinPointed_written {parts : List Char × List Char}
    (hfraction : ∀ c ∈ parts.2, c.isDigit = true) :
    ∃ fraction, joinPointed parts = parts.1 ++ '.' :: fraction ∧ Digits fraction ∧
      ∀ e, (pointedDecimal parts.1 fraction e).value = (pointedDecimal parts.1 parts.2 e).value := by
  obtain ⟨whole, fraction⟩ := parts
  cases fraction with
  | nil =>
    refine ⟨List.replicate 1 '0', rfl, digits_zeros one_pos, fun e => ?_⟩
    rw [Decimal.value, pointedDecimal, digitsValue_append_zeros, List.length_replicate, scaled_value,
      Decimal.value, pointedDecimal, List.append_nil, List.length_nil, Nat.cast_zero, sub_zero]
  | cons c rest => exact ⟨c :: rest, rfl, ⟨List.cons_ne_nil c rest, hfraction⟩, fun e => rfl⟩

namespace Decimal

/-- The digits around the point of the positional form. -/
theorem positional_spec (d : Decimal) :
    Digits d.positional.1 ∧ (∀ c ∈ d.positional.2, c.isDigit = true) ∧
      (pointedDecimal d.positional.1 d.positional.2 0).value = d.value := by
  have hdigits := digits_digitsOf d.digits
  have hvalue : digitsValue (digitsOf d.digits) = d.digits := digitsValue_toDigits d.digits
  have hzeros (n : ℕ) : ∀ c ∈ List.replicate n '0', c.isDigit = true :=
    fun c hc => (List.mem_replicate.mp hc).2 ▸ rfl
  rw [positional]
  dsimp only
  split
  · next hwhole =>
    refine ⟨digits_append hdigits (hzeros _), by simp, ?_⟩
    rw [value, pointedDecimal, List.append_nil, digitsValue_append_zeros, hvalue, List.length_nil,
      Nat.cast_zero, sub_zero, zpow_zero, mul_one, value]
    push_cast
    rw [← zpow_natCast, Int.toNat_of_nonneg hwhole]
  · next hneg =>
    have hplaces : (0 : ℤ) - (-d.exponent).toNat = d.exponent := by omega
    split
    · next hlt =>
      refine ⟨⟨?_, fun c hc => hdigits.2 c (List.mem_of_mem_take hc)⟩,
        fun c hc => hdigits.2 c (List.mem_of_mem_drop hc), ?_⟩
      · rw [← List.length_pos_iff, List.length_take]
        omega
      · have hlength : ((digitsOf d.digits).drop ((digitsOf d.digits).length -
            (-d.exponent).toNat)).length = (-d.exponent).toNat := by
          rw [List.length_drop]
          omega
        rw [value, pointedDecimal, List.take_append_drop, hvalue, hlength, hplaces, value]
    · next hge =>
      refine ⟨digits_zeros one_pos, fun c hc =>
        (List.mem_append.mp hc).elim (hzeros _ c) (hdigits.2 c), ?_⟩
      have hlength : (List.replicate ((-d.exponent).toNat - (digitsOf d.digits).length) '0' ++
          digitsOf d.digits).length = (-d.exponent).toNat := by
        rw [List.length_append, List.length_replicate]
        omega
      have hzero : ['0'] = List.replicate 1 '0' := rfl
      rw [value, pointedDecimal, hzero, digitsValue_zeros_append, digitsValue_zeros_append, hvalue,
        hlength, hplaces, value]

/-- The digits around the point in front of an exponent. -/
def mantissa (d : Decimal) : List Char × List Char :=
  ((digitsOf d.digits).take 1, (digitsOf d.digits).drop 1)

theorem mantissa_spec (d : Decimal) :
    (∃ c, c.isDigit = true ∧ d.mantissa.1 = [c]) ∧ (∀ c ∈ d.mantissa.2, c.isDigit = true) ∧
      (pointedDecimal d.mantissa.1 d.mantissa.2 d.leading).value = d.value := by
  have hdigits := digits_digitsOf d.digits
  have hvalue : digitsValue (digitsOf d.digits) = d.digits := digitsValue_toDigits d.digits
  have hplace : d.leading - (d.mantissa.2.length : ℤ) = d.exponent := by
    have hpos : 0 < (digitsOf d.digits).length := List.length_pos_iff.mpr hdigits.1
    rw [leading, mantissa, List.length_drop]
    omega
  refine ⟨?_, fun c hc => hdigits.2 c (List.mem_of_mem_drop hc), ?_⟩
  · obtain ⟨c, rest, hds⟩ := List.exists_cons_of_ne_nil hdigits.1
    refine ⟨c, hdigits.2 c (hds ▸ List.mem_cons_self), ?_⟩
    rw [mantissa, hds]
    rfl
  · rw [value, pointedDecimal, hplace, mantissa, List.take_append_drop, hvalue, value]

end Decimal

/-! ## Forms -/

/-- `-?[0-9]+\.[0-9]+` -/
def pointed : RegularExpression Char :=
  (1 + .char '-') * (digits * (.char '.' * digits))

/-- `-?[0-9]\.[0-9]+E-?[0-9]+` -/
def exponential : RegularExpression Char :=
  (1 + .char '-') * (digit * (.char '.' * (digits * (.char 'E' * ((1 + .char '-') * digits)))))

theorem mem_signed {p : RegularExpression Char} (h : cs ∈ p.matches') :
    signed x cs ∈ ((1 + .char '-') * p).matches' := by
  rw [signed, RegularExpression.matches'_mul]
  split
  · exact Language.mem_mul.mpr ⟨['-'], .inr rfl, cs, h, rfl⟩
  · exact Language.mem_mul.mpr ⟨[], .inl rfl, cs, h, rfl⟩

theorem mem_behind {p : RegularExpression Char} (c : Char) (h : cs ∈ p.matches') :
    c :: cs ∈ (RegularExpression.char c * p).matches' :=
  Language.mem_mul.mpr ⟨[c], rfl, cs, h, rfl⟩

theorem mem_pointed (hwhole : Digits whole) (hfraction : Digits fraction) :
    signed x (whole ++ '.' :: fraction) ∈ pointed.matches' :=
  mem_signed (Language.mem_mul.mpr
    ⟨whole, mem_digits.mpr hwhole, _, mem_behind '.' (mem_digits.mpr hfraction), rfl⟩)

theorem mem_signedDigits (e : ℤ) :
    signedDigits e ∈ ((1 + .char '-') * digits : RegularExpression Char).matches' := by
  have hdigits := mem_digits.mpr (digits_digitsOf e.natAbs)
  rw [signedDigits, RegularExpression.matches'_mul]
  split
  · exact Language.mem_mul.mpr ⟨['-'], .inr rfl, _, hdigits, rfl⟩
  · exact Language.mem_mul.mpr ⟨[], .inl rfl, _, hdigits, rfl⟩

theorem mem_exponential {c : Char} (hc : c.isDigit = true) (hfraction : Digits fraction) (e : ℤ) :
    signed x ([c] ++ '.' :: (fraction ++ 'E' :: signedDigits e)) ∈ exponential.matches' :=
  mem_signed (Language.mem_mul.mpr ⟨[c], mem_digit.mpr ⟨c, hc, rfl⟩, _, mem_behind '.'
    (Language.mem_mul.mpr ⟨fraction, mem_digits.mpr hfraction, _,
      mem_behind 'E' (mem_signedDigits e), rfl⟩), rfl⟩)

/-! ## Texts -/

/-- The text of a number without its sign. -/
def unsignedText (x : Float) : List Char :=
  if isPositional x then joinPointed (decimalOf (magnitudeBits x)).positional
  else (decimalOf (magnitudeBits x)).scientific

theorem text_finite (h : isFinite x = true) : text x = String.ofList (signed x (unsignedText x)) := by
  have hfinite := magnitudeBits_lt h
  rw [text, if_neg hfinite.not_gt, if_neg hfinite.ne]
  rfl

theorem ofMagnitude_self (x : Float) : ofMagnitude (isNegative x) (magnitudeBits x) = x := by
  have hlt := x.toBits.toNat_lt
  have hbits : (if isNegative x then signWeight + magnitudeBits x else magnitudeBits x) =
      x.toBits.toNat := by
    rw [isNegative, magnitudeBits]
    by_cases h : signWeight ≤ x.toBits.toNat
    · rw [if_pos (decide_eq_true h)]
      rw [signWeight] at h ⊢
      omega
    · rw [if_neg (Bool.not_eq_true _ ▸ decide_eq_false h)]
      exact Nat.mod_eq_of_lt (not_le.mp h)
  rw [ofMagnitude, hbits, UInt64.ofNat_toNat, Float.ofBits_toBits]

/-- The text of a number in range has digits around a point, and that of another one an exponent behind
them as well. The decimal that is written denotes the magnitude. -/
theorem unsignedText_spec (h : isFinite x = true) :
    (∃ d, decimal? (unsignedText x) = some d ∧ d.bits = magnitudeBits x) ∧
      if isPositional x then
        ∃ whole fraction, Digits whole ∧ Digits fraction ∧ unsignedText x = whole ++ '.' :: fraction
      else ∃ c fraction e, c.isDigit = true ∧ Digits fraction ∧
        unsignedText x = [c] ++ '.' :: (fraction ++ 'E' :: signedDigits e) := by
  have hfinite := magnitudeBits_lt h
  have hbits := decimalOf_bits hfinite
  rw [unsignedText]
  split
  · obtain ⟨hwhole, hdigits, hvalue⟩ := (decimalOf (magnitudeBits x)).positional_spec
    obtain ⟨fraction, htext, hfraction, hpadded⟩ := joinPointed_written hdigits
    have hread : decimal? (_ ++ '.' :: (fraction ++ [])) = some (pointedDecimal _ fraction 0) :=
      decimal?_pointed hwhole hfraction (by simp) rfl (by omega)
    rw [List.append_nil, ← htext] at hread
    exact ⟨⟨_, hread, (Decimal.bits_congr ((hpadded 0).trans hvalue)).trans hbits⟩,
      _, fraction, hwhole, hfraction, htext⟩
  · obtain ⟨⟨c, hc, hfirst⟩, hdigits, hvalue⟩ := (decimalOf (magnitudeBits x)).mantissa_spec
    obtain ⟨fraction, htext, hfraction, hpadded⟩ := joinPointed_written hdigits
    have hwhole : Digits [c] := ⟨List.cons_ne_nil c [], by simp [hc]⟩
    have hread := decimal?_pointed hwhole hfraction (by simp)
      (exponentPart?_signedDigits (decimalOf (magnitudeBits x)).leading) (decimalOf_leading hfinite)
    have hscientific : (decimalOf (magnitudeBits x)).scientific =
        [c] ++ '.' :: (fraction ++ 'E' :: signedDigits (decimalOf (magnitudeBits x)).leading) := by
      show joinPointed (decimalOf (magnitudeBits x)).mantissa ++ _ = _
      rw [htext, hfirst, List.append_assoc]
      rfl
    rw [← hscientific] at hread
    rw [hfirst] at hpadded hvalue
    exact ⟨⟨_, hread, (Decimal.bits_congr ((hpadded _).trans hvalue)).trans hbits⟩,
      c, fraction, _, hc, hfraction, hscientific⟩

/-- The text starts with a digit and has a point in it. -/
theorem unsignedText_head (h : isFinite x = true) :
    ∃ c rest, c.isDigit = true ∧ unsignedText x = c :: rest ∧ '.' ∈ rest := by
  obtain ⟨-, hform⟩ := unsignedText_spec h
  split at hform
  · obtain ⟨whole, fraction, ⟨hne, hwhole⟩, -, htext⟩ := hform
    obtain ⟨c, whole, rfl⟩ := List.exists_cons_of_ne_nil hne
    exact ⟨c, _, hwhole c List.mem_cons_self, htext, by simp⟩
  · obtain ⟨c, fraction, e, hc, -, htext⟩ := hform
    exact ⟨c, _, hc, htext, by simp⟩

theorem splitSign_signed (h : isFinite x = true) :
    splitSign (signed x (unsignedText x)) = (isNegative x, unsignedText x) := by
  obtain ⟨c, rest, hc, htext, -⟩ := unsignedText_head h
  rw [signed, htext]
  cases isNegative x with
  | true => rfl
  | false =>
    show splitSign (c :: rest) = (false, c :: rest)
    unfold splitSign
    split
    · next heq =>
      cases heq
      cases hc
    · next heq =>
      cases heq
      cases hc
    · rfl

/-- A finite number is read back from its text. -/
theorem read?_text (h : isFinite x = true) : read? (text x) = some x := by
  obtain ⟨⟨d, hdecimal, hbits⟩, -⟩ := unsignedText_spec h
  obtain ⟨c, rest, -, htext, hpoint⟩ := unsignedText_head h
  have hmem : '.' ∈ unsignedText x := htext ▸ List.mem_cons_of_mem c hpoint
  rw [text_finite h, read?, String.toList_ofList, splitSign_signed h]
  simp only [magnitude?_point hmem, hdecimal, Option.map_some, hbits, ofMagnitude_self]

/-! ## The text out of other forms -/

/-- The shortest decimal with one digit in front of its point and an exponent behind `e`, for a finite
number. The point is written only before digits. -/
def exponentText (x : Float) : String :=
  let d := decimalOf (magnitudeBits x)
  String.ofList (signed x (joinPlain d.mantissa ++ 'e' :: signedDigits d.leading))

/-- A text with a point and a zero behind it if it has none. -/
def withPoint (cs : List Char) : List Char := if '.' ∈ cs then cs else cs ++ ['.', '0']

/-- The text that is made of the plain form in range, and otherwise of the form with an exponent. -/
def patched (positional : Bool) (plain exponential : List Char) : List Char :=
  if positional then withPoint plain
  else
    match exponential.dropWhile (· != 'e') with
    | [] => withPoint exponential ++ ['E', '0']
    | _ :: exponent => withPoint (exponential.takeWhile (· != 'e')) ++ 'E' :: exponent

theorem not_mem_digits {c : Char} (h : ∀ c ∈ cs, c.isDigit = true) (hc : c.isDigit = false) :
    c ∉ cs := fun hmem => by
  rw [h c hmem] at hc
  cases hc

theorem not_mem_signed {c : Char} (h : c ∉ cs) (hminus : c ≠ '-') : c ∉ signed x cs := by
  rw [signed]
  split
  · exact List.not_mem_cons_of_ne_of_not_mem hminus h
  · exact h

theorem not_mem_joinPlain {c : Char} {parts : List Char × List Char} (h : c ∉ parts.1)
    (h' : c ∉ parts.2) (hpoint : c ≠ '.') : c ∉ joinPlain parts := by
  rw [joinPlain]
  split
  · exact h
  · exact List.not_mem_append h (List.not_mem_cons_of_ne_of_not_mem hpoint h')

theorem signed_append (cs rest : List Char) : signed x (cs ++ rest) = signed x cs ++ rest := by
  rw [signed, signed]
  split <;> rfl

theorem withPoint_signed {parts : List Char × List Char} (h : Digits parts.1) :
    withPoint (signed x (joinPlain parts)) = signed x (joinPointed parts) := by
  obtain ⟨whole, fraction⟩ := parts
  cases fraction with
  | nil =>
    show withPoint (signed x whole) = signed x (whole ++ ['.', '0'])
    rw [withPoint, if_neg (not_mem_signed (not_mem_digits h.2 rfl) (by decide)), signed_append]
  | cons c rest =>
    show withPoint (signed x (whole ++ '.' :: c :: rest)) = signed x (whole ++ '.' :: c :: rest)
    have hmem : '.' ∈ signed x (whole ++ '.' :: c :: rest) := by
      rw [signed]
      split <;> simp
    rw [withPoint, if_pos hmem]

theorem text_patched (h : isFinite x = true) : (text x).toList =
    patched (isPositional x) (plainText x).toList (exponentText x).toList := by
  have hfinite := magnitudeBits_lt h
  rw [text_finite h, String.toList_ofList, unsignedText, patched]
  cases isPositional x with
  | true =>
    rw [plainText, if_neg hfinite.not_gt, if_neg hfinite.ne, String.toList_ofList]
    exact (withPoint_signed (Decimal.positional_spec _).1).symm
  | false =>
    obtain ⟨⟨c, hc, hfirst⟩, hdigits, -⟩ := (decimalOf (magnitudeBits x)).mantissa_spec
    have hwhole : Digits (decimalOf (magnitudeBits x)).mantissa.1 := by
      rw [hfirst]
      exact ⟨List.cons_ne_nil c [], by simp [hc]⟩
    -- the exponent is split off at its own mark, since there is none in the mantissa
    have hmark : 'e' ∉ signed x (joinPlain (decimalOf (magnitudeBits x)).mantissa) :=
      not_mem_signed (not_mem_joinPlain (not_mem_digits hwhole.2 rfl) (not_mem_digits hdigits rfl)
        (by decide)) (by decide)
    have hall : ∀ c ∈ signed x (joinPlain (decimalOf (magnitudeBits x)).mantissa),
        (c != 'e') = true := fun c hc => bne_iff_ne.mpr fun he => hmark (he ▸ hc)
    rw [exponentText, String.toList_ofList, signed_append, List.dropWhile_append_of_pos hall,
      List.takeWhile_append_of_pos hall]
    have hdrop (cs : List Char) : ('e' :: cs).dropWhile (· != 'e') = 'e' :: cs := rfl
    have htake (cs : List Char) : ('e' :: cs).takeWhile (· != 'e') = [] := rfl
    simp only [Bool.false_eq_true, if_false, hdrop, htake, List.append_nil, withPoint_signed hwhole]
    exact signed_append _ _

/-! ## The canonical text -/

/-- The texts of the numbers that are not finite. -/
def specials : List String := ["NaN", "Infinity", "-Infinity"]

theorem text_special (h : isFinite x = false) : text x ∈ specials := by
  have hinfinite : infinityBits ≤ magnitudeBits x := not_lt.mp (of_decide_eq_false h)
  rw [text]
  dsimp only
  split
  · decide
  · rw [if_pos (by omega), signed]
    split <;> decide

theorem text_not_special (h : isFinite x = true) : text x ∉ specials := by
  intro hmem
  have hpoint : '.' ∈ (text x).toList := by
    obtain ⟨c, rest, -, htext, hpoint⟩ := unsignedText_head h
    rw [text_finite h, String.toList_ofList, htext, signed]
    split <;> simp [hpoint]
  have hnone : ∀ word ∈ specials, '.' ∉ word.toList := by decide
  exact hnone _ hmem hpoint

/-- What the canonical text of a number with the value `q` says about the number. -/
structure Faithful (x : Float) (q : ℚ) : Prop where
  /-- The text is made of the plain form and of the form with an exponent. -/
  patched : (text x).toList = patched (isPositional x) (plainText x).toList (exponentText x).toList
  pointed : q = 0 ∨ 1 / 1000 ≤ |q| ∧ |q| < 10 ^ 7 → (text x).toList ∈ pointed.matches'
  exponential : ¬(q = 0 ∨ 1 / 1000 ≤ |q| ∧ |q| < 10 ^ 7) → (text x).toList ∈ exponential.matches'
  read : read? (text x) = some x
  not_special : text x ∉ specials
  injective : ∀ y, text y = text x → y = x

theorem text_injective {y : Float} (h : isFinite x = true) (heq : text y = text x) : y = x := by
  cases hy : isFinite y with
  | true =>
    have hread := read?_text hy
    rw [heq, read?_text h] at hread
    exact (Option.some.inj hread).symm
  | false => exact absurd (heq ▸ text_special hy) (text_not_special h)

/-- Every finite number is known from its canonical text: the text is in the form for the range of the
number, it is read back as the number with the sign it has, and no other number has it. -/
theorem text_faithful (h : isFinite x = true) : ∃ q, value? x = some q ∧ Faithful x q := by
  refine ⟨_, value?_eq h, ?_⟩
  obtain ⟨-, hform⟩ := unsignedText_spec h
  have htext : (text x).toList = signed x (unsignedText x) := by
    rw [text_finite h, String.toList_ofList]
  have hrange := isPositional_iff (value?_eq h)
  refine ⟨text_patched h, fun hin => ?_, fun hout => ?_, read?_text h, text_not_special h,
    fun y => text_injective h⟩
  · rw [if_pos (hrange.mpr hin)] at hform
    obtain ⟨whole, fraction, hwhole, hfraction, hparts⟩ := hform
    rw [htext, hparts]
    exact mem_pointed hwhole hfraction
  · rw [if_neg (hrange.not.mpr hout)] at hform
    obtain ⟨c, fraction, e, hc, hfraction, hparts⟩ := hform
    rw [htext, hparts]
    exact mem_exponential hc hfraction e

/-- Negative zero, and the numbers at the ends of the range. -/
theorem boundary_faithful :
    (isFinite (-0.0) = true ∧ text (-0.0) = "-0.0" ∧
      ∃ q, value? (-0.0) = some q ∧ Faithful (-0.0) q) ∧
    (isFinite 1e-3 = true ∧ text 1e-3 = "0.001" ∧ ∃ q, value? 1e-3 = some q ∧ Faithful 1e-3 q) ∧
    (isFinite 1e7 = true ∧ text 1e7 = "1.0E7" ∧ ∃ q, value? 1e7 = some q ∧ Faithful 1e7 q) := by
  have hzero : isFinite (-0.0) = true := by decide +kernel
  have hthousandth : isFinite 1e-3 = true := by decide +kernel
  have htenMillion : isFinite 1e7 = true := by decide +kernel
  exact ⟨⟨hzero, by decide +kernel, text_faithful hzero⟩,
    ⟨hthousandth, by decide +kernel, text_faithful hthousandth⟩,
    ⟨htenMillion, by decide +kernel, text_faithful htenMillion⟩⟩

end Primer.Numeric
