import Mathlib.Computability.RegularExpressions
import Mathlib.Tactic.IntervalCases
import Primer.Proofs.LiteralValues

/-!
# The literals of the check and of a run

The check classifies a literal, and a run evaluates it. The two agree on every text. Numerals are the
texts of a regular expression, and each of them is read.
-/

namespace Primer

open Literal

variable {cs : List Char} {c : Char} {s raw : String} {f : Fault}

/-! ## Numerals as a regular expression -/

namespace Literal

def asciiDigits : List Char := ['0', '1', '2', '3', '4', '5', '6', '7', '8', '9']

/-- `[0-9]` -/
def digit : RegularExpression Char := (asciiDigits.map .char).sum

/-- `[0-9]+` -/
def digits : RegularExpression Char := digit * digit.star

/-- `-?[0-9]+(\.[0-9]+)?` -/
def numeral : RegularExpression Char := (1 + .char '-') * (digits * (1 + .char '.' * digits))

theorem isDigit_iff_mem : c.isDigit = true ↔ c ∈ asciiDigits := by
  constructor
  · intro h
    simp only [Char.isDigit, Bool.and_eq_true, decide_eq_true_eq] at h
    obtain ⟨n, hn, rfl⟩ : ∃ n, (48 ≤ n ∧ n ≤ 57) ∧ Char.ofNat n = c :=
      ⟨c.toNat, h, Char.ofNat_toNat c⟩
    obtain ⟨hlow, hhigh⟩ := hn
    interval_cases n <;> decide
  · exact List.all_eq_true.mp (by decide : asciiDigits.all Char.isDigit = true) c

theorem mem_sum_char (alphabet : List Char) :
    cs ∈ (alphabet.map RegularExpression.char).sum.matches' ↔ ∃ c ∈ alphabet, cs = [c] := by
  induction alphabet with
  | nil =>
    simp only [List.map_nil, List.sum_nil, List.not_mem_nil, false_and, exists_false, iff_false]
    exact id
  | cons c alphabet ih =>
    rw [List.map_cons, List.sum_cons, RegularExpression.matches'_add, Language.mem_add, ih,
      List.exists_mem_cons_iff]
    rfl

theorem mem_digit : cs ∈ digit.matches' ↔ ∃ c, c.isDigit = true ∧ cs = [c] := by
  simp only [digit, mem_sum_char, isDigit_iff_mem]

theorem mem_digits : cs ∈ digits.matches' ↔ Digits cs := by
  rw [digits, RegularExpression.matches'_mul, Language.mem_mul]
  constructor
  · rintro ⟨_, hfirst, tail, htail, rfl⟩
    obtain ⟨c, hc, rfl⟩ := mem_digit.mp hfirst
    obtain ⟨parts, rfl, hparts⟩ := Language.mem_kstar.mp htail
    refine ⟨List.cons_ne_nil _ _, List.forall_mem_cons.mpr ⟨hc, fun d hd => ?_⟩⟩
    obtain ⟨part, hpart, hd⟩ := List.mem_flatten.mp hd
    obtain ⟨e, he, rfl⟩ := mem_digit.mp (hparts part hpart)
    exact List.mem_singleton.mp hd ▸ he
  · rintro ⟨hne, hall⟩
    obtain ⟨c, rest, rfl⟩ := List.exists_cons_of_ne_nil hne
    obtain ⟨hc, hrest⟩ := List.forall_mem_cons.mp hall
    refine ⟨[c], mem_digit.mpr ⟨c, hc, rfl⟩, rest, ?_, rfl⟩
    -- the star matches the digits behind the first one by one
    have hrows : rest = (rest.map ([·])).flatten := by
      rw [← List.flatMap_def, List.flatMap_singleton']
    refine Language.mem_kstar.mpr ⟨rest.map ([·]), hrows, fun part hpart => ?_⟩
    obtain ⟨d, hd, rfl⟩ := List.mem_map.mp hpart
    exact mem_digit.mpr ⟨d, hrest d hd, rfl⟩

/-- The empty text, and what matches the expression. -/
theorem mem_optional {p : RegularExpression Char} :
    cs ∈ (1 + p).matches' ↔ cs = [] ∨ cs ∈ p.matches' :=
  Iff.rfl

theorem mem_unsigned : cs ∈ (digits * (1 + .char '.' * digits)).matches' ↔ Unsigned cs := by
  rw [RegularExpression.matches'_mul, Language.mem_mul]
  constructor
  · rintro ⟨whole, hwhole, tail, htail, rfl⟩
    rw [mem_digits] at hwhole
    rcases mem_optional.mp htail with rfl | htail
    · rw [List.append_nil]
      exact .whole hwhole
    · obtain ⟨_, rfl, fraction, hfraction, rfl⟩ := Language.mem_mul.mp htail
      exact .decimal hwhole (mem_digits.mp hfraction)
  · rintro (hwhole | ⟨hwhole, hfraction⟩)
    · exact ⟨_, mem_digits.mpr hwhole, [], .inl rfl, List.append_nil _⟩
    · refine ⟨_, mem_digits.mpr hwhole, _, .inr ?_, rfl⟩
      exact Language.mem_mul.mpr ⟨['.'], rfl, _, mem_digits.mpr hfraction, rfl⟩

theorem mem_numeral : cs ∈ numeral.matches' ↔ isNumeralChars cs = true := by
  rw [isNumeralChars_iff, numeral, RegularExpression.matches'_mul, Language.mem_mul]
  constructor
  · rintro ⟨sign, hsign, rest, hrest, rfl⟩
    rw [mem_unsigned] at hrest
    rcases mem_optional.mp hsign with rfl | rfl
    · exact .inl hrest
    · exact .inr ⟨rest, rfl, hrest⟩
  · rintro (h | ⟨rest, rfl, h⟩)
    · exact ⟨[], .inl rfl, cs, mem_unsigned.mpr h, rfl⟩
    · exact ⟨['-'], .inr rfl, rest, mem_unsigned.mpr h, rfl⟩

end Literal

/-! ## Agreement -/

theorem Literal.classify_number_iff :
    classify raw = .ok .number ↔ isNumeral (Text.trim raw) = true := by
  rw [classify_iff, form_number_iff, isNumeral]

theorem Scalar.toNumber_sentence_error_iff : (Scalar.sentence s).toNumber = .error f ↔
    isNumeral (Text.trim s) = false ∧ f = .conversion s .number := by
  unfold Scalar.toNumber
  cases h : isNumeral (Text.trim s) with
  | true =>
    obtain ⟨n, hn⟩ := Numeric.read?_numeral h
    simp [h, hn]
  | false => simp [h, eq_comm (a := f)]

/-- The static classification of a literal and its evaluation agree on every text. A text has a type
exactly if its evaluation succeeds, and then with a value of that type; it is a number exactly if it
is a numeral, white space around it apart. A text that is no literal is the only reason for which
the evaluation fails, and a sentence with a numeral always converts to a number. -/
theorem Literal.classify_evaluation_agree (raw : String) :
    (∀ ty, classify raw = .ok ty ↔ ∃ v, Scalar.ofLiteral raw = .ok v ∧ (Value.scalar v).ty = ty) ∧
    (classify raw = .ok .number ↔ (Text.trim raw).toList ∈ numeral.matches') ∧
    (∀ f, Scalar.ofLiteral raw = .error f ↔
      (∀ ty, classify raw ≠ .ok ty) ∧ f = .typeMismatch "literal" (Text.trim raw)) ∧
    (∀ f, (Scalar.sentence raw).toNumber = .error f ↔
      (Text.trim raw).toList ∉ numeral.matches' ∧ f = .conversion raw .number) := by
  refine ⟨fun ty => classify_iff_value, ?_, fun f => Scalar.ofLiteral_error_iff, fun f => ?_⟩
  · rw [classify_number_iff, mem_numeral, isNumeral]
  · rw [Scalar.toNumber_sentence_error_iff, mem_numeral, isNumeral, Bool.not_eq_true]

end Primer
