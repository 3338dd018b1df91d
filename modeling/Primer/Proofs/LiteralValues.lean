import Primer.Proofs.LiteralForms
import Primer.Value.Convert

/-!
# The values of literals

Every form of literal denotes a value of the type that the form has. The evaluation of a literal
finds the value, so that it succeeds on the texts that have a type, and on no others: the reader of
numbers accepts every numeral.
-/

namespace Primer

open Literal

variable {cs rest : List Char} {c : Char} {s raw : String} {ty : Ty} {v : Scalar}
  {f : Fault}

/-! ## Reading numerals -/

namespace Numeric

theorem spanDigits_append (h : Digits cs) (hrest : ∀ c ∈ rest.head?, c.isDigit = false) :
    spanDigits (cs ++ rest) = (cs, rest) := by
  rw [spanDigits, List.takeWhile_append_of_pos h.2, List.dropWhile_append_of_pos h.2]
  cases rest with
  | nil => simp
  | cons c rest => simp [hrest c rfl]

theorem spanDigits_digits (h : Digits cs) : spanDigits cs = (cs, []) := by
  have happend : spanDigits (cs ++ []) = (cs, []) := spanDigits_append h nofun
  rwa [List.append_nil] at happend

theorem digitsValue_toDigits (n : Nat) : digitsValue (Nat.toDigits 10 n) = n :=
  Nat.ofDigitChars_toDigits (by decide) (by decide)

theorem decimal?_unsigned (h : Unsigned cs) : ∃ d, decimal? cs = some d := by
  cases h with
  | whole h =>
    rw [decimal?, spanDigits_digits h]
    simp [fractionPart, exponentPart?, h.1]
  | decimal h hfraction =>
    rw [decimal?, spanDigits_append h (by simp)]
    simp [fractionPart, spanDigits_digits hfraction, exponentPart?, h.1]

theorem magnitude?_unsigned (h : Unsigned cs) : ∃ m, magnitude? cs = some m := by
  obtain ⟨d, hd⟩ := decimal?_unsigned h
  unfold magnitude?
  simp only [hd, Option.map_some]
  -- the words for infinity and NaN are read in front of the decimals, and have magnitudes as well
  split_ifs <;> exact ⟨_, rfl⟩

/-- A text that starts with a digit has no sign. -/
theorem splitSign_unsigned (h : Unsigned cs) : splitSign cs = (false, cs) := by
  unfold splitSign
  split
  · exact absurd h.head (by decide)
  · exact absurd h.head (by decide)
  · rfl

/-- The reader of numbers accepts every numeral. -/
theorem read?_numeral (h : isNumeral s = true) : ∃ n, read? s = some n := by
  rcases isNumeralChars_iff.mp h with h | ⟨rest, hs, h⟩
  · obtain ⟨m, hm⟩ := magnitude?_unsigned h
    simp [read?, splitSign_unsigned h, hm]
  · obtain ⟨m, hm⟩ := magnitude?_unsigned h
    simp [read?, splitSign, hs, hm]

end Numeric

/-! ## The value of a literal -/

namespace Literal

/-- The literals without white space around them, with their values. -/
inductive Denotes : List Char → Scalar → Prop where
  | truth {cs : List Char} (b : Bool) :
      cs.map Char.toLower = (if b then "true" else "false").toList → Denotes cs (.logic b)
  | numeral {s : String} {n : Float} :
      isNumeral s = true → Numeric.read? s = some n → Denotes s.toList (.number n)
  | letter (c : Char) : Denotes ['\'', c, '\''] (.letter c)
  | sentence (text : List Char) :
      Denotes ('"' :: (text ++ ['"'])) (.sentence (String.ofList text))

theorem form_number_iff : Form cs .number ↔ isNumeralChars cs = true := by
  rw [isNumeralChars_iff]
  constructor
  · intro h
    cases h with
    | numeral h => exact .inl h
    | negative h => exact .inr ⟨_, rfl, h⟩
  · rintro (h | ⟨_, rfl, h⟩)
    · exact .numeral h
    · exact .negative h

/-- A form has a type exactly if it denotes a value of that type. -/
theorem form_iff_denotes : Form cs ty ↔ ∃ v, Denotes cs v ∧ (Value.scalar v).ty = ty := by
  have hnumber (h : Form cs .number) : ∃ v, Denotes cs v ∧ (Value.scalar v).ty = .number := by
    rw [form_number_iff, ← String.toList_ofList (l := cs)] at h
    obtain ⟨n, hn⟩ := Numeric.read?_numeral h
    have hdenotes := Denotes.numeral h hn
    rw [String.toList_ofList] at hdenotes
    exact ⟨_, hdenotes, rfl⟩
  constructor
  · rintro (⟨b, h⟩ | h | h | c | text)
    · exact ⟨_, .truth b h, rfl⟩
    · exact hnumber (.numeral h)
    · exact hnumber (.negative h)
    · exact ⟨_, .letter c, rfl⟩
    · exact ⟨_, .sentence text, rfl⟩
  · rintro ⟨_, ⟨b, h⟩ | ⟨h, -⟩ | c | text, rfl⟩
    · exact .truth b h
    · exact form_number_iff.mpr h
    · exact .letter c
    · exact .sentence text

end Literal

/-- A literal is evaluated to the value that its form denotes. -/
theorem Scalar.ofLiteral_iff : Scalar.ofLiteral raw = .ok v ↔ Denotes (Text.trim raw).toList v := by
  constructor
  · intro h
    unfold Scalar.ofLiteral at h
    simp only at h
    split at h
    · next b htruth =>
      cases h
      exact .truth b (truth?_eq_some.mp htruth)
    · split at h
      · next hnumeral =>
        split at h
        · next n hn =>
          cases h
          exact .numeral hnumeral hn
        · cases h
      · split at h
        · next hletter =>
          cases h
          rw [between?_eq_some.mp hletter]
          exact .letter _
        · next hsentence _ =>
          cases h
          rw [between?_eq_some.mp hsentence]
          exact .sentence _
        · cases h
  · intro h
    generalize hbody : (Text.trim raw).toList = body at h
    unfold Scalar.ofLiteral
    cases h with
    | truth b hb =>
      rw [← hbody] at hb
      simp only [truth?_eq_some.mpr hb]
    | @numeral s n hs hn =>
      rw [String.toList_inj] at hbody
      simp only [hbody, truth?_of_numeral hs, hs, hn, if_true]
    | letter c =>
      have hletter : between? '\'' ['\'', c, '\''] = some [c] := between?_eq_some.mpr rfl
      simp only [truth?_of_quote (.inl rfl) hbody, isNumeral_of_quote (.inl rfl) hbody, hbody,
        hletter, Bool.false_eq_true, if_false]
    | sentence text =>
      have hsentence : between? '"' ('"' :: (text ++ ['"'])) = some text := between?_eq_some.mpr rfl
      have hletter : between? '\'' ('"' :: (text ++ ['"'])) = none := rfl
      simp only [truth?_of_quote (.inr rfl) hbody, isNumeral_of_quote (.inr rfl) hbody, hbody,
        hletter, hsentence, Bool.false_eq_true, if_false]

theorem Literal.classify_iff_value :
    classify raw = .ok ty ↔ ∃ v, Scalar.ofLiteral raw = .ok v ∧ (Value.scalar v).ty = ty := by
  simp only [classify_iff, form_iff_denotes, Scalar.ofLiteral_iff]

/-- The evaluation of a literal fails in one way, because the text is no literal. -/
theorem Scalar.ofLiteral_error (h : Scalar.ofLiteral raw = .error f) :
    f = .typeMismatch "literal" (Text.trim raw) := by
  unfold Scalar.ofLiteral at h
  simp only at h
  split at h
  · cases h
  · split at h
    · next hnumeral =>
      obtain ⟨n, hn⟩ := Numeric.read?_numeral hnumeral
      rw [hn] at h
      cases h
    · split at h <;> cases h
      rfl

theorem Scalar.ofLiteral_error_iff : Scalar.ofLiteral raw = .error f ↔
    (∀ ty, classify raw ≠ .ok ty) ∧ f = .typeMismatch "literal" (Text.trim raw) := by
  constructor
  · intro h
    refine ⟨fun ty hty => ?_, ofLiteral_error h⟩
    obtain ⟨v, hv, -⟩ := classify_iff_value.mp hty
    rw [hv] at h
    cases h
  · rintro ⟨hno, rfl⟩
    cases h : Scalar.ofLiteral raw with
    | ok v => exact absurd (classify_iff_value.mpr ⟨v, h, rfl⟩) (hno _)
    | error f => rw [ofLiteral_error h]

end Primer
