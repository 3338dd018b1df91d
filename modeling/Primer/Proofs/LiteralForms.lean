import Mathlib.Data.List.TakeWhile
import Primer.Literal

/-!
# The surface forms of literals

The forms that a literal can be written in, as rules on its characters. The classification of a text
finds the form of the text without the white space around it.
-/

namespace Primer.Literal

variable {cs rest : List Char} {c quote : Char} {ty : Ty}

/-- One ASCII digit or more. -/
def Digits (cs : List Char) : Prop := cs ≠ [] ∧ ∀ c ∈ cs, c.isDigit = true

/-- Digits, and perhaps a point with digits after it. -/
inductive Unsigned : List Char → Prop where
  | whole {digits : List Char} : Digits digits → Unsigned digits
  | decimal {digits fraction : List Char} :
      Digits digits → Digits fraction → Unsigned (digits ++ '.' :: fraction)

/-- The literals without white space around them, with their types. -/
inductive Form : List Char → Ty → Prop where
  | truth {cs : List Char} (b : Bool) :
      cs.map Char.toLower = (if b then "true" else "false").toList → Form cs .logic
  | numeral {cs : List Char} : Unsigned cs → Form cs .number
  | negative {cs : List Char} : Unsigned cs → Form ('-' :: cs) .number
  | letter (c : Char) : Form ['\'', c, '\''] (.scalar .letter)
  | sentence (text : List Char) : Form ('"' :: (text ++ ['"'])) (.scalar .sentence)

/-! ## Numerals -/

theorem isDigits_iff : isDigits cs = true ↔ Digits cs := by
  simp [isDigits, Digits]

theorem Digits.before_point (h : Digits cs) : ∀ c ∈ cs, (c != '.') = true := by
  intro c hc
  rw [bne_iff_ne]
  rintro rfl
  exact absurd (h.2 '.' hc) (by decide)

theorem isUnsignedNumeral_iff : isUnsignedNumeral cs = true ↔ Unsigned cs := by
  unfold isUnsignedNumeral
  constructor
  · intro h
    have hsplit := List.takeWhile_append_dropWhile (p := (· != '.')) (l := cs)
    split at h
    · exact .whole (isDigits_iff.mp h)
    · next point fraction hdrop =>
      have hpoint : point = '.' := by
        simpa [hdrop] using List.head_dropWhile_not (· != '.') (l := cs) (by simp [hdrop])
      rw [Bool.and_eq_true, isDigits_iff, isDigits_iff] at h
      rw [hdrop, hpoint] at hsplit
      rw [← hsplit]
      exact .decimal h.1 h.2
  · rintro (hdigits | ⟨hdigits, hfraction⟩)
    · rw [List.dropWhile_eq_nil_iff.mpr hdigits.before_point]
      exact isDigits_iff.mpr hdigits
    · rw [List.dropWhile_append_of_pos hdigits.before_point,
        List.takeWhile_append_of_pos hdigits.before_point]
      simpa [isDigits_iff] using ⟨hdigits, hfraction⟩

/-- A numeral starts with a digit or a minus sign. -/
theorem Unsigned.head (h : Unsigned (c :: rest)) : c.isDigit = true := by
  generalize hcs : c :: rest = cs at h
  cases h with
  | whole hdigits => exact hdigits.2 c (hcs ▸ List.mem_cons_self)
  | @decimal digits fraction hdigits =>
    obtain ⟨d, ds, rfl⟩ := List.exists_cons_of_ne_nil hdigits.1
    obtain ⟨rfl, -⟩ := List.cons.inj hcs
    exact hdigits.2 c List.mem_cons_self

theorem isNumeralChars_iff : isNumeralChars cs = true ↔
    Unsigned cs ∨ ∃ rest, cs = '-' :: rest ∧ Unsigned rest := by
  unfold isNumeralChars
  split
  · next rest =>
    rw [isUnsignedNumeral_iff]
    refine ⟨fun h => .inr ⟨rest, rfl, h⟩, ?_⟩
    rintro (h | ⟨_, heq, h⟩)
    · exact absurd h.head (by decide)
    · cases heq
      exact h
  · next hsign =>
    rw [isUnsignedNumeral_iff]
    refine ⟨.inl, ?_⟩
    rintro (h | ⟨rest, rfl, _⟩)
    · exact h
    · exact absurd rfl (hsign rest)

theorem isNumeralChars_head (h : isNumeralChars (c :: rest) = true) :
    c.isDigit = true ∨ c = '-' := by
  rcases isNumeralChars_iff.mp h with h | ⟨_, heq, _⟩
  · exact .inl h.head
  · exact .inr (List.cons.inj heq).1

/-! ## Truth values -/

theorem truth?_eq_some {s : String} {b : Bool} : truth? s = some b ↔
    s.toList.map Char.toLower = (if b then "true" else "false").toList := by
  have htrue : "true".toList.map Char.toLower = "true".toList := by decide
  have hfalse : "false".toList.map Char.toLower = "false".toList := by decide
  have hne : "true".toList ≠ "false".toList := by decide
  simp only [truth?, Text.sameKeyword, htrue, hfalse, beq_iff_eq]
  cases b with
  | true => split <;> simp_all
  | false =>
    split
    · next h => simp [h]
    · split <;> simp_all

theorem truth?_isSome {s : String} : (truth? s).isSome = true ↔
    ∃ b : Bool, s.toList.map Char.toLower = (if b then "true" else "false").toList := by
  rw [Option.isSome_iff_exists, exists_congr fun _ => truth?_eq_some]

/-- A text that does not start with a letter is no truth value. -/
theorem truth?_of_head (h : c.toLower ≠ 't') (h' : c.toLower ≠ 'f') :
    truth? (String.ofList (c :: rest)) = none := by
  rw [Option.eq_none_iff_forall_ne_some]
  intro b hb
  rw [truth?_eq_some, String.toList_ofList, List.map_cons] at hb
  cases b with
  | true => exact h (List.cons.inj hb).1
  | false => exact h' (List.cons.inj hb).1

/-! ## Quoted literals -/

theorem dropLast?_eq_some {text : List Char} :
    dropLast? quote cs = some text ↔ cs = text ++ [quote] := by
  unfold dropLast?
  constructor
  · intro h
    split at h
    · next c hlast =>
      split at h
      · next hc =>
        obtain ⟨text, rfl⟩ := List.getLast?_eq_some_iff.mp hlast
        rw [← Option.some.inj h, ← eq_of_beq hc, List.dropLast_concat]
      · cases h
    · cases h
  · rintro rfl
    simp

theorem between?_eq_some {inner : List Char} :
    between? quote cs = some inner ↔ cs = quote :: (inner ++ [quote]) := by
  cases cs with
  | nil => simp [between?]
  | cons c rest =>
    simp only [between?, List.cons.injEq]
    split
    · next hc => rw [dropLast?_eq_some, and_iff_right (eq_of_beq hc)]
    · next hc => simpa using fun h => absurd (beq_iff_eq.mpr h) hc

theorem classifyQuoted_form (h : classifyQuoted cs = .ok ty) : Form cs ty := by
  unfold classifyQuoted at h
  split at h
  · split at h <;> cases h
    next c hq =>
    rw [dropLast?_eq_some.mp hq]
    exact .letter c
  · split at h <;> cases h
    next text hq =>
    rw [dropLast?_eq_some.mp hq]
    exact .sentence text
  · cases h

/-! ## The classification -/

theorem toLower_of_digit (h : c.isDigit = true) : c.toLower = c := by
  simp only [Char.isDigit, Bool.and_eq_true, decide_eq_true_eq] at h
  have hcase : ¬('A'.val ≤ c.val ∧ c.val ≤ 'Z'.val) := fun hupper =>
    absurd (UInt32.le_trans hupper.1 h.2) (by decide)
  exact dif_neg hcase

/-- No numeral is a truth value. -/
theorem truth?_of_numeral {s : String} (h : isNumeral s = true) : truth? s = none := by
  rw [isNumeral] at h
  rw [← String.ofList_toList (s := s)]
  cases hs : s.toList with
  | nil => simp [hs, isNumeralChars, isUnsignedNumeral, isDigits] at h
  | cons c rest =>
    rw [hs] at h
    rcases isNumeralChars_head h with hdigit | rfl
    · refine truth?_of_head ?_ ?_ <;> rw [toLower_of_digit hdigit] <;> rintro rfl <;> cases hdigit
    · exact truth?_of_head (by decide) (by decide)

/-- What starts with a quote is no truth value. -/
theorem truth?_of_quote {s : String} (hquote : quote = '\'' ∨ quote = '"')
    (hbody : s.toList = quote :: rest) : truth? s = none := by
  rw [← String.ofList_toList (s := s), hbody]
  rcases hquote with rfl | rfl <;> exact truth?_of_head (by decide) (by decide)

/-- What starts with a quote is no numeral. -/
theorem isNumeral_of_quote {s : String} (hquote : quote = '\'' ∨ quote = '"')
    (hbody : s.toList = quote :: rest) : isNumeral s = false := by
  rw [isNumeral, hbody, Bool.eq_false_iff]
  intro h
  rcases isNumeralChars_head h with hdigit | rfl
  · rcases hquote with rfl | rfl <;> cases hdigit
  · rcases hquote with h | h <;> cases h

theorem classify_quoted {raw : String} (hquote : quote = '\'' ∨ quote = '"')
    (hbody : (Text.trim raw).toList = quote :: rest) :
    classify raw = classifyQuoted (quote :: rest) := by
  rw [classify, truth?_of_quote hquote hbody, isNumeral_of_quote hquote hbody, hbody]
  rfl

/-- A text is classified by the form it has without the white space around it. -/
theorem classify_iff {raw : String} : classify raw = .ok ty ↔ Form (Text.trim raw).toList ty := by
  constructor
  · intro h
    unfold classify at h
    simp only at h
    split at h
    · next htruth =>
      obtain ⟨b, hb⟩ := truth?_isSome.mp htruth
      cases h
      exact .truth b hb
    · split at h
      · next hnumeral =>
        cases h
        rcases isNumeralChars_iff.mp hnumeral with h | ⟨rest, heq, h⟩
        · exact .numeral h
        · rw [heq]
          exact .negative h
      · exact classifyQuoted_form h
  · intro h
    have hnumber (hn : isNumeral (Text.trim raw) = true) : classify raw = .ok .number := by
      rw [classify, truth?_of_numeral hn, hn]
      rfl
    generalize hbody : (Text.trim raw).toList = body at h
    cases h with
    | truth b hb =>
      rw [← hbody] at hb
      rw [classify, truth?_isSome.mpr ⟨b, hb⟩]
      rfl
    | numeral h => exact hnumber (isNumeralChars_iff.mpr (.inl (hbody ▸ h)))
    | negative h => exact hnumber (isNumeralChars_iff.mpr (.inr ⟨_, hbody, h⟩))
    | letter c =>
      rw [classify_quoted (.inl rfl) hbody]
      have hinner : dropLast? '\'' [c, '\''] = some [c] := dropLast?_eq_some.mpr rfl
      simp only [classifyQuoted, hinner]
    | sentence text =>
      rw [classify_quoted (.inr rfl) hbody]
      have hinner : dropLast? '"' (text ++ ['"']) = some text := dropLast?_eq_some.mpr rfl
      simp only [classifyQuoted, hinner]

end Primer.Literal
