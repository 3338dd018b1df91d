import Primer.Check.Action
import Primer.Proofs.LiteralValues
import Primer.Run.Action

/-!
# Displayed literals

A literal can be displayed as it is written, or as an expression. The two have their own checks and
their own ways to remove the quotes, and agree.
-/

namespace Primer

open Literal

variable {cs inner : List Char} {quote : Char} {raw : String}

/-- The literals that can be displayed as they are written, with the text inside their quotes. -/
inductive Literal.Encloses : List Char → List Char → Prop where
  | letter (c : Char) : Encloses ['\'', c, '\''] [c]
  | sentence (text : List Char) : Encloses ('"' :: (text ++ ['"'])) text

/-! ## The check -/

theorem Text.trimChars_quoted (h : isBlank quote = false) :
    trimChars (quote :: (inner ++ [quote])) = quote :: (inner ++ [quote]) := by
  simp [trimChars, h]

namespace Literal.Encloses

theorem quoted (h : Encloses cs inner) :
    ∃ quote, (quote = '\'' ∨ quote = '"') ∧ cs = quote :: (inner ++ [quote]) := by
  cases h with
  | letter c => exact ⟨'\'', .inl rfl, rfl⟩
  | sentence => exact ⟨'"', .inr rfl, rfl⟩

theorem trim (h : Encloses raw.toList inner) : Text.trim raw = raw := by
  obtain ⟨quote, hquote, hraw⟩ := h.quoted
  have hblank : Text.isBlank quote = false := by rcases hquote with rfl | rfl <;> decide
  rw [Text.trim, hraw, Text.trimChars_quoted hblank, ← hraw, String.ofList_toList]

end Literal.Encloses

theorem Literal.encloses_iff_form :
    (∃ inner, Encloses cs inner) ↔ Form cs (.scalar .letter) ∨ Form cs (.scalar .sentence) := by
  constructor
  · rintro ⟨_, c | _⟩
    · exact .inl (.letter c)
    · exact .inr (.sentence _)
  · rintro (h | h) <;> cases h
    · exact ⟨_, .letter _⟩
    · exact ⟨_, .sentence _⟩

theorem displayLiteralProblems_iff :
    displayLiteralProblems raw = [] ↔ ∃ inner, Encloses raw.toList inner := by
  unfold displayLiteralProblems
  constructor
  · intro h
    split at h
    · next rest hraw =>
      -- a quote alone has no last character behind it, so that it is open
      rw [hraw]
      split_ifs at h with hlast hlength
      obtain ⟨init, rfl⟩ := List.getLast?_eq_some_iff.mp (not_not.mp hlast)
      rw [not_not, List.length_append, List.length_singleton] at hlength
      obtain ⟨c, rfl⟩ := List.length_eq_one_iff.mp (Nat.succ.inj hlength)
      exact ⟨[c], .letter c⟩
    · next rest hraw =>
      rw [hraw]
      split_ifs at h with hlast
      obtain ⟨text, rfl⟩ := List.getLast?_eq_some_iff.mp (not_not.mp hlast)
      exact ⟨text, .sentence text⟩
    · cases h
  · rintro ⟨inner, h⟩
    generalize raw.toList = cs at h
    cases h with
    | letter c => rfl
    | sentence text => simp

/-- A literal is accepted for display as it is written if it is a letter or a sentence, without
white space around it. -/
theorem displayLiteralProblems_classify : displayLiteralProblems raw = [] ↔
    Text.trim raw = raw ∧
      (classify raw = .ok (.scalar .letter) ∨ classify raw = .ok (.scalar .sentence)) := by
  rw [displayLiteralProblems_iff, classify_iff, classify_iff]
  constructor
  · rintro ⟨inner, h⟩
    rw [h.trim]
    exact ⟨rfl, encloses_iff_form.mp ⟨inner, h⟩⟩
  · rintro ⟨htrim, h⟩
    rw [htrim] at h
    exact encloses_iff_form.mpr h

/-! ## What is shown -/

namespace Literal.Encloses

theorem unquote (h : Encloses raw.toList inner) : Literal.unquote raw = String.ofList inner := by
  unfold Literal.unquote
  rw [h.trim]
  generalize raw.toList = cs at h
  cases h with
  | letter c =>
    have hdouble : between? '"' ['\'', c, '\''] = none := rfl
    have hsingle : between? '\'' ['\'', c, '\''] = some [c] := between?_eq_some.mpr rfl
    simp only [hdouble, hsingle]
  | sentence =>
    simp only [between?_eq_some.mpr rfl]

theorem ofLiteral (h : Encloses raw.toList inner) :
    ∃ v, Scalar.ofLiteral raw = .ok v ∧ v.text = String.ofList inner := by
  simp only [Scalar.ofLiteral_iff, h.trim]
  generalize raw.toList = cs at h
  cases h with
  | letter c => exact ⟨_, .letter c, String.singleton_eq_ofList⟩
  | sentence => exact ⟨_, .sentence _, rfl⟩

theorem shown (h : Encloses raw.toList inner) :
    (DisplayItem.literal raw).shown = pure (String.ofList inner) := by
  rw [DisplayItem.shown, h.unquote]

theorem shown_expr (h : Encloses raw.toList inner) (ty : Ty) :
    (DisplayItem.expr (.lit ty raw)).shown = pure (String.ofList inner) := by
  obtain ⟨v, hv, htext⟩ := h.ofLiteral
  rw [DisplayItem.shown, Expr.eval, hv, ← htext]
  rfl

end Literal.Encloses

theorem shownAll_congr {item item' : DisplayItem} (h : item.shown = item'.shown)
    (before after : List DisplayItem) :
    shownAll (before ++ item :: after) = shownAll (before ++ item' :: after) := by
  induction before with
  | nil => simp only [List.nil_append, shownAll, h]
  | cons first before ih => simp only [List.cons_append, shownAll, ih]

/-- The machine after it has written a text. -/
def Machine.wrote (m : Machine) (text : String) (newline : Bool) : Machine :=
  { m with console := if newline then m.console.printLine text else m.console.print text }

theorem performDisplay_single {item : DisplayItem} {text : String} (h : item.shown = pure text)
    (m : Machine) (newline : Bool) :
    performDisplay [item] newline m = .ok () (m.wrote text newline) := by
  rw [performDisplay, shownAll, h]
  rfl

/-- A displayed literal agrees with the literal as an expression. The check accepts it exactly if it
is a letter or a sentence without white space around it. Then the two show one text, the literal
without its outer pair of quotes, alone or among other items. -/
theorem DisplayItem.literal_agrees (scopes : ScopeTree) (form : DisplayForm) (raw : String) :
    (((DisplayItem.literal raw).check scopes form).2 = [] ↔
      Text.trim raw = raw ∧
        (classify raw = .ok (.scalar .letter) ∨ classify raw = .ok (.scalar .sentence))) ∧
    (((DisplayItem.literal raw).check scopes form).2 = [] →
      ∃ quote inner, (quote = '\'' ∨ quote = '"') ∧
        raw = String.ofList (quote :: (inner ++ [quote])) ∧
        ∀ ty newline m,
          performDisplay [.literal raw] newline m = .ok () (m.wrote (String.ofList inner) newline) ∧
          performDisplay [.expr (.lit ty raw)] newline m =
            .ok () (m.wrote (String.ofList inner) newline) ∧
          ∀ before after, performDisplay (before ++ .literal raw :: after) newline m =
            performDisplay (before ++ .expr (.lit ty raw) :: after) newline m) := by
  refine ⟨displayLiteralProblems_classify, fun haccepted => ?_⟩
  obtain ⟨inner, h⟩ := displayLiteralProblems_iff.mp haccepted
  obtain ⟨quote, hquote, hraw⟩ := h.quoted
  refine ⟨quote, inner, hquote, by rw [← hraw, String.ofList_toList], fun ty newline m => ?_⟩
  refine ⟨performDisplay_single h.shown m newline,
    performDisplay_single (h.shown_expr ty) m newline, fun before after => ?_⟩
  simp only [performDisplay, shownAll_congr (h.shown.trans (h.shown_expr ty).symm) before after]

/-- A double quote between single quotes is a letter, and is shown. -/
theorem DisplayItem.quote_displays :
    ((DisplayItem.literal "'\"'").check .start .single).2 = [] ∧
      ∃ quote inner, (quote = '\'' ∨ quote = '"') ∧
        "'\"'" = String.ofList (quote :: (inner ++ [quote])) ∧
        ∀ ty newline m,
          performDisplay [.literal "'\"'"] newline m =
            .ok () (m.wrote (String.ofList inner) newline) ∧
          performDisplay [.expr (.lit ty "'\"'")] newline m =
            .ok () (m.wrote (String.ofList inner) newline) ∧
          ∀ before after, performDisplay (before ++ .literal "'\"'" :: after) newline m =
            performDisplay (before ++ .expr (.lit ty "'\"'") :: after) newline m :=
  ⟨rfl, (literal_agrees .start .single "'\"'").2 rfl⟩

end Primer
