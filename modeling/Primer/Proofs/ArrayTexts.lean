import Mathlib.Data.List.Forall2
import Primer.Value.Operate
import Primer.Proofs.Shapes

/-!
# The text of an array

The text of an array lists the texts of its elements. It determines them where no text of an element
can run on into the next one: for numbers, letters and truth values, and for sentences in which no
double quote stands.
-/

namespace Primer

/-! ## Texts in a list -/

section
variable {x y r r' : List Char} {c : Char}

/-- Nothing, or a text that starts with the given character. -/
def StopsAt (c : Char) (rest : List Char) : Prop := rest = [] ∨ ∃ r, rest = c :: r

/-- A text without a character ends where the character comes first. -/
theorem takeWhile_stop (hx : c ∉ x) (hr : StopsAt c r) : (x ++ r).takeWhile (· != c) = x := by
  have hall : ∀ d ∈ x, (d != c) = true := fun d hd => bne_iff_ne.mpr fun h => hx (h ▸ hd)
  rw [List.takeWhile_append_of_pos hall]
  rcases hr with rfl | ⟨r, rfl⟩ <;> simp

theorem append_cut (hx : c ∉ x) (hy : c ∉ y) (hr : StopsAt c r) (hr' : StopsAt c r')
    (h : x ++ r = y ++ r') : x = y := by
  rw [← takeWhile_stop hx hr, h, takeWhile_stop hy hr']

/-- Texts that show where they end in a list with commas between them. -/
structure Delimited (S : List Char → Prop) : Prop where
  nonempty : ¬S []
  cut : ∀ {x y r r'}, S x → S y → StopsAt ',' r → StopsAt ',' r' → x ++ r = y ++ r' → x = y

variable {S : List Char → Prop}

theorem delimited_of_length {n : Nat} (hn : 0 < n) (h : ∀ x, S x → x.length = n) :
    Delimited S where
  nonempty hnil := by
    have := h _ hnil
    simp at this
    omega
  cut hx hy _ _ heq := List.append_inj_left heq (by rw [h _ hx, h _ hy])

theorem delimited_of_commaless (h : ∀ x, S x → x ≠ [] ∧ ',' ∉ x) : Delimited S where
  nonempty hnil := (h _ hnil).1 rfl
  cut hx hy hr hr' := append_cut (h _ hx).2 (h _ hy).2 hr hr'

theorem delimited_of_quoted (h : ∀ x, S x → ∃ s, x = '"' :: (s ++ ['"']) ∧ '"' ∉ s) :
    Delimited S where
  nonempty hnil := by
    obtain ⟨s, hs, -⟩ := h _ hnil
    cases hs
  cut hx hy _ _ heq := by
    obtain ⟨s, rfl, hs⟩ := h _ hx
    obtain ⟨s', rfl, hs'⟩ := h _ hy
    simp only [List.cons_append, List.append_assoc, List.cons.injEq, true_and] at heq
    rw [append_cut hs hs' (.inr ⟨_, rfl⟩) (.inr ⟨_, rfl⟩) heq]

/-- What follows an item of a list in its text. -/
def itemsAfter : List (List Char) → List Char
  | [] => []
  | xs => ',' :: ' ' :: ", ".toList.intercalate xs

theorem intercalate_cons (x : List Char) (xs : List (List Char)) :
    ", ".toList.intercalate (x :: xs) = x ++ itemsAfter xs := by
  cases xs with
  | nil => simp [itemsAfter]
  | cons y ys => simp [itemsAfter, List.intercalate_cons_cons]

theorem itemsAfter_stops (xs : List (List Char)) : StopsAt ',' (itemsAfter xs) := by
  cases xs with
  | nil => exact .inl rfl
  | cons => exact .inr ⟨_, rfl⟩

/-- The text of a list determines its items if they show where they end. -/
theorem Delimited.intercalate_inj (h : Delimited S) {xs ys : List (List Char)}
    (hxs : ∀ x ∈ xs, S x) (hys : ∀ y ∈ ys, S y)
    (heq : ", ".toList.intercalate xs = ", ".toList.intercalate ys) : xs = ys := by
  have hne {x xs} (hx : S x) : x ++ itemsAfter xs ≠ [] := fun hnil =>
    h.nonempty ((List.append_eq_nil_iff.mp hnil).1 ▸ hx)
  induction xs generalizing ys with
  | nil =>
    cases ys with
    | nil => rfl
    | cons y ys =>
      rw [intercalate_cons] at heq
      exact absurd heq.symm (hne (hys y List.mem_cons_self))
  | cons x xs ih =>
    cases ys with
    | nil =>
      rw [intercalate_cons] at heq
      exact absurd heq (hne (hxs x List.mem_cons_self))
    | cons y ys =>
      rw [intercalate_cons, intercalate_cons] at heq
      rw [List.forall_mem_cons] at hxs hys
      have hx := h.cut hxs.1 hys.1 (itemsAfter_stops xs) (itemsAfter_stops ys) heq
      subst hx
      have hafter := List.append_cancel_left heq
      cases xs with
      | nil => cases ys with
        | nil => rfl
        | cons => cases hafter
      | cons => cases ys with
        | nil => cases hafter
        | cons => rw [ih hxs.2 hys.2 (List.cons.inj (List.cons.inj hafter).2).2]

end

/-! ## Texts without commas -/

namespace Numeric

variable {d : Decimal} {x : Float} {cs : List Char} {parts : List Char × List Char}

theorem digitsOf_commaless (n : Nat) : ',' ∉ digitsOf n := fun h =>
  absurd (Nat.isDigit_of_mem_toDigits (by decide) (by decide) h) (by decide)

theorem positional_commaless (d : Decimal) : ',' ∉ d.positional.1 ∧ ',' ∉ d.positional.2 := by
  have hdigits := digitsOf_commaless d.digits
  have hzeros (n : Nat) : ',' ∉ List.replicate n '0' := fun h =>
    absurd (List.mem_replicate.mp h).2 (by decide)
  unfold Decimal.positional
  simp only
  split
  · exact ⟨List.not_mem_append hdigits (hzeros _), List.not_mem_nil⟩
  · split
    · exact ⟨fun h => hdigits (List.mem_of_mem_take h), fun h => hdigits (List.mem_of_mem_drop h)⟩
    · exact ⟨by simp, List.not_mem_append (hzeros _) hdigits⟩

theorem joinPointed_commaless (h : ',' ∉ parts.1 ∧ ',' ∉ parts.2) : ',' ∉ joinPointed parts := by
  unfold joinPointed
  split <;> simp [h.1, h.2]

theorem scientific_commaless (d : Decimal) : ',' ∉ d.scientific := by
  have hdigits := digitsOf_commaless d.digits
  have hparts : ',' ∉ joinPointed ((digitsOf d.digits).take 1, (digitsOf d.digits).drop 1) :=
    joinPointed_commaless
      ⟨fun h => hdigits (List.mem_of_mem_take h), fun h => hdigits (List.mem_of_mem_drop h)⟩
  have hexponent : ',' ∉ signedDigits d.leading := by
    unfold signedDigits
    split <;> simp [digitsOf_commaless]
  exact List.not_mem_append hparts (by simp [hexponent])

theorem signed_commaless (x : Float) (h : ',' ∉ cs) : ',' ∉ signed x cs := by
  unfold signed
  split <;> simp [h]

theorem text_commaless (x : Float) : ',' ∉ (text x).toList := by
  unfold text
  simp only
  split
  · decide
  · split
    · rw [String.toList_ofList]
      exact signed_commaless x (by decide)
    · rw [String.toList_ofList]
      refine signed_commaless x ?_
      split
      · exact joinPointed_commaless (positional_commaless _)
      · exact scientific_commaless _

theorem text_ne_nil (x : Float) : (text x).toList ≠ [] := by
  have hsigned {cs : List Char} (h : cs ≠ []) : signed x cs ≠ [] := by
    unfold signed
    split <;> simp [h]
  unfold text
  simp only
  split
  · decide
  · split
    · rw [String.toList_ofList]
      exact hsigned (by decide)
    · rw [String.toList_ofList]
      refine hsigned ?_
      split <;> simp [joinPointed, Decimal.scientific]

end Numeric

/-! ## Elements -/

namespace Scalar

variable {p : Primitive} {v w : Scalar}

/-- A value that is no sentence, or one in which no double quote stands. -/
def IsPlain (v : Scalar) : Prop := ∀ s, v = .sentence s → '"' ∉ s.toList

/-- Elements of one type show in the text of an array where they end. -/
theorem itemTexts_delimited (p : Primitive) :
    Delimited fun x => ∃ v : Scalar, v.primitive = p ∧ v.IsPlain ∧ v.itemText.toList = x := by
  cases p with
  | number =>
    refine delimited_of_commaless ?_
    rintro _ ⟨v, hp, -, rfl⟩
    cases v with
    | number n => exact ⟨Numeric.text_ne_nil n, Numeric.text_commaless n⟩
    | letter | sentence | logic => cases hp
  | letter =>
    refine delimited_of_length (n := 3) (by decide) ?_
    rintro _ ⟨v, hp, -, rfl⟩
    cases v with
    | letter c => simp [itemText]
    | number | sentence | logic => cases hp
  | sentence =>
    refine delimited_of_quoted ?_
    rintro _ ⟨v, hp, hplain, rfl⟩
    cases v with
    | sentence s => exact ⟨s.toList, by simp [itemText], hplain s rfl⟩
    | number | letter | logic => cases hp
  | logic =>
    refine delimited_of_commaless ?_
    rintro _ ⟨v, hp, -, rfl⟩
    cases v with
    | logic b => cases b <;> decide
    | number | letter | sentence => cases hp

theorem itemText_inj (h : v.primitive = w.primitive) :
    v.itemText = w.itemText ↔ v.text = w.text := by
  cases v <;> cases w <;> cases h
  · rfl
  · simp [itemText, text]
  · simp [itemText, text]
  · rfl

end Scalar

/-! ## Arrays -/

namespace ArrayValue

variable {p : Primitive} {a b : ArrayValue} {R S : Scalar → Scalar → Prop}

/-- Arrays of one length whose elements stand in a relation, pair by pair. -/
def Elementwise (R : Scalar → Scalar → Prop) (a b : ArrayValue) : Prop :=
  List.Forall₂ R a.items.toList b.items.toList

theorem elementwise_congr (ha : a.Of p) (hb : b.Of p)
    (h : ∀ v w, v.primitive = p → w.primitive = p → (R v w ↔ S v w)) :
    Elementwise R a b ↔ Elementwise S a b := by
  have hpair {v w : Scalar} (hvw : (v, w) ∈ a.items.toList.zip b.items.toList) : R v w ↔ S v w := by
    obtain ⟨hv, hw⟩ := List.of_mem_zip hvw
    exact h v w (ha.2 v (Array.mem_toList_iff.mp hv)) (hb.2 w (Array.mem_toList_iff.mp hw))
  rw [Elementwise, Elementwise, List.forall₂_iff_zip, List.forall₂_iff_zip]
  exact and_congr_right fun _ => ⟨fun hR _ _ hvw => (hpair hvw).mp (hR hvw),
    fun hS _ _ hvw => (hpair hvw).mpr (hS hvw)⟩

theorem elementwise_map {α : Type} {f : Scalar → α} :
    Elementwise (fun v w => f v = f w) a b ↔ a.items.toList.map f = b.items.toList.map f := by
  rw [← List.forall₂_eq_eq_eq, List.forall₂_map_left_iff, List.forall₂_map_right_iff, Elementwise]

theorem text_eq_iff : a.text = b.text ↔
    ", ".toList.intercalate (a.items.toList.map fun v => v.itemText.toList) =
      ", ".toList.intercalate (b.items.toList.map fun v => v.itemText.toList) := by
  rw [← String.toList_inj]
  simp [text, String.toList_intercalate, Function.comp_def]

theorem itemTexts_iff (ha : a.Of p) (hb : b.Of p) :
    (a.items.toList.map fun v => v.itemText.toList) =
      (b.items.toList.map fun v => v.itemText.toList) ↔
    Elementwise (fun v w => v.text = w.text) a b := by
  rw [← elementwise_map]
  refine elementwise_congr ha hb fun v w hv hw => ?_
  rw [String.toList_inj, Scalar.itemText_inj (hv.trans hw.symm)]

/-- Arrays of elements with the same texts have the same text. -/
theorem text_of_elements (ha : a.Of p) (hb : b.Of p)
    (h : Elementwise (fun v w => v.text = w.text) a b) : a.text = b.text := by
  rw [text_eq_iff, (itemTexts_iff ha hb).mpr h]

/-- The text of an array determines the texts of its elements, if they are plain. -/
theorem text_iff_elements (ha : a.Of p) (hb : b.Of p) (hplain : ∀ v ∈ a.items, v.IsPlain)
    (hplain' : ∀ w ∈ b.items, w.IsPlain) :
    a.text = b.text ↔ Elementwise (fun v w => v.text = w.text) a b := by
  refine ⟨fun h => ?_, text_of_elements ha hb⟩
  refine (itemTexts_iff ha hb).mp ((Scalar.itemTexts_delimited p).intercalate_inj ?_ ?_
    (text_eq_iff.mp h))
  · intro x hx
    obtain ⟨v, hv, rfl⟩ := List.mem_map.mp hx
    have hv := Array.mem_toList_iff.mp hv
    exact ⟨v, ha.2 v hv, hplain v hv, rfl⟩
  · intro x hx
    obtain ⟨w, hw, rfl⟩ := List.mem_map.mp hx
    have hw := Array.mem_toList_iff.mp hw
    exact ⟨w, hb.2 w hw, hplain' w hw, rfl⟩

end ArrayValue

end Primer
