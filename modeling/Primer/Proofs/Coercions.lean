import Primer.Proofs.TypedLists

/-!
# Coercions

A value is fitted to a variable by one coercion and to an array by another one. What either of them
yields has the type that was asked for, and fitting it again changes nothing. Whatever a variable
stores, an array of its type stores in the same way. So an array that has its element type already
may be taken as it is, and retyping it once is enough.
-/

namespace Primer

namespace Value

variable {v : Value} {p : Primitive} {w : Scalar}

/-- A value of the type is stored in a variable as it is. -/
theorem coerce_self (w : Scalar) : (Value.scalar w).coerce w.primitive = .ok w := by
  cases w <;> rfl

/-- An array takes what a variable takes, and makes the same of it. -/
theorem coerceElement_of_coerce (h : v.coerce p = .ok w) : v.coerceElement p = .ok w := by
  cases p with
  | number =>
    rw [coerce] at h
    obtain ⟨n, hn, rfl⟩ := Yields.ok_of_map h
    rw [coerceElement_number, hn]
  | logic =>
    rw [coerce] at h
    obtain ⟨b, hb, rfl⟩ := Yields.ok_of_map h
    rw [coerceElement_logic, hb]
  | letter =>
    rcases v with (n | c | s | b) | a <;> cases h
    rfl
  | sentence =>
    rcases v with (n | c | s | b) | a <;> cases h
    · rfl
    · rfl

theorem coerce_stable (h : v.coerce p = .ok w) :
    w.primitive = p ∧ (Value.scalar w).coerce p = .ok w := by
  have hw : w.primitive = p := (v.coerce_gives p).ok h
  exact ⟨hw, hw ▸ coerce_self w⟩

theorem coerceElement_stable (h : v.coerceElement p = .ok w) :
    w.primitive = p ∧ (Value.scalar w).coerceElement p = .ok w := by
  have hw : w.primitive = p := (v.coerceElement_gives p).ok h
  exact ⟨hw, hw ▸ coerceElement_self w⟩

end Value

namespace ArrayValue

variable {a b : ArrayValue} {p : Primitive}

/-- Elements of the element type are rebuilt one by one. -/
theorem mapM_coerce_self {items : List Scalar} (h : ∀ w ∈ items, w.primitive = p) :
    (items.map Value.scalar).mapM (Value.coerceElement p) = .ok items := by
  induction items with
  | nil => rfl
  | cons w rest ih =>
    obtain ⟨hw, hrest⟩ := List.forall_mem_cons.mp h
    have hself : (Value.scalar w).coerceElement p = .ok w := hw ▸ Value.coerceElement_self w
    rw [List.map_cons, List.mapM_cons, hself, ih hrest]
    rfl

/-- An array that is rebuilt from its elements is the same array. -/
theorem ofValues_items (h : a.Of p) : ofValues p (a.items.toList.map .scalar) = .ok a := by
  have hitems : ∀ w ∈ a.items.toList, w.primitive = p := by simpa using h.2
  rw [ofValues, mapM_coerce_self hitems, ← h.1]
  rfl

theorem retype_elem (h : a.retype p = .ok b) : b.elem = p := by
  unfold retype at h
  split at h
  · next hp =>
    cases h
    exact hp.symm
  · exact ((ofValues_gives p _).ok h).1

theorem retype_retype (a : ArrayValue) (p : Primitive) :
    (a.retype p >>= fun b => b.retype p) = a.retype p := by
  cases h : a.retype p with
  | error f => rfl
  | ok b =>
    show b.retype p = .ok b
    rw [retype, if_pos (retype_elem h).symm]

end ArrayValue

namespace Value

/-- What a coercion yields has the type asked for and is left alone when it is coerced again, and
what fits a variable fits an array in the same way. An array of its element type is what its elements
make when they are fitted again, and an array that was retyped is not changed by the same retyping. -/
theorem coercions_lawful :
    (∀ (v : Value) p w, v.coerce p = .ok w →
      w.primitive = p ∧ (Value.scalar w).coerce p = .ok w ∧ v.coerceElement p = .ok w) ∧
    (∀ (v : Value) p w, v.coerceElement p = .ok w →
      w.primitive = p ∧ (Value.scalar w).coerceElement p = .ok w) ∧
    (∀ a : ArrayValue, a.Of a.elem →
      a.retype a.elem = ArrayValue.ofValues a.elem (a.items.toList.map .scalar)) ∧
    ∀ (a : ArrayValue) p, (a.retype p >>= fun b => b.retype p) = a.retype p := by
  refine ⟨fun v p w h => ?_, fun v p w h => coerceElement_stable h, fun a ha => ?_,
    ArrayValue.retype_retype⟩
  · obtain ⟨hw, hself⟩ := coerce_stable h
    exact ⟨hw, hself, coerceElement_of_coerce h⟩
  · rw [ArrayValue.retype_of ha, ArrayValue.ofValues_items ha]

/-- A digit that is stored as a number, a text that only an array takes for a letter, and the array of
that letter. -/
theorem digit_coercions_lawful :
    (Value.scalar (.letter '7')).coerce .number = .ok (.number (Float.ofNat 7)) ∧
    (Value.scalar (.letter '7')).coerceElement .number = .ok (.number (Float.ofNat 7)) ∧
    (∀ w, (Value.sentence "x").coerce .letter ≠ .ok w) ∧
    (Value.sentence "x").coerceElement .letter = .ok (.letter 'x') ∧
    (Value.scalar (.letter 'x')).coerceElement .letter = .ok (.letter 'x') ∧
    ArrayValue.retype ⟨.letter, #[.letter 'x']⟩ .letter =
      ArrayValue.ofValues .letter [.scalar (.letter 'x')] := by
  obtain ⟨hvariable, helement, hretype, -⟩ := coercions_lawful
  have hdigit : (Value.scalar (.letter '7')).coerce .number = .ok (.number (Float.ofNat 7)) := rfl
  have htext : (Value.sentence "x").coerceElement .letter = .ok (.letter 'x') := rfl
  have hletters : ArrayValue.Of .letter ⟨.letter, #[.letter 'x']⟩ :=
    ⟨rfl, by simp [Scalar.primitive]⟩
  exact ⟨hdigit, (hvariable _ _ _ hdigit).2.2, nofun, htext, (helement _ _ _ htext).2,
    hretype ⟨.letter, #[.letter 'x']⟩ hletters⟩

end Value

end Primer
