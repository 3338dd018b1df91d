import Primer.Proofs.Ends
import Primer.Proofs.LiteralValues

/-!
# The shapes of values

A value has the shape of a type if it is what a place of that type may hold. A LOGIC place may also
hold a text, since input is stored as it was typed; the elements of arrays are exact. Conversions
between shapes that the check lets through fail for a letter that is no digit and for a text that is
no truth value only.
-/

namespace Primer

/-! ## Shapes -/

/-- An array of the element type all of whose elements are of it. -/
def ArrayValue.Of (p : Primitive) (a : ArrayValue) : Prop := a.elem = p ∧ ∀ v ∈ a.items, v.primitive = p

/-- A value that a place of the type may hold. -/
def Ty.Holds : Ty → Value → Prop
  | .scalar p, .scalar v => v.primitive = p ∨ p = .logic ∧ v.primitive = .sentence
  | .array p, .array a => a.Of p
  | _, _ => False

namespace Ty.Holds

variable {v : Value} {p : Primitive}

theorem of_primitive {w : Scalar} (h : w.primitive = p) : (Ty.scalar p).Holds (.scalar w) := .inl h

theorem of_ty (h : v.ty = .scalar p) : (Ty.scalar p).Holds v := by
  cases v with
  | scalar w => exact of_primitive (Ty.scalar.inj h)
  | array a => cases h

theorem scalar (h : (Ty.scalar p).Holds v) : ∃ w, v = .scalar w := by
  cases v with
  | scalar w => exact ⟨w, rfl⟩
  | array a => exact h.elim

theorem array (h : (Ty.array p).Holds v) : ∃ a : ArrayValue, v = .array a ∧ a.Of p := by
  cases v with
  | scalar w => exact h.elim
  | array a => exact ⟨a, rfl, h⟩

theorem number (h : Ty.number.Holds v) : ∃ n, v = .number n := by
  obtain ⟨w, rfl⟩ := h.scalar
  rcases h with h | ⟨h, -⟩ <;> cases w <;> cases h
  exact ⟨_, rfl⟩

theorem letter (h : (Ty.scalar .letter).Holds v) : ∃ c, v = .scalar (.letter c) := by
  obtain ⟨w, rfl⟩ := h.scalar
  rcases h with h | ⟨h, -⟩ <;> cases w <;> cases h
  exact ⟨_, rfl⟩

theorem sentence (h : (Ty.scalar .sentence).Holds v) : ∃ s, v = .sentence s := by
  obtain ⟨w, rfl⟩ := h.scalar
  rcases h with h | ⟨h, -⟩ <;> cases w <;> cases h
  exact ⟨_, rfl⟩

theorem logic (h : Ty.logic.Holds v) : (∃ b, v = .logic b) ∨ ∃ s, v = .sentence s := by
  obtain ⟨w, rfl⟩ := h.scalar
  rcases h with h | ⟨-, h⟩ <;> cases w <;> cases h
  · exact .inl ⟨_, rfl⟩
  · exact .inr ⟨_, rfl⟩

/-- A value in a place has the place's type, but for a text in a LOGIC place. -/
theorem ty_eq {ty : Ty} (h : ty.Holds v) : v.ty = ty ∨ ty = .logic ∧ v.ty = .scalar .sentence := by
  cases ty with
  | scalar p =>
    obtain ⟨w, rfl⟩ := h.scalar
    rcases h with h | ⟨rfl, h⟩
    · exact .inl (congrArg Ty.scalar h)
    · exact .inr ⟨rfl, congrArg Ty.scalar h⟩
  | array p =>
    obtain ⟨a, rfl, h⟩ := h.array
    exact .inl (congrArg Ty.array h.1)
  | unknown => exact h.elim

end Ty.Holds

theorem Scalar.default_primitive (p : Primitive) : (Scalar.default p).primitive = p := by
  cases p <;> rfl

theorem Ty.accepts_self (ty : Ty) : ty.accepts ty = true := by simp [accepts]

theorem Ty.accepts_scalar {p : Primitive} {ty : Ty} (h : (Ty.scalar p).accepts ty = true) :
    ty = .scalar p ∨ ty = .scalar .letter ∧ (p = .number ∨ p = .sentence) := by
  rcases Bool.or_eq_true_iff.mp h with h | h
  · exact .inl (of_decide_eq_true h).symm
  · cases p <;> cases ty with
    | scalar q => cases q <;> simp_all
    | _ => simp at h

/-! ## Faults -/

/-- The faults of a run whose names and types are in order: they lie in the data of the run. -/
def Fault.isOfData : Fault → Bool
  | .divisionByZero | .moduloByZero | .indexOutOfBounds _ | .nonIntegerIndex _
  | .invalidArraySize _ | .arrayTooLarge _ | .emptyArray | .nonNumericElement _
  | .invalidLogic _ | .conversion _ _ | .numericInputRequired | .letterInputLength
  | .inputClosed => true
  | _ => false

/-- The faults of a letter that is no digit where a number is wanted, and of a text that is no truth
value where one is wanted; the element of an array has faults of its own. -/
inductive Misfit : Value → Fault → Prop where
  | letter {c} : Numeric.ofDigit? c = none →
      Misfit (.scalar (.letter c)) (.conversion ("'" ++ String.singleton c ++ "'") .number)
  | letterElement {c} : Numeric.ofDigit? c = none →
      Misfit (.scalar (.letter c)) (.nonNumericElement (String.singleton c))
  | text {s} : Literal.truth? (Text.trim s) = none → Misfit (.sentence s) (.conversion s .logic)
  | textElement {s} : Literal.truth? (Text.trim s) = none → Misfit (.sentence s) (.invalidLogic s)

theorem Misfit.isOfData {v : Value} {f : Fault} (h : Misfit v f) : f.isOfData = true := by
  cases h <;> rfl

/-! ## Conversions -/

/-- What a value becomes in a place that the check lets it into. -/
inductive Becomes : Value → Scalar → Prop where
  | same {v} : Becomes (.scalar v) v
  | digit {c n} : Numeric.ofDigit? c = some n → Becomes (.scalar (.letter c)) (.number n)
  | text {c} : Becomes (.scalar (.letter c)) (.sentence (String.singleton c))
  | truth {s b} : Literal.truth? (Text.trim s) = some b → Becomes (.sentence s) (.logic b)

namespace Value

variable {v : Value} {p : Primitive} {ty : Ty}

theorem toLogic_yields (h : Ty.logic.Holds v) :
    Yields v.toLogic (fun b => Becomes v (.logic b)) (Misfit v) := by
  rcases h.logic with ⟨b, rfl⟩ | ⟨s, rfl⟩
  · exact .value .same
  · show Yields (Scalar.toLogic (.sentence s)) _ _
    unfold Scalar.toLogic
    cases ht : Literal.truth? (Text.trim s) with
    | none =>
      simp only [ht]
      exact .fault (.text ht)
    | some b =>
      simp only [ht]
      exact .value (.truth ht)

theorem toNumber_letter (c : Char) :
    Yields (Value.toNumber (.scalar (.letter c)))
      (fun n => Becomes (.scalar (.letter c)) (.number n)) (Misfit (.scalar (.letter c))) := by
  show Yields (Scalar.toNumber (.letter c)) _ _
  unfold Scalar.toNumber
  cases hd : Numeric.ofDigit? c with
  | none =>
    simp only [hd]
    exact .fault (.letter hd)
  | some n =>
    simp only [hd]
    exact .value (.digit hd)

/-- A value that may flow into a variable is stored as a value of its type. -/
theorem coerce_yields (h : (Ty.scalar p).accepts ty = true) (hv : ty.Holds v) :
    Yields (v.coerce p) (fun w => w.primitive = p ∧ Becomes v w) (Misfit v) := by
  rcases Ty.accepts_scalar h with rfl | ⟨rfl, rfl | rfl⟩
  · cases p with
    | number =>
      obtain ⟨n, rfl⟩ := hv.number
      exact .value ⟨rfl, .same⟩
    | letter =>
      obtain ⟨c, rfl⟩ := hv.letter
      exact .value ⟨rfl, .same⟩
    | sentence =>
      obtain ⟨s, rfl⟩ := hv.sentence
      exact .value ⟨rfl, .same⟩
    | logic => exact ((toLogic_yields hv).mono (fun b hb => ⟨rfl, hb⟩) fun _ hf => hf).map
  · obtain ⟨c, rfl⟩ := hv.letter
    exact ((toNumber_letter c).mono (fun n hn => ⟨rfl, hn⟩) fun _ hf => hf).map
  · obtain ⟨c, rfl⟩ := hv.letter
    exact .value ⟨rfl, .text⟩

theorem coerceElement_number (v : Value) : v.coerceElement .number =
    match v.toNumber with
    | .ok n => .ok (.number n)
    | .error _ => .error (.nonNumericElement v.text) := by
  unfold coerceElement
  rfl

theorem coerceElement_logic (v : Value) : v.coerceElement .logic =
    match v.toLogic with
    | .ok b => .ok (.logic b)
    | .error _ => .error (.invalidLogic v.text) := by
  unfold coerceElement
  rfl

/-- A value that may flow into an array is stored as an element of its element type. -/
theorem coerceElement_yields (h : (Ty.scalar p).accepts ty = true) (hv : ty.Holds v) :
    Yields (v.coerceElement p) (fun w => w.primitive = p ∧ Becomes v w) (Misfit v) := by
  rcases Ty.accepts_scalar h with rfl | ⟨rfl, rfl | rfl⟩
  · cases p with
    | number =>
      obtain ⟨n, rfl⟩ := hv.number
      exact .value ⟨rfl, .same⟩
    | letter =>
      obtain ⟨c, rfl⟩ := hv.letter
      exact .value ⟨rfl, .same⟩
    | sentence =>
      obtain ⟨s, rfl⟩ := hv.sentence
      exact .value ⟨rfl, .same⟩
    | logic =>
      have hl := toLogic_yields hv
      rw [coerceElement_logic]
      cases ht : v.toLogic with
      | ok b => exact .value ⟨rfl, hl.ok ht⟩
      | error f =>
        have hf := hl.error ht
        rcases hv.logic with ⟨b, rfl⟩ | ⟨s, rfl⟩
        · cases hf
        · cases hf with
          | text hs | textElement hs => exact .fault (.textElement hs)
  · obtain ⟨c, rfl⟩ := hv.letter
    have hn := toNumber_letter c
    rw [coerceElement_number]
    cases ht : Value.toNumber (.scalar (.letter c)) with
    | ok n => exact .value ⟨rfl, hn.ok ht⟩
    | error f =>
      cases hn.error ht with
      | letter hc | letterElement hc => exact .fault (.letterElement hc)
  · obtain ⟨c, rfl⟩ := hv.letter
    exact .value ⟨rfl, .text⟩

/-- A value of the element type is stored in an array as it is. -/
theorem coerceElement_self (w : Scalar) : (Value.scalar w).coerceElement w.primitive = .ok w := by
  cases w <;> rfl

end Value

/-! ## Literals -/

theorem Literal.classify_scalar {raw : String} {ty : Ty} (h : classify raw = .ok ty) :
    ∃ p, ty = .scalar p := by
  obtain ⟨v, -, rfl⟩ := classify_iff_value.mp h
  exact ⟨v.primitive, rfl⟩

/-- A literal is evaluated to a value of the type that its surface has. -/
theorem Scalar.ofLiteral_yields {raw : String} {ty : Ty} (h : Literal.classify raw = .ok ty) :
    Yields (Scalar.ofLiteral raw) (fun v => ty = .scalar v.primitive) (·.isOfData = true) := by
  obtain ⟨v, hv, rfl⟩ := Literal.classify_iff_value.mp h
  rw [hv]
  exact .value rfl

/-! ## Arrays -/

/-- The faults of an index that is no whole number or lies outside the array. -/
def Fault.isOfIndex : Fault → Bool
  | .nonIntegerIndex _ | .indexOutOfBounds _ => true
  | _ => false

theorem Fault.isOfIndex_isOfData {f : Fault} (h : f.isOfIndex = true) : f.isOfData = true := by
  cases f <;> first | rfl | cases h

namespace ArrayValue

variable {p : Primitive} {a : ArrayValue} {v : Value} {ty : Ty} {i : Float}

theorem of_empty (p : Primitive) : (empty p).Of p := ⟨rfl, by simp [empty]⟩

theorem ofSize_yields (p : Primitive) (n : Float) :
    Yields (ofSize p n) (Of p) (·.isOfData = true) := by
  unfold ofSize
  split
  · exact .fault rfl
  · split
    · exact .fault rfl
    · refine .value ⟨rfl, fun v hv => ?_⟩
      rw [(Array.mem_replicate.mp hv).2, Scalar.default_primitive]

theorem ofValues_yields {values : List Value} (h : ∀ v ∈ values, (Ty.scalar p).Holds v) :
    Yields (ofValues p values) (Of p) (·.isOfData = true) := by
  refine Yields.map ((Yields.mapM fun v hv => ?_).mono (Q := fun items => ∀ w ∈ items, w.primitive = p)
    (fun items hitems => ⟨rfl, by simpa using hitems⟩) fun _ hf => hf)
  exact (Value.coerceElement_yields (Ty.accepts_self _) (h v hv)).mono (fun _ hw => hw.1)
    fun _ hf => hf.isOfData

theorem position_yields (a : ArrayValue) (i : Float) :
    Yields (a.position i) (· < a.size) (·.isOfIndex = true) := by
  unfold position
  split
  · exact .fault rfl
  · split
    · exact .fault rfl
    · next h =>
      simp only [Bool.or_eq_true, decide_eq_true_eq, not_or, Nat.not_le] at h
      exact .value h.2

theorem get_yields (a : ArrayValue) (i : Float) :
    Yields (a.get i) (· ∈ a.items) (·.isOfIndex = true) := by
  have hpos := position_yields a i
  unfold get
  cases hp : a.position i with
  | error f => exact .fault (hpos.error hp)
  | ok k =>
    simp only
    cases hk : a.items[k]? with
    | none => exact .fault rfl
    | some v => exact .value (Array.mem_of_getElem? hk)

theorem retype_of (ha : a.Of p) : a.retype p = .ok a := by
  rw [retype, if_pos ha.1.symm]

end ArrayValue

end Primer
