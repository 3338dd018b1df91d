import Primer.Proofs.ArrayTexts
import Primer.Proofs.TruthValues

/-!
# Equality of values

Arrays are compared by their texts. That is a comparison element by element for letters and truth
values, and for sentences in which no double quote stands; numbers in arrays are compared by their
texts, without the tolerance that equality has for single numbers.

Every value is equal to itself, except an infinite number and the number that is none: the difference
of an infinite number and itself is no number, so that no tolerance covers it.
-/

namespace Primer

/-! ## Arrays -/

/-- Whether two elements count as equal. -/
def Scalar.LooselyEqual (v w : Scalar) : Prop :=
  (Value.scalar v).looselyEqual (.scalar w) = true

namespace Scalar

variable {v w : Scalar}

/-- Values of one type that is not that of numbers are equal if they have the same text. -/
theorem looselyEqual_iff_text (h : v.primitive = w.primitive) (hp : v.primitive ≠ .number) :
    v.LooselyEqual w ↔ v.text = w.text := by
  cases v <;> cases w <;> cases h
  · exact absurd rfl hp
  · exact beq_iff_eq
  · exact beq_iff_eq
  · exact beq_iff_eq.trans logicText_inj.symm

theorem isPlain_of_primitive (h : v.primitive ≠ .sentence) : v.IsPlain := by
  rintro s rfl
  exact absurd rfl h

end Scalar

namespace Value

variable {p : Primitive} {a b : ArrayValue}

theorem arrays_equal_iff : (array a).looselyEqual (.array b) = true ↔ a.text = b.text := beq_iff_eq

theorem elements_equal_iff (ha : a.Of p) (hb : b.Of p) (hp : p ≠ .number) :
    a.Elementwise Scalar.LooselyEqual b ↔ a.Elementwise (fun v w => v.text = w.text) b :=
  ArrayValue.elementwise_congr ha hb fun _ _ hv hw =>
    Scalar.looselyEqual_iff_text (hv.trans hw.symm) (hv ▸ hp)

/-- Arrays of one element type are equal as follows. Letters and truth values are compared one by
one. Numbers must have the same texts, however close they are. Sentences that are equal one by one
make equal arrays; the converse holds if no double quote stands in them. -/
theorem arrays_equal (ha : a.Of p) (hb : b.Of p) :
    (p = .letter ∨ p = .logic →
      ((array a).looselyEqual (.array b) = true ↔ a.Elementwise Scalar.LooselyEqual b)) ∧
    (p = .number → ((array a).looselyEqual (.array b) = true ↔
      a.Elementwise (fun v w => v.text = w.text) b)) ∧
    (p = .sentence →
      (a.Elementwise Scalar.LooselyEqual b → (array a).looselyEqual (.array b) = true) ∧
      ((∀ v ∈ a.items, v.IsPlain) → (∀ w ∈ b.items, w.IsPlain) →
        ((array a).looselyEqual (.array b) = true ↔ a.Elementwise Scalar.LooselyEqual b))) := by
  have hplain {c : ArrayValue} (hc : c.Of p) (hp : p ≠ .sentence) : ∀ v ∈ c.items, v.IsPlain :=
    fun v hv => Scalar.isPlain_of_primitive (hc.2 v hv ▸ hp)
  have htexts (hp : p ≠ .sentence) := ArrayValue.text_iff_elements ha hb (hplain ha hp) (hplain hb hp)
  rw [arrays_equal_iff]
  refine ⟨fun hp => ?_, fun hp => htexts (hp ▸ nofun), fun hp => ⟨fun h => ?_, fun hv hw => ?_⟩⟩
  · have hsentence : p ≠ .sentence := by rcases hp with rfl | rfl <;> exact nofun
    have hnumber : p ≠ .number := by rcases hp with rfl | rfl <;> exact nofun
    rw [htexts hsentence, elements_equal_iff ha hb hnumber]
  · exact ArrayValue.text_of_elements ha hb ((elements_equal_iff ha hb (hp ▸ nofun)).mp h)
  · rw [ArrayValue.text_iff_elements ha hb hv hw, elements_equal_iff ha hb (hp ▸ nofun)]

/-- Two equal numbers in arrays that are not equal, and equal arrays of different lengths. -/
theorem closeNumbers_unequal :
    Scalar.LooselyEqual (.number 1.0) (.number 1.0000001) ∧
    (array ⟨.number, #[.number 1.0]⟩).looselyEqual (.array ⟨.number, #[.number 1.0000001]⟩) =
      false ∧
    (array ⟨.sentence, #[.sentence "a\", \"b"]⟩).looselyEqual
      (.array ⟨.sentence, #[.sentence "a", .sentence "b"]⟩) = true := by
  have hnear : Scalar.LooselyEqual (.number 1.0) (.number 1.0000001) := by
    show Numeric.near 1.0 1.0000001 = true
    decide +kernel
  have hnumbers {x : Float} : ArrayValue.Of .number ⟨.number, #[.number x]⟩ :=
    ⟨rfl, by simp [Scalar.primitive]⟩
  refine ⟨hnear, Bool.eq_false_iff.mpr fun h => ?_, by decide⟩
  have htexts := ((arrays_equal hnumbers hnumbers).2.1 rfl).mp h
  have htext : Numeric.text 1.0 = Numeric.text 1.0000001 := by
    simpa [ArrayValue.Elementwise, Scalar.text] using htexts
  exact absurd htext (by decide +kernel)

end Value

/-! ## Numbers and themselves -/

namespace Numeric

open Float.Model

/-- A number is finite unless all bits of its exponent are set. -/
theorem unpack_isFinite (x : Float) : x.toModel.unpack.isFinite = isFinite x := by
  have hexponent : @UnpackedFloat.unpackExponent Format.binary64 x.toModel.toBits.toBitVec = -1#_ ↔
      ¬x.toModel.toBits.toNat % signWeight < infinityBits := by
    rw [← BitVec.toNat_inj]
    simp [UnpackedFloat.unpackExponent, BitVec.extractLsb, BitVec.extractLsb',
      Nat.shiftRight_eq_div_pow, signWeight, infinityBits]
    omega
  show _ = decide (x.toModel.toBits.toNat % signWeight < infinityBits)
  delta Float.Model.unpack UnpackedFloat.unpack
  have hmantissa :=
    Decidable.em (@UnpackedFloat.unpackMantissa Format.binary64 x.toModel.toBits.toBitVec = 0#_)
  by_cases h : x.toModel.toBits.toNat % signWeight < infinityBits
  · rw [if_neg (mt hexponent.mp (not_not.mpr h)), decide_eq_true h]
    by_cases hsubnormal : @UnpackedFloat.unpackExponent Format.binary64
        x.toModel.toBits.toBitVec = 0#_
    · rw [if_pos hsubnormal]
      rcases hmantissa with hzero | hnonzero
      · rw [dif_pos hzero]
        rfl
      · rw [dif_neg hnonzero]
        rfl
    · rw [if_neg hsubnormal]
      rfl
  · rw [if_pos (hexponent.mpr h), decide_eq_false h]
    rcases hmantissa with hzero | hnonzero
    · rw [if_pos hzero]
      rfl
    · rw [if_neg hnonzero]
      rfl

/-- A finite number less itself is zero; an infinite one less itself is no number. -/
theorem sub_self (u : UnpackedFloat) : UnpackedFloat.sub Format.binary64 u u =
    if u.isFinite then .zero .positive else .notANumber := by
  cases u with
  | notANumber => rfl
  | infinity s => cases s <;> rfl
  | zero s => cases s <;> rfl
  | finite s m e hm =>
    show UnpackedFloat.normalize _ (s.apply _ - s.apply _) _ _ = _
    rw [Int.sub_self, UnpackedFloat.normalize]
    rfl

theorem near_self (x : Float) : near x x = isFinite x := by
  have hsub : x - x =
      ⟨pack (UnpackedFloat.sub Format.binary64 x.toModel.unpack x.toModel.unpack)⟩ := rfl
  rw [near, hsub, sub_self, unpack_isFinite]
  cases isFinite x <;> decide +kernel

end Numeric

/-! ## Values and themselves -/

namespace Value

/-- Whether a value is no infinite number and not NaN. -/
def isFinite : Value → Bool
  | scalar (.number x) => Numeric.isFinite x
  | _ => true

theorem looselyEqual_self (v : Value) : v.looselyEqual v = v.isFinite := by
  rcases v with (x | c | s | b) | a
  · exact Numeric.near_self x
  · exact beq_self_eq_true _
  · exact beq_self_eq_true _
  · exact beq_self_eq_true b
  · exact beq_self_eq_true a.text

theorem selects_self (v : Value) : v.selects v = v.isFinite := by
  rcases v with (x | c | s | b) | a
  · exact Numeric.near_self x
  · exact beq_self_eq_true _
  · exact beq_self_eq_true (Text.lower s)
  · exact beq_self_eq_true b
  · exact beq_self_eq_true a.text

end Value

/-- How a program compares a name with itself, given its value: an equality, an inequality and a
switch with the name as its first case. -/
structure Machine.ComparesSelf (settings : Settings) (limit : Nat) (m : Machine) (name : String)
    (v : Value) : Prop where
  equal : ∀ ty tyLeft tyRight,
    Exec.eval (.binary ty .equal (.var tyLeft name) (.var tyRight name)) m =
      .ok (.logic v.isFinite) m
  notEqual : ∀ ty tyLeft tyRight,
    Exec.eval (.binary ty .notEqual (.var tyLeft name) (.var tyRight name)) m =
      .ok (.logic (!v.isFinite)) m
  selected : ∀ line ty tyCase body rest fallback,
    (Stmt.switch line (.var ty name) ((.var tyCase name, body) :: rest) fallback).exec settings
        limit m =
      Exec.onLine line
        (if v.isFinite then Exec.inFrame true (Stmt.execAll settings limit body)
        else Stmt.execCases settings limit v (Stmt.execFallback settings limit fallback) rest) m

theorem Machine.comparesSelf {settings : Settings} {limit : Nat} {m : Machine} {name : String}
    {bound : Binding} (h : m.store.find? name = some bound) :
    m.ComparesSelf settings limit name bound.value where
  equal ty tyLeft tyRight := Exec.eval_ok (Expr.eval_binary ty (Expr.eval_found h tyLeft)
    (Expr.eval_found h tyRight) (by rw [BinaryOp.apply, Value.looselyEqual_self]))
  notEqual ty tyLeft tyRight := Exec.eval_ok (Expr.eval_binary ty (Expr.eval_found h tyLeft)
    (Expr.eval_found h tyRight) (by rw [BinaryOp.apply, Value.looselyEqual_self]))
  selected line ty tyCase body rest fallback := by
    have hvalue (ty : Ty) := Exec.eval_ok (m := m) (Expr.eval_found h ty)
    rw [Stmt.exec, Exec.onLine, Exec.onLine, Ends.run_bind_ok (hvalue ty), Stmt.execCases,
      Ends.run_bind_ok (hvalue tyCase), Value.selects_self]

/-- A value is equal to itself, and selected by itself, exactly if it is no infinite number and not
NaN. So is the value of a name, wherever a program compares the name with itself. -/
theorem Machine.self_equality (settings : Settings) (limit : Nat) :
    (∀ v : Value, v.looselyEqual v = v.isFinite ∧ v.selects v = v.isFinite) ∧
    ∀ (m : Machine) (name : String) (bound : Binding), m.store.find? name = some bound →
      m.ComparesSelf settings limit name bound.value :=
  ⟨fun v => ⟨v.looselyEqual_self, v.selects_self⟩, fun _ _ _ h => comparesSelf h⟩

/-- A number that is read and compared with itself. -/
def readNumber : Program where
  stmts := [
    .action none (.declare "NUMBER" "x" none), .action none (.input "x"),
    .action none (.display (some (.expr
      (.binary .unknown .equal (.var .unknown "x") (.var .unknown "x")))) true)]

theorem readNumber_self_equality : readNumber.diagnostics = [] ∧
    ∃ c ∈ readNumber.calls .default 10 (.start (.scripted ["inf"])), ∃ x : Float,
      c.machine.store.find? "x" = some ⟨.number, .number x⟩ ∧ x.isNaN = false ∧
      Exec.eval (.binary .logic .equal (.var .number "x") (.var .number "x")) c.machine =
        .ok (.logic false) c.machine := by
  let x := Numeric.ofMagnitude false Numeric.infinityBits
  obtain ⟨c, hc, hx⟩ : ∃ c ∈ readNumber.calls .default 10 (.start (.scripted ["inf"])),
      c.machine.store.find? "x" = some ⟨.number, .number x⟩ :=
    ⟨_, List.mem_of_getElem? (i := 4) rfl, rfl⟩
  have hinfinite : (Value.number x).isFinite = false := by
    show Numeric.isFinite x = false
    decide +kernel
  have hequal := ((Machine.self_equality .default 10).2 c.machine "x" _ hx).equal
  exact ⟨rfl, c, hc, x, hx, by decide +kernel, hinfinite ▸ hequal .logic .number .number⟩

end Primer
