import Primer.Proofs.NumberValues
import Primer.Proofs.TypedLists

/-!
# Positions and sizes

Which numbers are taken for a position in an array, or for the size of one. A natural is, if it is not
too large, and nothing else that is at least one or negative. The test for whole numbers lets positive
fractions below `2 ^ -52` pass, though, and these stand for zero.
-/

namespace Primer

namespace Numeric

/-- The number is taken for the natural, as an index or as a size: it is equal to it, or it is a
positive fraction that is too small to be told from zero. -/
def StandsFor (x : Float) (k : ℕ) : Prop :=
  ∃ q, value? x = some q ∧ (q = k ∨ k = 0 ∧ 0 < q ∧ q < 1 / 2 ^ 52)

/-- The two tests and the whole part come to the same. -/
theorem standsFor_iff {x : Float} {k : ℕ} :
    StandsFor x k ↔ isWhole x = true ∧ ¬x < 0.0 ∧ wholePart x = k := by
  cases h : value? x with
  | none =>
    simp [StandsFor, h, not_isWhole h]
  | some q =>
    simp only [StandsFor, h, Option.some.injEq, exists_eq_left', isWhole_iff h, lt_zero_iff h, not_lt,
      wholePart_eq h]
    constructor
    · rintro (rfl | ⟨rfl, hpos, hsmall⟩)
      · refine ⟨.inl ⟨k, by simp⟩, by simp, by simp⟩
      · rw [abs_of_pos hpos]
        have hone : q < 1 := by linarith [show (1 : ℚ) / 2 ^ 52 < 1 by norm_num]
        exact ⟨.inr hsmall, hpos.le, Nat.floor_eq_zero.mpr hone⟩
    · rintro ⟨hwhole, hq, rfl⟩
      rw [abs_of_nonneg hq] at hwhole
      rcases hwhole with ⟨j, rfl⟩ | hsmall
      · exact .inl (by simp)
      · have hone : q < 1 := by linarith [show (1 : ℚ) / 2 ^ 52 < 1 by norm_num]
        rcases hq.eq_or_lt with rfl | hpos
        · exact .inl (by simp)
        · exact .inr ⟨Nat.floor_eq_zero.mpr hone, hpos, hsmall⟩

end Numeric

namespace ArrayValue

open Numeric (StandsFor)

theorem position_iff {a : ArrayValue} {index : Float} {k : ℕ} :
    a.position index = .ok k ↔ StandsFor index k ∧ k < a.size := by
  rw [Numeric.standsFor_iff, position]
  by_cases hw : Numeric.isWhole index = true
  · by_cases hn : index < 0.0
    · simp [hw, hn]
    · by_cases hs : a.size ≤ Numeric.wholePart index
      · simp [hw, hn, hs]
        omega
      · simp [hw, hn, hs]
        omega
  · simp [hw]

theorem get_iff {a : ArrayValue} {index : Float} {w : Scalar} :
    a.get index = .ok w ↔ ∃ k, StandsFor index k ∧ a.items[k]? = some w := by
  rw [get]
  constructor
  · intro h
    cases hk : a.position index with
    | error f =>
      rw [hk] at h
      cases h
    | ok k =>
      simp only [hk] at h
      split at h
      · next v hv =>
        cases h
        exact ⟨k, (position_iff.mp hk).1, hv⟩
      · cases h
  · rintro ⟨k, hk, hw⟩
    obtain ⟨hsize, -⟩ := Array.getElem?_eq_some_iff.mp hw
    rw [position_iff.mpr ⟨hk, hsize⟩]
    simp only [hw]

theorem set_iff {a b : ArrayValue} {index : Float} {v : Value} {w : Scalar}
    (hw : v.coerceElement a.elem = .ok w) : a.set index v = .ok () b ↔
      ∃ k, StandsFor index k ∧ ∃ h : k < a.items.size,
        b = { a with items := a.items.set k w h } := by
  have hset {k : Nat} (hsize : k < a.items.size) :
      a.items.setIfInBounds k w = a.items.set k w hsize := dif_pos hsize
  constructor
  · have hmakes : (set index v).Makes a (fun _ b => ∃ k, StandsFor index k ∧
        ∃ h : k < a.items.size, b = { a with items := a.items.set k w h }) fun _ => True := by
      refine .set ⟨fun {k} hk => ?_, fun _ => trivial⟩
      obtain ⟨hindex, hsize⟩ := position_iff.mp hk
      rw [hw]
      exact .value ⟨k, hindex, hsize, congrArg (ArrayValue.mk a.elem) (hset hsize)⟩
    exact hmakes.ok
  · rintro ⟨k, hk, hsize, rfl⟩
    have hmakes : (set index v).Makes a (fun _ b => b = { a with items := a.items.set k w hsize })
        fun _ => False := by
      refine .set ?_
      rw [position_iff.mpr ⟨hk, hsize⟩, hw]
      exact .value (.value (congrArg (ArrayValue.mk a.elem) (hset hsize)))
    obtain ⟨_, _, hrun, rfl⟩ := hmakes.succeeds
    exact hrun

theorem ofSize_iff {elem : Primitive} {size : Float} {a : ArrayValue} :
    ofSize elem size = .ok a ↔ ∃ k, StandsFor size k ∧ k ≤ maxSize ∧
      a = ⟨elem, Array.replicate k (Scalar.default elem)⟩ := by
  simp only [Numeric.standsFor_iff]
  rw [ofSize]
  constructor
  · intro h
    split at h
    · cases h
    next haccepted =>
    split at h
    · cases h
    next hsize =>
    cases h
    simp only [Bool.or_eq_true, decide_eq_true_eq, Bool.not_eq_true', not_or,
      Bool.not_eq_false] at haccepted
    exact ⟨_, ⟨haccepted.2, haccepted.1, rfl⟩, Nat.not_lt.mp hsize, rfl⟩
  · rintro ⟨k, ⟨hwhole, hneg, rfl⟩, hmax, rfl⟩
    rw [if_neg (by simp [hwhole, hneg]), if_neg (Nat.not_lt.mpr hmax)]

/-- A number is accepted as an index exactly if it stands for a position in the array, and as a size
exactly if it stands for a natural up to the largest size. Then the element at that position is read or
replaced, or so many defaults are made. -/
theorem indices_accepted (n : Float) :
    (∀ (a : ArrayValue) w, a.get n = .ok w ↔ ∃ k, StandsFor n k ∧ a.items[k]? = some w) ∧
    (∀ (a b : ArrayValue) (v : Value) w, v.coerceElement a.elem = .ok w →
      (a.set n v = .ok () b ↔ ∃ k, StandsFor n k ∧
        ∃ h : k < a.items.size, b = { a with items := a.items.set k w h })) ∧
    ∀ elem a, ofSize elem n = .ok a ↔ ∃ k, StandsFor n k ∧ k ≤ 0x7FFFFFFF ∧
      a = ⟨elem, Array.replicate k (Scalar.default elem)⟩ :=
  ⟨fun _ _ => get_iff, fun _ _ _ _ hw => set_iff hw, fun _ _ => ofSize_iff⟩

/-- A fraction that is taken for zero. -/
theorem tinyFraction_accepted : ∃ q : ℚ,
    Numeric.value? 1e-17 = some q ∧ 0 < q ∧ (∀ k : ℤ, q ≠ k) ∧
    get ⟨.number, #[.number 7.0]⟩ 1e-17 = .ok (.number 7.0) ∧
    (Value.scalar (.letter 'b')).coerceElement .letter = .ok (.letter 'b') ∧
    set 1e-17 (.scalar (.letter 'b')) ⟨.letter, #[.letter 'a']⟩ = .ok () ⟨.letter, #[.letter 'b']⟩ ∧
    ofSize .logic 1e-17 = .ok ⟨.logic, #[]⟩ := by
  obtain ⟨hget, hset, hsize⟩ := indices_accepted 1e-17
  let q : ℚ := 6490371073168535 * 2 ^ (-109 : ℤ)
  have hbits : (1e-17 : Float) = Float.ofBits 0x3C670EF54646D497 := by decide +kernel
  have hq : Numeric.value? 1e-17 = some q := by
    rw [hbits]
    rfl
  have hpos : 0 < q := by positivity
  have hsmall : q < 1 / 2 ^ 52 := by norm_num [q]
  have hstands : StandsFor 1e-17 0 := ⟨q, hq, .inr ⟨rfl, hpos, hsmall⟩⟩
  have hb : (Value.scalar (.letter 'b')).coerceElement .letter = .ok (.letter 'b') := rfl
  refine ⟨q, hq, hpos, fun k hk => ?_, (hget _ _).mpr ⟨0, hstands, rfl⟩, hb,
    (hset ⟨.letter, #[.letter 'a']⟩ _ _ _ hb).mpr ⟨0, hstands, by decide, rfl⟩,
    (hsize _ _).mpr ⟨0, hstands, by decide, rfl⟩⟩
  rw [hk] at hpos hsmall
  have hlow : 0 < k := by exact_mod_cast hpos
  have hhigh : (k : ℚ) < 1 := hsmall.trans (by norm_num)
  have hone : k < 1 := by exact_mod_cast hhigh
  omega

end ArrayValue

end Primer
