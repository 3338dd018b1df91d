import Primer.Proofs.Shapes

/-!
# Names in the store

A store agrees with a context if every name that the context knows is bound, where it is bound, with
its type and a value of that shape. What is read from such a store has the shape, and what is
written to it keeps the agreement.
-/

namespace Primer

namespace Store

variable {s s' : Store} {n m : String} {ty : Ty} {p : Primitive} {v : Value} {b : Binding}

/-! ## Look-ups -/

theorem lookup_cons (m k : String) (b : Binding) (l : List (String × Binding)) :
    ((k, b) :: l).lookup m = if m = k then some b else l.lookup m := by
  rw [List.lookup_cons]
  by_cases h : m = k
  · rw [beq_iff_eq.mpr h, if_pos h]
  · rw [beq_eq_false_iff_ne.mpr h, if_neg h]

theorem lookup_bindIn (n m : String) (b : Binding) (l : List (String × Binding)) :
    (bindIn n b l).lookup m = if m = n then some b else l.lookup m := by
  induction l with
  | nil => exact lookup_cons m n b []
  | cons e rest ih =>
    obtain ⟨k, c⟩ := e
    by_cases hk : k = n
    · subst hk
      rw [bindIn, if_pos BEq.rfl, lookup_cons, lookup_cons]
      split <;> rfl
    · rw [bindIn, if_neg (by simpa using hk), lookup_cons, lookup_cons, ih]
      by_cases hm : m = n
      · have hmk : m ≠ k := hm ▸ Ne.symm hk
        rw [if_pos hm, if_neg hmk, if_pos hm]
      · rw [if_neg hm, if_neg hm]

theorem find?_declare (s : Store) (n m : String) (ty : Ty) (v : Value) :
    (s.declare n ty v).find? m = if m = n then some ⟨ty, v⟩ else s.find? m :=
  lookup_bindIn n m ⟨ty, v⟩ s.bindings

theorem find?_declare_self (s : Store) (n : String) (ty : Ty) (v : Value) :
    (s.declare n ty v).find? n = some ⟨ty, v⟩ := by
  rw [find?_declare, if_pos rfl]

theorem contains_iff : s.contains n = true ↔ ∃ b, s.find? n = some b := Option.isSome_iff_exists

theorem contains_declare (h : s.contains m = true) : (s.declare n ty v).contains m = true := by
  unfold contains at h ⊢
  rw [find?_declare]
  split
  · rfl
  · exact h

theorem binding_yields (s : Store) (n : String) : Yields (s.binding n) (s.find? n = some ·)
    (fun f => f = .undefinedVariable n ∧ s.contains n = false) := by
  unfold binding contains
  cases h : s.find? n with
  | none => exact .fault ⟨rfl, rfl⟩
  | some b => exact .value rfl

theorem binding_ok {b : Binding} (h : s.binding n = .ok b) : s.find? n = some b :=
  (binding_yields s n).ok h

theorem get_ok (h : s.get n = .ok v) : ∃ b, s.find? n = some b ∧ b.value = v := by
  obtain ⟨b, hb, hv⟩ := Yields.ok_of_map h
  exact ⟨b, binding_ok hb, hv⟩

theorem put_ok (h : s.put n v = .ok s') :
    ∃ b, s.find? n = some b ∧ s' = s.declare n b.ty v := by
  obtain ⟨b, hb, hs'⟩ := Yields.ok_of_map h
  exact ⟨b, binding_ok hb, hs'.symm⟩

theorem array_ok {a : ArrayValue} (h : s.array n = .ok a) :
    ∃ b, s.find? n = some b ∧ b.value = .array a := by
  obtain ⟨v, hv, h⟩ := Yields.ok_of_bind h
  cases v with
  | array a' =>
    cases h
    exact get_ok hv
  | scalar w => cases h

end Store

/-! ## Agreement -/

/-- The types of names. -/
abbrev Context := String → Option Ty

/-- Every name that the context knows has its type and a value of that shape if it is bound. -/
def Store.Agrees (Γ : Context) (s : Store) : Prop :=
  ∀ n ty b, Γ n = some ty → s.find? n = some b → b.ty = ty ∧ ty.Holds b.value

namespace Store.Agrees

variable {Γ : Context} {s : Store} {n : String} {ty source : Ty} {p : Primitive} {v : Value}

theorem empty : Store.empty.Agrees Γ := by
  intro n ty b _ hb
  cases hb

theorem declare (h : s.Agrees Γ) (hn : ∀ known, Γ n = some known → known = ty) (hv : ty.Holds v) :
    (s.declare n ty v).Agrees Γ := by
  intro m known b hm hb
  rw [find?_declare] at hb
  by_cases hmn : m = n
  · subst hmn
    rw [if_pos rfl] at hb
    cases hb
    cases hn known hm
    exact ⟨rfl, hv⟩
  · rw [if_neg hmn] at hb
    exact h m known b hm hb

/-- The fault of a name that is not bound. -/
def Unbound (s : Store) (n : String) (f : Fault) : Prop :=
  f = .undefinedVariable n ∧ s.contains n = false

theorem binding (h : s.Agrees Γ) (hn : Γ n = some ty) :
    Yields (s.binding n) (fun b => s.find? n = some b ∧ b.ty = ty ∧ ty.Holds b.value)
      (Unbound s n) :=
  (binding_yields s n).mono (fun b hb => ⟨hb, h n ty b hn hb⟩) fun _ hf => hf

theorem get (h : s.Agrees Γ) (hn : Γ n = some ty) :
    Yields (s.get n) (fun v => s.find? n = some ⟨ty, v⟩ ∧ ty.Holds v) (Unbound s n) := by
  refine Yields.map ((h.binding hn).mono (fun b hb => ?_) fun _ hf => hf)
  obtain ⟨hb, rfl, hv⟩ := hb
  exact ⟨hb, hv⟩

theorem put (h : s.Agrees Γ) (hn : Γ n = some ty) (hv : ty.Holds v) :
    Yields (s.put n v)
      (fun s' => (s' = s.declare n ty v ∧ ∃ b, s.find? n = some b ∧ b.ty = ty) ∧ s'.Agrees Γ)
      (Unbound s n) := by
  refine Yields.map ((h.binding hn).mono (fun b hb => ?_) fun _ hf => hf)
  obtain ⟨hb, rfl, -⟩ := hb
  refine ⟨⟨rfl, b, hb, rfl⟩, h.declare (fun known hk => ?_) hv⟩
  rw [hn] at hk
  exact (Option.some.inj hk).symm

/-- An assignment stores what the value becomes in the variable. -/
theorem assign (h : s.Agrees Γ) (hn : Γ n = some (.scalar p))
    (ha : (Ty.scalar p).accepts source = true) (hv : source.Holds v) :
    Yields (s.assign n v)
      (fun s' => (∃ b w, s.find? n = some b ∧ b.ty = .scalar p ∧ Becomes v w ∧ w.primitive = p ∧
        s' = s.declare n (.scalar p) (.scalar w)) ∧ s'.Agrees Γ)
      (fun f => Unbound s n f ∨ Misfit v f) := by
  unfold Store.assign declaredPrimitive
  refine Yields.bind (Q := (· = p)) ?_ fun q hq => ?_
  · refine ((h.binding hn).mono (fun _ hb => hb) fun _ hf => Or.inl hf).bind fun b hb => ?_
    rw [hb.2.1]
    exact .value rfl
  · subst hq
    refine ((Value.coerce_yields ha hv).mono (fun _ hw => hw) fun _ hf => Or.inr hf).bind
      fun w hw => ?_
    refine (h.put hn (.of_primitive hw.1)).mono (fun s' hs' => ?_) fun _ hf => .inl hf
    obtain ⟨⟨heq, b, hb, hty⟩, hs'⟩ := hs'
    exact ⟨⟨b, w, hb, hty, hw.2, hw.1, heq⟩, hs'⟩

/-- An assignment refuses an array, whatever the value is. -/
theorem assign_array (h : s.Agrees Γ) (hn : Γ n = some (.array p)) :
    Yields (s.assign n v) (fun _ => False)
      (fun f => Unbound s n f ∨ f = .typeMismatch "scalar variable" (Ty.array p).text) := by
  unfold Store.assign declaredPrimitive
  refine Yields.bind (Q := fun _ => False) ?_ fun q hq => hq.elim
  refine ((h.binding hn).mono (fun _ hb => hb) fun _ hf => Or.inl hf).bind fun b hb => ?_
  rw [hb.2.1]
  exact .fault (.inr rfl)

theorem array (h : s.Agrees Γ) (hn : Γ n = some (.array p)) :
    Yields (s.array n) (fun a => s.find? n = some ⟨.array p, .array a⟩ ∧ a.Of p) (Unbound s n) := by
  unfold Store.array
  refine (h.get hn).bind fun v hv => ?_
  obtain ⟨hv, hshape⟩ := hv
  obtain ⟨a, rfl, ha⟩ := hshape.array
  exact .value ⟨hv, ha⟩

end Store.Agrees

end Primer
