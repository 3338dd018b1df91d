import Primer.Proofs.Bindings

/-!
# Changes of arrays in their place

A push, a pop or the setting of an element either makes its array or fails and leaves the array as it
was: the checks come before the write. In a store the same holds of the array of a name, and nothing
else is changed.
-/

namespace Primer

variable {α β : Type}

namespace ArrayValue

variable {a b : ArrayValue} {Q : α → ArrayValue → Prop} {E : Fault → Prop}

/-- What holds of the value of an edit and of the array that it makes, or of its fault. A fault leaves
the array as it was. -/
def Edit.Makes (edit : Edit α) (a : ArrayValue) (Q : α → ArrayValue → Prop) (E : Fault → Prop) : Prop :=
  Ends (edit a) Q fun f b => b = a ∧ E f

namespace Edit.Makes

theorem mono {edit : Edit α} {Q' : α → ArrayValue → Prop} {E' : Fault → Prop}
    (h : edit.Makes a Q E) (hQ : ∀ w b, Q w b → Q' w b) (hE : ∀ f, E f → E' f) :
    edit.Makes a Q' E' :=
  Ends.mono h hQ fun _ _ hf => ⟨hf.1, hE _ hf.2⟩

theorem pure {w : α} (h : Q w a) : Makes (Pure.pure w) a Q E := Ends.pure h

theorem succeeds {edit : Edit α} (h : edit.Makes a Q fun _ => False) :
    ∃ w b, edit a = .ok w b ∧ Q w b := by
  cases hedit : edit a with
  | ok w b => exact ⟨w, b, rfl, h.ok hedit⟩
  | error f b => exact (h.error hedit).2.elim

/-- A value that is made of another one behind the edit. -/
theorem andThen {edit : Edit β} {f : β → α} (h : edit.Makes a (fun w b => Q (f w) b) E) :
    Makes (do return f (← edit)) a Q E :=
  Ends.bind h fun _ _ hw => Ends.pure hw

theorem get {k : ArrayValue → Edit α} (h : (k a).Makes a Q E) :
    Makes (getThe ArrayValue >>= k) a Q E := h

/-- A check comes before anything is written. -/
theorem check {x : Except Fault β} {k : β → Edit α} {P : β → Prop} (hx : Yields x P E)
    (hk : ∀ w, P w → (k w).Makes a Q E) : Makes (MonadExcept.ofExcept x >>= k) a Q E := by
  cases x with
  | ok w => exact hk w (hx.ok rfl)
  | error f => exact Ends.throw ⟨rfl, hx.error rfl⟩

/-- A write is not followed by a check. -/
theorem write {g : ArrayValue → ArrayValue} {Q : Unit → ArrayValue → Prop} (h : Q () (g a)) :
    Makes (modify g) a Q E :=
  Ends.modify h

theorem push {v : Value} {Q : Unit → ArrayValue → Prop} (h : Yields (v.coerceElement a.elem)
      (fun w => Q () { a with items := a.items.push w }) E) : (ArrayValue.push v).Makes a Q E :=
  .get (.check h fun _ hw => .write hw)

theorem set {index : Float} {v : Value} {Q : Unit → ArrayValue → Prop}
    (h : Yields (a.position index) (fun k => Yields (v.coerceElement a.elem)
      (fun w => Q () { a with items := a.items.setIfInBounds k w }) E) E) :
    (ArrayValue.set index v).Makes a Q E :=
  .get (.check h fun _ hk => .check hk fun _ hw => .write hw)

/-- A pop writes before it looks at what it has taken, but nothing is taken from an empty array. -/
theorem pop {Q : Scalar → ArrayValue → Prop}
    (h : ∀ w, a.items.back? = some w → Q w { a with items := a.items.pop })
    (hempty : a.items = #[] → E .emptyArray) : ArrayValue.pop.Makes a Q E := by
  refine .get ?_
  cases hback : a.items.back? with
  | some w => exact Ends.bind (Ends.modify (h w hback)) fun _ _ hw => Ends.pure hw
  | none =>
    obtain ⟨elem, items⟩ := a
    obtain rfl : items = #[] := by simpa using hback
    exact Ends.throw ⟨rfl, hempty rfl⟩

end Edit.Makes

/-- A fault of the edit leaves every array as it was. -/
def Edit.Atomic (edit : Edit α) : Prop := ∀ a, edit.Makes a (fun _ _ => True) fun _ => True

theorem set_atomic (index : Float) (v : Value) : (set index v).Atomic := fun _ =>
  .set (Yields.any.mono (fun _ _ => Yields.any) fun _ hf => hf)

theorem push_atomic (v : Value) : (push v).Atomic := fun _ => .push Yields.any

theorem pop_atomic : pop.Atomic := fun _ => .pop (fun _ _ => trivial) fun _ => trivial

/-- A popped element is the last one. -/
theorem pop_last (a : ArrayValue) :
    pop.Makes a (fun w b => b.elem = a.elem ∧ a.items = b.items.push w)
      fun f => f = .emptyArray ∧ a.items = #[] := by
  refine .pop (fun w hw => ⟨rfl, ?_⟩) fun hempty => ⟨rfl, hempty⟩
  obtain ⟨items, hitems⟩ := Array.back?_eq_some_iff.mp hw
  rw [hitems, Array.pop_push]

/-! ## Elements of one type -/

variable {p : Primitive} {v : Value} {w : Scalar} {ty : Ty} {i : Float}

theorem Of.setIfInBounds {k : Nat} (ha : a.Of p) (hw : w.primitive = p) :
    Of p { a with items := a.items.setIfInBounds k w } := by
  refine ⟨ha.1, fun x hx => ?_⟩
  rcases Array.mem_or_eq_of_mem_setIfInBounds hx with hx | rfl
  · exact ha.2 x hx
  · exact hw

theorem Of.push (ha : a.Of p) (hw : w.primitive = p) : Of p { a with items := a.items.push w } := by
  refine ⟨ha.1, fun x hx => ?_⟩
  rcases Array.mem_push.mp hx with hx | rfl
  · exact ha.2 x hx
  · exact hw

theorem Of.pop (ha : a.Of p) : Of p { a with items := a.items.pop } := by
  refine ⟨ha.1, fun x hx => ha.2 x ?_⟩
  rw [← Array.mem_toList_iff, Array.toList_pop] at hx
  exact Array.mem_toList_iff.mp (List.dropLast_subset _ hx)

/-- What setting an element makes of an array. -/
def IsSet (a : ArrayValue) (i : Float) (v : Value) (b : ArrayValue) : Prop :=
  ∃ k w, a.position i = .ok k ∧ Becomes v w ∧ b = { a with items := a.items.setIfInBounds k w }

def IsPush (a : ArrayValue) (v : Value) (b : ArrayValue) : Prop :=
  ∃ w, Becomes v w ∧ b = { a with items := a.items.push w }

theorem set_makes (ha : a.Of p) (h : (Ty.scalar p).accepts ty = true) (hv : ty.Holds v) :
    (set i v).Makes a (fun _ b => b.Of p ∧ a.IsSet i v b)
      (fun f => f.isOfIndex = true ∨ Misfit v f) := by
  have helem := ha.1
  subst helem
  refine .set ⟨fun {k} hk => ?_, fun hf => .inl ((position_yields a i).error hf)⟩
  exact (Value.coerceElement_yields h hv).mono
    (fun w hw => ⟨ha.setIfInBounds hw.1, k, w, hk, hw.2, rfl⟩) fun _ hf => .inr hf

/-- A value of the element type fails on its index only. -/
theorem set_self_makes (ha : a.Of w.primitive) :
    (set i (.scalar w)).Makes a (fun _ b => b.Of w.primitive ∧ a.IsSet i (.scalar w) b)
      (·.isOfIndex = true) := by
  have hw : (Value.scalar w).coerceElement a.elem = .ok w := by rw [ha.1, Value.coerceElement_self]
  refine .set ⟨fun {k} hk => ?_, (position_yields a i).error⟩
  rw [hw]
  exact .value ⟨ha.setIfInBounds rfl, k, w, hk, .same, rfl⟩

theorem push_makes (ha : a.Of p) (h : (Ty.scalar p).accepts ty = true) (hv : ty.Holds v) :
    (push v).Makes a (fun _ b => b.Of p ∧ a.IsPush v b) (Misfit v) := by
  have helem := ha.1
  subst helem
  exact .push ((Value.coerceElement_yields h hv).mono (fun w hw => ⟨ha.push hw.1, w, hw.2, rfl⟩)
    fun _ hf => hf)

theorem pop_makes (ha : a.Of p) :
    pop.Makes a (fun w b => w.primitive = p ∧ b.Of p) (· = .emptyArray) :=
  .pop (fun w hw => ⟨ha.2 w (Array.mem_of_back? hw), ha.pop⟩) fun _ => rfl

end ArrayValue

/-! ## Arrays in the store -/

open ArrayValue

namespace Store

variable {s s' : Store} {n : String} {b : Binding} {a a' : ArrayValue} {edit : Edit α}

theorem bindIn_self {l : List (String × Binding)} (h : l.lookup n = some b) : bindIn n b l = l := by
  induction l with
  | nil => cases h
  | cons e rest ih =>
    obtain ⟨k, c⟩ := e
    rw [lookup_cons] at h
    by_cases hk : n = k
    · subst hk
      rw [if_pos rfl] at h
      cases h
      exact if_pos BEq.rfl
    · rw [if_neg hk] at h
      rw [bindIn, if_neg (by simpa using Ne.symm hk), ih h]

/-- A name that is given what it holds stays as it is. -/
theorem declare_self (h : s.find? n = some b) : s.declare n b.ty b.value = s :=
  congrArg Store.mk (bindIn_self h)

theorem modifyArray_made {w : α} (hb : s.find? n = some b) (ha : b.value = .array a)
    (hedit : edit a = .ok w a') : s.modifyArray n edit = .ok w (s.declare n b.ty (.array a')) := by
  obtain ⟨ty, value⟩ := b
  subst ha
  simp only [modifyArray, hb, hedit]

theorem modifyArray_failed {f : Fault} (hb : s.find? n = some b) (ha : b.value = .array a)
    (hedit : edit a = .error f a') :
    s.modifyArray n edit = .error f (s.declare n b.ty (.array a')) := by
  obtain ⟨ty, value⟩ := b
  subst ha
  simp only [modifyArray, hb, hedit]

theorem modifyArray_missing {f : Fault} (h : s.array n = .error f) :
    s.modifyArray n edit = .error f s := by
  rw [array, get, binding] at h
  rw [modifyArray]
  cases hb : s.find? n with
  | none =>
    rw [hb] at h
    cases h
    rfl
  | some b =>
    rw [hb] at h
    obtain ⟨ty, value⟩ := b
    cases value with
    | scalar w =>
      cases h
      rfl
    | array a => cases h

theorem modifyArray_ok {w : α} (h : s.modifyArray n edit = .ok w s') :
    ∃ b a a', s.find? n = some b ∧ b.value = .array a ∧ edit a = .ok w a' ∧
      s' = s.declare n b.ty (.array a') := by
  cases harray : s.array n with
  | error f =>
    rw [modifyArray_missing harray] at h
    cases h
  | ok a =>
    obtain ⟨b, hb, ha⟩ := array_ok harray
    cases hedit : edit a with
    | ok w' a' =>
      rw [modifyArray_made hb ha hedit] at h
      cases h
      exact ⟨b, a, a', hb, ha, hedit, rfl⟩
    | error f a' =>
      rw [modifyArray_failed hb ha hedit] at h
      cases h

/-- What holds of the value of a change of an array and of the store that it makes, or of its fault. A
fault leaves the store as it was, as the edit leaves the array. -/
theorem modifyArray_ends {Q : α → Store → Prop} {E : Fault → Prop}
    (hfault : ∀ {f}, s.array n = .error f → E f)
    (h : ∀ b a, s.find? n = some b → b.value = .array a →
      edit.Makes a (fun w a' => Q w (s.declare n b.ty (.array a'))) E) :
    Ends (s.modifyArray n edit) Q fun f s' => s' = s ∧ E f := by
  cases harray : s.array n with
  | error f =>
    rw [modifyArray_missing harray]
    exact Ends.throw ⟨rfl, hfault harray⟩
  | ok a =>
    obtain ⟨b, hb, ha⟩ := array_ok harray
    have hends := h b a hb ha
    cases hedit : edit a with
    | ok w a' =>
      rw [modifyArray_made hb ha hedit]
      exact Ends.pure (hends.ok hedit)
    | error f a' =>
      rw [modifyArray_failed hb ha hedit]
      obtain ⟨rfl, hf⟩ := hends.error hedit
      exact Ends.throw ⟨ha ▸ declare_self hb, hf⟩

theorem modifyArray_unchanged (hedit : edit.Atomic) :
    Ends (s.modifyArray n edit) (fun _ _ => True) fun _ s' => s' = s :=
  (modifyArray_ends (fun _ => trivial) fun _ a _ _ => hedit a).mono (fun _ _ h => h) fun _ _ h => h.1

/-- A change of an array that keeps the element type keeps the agreement. -/
theorem Agrees.modifyArray {Γ : Context} {p : Primitive} {Q : ArrayValue → α → ArrayValue → Prop}
    {E : Fault → Prop} (h : s.Agrees Γ) (hn : Γ n = some (.array p))
    (hedit : ∀ a, a.Of p → edit.Makes a (fun w b => b.Of p ∧ Q a w b) E) :
    Ends (s.modifyArray n edit)
      (fun w s' => (∃ a b, s.find? n = some ⟨.array p, .array a⟩ ∧ a.Of p ∧ b.Of p ∧ Q a w b ∧
        s' = s.declare n (.array p) (.array b)) ∧ s'.Agrees Γ)
      (fun f s' => s' = s ∧ (Agrees.Unbound s n f ∨ E f)) := by
  refine modifyArray_ends (fun hf => .inl ((h.array hn).error hf)) fun b a hb ha => ?_
  obtain ⟨ty, value⟩ := b
  obtain ⟨rfl, hholds⟩ := h n _ _ hn hb
  subst ha
  obtain ⟨a', ha', hof⟩ := hholds.array
  cases ha'
  refine (hedit a hof).mono (fun w b hb' => ⟨⟨a, b, hb, hof, hb'.1, hb'.2, rfl⟩, ?_⟩) fun _ => .inr
  exact h.declare (fun known hk => Option.some.inj (hk.symm.trans hn)) hb'.1

end Store

end Primer
