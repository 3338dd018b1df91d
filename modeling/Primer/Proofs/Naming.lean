import Primer.Proofs.ArrayEdits
import Primer.Proofs.Typing

/-!
# The names in an evaluation

The store only grows: no evaluation unbinds a name or gives it another type. An expression that is
typed in a context blames a name in two ways only, whatever the values of the names are: the context
knows the name and the store does not bind it, or the context knows it as an array and the store
binds it to something else.
-/

namespace Primer

variable {α β : Type} {Γ : Context} {s s' s'' : Store} {n : String}

/-- The faults that blame a name. -/
def Fault.isOfName : Fault → Bool
  | .undefinedVariable _ | .notAnArray _ => true
  | _ => false

theorem Fault.isOfData_nameless {f : Fault} (h : f.isOfData = true) : f.isOfName = false := by
  cases f <;> first | rfl | cases h

/-! ## Conversions -/

/-- A conversion that does not depend on names. -/
def Nameless (x : Except Fault α) : Prop := Yields x (fun _ => True) (·.isOfName = false)

namespace Nameless

theorem value {a : α} : Nameless (.ok a) := Yields.value trivial

theorem fault {f : Fault} (h : f.isOfName = false) : Nameless (.error f : Except Fault α) :=
  Yields.fault h

theorem map {x : Except Fault α} {f : α → β} (h : Nameless x) : Nameless (x.map f) := Yields.map h

theorem bind {x : Except Fault α} {f : α → Except Fault β} {R : β → Prop} (h : Nameless x)
    (hf : ∀ a, Yields (f a) R (·.isOfName = false)) : Yields (x >>= f) R (·.isOfName = false) :=
  Yields.bind h fun a _ => hf a

end Nameless

theorem Scalar.toNumber_nameless (v : Scalar) : Nameless v.toNumber := by
  unfold toNumber
  repeat' split
  all_goals first
    | exact .value
    | exact .fault rfl

theorem Scalar.toLogic_nameless (v : Scalar) : Nameless v.toLogic := by
  unfold toLogic
  repeat' split
  all_goals first
    | exact .value
    | exact .fault rfl

theorem Scalar.ofLiteral_nameless (raw : String) : Nameless (Scalar.ofLiteral raw) :=
  ⟨fun _ => trivial, fun h => ofLiteral_error h ▸ rfl⟩

namespace Value

theorem toNumber_nameless (v : Value) : Nameless v.toNumber := by
  cases v with
  | scalar v => exact v.toNumber_nameless
  | array a => exact .fault rfl

theorem toLogic_nameless (v : Value) : Nameless v.toLogic := by
  cases v with
  | scalar v => exact v.toLogic_nameless
  | array a => exact .fault rfl

theorem coerce_nameless (p : Primitive) (v : Value) : Nameless (v.coerce p) := by
  unfold coerce
  split
  · exact v.toNumber_nameless.map
  · exact v.toLogic_nameless.map
  all_goals first
    | exact .value
    | exact .fault rfl

theorem coerceElement_nameless (p : Primitive) (v : Value) : Nameless (v.coerceElement p) := by
  unfold coerceElement
  repeat' split
  all_goals first
    | exact .value
    | exact .fault rfl

end Value

namespace ArrayValue

theorem ofSize_nameless (p : Primitive) (size : Float) : Nameless (ofSize p size) := by
  unfold ofSize
  repeat' split
  all_goals first
    | exact .value
    | exact .fault rfl

theorem ofValues_nameless (p : Primitive) (values : List Value) : Nameless (ofValues p values) := by
  refine Yields.map ((Yields.mapM (R := fun _ => True) fun v _ => ?_).mono
    (fun _ _ => trivial) fun _ hf => hf)
  exact v.coerceElement_nameless p

theorem position_nameless (a : ArrayValue) (i : Float) : Nameless (a.position i) := by
  unfold position
  repeat' split
  all_goals first
    | exact .value
    | exact .fault rfl

theorem get_nameless (a : ArrayValue) (i : Float) : Nameless (a.get i) := by
  have hpos := a.position_nameless i
  unfold get
  cases hp : a.position i with
  | error f => exact .fault (hpos.error hp)
  | ok k =>
    simp only
    split
    · exact .value
    · exact .fault rfl

/-- An edit that does not depend on names. -/
def Edit.Nameless (edit : Edit α) : Prop :=
  ∀ a, edit.Makes a (fun _ _ => True) (·.isOfName = false)

theorem set_nameless (i : Float) (v : Value) : (set i v).Nameless := fun a =>
  .set ((a.position_nameless i).mono (fun _ _ => v.coerceElement_nameless a.elem) fun _ hf => hf)

theorem push_nameless (v : Value) : (push v).Nameless := fun a =>
  .push (v.coerceElement_nameless a.elem)

theorem pop_nameless : pop.Nameless := fun _ => .pop (fun _ _ => trivial) fun _ => rfl

theorem retype_nameless (a : ArrayValue) (p : Primitive) : Nameless (a.retype p) := by
  unfold retype
  split
  · exact .value
  · exact ofValues_nameless p _

end ArrayValue

theorem ArithOp.apply_nameless (op : ArithOp) (a b : Float) : Nameless (op.apply a b) := by
  unfold ArithOp.apply
  repeat' split
  all_goals first
    | exact .value
    | exact .fault rfl

theorem BinaryOp.apply_nameless (op : BinaryOp) (a b : Value) : Nameless (op.apply a b) := by
  cases op with
  | arith op =>
    refine a.toNumber_nameless.bind fun x => b.toNumber_nameless.bind fun y => ?_
    exact (op.apply_nameless x y).bind fun n => .value trivial
  | order op => exact a.toNumber_nameless.bind fun x => b.toNumber_nameless.bind fun y => .value trivial
  | logic op => exact a.toLogic_nameless.bind fun x => b.toLogic_nameless.bind fun y => .value trivial
  | equal | notEqual => exact .value

theorem UnaryOp.apply_nameless (op : UnaryOp) (v : Value) : Nameless (op.apply v) := by
  cases op with
  | not => exact v.toLogic_nameless.map
  | plus | neg => exact v.toNumber_nameless.map

/-! ## Growth -/

/-- A binding that has an array as its value if its type is one of arrays, and only then. -/
def Binding.Fits (b : Binding) : Prop := b.ty.isArray = b.value.ty.isArray

/-- A name that the context knows as a variable and that has a type of arrays. -/
def Clash (Γ : Context) (n : String) (ty : Ty) : Prop :=
  (∃ p, Γ n = some (.scalar p)) ∧ ty.isArray = true

/-- The second store is a later one: it binds the names of the first, with the types that they have
there, and the added names with theirs. -/
structure Store.Grows (Γ : Context) (added : List (String × Ty)) (s s' : Store) : Prop where
  keeps : ∀ n, s.contains n = true → s'.contains n = true
  adds : ∀ e ∈ added, ∃ b, s'.find? e.1 = some b ∧ b.ty = e.2 ∧ b.Fits
  origin : ∀ n b', s'.find? n = some b' → (n, b'.ty) ∈ added ∧ b'.Fits ∨
    ∃ b, s.find? n = some b ∧ b.ty = b'.ty ∧ (b.Fits → b'.Fits ∨ Clash Γ n b.ty)

namespace Store.Grows

variable {added : List (String × Ty)} {ty : Ty} {v : Value}

theorem refl (s : Store) : s.Grows Γ [] s where
  keeps _ h := h
  adds := nofun
  origin _ b hb := .inr ⟨b, hb, rfl, .inl⟩

theorem trans (h : s.Grows Γ [] s') (h' : s'.Grows Γ added s'') : s.Grows Γ added s'' where
  keeps n hn := h'.keeps n (h.keeps n hn)
  adds := h'.adds
  origin n b'' hb'' := by
    rcases h'.origin n b'' hb'' with hadded | ⟨b', hb', hty', hfits'⟩
    · exact .inl hadded
    rcases h.origin n b' hb' with ⟨hmem, -⟩ | ⟨b, hb, hty, hfits⟩
    · cases hmem
    refine .inr ⟨b, hb, hty.trans hty', fun hf => ?_⟩
    rcases hfits hf with hf' | hclash
    · exact hty ▸ hfits' hf'
    · exact .inr hclash

/-- A declaration adds its name. -/
theorem declare (s : Store) (hv : v.ty.isArray = ty.isArray) :
    s.Grows Γ [(n, ty)] (s.declare n ty v) where
  keeps _ h := contains_declare h
  adds e he := by
    rw [List.mem_singleton.mp he]
    exact ⟨⟨ty, v⟩, by rw [find?_declare, if_pos rfl], rfl, hv.symm⟩
  origin m b' hb' := by
    rw [find?_declare] at hb'
    split at hb'
    · next hm =>
      cases hb'
      exact .inl ⟨by simp [hm], hv.symm⟩
    · exact .inr ⟨b', hb', rfl, .inl⟩

/-- A new value of a name adds nothing. -/
theorem update {b : Binding} (hb : s.find? n = some b)
    (hv : b.Fits → b.ty.isArray = v.ty.isArray ∨ Clash Γ n b.ty) :
    s.Grows Γ [] (s.declare n b.ty v) where
  keeps _ h := contains_declare h
  adds := nofun
  origin m b' hb' := by
    rw [find?_declare] at hb'
    split at hb'
    · next hm =>
      cases hb'
      exact .inr ⟨b, hm ▸ hb, rfl, hm ▸ hv⟩
    · exact .inr ⟨b', hb', rfl, .inl⟩

/-- The type of a name is the one that it is added with, and else stays as it is. -/
theorem types (h : s.Grows Γ added s')
    (hadded : ∀ n ty, added.lookup n = some ty ↔ (n, ty) ∈ added) (n : String) :
    (s'.find? n).map (·.ty) = (added.lookup n).or ((s.find? n).map (·.ty)) := by
  cases hl : added.lookup n with
  | some ty =>
    obtain ⟨b, hb, hty, -⟩ := h.adds _ ((hadded n ty).mp hl)
    rw [hb, Option.map_some, hty, Option.some_or]
  | none =>
    rw [Option.none_or]
    cases hb' : s'.find? n with
    | none =>
      have hnone : s.contains n ≠ true := fun hc => by
        have hkept := h.keeps n hc
        rw [contains, hb'] at hkept
        cases hkept
      rw [Option.not_isSome_iff_eq_none.mp hnone]
    | some b' =>
      rcases h.origin n b' hb' with ⟨hmem, -⟩ | ⟨b, hb, hty, -⟩
      · rw [(hadded n b'.ty).mpr hmem] at hl
        cases hl
      · rw [hb, Option.map_some, Option.map_some, hty]

end Store.Grows

/-- A fault that blames a name in a store: the context knows the name and it is not bound, or the
context knows it as an array and it is bound to something else. -/
def Fault.Blames (Γ : Context) (s : Store) : Fault → Prop
  | .undefinedVariable n => (∃ ty, Γ n = some ty) ∧ s.contains n = false
  | .notAnArray n => (∃ p, Γ n = some (.array p)) ∧
      ∃ b, s.find? n = some b ∧ ¬(b.ty.isArray = true ∧ b.value.ty.isArray = true)
  | _ => True

namespace Fault.Blames

theorem of_nameless {f : Fault} (h : f.isOfName = false) : f.Blames Γ s := by
  cases f <;> trivial

/-- What is blamed in a later store is to blame in an earlier one. -/
theorem earlier {f : Fault} (h : f.Blames Γ s') (hg : s.Grows Γ [] s') : f.Blames Γ s := by
  cases f with
  | undefinedVariable n =>
    refine ⟨h.1, Bool.eq_false_iff.mpr fun hn => ?_⟩
    exact Bool.eq_false_iff.mp h.2 (hg.keeps n hn)
  | notAnArray n =>
    obtain ⟨⟨p, hp⟩, b', hb', hnot⟩ := h
    rcases hg.origin n b' hb' with ⟨hmem, -⟩ | ⟨b, hb, hty, hfits⟩
    · cases hmem
    refine ⟨⟨p, hp⟩, b, hb, fun ⟨ha, hv⟩ => hnot ⟨hty ▸ ha, ?_⟩⟩
    rcases hfits (ha.trans hv.symm) with hf | ⟨⟨q, hq⟩, -⟩
    · exact hf ▸ hty ▸ ha
    · rw [hp] at hq
      cases hq
  | _ => trivial

end Fault.Blames

theorem Nameless.blames {x : Except Fault α} (h : Nameless x) :
    Yields x (fun _ => True) (Fault.Blames Γ s) :=
  h.mono (fun _ h => h) fun _ hf => .of_nameless hf

/-! ## Stores -/

namespace Store

variable {ty : Ty} {p : Primitive} {v : Value}

theorem binding_blames (hn : Γ n = some ty) :
    Yields (s.binding n) (s.find? n = some ·) (Fault.Blames Γ s) := by
  refine (binding_yields s n).mono (fun _ hb => hb) fun f ⟨hf, hc⟩ => ?_
  subst hf
  exact ⟨⟨ty, hn⟩, hc⟩

theorem get_blames (hn : Γ n = some ty) :
    Yields (s.get n) (fun v => ∃ b, s.find? n = some b ∧ b.value = v) (Fault.Blames Γ s) :=
  Yields.map ((binding_blames hn).mono (fun b hb => ⟨b, hb, rfl⟩) fun _ hf => hf)

theorem put_grows (hn : Γ n = some ty) (hv : ∀ b, s.find? n = some b → b.Fits →
      b.ty.isArray = v.ty.isArray ∨ Clash Γ n b.ty) :
    Yields (s.put n v) (s.Grows Γ []) (Fault.Blames Γ s) :=
  Yields.map ((binding_blames hn).mono (fun b hb => .update hb (hv b hb)) fun _ hf => hf)

theorem assign_grows (hn : Γ n = some ty) (v : Value) :
    Yields (s.assign n v) (s.Grows Γ []) (Fault.Blames Γ s) := by
  -- The value is fitted to the type in the store, which need not be the one that the context has.
  unfold assign declaredPrimitive
  refine Yields.bind (Q := fun p => ∃ b, s.find? n = some b ∧ b.ty = .scalar p) ?_
    fun p ⟨b, hb, hty⟩ => ?_
  · refine (binding_blames hn).bind fun b hb => ?_
    obtain ⟨ty, value⟩ := b
    cases ty with
    | scalar p => exact .value ⟨_, hb, rfl⟩
    | _ => exact .fault trivial
  · refine (v.coerce_nameless p).blames.bind fun w _ => put_grows hn fun b' hb' _ => .inl ?_
    rw [hb] at hb'
    cases hb'
    rw [hty]
    rfl

theorem array_blames (hn : Γ n = some (.array p)) :
    Yields (s.array n) (fun a => ∃ b, s.find? n = some b ∧ b.value = .array a)
      (Fault.Blames Γ s) := by
  refine (get_blames hn).bind fun v ⟨b, hb, hv⟩ => ?_
  subst hv
  cases hv : b.value with
  | scalar w => exact .fault ⟨⟨p, hn⟩, b, hb, fun h => by simp [hv, Value.ty, Ty.isArray] at h⟩
  | array a => exact .value ⟨b, hb, hv⟩

theorem modifyArray_grows {edit : ArrayValue.Edit α} (hn : Γ n = some (.array p))
    (hedit : edit.Nameless) :
    Ends (s.modifyArray n edit) (fun _ s' => s.Grows Γ [] s') fun f _ => f.Blames Γ s := by
  refine (modifyArray_ends (array_blames hn).error fun b a hb ha => ?_).mono (fun _ _ h => h)
    fun _ _ hf => hf.2
  refine (hedit a).mono (fun w a' _ => .update hb fun hfits => .inl ?_) fun _ => .of_nameless
  rw [hfits, ha]
  rfl

end Store

/-! ## Expressions -/

/-- An evaluation that only lets the store grow and only blames names that are to blame. -/
def Eval.Grows (Γ : Context) (x : Eval α) (s : Store) : Prop :=
  Ends (x s) (fun _ s' => s.Grows Γ [] s') (fun f _ => f.Blames Γ s)

namespace Eval.Grows

theorem pure {a : α} : Grows Γ (Pure.pure a) s := Ends.pure (.refl s)

theorem lift {x : Except Fault α} (h : Nameless x) : Grows Γ (Eval.lift x) s :=
  Eval.lift_ends (h.mono (fun _ _ => .refl s) fun _ hf => .of_nameless hf)

theorem read {look : Store → Except Fault α} {Q : α → Prop}
    (h : Yields (look s) Q (Fault.Blames Γ s)) : Grows Γ (Eval.read look) s :=
  Eval.read_ends (h.mono (fun _ _ => .refl s) fun _ hf => hf)

theorem bind {x : Eval α} {f : α → Eval β} (h : Grows Γ x s)
    (hf : ∀ a s', s.Grows Γ [] s' → Grows Γ (f a) s') : Grows Γ (x >>= f) s :=
  Ends.bind h fun a s' hs' =>
    (hf a s' hs').mono (fun _ _ h => hs'.trans h) fun _ _ hf => hf.earlier hs'

end Eval.Grows

open Eval in
theorem evalStep_grows {ty : Ty} (hn : Γ n = some ty) (op : StepOp) (fixity : Fixity) :
    Grows Γ (evalStep n op fixity) s := by
  refine (Grows.read (Store.get_blames hn)).bind fun v s₁ h₁ => ?_
  refine (Grows.lift v.toNumber_nameless).bind fun old s₂ h₂ => ?_
  exact Grows.bind (Eval.change_ends (Store.assign_grows hn _)) fun _ _ _ => .pure

namespace Expr

open Eval

mutual
theorem eval_grows : (e : Expr) → e.Typed Γ → (s : Store) → Grows Γ e.eval s
  | .lit ty raw => by
      intro _ s
      rw [eval]
      exact (Grows.lift (Scalar.ofLiteral_nameless raw)).bind fun _ _ _ => .pure
  | .var ty name => by
      intro h s
      rw [eval]
      exact .read (Store.get_blames h.1)
  | .binary ty op left right => by
      intro h s
      rw [eval]
      refine (eval_grows left h.2.2.1 s).bind fun a s₁ _ => ?_
      refine (eval_grows right h.2.2.2 s₁).bind fun b s₂ _ => ?_
      exact .lift (op.apply_nameless a b)
  | .unary ty op operand => by
      intro h s
      rw [eval]
      exact (eval_grows operand h.2.2 s).bind fun v _ _ => .lift (op.apply_nameless v)
  | .step ty name op fixity => by
      intro h s
      rw [eval]
      exact evalStep_grows h.2 op fixity
  | .arrayOf ty elems => by
      intro ⟨p, _, h⟩ s
      rw [eval]
      refine (evalAll_grows (.scalar p) elems h s).bind fun vs s₁ _ => ?_
      exact (Grows.lift (ArrayValue.ofValues_nameless _ vs)).bind fun _ _ _ => .pure
  | .newArray ty elem size => by
      intro ⟨⟨p, hp, _⟩, _, h⟩ s
      rw [eval, hp]
      refine (eval_grows size h s).bind fun v s₁ _ => ?_
      refine (Grows.lift v.toNumber_nameless).bind fun k s₂ _ => ?_
      exact (Grows.lift (ArrayValue.ofSize_nameless p k)).bind fun _ _ _ => .pure
  | .index ty name idx => by
      intro ⟨⟨p, hn, _⟩, _, h⟩ s
      rw [eval]
      refine (eval_grows idx h s).bind fun v s₁ _ => ?_
      refine (Grows.lift v.toNumber_nameless).bind fun i s₂ _ => ?_
      refine (Grows.read (Store.array_blames hn)).bind fun a s₃ _ => ?_
      exact (Grows.lift (a.get_nameless i)).bind fun _ _ _ => .pure
  | .length ty name => by
      intro ⟨_, p, hn⟩ s
      rw [eval]
      exact (Grows.read (Store.array_blames hn)).bind fun _ _ _ => .pure
  | .pop ty name => by
      intro ⟨p, hn, _⟩ s
      rw [eval]
      exact Grows.bind (Store.modifyArray_grows hn ArrayValue.pop_nameless) fun _ _ _ => .pure

theorem evalAll_grows (ty : Ty) : (es : List Expr) → TypedAll Γ ty es → (s : Store) →
    Grows Γ (evalAll es) s
  | [] => by
      intro _ s
      rw [evalAll]
      exact .pure
  | e :: rest => by
      intro h s
      rw [evalAll]
      refine (eval_grows e h.1.2 s).bind fun v s₁ _ => ?_
      exact (evalAll_grows ty rest h.2 s₁).bind fun vs _ _ => .pure
end

theorem evalNumber_grows {e : Expr} (h : e.Typed Γ) (s : Store) : Grows Γ e.evalNumber s :=
  (eval_grows e h s).bind fun v _ _ => .lift v.toNumber_nameless

theorem evalLogic_grows {e : Expr} (h : e.Typed Γ) (s : Store) : Grows Γ e.evalLogic s :=
  (eval_grows e h s).bind fun v _ _ => .lift v.toLogic_nameless

end Expr

end Primer
