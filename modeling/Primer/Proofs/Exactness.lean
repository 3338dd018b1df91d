import Primer.Proofs.Actions
import Primer.Proofs.Contents
import Primer.Proofs.Moves

/-!
# Exact stores

A store is exact if every name holds a value of the very type that it was declared with. Evaluations
keep a store exact, and so do typed actions, unless they read a line into a truth value. In an exact
store that agrees with the context a typed expression has a value of its very type.
-/

namespace Primer

/-! ## Arrays -/

namespace ArrayValue

theorem set_elem (i : Float) (v : Value) (a : ArrayValue) :
    (set i v).Makes a (fun _ b => b.elem = a.elem) fun _ => True :=
  .set ⟨fun _ => ⟨fun _ => rfl, fun _ => trivial⟩, fun _ => trivial⟩

theorem pop_elem (a : ArrayValue) : pop.Makes a (fun _ b => b.elem = a.elem) fun _ => True :=
  a.pop_last.mono (fun _ _ h => h.1) fun _ _ => trivial

end ArrayValue

/-! ## Stores -/

namespace Store

/-- Every name holds a value of its type. -/
def Exact (s : Store) : Prop := ∀ n b, s.find? n = some b → b.value.ty = b.ty

/-- An exact store that agrees with a context. -/
structure Matches (Γ : Context) (s : Store) : Prop where
  agrees : s.Agrees Γ
  exact : s.Exact

variable {s s' : Store} {n : String} {ty : Ty} {v : Value}

namespace Exact

theorem empty : Store.empty.Exact := by
  intro n b hb
  cases hb

theorem declare (h : s.Exact) (n : String) (hv : v.ty = ty) : (s.declare n ty v).Exact := by
  intro m b hb
  rw [find?_declare] at hb
  split at hb
  · cases hb
    exact hv
  · exact h m b hb

theorem put (h : s.Exact) (hv : ∀ b, s.find? n = some b → v.ty = b.ty) (hs' : s.put n v = .ok s') :
    s'.Exact := by
  obtain ⟨b, hb, rfl⟩ := put_ok hs'
  exact h.declare n (hv b hb)

theorem assign (h : s.Exact) (hs' : s.assign n v = .ok s') : s'.Exact := by
  obtain ⟨b, p, w, hb, hty, hw, rfl⟩ := assign_ok hs'
  refine h.declare n ?_
  rw [hty]
  exact congrArg Ty.scalar ((v.coerce_gives p).ok hw)

theorem modifyArray {α : Type} {edit : ArrayValue.Edit α} (h : s.Exact) (n : String)
    (hedit : ∀ a, edit.Makes a (fun _ b => b.elem = a.elem) fun _ => True) :
    Ends (s.modifyArray n edit) (fun _ s' => s'.Exact) fun _ s' => s' = s := by
  refine (modifyArray_ends (E := fun _ => True) (fun _ => trivial) fun b a hb ha => ?_).mono
    (fun _ _ h => h) fun _ _ hf => hf.1
  refine (hedit a).mono (fun w a' helem => h.declare n ?_) fun _ h => h
  rw [← h n b hb, ha]
  exact congrArg Ty.array helem

theorem leads {move : Move} (hmove : move.Leads s s') (h : s.Exact) : s'.Exact := by
  cases hmove with
  | step hs' => exact h.assign hs'
  | pop hs' => exact (h.modifyArray _ ArrayValue.pop_elem).ok hs'

end Exact

end Store

/-! ## Expressions -/

section
variable {Γ : Context} {s : Store}

open Store

namespace Expr

/-- A typed expression has a value of its type. -/
theorem eval_ty {e : Expr} (h : e.Typed Γ) (hs : s.Matches Γ) :
    Ends (e.eval s) (fun v _ => v.ty = e.ty) fun _ _ => True := by
  -- A value of another type is a text in a place of a truth value.
  have hholds : e.ty ≠ .logic → Ends (e.eval s) (fun v _ => v.ty = e.ty) fun _ _ => True :=
    fun hty => (e.eval_typed h hs.agrees).mono
      (fun v _ hv => hv.2.ty_eq.resolve_right fun hlogic => hty hlogic.1) fun _ _ _ => trivial
  cases e with
  | lit ty raw =>
    rw [eval, Expr.ty]
    refine Ends.bind (Q := fun w _ => (Value.scalar w).ty = ty) ?_ fun w s' hw => Ends.pure hw
    exact Eval.lift_ends ((Scalar.ofLiteral_yields h).mono (fun _ hw => hw.symm) fun _ _ => trivial)
  | var ty name =>
    rw [eval]
    refine Eval.read_ends ((hs.agrees.get h.1).mono (fun v hv => ?_) fun _ _ => trivial)
    exact hs.exact name _ hv.1
  | binary ty op left right =>
    rw [eval, Expr.ty, h.1]
    refine Ends.bind (Q := fun _ _ => True) .any fun a s₁ _ => ?_
    refine Ends.bind (Q := fun _ _ => True) .any fun b s₂ _ => ?_
    exact Eval.lift_ends ((op.apply_gives a b).mono (fun _ hv => hv) fun _ _ => trivial)
  | unary ty op operand =>
    rw [eval, Expr.ty, h.1]
    refine Ends.bind (Q := fun _ _ => True) .any fun v s₁ _ => ?_
    exact Eval.lift_ends ((op.apply_gives v).mono (fun _ hv => hv) fun _ _ => trivial)
  | step | length => exact hholds (by rw [Expr.ty, h.1]; exact nofun)
  | arrayOf ty elems =>
    obtain ⟨p, rfl, -⟩ := h
    exact hholds nofun
  | newArray ty elem size =>
    obtain ⟨⟨p, -, rfl⟩, -⟩ := h
    exact hholds nofun
  | index ty name idx =>
    obtain ⟨⟨p, hn, rfl⟩, hidx, h⟩ := h
    refine (evalIndex_typed hn (hidx ▸ eval_typed idx h hs.agrees)).mono (fun _ _ hv => hv.2) ?_
    exact fun _ _ _ => trivial
  | pop ty name =>
    obtain ⟨p, hn, rfl⟩ := h
    exact (evalPop_typed hn hs.agrees).mono (fun _ _ hv => hv.2) fun _ _ _ => trivial

theorem eval_matches {e : Expr} (h : e.Typed Γ) (hs : s.Matches Γ) :
    Ends (e.eval s) (fun v s' => s'.Matches Γ ∧ v.ty = e.ty) fun _ _ => True := by
  refine ⟨fun {v s'} hv => ⟨⟨?_, ?_⟩, ?_⟩, fun _ => trivial⟩
  · exact ((e.eval_typed h hs.agrees).ok hv).1
  · exact ((e.eval_makes s).keeps Exact.leads hs.exact).ok hv
  · exact (eval_ty h hs).ok hv

theorem evalAll_matches {ty : Ty} {es : List Expr} (h : TypedAll Γ ty es) (hs : s.Matches Γ) :
    Ends (evalAll es s) (fun vs s' => s'.Matches Γ ∧ vs.length = es.length ∧ ∀ v ∈ vs, v.ty = ty)
      fun _ _ => True := by
  induction es generalizing s with
  | nil =>
    rw [evalAll]
    exact Ends.pure ⟨hs, rfl, List.forall_mem_nil _⟩
  | cons e rest ih =>
    rw [evalAll]
    refine (eval_matches h.1.2 hs).bind fun v s₁ h₁ => ?_
    refine (ih h.2 h₁.1).bind fun vs s₂ h₂ => Ends.pure ⟨h₂.1, ?_, ?_⟩
    · rw [List.length_cons, List.length_cons, h₂.2.1]
    · exact List.forall_mem_cons.mpr ⟨h₁.2.trans h.1.1, h₂.2.2⟩

theorem evalNumber_matches {e : Expr} (h : e.Typed Γ) (hs : s.Matches Γ) :
    Ends (e.evalNumber s) (fun _ s' => s'.Matches Γ) fun _ _ => True :=
  (eval_matches h hs).bind fun _ _ h₁ => Eval.lift_ends (.mono .any (fun _ _ => h₁.1) fun _ hf => hf)

theorem evalLogic_matches {e : Expr} (h : e.Typed Γ) (hs : s.Matches Γ) :
    Ends (e.evalLogic s) (fun _ s' => s'.Matches Γ) fun _ _ => True :=
  (eval_matches h hs).bind fun _ _ h₁ => Eval.lift_ends (.mono .any (fun _ _ => h₁.1) fun _ hf => hf)

end Expr

end

/-! ## Actions -/

section
variable {Γ : Context} {m : Machine}

open Store

theorem Stores.ty_eq {s : Store} {a : Action} {vs : List Value} {n : String} {ty : Ty} {v : Value}
    (h : Stores s a vs n ty v) : v.ty = ty := by
  cases h with
  | declareDefault _ => exact congrArg Ty.scalar (Scalar.default_primitive _)
  | declare _ _ hp | assign _ _ _ hp => exact congrArg Ty.scalar hp
  | compound | declareEmpty => rfl
  | declareArray _ ha | assignArray _ _ ha => exact congrArg Ty.array ha.1
  | assignElement _ _ hb | addText _ _ _ hb | compoundElement _ _ _ _ hb | set _ _ hb
  | push _ _ hb => exact congrArg Ty.array hb.1

theorem Writes.matched {a : Action} {m' : Machine} (h : Writes a m m') (ht : a.Typed Γ)
    (hadds : a.Extends Γ) (hs : m.store.Matches Γ) :
    m'.frames = m.frames ∧ m'.store.Matches Γ := by
  obtain ⟨hframes, hagrees⟩ := h.agrees ht hadds hs.agrees
  obtain ⟨vs, s, n, ty, v, ho, hst, rfl⟩ := h
  have hexact : s.Exact := ((Expr.evalAll_makes a.operands m.store).keeps Exact.leads hs.exact).ok ho
  exact ⟨hframes, hagrees, hexact.declare n hst.ty_eq⟩

theorem Act.eval_matches {e : Expr} (h : e.Typed Γ) (hs : m.store.Matches Γ) :
    Act.Keeps (Store.Matches Γ) (fun _ => True) (Act.eval e.eval) m :=
  .eval ((Expr.eval_matches h hs).mono (fun _ _ h => h.1) fun _ _ h => h)

theorem DisplayItem.shown_matches {i : DisplayItem} (h : i.Typed Γ) (hs : m.store.Matches Γ) :
    Act.Keeps (Store.Matches Γ) (fun _ => True) i.shown m := by
  cases i with
  | expr e => exact (Act.eval_matches h hs).bind fun _ _ hm' => .pure hm'
  | named name => exact (Act.Keeps.read hs .any).bind fun _ _ hm' => .pure hm'
  | literal raw => exact .pure hs

theorem Act.put_matches {n : String} {ty : Ty} {v : Value} (hs : m.store.Matches Γ)
    (hn : Γ n = some ty) (hholds : ty.Holds v) (hv : v.ty = ty) :
    Act.Keeps (Store.Matches Γ) (fun _ => True) (Act.change (·.put n v)) m := by
  refine .change ⟨fun {s'} h => ⟨((hs.agrees.put hn hholds).ok h).2, ?_⟩, fun _ => trivial⟩
  refine hs.exact.put (fun b hb => ?_) h
  rw [(hs.agrees n ty b hn hb).1, hv]

theorem performInput_matches {settings : Settings} {n : String} {p : Primitive}
    (hn : Γ n = some (.scalar p)) (hp : p ≠ .logic) (hs : m.store.Matches Γ) :
    Act.Keeps (Store.Matches Γ) (fun _ => True) (performInput settings n) m := by
  unfold performInput
  refine Ends.bind (Q := fun v m' => v.ty = .scalar p ∧ m' = m) (Act.read_ends ?_)
    fun current m' ⟨hty, hm'⟩ => ?_
  · exact (hs.agrees.get hn).mono (fun v hv => ⟨hs.exact n _ hv.1, rfl⟩) fun _ _ => trivial
  subst hm'
  refine (Act.Keeps.input hs trivial).bind fun line m'' hs'' => ?_
  have hput : ∀ w : Scalar, w.primitive = p →
      Act.Keeps (Store.Matches Γ) (fun _ => True) (Act.change (·.put n (.scalar w))) m'' :=
    fun w hw => Act.put_matches hs'' hn (.of_primitive hw) (congrArg Ty.scalar hw)
  obtain ⟨w, rfl⟩ := (Ty.Holds.of_ty hty).scalar
  have hw : w.primitive = p := Ty.scalar.inj hty
  cases w with
  | number x =>
    dsimp only
    cases Numeric.read? (Text.trim line) with
    | none => exact .warn hs''
    | some k => exact hput (.number k) hw
  | letter c =>
    dsimp only
    cases singleChar? line with
    | none => exact .warn hs''
    | some k => exact hput (.letter k) hw
  | sentence s => exact hput (.sentence line) hw
  | logic b => exact absurd hw.symm hp

theorem performInputElement_exact {settings : Settings} {n : String} {idx : Expr}
    (hs : m.store.Exact) :
    Act.Keeps Store.Exact (fun _ => True) (performInputElement settings n idx) m := by
  unfold performInputElement
  have hidx := (idx.evalNumber_makes m.store).keeps Exact.leads hs
  refine Act.Keeps.bind (.eval (hidx.mono (fun _ _ h => h) fun _ _ _ => trivial)) fun i m₁ hs₁ => ?_
  refine (Act.Keeps.read hs₁ .any).bind fun a m₂ hs₂ => ?_
  refine (Act.Keeps.lift hs₂ .any).bind fun _ m₃ hs₃ => ?_
  refine (Act.Keeps.input hs₃ trivial).bind fun line m₄ hs₄ => ?_
  refine (Act.Keeps.lift hs₄ .any).bind fun w m₅ hs₅ => ?_
  exact .eval ((hs₅.modifyArray n (ArrayValue.set_elem i _)).mono (fun _ _ h => h)
    fun _ _ _ => trivial)

/-- A typed action keeps the match, unless it reads a line into a truth value. -/
theorem Action.perform_matches {settings : Settings} {a : Action} (h : a.Typed Γ)
    (hadds : a.Extends Γ) (hinput : ∀ n, a = .input n → Γ n ≠ some .logic)
    (hs : m.store.Matches Γ) :
    Act.Keeps (Store.Matches Γ) (fun _ => True) (a.perform settings) m := by
  by_cases harray : a.AssignsArray Γ
  · cases a with
    | assign n op value =>
      obtain ⟨p, hn⟩ := harray
      rw [perform]
      exact (performAssign_array h hn hs.agrees).mono (fun _ _ h => h.elim) fun _ _ _ => trivial
    | _ => exact harray.elim
  by_cases hw : a.isWrite = true
  · exact (perform_writes settings hw h harray hs.agrees).mono
      (fun _ m' hm' => hm'.matched h hadds hs) fun _ _ _ => trivial
  · cases a with
    | display item newline =>
      refine performDisplay_keeps (fun i hi m hm => ?_) hs
      exact i.shown_matches (h i (Option.mem_toList.mp hi)) hm
    | displayAll items newline =>
      exact performDisplay_keeps (fun i hi m hm => i.shown_matches (h i hi) hm) hs
    | input n =>
      obtain ⟨p, hn⟩ := h
      refine performInput_matches hn (fun hp => ?_) hs
      exact hinput n rfl (hn.trans (congrArg _ (congrArg Ty.scalar hp)))
    | inputElement n idx =>
      refine ⟨fun hm' => ?_, fun _ => trivial⟩
      obtain ⟨hframes, hagrees⟩ := (performInputElement_typed h hs.agrees).ok hm'
      exact ⟨hframes, hagrees, ((performInputElement_exact hs.exact).ok hm').2⟩
    | evaluate e => exact (Act.eval_matches h hs).bind fun _ _ hm' => .pure hm'
    | _ => exact absurd rfl hw

end

end Primer
