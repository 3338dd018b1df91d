import Primer.Proofs.ArrayEdits
import Primer.Proofs.Typing

/-!
# The evaluation of typed expressions

In a store that agrees with the context, a typed expression evaluates to a value of its shape and
keeps the agreement, or ends in a fault that lies in the data or in a name that is not bound.
-/

namespace Primer

variable {Γ : Context} {s : Store}

/-- A fault that typed code may end in. -/
def Fault.Sound (f : Fault) : Prop := f.isOfData = true ∨ ∃ n, f = .undefinedVariable n

theorem Store.Agrees.Unbound.sound {n : String} {f : Fault} (h : Unbound s n f) : f.Sound :=
  .inr ⟨n, h.1⟩

/-! ## Operators -/

theorem Value.toNumber_holds {v : Value} (h : Ty.number.Holds v) {E : Fault → Prop} :
    Yields v.toNumber (fun n => v = .number n) E := by
  obtain ⟨n, rfl⟩ := h.number
  exact .value rfl

/-- The faults of a division by zero. -/
def Fault.isOfArithmetic : Fault → Bool
  | .divisionByZero | .moduloByZero => true
  | _ => false

theorem Fault.isOfArithmetic_isOfData {f : Fault} (h : f.isOfArithmetic = true) :
    f.isOfData = true := by
  cases f <;> first | rfl | cases h

theorem ArithOp.apply_yields (op : ArithOp) (a b : Float) :
    Yields (op.apply a b) (op.apply a b = .ok ·) (·.isOfArithmetic = true) := by
  refine ⟨id, fun {f} h => ?_⟩
  cases op with
  | add | sub | mul => cases h
  | div | mod =>
    unfold ArithOp.apply at h
    simp only at h
    split at h <;> cases h
    rfl

theorem BinaryOp.apply_yields {op : BinaryOp} {l r : Ty} {a b : Value}
    (h : op.operandProblems l r = []) (ha : l.Holds a) (hb : r.Holds b) :
    Yields (op.apply a b) op.resultTy.Holds (·.isOfData = true) := by
  cases op with
  | arith op =>
    obtain ⟨rfl, rfl⟩ : l = .number ∧ r = .number := by simpa [operandProblems] using h
    refine (Value.toNumber_holds ha).bind fun x _ => (Value.toNumber_holds hb).bind fun y _ => ?_
    refine ((op.apply_yields x y).mono (fun _ hr => hr) fun _ hf => ?_).bind fun n _ => ?_
    · exact Fault.isOfArithmetic_isOfData hf
    · exact .value (.of_primitive rfl)
  | order op =>
    obtain ⟨rfl, rfl⟩ : l = .number ∧ r = .number := by simpa [operandProblems] using h
    refine (Value.toNumber_holds ha).bind fun x _ => (Value.toNumber_holds hb).bind fun y _ => ?_
    exact .value (.of_primitive rfl)
  | logic op =>
    obtain ⟨rfl, rfl⟩ : l = .logic ∧ r = .logic := by simpa [operandProblems] using h
    refine ((Value.toLogic_yields ha).mono (fun _ hx => hx) fun _ hf => hf.isOfData).bind fun x _ => ?_
    refine ((Value.toLogic_yields hb).mono (fun _ hy => hy) fun _ hf => hf.isOfData).bind fun y _ => ?_
    exact .value (.of_primitive rfl)
  | equal | notEqual => exact .value (.of_primitive rfl)

theorem UnaryOp.apply_yields {op : UnaryOp} {v : Value} (h : op.resultTy.Holds v) :
    Yields (op.apply v) op.resultTy.Holds (·.isOfData = true) := by
  cases op with
  | not =>
    exact Yields.map ((Value.toLogic_yields h).mono
      (fun b _ => .of_primitive rfl) fun _ hf => hf.isOfData)
  | plus | neg =>
    exact Yields.map ((Value.toNumber_holds h).mono (fun n _ => .of_primitive rfl) fun _ hf => hf)

/-! ## Expressions -/

theorem lift_toNumber {v : Value} (h : s.Agrees Γ ∧ Ty.number.Holds v) :
    Ends (Eval.lift v.toNumber s) (fun _ s' => s'.Agrees Γ) (fun f _ => f.Sound) :=
  Eval.lift_ends ((Value.toNumber_holds h.2).mono (fun _ _ => h.1) fun _ hf => hf)

theorem evalStep_typed {n : String} (hn : Γ n = some .number) (hs : s.Agrees Γ) (op : StepOp)
    (fixity : Fixity) : Ends (evalStep n op fixity s)
      (fun v s' => s'.Agrees Γ ∧ Ty.number.Holds v) (fun f _ => f.Sound) := by
  unfold evalStep
  refine Ends.bind (Q := fun v s' => s'.Agrees Γ ∧ Ty.number.Holds v) ?_ fun v s' hv => ?_
  · exact Eval.read_ends ((hs.get hn).mono (fun v hv => ⟨hs, hv.2⟩) fun _ hf => hf.sound)
  refine (lift_toNumber hv).bind fun old s' hs' => ?_
  refine Ends.bind (Q := fun _ s' => s'.Agrees Γ) ?_ fun _ s' hs' => ?_
  · refine Eval.change_ends ?_
    refine (hs'.assign hn (Ty.accepts_self .number) (.of_primitive rfl)).mono (fun _ h => h.2) ?_
    exact fun f hf => hf.elim (·.sound) fun hf => .inl hf.isOfData
  · exact Ends.pure ⟨hs', .of_primitive rfl⟩

theorem evalLiteral_typed {ty : Ty} {raw : String} (h : Literal.classify raw = .ok ty)
    (hs : s.Agrees Γ) :
    Ends ((do return .scalar (← Eval.lift (Scalar.ofLiteral raw)) : Eval Value) s)
      (fun v s' => s'.Agrees Γ ∧ ty.Holds v) (fun f _ => f.Sound) := by
  have hl := Scalar.ofLiteral_yields h
  refine Ends.bind (Q := fun v s' => s'.Agrees Γ ∧ ty = .scalar v.primitive) ?_ fun v s' hv => ?_
  · exact Eval.lift_ends (hl.mono (fun v hv => ⟨hs, hv⟩) fun _ hf => .inl hf)
  · obtain ⟨hs', rfl⟩ := hv
    exact Ends.pure ⟨hs', .of_primitive rfl⟩

namespace Expr

variable {n : String} {p : Primitive}

/-- An element of an array has the element type, whatever the index is. -/
theorem evalIndex_typed {ty : Ty} {idx : Expr} (hn : Γ n = some (.array p))
    (hidx : Ends (idx.eval s) (fun v s' => s'.Agrees Γ ∧ Ty.number.Holds v) (fun f _ => f.Sound)) :
    Ends ((index ty n idx).eval s) (fun v s' => s'.Agrees Γ ∧ v.ty = .scalar p)
      (fun f _ => f.Sound) := by
  rw [eval]
  refine hidx.bind fun v s₁ hv => (lift_toNumber hv).bind fun i s₂ hs₂ => ?_
  refine Ends.bind (Q := fun a s' => s'.Agrees Γ ∧ a.Of p) ?_ fun a s₃ ha => ?_
  · exact Eval.read_ends ((hs₂.array hn).mono (fun a ha => ⟨hs₂, ha.2⟩) fun _ hf => hf.sound)
  refine Ends.bind (Q := fun w s' => s'.Agrees Γ ∧ w.primitive = p) ?_ fun w s' hw => ?_
  · refine Eval.lift_ends ((a.get_yields i).mono (fun w hw => ⟨ha.1, ha.2.2 w hw⟩) ?_)
    exact fun _ hf => .inl (Fault.isOfIndex_isOfData hf)
  · exact Ends.pure ⟨hw.1, congrArg Ty.scalar hw.2⟩

theorem evalPop_typed {ty : Ty} (hn : Γ n = some (.array p)) (hs : s.Agrees Γ) :
    Ends ((pop ty n).eval s) (fun v s' => s'.Agrees Γ ∧ v.ty = .scalar p)
      (fun f _ => f.Sound) := by
  rw [eval]
  refine ((hs.modifyArray hn fun a ha => (ArrayValue.pop_makes ha).mono (fun _ _ h => ⟨h.2, h.1⟩)
    fun _ hf => hf).mono (fun _ _ h => h) fun f _ hf => ?_).bind fun w s' hw => ?_
  · rcases hf.2 with hf | rfl
    · exact hf.sound
    · exact .inl rfl
  · obtain ⟨⟨a, b, -, -, -, hprim, -⟩, hs'⟩ := hw
    exact Ends.pure ⟨hs', congrArg Ty.scalar hprim⟩

mutual
theorem eval_typed : (e : Expr) → e.Typed Γ → ∀ {s : Store}, s.Agrees Γ →
    Ends (e.eval s) (fun v s' => s'.Agrees Γ ∧ e.ty.Holds v) (fun f _ => f.Sound)
  | .lit ty raw => by
      intro h s hs
      rw [Typed] at h
      rw [eval, Expr.ty]
      exact evalLiteral_typed h hs
  | .var ty name => by
      intro h s hs
      rw [eval]
      exact Eval.read_ends ((hs.get h.1).mono (fun v hv => ⟨hs, hv.2⟩) fun _ hf => hf.sound)
  | .binary ty op left right => by
      intro ⟨hty, hop, hl, hr⟩ s hs
      rw [eval, Expr.ty, hty]
      refine (eval_typed left hl hs).bind fun a s₁ ha => ?_
      refine (eval_typed right hr ha.1).bind fun b s₂ hb => ?_
      refine Eval.lift_ends ((BinaryOp.apply_yields hop ha.2 hb.2).mono (fun v hv => ⟨hb.1, hv⟩) ?_)
      exact fun _ hf => .inl hf
  | .unary ty op operand => by
      intro ⟨hty, hop, ho⟩ s hs
      rw [eval, Expr.ty, hty]
      refine (eval_typed operand ho hs).bind fun a s₁ ha => ?_
      rw [hop] at ha
      refine Eval.lift_ends ((UnaryOp.apply_yields ha.2).mono (fun v hv => ⟨ha.1, hv⟩) ?_)
      exact fun _ hf => .inl hf
  | .step ty name op fixity => by
      intro ⟨hty, hn⟩ s hs
      rw [eval, Expr.ty, hty]
      exact evalStep_typed hn hs op fixity
  | .arrayOf ty elems => by
      intro ⟨p, hty, h⟩ s hs
      rw [eval, Expr.ty, hty]
      refine (evalAll_typed (.scalar p) elems h hs).bind fun vs s₁ hvs => ?_
      refine Ends.bind (Q := fun a s' => s'.Agrees Γ ∧ a.Of p) ?_ fun a s' ha => Ends.pure ha
      refine Eval.lift_ends ((ArrayValue.ofValues_yields hvs.2).mono (fun a ha => ⟨hvs.1, ha⟩) ?_)
      exact fun _ hf => .inl hf
  | .newArray ty elem size => by
      intro ⟨⟨p, hp, hty⟩, hsize, h⟩ s hs
      rw [eval, Expr.ty, hp, hty]
      refine (eval_typed size h hs).bind fun v s₁ hv => ?_
      rw [hsize] at hv
      refine (lift_toNumber hv).bind fun n s₂ hs₂ => ?_
      refine Ends.bind (Q := fun a s' => s'.Agrees Γ ∧ a.Of p) ?_ fun a s' ha => Ends.pure ha
      refine Eval.lift_ends ((ArrayValue.ofSize_yields p n).mono (fun a ha => ⟨hs₂, ha⟩) ?_)
      exact fun _ hf => .inl hf
  | .index ty name idx => by
      intro ⟨⟨p, hn, hty⟩, hidx, h⟩ s hs
      rw [Expr.ty, hty]
      refine (evalIndex_typed hn (hidx ▸ eval_typed idx h hs)).mono (fun v s' hv => ?_) fun _ _ hf => hf
      exact ⟨hv.1, .of_ty hv.2⟩
  | .length ty name => by
      intro ⟨hty, p, hn⟩ s hs
      rw [eval, Expr.ty, hty]
      refine Ends.bind (Q := fun _ s' => s'.Agrees Γ) ?_ fun a s' hs' =>
        Ends.pure ⟨hs', .of_primitive rfl⟩
      exact Eval.read_ends ((hs.array hn).mono (fun _ _ => hs) fun _ hf => hf.sound)
  | .pop ty name => by
      intro ⟨p, hn, hty⟩ s hs
      rw [Expr.ty, hty]
      exact (evalPop_typed hn hs).mono (fun v s' hv => ⟨hv.1, .of_ty hv.2⟩) fun _ _ hf => hf

theorem evalAll_typed (ty : Ty) : (es : List Expr) → TypedAll Γ ty es → ∀ {s : Store},
    s.Agrees Γ → Ends (evalAll es s)
      (fun vs s' => s'.Agrees Γ ∧ ∀ v ∈ vs, ty.Holds v) (fun f _ => f.Sound)
  | [] => by
      intro _ s hs
      rw [evalAll]
      exact Ends.pure ⟨hs, nofun⟩
  | e :: rest => by
      intro h s hs
      rw [evalAll]
      refine (eval_typed e h.1.2 hs).bind fun v s₁ hv => ?_
      refine (evalAll_typed ty rest h.2 hv.1).bind fun vs s₂ hvs => Ends.pure ⟨hvs.1, ?_⟩
      intro w hw
      rcases List.mem_cons.mp hw with rfl | hw
      · exact h.1.1 ▸ hv.2
      · exact hvs.2 w hw
end

/-- A typed index evaluates to a number. -/
theorem evalNumber_typed {e : Expr} (h : e.Typed Γ) (hty : e.ty = .number) (hs : s.Agrees Γ) :
    Ends (e.evalNumber s) (fun _ s' => s'.Agrees Γ) (fun f _ => f.Sound) := by
  refine (eval_typed e h hs).bind fun v s₁ hv => ?_
  rw [hty] at hv
  exact lift_toNumber hv

/-- A typed condition evaluates to a truth value, or is a text that is none. -/
theorem evalLogic_typed {e : Expr} (h : e.Typed Γ) (hty : e.ty = .logic) (hs : s.Agrees Γ) :
    Ends (e.evalLogic s) (fun _ s' => s'.Agrees Γ) (fun f _ => f.Sound) := by
  refine (eval_typed e h hs).bind fun v s₁ hv => ?_
  rw [hty] at hv
  refine Eval.lift_ends ((Value.toLogic_yields hv.2).mono (fun _ _ => hv.1) fun _ hf => ?_)
  exact .inl hf.isOfData

end Expr

end Primer
