import Primer.Proofs.Evaluation

/-!
# Writes

What the actions that write a name leave in the store, given the values of their operands, and the
faults that they may end in. A typed write stores its value or fails without a trace, unless it
assigns to an array as to a variable.
-/

namespace Primer

open Store.Agrees

/-! ## What a write stores -/

namespace Action

/-- The actions that store the value of an operand under a name. -/
def isWrite : Action → Bool
  | .declare _ _ _ | .assign _ _ _ | .declareArray _ _ _ | .assignArray _ _
  | .assignElement _ _ _ _ | .push _ _ | .set _ _ _ => true
  | _ => false

/-- The operands of a write, in the order of their evaluation. -/
def operands : Action → List Expr
  | .declare _ _ init | .declareArray _ _ init => init.toList
  | .assign _ _ value | .assignArray _ value | .push _ value => [value]
  | .assignElement _ idx _ value | .set _ idx value => [idx, value]
  | _ => []

/-- An assignment to an array as to a variable. -/
def AssignsArray (Γ : Context) : Action → Prop
  | .assign name _ _ => ∃ p, Γ name = some (.array p)
  | _ => False

theorem isWrite_bare (a : Action) : a.bare.isWrite = a.isWrite := by
  cases a <;> rfl

theorem check_isWrite (t : ScopeTree) (a : Action) : (a.check t).result.isWrite = a.isWrite := by
  rw [← isWrite_bare, check_bare, isWrite_bare]

theorem assignsArray_bare (Γ : Context) (a : Action) : a.bare.AssignsArray Γ = a.AssignsArray Γ := by
  cases a <;> rfl

theorem check_assignsArray (t : ScopeTree) (Γ : Context) (a : Action) :
    (a.check t).result.AssignsArray Γ = a.AssignsArray Γ := by
  rw [← assignsArray_bare, check_bare, assignsArray_bare]

end Action

/-- A write with operands of the given values stores a value under a name with its type; the store is
the one that the operands leave. -/
inductive Stores (s : Store) : Action → List Value → String → Ty → Value → Prop where
  | declareDefault {tyName n p} : Primitive.ofName? tyName = some p →
      Stores s (.declare tyName n none) [] n (.scalar p) (.scalar (Scalar.default p))
  | declare {tyName n p e v w} : Primitive.ofName? tyName = some p →
      Becomes v w → w.primitive = p →
      Stores s (.declare tyName n (some e)) [v] n (.scalar p) (.scalar w)
  | assign {n e b p v w} : s.find? n = some b → b.ty = .scalar p →
      Becomes v w → w.primitive = p → Stores s (.assign n .plain e) [v] n (.scalar p) (.scalar w)
  | compound {n e op x y r} : s.find? n = some ⟨.number, .number x⟩ → ArithOp.apply op x y = .ok r →
      Stores s (.assign n (.compound op) e) [.number y] n .number (.number r)
  | declareEmpty {elem n p} : Primitive.ofName? elem = some p →
      Stores s (.declareArray elem n none) [] n (.array p) (.array (.empty p))
  | declareArray {elem n p e a} : Primitive.ofName? elem = some p → a.Of p →
      Stores s (.declareArray elem n (some e)) [.array a] n (.array p) (.array a)
  | assignArray {n e b p a} : s.find? n = some b → b.ty = .array p → a.Of p →
      Stores s (.assignArray n e) [.array a] n (.array p) (.array a)
  | assignElement {n i e p a b x v} : s.find? n = some ⟨.array p, .array a⟩ →
      a.IsSet x v b → b.Of p →
      Stores s (.assignElement n i .plain e) [.number x, v] n (.array p) (.array b)
  | addText {n i e a b x old v} : s.find? n = some ⟨.array .sentence, .array a⟩ →
      a.get x = .ok old → a.IsSet x (.sentence (old.text ++ v.text)) b → b.Of .sentence →
      Stores s (.assignElement n i (.compound .add) e) [.number x, v] n (.array .sentence) (.array b)
  | compoundElement {n i e op a b x y z r} : s.find? n = some ⟨.array .number, .array a⟩ →
      a.get x = .ok (.number y) → ArithOp.apply op y z = .ok r → a.IsSet x (.number r) b →
      b.Of .number →
      Stores s (.assignElement n i (.compound op) e) [.number x, .number z] n (.array .number) (.array b)
  | set {n i e p a b x v} : s.find? n = some ⟨.array p, .array a⟩ → a.IsSet x v b → b.Of p →
      Stores s (.set n i e) [.number x, v] n (.array p) (.array b)
  | push {n e p a b v} : s.find? n = some ⟨.array p, .array a⟩ → a.IsPush v b → b.Of p →
      Stores s (.push n e) [v] n (.array p) (.array b)

/-- The faults of a write whose operands have the given values: in the arithmetic, in an index, or
in converting an operand. -/
def WriteFault (vs : List Value) (f : Fault) : Prop :=
  f.isOfArithmetic = true ∨ f.isOfIndex = true ∨ ∃ v ∈ vs, Misfit v f

theorem WriteFault.isOfData {vs : List Value} {f : Fault} (h : WriteFault vs f) :
    f.isOfData = true := by
  rcases h with h | h | ⟨v, -, h⟩
  · exact Fault.isOfArithmetic_isOfData h
  · exact Fault.isOfIndex_isOfData h
  · exact h.isOfData

/-- The machine after a write that succeeds. -/
def Writes (a : Action) (m m' : Machine) : Prop :=
  ∃ vs s n ty v, Expr.evalAll a.operands m.store = .ok vs s ∧ Stores s a vs n ty v ∧
    m' = { m with store := s.declare n ty v }

/-- The ends of a write that fails: in an operand, at a name that is not bound, or in storing. -/
inductive WriteFails (Γ : Context) (a : Action) (m : Machine) : Fault → Machine → Prop where
  | operand {f s m'} : Expr.evalAll a.operands m.store = .error f s → f.Sound → WriteFails Γ a m f m'
  | unbound {n f m'} : f = .undefinedVariable n → WriteFails Γ a m f m'
  | store {vs s f} : Expr.evalAll a.operands m.store = .ok vs s → WriteFault vs f →
      WriteFails Γ a m f { m with store := s }

/-! ## Operands -/

section
variable {Γ : Context} {α : Type} {m : Machine} {e : Expr} {s s₁ s₂ : Store} {v w : Value} {f : Fault}

namespace Expr

theorem evalAll_one_ok (h : e.eval s = .ok v s₁) : evalAll [e] s = .ok [v] s₁ := by
  rw [evalAll, Ends.run_bind_ok h]
  rfl

theorem evalAll_one_error (h : e.eval s = .error f s₁) : evalAll [e] s = .error f s₁ := by
  rw [evalAll, Ends.run_bind_error h]

theorem evalAll_two_ok {e' : Expr} (h : e.eval s = .ok v s₁) (h' : e'.eval s₁ = .ok w s₂) :
    evalAll [e, e'] s = .ok [v, w] s₂ := by
  rw [evalAll, Ends.run_bind_ok h, Ends.run_bind_ok (evalAll_one_ok h')]
  rfl

theorem evalAll_two_first {e' : Expr} (h : e.eval s = .error f s₁) :
    evalAll [e, e'] s = .error f s₁ := by
  rw [evalAll, Ends.run_bind_error h]

theorem evalAll_two_second {e' : Expr} (h : e.eval s = .ok v s₁) (h' : e'.eval s₁ = .error f s₂) :
    evalAll [e, e'] s = .error f s₂ := by
  rw [evalAll, Ends.run_bind_ok h, Ends.run_bind_error (evalAll_one_error h')]

end Expr

variable {β : Type} {Q : β → Machine → Prop} {E : Fault → Machine → Prop}

/-- A typed operand in front of the rest of an act. -/
theorem Act.operand_ends {k : Value → Act β} (h : e.Typed Γ) (hs : m.store.Agrees Γ)
    (ok : ∀ v s, e.eval m.store = .ok v s → s.Agrees Γ → e.ty.Holds v →
      Ends (k v { m with store := s }) Q E)
    (error : ∀ f s, e.eval m.store = .error f s → f.Sound → E f { m with store := s }) :
    Ends ((Act.eval e.eval >>= k) m) Q E := by
  have ends := Expr.eval_typed e h hs
  refine Ends.bind (Act.eval_ends ?_) fun v m' hm' => hm'
  refine ⟨fun {v s} hv => ?_, fun {f s} hf => error f s hf (ends.error hf)⟩
  exact ok v s hv (ends.ok hv).1 (ends.ok hv).2

/-- A typed index in front of the rest of an act. -/
theorem Act.index_ends {k : Float → Act β} (h : e.Typed Γ) (hty : e.ty = .number)
    (hs : m.store.Agrees Γ)
    (ok : ∀ x s, e.eval m.store = .ok (.number x) s → s.Agrees Γ →
      Ends (k x { m with store := s }) Q E)
    (error : ∀ f s, e.eval m.store = .error f s → f.Sound → E f { m with store := s }) :
    Ends ((Act.eval e.evalNumber >>= k) m) Q E := by
  have ends := Expr.eval_typed e h hs
  refine Ends.bind (Act.eval_ends ?_) fun v m' hm' => hm'
  refine Ends.bind_eq (fun v s hv => ?_) fun f s hf => error f s hf (ends.error hf)
  obtain ⟨hs', hholds⟩ := ends.ok hv
  rw [hty] at hholds
  obtain ⟨x, rfl⟩ := hholds.number
  exact Eval.lift_ends (.value (ok x s hv hs'))

end

/-! ## The forms of writes -/

section
variable {Γ : Context} {m : Machine}

theorem performDeclare_ends {ty n : String} {init : Option Expr}
    (h : (Action.declare ty n init).Typed Γ) (hs : m.store.Agrees Γ) :
    Ends (performDeclare ty n init m) (fun _ => Writes (.declare ty n init) m)
      (WriteFails Γ (.declare ty n init) m) := by
  obtain ⟨p, hp, hinit⟩ := h
  simp only [performDeclare, hp]
  cases init with
  | none =>
    exact Ends.bind (Q := fun v m' => v = Scalar.default p ∧ m' = m) (Ends.pure ⟨rfl, rfl⟩)
      fun v m' ⟨hv, hm'⟩ => by
        subst hv hm'
        exact Act.change_ends (.value ⟨[], m'.store, n, _, _, rfl, .declareDefault hp, rfl⟩)
  | some e =>
    obtain ⟨he, haccepts⟩ := hinit e rfl
    dsimp only
    refine Act.operand_ends he hs (fun v s hv _ hholds => ?_) fun f s hf hsound => ?_
    · have ho := Expr.evalAll_one_ok hv
      refine (Act.lift_ends (Q := fun w m' => (w.primitive = p ∧ Becomes v w) ∧
        m' = { m with store := s }) ?_).bind fun w m' ⟨hw, hm'⟩ => ?_
      · refine (Value.coerce_yields haccepts hholds).mono (fun w hw => ⟨hw, rfl⟩) fun f hf => ?_
        exact .store ho (.inr (.inr ⟨v, by simp, hf⟩))
      · subst hm'
        exact Act.change_ends (.value ⟨[v], s, n, _, _, ho, .declare hp hw.2 hw.1, rfl⟩)
    · exact .operand (Expr.evalAll_one_error hf) hsound

theorem toArray_of {p : Primitive} {a : ArrayValue} (h : a.Of p) :
    Value.toArray p (.array a) = .ok a :=
  ArrayValue.retype_of h

theorem performDeclareArray_ends {elem n : String} {init : Option Expr}
    (h : (Action.declareArray elem n init).Typed Γ) (hs : m.store.Agrees Γ) :
    Ends (performDeclareArray elem n init m) (fun _ => Writes (.declareArray elem n init) m)
      (WriteFails Γ (.declareArray elem n init) m) := by
  obtain ⟨p, hp, hinit⟩ := h
  simp only [performDeclareArray, hp]
  cases init with
  | none =>
    exact Ends.bind (Q := fun a m' => a = ArrayValue.empty p ∧ m' = m) (Ends.pure ⟨rfl, rfl⟩)
      fun a m' ⟨ha, hm'⟩ => by
        subst ha hm'
        exact Act.change_ends (.value ⟨[], m'.store, n, _, _, rfl, .declareEmpty hp, rfl⟩)
  | some e =>
    obtain ⟨he, hty⟩ := hinit e rfl
    dsimp only
    refine Act.operand_ends he hs (fun v s hv _ hholds => ?_) fun f s hf hsound => ?_
    · rw [hty] at hholds
      obtain ⟨a, rfl, ha⟩ := hholds.array
      rw [toArray_of ha, Act.lift_ok, pure_bind]
      exact Act.change_ends
        (.value ⟨[.array a], s, n, _, _, Expr.evalAll_one_ok hv, .declareArray hp ha, rfl⟩)
    · exact .operand (Expr.evalAll_one_error hf) hsound

theorem WriteFails.of_unbound {a : Action} {s : Store} {n : String} {f : Fault} {m' : Machine}
    (h : Unbound s n f) : WriteFails Γ a m f m' :=
  .unbound h.1

theorem performAssignArray_ends {n : String} {value : Expr}
    (h : (Action.assignArray n value).Typed Γ) (hs : m.store.Agrees Γ) :
    Ends (performAssignArray n value m) (fun _ => Writes (.assignArray n value) m)
      (WriteFails Γ (.assignArray n value) m) := by
  obtain ⟨p, hn, hv, hty⟩ := h
  unfold performAssignArray
  refine Ends.bind (Q := fun b m' => b.ty = .array p ∧ m' = m) (Act.read_ends ?_)
    fun b m' ⟨hb, hm'⟩ => ?_
  · exact (hs.binding hn).mono (fun b hb => ⟨hb.2.1, rfl⟩) fun f hf => .of_unbound hf
  subst hm'
  rw [hb]
  refine Act.operand_ends hv hs (fun v s hv hs' hholds => ?_) fun f s hf hsound => ?_
  · rw [hty] at hholds
    obtain ⟨a, rfl, ha⟩ := hholds.array
    rw [toArray_of ha, Act.lift_ok, pure_bind]
    refine Act.change_ends ?_
    refine Yields.map ((hs'.binding hn).mono (fun c hc => ?_) fun f hf => .of_unbound hf)
    refine ⟨[.array a], s, n, _, _, Expr.evalAll_one_ok hv, .assignArray hc.1 hc.2.1 ha, ?_⟩
    rw [hc.2.1]
  · exact .operand (Expr.evalAll_one_error hf) hsound

theorem assignedValue_ends {n : String} {op : ArithOp} {y : Float} (hn : Γ n = some .number)
    (hs : m.store.Agrees Γ) :
    Ends (assignedValue n (.compound op) (.number y) m)
      (fun v m' => m' = m ∧ ∃ x r, m.store.find? n = some ⟨.number, .number x⟩ ∧
        op.apply x y = .ok r ∧ v = .number r)
      (fun f m' => m' = m ∧ (Unbound m.store n f ∨ f.isOfArithmetic = true)) := by
  unfold assignedValue
  refine (Act.read_ends (Q := fun c m' => m' = m ∧ ∃ x, m.store.find? n = some ⟨.number, .number x⟩ ∧
    c = .number x) ?_).bind fun c m' ⟨hm', x, hx, hc⟩ => ?_
  · refine (hs.get hn).mono (fun c hc => ?_) fun f hf => ⟨rfl, .inl hf⟩
    obtain ⟨x, rfl⟩ := hc.2.number
    exact ⟨rfl, x, hc.1, rfl⟩
  subst hc hm'
  refine (Act.lift_ends (Q := fun r m'' => m'' = m' ∧ op.apply x y = .ok r)
    ((op.apply_yields x y).mono (fun r hr => ⟨rfl, hr⟩) fun f hf => ⟨rfl, .inr hf⟩)).bind
    fun r m'' ⟨hm'', hr⟩ => ?_
  exact Ends.pure ⟨hm'', x, r, hx, hr, rfl⟩

theorem performAssign_ends {n : String} {op : AssignOp} {value : Expr}
    (h : (Action.assign n op value).Typed Γ) (hscalar : ¬(Action.assign n op value).AssignsArray Γ)
    (hs : m.store.Agrees Γ) :
    Ends (performAssign n op value m) (fun _ => Writes (.assign n op value) m)
      (WriteFails Γ (.assign n op value) m) := by
  obtain ⟨ty, hn, hknown, hv, hfits⟩ := h
  obtain ⟨p, rfl⟩ : ∃ p, ty = .scalar p := by
    cases ty with
    | scalar p => exact ⟨p, rfl⟩
    | array p => exact absurd ⟨p, hn⟩ hscalar
    | unknown => exact absurd rfl hknown
  unfold performAssign
  refine Act.operand_ends hv hs (fun v s hv hs' hholds => ?_) fun f s hf hsound => ?_
  · have ho := Expr.evalAll_one_ok hv
    cases op with
    | plain =>
      refine Act.change_ends ((hs'.assign hn hfits hholds).mono (fun s' hs' => ?_) fun f hf => ?_)
      · obtain ⟨⟨b, w, hb, hty, hw, hwp, rfl⟩, -⟩ := hs'
        exact ⟨[v], s, n, _, _, ho, .assign hb hty hw hwp, rfl⟩
      · rcases hf with hf | hf
        · exact .of_unbound hf
        · exact .store ho (.inr (.inr ⟨v, by simp, hf⟩))
    | compound op =>
      obtain ⟨hp, hty⟩ := hfits
      cases hp
      rw [hty] at hholds
      obtain ⟨y, rfl⟩ := hholds.number
      refine ((assignedValue_ends hn hs').mono (fun _ _ h => h) fun f m' hf => ?_).bind
        fun v m' ⟨hm', x, r, hx, hr, hv⟩ => ?_
      · obtain ⟨rfl, hf | hf⟩ := hf
        · exact .of_unbound hf
        · exact .store ho (.inl hf)
      subst hv hm'
      refine Act.change_ends ((hs'.assign (v := .number r) hn (Ty.accepts_self .number)
        (.of_primitive rfl)).mono (fun s' hs' => ?_) fun f hf => ?_)
      · obtain ⟨⟨b, w, hb, -, hw, hwp, rfl⟩, -⟩ := hs'
        cases hw
        exact ⟨_, s, n, _, _, ho, .compound hx hr, rfl⟩
      · rcases hf with hf | hf
        · exact .of_unbound hf
        · cases hf
  · exact .operand (Expr.evalAll_one_error hf) hsound

theorem assignedElement_ends {n : String} {p : Primitive} {op : ArithOp} {i : Float} {v : Value}
    {source : Ty} (hn : Γ n = some (.array p)) (hs : m.store.Agrees Γ)
    (hfits : (AssignOp.compound op).FitsElement p source) (hv : source.Holds v) :
    Ends (assignedElement n i (.compound op) v m)
      (fun w m' => m' = m ∧ ∃ a old, m.store.find? n = some ⟨.array p, .array a⟩ ∧
        a.get i = .ok old ∧
        (p = .sentence ∧ op = .add ∧ w = .sentence (old.text ++ v.text) ∨
          p = .number ∧ ∃ y z r, old = .number y ∧ v = .number z ∧ op.apply y z = .ok r ∧
            w = .number r))
      (fun f m' => m' = m ∧ (Unbound m.store n f ∨ WriteFault [] f)) := by
  unfold assignedElement
  refine (Act.read_ends (Q := fun a m' => m' = m ∧ m.store.find? n = some ⟨.array p, .array a⟩ ∧
    a.Of p) ?_).bind fun a m' ⟨hm', ha, hof⟩ => ?_
  · exact (hs.array hn).mono (fun a ha => ⟨rfl, ha⟩) fun f hf => ⟨rfl, .inl hf⟩
  subst hm'
  refine (Act.lift_ends (Q := fun old m'' => m'' = m' ∧ a.get i = .ok old ∧ old.primitive = p) ?_).bind
    fun old m'' ⟨hm'', hget, hold⟩ => ?_
  · have hget := a.get_yields i
    refine ⟨fun {old} h => ⟨rfl, h, hof.2 old (hget.ok h)⟩, fun {f} h => ⟨rfl, .inr (.inr (.inl ?_))⟩⟩
    exact hget.error h
  subst hm''
  rw [hof.1]
  rcases hfits with ⟨rfl, rfl⟩ | ⟨rfl, rfl⟩
  · exact Ends.pure ⟨rfl, a, old, ha, hget, .inl ⟨rfl, rfl, rfl⟩⟩
  · cases old with
    | number y =>
      obtain ⟨z, rfl⟩ := hv.number
      refine (Act.lift_ends (Q := fun r m' => m' = m'' ∧ op.apply y z = .ok r)
        ((op.apply_yields y z).mono (fun r hr => ⟨rfl, hr⟩) fun f hf => ⟨rfl, .inr (.inl hf)⟩)).bind
        fun r m' ⟨hm', hr⟩ => ?_
      exact Ends.pure ⟨hm', a, _, ha, hget, .inr ⟨rfl, y, z, r, rfl, rfl, hr, rfl⟩⟩
    | letter | sentence | logic => cases hold

theorem performPush_ends {n : String} {value : Expr} (h : (Action.push n value).Typed Γ)
    (hs : m.store.Agrees Γ) :
    Ends (performPush n value m) (fun _ => Writes (.push n value) m)
      (WriteFails Γ (.push n value) m) := by
  obtain ⟨p, hn, hv, hfits⟩ := h
  unfold performPush
  refine Act.operand_ends hv hs (fun v s hv hs' hholds => ?_) fun f s hf hsound => ?_
  · have ho := Expr.evalAll_one_ok hv
    refine Act.eval_ends ((hs'.modifyArray hn fun a ha =>
      ArrayValue.push_makes ha hfits hholds).mono (fun _ s' hs' => ?_) fun f s' ⟨hs', hf⟩ => ?_)
    · obtain ⟨⟨a, b, ha, -, hb, hpush, rfl⟩, -⟩ := hs'
      exact ⟨[v], s, n, _, _, ho, .push ha hpush hb, rfl⟩
    · subst hs'
      rcases hf with hf | hf
      · exact .of_unbound hf
      · exact .store ho (.inr (.inr ⟨v, by simp, hf⟩))
  · exact .operand (Expr.evalAll_one_error hf) hsound

theorem performSet_ends {n : String} {idx value : Expr} (h : (Action.set n idx value).Typed Γ)
    (hs : m.store.Agrees Γ) :
    Ends (performSet n idx value m) (fun _ => Writes (.set n idx value) m)
      (WriteFails Γ (.set n idx value) m) := by
  obtain ⟨p, hn, ⟨hi, hity⟩, hv, hfits⟩ := h
  unfold performSet
  refine Act.index_ends hi hity hs (fun x s₁ hx hs₁ => ?_) fun f s hf hsound => ?_
  · refine Act.operand_ends hv hs₁ (fun v s hv hs' hholds => ?_) fun f s hf hsound => ?_
    · have ho := Expr.evalAll_two_ok hx hv
      refine Act.eval_ends ((hs'.modifyArray hn fun a ha =>
        ArrayValue.set_makes ha hfits hholds).mono (fun _ s' hs' => ?_) fun f s' ⟨hs', hf⟩ => ?_)
      · obtain ⟨⟨a, b, ha, -, hb, hset, rfl⟩, -⟩ := hs'
        exact ⟨_, s, n, _, _, ho, .set ha hset hb, rfl⟩
      · subst hs'
        rcases hf with hf | hf | hf
        · exact .of_unbound hf
        · exact .store ho (.inr (.inl hf))
        · exact .store ho (.inr (.inr ⟨v, by simp, hf⟩))
    · exact .operand (Expr.evalAll_two_second hx hf) hsound
  · exact .operand (Expr.evalAll_two_first hf) hsound

theorem changeElement_ends {n : String} {w : Scalar} {a : ArrayValue} {x : Float}
    (hn : Γ n = some (.array w.primitive)) (hs : m.store.Agrees Γ)
    (ha : m.store.find? n = some ⟨.array w.primitive, .array a⟩) :
    Ends (Act.eval (Store.modifyArray n (ArrayValue.set x (.scalar w))) m)
      (fun _ m' => ∃ b, a.IsSet x (.scalar w) b ∧ b.Of w.primitive ∧
        m' = { m with store := m.store.declare n (.array w.primitive) (.array b) })
      (fun f m' => m' = m ∧ (Unbound m.store n f ∨ f.isOfIndex = true)) := by
  refine Act.eval_ends ((hs.modifyArray hn fun a ha => ArrayValue.set_self_makes ha).mono
    (fun _ s' hs' => ?_) fun f s' ⟨hs', hf⟩ => ⟨by rw [hs'], hf⟩)
  obtain ⟨⟨a', b, ha', -, hb, hset, rfl⟩, -⟩ := hs'
  rw [ha] at ha'
  cases ha'
  exact ⟨b, hset, hb, rfl⟩

theorem performAssignElement_ends {n : String} {idx value : Expr} {op : AssignOp}
    (h : (Action.assignElement n idx op value).Typed Γ) (hs : m.store.Agrees Γ) :
    Ends (performAssignElement n idx op value m) (fun _ => Writes (.assignElement n idx op value) m)
      (WriteFails Γ (.assignElement n idx op value) m) := by
  obtain ⟨p, hn, ⟨hi, hity⟩, hv, hfits⟩ := h
  unfold performAssignElement
  refine Act.index_ends hi hity hs (fun x s₁ hx hs₁ => ?_) fun f s hf hsound => ?_
  · refine Act.operand_ends hv hs₁ (fun v s hv hs' hholds => ?_) fun f s hf hsound => ?_
    · have ho := Expr.evalAll_two_ok hx hv
      cases op with
      | plain =>
        refine Act.eval_ends ((hs'.modifyArray hn fun a ha =>
          ArrayValue.set_makes ha hfits hholds).mono (fun _ s' hs' => ?_) fun f s' ⟨hs', hf⟩ => ?_)
        · obtain ⟨⟨a, b, ha, -, hb, hset, rfl⟩, -⟩ := hs'
          exact ⟨_, s, n, _, _, ho, .assignElement ha hset hb, rfl⟩
        · subst hs'
          rcases hf with hf | hf | hf
          · exact .of_unbound hf
          · exact .store ho (.inr (.inl hf))
          · exact .store ho (.inr (.inr ⟨v, by simp, hf⟩))
      | compound op =>
        refine ((assignedElement_ends hn hs' hfits hholds).mono (fun _ _ h => h) fun f m' hf => ?_).bind
          fun w m' ⟨hm', a, old, ha, hget, hw⟩ => ?_
        · obtain ⟨rfl, hf | hf | hf | ⟨v, hv, -⟩⟩ := hf
          · exact .of_unbound hf
          · exact .store ho (.inl hf)
          · exact .store ho (.inr (.inl hf))
          · cases hv
        subst hm'
        rcases hw with ⟨rfl, rfl, rfl⟩ | ⟨rfl, y, z, r, rfl, rfl, hr, rfl⟩
        · refine (changeElement_ends (w := .sentence (old.text ++ v.text)) hn hs' ha).mono
            (fun _ m' hm' => ?_) fun f m' hf => ?_
          · obtain ⟨b, hset, hb, rfl⟩ := hm'
            exact ⟨_, s, n, _, _, ho, .addText ha hget hset hb, rfl⟩
          · obtain ⟨rfl, hf | hf⟩ := hf
            · exact .of_unbound hf
            · exact .store ho (.inr (.inl hf))
        · refine (changeElement_ends (w := .number r) hn hs' ha).mono
            (fun _ m' hm' => ?_) fun f m' hf => ?_
          · obtain ⟨b, hset, hb, rfl⟩ := hm'
            exact ⟨_, s, n, _, _, ho, .compoundElement ha hget hr hset hb, rfl⟩
          · obtain ⟨rfl, hf | hf⟩ := hf
            · exact .of_unbound hf
            · exact .store ho (.inr (.inl hf))
    · exact .operand (Expr.evalAll_two_second hx hf) hsound
  · exact .operand (Expr.evalAll_two_first hf) hsound

/-- An accepted assignment to an array as to a variable fails, and stores nothing. -/
theorem performAssign_array {n : String} {op : AssignOp} {value : Expr} {p : Primitive}
    (h : (Action.assign n op value).Typed Γ) (hn : Γ n = some (.array p)) (hs : m.store.Agrees Γ) :
    Ends (performAssign n op value m) (fun _ _ => False)
      (fun f m' => (∃ s, Expr.evalAll [value] m.store = .error f s ∧ f.Sound) ∨
        (∃ n, f = .undefinedVariable n) ∨
        ∃ vs s, Expr.evalAll [value] m.store = .ok vs s ∧
          f = .typeMismatch "scalar variable" (Ty.array p).text ∧ m' = { m with store := s }) := by
  obtain ⟨ty, hty, -, hv, hfits⟩ := h
  rw [hn] at hty
  cases hty
  unfold performAssign
  refine Act.operand_ends hv hs (fun v s hv hs' hholds => ?_) fun f s hf hsound => ?_
  · have ho := Expr.evalAll_one_ok hv
    cases op with
    | plain =>
      refine Act.change_ends ((hs'.assign_array hn).mono (fun _ h => h) fun f hf => ?_)
      rcases hf with hf | hf
      · exact .inr (.inl ⟨n, hf.1⟩)
      · exact .inr (.inr ⟨[v], s, ho, hf, rfl⟩)
    -- A compound assignment is accepted for a number only.
    | compound op => exact nomatch hfits.1
  · exact .inl ⟨s, Expr.evalAll_one_error hf, hsound⟩

/-- A typed write stores its value or fails as its operands or its storing do. -/
theorem Action.perform_writes {a : Action} (settings : Settings) (hw : a.isWrite = true)
    (h : a.Typed Γ) (hscalar : ¬a.AssignsArray Γ) (hs : m.store.Agrees Γ) :
    Ends (a.perform settings m) (fun _ => Writes a m) (WriteFails Γ a m) := by
  cases a with
  | declare => rw [perform]; exact performDeclare_ends h hs
  | assign => rw [perform]; exact performAssign_ends h hscalar hs
  | declareArray => rw [perform]; exact performDeclareArray_ends h hs
  | assignArray => rw [perform]; exact performAssignArray_ends h hs
  | assignElement => rw [perform]; exact performAssignElement_ends h hs
  | push => rw [perform]; exact performPush_ends h hs
  | set => rw [perform]; exact performSet_ends h hs
  | display | displayAll | input | inputElement | evaluate => cases hw

end

end Primer
