import Primer.Proofs.FailureSafety
import Primer.Proofs.Footprints

/-!
# Forms of writing

A value can be written in more than one form: a compound assignment is an assignment of an operation
on the old value, and an element is set by an assignment or by a call. The forms evaluate their
operands in different orders and read the old value at different times. They agree if no operand
changes what is written; the two forms of a plain write of an element agree always, and the check
does not tell them apart.
-/

namespace Primer

variable {α : Type}

/-! ## Ends of evaluations -/

/-- An evaluation that leaves every store ends in one of two ways. -/
theorem Eval.Still.ends {x : Eval α} (h : x.Still) (s : Store) :
    (∃ a, x s = .ok a s) ∨ ∃ f, x s = .error f s := by
  have hs := h s
  cases hx : x s with
  | ok a s' =>
    rw [hx] at hs
    cases hs
    exact .inl ⟨a, rfl⟩
  | error f s' =>
    rw [hx] at hs
    cases hs
    exact .inr ⟨f, rfl⟩

/-- An evaluation that comes to a conversion is an act that comes to it. -/
theorem Act.eval_lift {x : Eval α} {y : Except Fault α} {m : Machine} {s : Store}
    (h : x m.store = Eval.lift y s) : Act.eval x m = Act.lift y { m with store := s } := by
  cases y with
  | ok a => exact eval_ok h
  | error f => exact eval_error h

/-! ## Operations of compound assignments -/

section
variable {name : String} {op : ArithOp} {v : Value} {m : Machine}

/-- Operands that are converted one by one, as the binary operator converts them. -/
theorem ArithOp.apply_values (op : ArithOp) (a b : Value) :
    (do
      let x ← Act.lift a.toNumber
      let y ← Act.lift b.toNumber
      return .number (← Act.lift (op.apply x y))) = Act.lift ((BinaryOp.arith op).apply a b) := by
  unfold BinaryOp.apply
  cases a.toNumber with
  | error f => rfl
  | ok x =>
    cases b.toNumber with
    | error f => rfl
    | ok y =>
      show (do return .number (← Act.lift (op.apply x y)) : Act Value) =
        Act.lift (op.apply x y >>= fun n => pure (.number n))
      cases op.apply x y <;> rfl

/-- A compound assignment applies its operator to the value of the variable. -/
theorem assignedValue_compound :
    assignedValue name (.compound op) v = (do
      let current ← Act.read (·.get name)
      Act.lift ((BinaryOp.arith op).apply current v)) :=
  bind_congr fun current => op.apply_values current v

/-- The element of an array in a store. -/
def Store.element (s : Store) (name : String) (n : Float) : Except Fault Scalar :=
  s.array name >>= fun a => a.get n

/-- In an array of numbers, a compound assignment of an element applies its operator to it. -/
theorem assignedElement_compound (n : Float) (op : ArithOp) (v : Value)
    (h : ∀ a, m.store.array name = .ok a → a.elem = .number) :
    assignedElement name n (.compound op) v m =
      Act.lift (m.store.element name n >>= fun c => (BinaryOp.arith op).apply (.scalar c) v) m := by
  simp only [assignedElement, Store.element]
  cases ha : m.store.array name with
  | error f =>
    rw [Ends.run_bind_error (Act.read_error ha)]
    rfl
  | ok a =>
    have hjoin : ¬(a.elem = .sentence ∧ op = .add) := by
      rw [h a ha]
      rintro ⟨⟨⟩, -⟩
    rw [Ends.run_bind_ok (Act.read_ok ha)]
    show (Act.lift (a.get n) >>= _) m = Act.lift (a.get n >>= _) m
    cases a.get n with
    | error f => rfl
    | ok c =>
      simp only [Act.lift_ok, pure_bind, if_neg hjoin]
      exact congrFun (op.apply_values (.scalar c) v) m

end

/-! ## Variables -/

/-- A number variable holds a number. -/
theorem Ty.Admits.of_number {v : Value} (h : Ty.number.Admits v) : ∃ n, v = .number n := by
  generalize hty : Ty.number = ty at h
  cases h with
  | scalar w =>
    cases w with
    | number n => exact ⟨n, rfl⟩
    | letter | sentence | logic => cases hty
  | array | logicText | arrayText => cases hty

/-- A number that no move steps is still there behind the moves. -/
theorem Store.MovedBy.get_number {s s' : Store} {moves : List Move} {x : String} {b : Binding}
    {n : Float} (h : s.MovedBy moves s') (hb : s.find? x = some b) (hn : b.value = .number n)
    (hstep : .step x ∉ moves) : s'.get x = .ok (.number n) := by
  have hty := h.types x
  rw [hb, Option.map_some, Option.map_eq_some_iff] at hty
  obtain ⟨b', hb', -⟩ := hty
  rw [Store.get_found hb']
  cases h.values x b b' hb hb' with
  | same hv => rw [hv, hn]
  | stepped hmem => exact absurd hmem hstep
  | popped _ ha =>
    rw [hn] at ha
    cases ha

section
variable {m : Machine} {x : String} {b : Binding} {op : ArithOp} {e : Expr} {was was' : Ty}
variable (hs : m.store.WellTyped) (hb : m.store.find? x = some b) (hty : b.ty = .number)
variable (hstep : .step x ∉ e.moves)
include hs hb hty hstep

/-- An operation on a variable may read it behind the other operand, if that does not step it. -/
theorem Act.eval_operation :
    Act.eval (Expr.binary was (.arith op) (.var was' x) e).eval m = (do
      let v ← Act.eval e.eval
      let current ← Act.read (·.get x)
      Act.lift ((BinaryOp.arith op).apply current v)) m := by
  obtain ⟨n, hn⟩ := (hty ▸ hs x b hb : Ty.number.Admits b.value).of_number
  have hmoved : m.store.MovedBy e.moves (stateOf (e.eval m.store)) :=
    .of_makes (e.eval_makes m.store)
  have hfirst : (Expr.binary was (.arith op) (.var was' x) e).eval m.store = (do
      let v ← e.eval
      Eval.lift ((BinaryOp.arith op).apply (.number n) v)) m.store := by
    rw [Expr.eval, Expr.eval, Ends.run_bind_ok (Eval.get_found hb), hn]
  -- the operation has read the variable first, and the operand leaves what was read
  cases he : e.eval m.store with
  | error f s =>
    rw [Ends.run_bind_error he] at hfirst
    rw [Act.eval_error hfirst, Ends.run_bind_error (Act.eval_error he)]
  | ok v s =>
    rw [Ends.run_bind_ok he] at hfirst
    rw [he] at hmoved
    have hread : Act.read (·.get x) { m with store := s } = .ok (.number n) { m with store := s } :=
      Act.read_ok (hmoved.get_number hb hn hstep)
    rw [Act.eval_lift hfirst, Ends.run_bind_ok (Act.eval_ok he), Ends.run_bind_ok hread]

theorem performAssign_compound :
    performAssign x (.compound op) e m =
      performAssign x .plain (.binary was (.arith op) (.var was' x) e) m := by
  have hleft : performAssign x (.compound op) e = (do
      let v ← Act.eval e.eval
      let current ← Act.read (·.get x)
      Act.lift ((BinaryOp.arith op).apply current v)) >>= fun w => Act.change (·.assign x w) := by
    simp only [performAssign, assignedValue_compound, bind_assoc]
  rw [hleft, Ends.bind_left (Act.eval_operation hs hb hty hstep).symm]
  rfl

end

/-! ## Elements -/

section
variable {m : Machine} {xs : String} {n : Float} {op : ArithOp} {i e : Expr} {was was' : Ty}

/-- An operation on an element, with the index evaluated. -/
theorem Expr.eval_elementOperation (xs : String) (op : ArithOp) (e : Expr) (was was' : Ty)
    {s : Store} (h : i.evalNumber s = .ok n s) :
    (Expr.binary was (.arith op) (.index was' xs i) e).eval s = (do
      let c ← Eval.lift (s.element xs n)
      let v ← e.eval
      Eval.lift ((BinaryOp.arith op).apply (.scalar c) v)) s := by
  have hindex : (Expr.binary was (.arith op) (.index was' xs i) e).eval = (do
      let n ← i.evalNumber
      let a ← Eval.read (·.array xs)
      let c ← Eval.lift (a.get n)
      let v ← e.eval
      Eval.lift ((BinaryOp.arith op).apply (.scalar c) v)) := by
    simp only [eval, evalNumber, bind_assoc, pure_bind]
  rw [hindex, Ends.run_bind_ok h, Store.element]
  show (Eval.lift (s.array xs) >>= _) s = _
  cases s.array xs <;> rfl

/-- Two acts that make the same of a machine, or fail both and leave it. -/
def Act.Alike (x y : Act α) (m : Machine) : Prop :=
  x m = y m ∨ ∃ f g, x m = .error f m ∧ y m = .error g m

/-- A compound assignment to an element, and the element set to the operation: one evaluates the
value in front of the element, the other behind it. -/
theorem performElement_alike (hi : i.Effectless) (he : e.Effectless)
    (hnumbers : ∀ a, m.store.array xs = .ok a → a.elem = .number) :
    Act.Alike (performAssignElement xs i (.compound op) e)
      (performSet xs i (.binary was (.arith op) (.index was' xs i) e)) m := by
  rw [Act.Alike, performAssignElement, performSet]
  rcases (Expr.evalNumber_still hi).ends m.store with ⟨n, hn⟩ | ⟨f, hn⟩
  · rw [Ends.run_bind_ok (Act.eval_ok hn), Ends.run_bind_ok (Act.eval_ok hn)]
    have hset := Expr.eval_elementOperation xs op e was was' hn
    have hassigned v := assignedElement_compound n op v hnumbers
    cases hc : m.store.element xs n with
    | error g =>
      -- no element: the long form fails at it before the value is evaluated, the short one behind
      simp only [hc] at hset hassigned
      rw [Ends.run_bind_error (Act.eval_error hset)]
      rcases (e.eval_still he).ends m.store with ⟨v, hv⟩ | ⟨f, hv⟩
      · rw [Ends.run_bind_ok (Act.eval_ok hv), Ends.run_bind_error (hassigned v)]
        exact .inl rfl
      · rw [Ends.run_bind_error (Act.eval_error hv)]
        exact .inr ⟨f, g, rfl, rfl⟩
    | ok c =>
      simp only [hc] at hassigned
      have hset : (Expr.binary was (.arith op) (.index was' xs i) e).eval m.store = (do
          let v ← e.eval
          Eval.lift ((BinaryOp.arith op).apply (.scalar c) v)) m.store := by
        rw [hset, hc]
        rfl
      rcases (e.eval_still he).ends m.store with ⟨v, hv⟩ | ⟨f, hv⟩
      · have hoperation := Act.eval_lift (hset.trans (Ends.run_bind_ok hv))
        rw [Ends.run_bind_ok (Act.eval_ok hv)]
        exact .inl (Ends.bind_left ((hassigned v).trans hoperation.symm))
      · have hoperation := Act.eval_error (hset.trans (Ends.run_bind_error hv))
        rw [Ends.run_bind_error (Act.eval_error hv), Ends.run_bind_error hoperation]
        exact .inl rfl
  · rw [Ends.run_bind_error (Act.eval_error hn), Ends.run_bind_error (Act.eval_error hn)]
    exact .inl rfl

/-- What a name of an array holds has the declared element type, if it is an array. -/
theorem Store.WellTyped.elem_eq {s : Store} {b : Binding} {p : Primitive} (hs : s.WellTyped)
    (hb : s.find? xs = some b) (hty : b.ty = .array p) : ∀ a, s.array xs = .ok a → a.elem = p := by
  intro a ha
  obtain ⟨b', hb', hvalue⟩ := Store.array_ok ha
  rw [hb] at hb'
  cases hb'
  have hadmits := hs xs b hb
  rw [hty, hvalue] at hadmits
  cases hadmits with
  | array ha => exact ha.1

end

/-! ## Checks -/

/-- What an element is set to and what is assigned to it are judged alike. -/
theorem setProblems_clean_iff {elem : Primitive} {source : Ty} :
    setProblems elem source = [] ↔ elementProblems elem .plain source = [] := by
  unfold setProblems elementProblems
  split <;> simp

theorem checkElement_clean_congr {t : ScopeTree} {name : String} {idx value : Expr}
    {build build' : Expr → Expr → Action} {found found' : Primitive → Ty → List Problem}
    (h : ∀ elem ty, found elem ty = [] ↔ found' elem ty = []) :
    (checkElement t name idx value build found).problems = [] ↔
      (checkElement t name idx value build' found').problems = [] := by
  unfold checkElement
  rcases t.useArray name with ⟨_ | elem, used⟩
  · rfl
  · simp only [CheckedAction.unchanged, judge_clean_iff, h]

/-! ## Statements -/

namespace Stmt

variable {settings : Settings} {limit : Nat} {line : Option Line} {a b : Action} {m : Machine}

theorem exec_action_congr (h : a.perform settings m = b.perform settings m) :
    (action line a).exec settings limit m = (action line b).exec settings limit m := by
  rw [exec_action_eq, exec_action_eq, h]

theorem accepts_action {t : ScopeTree} :
    Check.Accepts (action line a).check t ↔ (a.check t).problems = [] := by
  simp [check]

/-- The forms of writing agree. A compound assignment to a number variable is the assignment of the
operation, result and store alike, if the operand does not step the variable. A compound assignment
to an element of an array of numbers succeeds exactly if setting the element to the operation does,
and leaves the same, if neither operand has a step or a pop in it. Setting an element is assigning to
it, in every state and in every scope. -/
theorem write_forms_agree (settings : Settings) (limit : Nat) (line : Option Line) (m : Machine) :
    (∀ x b op e was was', m.store.WellTyped → m.store.find? x = some b → b.ty = .number →
      .step x ∉ e.moves →
      (action line (.assign x (.compound op) e)).exec settings limit m =
        (action line (.assign x .plain (.binary was (.arith op) (.var was' x) e))).exec
          settings limit m) ∧
    (∀ xs b op i e was was', m.store.WellTyped → m.store.find? xs = some b → b.ty = .array .number →
      i.Effectless → e.Effectless →
      let short := (action line (.assignElement xs i (.compound op) e)).exec settings limit m
      let long := (action line (.set xs i (.binary was (.arith op) (.index was' xs i) e))).exec
        settings limit m
      (∀ signal m', short = .ok signal m' ↔ long = .ok signal m') ∧ stateOf short = stateOf long) ∧
    ∀ xs i e,
      (action line (.set xs i e)).exec settings limit m =
        (action line (.assignElement xs i .plain e)).exec settings limit m ∧
      ∀ t, Check.Accepts (action line (.set xs i e)).check t ↔
        Check.Accepts (action line (.assignElement xs i .plain e)).check t := by
  refine ⟨fun x b op e was was' hs hb hty hstep => ?_,
    fun xs b op i e was was' hs hb hty hi he => ?_, fun xs i e => ⟨rfl, fun t => ?_⟩⟩
  · exact exec_action_congr (performAssign_compound hs hb hty hstep)
  · simp only [exec_action_eq]
    have halike : Act.Alike (performAssignElement xs i (.compound op) e)
        (performSet xs i (.binary was (.arith op) (.index was' xs i) e)) m :=
      performElement_alike hi he (hs.elem_eq hb hty)
    rw [Action.perform, Action.perform]
    rcases halike with h | ⟨f, g, hf, hg⟩
    · rw [h]
      exact ⟨fun _ _ => Iff.rfl, rfl⟩
    · rw [hf, hg]
      refine ⟨fun signal m' => ⟨fun h => ?_, fun h => ?_⟩, rfl⟩ <;> cases h
  · rw [accepts_action, accepts_action]
    exact checkElement_clean_congr fun _ _ => setProblems_clean_iff

/-- A machine with a number and an array of numbers. -/
def tallied : Machine where
  store := (Store.empty.declare "x" .number (.number 1.0)).declare "xs" (.array .number)
    (.array ⟨.number, #[.number 3.0, .number 5.0]⟩)
  frames := []
  console := .scripted []

theorem tallied_wellTyped : tallied.store.WellTyped := by
  refine (Store.WellTyped.empty.declare "x" (.scalar (.number 1.0))).declare "xs" (.array ⟨rfl, ?_⟩)
  decide

/-- An element that is multiplied by the length of its array. -/
def scaledElement : Action :=
  .assignElement "xs" (.var .unknown "x") (.compound .mul) (.length .unknown "xs")

/-- The same with the element written out. -/
def setElement : Action :=
  .set "xs" (.var .unknown "x")
    (.binary .unknown (.arith .mul) (.index .unknown "xs" (.var .unknown "x"))
      (.length .unknown "xs"))

theorem tallied_forms_agree :
    tallied.store.WellTyped ∧ tallied.store.find? "x" = some ⟨.number, .number 1.0⟩ ∧
    .step "x" ∉ (Expr.pop .unknown "xs").moves ∧
    (action none (.assign "x" (.compound .add) (.pop .unknown "xs"))).exec .default 10 tallied =
      (action none (.assign "x" .plain
        (.binary .unknown (.arith .add) (.var .unknown "x") (.pop .unknown "xs")))).exec
          .default 10 tallied ∧
    (Expr.var .unknown "x").Effectless ∧ (Expr.length .unknown "xs").Effectless ∧
    ∃ m', (action none setElement).exec .default 10 tallied = .ok .normal m' ∧
      (action none scaledElement).exec .default 10 tallied = .ok .normal m' := by
  obtain ⟨hvariable, helement, -⟩ := write_forms_agree .default 10 none tallied
  have hx : (Expr.var .unknown "x").Effectless := List.forall_mem_singleton.mpr rfl
  have hlength : (Expr.length .unknown "xs").Effectless := List.forall_mem_singleton.mpr rfl
  have hforms := helement "xs" _ .mul _ _ .unknown .unknown tallied_wellTyped rfl rfl hx hlength
  refine ⟨tallied_wellTyped, rfl, by decide, ?_, hx, hlength, _, rfl, (hforms.1 _ _).mpr rfl⟩
  exact hvariable "x" _ .add _ _ _ tallied_wellTyped rfl rfl (by decide)

end Stmt

end Primer
