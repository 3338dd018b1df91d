import Primer.Proofs.Typing

/-!
# What a check reports

The diagnostics of a check, on the line and in the scopes in which it starts: those of its parts in
their order. No problem of an expression or of an action is that of a jump.
-/

namespace Primer

namespace Check

variable {α β : Type}

/-- What a check reports in the given scopes, for a statement on the given line. -/
def reported (x : Check α) (line : Option Line) (t : ScopeTree) : List Diagnostic :=
  (x ⟨t, [], line⟩).2.diagnostics

section
variable (x : Check α) (line : Option Line) (t : ScopeTree)

@[simp] theorem reported_pure (a : α) : reported (Pure.pure a) line t = [] := rfl

@[simp] theorem reported_onLine (own : Option Line) :
    reported (onLine own x) line t = reported x (own <|> line) t := by
  rw [reported, onLine_run]
  rfl

@[simp] theorem reported_inScope (kind : ScopeKind) :
    reported (inScope kind x) line t = reported x line (t.enter kind) := rfl

end

section
variable (x : Check α) (f : α → Check β) (g : α → β) [Uniform x] [∀ a, Uniform (f a)]
  (line : Option Line) (t : ScopeTree)

/-- What is reported comes behind what was reported before. -/
theorem diagnostics_run (c : Checker) :
    (x c).2.diagnostics = c.diagnostics ++ reported x c.line c.scopes := by
  obtain ⟨h, hknown⟩ := Uniform.known (x := x)
  rw [reported, hknown, hknown]
  simp

@[simp] theorem reported_bind : reported (x >>= f) line t =
    reported x line t ++ reported (f (output x t)) line (after x t) := by
  obtain ⟨found, hx, -⟩ := run_eq x ⟨t, [], line⟩
  show (f (x ⟨t, [], line⟩).1 (x ⟨t, [], line⟩).2).2.diagnostics = _
  rw [diagnostics_run, hx]
  simp only [reported, hx]

@[simp] theorem reported_map : reported (g <$> x) line t = reported x line t := by
  have h := reported_bind x (fun a => Pure.pure (g a)) line t
  rw [reported_pure, List.append_nil] at h
  exact h

end

section
variable (problems : List Problem) (e : Expr) (problem : Ty → Problem) (a : Action) (j : Jump)
  (line : Option Line) (t : ScopeTree)

@[simp] theorem reported_report :
    reported (report problems) line t = problems.map (·.diagnostic line) := rfl

@[simp] theorem reported_expr :
    reported (expr e) line t = (e.check t none).problems.map (·.diagnostic line) := rfl

@[simp] theorem reported_condition : reported (condition e problem) line t =
    ((e.check t none).problems ++
      if (e.check t none).ty = .logic then [] else [problem (e.check t none).ty]).map
        (·.diagnostic line) := by
  rw [condition_eq, Checked.ty]
  by_cases h : (e.check t none).result.ty = .logic <;> simp [h]

@[simp] theorem reported_action :
    reported (action a) line t = (a.check t).problems.map (·.diagnostic line) := rfl

@[simp] theorem reported_jump :
    reported (jump j) line t = (jumpProblems j t).map (·.diagnostic line) := by
  rw [reported, jump_run]
  rfl

end

end Check

theorem Program.diagnostics_eq (p : Program) :
    p.diagnostics = Check.reported (Stmt.checkAll p.stmts) none .start := rfl

/-! ## Problems that are not those of a jump -/

theorem Problem.code_eq_jump (p : Problem) : p.code = .jump ↔ ∃ j, p = .jumpOutsideLoop j := by
  cases p <;> simp [code]

/-- Problems none of which is that of a jump. -/
def Jumpless (problems : List Problem) : Prop := ∀ p ∈ problems, p.code ≠ .jump

namespace Jumpless

variable {problems more : List Problem} {p : Problem}

@[simp] theorem nil : Jumpless [] := List.forall_mem_nil _

@[simp] theorem cons : Jumpless (p :: problems) ↔ p.code ≠ .jump ∧ Jumpless problems :=
  List.forall_mem_cons

@[simp] theorem append : Jumpless (problems ++ more) ↔ Jumpless problems ∧ Jumpless more :=
  List.forall_mem_append

@[simp] theorem ite {c : Prop} [Decidable c] :
    Jumpless (if c then problems else more) ↔ (c → Jumpless problems) ∧ (¬c → Jumpless more) := by
  split <;> simp [*]

end Jumpless

theorem ScopeTree.use_jumpless (t : ScopeTree) (name : String) : Jumpless (t.use name).2 := by
  unfold use
  split <;> simp [Problem.code_eq_jump]

theorem ScopeTree.useArray_jumpless (t : ScopeTree) (name : String) :
    Jumpless (t.useArray name).2 := by
  unfold useArray
  repeat' split
  all_goals simp [Problem.code_eq_jump]

theorem BinaryOp.operandProblems_jumpless (op : BinaryOp) (l r : Ty) :
    Jumpless (op.operandProblems l r) := by
  cases op <;> simp [operandProblems, Problem.code_eq_jump]

theorem UnaryOp.operandProblems_jumpless (op : UnaryOp) (got : Ty) :
    Jumpless (op.operandProblems got) := by
  cases op <;> simp [operandProblems, Problem.code_eq_jump]

theorem indexProblems_jumpless (got : Ty) : Jumpless (indexProblems got) := by
  simp [indexProblems, Problem.code_eq_jump]

theorem sizeProblems_jumpless (got : Ty) : Jumpless (sizeProblems got) := by
  simp [sizeProblems, Problem.code_eq_jump]

theorem literalTy_jumpless (hint : Option Primitive) (first : Option Ty) :
    Jumpless (literalTy hint first).2 := by
  unfold literalTy
  repeat' split
  all_goals simp [Problem.code_eq_jump]

theorem CheckedElems.literal_jumpless {c : CheckedElems} (h : Jumpless c.problems)
    (hint : Option Primitive) : Jumpless (c.literal hint).problems := by
  unfold literal
  split
  · exact literalTy_jumpless hint c.first
  · exact h

namespace Expr

mutual
theorem check_jumpless (t : ScopeTree) : (hint : Option Primitive) → (e : Expr) →
    Jumpless (e.check t hint).problems
  | _, .lit _ raw => by
      rw [check]
      split <;> simp [Problem.code_eq_jump]
  | _, .var _ name => by
      rw [check]
      exact t.use_jumpless name
  | _, .binary _ op left right => by
      rw [check]
      split
      · exact op.operandProblems_jumpless _ _
      · exact Jumpless.append.mpr ⟨check_jumpless t none left, check_jumpless t none right⟩
  | _, .unary _ op operand => by
      rw [check]
      split
      · exact op.operandProblems_jumpless _
      · exact check_jumpless t none operand
  | _, .step _ name op fixity => by
      rw [check]
      split <;> simp [Problem.code_eq_jump]
  | hint, .arrayOf _ elems => by
      rw [check]
      exact CheckedElems.literal_jumpless (checkElems_jumpless t none elems) hint
  | _, .newArray _ elem size => by
      rw [check]
      simp [Problem.code_eq_jump, check_jumpless t none size, sizeProblems_jumpless]
  | _, .index _ name idx => by
      rw [check]
      have huse := t.useArray_jumpless name
      generalize t.useArray name = used at huse ⊢
      obtain ⟨_ | elem, problems⟩ := used
      · exact huse
      · simp [show Jumpless problems from huse, check_jumpless t none idx, indexProblems_jumpless]
  | _, .length _ name => by
      rw [check]
      have huse := t.useArray_jumpless name
      generalize t.useArray name = used at huse ⊢
      obtain ⟨_ | elem, problems⟩ := used
      · exact huse
      · exact huse
  | _, .pop _ name => by
      rw [check]
      have huse := t.useArray_jumpless name
      generalize t.useArray name = used at huse ⊢
      obtain ⟨_ | elem, problems⟩ := used
      · exact huse
      · exact huse

theorem checkElems_jumpless (t : ScopeTree) : (first : Option Ty) → (elems : List Expr) →
    Jumpless (checkElems t first elems).problems
  | _, [] => by
      rw [checkElems]
      exact .nil
  | first, e :: rest => by
      have he := check_jumpless t none e
      cases first with
      | none =>
        rw [checkElems]
        split
        · exact Jumpless.append.mpr ⟨he, checkElems_jumpless t none rest⟩
        · exact Jumpless.append.mpr ⟨he, checkElems_jumpless t _ rest⟩
      | some expected =>
        rw [checkElems]
        split
        · exact Jumpless.append.mpr ⟨he, checkElems_jumpless t (some expected) rest⟩
        · split
          · exact Jumpless.append.mpr ⟨he, checkElems_jumpless t (some expected) rest⟩
          · simp [he, Problem.code_eq_jump]
end

end Expr

/-! ## Actions -/

theorem judge_jumpless {before found : List Problem} {ty : Ty} (h : Jumpless before)
    (h' : Jumpless found) : Jumpless (judge before ty found) := by
  unfold judge
  split
  · exact Jumpless.append.mpr ⟨h, h'⟩
  · exact h

section
variable (t : ScopeTree) (name : String) (e idx : Expr)

theorem checkDeclare_jumpless (ty : String) (init : Option Expr) :
    Jumpless (checkDeclare t ty name init).problems := by
  have hnamed : Jumpless (variableNameProblems t name) := by
    simp [variableNameProblems, Problem.code_eq_jump]
  unfold checkDeclare
  split
  · simp [CheckedAction.unchanged, Problem.code_eq_jump]
  · cases init with
    | none => exact hnamed
    | some e =>
      refine judge_jumpless (Jumpless.append.mpr ⟨hnamed, e.check_jumpless t none⟩) ?_
      simp [Problem.code_eq_jump]

theorem checkDeclareArray_jumpless (elem : String) (init : Option Expr) :
    Jumpless (checkDeclareArray t elem name init).problems := by
  have hnamed : Jumpless (arrayNameProblems t name) := by simp [arrayNameProblems, Problem.code_eq_jump]
  unfold checkDeclareArray
  split
  · simp [CheckedAction.unchanged, Problem.code_eq_jump]
  · next p _ =>
    cases init with
    | none => exact hnamed
    | some e =>
      refine judge_jumpless (Jumpless.append.mpr ⟨hnamed, e.check_jumpless t (some p)⟩) ?_
      unfold arrayInitProblems
      split <;> simp [Problem.code_eq_jump]

theorem checkAssign_jumpless (op : AssignOp) : Jumpless (checkAssign t name op e).problems := by
  unfold checkAssign
  split
  · simp [CheckedAction.unchanged, Problem.code_eq_jump]
  · refine judge_jumpless (e.check_jumpless t none) ?_
    cases op <;> simp [assignProblems, Problem.code_eq_jump]

theorem checkAssignArray_jumpless : Jumpless (checkAssignArray t name e).problems := by
  unfold checkAssignArray
  split
  · simp [CheckedAction.unchanged, Problem.code_eq_jump]
  · split
    · simp [CheckedAction.unchanged, Problem.code_eq_jump]
    · refine judge_jumpless (e.check_jumpless t _) ?_
      simp [arrayAssignProblems, Problem.code_eq_jump]

theorem elementProblems_jumpless (elem : Primitive) (op : AssignOp) (source : Ty) :
    Jumpless (elementProblems elem op source) := by
  unfold elementProblems
  repeat' split
  all_goals simp [Problem.code_eq_jump]

theorem checkElement_jumpless (build : Expr → Expr → Action) {found : Primitive → Ty → List Problem}
    (hfound : ∀ elem ty, Jumpless (found elem ty)) :
    Jumpless (checkElement t name idx e build found).problems := by
  unfold checkElement
  have huse := t.useArray_jumpless name
  generalize t.useArray name = used at huse ⊢
  obtain ⟨_ | elem, problems⟩ := used
  · exact huse
  · refine judge_jumpless ?_ (hfound elem _)
    simp [show Jumpless problems from huse, idx.check_jumpless t none, e.check_jumpless t none,
      indexProblems_jumpless]

theorem checkPush_jumpless : Jumpless (checkPush t name e).problems := by
  unfold checkPush
  have huse := t.useArray_jumpless name
  generalize t.useArray name = used at huse ⊢
  obtain ⟨_ | elem, problems⟩ := used
  · exact huse
  · refine judge_jumpless (Jumpless.append.mpr ⟨huse, e.check_jumpless t none⟩) ?_
    simp [pushProblems, Problem.code_eq_jump]

theorem checkInputElement_jumpless : Jumpless (checkInputElement t name idx).problems := by
  unfold checkInputElement
  have huse := t.useArray_jumpless name
  generalize t.useArray name = used at huse ⊢
  obtain ⟨_ | elem, problems⟩ := used
  · exact huse
  · simp [CheckedAction.unchanged, show Jumpless problems from huse, idx.check_jumpless t none,
      indexProblems_jumpless]

theorem displayLiteral_jumpless (raw : String) : Jumpless (displayLiteralProblems raw) := by
  unfold displayLiteralProblems
  split <;> simp [Problem.code_eq_jump]

theorem displayItem_jumpless (form : DisplayForm) (item : DisplayItem) :
    Jumpless (item.check t form).2 := by
  cases item with
  | expr e => exact e.check_jumpless t none
  | named name =>
    simp only [DisplayItem.check]
    split <;> simp [Problem.code_eq_jump]
  | literal raw => exact displayLiteral_jumpless raw

theorem Action.check_jumpless (a : Action) : Jumpless (a.check t).problems := by
  cases a with
  | declare ty name init => exact checkDeclare_jumpless t name ty init
  | assign name op value => exact checkAssign_jumpless t name value op
  | display item newline =>
    cases item with
    | none => simp [check, CheckedAction.unchanged, Problem.code_eq_jump]
    | some item => exact displayItem_jumpless t .single item
  | displayAll items newline =>
    refine Jumpless.append.mpr ⟨by simp [Problem.code_eq_jump], fun p hp => ?_⟩
    obtain ⟨checked, hchecked, hp⟩ := List.mem_flatMap.mp hp
    obtain ⟨item, -, rfl⟩ := List.mem_map.mp hchecked
    exact displayItem_jumpless t .multi item p hp
  | input name =>
    simp only [check, CheckedAction.ifClean, inputProblems]
    split <;> simp [Problem.code_eq_jump]
  | declareArray elem name init => exact checkDeclareArray_jumpless t name elem init
  | assignArray name value => exact checkAssignArray_jumpless t name value
  | assignElement name idx op value =>
    exact checkElement_jumpless t name value idx _ fun elem ty => elementProblems_jumpless elem op ty
  | inputElement name idx => exact checkInputElement_jumpless t name idx
  | push name value => exact checkPush_jumpless t name value
  | set name idx value =>
    refine checkElement_jumpless t name value idx _ fun elem ty => ?_
    simp [setProblems, Problem.code_eq_jump]
  | evaluate e => exact e.check_jumpless t none

end

end Primer
