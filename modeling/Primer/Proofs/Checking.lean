import Primer.Check.Stmt

/-!
# A check as a function of the scopes

A check returns a result and leaves scopes that depend on the scopes alone. What it reports is added
to the reports before it, and whether there is anything to report does not depend on the line. So a
check is known from three functions of the scopes: `output`, `after` and `Accepts`.
-/

namespace Primer

namespace Check

variable {α β : Type}

/-- The result of a check in the given scopes. -/
def output (x : Check α) (t : ScopeTree) : α := (x ⟨t, [], none⟩).1

/-- The scopes that a check leaves. -/
def after (x : Check α) (t : ScopeTree) : ScopeTree := (x ⟨t, [], none⟩).2.scopes

/-- A check that has nothing to report in the given scopes. -/
def Accepts (x : Check α) (t : ScopeTree) : Prop := (x ⟨t, [], none⟩).2.diagnostics = []

/-- A check whose state enters by the scopes alone: the reports wait for the line and are added to
those before, and the line is restored. -/
class Uniform (x : Check α) : Prop where
  known : ∃ f : ScopeTree → α × ScopeTree × List (Option Line → Diagnostic), ∀ c,
    x c = ((f c.scopes).1,
      ⟨(f c.scopes).2.1, c.diagnostics ++ (f c.scopes).2.2.map (· c.line), c.line⟩)

theorem run_eq (x : Check α) [h : Uniform x] (c : Checker) :
    ∃ found : List (Option Line → Diagnostic),
      x c = (output x c.scopes,
        ⟨after x c.scopes, c.diagnostics ++ found.map (· c.line), c.line⟩) ∧
      (Accepts x c.scopes ↔ found = []) := by
  obtain ⟨f, hf⟩ := h.known
  refine ⟨(f c.scopes).2.2, ?_, ?_⟩
  · rw [output, after, hf, hf]
  · rw [Accepts, hf]
    simp

theorem scopes_run (x : Check α) [Uniform x] (c : Checker) : (x c).2.scopes = after x c.scopes := by
  obtain ⟨_, hx, _⟩ := run_eq x c
  rw [hx]

theorem line_run (x : Check α) [Uniform x] (c : Checker) : (x c).2.line = c.line := by
  obtain ⟨_, hx, _⟩ := run_eq x c
  rw [hx]

/-! ## Composition -/

section
variable (x : Check α) (f : α → Check β) [Uniform x] [hf : ∀ a, Uniform (f a)] (t : ScopeTree)

instance Uniform.pure (a : α) : Uniform (pure a : Check α) := by
  refine ⟨fun t => (a, t, []), fun c => ?_⟩
  show (a, c) = _
  simp

instance Uniform.bind : Uniform (x >>= f) := by
  obtain ⟨g, hg⟩ := Uniform.known (x := x)
  have next : ∃ k : α → ScopeTree → β × ScopeTree × List (Option Line → Diagnostic), ∀ a c,
      f a c = ((k a c.scopes).1,
        ⟨(k a c.scopes).2.1, c.diagnostics ++ (k a c.scopes).2.2.map (· c.line), c.line⟩) :=
    ⟨fun a => (hf a).known.choose, fun a => (hf a).known.choose_spec⟩
  obtain ⟨k, hk⟩ := next
  refine ⟨fun t => ((k (g t).1 (g t).2.1).1, (k (g t).1 (g t).2.1).2.1,
    (g t).2.2 ++ (k (g t).1 (g t).2.1).2.2), fun c => ?_⟩
  show f (x c).1 (x c).2 = _
  rw [hg, hk]
  simp

@[simp] theorem output_pure (a : α) : output (Pure.pure a) t = a := rfl

@[simp] theorem after_pure (a : α) : after (Pure.pure a) t = t := rfl

@[simp] theorem accepts_pure (a : α) : Accepts (Pure.pure a) t := rfl

@[simp] theorem output_bind : output (x >>= f) t = output (f (output x t)) (after x t) := by
  obtain ⟨found, hx, _⟩ := run_eq x ⟨t, [], none⟩
  show (f (x ⟨t, [], none⟩).1 (x ⟨t, [], none⟩).2).1 = _
  rw [hx]
  obtain ⟨_, hy, _⟩ := run_eq (f (output x t)) ⟨after x t, [] ++ found.map (· none), none⟩
  rw [hy]

@[simp] theorem after_bind : after (x >>= f) t = after (f (output x t)) (after x t) := by
  obtain ⟨found, hx, _⟩ := run_eq x ⟨t, [], none⟩
  show (f (x ⟨t, [], none⟩).1 (x ⟨t, [], none⟩).2).2.scopes = _
  rw [hx]
  obtain ⟨_, hy, _⟩ := run_eq (f (output x t)) ⟨after x t, [] ++ found.map (· none), none⟩
  rw [hy]

@[simp] theorem accepts_bind :
    Accepts (x >>= f) t ↔ Accepts x t ∧ Accepts (f (output x t)) (after x t) := by
  obtain ⟨found, hx, hfound⟩ := run_eq x ⟨t, [], none⟩
  show (f (x ⟨t, [], none⟩).1 (x ⟨t, [], none⟩).2).2.diagnostics = [] ↔ _
  rw [hx]
  obtain ⟨rest, hy, hrest⟩ := run_eq (f (output x t)) ⟨after x t, [] ++ found.map (· none), none⟩
  rw [hy, hfound, hrest]
  simp

variable (g : α → β)

instance Uniform.map : Uniform (g <$> x) := Uniform.bind x fun a => Pure.pure (g a)

@[simp] theorem output_map : output (g <$> x) t = g (output x t) :=
  output_bind x (fun a => Pure.pure (g a)) t

@[simp] theorem after_map : after (g <$> x) t = after x t :=
  after_bind x (fun a => Pure.pure (g a)) t

@[simp] theorem accepts_map : Accepts (g <$> x) t ↔ Accepts x t := by
  refine (accepts_bind x (fun a => Pure.pure (g a)) t).trans ?_
  simp

end

/-! ## Lines and scopes -/

section
variable (line : Option Line) (kind : ScopeKind) (x : Check α) (t : ScopeTree)

theorem onLine_run (c : Checker) :
    onLine line x c =
      ((x { c with line := line <|> c.line }).1,
        { (x { c with line := line <|> c.line }).2 with line := c.line }) := rfl

theorem inScope_run (c : Checker) :
    inScope kind x c =
      ((x { c with scopes := c.scopes.enter kind }).1,
        { (x { c with scopes := c.scopes.enter kind }).2 with
          scopes := (x { c with scopes := c.scopes.enter kind }).2.scopes.exit }) := rfl

@[simp] theorem output_inScope : output (inScope kind x) t = output x (t.enter kind) := rfl

@[simp] theorem after_inScope : after (inScope kind x) t = (after x (t.enter kind)).exit := rfl

@[simp] theorem accepts_inScope : Accepts (inScope kind x) t ↔ Accepts x (t.enter kind) := Iff.rfl

variable [h : Uniform x]

instance Uniform.onLine : Uniform (onLine line x) := by
  obtain ⟨f, hf⟩ := h.known
  refine ⟨fun t => ((f t).1, (f t).2.1, (f t).2.2.map fun d around => d (line <|> around)),
    fun c => ?_⟩
  rw [onLine_run, hf]
  simp [Function.comp_def]

instance Uniform.inScope : Uniform (inScope kind x) := by
  obtain ⟨f, hf⟩ := h.known
  refine ⟨fun t => ((f (t.enter kind)).1, (f (t.enter kind)).2.1.exit, (f (t.enter kind)).2.2),
    fun c => ?_⟩
  rw [inScope_run, hf]

@[simp] theorem output_onLine : output (onLine line x) t = output x t := by
  obtain ⟨_, hx, _⟩ := run_eq x ⟨t, [], line <|> none⟩
  rw [output, onLine_run, hx]

@[simp] theorem after_onLine : after (onLine line x) t = after x t := by
  obtain ⟨_, hx, _⟩ := run_eq x ⟨t, [], line <|> none⟩
  rw [after, onLine_run, hx]

@[simp] theorem accepts_onLine : Accepts (onLine line x) t ↔ Accepts x t := by
  obtain ⟨found, hx, hfound⟩ := run_eq x ⟨t, [], line <|> none⟩
  rw [Accepts, onLine_run, hx, hfound]
  simp

end

/-! ## The checks of a statement's parts -/

section
variable (problems : List Problem) (e : Expr) (problem : Ty → Problem) (a : Action) (j : Jump)
  (t : ScopeTree)

theorem report_run (c : Checker) : report problems c =
    ((), { c with diagnostics := c.diagnostics ++ problems.map (·.diagnostic c.line) }) := rfl

instance Uniform.report : Uniform (report problems) :=
  ⟨fun t => ((), t, problems.map fun p line => p.diagnostic line), fun c => by
    simp [report_run, Function.comp_def]⟩

theorem report_nil : report [] = pure () := by
  funext c
  rw [report_run, List.map_nil, List.append_nil]
  rfl

@[simp] theorem after_report : after (report problems) t = t := rfl

@[simp] theorem accepts_report : Accepts (report problems) t ↔ problems = [] := by
  show [] ++ problems.map (·.diagnostic none) = [] ↔ _
  simp

theorem expr_run (c : Checker) :
    expr e c = ((e.check c.scopes none).result, (report (e.check c.scopes none).problems c).2) := rfl

instance Uniform.expr : Uniform (expr e) :=
  ⟨fun t => ((e.check t none).result, t,
    (e.check t none).problems.map fun p line => p.diagnostic line), fun c => by
      rw [expr_run]
      simp [report_run, Function.comp_def]⟩

@[simp] theorem output_expr : output (expr e) t = (e.check t none).result := rfl

@[simp] theorem after_expr : after (expr e) t = t := rfl

@[simp] theorem accepts_expr : Accepts (expr e) t ↔ (e.check t none).problems = [] :=
  accepts_report _ t

theorem condition_eq : condition e problem = (do
    let e ← expr e
    report (if e.ty = .logic then [] else [problem e.ty])
    return e) := by
  unfold condition
  congr 1
  funext e
  by_cases h : e.ty = .logic
  · simp only [h, ne_eq, not_true_eq_false, if_true, if_false, report_nil, pure_bind]
  · simp only [h, ne_eq, not_false_eq_true, if_true, if_false]

instance Uniform.condition : Uniform (condition e problem) := by
  rw [condition_eq]
  infer_instance

@[simp] theorem output_condition :
    output (condition e problem) t = (e.check t none).result := by
  simp [condition_eq]

@[simp] theorem after_condition : after (condition e problem) t = t := by
  simp [condition_eq]

@[simp] theorem accepts_condition : Accepts (condition e problem) t ↔
    (e.check t none).problems = [] ∧ (e.check t none).ty = .logic := by
  rw [condition_eq, Checked.ty]
  by_cases h : (e.check t none).result.ty = .logic <;> simp [h]

theorem action_run (c : Checker) :
    action a c = ((a.check c.scopes).result,
      { (report (a.check c.scopes).problems c).2 with scopes := (a.check c.scopes).scopes }) := rfl

instance Uniform.action : Uniform (action a) :=
  ⟨fun t => ((a.check t).result, (a.check t).scopes,
    (a.check t).problems.map fun p line => p.diagnostic line), fun c => by
      rw [action_run]
      simp [report_run, Function.comp_def]⟩

@[simp] theorem output_action : output (action a) t = (a.check t).result := rfl

@[simp] theorem after_action : after (action a) t = (a.check t).scopes := rfl

@[simp] theorem accepts_action : Accepts (action a) t ↔ (a.check t).problems = [] :=
  accepts_report _ t

def jumpProblems (j : Jump) (t : ScopeTree) : List Problem :=
  if t.inLoop then [] else [.jumpOutsideLoop j]

theorem jump_run (c : Checker) : jump j c = report (jumpProblems j c.scopes) c := by
  show (if !c.scopes.inLoop then report [.jumpOutsideLoop j] else pure ()) c = _
  rw [jumpProblems]
  cases c.scopes.inLoop with
  | false => rfl
  | true => simp [report_nil]

instance Uniform.jump : Uniform (jump j) :=
  ⟨fun t => ((), t, (jumpProblems j t).map fun p line => p.diagnostic line), fun c => by
      rw [jump_run]
      simp [report_run, Function.comp_def]⟩

@[simp] theorem after_jump : after (jump j) t = t := by
  rw [after, jump_run]
  rfl

@[simp] theorem accepts_jump : Accepts (jump j) t ↔ t.inLoop = true := by
  rw [Accepts, jump_run]
  show Accepts (report _) t ↔ _
  rw [accepts_report, jumpProblems]
  simp

end

end Check

/-! ## Statements -/

namespace Stmt

open Check

theorem check_switch (line : Option Line) (scrutinee : Expr) (cases : List (Expr × List Stmt))
    (fallback : Option (List Stmt)) :
    check (.switch line scrutinee cases fallback) = Check.onLine line (do
      let scrutinee ← Check.expr scrutinee
      Check.report (if cases.isEmpty && fallback.isNone then [.emptySwitch] else [])
      Check.inScope .switch do
        let cases ← checkCases scrutinee.ty cases
        let fallback ← checkBody .defaultBody fallback
        return .switch line scrutinee cases fallback) := by
  simp only [check]
  cases cases.isEmpty && fallback.isNone with
  | false => simp only [Bool.false_eq_true, if_false, report_nil, pure_bind]
  | true => simp only [if_true]

mutual
theorem check_uniform : (s : Stmt) → Uniform s.check
  | .action _ _ => by
      simp only [check]
      infer_instance
  | .jump _ _ => by
      simp only [check]
      infer_instance
  | .branch _ _ body elseIfs otherwise => by
      have := checkAll_uniform body
      have := checkElseIfs_uniform elseIfs
      have := checkBody_uniform .elseBody otherwise
      simp only [check]
      infer_instance
  | .loop _ init _ update body => by
      have := checkOption_uniform init
      have := checkOption_uniform update
      have := checkAll_uniform body
      simp only [check]
      infer_instance
  | .doWhile _ body _ => by
      have := checkAll_uniform body
      simp only [check]
      infer_instance
  | .switch _ _ cases fallback => by
      have := fun ty => checkCases_uniform ty cases
      have := checkBody_uniform .defaultBody fallback
      simp only [check_switch]
      infer_instance

theorem checkOption_uniform : (s : Option Stmt) → Uniform (checkOption s)
  | none => by
      simp only [checkOption]
      infer_instance
  | some s => by
      have := check_uniform s
      simp only [checkOption]
      infer_instance

theorem checkAll_uniform : (body : List Stmt) → Uniform (checkAll body)
  | [] => by
      simp only [checkAll]
      infer_instance
  | s :: rest => by
      have := check_uniform s
      have := checkAll_uniform rest
      simp only [checkAll]
      infer_instance

theorem checkElseIfs_uniform : (arms : List (Expr × List Stmt)) → Uniform (checkElseIfs arms)
  | [] => by
      simp only [checkElseIfs]
      infer_instance
  | (_, body) :: rest => by
      have := checkAll_uniform body
      have := checkElseIfs_uniform rest
      simp only [checkElseIfs]
      infer_instance

theorem checkCases_uniform (switched : Ty) :
    (cases : List (Expr × List Stmt)) → Uniform (checkCases switched cases)
  | [] => by
      simp only [checkCases]
      infer_instance
  | (_, body) :: rest => by
      have := checkAll_uniform body
      have := checkCases_uniform switched rest
      simp only [checkCases]
      infer_instance

theorem checkBody_uniform (kind : ScopeKind) :
    (body : Option (List Stmt)) → Uniform (checkBody kind body)
  | none => by
      simp only [checkBody]
      infer_instance
  | some body => by
      have := checkAll_uniform body
      simp only [checkBody]
      infer_instance
end

instance (s : Stmt) : Uniform s.check := check_uniform s

instance (s : Option Stmt) : Uniform (checkOption s) := checkOption_uniform s

instance (body : List Stmt) : Uniform (checkAll body) := checkAll_uniform body

instance (arms : List (Expr × List Stmt)) : Uniform (checkElseIfs arms) :=
  checkElseIfs_uniform arms

instance (ty : Ty) (cases : List (Expr × List Stmt)) : Uniform (checkCases ty cases) :=
  checkCases_uniform ty cases

instance (kind : ScopeKind) (body : Option (List Stmt)) : Uniform (checkBody kind body) :=
  checkBody_uniform kind body

end Stmt

/-! ## Programs -/

namespace Program

theorem annotated_eq (p : Program) :
    p.annotated = ⟨Check.output (Stmt.checkAll p.stmts) .start⟩ := rfl

theorem accepts_iff (p : Program) :
    p.diagnostics = [] ↔ Check.Accepts (Stmt.checkAll p.stmts) .start := Iff.rfl

end Program

end Primer
