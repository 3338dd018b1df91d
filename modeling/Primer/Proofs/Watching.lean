import Primer.Proofs.Checking
import Primer.Run.Exec

/-!
# Watched executions

An execution performs actions and evaluates expressions, and each of these belongs to a place of the
program that was checked in some scopes. A watched execution is an execution with the list of its
visits: what it performs or evaluates, in which scopes that was checked, and on which machine. The
execution in it is the one of the program with the types that the check found.
-/

namespace Primer

/-! ## Visits -/

/-- What an execution does in one go. -/
inductive Piece where
  | action (a : Action)
  | value (e : Expr)
  | condition (e : Expr)

/-- A piece that an execution comes to, the scopes in which it was checked, and the machine in front
of it. -/
structure Visit where
  scopes : ScopeTree
  piece : Piece
  machine : Machine

/-- An execution and its visits, which depend on the machine before it. -/
structure Watched (α : Type) where
  run : Exec α
  visits : Machine → List Visit

namespace Watched

variable {α β : Type}

instance : Monad Watched where
  pure a := ⟨pure a, fun _ => []⟩
  bind x f := ⟨x.run >>= fun a => (f a).run, fun m =>
    x.visits m ++ match x.run m with
      | .ok a m => (f a).visits m
      | .error _ _ => []⟩

/-- An execution that comes to no piece. -/
def silent (x : Exec α) : Watched α := ⟨x, fun _ => []⟩

def perform (settings : Settings) (t : ScopeTree) (a : Action) : Watched Unit :=
  ⟨Exec.act (a.perform settings), fun m => [⟨t, .action a, m⟩]⟩

def eval (t : ScopeTree) (e : Expr) : Watched Value := ⟨Exec.eval e, fun m => [⟨t, .value e, m⟩]⟩

def condition (t : ScopeTree) (e : Expr) : Watched Bool :=
  ⟨Exec.condition e, fun m => [⟨t, .condition e, m⟩]⟩

def onLine (line : Option Line) (x : Watched α) : Watched α := ⟨Exec.onLine line x.run, x.visits⟩

def inFrame (taken : Bool) (x : Watched α) : Watched α :=
  ⟨Exec.inFrame taken x.run, fun m => x.visits { m with frames := m.frames.enter taken }⟩

def ifLive (x : Watched Signal) : Watched Signal := do
  if ← silent Exec.isLive then x else return .normal

def arm (taken : Bool) (body : Watched Signal) : Watched Signal := inFrame taken (ifLive body)

def rounds (cond : Watched Bool) (body : Watched Signal) (update : Watched Unit) :
    Nat → Watched Signal
  | 0 => silent (throw .outOfRounds)
  | limit + 1 => do
    if ← cond then
      if (← body) = .breakLoop then return .normal
      else do
        update
        rounds cond body update limit
    else return .normal

/-- The rounds of a loop whose condition comes after its body. -/
def roundsAfter (body : Watched Signal) (cond : Watched Bool) : Nat → Watched Signal
  | 0 => silent (throw .outOfRounds)
  | limit + 1 => do
    if (← body) = .breakLoop then return .normal
    else if ← cond then roundsAfter body cond limit
    else return .normal

@[simp] theorem run_pure (a : α) : (pure a : Watched α).run = pure a := rfl

@[simp] theorem run_bind (x : Watched α) (f : α → Watched β) :
    (x >>= f).run = x.run >>= fun a => (f a).run := rfl

@[simp] theorem run_ite (p : Prop) [Decidable p] (x y : Watched α) :
    (if p then x else y).run = if p then x.run else y.run := by
  split <;> rfl

@[simp] theorem run_arm (taken : Bool) (body : Watched Signal) :
    (arm taken body).run = Exec.arm taken body.run := by
  simp only [arm, inFrame, ifLive, run_bind, run_ite, Exec.arm, silent, run_pure]

@[simp] theorem run_rounds (cond : Watched Bool) (body : Watched Signal) (update : Watched Unit)
    (limit : Nat) :
    (rounds cond body update limit).run = Exec.rounds cond.run body.run update.run limit := by
  induction limit with
  | zero => rfl
  | succ limit ih => simp only [rounds, Exec.rounds, run_bind, run_ite, run_pure, ih]

@[simp] theorem run_roundsAfter (body : Watched Signal) (cond : Watched Bool) (limit : Nat) :
    (roundsAfter body cond limit).run = Exec.roundsAfter body.run cond.run limit := by
  induction limit with
  | zero => rfl
  | succ limit ih => simp only [roundsAfter, Exec.roundsAfter, run_bind, run_ite, run_pure, ih]

end Watched

/-! ## Statements -/

namespace Stmt

section
variable (settings : Settings) (limit : Nat)

open Check Watched

mutual
/-- Watches the execution of a statement that is checked in the given scopes. -/
def watch (t : ScopeTree) : Stmt → Watched Signal
  | action line a => Watched.onLine line do
    Watched.perform settings t (a.check t).result
    return .normal
  | jump line j => Watched.onLine line do return j.signal
  | branch line cond body elseIfs otherwise => Watched.onLine line do
    let holds ← Watched.condition t (cond.check t none).result
    let signal ← Watched.arm holds (watchAll (t.enter .ifBody) body)
    let t := after (inScope .ifBody (checkAll body)) t
    let (chain, signal) ← watchElseIfs t (Chain.start.arm holds) signal elseIfs
    let t := after (checkElseIfs elseIfs) t
    if signal = .normal then watchOtherwise t chain.otherwise otherwise
    else return signal
  | loop line init cond update body => Watched.onLine line do
    Watched.ifLive do
      watchOption t init
      let t := after (checkOption init) t
      Watched.rounds (Watched.condition t (cond.check t none).result)
        (Watched.inFrame true (watchAll ((after (checkOption update) t).enter .loop) body))
        (watchOption t update) limit
  | doWhile line body cond => Watched.onLine line do
    Watched.ifLive do
      let t' := after (inScope .loop (checkAll body)) t
      Watched.roundsAfter (Watched.inFrame true (watchAll (t.enter .loop) body))
        (Watched.condition t' (cond.check t' none).result) limit
  | switch line scrutinee cases fallback => Watched.onLine line do
    let v ← Watched.eval t (scrutinee.check t none).result
    let ty := (scrutinee.check t none).ty
    let t := t.enter .switch
    watchCases t v (watchFallback (after (checkCases ty cases) t) fallback) cases

def watchOption (t : ScopeTree) : Option Stmt → Watched Unit
  | none => return ()
  | some s => do let _ ← watch t s

def watchAll (t : ScopeTree) : List Stmt → Watched Signal
  | [] => return .normal
  | s :: rest => do
    let signal ← watch t s
    if signal = .normal then watchAll (after s.check t) rest else return signal

/-- Watches the further conditions of a branch and their bodies. -/
def watchElseIfs (t : ScopeTree) (chain : Chain) (signal : Signal) :
    List (Expr × List Stmt) → Watched (Chain × Signal)
  | [] => return (chain, signal)
  | (cond, body) :: rest => do
    let holds ← Watched.condition t (cond.check t none).result
    let next ← Watched.arm (chain.takes holds) (watchAll (t.enter .elseIfBody) body)
    let t := after (inScope .elseIfBody (checkAll body)) t
    watchElseIfs t (chain.arm holds) (if signal = .normal then next else signal) rest

def watchOtherwise (t : ScopeTree) (taken : Bool) : Option (List Stmt) → Watched Signal
  | none => return .normal
  | some body => Watched.arm taken (watchAll (t.enter .elseBody) body)

def watchFallback (t : ScopeTree) : Option (List Stmt) → Watched Signal
  | none => return .normal
  | some body => Watched.inFrame true (watchAll (t.enter .defaultBody) body)

/-- Watches the case values up to the first that selects the value, and its body, or else the
fallback. -/
def watchCases (t : ScopeTree) (v : Value) (fallback : Watched Signal) :
    List (Expr × List Stmt) → Watched Signal
  | [] => fallback
  | (value, body) :: rest => do
    let c ← Watched.eval t (value.check t none).result
    if v.selects c then Watched.inFrame true (watchAll (t.enter .caseBody) body)
    else watchCases (after (inScope .caseBody (checkAll body)) t) v fallback rest
end

/-! The execution that is watched is the one of the checked statement. -/

mutual
theorem watch_run (t : ScopeTree) : (s : Stmt) →
    (watch settings limit t s).run = (output s.check t).exec settings limit
  | .action line a => by
      simp only [watch, check, output_onLine, output_bind, output_action, after_action, output_pure,
        exec]
      rfl
  | .jump line j => by
      simp only [watch, check, output_onLine, output_bind, output_pure, exec]
      rfl
  | .branch line cond body elseIfs otherwise => by
      simp only [watch, check, exec, output_onLine, output_bind, output_condition, output_inScope,
        output_pure, after_condition, Watched.onLine, run_bind, run_arm, run_ite, run_pure,
        watchAll_run _ body, watchElseIfs_run _ _ _ elseIfs, watchOtherwise_run _ _ otherwise]
      rfl
  | .loop line init cond update body => by
      simp only [watch, check, exec, output_onLine, output_bind, output_condition, output_inScope,
        output_pure, after_condition, Watched.onLine, Watched.ifLive, Watched.inFrame, Watched.silent,
        Exec.ifLive, run_bind, run_ite, run_pure, run_rounds, watchOption_run _ init,
        watchOption_run _ update, watchAll_run _ body]
      rfl
  | .doWhile line body cond => by
      simp only [watch, check, exec, output_onLine, output_bind, output_condition, output_inScope,
        output_pure, Watched.onLine, Watched.ifLive, Watched.inFrame, Watched.silent,
        Exec.ifLive, run_bind, run_ite, run_pure, run_roundsAfter, watchAll_run _ body]
      rfl
  | .switch line scrutinee cases fallback => by
      simp only [watch, check_switch, output_onLine, output_bind, output_expr, output_inScope,
        output_pure, after_expr, after_report, exec, Watched.onLine, run_bind,
        watchCases_run _ (scrutinee.check t none).ty _ _ cases, watchFallback_run _ fallback]
      rfl

theorem watchOption_run (t : ScopeTree) : (s : Option Stmt) →
    (watchOption settings limit t s).run = execOption settings limit (output (checkOption s) t)
  | none => rfl
  | some s => by
      simp only [watchOption, checkOption, output_bind, output_pure, execOption, run_bind, run_pure,
        watch_run t s]

theorem watchAll_run (t : ScopeTree) : (body : List Stmt) →
    (watchAll settings limit t body).run = execAll settings limit (output (checkAll body) t)
  | [] => rfl
  | s :: rest => by
      simp only [watchAll, checkAll, output_bind, output_pure, execAll, run_bind, run_ite,
        run_pure, watch_run t s, watchAll_run _ rest]

theorem watchElseIfs_run (t : ScopeTree) (chain : Chain) (signal : Signal) :
    (arms : List (Expr × List Stmt)) →
    (watchElseIfs settings limit t chain signal arms).run =
      execElseIfs settings limit chain signal (output (checkElseIfs arms) t)
  | [] => rfl
  | (cond, body) :: rest => by
      simp only [watchElseIfs, checkElseIfs, execElseIfs, output_bind, output_condition, output_inScope,
        output_pure, after_condition, run_bind, run_arm, watchAll_run _ body,
        watchElseIfs_run _ _ _ rest]
      rfl

theorem watchOtherwise_run (t : ScopeTree) (taken : Bool) : (body : Option (List Stmt)) →
    (watchOtherwise settings limit t taken body).run =
      execOtherwise settings limit taken (output (checkBody .elseBody body) t)
  | none => rfl
  | some body => by
      simp only [watchOtherwise, checkBody, execOtherwise, output_bind, output_inScope, output_pure,
        run_arm, watchAll_run _ body]

theorem watchFallback_run (t : ScopeTree) : (body : Option (List Stmt)) →
    (watchFallback settings limit t body).run =
      execFallback settings limit (output (checkBody .defaultBody body) t)
  | none => rfl
  | some body => by
      simp only [watchFallback, checkBody, execFallback, output_bind, output_inScope, output_pure,
        Watched.inFrame, watchAll_run _ body]

theorem watchCases_run (t : ScopeTree) (ty : Ty) (v : Value) (fallback : Watched Signal) :
    (cases : List (Expr × List Stmt)) →
    (watchCases settings limit t v fallback cases).run =
      execCases settings limit v fallback.run (output (checkCases ty cases) t)
  | [] => rfl
  | (value, body) :: rest => by
      simp only [watchCases, checkCases, execCases, output_bind, output_expr, output_inScope,
        output_pure, after_expr, after_report, run_bind, run_ite, Watched.inFrame, watchAll_run _ body,
        watchCases_run _ ty v fallback rest]
      rfl
end

end

open Check in
@[simp] theorem check_line (t : ScopeTree) (s : Stmt) : (output s.check t).line = s.line := by
  cases s with
  | switch => simp only [check_switch, output_onLine, output_bind, output_inScope, output_pure, line]
  | action | jump | branch | loop | doWhile =>
    simp only [check, output_onLine, output_bind, output_pure, line]

end Stmt

/-! ## Programs -/

def watchTop (settings : Settings) (limit : Nat) (t : ScopeTree) : List Stmt → Watched Unit
  | [] => return ()
  | s :: rest => do
    match (← s.watch settings limit t).stray? with
    | none => watchTop settings limit (Check.after s.check t) rest
    | some fault => Watched.silent (throw (.failed ⟨fault, s.line⟩))

theorem watchTop_run (settings : Settings) (limit : Nat) (t : ScopeTree) (stmts : List Stmt) :
    (watchTop settings limit t stmts).run =
      execTop settings limit (Check.output (Stmt.checkAll stmts) t) := by
  induction stmts generalizing t with
  | nil => rfl
  | cons s rest ih =>
    simp only [watchTop, Stmt.checkAll, Check.output_bind, Check.output_pure, execTop,
      Watched.run_bind, Stmt.watch_run, Stmt.check_line, ← ih]
    congr 1
    funext signal
    cases signal.stray? <;> rfl

namespace Program

def watch (settings : Settings) (limit : Nat) (p : Program) : Watched Unit := do
  Watched.silent (modify fun m => { m with store := .empty, frames := [] })
  watchTop settings limit .start p.stmts

/-- What a run of a program comes to, in order. -/
def visits (settings : Settings) (limit : Nat) (p : Program) (console : Console) : List Visit :=
  (p.watch settings limit).visits (.start console)

theorem watch_run (settings : Settings) (limit : Nat) (p : Program) :
    (p.watch settings limit).run = p.annotated.exec settings limit := by
  simp only [watch, Watched.run_bind, watchTop_run, annotated_eq, exec]
  rfl

/-- The run of an accepted program is the execution that is watched. -/
theorem run_eq_watched {settings : Settings} {limit : Nat} {p : Program} {console : Console}
    (h : p.diagnostics = []) :
    p.run settings limit console =
      Outcome.ofResult ((p.watch settings limit).run (.start console)) := by
  rw [watch_run, run]
  have hempty : p.checked.2.diagnostics.isEmpty = true := List.isEmpty_iff.mpr h
  exact if_pos hempty

end Program

end Primer
