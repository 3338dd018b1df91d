import Primer.Check.Action

/-!
# Checking programs

The check goes through all statements, whatever it finds, and reports every problem with the line of
the innermost statement that has one. Each body has a scope of its own. The statements before and
after the rounds of a loop belong to the scope around it.
-/

namespace Primer

/-- How far a check has come: the scopes, what is reported, and the line of the statement that is
being checked. -/
structure Checker where
  scopes : ScopeTree
  diagnostics : List Diagnostic
  line : Option Line

/-- A part of a check. -/
abbrev Check := StateM Checker

namespace Check

/-- Reports problems on the current line. -/
def report (problems : List Problem) : Check Unit :=
  modify fun c => { c with diagnostics := c.diagnostics ++ problems.map (·.diagnostic c.line) }

/-- Runs a check on the line of its statement, if it has one, and returns to the line before. -/
def onLine {α : Type} (line : Option Line) (check : Check α) : Check α := do
  let around := (← get).line
  modify fun c => { c with line := line <|> around }
  let result ← check
  modify fun c => { c with line := around }
  return result

/-- Runs a check in a scope of its own. -/
def inScope {α : Type} (kind : ScopeKind) (check : Check α) : Check α := do
  modify fun c => { c with scopes := c.scopes.enter kind }
  let result ← check
  modify fun c => { c with scopes := c.scopes.exit }
  return result

/-- Checks an expression and reports its problems. -/
def expr (e : Expr) : Check Expr := do
  let c := e.check (← get).scopes none
  report c.problems
  return c.result

/-- Checks a condition, which must be a truth value. -/
def condition (e : Expr) (problem : Ty → Problem) : Check Expr := do
  let e ← expr e
  if e.ty ≠ .logic then report [problem e.ty]
  return e

def action (a : Action) : Check Action := do
  let c := a.check (← get).scopes
  report c.problems
  modify fun s => { s with scopes := c.scopes }
  return c.result

/-- Checks a jump, which must stand in the body of a loop. -/
def jump (j : Jump) : Check Unit := do
  if !(← get).scopes.inLoop then report [.jumpOutsideLoop j]

end Check

/-- What is wrong with a case of a type in a switch on another; a type that is unknown has its
problem already. -/
def caseProblems (switched case : Ty) : List Problem :=
  if switched.isUnknown || case.isUnknown || switched.accepts case then []
  else [.caseType switched case]

namespace Stmt

mutual
/-- Checks a statement. -/
def check : Stmt → Check Stmt
  | action line a => Check.onLine line do return action line (← Check.action a)
  | jump line j => Check.onLine line do
    Check.jump j
    return jump line j
  | branch line cond body elseIfs otherwise => Check.onLine line do
    let cond ← Check.condition cond .ifCondition
    let body ← Check.inScope .ifBody (checkAll body)
    let elseIfs ← checkElseIfs elseIfs
    let otherwise ← checkBody .elseBody otherwise
    return branch line cond body elseIfs otherwise
  | loop line init cond update body => Check.onLine line do
    let init ← checkOption init
    let cond ← Check.condition cond .loopCondition
    let update ← checkOption update
    let body ← Check.inScope .loop (checkAll body)
    return loop line init cond update body
  | doWhile line body cond => Check.onLine line do
    let body ← Check.inScope .loop (checkAll body)
    let cond ← Check.condition cond .doWhileCondition
    return doWhile line body cond
  | switch line scrutinee cases fallback => Check.onLine line do
    let scrutinee ← Check.expr scrutinee
    if cases.isEmpty && fallback.isNone then Check.report [.emptySwitch]
    Check.inScope .switch do
      let cases ← checkCases scrutinee.ty cases
      let fallback ← checkBody .defaultBody fallback
      return switch line scrutinee cases fallback

/-- Checks a statement that may be missing. -/
def checkOption : Option Stmt → Check (Option Stmt)
  | none => return none
  | some s => return some (← check s)

/-- Checks statements in order. -/
def checkAll : List Stmt → Check (List Stmt)
  | [] => return []
  | s :: rest => return (← check s) :: (← checkAll rest)

/-- Checks the further conditions of a branch and their bodies. -/
def checkElseIfs : List (Expr × List Stmt) → Check (List (Expr × List Stmt))
  | [] => return []
  | (cond, body) :: rest => do
    let cond ← Check.condition cond .elseIfCondition
    let body ← Check.inScope .elseIfBody (checkAll body)
    return (cond, body) :: (← checkElseIfs rest)

/-- Checks the cases of a switch on a value of the given type. -/
def checkCases (switched : Ty) : List (Expr × List Stmt) → Check (List (Expr × List Stmt))
  | [] => return []
  | (value, body) :: rest => do
    let value ← Check.expr value
    Check.report (caseProblems switched value.ty)
    let body ← Check.inScope .caseBody (checkAll body)
    return (value, body) :: (← checkCases switched rest)

/-- Checks a body that may be missing, in a scope of the given kind. -/
def checkBody (kind : ScopeKind) : Option (List Stmt) → Check (Option (List Stmt))
  | none => return none
  | some body => return some (← Check.inScope kind (checkAll body))
end

end Stmt

/-- The state in which the check of a program starts. -/
def Checker.start : Checker := ⟨.start, [], none⟩

namespace Program

/-- Checks a program; the result is the program with its types, and the state at the end. -/
def checked (p : Program) : Program × Checker :=
  let (stmts, c) := (Stmt.checkAll p.stmts).run .start
  (⟨stmts⟩, c)

/-- The program with the types that the check finds. -/
def annotated (p : Program) : Program := p.checked.1

/-- The diagnostics of a program in the order of their detection. A program without any may be
run. -/
def diagnostics (p : Program) : List Diagnostic := p.checked.2.diagnostics

end Program

end Primer
