import Primer.Run.Action
import Primer.Check.Stmt

/-!
# Executing programs

A statement passes on a signal: to go on, to leave the innermost loop, or to start its next round. A
failure takes the line of the innermost statement that has one. A loop may go on for ever, so that
every loop is given a limit of rounds; a run that reaches it ends undecided, which is no failure.
-/

namespace Primer

/-- What a statement asks of the one around it. -/
inductive Signal where
  | normal
  | breakLoop
  | continueLoop
deriving DecidableEq

def Jump.signal : Jump → Signal
  | .breakLoop => .breakLoop
  | .continueLoop => .continueLoop

/-- Why an execution stopped early. -/
inductive Halt where
  | failed (f : Failure)
  /-- A loop reached its limit of rounds. -/
  | outOfRounds

/-- The halt with a line, if it is a failure without one. -/
def Halt.orLine (line : Option Line) : Halt → Halt
  | .failed f => .failed (f.orLine line)
  | .outOfRounds => .outOfRounds

/-- A part of an execution. It leaves a machine however it ends. -/
abbrev Exec := EStateM Halt Machine

namespace Exec

/-- An act, whose fault has no line yet. -/
def act {α : Type} (a : Act α) : Exec α := fun m =>
  match a m with
  | .ok v m => .ok v m
  | .error fault m => .error (.failed (.of fault)) m

/-- Gives a failure the line of the statement, unless it has one. -/
def onLine {α : Type} (line : Option Line) (x : Exec α) : Exec α := fun m =>
  match x m with
  | .ok v m => .ok v m
  | .error halt m => .error (halt.orLine line) m

/-- Runs inside a frame, which is left however the run ends. -/
def inFrame {α : Type} (taken : Bool) (x : Exec α) : Exec α := fun m =>
  match x { m with frames := m.frames.enter taken } with
  | .ok v m => .ok v { m with frames := m.frames.leave }
  | .error halt m => .error halt { m with frames := m.frames.leave }

def isLive : Exec Bool := do return (← get).frames.isLive

def eval (e : Expr) : Exec Value := act (Act.eval e.eval)

def condition (e : Expr) : Exec Bool := act (Act.eval e.evalLogic)

def arm (taken : Bool) (body : Exec Signal) : Exec Signal := inFrame taken do
  if ← isLive then body else return .normal

def ifLive (x : Exec Signal) : Exec Signal := do
  if ← isLive then x else return .normal

/-- The rounds of a loop: while the condition holds, the body and then the update. A break leaves
the loop without the update. -/
def rounds (cond : Exec Bool) (body : Exec Signal) (update : Exec Unit) : Nat → Exec Signal
  | 0 => throw .outOfRounds
  | limit + 1 => do
    if ← cond then
      if (← body) = .breakLoop then return .normal
      else do
        update
        rounds cond body update limit
    else return .normal

/-- The rounds of a loop whose condition comes after its body. -/
def roundsAfter (body : Exec Signal) (cond : Exec Bool) : Nat → Exec Signal
  | 0 => throw .outOfRounds
  | limit + 1 => do
    if (← body) = .breakLoop then return .normal
    else if ← cond then roundsAfter body cond limit
    else return .normal

end Exec

namespace Stmt

mutual
def exec (settings : Settings) (limit : Nat) : Stmt → Exec Signal
  | action line a => Exec.onLine line do
    Exec.act (a.perform settings)
    return .normal
  | jump line j => Exec.onLine line do return j.signal
  | branch line cond body elseIfs otherwise => Exec.onLine line do
    let holds ← Exec.condition cond
    let signal ← Exec.arm holds (execAll settings limit body)
    let (chain, signal) ← execElseIfs settings limit (Chain.start.arm holds) signal elseIfs
    if signal = .normal then execOtherwise settings limit chain.otherwise otherwise
    else return signal
  | loop line init cond update body => Exec.onLine line do
    Exec.ifLive do
      execOption settings limit init
      Exec.rounds (Exec.condition cond) (Exec.inFrame true (execAll settings limit body))
        (execOption settings limit update) limit
  | doWhile line body cond => Exec.onLine line do
    Exec.ifLive do
      Exec.roundsAfter (Exec.inFrame true (execAll settings limit body))
        (Exec.condition cond) limit
  | switch line scrutinee cases fallback => Exec.onLine line do
    let v ← Exec.eval scrutinee
    execCases settings limit v (execFallback settings limit fallback) cases

/-- Executes a statement that may be missing, whatever its signal. -/
def execOption (settings : Settings) (limit : Nat) : Option Stmt → Exec Unit
  | none => return ()
  | some s => do let _ ← exec settings limit s

/-- Executes statements in order, up to the first signal that is not the normal one. -/
def execAll (settings : Settings) (limit : Nat) : List Stmt → Exec Signal
  | [] => return .normal
  | s :: rest => do
    let signal ← exec settings limit s
    if signal = .normal then execAll settings limit rest else return signal

/-- Asks the further conditions of a branch, all of them, and executes the body of the first that
holds if none did before. The first signal that is not the normal one is kept. -/
def execElseIfs (settings : Settings) (limit : Nat) (chain : Chain) (signal : Signal) :
    List (Expr × List Stmt) → Exec (Chain × Signal)
  | [] => return (chain, signal)
  | (cond, body) :: rest => do
    let holds ← Exec.condition cond
    let next ← Exec.arm (chain.takes holds) (execAll settings limit body)
    execElseIfs settings limit (chain.arm holds) (if signal = .normal then next else signal) rest

/-- Executes the body for no condition, if it is taken and there is one. -/
def execOtherwise (settings : Settings) (limit : Nat) (taken : Bool) :
    Option (List Stmt) → Exec Signal
  | none => return .normal
  | some body => Exec.arm taken (execAll settings limit body)

/-- Executes the body for no case, if there is one. -/
def execFallback (settings : Settings) (limit : Nat) : Option (List Stmt) → Exec Signal
  | none => return .normal
  | some body => Exec.inFrame true (execAll settings limit body)

/-- Evaluates case values up to the first that selects the value, and executes its body, or else
the fallback. -/
def execCases (settings : Settings) (limit : Nat) (v : Value) (fallback : Exec Signal) :
    List (Expr × List Stmt) → Exec Signal
  | [] => fallback
  | (value, body) :: rest => do
    let c ← Exec.eval value
    if v.selects c then Exec.inFrame true (execAll settings limit body)
    else execCases settings limit v fallback rest
end

end Stmt

/-! ## Programs -/

/-- The fault of a signal that no loop took up. -/
def Signal.stray? : Signal → Option Fault
  | .normal => none
  | .breakLoop => some .breakOutsideLoop
  | .continueLoop => some .continueOutsideLoop

/-- Executes the statements of a program in order. -/
def execTop (settings : Settings) (limit : Nat) : List Stmt → Exec Unit
  | [] => return ()
  | s :: rest => do
    match (← s.exec settings limit).stray? with
    | none => execTop settings limit rest
    | some fault => throw (.failed ⟨fault, s.line⟩)

/-- Executes a program on a machine whose names and frames are forgotten first. -/
def Program.exec (settings : Settings) (limit : Nat) (p : Program) : Exec Unit := do
  modify fun m => { m with store := .empty, frames := [] }
  execTop settings limit p.stmts

/-! ## Runs -/

/-- How a run ended. -/
inductive Outcome where
  | clean
  /-- The check found problems, and nothing was executed. -/
  | refused (diagnostics : List Diagnostic)
  | failed (f : Failure)
  /-- A loop reached its limit of rounds. -/
  | outOfRounds

namespace Outcome

/-- The status that a run hands to its caller. -/
def exitCode : Outcome → Nat
  | clean => 0
  | refused _ => 1
  | failed _ => 2
  | outOfRounds => 3

def isClean : Outcome → Bool
  | clean => true
  | _ => false

def ofResult : EStateM.Result Halt Machine Unit → Outcome × Machine
  | .ok _ m => (clean, m)
  | .error (.failed f) m => (failed f, m)
  | .error .outOfRounds m => (outOfRounds, m)

end Outcome

/-- Checks a program and, if nothing is wrong with it, executes it with the types that the check
found. -/
def Program.run (settings : Settings) (limit : Nat) (p : Program) (console : Console) :
    Outcome × Machine :=
  let (annotated, c) := p.checked
  if c.diagnostics.isEmpty then Outcome.ofResult (annotated.exec settings limit (.start console))
  else (.refused c.diagnostics, .start console)

/-- A limit of rounds that no run reaches in practice. -/
def ampleLimit : Nat := Nat.pow 2 62

end Primer
