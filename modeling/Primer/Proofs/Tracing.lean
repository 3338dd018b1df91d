import Primer.Proofs.Watching
import Primer.Proofs.Frames

/-!
# Traced executions

A traced execution is an execution with its calls in order: the statements, the blocks and the pieces
that it comes to, each with the machine in front of it and with the loops around it. The execution in
it is the one of the statement as it stands, whether it was checked or not.
-/

namespace Primer

/-! ## Calls -/

/-- The two places in a loop where a statement may stand. -/
inductive Region where
  | body
  /-- In front of the first round or after each round. -/
  | clause
deriving DecidableEq

inductive Part where
  | stmt (s : Stmt)
  | block (body : List Stmt)
  | piece (p : Piece)

structure Call where
  part : Part
  machine : Machine
  /-- The loops around the call, from the outside in. -/
  path : List Region

def Call.under (r : Region) (c : Call) : Call := { c with path := r :: c.path }

/-- An execution and its calls, which depend on the machine before it. -/
@[ext]
structure Traced (α : Type) where
  run : Exec α
  calls : Machine → List Call

namespace Traced

variable {α β : Type}

instance : Monad Traced where
  pure a := ⟨pure a, fun _ => []⟩
  bind x f := ⟨x.run >>= fun a => (f a).run, fun m =>
    x.calls m ++ match x.run m with
      | .ok a m => (f a).calls m
      | .error _ _ => []⟩

/-- An execution without calls. -/
def silent (x : Exec α) : Traced α := ⟨x, fun _ => []⟩

/-- A piece that is performed. -/
def piece (p : Piece) (a : Act α) : Traced α := ⟨Exec.act a, fun m => [⟨.piece p, m, []⟩]⟩

def perform (settings : Settings) (a : Action) : Traced Unit :=
  piece (.action a) (a.perform settings)

def eval (e : Expr) : Traced Value := piece (.value e) (Act.eval e.eval)

def condition (e : Expr) : Traced Bool := piece (.condition e) (Act.eval e.evalLogic)

/-- An execution that is called as the given part. -/
def call (part : Part) (x : Traced α) : Traced α := ⟨x.run, fun m => ⟨part, m, []⟩ :: x.calls m⟩

/-- An execution in a region of a loop. -/
def within (r : Region) (x : Traced α) : Traced α := ⟨x.run, fun m => (x.calls m).map (·.under r)⟩

def onLine (line : Option Line) (x : Traced α) : Traced α := ⟨Exec.onLine line x.run, x.calls⟩

def inFrame (taken : Bool) (x : Traced α) : Traced α :=
  ⟨Exec.inFrame taken x.run, fun m => x.calls { m with frames := m.frames.enter taken }⟩

def ifLive (x : Traced Signal) : Traced Signal := do
  if ← silent Exec.isLive then x else return .normal

def arm (taken : Bool) (body : Traced Signal) : Traced Signal := inFrame taken (ifLive body)

def rounds (cond : Traced Bool) (body : Traced Signal) (update : Traced Unit) :
    Nat → Traced Signal
  | 0 => silent (throw .outOfRounds)
  | limit + 1 => do
    if ← cond then
      if (← body) = .breakLoop then return .normal
      else do
        update
        rounds cond body update limit
    else return .normal

/-- The rounds of a loop whose condition comes after its body. -/
def roundsAfter (body : Traced Signal) (cond : Traced Bool) : Nat → Traced Signal
  | 0 => silent (throw .outOfRounds)
  | limit + 1 => do
    if (← body) = .breakLoop then return .normal
    else if ← cond then roundsAfter body cond limit
    else return .normal

section
variable {x : Traced α} {f : α → Traced β} {m m' : Machine} {a : α} {halt : Halt}

theorem run_bind_ok (h : x.run m = .ok a m') : (x >>= f).run m = (f a).run m' := Ends.run_bind_ok h

theorem run_bind_error (h : x.run m = .error halt m') : (x >>= f).run m = .error halt m' :=
  Ends.run_bind_error h

theorem calls_bind_ok (h : x.run m = .ok a m') :
    (x >>= f).calls m = x.calls m ++ (f a).calls m' := by
  show x.calls m ++ _ = _
  rw [h]

theorem calls_bind_error (h : x.run m = .error halt m') : (x >>= f).calls m = x.calls m := by
  show x.calls m ++ _ = _
  rw [h, List.append_nil]

theorem mem_calls_bind {c : Call} (hc : c ∈ (x >>= f).calls m) :
    c ∈ x.calls m ∨ ∃ a m', x.run m = .ok a m' ∧ c ∈ (f a).calls m' := by
  cases hx : x.run m with
  | ok a m' =>
    rw [calls_bind_ok hx, List.mem_append] at hc
    exact hc.imp_right fun hc => ⟨a, m', rfl, hc⟩
  | error halt m' =>
    rw [calls_bind_error hx] at hc
    exact .inl hc

end

@[simp] theorem run_pure (a : α) : (pure a : Traced α).run = pure a := rfl

@[simp] theorem run_bind (x : Traced α) (f : α → Traced β) :
    (x >>= f).run = x.run >>= fun a => (f a).run := rfl

@[simp] theorem run_ite (p : Prop) [Decidable p] (x y : Traced α) :
    (if p then x else y).run = if p then x.run else y.run := by
  split <;> rfl

@[simp] theorem run_call (part : Part) (x : Traced α) : (call part x).run = x.run := rfl

@[simp] theorem run_within (r : Region) (x : Traced α) : (within r x).run = x.run := rfl

@[simp] theorem run_onLine (line : Option Line) (x : Traced α) :
    (onLine line x).run = Exec.onLine line x.run := rfl

@[simp] theorem run_inFrame (taken : Bool) (x : Traced α) :
    (inFrame taken x).run = Exec.inFrame taken x.run := rfl

@[simp] theorem run_ifLive (x : Traced Signal) : (ifLive x).run = Exec.ifLive x.run := by
  simp only [ifLive, silent, run_bind, run_ite, run_pure, Exec.ifLive]

section
variable {x : Traced Signal} {m : Machine} (hm : m.frames.isLive = true)
include hm

theorem run_ifLive_live : (ifLive x).run m = x.run m := by
  have hlive : (silent Exec.isLive).run m = .ok true m := congrArg (EStateM.Result.ok · m) hm
  rw [ifLive, run_bind_ok hlive, if_pos rfl]

theorem calls_ifLive_live : (ifLive x).calls m = x.calls m := by
  have hlive : (silent Exec.isLive).run m = .ok true m := congrArg (EStateM.Result.ok · m) hm
  rw [ifLive, calls_bind_ok hlive, if_pos rfl]
  rfl

end

@[simp] theorem run_arm (taken : Bool) (body : Traced Signal) :
    (arm taken body).run = Exec.arm taken body.run := by
  simp only [arm, run_inFrame, run_ifLive, Exec.ifLive, Exec.arm]

@[simp] theorem run_rounds (cond : Traced Bool) (body : Traced Signal) (update : Traced Unit)
    (limit : Nat) :
    (rounds cond body update limit).run = Exec.rounds cond.run body.run update.run limit := by
  induction limit with
  | zero => rfl
  | succ limit ih => simp only [rounds, Exec.rounds, run_bind, run_ite, run_pure, ih]

@[simp] theorem run_roundsAfter (body : Traced Signal) (cond : Traced Bool) (limit : Nat) :
    (roundsAfter body cond limit).run = Exec.roundsAfter body.run cond.run limit := by
  induction limit with
  | zero => rfl
  | succ limit ih => simp only [roundsAfter, Exec.roundsAfter, run_bind, run_ite, run_pure, ih]

end Traced

/-! ## Statements -/

namespace Stmt

section
variable (settings : Settings) (limit : Nat)

mutual
def trace : Stmt → Traced Signal
  | action line a => .call (.stmt (action line a)) <| .onLine line do
    Traced.perform settings a
    return .normal
  | jump line j => .call (.stmt (jump line j)) <| .onLine line do return j.signal
  | branch line cond body elseIfs otherwise =>
    .call (.stmt (branch line cond body elseIfs otherwise)) <| .onLine line do
      let holds ← Traced.condition cond
      let signal ← Traced.arm holds (.call (.block body) (traceAll body))
      let (chain, signal) ← traceElseIfs (Chain.start.arm holds) signal elseIfs
      if signal = .normal then traceOtherwise chain.otherwise otherwise
      else return signal
  | loop line init cond update body =>
    .call (.stmt (loop line init cond update body)) <| .onLine line <| .ifLive do
      Traced.within .clause (traceOption init)
      Traced.rounds (Traced.condition cond)
        (.within .body (.inFrame true (.call (.block body) (traceAll body))))
        (.within .clause (traceOption update)) limit
  | doWhile line body cond =>
    .call (.stmt (doWhile line body cond)) <| .onLine line <| .ifLive <|
      Traced.roundsAfter (.within .body (.inFrame true (.call (.block body) (traceAll body))))
        (Traced.condition cond) limit
  | switch line scrutinee cases fallback =>
    .call (.stmt (switch line scrutinee cases fallback)) <| .onLine line do
      let v ← Traced.eval scrutinee
      traceCases v (traceFallback fallback) cases

def traceOption : Option Stmt → Traced Unit
  | none => return ()
  | some s => do let _ ← trace s

def traceAll : List Stmt → Traced Signal
  | [] => return .normal
  | s :: rest => do
    let signal ← trace s
    if signal = .normal then traceAll rest else return signal

def traceElseIfs (chain : Chain) (signal : Signal) :
    List (Expr × List Stmt) → Traced (Chain × Signal)
  | [] => return (chain, signal)
  | (cond, body) :: rest => do
    let holds ← Traced.condition cond
    let next ← Traced.arm (chain.takes holds) (.call (.block body) (traceAll body))
    traceElseIfs (chain.arm holds) (if signal = .normal then next else signal) rest

def traceOtherwise (taken : Bool) : Option (List Stmt) → Traced Signal
  | none => return .normal
  | some body => Traced.arm taken (.call (.block body) (traceAll body))

def traceFallback : Option (List Stmt) → Traced Signal
  | none => return .normal
  | some body => Traced.inFrame true (.call (.block body) (traceAll body))

def traceCases (v : Value) (fallback : Traced Signal) : List (Expr × List Stmt) → Traced Signal
  | [] => fallback
  | (value, body) :: rest => do
    let c ← Traced.eval value
    if v.selects c then Traced.inFrame true (.call (.block body) (traceAll body))
    else traceCases v fallback rest
end

open Traced

mutual
theorem trace_run : (s : Stmt) → (trace settings limit s).run = s.exec settings limit
  | .action line a => rfl
  | .jump line j => rfl
  | .branch line cond body elseIfs otherwise => by
      simp only [trace, exec, run_call, run_onLine, run_bind, run_arm, run_ite, run_pure,
        traceAll_run body, traceElseIfs_run _ _ elseIfs, traceOtherwise_run _ otherwise]
      rfl
  | .loop line init cond update body => by
      simp only [trace, exec, run_call, run_onLine, run_ifLive, run_bind, run_within, run_rounds,
        run_inFrame, traceOption_run init, traceOption_run update, traceAll_run body]
      rfl
  | .doWhile line body cond => by
      simp only [trace, exec, run_call, run_onLine, run_ifLive, run_within, run_roundsAfter,
        run_inFrame, traceAll_run body]
      rfl
  | .switch line scrutinee cases fallback => by
      simp only [trace, exec, run_call, run_onLine, run_bind, traceCases_run _ _ cases,
        traceFallback_run fallback]
      rfl

theorem traceOption_run : (s : Option Stmt) →
    (traceOption settings limit s).run = execOption settings limit s
  | none => rfl
  | some s => by simp only [traceOption, execOption, run_bind, run_pure, trace_run s]

theorem traceAll_run : (body : List Stmt) →
    (traceAll settings limit body).run = execAll settings limit body
  | [] => rfl
  | s :: rest => by
      simp only [traceAll, execAll, run_bind, run_ite, run_pure, trace_run s, traceAll_run rest]

theorem traceElseIfs_run (chain : Chain) (signal : Signal) : (arms : List (Expr × List Stmt)) →
    (traceElseIfs settings limit chain signal arms).run =
      execElseIfs settings limit chain signal arms
  | [] => rfl
  | (cond, body) :: rest => by
      simp only [traceElseIfs, execElseIfs, run_bind, run_arm, run_call, traceAll_run body,
        traceElseIfs_run _ _ rest]
      rfl

theorem traceOtherwise_run (taken : Bool) : (body : Option (List Stmt)) →
    (traceOtherwise settings limit taken body).run = execOtherwise settings limit taken body
  | none => rfl
  | some body => by
      simp only [traceOtherwise, execOtherwise, run_arm, run_call, traceAll_run body]

theorem traceFallback_run : (body : Option (List Stmt)) →
    (traceFallback settings limit body).run = execFallback settings limit body
  | none => rfl
  | some body => by
      simp only [traceFallback, execFallback, run_inFrame, run_call, traceAll_run body]

theorem traceCases_run (v : Value) (fallback : Traced Signal) :
    (cases : List (Expr × List Stmt)) → (traceCases settings limit v fallback cases).run =
      execCases settings limit v fallback.run cases
  | [] => rfl
  | (value, body) :: rest => by
      simp only [traceCases, execCases, run_bind, run_ite, run_inFrame, run_call, traceAll_run body,
        traceCases_run v fallback rest]
      rfl
end

end

/-- The calls of the execution of a statement on a machine, the one of the statement first. -/
def calls (settings : Settings) (limit : Nat) (s : Stmt) (m : Machine) : List Call :=
  (s.trace settings limit).calls m

end Stmt

/-! ## Programs -/

def traceTop (settings : Settings) (limit : Nat) : List Stmt → Traced Unit
  | [] => return ()
  | s :: rest => do
    match (← s.trace settings limit).stray? with
    | none => traceTop settings limit rest
    | some fault => Traced.silent (throw (.failed ⟨fault, s.line⟩))

theorem traceTop_run (settings : Settings) (limit : Nat) (stmts : List Stmt) :
    (traceTop settings limit stmts).run = execTop settings limit stmts := by
  induction stmts with
  | nil => rfl
  | cons s rest ih =>
    simp only [traceTop, execTop, Traced.run_bind, Stmt.trace_run, ← ih]
    congr 1
    funext signal
    cases signal.stray? <;> rfl

namespace Program

def trace (settings : Settings) (limit : Nat) (p : Program) : Traced Unit := do
  Traced.silent (modify fun m => { m with store := .empty, frames := [] })
  traceTop settings limit p.stmts

theorem trace_run (settings : Settings) (limit : Nat) (p : Program) :
    (p.trace settings limit).run = p.exec settings limit := by
  simp only [trace, Traced.run_bind, traceTop_run, exec]
  rfl

/-- The calls of the execution of a program on a machine. -/
def calls (settings : Settings) (limit : Nat) (p : Program) (m : Machine) : List Call :=
  (p.trace settings limit).calls m

end Program

end Primer
