import Primer.Proofs.Tracing

/-!
# Laws of executions

A law is a property of traced executions that pieces have and that composition keeps. It then holds of
every statement, of every block and of every case. That control stays live is a law, and so is that
store and console run through the pieces, each of which starts where the one before it ends.
-/

namespace Primer

/-- What pieces have and composition keeps. -/
structure Law (settings : Settings) where
  holds : {α : Type} → Traced α → Prop
  pure : ∀ {α : Type} (a : α), holds (Pure.pure a)
  bind : ∀ {α β : Type} {x : Traced α} {f : α → Traced β}, holds x → (∀ a, holds (f a)) →
    holds (x >>= f)
  outOfRounds : holds (Traced.silent (throw .outOfRounds) : Traced Signal)
  perform : ∀ a, holds (Traced.perform settings a)
  eval : ∀ e, holds (Traced.eval e)
  condition : ∀ e, holds (Traced.condition e)
  stmt : ∀ s {x : Traced Signal}, holds x → holds (Traced.call (.stmt s) x)
  block : ∀ body {x : Traced Signal}, holds x → holds (Traced.call (.block body) x)
  within : ∀ r {α : Type} {x : Traced α}, holds x → holds (Traced.within r x)
  onLine : ∀ line {x : Traced Signal}, holds x → holds (Traced.onLine line x)
  inFrame : ∀ {x : Traced Signal}, holds x → holds (Traced.inFrame true x)
  arm : ∀ taken {x : Traced Signal}, holds x → holds (Traced.arm taken x)
  ifLive : ∀ {x : Traced Signal}, holds x → holds (Traced.ifLive x)

namespace Law

variable {settings : Settings} (L : Law settings) {limit : Nat}

theorem ite {α : Type} {p : Prop} [Decidable p] {x y : Traced α} (hx : L.holds x) (hy : L.holds y) :
    L.holds (if p then x else y) := by
  split
  · exact hx
  · exact hy

theorem rounds {cond : Traced Bool} {body : Traced Signal} {update : Traced Unit}
    (hc : L.holds cond) (hb : L.holds body) (hu : L.holds update) (limit : Nat) :
    L.holds (Traced.rounds cond body update limit) := by
  induction limit with
  | zero => exact L.outOfRounds
  | succ limit ih =>
    refine L.bind hc fun holds => L.ite (L.bind hb fun signal => ?_) (L.pure _)
    exact L.ite (L.pure _) (L.bind hu fun _ => ih)

theorem roundsAfter {body : Traced Signal} {cond : Traced Bool} (hb : L.holds body)
    (hc : L.holds cond) (limit : Nat) : L.holds (Traced.roundsAfter body cond limit) := by
  induction limit with
  | zero => exact L.outOfRounds
  | succ limit ih =>
    refine L.bind hb fun signal => L.ite (L.pure _) ?_
    exact L.bind hc fun holds => L.ite ih (L.pure _)

open Stmt

mutual
theorem trace : (s : Stmt) → L.holds (s.trace settings limit)
  | .action line a => by
      rw [Stmt.trace]
      exact L.stmt _ (L.onLine line (L.bind (L.perform a) fun _ => L.pure _))
  | .jump line j => by
      rw [Stmt.trace]
      exact L.stmt _ (L.onLine line (L.pure _))
  | .branch line cond body elseIfs otherwise => by
      rw [Stmt.trace]
      refine L.stmt _ (L.onLine line (L.bind (L.condition cond) fun holds => ?_))
      refine L.bind (L.arm holds (traceBlock body)) fun signal => ?_
      refine L.bind (traceElseIfs _ _ elseIfs) fun (chain, signal) => ?_
      exact L.ite (traceOtherwise _ otherwise) (L.pure _)
  | .loop line init cond update body => by
      rw [Stmt.trace]
      refine L.stmt _ (L.onLine line (L.ifLive ?_))
      refine L.bind (L.within .clause (traceOption init)) fun _ => ?_
      exact L.rounds (L.condition cond) (L.within .body (L.inFrame (traceBlock body)))
        (L.within .clause (traceOption update)) limit
  | .doWhile line body cond => by
      rw [Stmt.trace]
      refine L.stmt _ (L.onLine line (L.ifLive ?_))
      exact L.roundsAfter (L.within .body (L.inFrame (traceBlock body))) (L.condition cond) limit
  | .switch line scrutinee cases fallback => by
      rw [Stmt.trace]
      refine L.stmt _ (L.onLine line (L.bind (L.eval scrutinee) fun v => ?_))
      exact traceCases v (traceFallback fallback) cases

theorem traceBlock (body : List Stmt) :
    L.holds (Traced.call (.block body) (Stmt.traceAll settings limit body)) :=
  L.block body (traceAll body)

theorem traceOption : (s : Option Stmt) → L.holds (Stmt.traceOption settings limit s)
  | none => L.pure ()
  | some s => L.bind (trace s) fun _ => L.pure ()

theorem traceAll : (body : List Stmt) → L.holds (Stmt.traceAll settings limit body)
  | [] => L.pure _
  | s :: rest => by
      rw [Stmt.traceAll]
      exact L.bind (trace s) fun signal => L.ite (traceAll rest) (L.pure _)

theorem traceElseIfs (chain : Chain) (signal : Signal) : (arms : List (Expr × List Stmt)) →
    L.holds (Stmt.traceElseIfs settings limit chain signal arms)
  | [] => L.pure _
  | (cond, body) :: rest => by
      rw [Stmt.traceElseIfs]
      refine L.bind (L.condition cond) fun holds => L.bind (L.arm _ (traceBlock body)) fun next => ?_
      exact traceElseIfs _ _ rest

theorem traceOtherwise (taken : Bool) : (body : Option (List Stmt)) →
    L.holds (Stmt.traceOtherwise settings limit taken body)
  | none => L.pure _
  | some body => L.arm taken (traceBlock body)

theorem traceFallback : (body : Option (List Stmt)) →
    L.holds (Stmt.traceFallback settings limit body)
  | none => L.pure _
  | some body => L.inFrame (traceBlock body)

theorem traceCases (v : Value) {fallback : Traced Signal} (hf : L.holds fallback) :
    (cases : List (Expr × List Stmt)) →
    L.holds (Stmt.traceCases settings limit v fallback cases)
  | [] => hf
  | (value, body) :: rest => by
      rw [Stmt.traceCases]
      refine L.bind (L.eval value) fun c => L.ite (L.inFrame (traceBlock body)) ?_
      exact traceCases v hf rest
end

end Law

end Primer
