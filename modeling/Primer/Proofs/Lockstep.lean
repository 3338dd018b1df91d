import Primer.Proofs.Frames

/-!
# Runs in lockstep

Two executions of a statement, under settings of their own and before consoles of their own, stay
together: what they read is the same, so their stores and frames stay the same and they end in the same
way. What their consoles have in common is a relation that every use of a console has to keep. A run
may be excused from its partner by the way in which it ends.
-/

namespace Primer

/-! ## Parts of runs -/

/-- Two parts of runs end in the same way and in related states, unless the first one ends in an
excused way. -/
inductive Together {ε σ α : Type} (X : ε → Prop) (R : σ → σ → Prop) :
    EStateM.Result ε σ α → EStateM.Result ε σ α → Prop where
  | ok {a s t} (h : R s t) : Together X R (.ok a s) (.ok a t)
  | error {e s t} (h : R s t) : Together X R (.error e s) (.error e t)
  | excused {e s r} (h : X e) : Together X R (.error e s) r

/-- From related states the parts end together. -/
structure Lockstep {ε σ α : Type} (X : ε → Prop) (R : σ → σ → Prop) (x y : EStateM ε σ α) : Prop where
  together : ∀ {s t}, R s t → Together X R (x s) (y t)

namespace Lockstep

variable {ε σ α β : Type} {X : ε → Prop} {R : σ → σ → Prop} {x y : EStateM ε σ α}

theorem pure (a : α) : Lockstep X R (Pure.pure a) (Pure.pure a) := ⟨.ok⟩

theorem throw (e : ε) : Lockstep X R (MonadExcept.throw e : EStateM ε σ α) (MonadExcept.throw e) :=
  ⟨.error⟩

theorem bind {f g : α → EStateM ε σ β} (h : Lockstep X R x y) (hf : ∀ a, Lockstep X R (f a) (g a)) :
    Lockstep X R (x >>= f) (y >>= g) := by
  refine ⟨fun {s t} hst => ?_⟩
  have hxy := h.together hst
  generalize hx : x s = r at hxy
  generalize hy : y t = r' at hxy
  cases hxy with
  | ok h =>
    rw [Ends.run_bind_ok hx, Ends.run_bind_ok hy]
    exact (hf _).together h
  | error h =>
    rw [Ends.run_bind_error hx, Ends.run_bind_error hy]
    exact .error h
  | excused h =>
    -- the first run ends here, whatever the second one goes on to do
    rw [Ends.run_bind_error hx]
    exact .excused h

theorem ite {p : Prop} [Decidable p] {x' y' : EStateM ε σ α} (h : Lockstep X R x y)
    (h' : Lockstep X R x' y') : Lockstep X R (if p then x else x') (if p then y else y') := by
  split
  · exact h
  · exact h'

end Lockstep

/-! ## Consoles -/

namespace Console

/-- A relation of the consoles of two runs that is kept by each use of a console. Both find the same
line or none; the first may find none when the second does, if it is excused for that. -/
structure Parallel (settings settings' : Settings) (X : Fault → Prop) (C : Console → Console → Prop) :
    Prop where
  print : ∀ {c d} text, C c d → C (c.print text) (d.print text)
  prompt : ∀ {c d} text, C c d → C (c.prompted settings text) (d.prompted settings' text)
  warn : ∀ {c d} message, C c d → C (c.warned settings message) (d.warned settings' message)
  read : ∀ {c d}, C c d → (c.readLine.1 = d.readLine.1 ∧ C c.readLine.2 d.readLine.2) ∨
    (c.readLine.1 = none ∧ X .inputClosed)

end Console

/-- Two machines that differ in their consoles only, which are related. -/
structure Machine.Beside (C : Console → Console → Prop) (m n : Machine) : Prop where
  store : n.store = m.store
  frames : n.frames = m.frames
  console : C m.console n.console

/-! ## Acts -/

namespace Act

variable {α : Type} {settings settings' : Settings} {X : Fault → Prop}
  {C : Console → Console → Prop}

theorem eval_lockstep (e : Eval α) : Lockstep X (Machine.Beside C) (Act.eval e) (Act.eval e) := by
  refine ⟨?_⟩
  rintro m ⟨_, _, console⟩ ⟨rfl, rfl, hC⟩
  cases he : e m.store with
  | ok a s =>
    rw [eval_ok he, eval_ok (m := ⟨m.store, m.frames, console⟩) he]
    exact .ok ⟨rfl, rfl, hC⟩
  | error f s =>
    rw [eval_error he, eval_error (m := ⟨m.store, m.frames, console⟩) he]
    exact .error ⟨rfl, rfl, hC⟩

theorem write_lockstep {f g : Console → Console} (h : ∀ {c d}, C c d → C (f c) (g d)) :
    Lockstep X (Machine.Beside C) (Act.write f) (Act.write g) :=
  ⟨fun hmn => .ok ⟨hmn.store, hmn.frames, h hmn.console⟩⟩

theorem line_lockstep (h : ∀ {c d}, C c d →
    (c.readLine.1 = d.readLine.1 ∧ C c.readLine.2 d.readLine.2) ∨
      (c.readLine.1 = none ∧ X .inputClosed)) :
    Lockstep X (Machine.Beside C) line line := by
  refine ⟨fun {m n} hmn => ?_⟩
  rcases hread : m.console.readLine with ⟨_ | text, console⟩
  · rw [line_none hread]
    rcases h hmn.console with ⟨hsame, hC⟩ | ⟨-, hX⟩
    · rw [hread] at hsame hC
      have hreadn : n.console.readLine = (none, n.console.readLine.2) := Prod.ext hsame.symm rfl
      rw [line_none hreadn]
      exact .error ⟨hmn.store, hmn.frames, hC⟩
    · exact .excused hX
  · rw [line_some hread]
    rcases h hmn.console with ⟨hsame, hC⟩ | ⟨hnone, -⟩
    · rw [hread] at hsame hC
      have hreadn : n.console.readLine = (some text, n.console.readLine.2) := Prod.ext hsame.symm rfl
      rw [line_some hreadn]
      exact .ok ⟨hmn.store, hmn.frames, hC⟩
    · rw [hread] at hnone
      cases hnone

/-- Acts stay together if their consoles stay related. -/
def lockstep (h : Console.Parallel settings settings' X C) : Act.Reading settings settings' where
  rel x y := Lockstep X (Machine.Beside C) x y
  pure := .pure
  throw := .throw
  bind := .bind
  eval := eval_lockstep
  print text := write_lockstep (h.print text)
  input prompt := by
    rw [input_eq_prompted, input_eq_prompted]
    exact .bind (write_lockstep (h.prompt prompt)) fun _ => line_lockstep h.read
  warn message := by
    rw [warn_eq, warn_eq]
    exact write_lockstep (h.warn message)

end Act

/-! ## Executions -/

/-- The halt is a failure with an excused fault. -/
def Halt.Excused (X : Fault → Prop) (halt : Halt) : Prop := ∃ f, halt = .failed f ∧ X f.fault

namespace Exec

variable {α : Type} {X : Fault → Prop} {C : Console → Console → Prop}

/-- Two executions from machines that differ in related consoles. -/
abbrev Pairs (X : Fault → Prop) (C : Console → Console → Prop) (x y : Exec α) : Prop :=
  Lockstep (Halt.Excused X) (Machine.Beside C) x y

end Exec

namespace Lockstep

open Exec

variable {α : Type} {X : Fault → Prop} {C : Console → Console → Prop} {x y : Exec α}

theorem act {a b : Act α} (h : Lockstep X (Machine.Beside C) a b) :
    Pairs X C (Exec.act a) (Exec.act b) := by
  refine ⟨fun {m n} hmn => ?_⟩
  have hab := h.together hmn
  generalize ha : a m = r at hab
  generalize hb : b n = r' at hab
  cases hab with
  | ok h =>
    rw [act_ok ha, act_ok hb]
    exact .ok h
  | error h =>
    rw [act_error ha, act_error hb]
    exact .error h
  | excused h =>
    rw [act_error ha]
    exact .excused ⟨_, rfl, h⟩

theorem onLine (line : Option Line) (h : Pairs X C x y) :
    Pairs X C (Exec.onLine line x) (Exec.onLine line y) := by
  refine ⟨fun {m n} hmn => ?_⟩
  have hxy := h.together hmn
  generalize hx : x m = r at hxy
  generalize hy : y n = r' at hxy
  cases hxy with
  | ok h =>
    rw [onLine_ok hx, onLine_ok hy]
    exact .ok h
  | error h =>
    rw [onLine_error hx, onLine_error hy]
    exact .error h
  | excused h =>
    obtain ⟨f, rfl, hf⟩ := h
    rw [onLine_error hx]
    exact .excused ⟨_, rfl, hf⟩

theorem inFrame (taken : Bool) (h : Pairs X C x y) :
    Pairs X C (Exec.inFrame taken x) (Exec.inFrame taken y) := by
  refine ⟨fun {m n} hmn => ?_⟩
  have hentered : Machine.Beside C (m.withFrames (m.frames.enter taken))
      (n.withFrames (n.frames.enter taken)) :=
    ⟨hmn.store, congrArg (·.enter taken) hmn.frames, hmn.console⟩
  have hxy := h.together hentered
  generalize hx : x (m.withFrames (m.frames.enter taken)) = r at hxy
  generalize hy : y (n.withFrames (n.frames.enter taken)) = r' at hxy
  cases hxy with
  | ok h =>
    rw [inFrame_ok hx, inFrame_ok hy]
    exact .ok ⟨h.store, congrArg Frames.leave h.frames, h.console⟩
  | error h =>
    rw [inFrame_error hx, inFrame_error hy]
    exact .error ⟨h.store, congrArg Frames.leave h.frames, h.console⟩
  | excused h =>
    rw [inFrame_error hx]
    exact .excused h

theorem isLive : Pairs X C Exec.isLive Exec.isLive := by
  refine ⟨fun {m n} hmn => ?_⟩
  have hn : Exec.isLive n = .ok m.frames.isLive n :=
    congrArg (fun frames => EStateM.Result.ok (Frames.isLive frames) n) hmn.frames
  rw [hn]
  exact .ok hmn

theorem ifLive {x y : Exec Signal} (h : Pairs X C x y) : Pairs X C (Exec.ifLive x) (Exec.ifLive y) :=
  isLive.bind fun _ => h.ite (.pure _)

theorem arm {x y : Exec Signal} (taken : Bool) (h : Pairs X C x y) :
    Pairs X C (Exec.arm taken x) (Exec.arm taken y) :=
  .inFrame taken h.ifLive

theorem rounds {cond cond' : Exec Bool} {body body' : Exec Signal} {update update' : Exec Unit}
    (hc : Pairs X C cond cond') (hb : Pairs X C body body') (hu : Pairs X C update update')
    (limit : Nat) :
    Pairs X C (Exec.rounds cond body update limit) (Exec.rounds cond' body' update' limit) := by
  induction limit with
  | zero => exact .throw _
  | succ limit ih =>
    refine hc.bind fun holds => .ite (hb.bind fun signal => ?_) (.pure _)
    exact .ite (.pure _) (hu.bind fun _ => ih)

theorem roundsAfter {body body' : Exec Signal} {cond cond' : Exec Bool} (hb : Pairs X C body body')
    (hc : Pairs X C cond cond') (limit : Nat) :
    Pairs X C (Exec.roundsAfter body cond limit) (Exec.roundsAfter body' cond' limit) := by
  induction limit with
  | zero => exact .throw _
  | succ limit ih =>
    refine hb.bind fun signal => .ite (.pure _) ?_
    exact hc.bind fun holds => .ite ih (.pure _)

theorem eval (e : Expr) : Pairs X C (Exec.eval e) (Exec.eval e) := .act (Act.eval_lockstep _)

theorem condition (e : Expr) : Pairs X C (Exec.condition e) (Exec.condition e) :=
  .act (Act.eval_lockstep _)

end Lockstep

/-! ## Statements -/

namespace Stmt

open Exec

variable {settings settings' : Settings} {limit : Nat} {X : Fault → Prop}
  {C : Console → Console → Prop}

mutual
theorem exec_lockstep (h : Console.Parallel settings settings' X C) :
    (s : Stmt) → Pairs X C (s.exec settings limit) (s.exec settings' limit)
  | .action line a => by
      rw [exec, exec]
      exact .onLine line (.bind (.act ((Act.lockstep h).perform a)) fun _ => .pure _)
  | .jump line j => by
      rw [exec, exec]
      exact .onLine line (.pure _)
  | .branch line cond body elseIfs otherwise => by
      rw [exec, exec]
      refine .onLine line (.bind (.condition cond) fun holds => ?_)
      refine .bind (.arm holds (execAll_lockstep h body)) fun signal => ?_
      refine .bind (execElseIfs_lockstep h _ _ elseIfs) fun (chain, signal) => ?_
      exact .ite (execOtherwise_lockstep h _ otherwise) (.pure _)
  | .loop line init cond update body => by
      rw [exec, exec]
      refine .onLine line (.ifLive (.bind (execOption_lockstep h init) fun _ => ?_))
      exact .rounds (.condition cond) (.inFrame true (execAll_lockstep h body))
        (execOption_lockstep h update) limit
  | .doWhile line body cond => by
      rw [exec, exec]
      refine .onLine line (.ifLive ?_)
      exact .roundsAfter (.inFrame true (execAll_lockstep h body)) (.condition cond) limit
  | .switch line scrutinee cases fallback => by
      rw [exec, exec]
      refine .onLine line (.bind (.eval scrutinee) fun v => ?_)
      exact execCases_lockstep h v (execFallback_lockstep h fallback) cases

theorem execOption_lockstep (h : Console.Parallel settings settings' X C) : (s : Option Stmt) →
    Pairs X C (execOption settings limit s) (execOption settings' limit s)
  | none => .pure _
  | some s => by
      rw [execOption, execOption]
      exact .bind (exec_lockstep h s) fun _ => .pure _

theorem execAll_lockstep (h : Console.Parallel settings settings' X C) : (body : List Stmt) →
    Pairs X C (execAll settings limit body) (execAll settings' limit body)
  | [] => .pure _
  | s :: rest => by
      rw [execAll, execAll]
      exact .bind (exec_lockstep h s) fun signal => .ite (execAll_lockstep h rest) (.pure _)

theorem execElseIfs_lockstep (h : Console.Parallel settings settings' X C) (chain : Chain)
    (signal : Signal) : (arms : List (Expr × List Stmt)) →
    Pairs X C (execElseIfs settings limit chain signal arms)
      (execElseIfs settings' limit chain signal arms)
  | [] => .pure _
  | (cond, body) :: rest => by
      rw [execElseIfs, execElseIfs]
      refine .bind (.condition cond) fun holds => ?_
      refine .bind (.arm _ (execAll_lockstep h body)) fun next => ?_
      exact execElseIfs_lockstep h _ _ rest

theorem execOtherwise_lockstep (h : Console.Parallel settings settings' X C) (taken : Bool) :
    (body : Option (List Stmt)) →
    Pairs X C (execOtherwise settings limit taken body) (execOtherwise settings' limit taken body)
  | none => .pure _
  | some body => by
      rw [execOtherwise, execOtherwise]
      exact .arm taken (execAll_lockstep h body)

theorem execFallback_lockstep (h : Console.Parallel settings settings' X C) :
    (body : Option (List Stmt)) →
    Pairs X C (execFallback settings limit body) (execFallback settings' limit body)
  | none => .pure _
  | some body => by
      rw [execFallback, execFallback]
      exact .inFrame true (execAll_lockstep h body)

theorem execCases_lockstep (h : Console.Parallel settings settings' X C) (v : Value)
    {fallback fallback' : Exec Signal} (hf : Pairs X C fallback fallback') :
    (cases : List (Expr × List Stmt)) →
    Pairs X C (execCases settings limit v fallback cases)
      (execCases settings' limit v fallback' cases)
  | [] => hf
  | (value, body) :: rest => by
      rw [execCases, execCases]
      refine .bind (.eval value) fun c => .ite (.inFrame true (execAll_lockstep h body)) ?_
      exact execCases_lockstep h v hf rest
end

theorem execTop_lockstep (h : Console.Parallel settings settings' X C) (stmts : List Stmt) :
    Pairs X C (execTop settings limit stmts) (execTop settings' limit stmts) := by
  induction stmts with
  | nil => exact .pure ()
  | cons s rest ih =>
    refine .bind (exec_lockstep h s) fun signal => ?_
    cases signal.stray? with
    | none => exact ih
    | some fault => exact .throw _

end Stmt

/-! ## Programs -/

/-- How the execution of a program ends, whether the program is accepted or not. -/
def Program.executed (settings : Settings) (limit : Nat) (p : Program) (console : Console) :
    Outcome × Machine :=
  Outcome.ofResult (p.exec settings limit (.start console))

/-- Two runs end in the same way on machines that differ in related consoles, unless the first one
ends in an excused fault. -/
def Outcome.SameEnd (X : Fault → Prop) (C : Console → Console → Prop) (r r' : Outcome × Machine) :
    Prop :=
  (∃ f, r.1 = .failed f ∧ X f.fault) ∨ (r'.1 = r.1 ∧ Machine.Beside C r.2 r'.2)

/-- Two runs end in the same way and leave the same store. -/
structure Outcome.SameResult (r r' : Outcome × Machine) : Prop where
  outcome : r'.1 = r.1
  store : r'.2.store = r.2.store

section
variable {X : Fault → Prop} {C : Console → Console → Prop}

theorem Together.sameEnd {r r' : EStateM.Result Halt Machine Unit}
    (h : Together (Halt.Excused X) (Machine.Beside C) r r') :
    Outcome.SameEnd X C (Outcome.ofResult r) (Outcome.ofResult r') := by
  cases h with
  | ok h => exact .inr ⟨rfl, h⟩
  | @error halt _ _ h => cases halt <;> exact .inr ⟨rfl, h⟩
  | excused h =>
    obtain ⟨f, rfl, hf⟩ := h
    exact .inl ⟨f, rfl, hf⟩

namespace Program

variable {settings settings' : Settings} {c d : Console}

theorem executed_sameEnd (h : Console.Parallel settings settings' X C) (hC : C c d) (limit : Nat)
    (p : Program) :
    Outcome.SameEnd X C (p.executed settings limit c) (p.executed settings' limit d) := by
  have hstart : Machine.Beside C ⟨.empty, [], c⟩ ⟨.empty, [], d⟩ := ⟨rfl, rfl, hC⟩
  exact ((Stmt.execTop_lockstep h p.stmts).together hstart).sameEnd

/-- A refused program leaves its console as it is. -/
theorem run_sameEnd (h : Console.Parallel settings settings' X C) (hC : C c d) (limit : Nat)
    (p : Program) : Outcome.SameEnd X C (p.run settings limit c) (p.run settings' limit d) := by
  unfold run
  obtain ⟨annotated, checker⟩ := p.checked
  cases hclean : checker.diagnostics.isEmpty with
  | true =>
    simp only [hclean, if_true]
    exact executed_sameEnd h hC limit annotated
  | false =>
    simp only [hclean]
    exact .inr ⟨rfl, rfl, rfl, hC⟩

end Program

end

end Primer
