import Primer.Proofs.Jumps
import Primer.Proofs.StoreSafety

/-!
# The safety of jumps

The check reports every jump that stands in no body of a loop, and no other. Without such a jump each
statement of a program ends normally if it ends, whatever else may be wrong with the program, so that
no signal is left when the statement is done.
-/

namespace Primer

/-! ## Results -/

/-- An execution whose result has a property whenever there is one. -/
def Exec.Returns {α : Type} (Q : α → Prop) (x : Exec α) : Prop := ∀ m a m', x m = .ok a m' → Q a

namespace Exec.Returns

variable {α β : Type} {Q : α → Prop} {R : β → Prop} {x : Exec α}

theorem pure {a : α} (h : Q a) : Returns Q (Pure.pure a) := by
  rintro m _ _ ⟨⟩
  exact h

theorem throw (halt : Halt) : Returns Q (MonadExcept.throw halt : Exec α) := by
  rintro m a m' ⟨⟩

theorem any (x : Exec α) : Returns (fun _ => True) x := fun _ _ _ _ => trivial

theorem mono {Q' : α → Prop} (h : Returns Q x) (hQ : ∀ a, Q a → Q' a) : Returns Q' x :=
  fun m a m' ha => hQ a (h m a m' ha)

theorem bind {f : α → Exec β} (h : Returns Q x) (hf : ∀ a, Q a → Returns R (f a)) :
    Returns R (x >>= f) := by
  intro m b m' hb
  cases hx : x m with
  | ok a m₁ =>
    rw [Ends.run_bind_ok hx] at hb
    exact hf a (h m a m₁ hx) m₁ b m' hb
  | error halt m₁ =>
    rw [Ends.run_bind_error hx] at hb
    cases hb

theorem after {f : α → Exec β} (hf : ∀ a, Returns R (f a)) : Returns R (x >>= f) :=
  (any x).bind fun a _ => hf a

/-- What comes behind an execution depends on the results that it returns, and on no other. -/
theorem congr {f g : α → Exec β} (h : Returns Q x) (hf : ∀ a, Q a → f a = g a) :
    x >>= f = x >>= g := by
  funext m
  cases hx : x m with
  | ok a m' => rw [Ends.run_bind_ok hx, Ends.run_bind_ok hx, hf a (h m a m' hx)]
  | error halt m' => rw [Ends.run_bind_error hx, Ends.run_bind_error hx]

theorem ite {p : Prop} [Decidable p] {y : Exec α} (h : Returns Q x) (h' : Returns Q y) :
    Returns Q (if p then x else y) := by
  split
  · exact h
  · exact h'

theorem onLine (line : Option Line) (h : Returns Q x) : Returns Q (Exec.onLine line x) :=
  fun m a m' ha => h m a m' (Exec.ok_of_onLine ha)

theorem inFrame (taken : Bool) (h : Returns Q x) : Returns Q (Exec.inFrame taken x) := by
  intro m a m' ha
  obtain ⟨m₁, hx⟩ := Exec.ok_of_inFrame ha
  exact h _ a m₁ hx

theorem ifLive {Q : Signal → Prop} {x : Exec Signal} (hQ : Q .normal) (h : Returns Q x) :
    Returns Q (Exec.ifLive x) :=
  after fun _ => .ite h (.pure hQ)

theorem arm {Q : Signal → Prop} {x : Exec Signal} (taken : Bool) (hQ : Q .normal)
    (h : Returns Q x) : Returns Q (Exec.arm taken x) :=
  .inFrame taken (.ifLive hQ h)

end Exec.Returns

/-- An execution that passes on no signal but the normal one. -/
abbrev Exec.Normal (x : Exec Signal) : Prop := Returns (· = .normal) x

namespace Exec.Normal

variable {x : Exec Signal}

theorem pure : Normal (Pure.pure .normal) := Returns.pure rfl

theorem ifLive (h : Normal x) : Normal (Exec.ifLive x) := Returns.ifLive rfl h

/-- A loop ends normally, whatever its body ends with. -/
theorem rounds (cond : Exec Bool) (body : Exec Signal) (update : Exec Unit) (limit : Nat) :
    Normal (Exec.rounds cond body update limit) := by
  induction limit with
  | zero => exact .throw _
  | succ limit ih =>
    refine Returns.after fun holds => .ite (.after fun signal => .ite pure ?_) pure
    exact Returns.after fun _ => ih

theorem roundsAfter (body : Exec Signal) (cond : Exec Bool) (limit : Nat) :
    Normal (Exec.roundsAfter body cond limit) := by
  induction limit with
  | zero => exact .throw _
  | succ limit ih =>
    exact Returns.after fun signal => .ite pure (.after fun holds => .ite ih pure)

end Exec.Normal

/-! ## Statements -/

namespace Stmt

open Exec

/-- Jumps all of which stand in a body. -/
def Contained (jumps : List JumpSite) : Prop := ∀ j ∈ jumps, j.isStray = false

theorem Contained.append {jumps more : List JumpSite} :
    Contained (jumps ++ more) ↔ Contained jumps ∧ Contained more :=
  List.forall_mem_append

/-- Jumps whose signal has a property where they stand in no loop. -/
def Signals (Q : Signal → Prop) (jumps : List JumpSite) : Prop :=
  ∀ j ∈ jumps, j.path = [] → Q j.jump.signal

theorem Signals.append {Q : Signal → Prop} {jumps more : List JumpSite} :
    Signals Q (jumps ++ more) ↔ Signals Q jumps ∧ Signals Q more :=
  List.forall_mem_append

/-- A jump that stands in a body stands in a loop. -/
theorem Contained.signals {jumps : List JumpSite} (h : Contained jumps) (Q : Signal → Prop) :
    Signals Q jumps := by
  intro j hj hpath
  have hstray := h j hj
  rw [JumpSite.isStray, hpath] at hstray
  cases hstray

section
variable {settings : Settings} {limit : Nat} {Q : Signal → Prop}

mutual
/-- A statement passes on no signals but the normal one and those of its jumps that stand in none of
its loops. -/
theorem exec_returns (hQ : Q .normal) : (s : Stmt) → {around : Option Line} →
    Signals Q (s.jumps around []) → Returns Q (s.exec settings limit)
  | .action line a, _ => by
      intro _
      rw [exec]
      exact .onLine line (.after fun _ => .pure hQ)
  | .jump line j, around => by
      intro h
      rw [exec]
      exact .onLine line (.pure (h _ (List.mem_singleton.mpr rfl) rfl))
  | .branch line cond body elseIfs otherwise, around => by
      intro h
      rw [jumps, Signals.append, Signals.append] at h
      obtain ⟨⟨hbody, helseIfs⟩, hotherwise⟩ := h
      rw [exec]
      refine .onLine line (.after fun holds => ?_)
      refine (Returns.arm holds hQ (execAll_returns hQ body hbody)).bind fun signal hsignal => ?_
      refine (execElseIfs_returns hQ _ hsignal elseIfs helseIfs).bind fun (chain, signal) hkept => ?_
      exact .ite (execOtherwise_returns hQ _ otherwise hotherwise) (.pure hkept)
  | .loop line init cond update body, around => by
      -- whatever stands in the loop: it takes up every signal
      intro _
      rw [exec]
      refine .onLine line (.ifLive hQ (.after fun _ => ?_))
      exact (Normal.rounds _ _ _ limit).mono fun signal hsignal => hsignal ▸ hQ
  | .doWhile line body cond, around => by
      intro _
      rw [exec]
      refine .onLine line (.ifLive hQ ?_)
      exact (Normal.roundsAfter _ _ limit).mono fun signal hsignal => hsignal ▸ hQ
  | .switch line scrutinee cases fallback, around => by
      intro h
      rw [jumps, Signals.append] at h
      rw [exec]
      refine .onLine line (.after fun v => ?_)
      exact execCases_returns hQ v (execFallback_returns hQ fallback h.2) cases h.1

theorem execAll_returns (hQ : Q .normal) : (body : List Stmt) → {around : Option Line} →
    Signals Q (jumpsAll around [] body) → Returns Q (execAll settings limit body)
  | [], _ => fun _ => .pure hQ
  | s :: rest, around => by
      intro h
      rw [jumpsAll, Signals.append] at h
      rw [execAll]
      refine (exec_returns hQ s h.1).bind fun signal hsignal => ?_
      exact .ite (execAll_returns hQ rest h.2) (.pure hsignal)

theorem execElseIfs_returns (hQ : Q .normal) (chain : Chain) {signal : Signal}
    (hsignal : Q signal) : (arms : List (Expr × List Stmt)) → {around : Option Line} →
    Signals Q (jumpsArms around [] arms) →
    Returns (fun r => Q r.2) (execElseIfs settings limit chain signal arms)
  | [], _ => fun _ => .pure hsignal
  | (cond, body) :: rest, around => by
      intro h
      rw [jumpsArms, Signals.append] at h
      rw [execElseIfs]
      refine .after fun holds => ?_
      refine (Returns.arm _ hQ (execAll_returns hQ body h.1)).bind fun next hnext => ?_
      have hkept : Q (if signal = .normal then next else signal) := by
        split
        · exact hnext
        · exact hsignal
      exact execElseIfs_returns hQ _ hkept rest h.2

theorem execOtherwise_returns (hQ : Q .normal) (taken : Bool) : (body : Option (List Stmt)) →
    {around : Option Line} → Signals Q (jumpsBody around [] body) →
    Returns Q (execOtherwise settings limit taken body)
  | none, _ => fun _ => .pure hQ
  | some body, _ => fun h => .arm taken hQ (execAll_returns hQ body h)

theorem execFallback_returns (hQ : Q .normal) : (body : Option (List Stmt)) →
    {around : Option Line} → Signals Q (jumpsBody around [] body) →
    Returns Q (execFallback settings limit body)
  | none, _ => fun _ => .pure hQ
  | some body, _ => fun h => .inFrame true (execAll_returns hQ body h)

theorem execCases_returns (hQ : Q .normal) (v : Value) {fallback : Exec Signal}
    (hf : Returns Q fallback) : (cases : List (Expr × List Stmt)) → {around : Option Line} →
    Signals Q (jumpsArms around [] cases) → Returns Q (execCases settings limit v fallback cases)
  | [], _ => fun _ => hf
  | (value, body) :: rest, around => by
      intro h
      rw [jumpsArms, Signals.append] at h
      rw [execCases]
      refine .after fun c => ?_
      exact .ite (.inFrame true (execAll_returns hQ body h.1)) (execCases_returns hQ v hf rest h.2)
end

end

/-- Without a stray jump a statement outside every body ends normally. -/
theorem exec_normal {settings : Settings} {limit : Nat} {around : Option Line} (s : Stmt)
    (h : Contained (s.jumps around [])) : Normal (s.exec settings limit) :=
  exec_returns (Q := (· = .normal)) rfl s (h.signals _)

theorem contained_of_mem {body : List Stmt} (h : Contained (jumpsAll none [] body)) {s : Stmt}
    (hs : s ∈ body) : Contained (s.jumps none []) := by
  induction body with
  | nil => cases hs
  | cons s' rest ih =>
    rw [jumpsAll, Contained.append] at h
    rcases List.mem_cons.mp hs with rfl | hs
    · exact h.1
    · exact ih h.2 hs

end Stmt

/-! ## Programs -/

theorem Call.FailsWith.not_stray {settings : Settings} {c : Call} {f : Fault}
    (h : c.FailsWith settings f) (hc : c.machine.store.WellTyped) : f.isStray = false := by
  obtain ⟨p, m, -, hf⟩ := h
  exact ((p.act_settles hc).error hf).1

namespace Program

variable {p : Program}

theorem contained_of_reports (h : ∀ d ∈ p.diagnostics, d.code ≠ .jump) :
    Stmt.Contained p.jumps := by
  have hreports := p.diagnostics_jumps
  have hnone : jumpReports p.diagnostics = [] :=
    List.filter_eq_nil_iff.mpr fun d hd => by simpa using h d hd
  rw [hnone, eq_comm, strayReports, List.map_eq_nil_iff, List.filter_eq_nil_iff] at hreports
  intro j hj
  simpa using hreports j hj

theorem stmt_normal {settings : Settings} {limit : Nat} (h : Stmt.Contained p.jumps) {s : Stmt}
    (hs : s ∈ p.stmts) : Exec.Normal (s.exec settings limit) :=
  s.exec_normal (Stmt.contained_of_mem h hs)

theorem exec_not_stray {settings : Settings} {limit : Nat} {m m' : Machine} {f : Failure}
    (h : Stmt.Contained p.jumps) (hf : p.exec settings limit m = .error (.failed f) m') :
    f.fault.isStray = false := by
  rcases fails hf with ⟨c, hc, hfails⟩ | ⟨s, hs, m₁, signal, m₂, hexec, hstray⟩
  · exact hfails.not_stray (call_wellTyped hc)
  -- a signal that is left over is the normal one, which is no fault
  · rw [stmt_normal h hs m₁ signal m₂ hexec] at hstray
    cases hstray

/-- The jumps that are reported are those in no body of a loop, one report for each. In a program
without such a jump every statement that ends does so normally, and no jump is left over. -/
theorem jumps_legal (p : Program) :
    p.diagnostics.filter (·.code = .jump) = (p.jumps.filter (·.isStray)).map (·.diagnostic) ∧
    ((∀ d ∈ p.diagnostics, d.code ≠ .jump) → ∀ q, q = p ∨ q = p.annotated →
      ∀ settings limit,
        (∀ s ∈ q.stmts, ∀ m signal m', s.exec settings limit m = .ok signal m' → signal = .normal) ∧
        ∀ m f m', q.exec settings limit m = .error (.failed f) m' →
          f.fault ≠ .breakOutsideLoop ∧ f.fault ≠ .continueOutsideLoop) := by
  refine ⟨p.diagnostics_jumps, fun h q hq settings limit => ?_⟩
  have hjumps : Stmt.Contained q.jumps := by
    rcases hq with rfl | rfl
    · exact contained_of_reports h
    · rw [annotated_jumps]
      exact contained_of_reports h
  refine ⟨fun s hs => stmt_normal hjumps hs, fun m f m' hf => ?_⟩
  have hstray := exec_not_stray hjumps hf
  constructor <;> intro hfault <;> rw [hfault] at hstray <;> cases hstray

/-- A program with a jump in its place and with a name that is not declared. -/
def undeclaredName : Program where
  stmts := [
    .loop none none (.lit .unknown "true") none
      [.branch none (.lit .unknown "true") [.jump none .breakLoop] [] none],
    .action none (.display (some (.named "x")) true)]

theorem undeclaredName_jumps_legal : undeclaredName.diagnostics ≠ [] ∧
    (∀ d ∈ undeclaredName.diagnostics, d.code ≠ .jump) ∧
    ∃ f m, undeclaredName.exec .default 10 (.start .silent) = .error (.failed f) m ∧
      f.fault ≠ .breakOutsideLoop ∧ f.fault ≠ .continueOutsideLoop := by
  have h : ∀ d ∈ undeclaredName.diagnostics, d.code ≠ .jump := by decide
  refine ⟨by decide, h, _, _, rfl, ?_⟩
  exact ((undeclaredName.jumps_legal.2 h _ (.inl rfl) .default 10).2 (.start .silent) _ _ rfl)

end Program

end Primer
