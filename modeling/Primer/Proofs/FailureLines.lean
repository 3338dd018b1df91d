import Primer.Proofs.JumpSafety
import Primer.Proofs.Lines

/-!
# The lines of failures

A failure leaves every statement that is being executed, from the inside out, and takes the line of the
first that has one. The statements that a failed run has left unfinished are thus those that were being
executed when the failure arose, and its line is that of the innermost of them with a line. A jump that
no loop takes up is different: the statement ends with a signal, and only a statement of the program
itself gives its line to the failure.
-/

namespace Primer

/-! ## Unfinished statements -/

/-- What a statement performs or evaluates itself, outside the statements that it holds. -/
def Stmt.pieces : Stmt → List Piece
  | action _ a => [.action a]
  | jump _ _ => []
  | branch _ cond _ elseIfs _ => .condition cond :: elseIfs.map fun arm => .condition arm.1
  | loop _ _ cond _ _ | doWhile _ _ cond => [.condition cond]
  | switch _ scrutinee cases _ => .value scrutinee :: cases.map fun case => .value case.1

/-- The statement that is called, if its execution does not come to an end. -/
def Call.unfinished? (settings : Settings) (limit : Nat) (c : Call) : Option Stmt :=
  match c.part with
  | .stmt s =>
    match s.exec settings limit c.machine with
    | .ok _ _ => none
    | .error _ _ => some s
  | _ => none

section
variable (settings : Settings) (limit : Nat)

/-- The statements among the calls whose executions do not come to an end, from the outside in. -/
def unfinished (calls : List Call) : List Stmt := calls.filterMap (·.unfinished? settings limit)

variable {s : Stmt} {m m' : Machine} {path : List Region} (calls rest : List Call)

@[simp] theorem unfinished_append : unfinished settings limit (calls ++ rest) =
    unfinished settings limit calls ++ unfinished settings limit rest :=
  List.filterMap_append

@[simp] theorem unfinished_block (body : List Stmt) :
    unfinished settings limit (⟨.block body, m, path⟩ :: calls) =
      unfinished settings limit calls :=
  rfl

@[simp] theorem unfinished_under (r : Region) :
    unfinished settings limit (calls.map (·.under r)) = unfinished settings limit calls :=
  List.filterMap_map

theorem unfinished_ok {signal : Signal} (h : s.exec settings limit m = .ok signal m') :
    unfinished settings limit (⟨.stmt s, m, path⟩ :: calls) = unfinished settings limit calls :=
  List.filterMap_cons_none (by simp only [Call.unfinished?, h])

theorem unfinished_error {halt : Halt} (h : s.exec settings limit m = .error halt m') :
    unfinished settings limit (⟨.stmt s, m, path⟩ :: calls) =
      s :: unfinished settings limit calls :=
  List.filterMap_cons_some (by simp only [Call.unfinished?, h])

end

/-! ## Where a failure arises -/

/-- The fault of a failure is that of the last call, a piece of the innermost unfinished statement, and
its line is that of the innermost unfinished statement with a line. The statements and the pieces are
those of the place that the calls are from. -/
structure Failure.ArisesIn (settings : Settings) (limit : Nat) (stmts : List Stmt)
    (pieces : List Piece) (calls : List Call) (f : Failure) : Prop where
  piece : ∃ c p m, calls.getLast? = some c ∧ c.part = .piece p ∧
    p.act settings c.machine = .error f.fault m ∧
    Nested (p ∈ ·.pieces) (p ∈ pieces) stmts (unfinished settings limit calls)
  line : f.line = innermostLine (unfinished settings limit calls)

namespace Failure.ArisesIn

variable {settings : Settings} {limit : Nat} {stmts : List Stmt} {pieces : List Piece}
  {calls : List Call} {f : Failure}

theorem append {before : List Call} (hbefore : unfinished settings limit before = [])
    (h : f.ArisesIn settings limit stmts pieces calls) :
    f.ArisesIn settings limit stmts pieces (before ++ calls) := by
  have hcalls : unfinished settings limit (before ++ calls) = unfinished settings limit calls := by
    rw [unfinished_append, hbefore, List.nil_append]
  obtain ⟨⟨c, p, m, hlast, hpart, hact, hnested⟩, hline⟩ := h
  rw [← hcalls] at hnested hline
  exact ⟨⟨c, p, m, by simp [List.getLast?_append, hlast], hpart, hact, hnested⟩, hline⟩

theorem under (r : Region) (h : f.ArisesIn settings limit stmts pieces calls) :
    f.ArisesIn settings limit stmts pieces (calls.map (·.under r)) := by
  obtain ⟨⟨c, p, m, hlast, hpart, hact, hnested⟩, hline⟩ := h
  rw [← unfinished_under (r := r)] at hnested hline
  exact ⟨⟨c.under r, p, m, by simp [hlast], hpart, hact, hnested⟩, hline⟩

/-- The line of a statement goes to the failures in it that have none. -/
theorem stmt {s : Stmt} {m m' : Machine} {halt : Halt} {path : List Region} (hs : s ∈ stmts)
    (hrun : s.exec settings limit m = .error halt m')
    (h : f.ArisesIn settings limit s.inner s.pieces calls) :
    (f.orLine s.line).ArisesIn settings limit stmts pieces (⟨.stmt s, m, path⟩ :: calls) := by
  obtain ⟨⟨c, p, m₁, hlast, hpart, hact, hnested⟩, hline⟩ := h
  constructor
  · refine ⟨c, p, m₁, by simp [List.getLast?_cons, hlast], hpart, hact, ?_⟩
    rw [unfinished_error _ _ _ hrun]
    exact ⟨hs, hnested⟩
  · rw [unfinished_error _ _ _ hrun, innermostLine_cons, ← hline]
    rfl

end Failure.ArisesIn

/-! ## Executions -/

/-- An execution that comes to its end leaves no statement unfinished, and its failures arise in the
statements and the pieces that are given. -/
structure Traced.Blames {α : Type} (settings : Settings) (limit : Nat) (stmts : List Stmt)
    (pieces : List Piece) (x : Traced α) : Prop where
  ends : ∀ {m a m'}, x.run m = .ok a m' → unfinished settings limit (x.calls m) = []
  fails : ∀ {m f m'}, x.run m = .error (.failed f) m' →
    f.ArisesIn settings limit stmts pieces (x.calls m)

namespace Traced.Blames

variable {settings : Settings} {limit : Nat} {stmts : List Stmt} {pieces : List Piece}
  {α β : Type} {x : Traced α}

theorem silent {y : Exec α} (h : ∀ {m f m'}, y m ≠ .error (.failed f) m') :
    (Traced.silent y).Blames settings limit stmts pieces :=
  ⟨fun _ => rfl, fun hr => absurd hr h⟩

theorem pure (a : α) : (Pure.pure a : Traced α).Blames settings limit stmts pieces :=
  .silent nofun

theorem bind {f : α → Traced β} (hx : x.Blames settings limit stmts pieces)
    (hf : ∀ a, (f a).Blames settings limit stmts pieces) :
    (x >>= f).Blames settings limit stmts pieces := by
  constructor
  · intro m b m' hr
    cases hrun : x.run m with
    | ok a m₁ =>
      rw [run_bind_ok hrun] at hr
      rw [calls_bind_ok hrun, unfinished_append, hx.ends hrun, (hf a).ends hr, List.nil_append]
    | error halt m₁ =>
      rw [run_bind_error hrun] at hr
      cases hr
  · intro m f' m' hr
    cases hrun : x.run m with
    | ok a m₁ =>
      rw [run_bind_ok hrun] at hr
      rw [calls_bind_ok hrun]
      exact ((hf a).fails hr).append (hx.ends hrun)
    | error halt m₁ =>
      rw [run_bind_error hrun] at hr
      cases hr
      rw [calls_bind_error hrun]
      exact hx.fails hrun

theorem ite {p : Prop} [Decidable p] {y : Traced α} (hx : x.Blames settings limit stmts pieces)
    (hy : y.Blames settings limit stmts pieces) :
    (if p then x else y).Blames settings limit stmts pieces := by
  split
  · exact hx
  · exact hy

/-- A piece has no statement around it, so that its failures have no line. -/
theorem piece {p : Piece} {a : Act α} (hp : p ∈ pieces)
    (herror : ∀ {m f m'}, a m = .error f m' → p.act settings m = .error f m') :
    (Traced.piece p a).Blames settings limit stmts pieces := by
  refine ⟨fun _ => rfl, fun {m f m'} hr => ?_⟩
  cases ha : a m with
  | ok v m₁ =>
    rw [show (Traced.piece p a).run m = _ from Exec.act_ok ha] at hr
    cases hr
  | error fault m₁ =>
    rw [show (Traced.piece p a).run m = _ from Exec.act_error ha] at hr
    cases hr
    exact ⟨⟨_, p, m', rfl, rfl, herror ha, hp⟩, rfl⟩

theorem perform {a : Action} (h : .action a ∈ pieces) :
    (Traced.perform settings a).Blames settings limit stmts pieces :=
  .piece h id

theorem eval {e : Expr} (h : .value e ∈ pieces) :
    (Traced.eval e).Blames settings limit stmts pieces :=
  .piece h fun hf => Ends.run_bind_error hf

theorem condition {e : Expr} (h : .condition e ∈ pieces) :
    (Traced.condition e).Blames settings limit stmts pieces :=
  .piece h fun hf => Ends.run_bind_error hf

theorem block {x : Traced Signal} (body : List Stmt)
    (hx : x.Blames settings limit stmts pieces) :
    (Traced.call (.block body) x).Blames settings limit stmts pieces :=
  ⟨fun hr => hx.ends hr, fun hr => (hx.fails hr).append (unfinished_block settings limit [] body)⟩

theorem within (r : Region) (hx : x.Blames settings limit stmts pieces) :
    (Traced.within r x).Blames settings limit stmts pieces :=
  ⟨fun hr => (unfinished_under ..).trans (hx.ends hr), fun hr => (hx.fails hr).under r⟩

theorem inFrame (taken : Bool) (hx : x.Blames settings limit stmts pieces) :
    (Traced.inFrame taken x).Blames settings limit stmts pieces := by
  constructor
  · intro m a m' hr
    cases hrun : x.run (m.withFrames (m.frames.enter taken)) with
    | ok b m₁ => exact hx.ends hrun
    | error halt m₁ =>
      rw [show (Traced.inFrame taken x).run m = _ from Exec.inFrame_error hrun] at hr
      cases hr
  · intro m f m' hr
    cases hrun : x.run (m.withFrames (m.frames.enter taken)) with
    | ok b m₁ =>
      rw [show (Traced.inFrame taken x).run m = _ from Exec.inFrame_ok hrun] at hr
      cases hr
    | error halt m₁ =>
      rw [show (Traced.inFrame taken x).run m = _ from Exec.inFrame_error hrun] at hr
      cases hr
      exact hx.fails hrun

theorem ifLive {x : Traced Signal} (hx : x.Blames settings limit stmts pieces) :
    (Traced.ifLive x).Blames settings limit stmts pieces :=
  .bind (.silent nofun) fun _ => .ite hx (.pure _)

theorem arm (taken : Bool) {x : Traced Signal} (hx : x.Blames settings limit stmts pieces) :
    (Traced.arm taken x).Blames settings limit stmts pieces :=
  .inFrame taken (.ifLive hx)

theorem rounds {cond : Traced Bool} {body : Traced Signal} {update : Traced Unit}
    (hc : cond.Blames settings limit stmts pieces)
    (hb : body.Blames settings limit stmts pieces)
    (hu : update.Blames settings limit stmts pieces) (n : Nat) :
    (Traced.rounds cond body update n).Blames settings limit stmts pieces := by
  induction n with
  | zero => exact .silent nofun
  | succ n ih =>
    refine .bind hc fun holds => .ite (.bind hb fun signal => ?_) (.pure _)
    exact .ite (.pure _) (.bind hu fun _ => ih)

theorem roundsAfter {body : Traced Signal} {cond : Traced Bool}
    (hb : body.Blames settings limit stmts pieces)
    (hc : cond.Blames settings limit stmts pieces) (n : Nat) :
    (Traced.roundsAfter body cond n).Blames settings limit stmts pieces := by
  induction n with
  | zero => exact .silent nofun
  | succ n ih =>
    exact .bind hb fun signal => .ite (.pure _) (.bind hc fun holds => .ite ih (.pure _))

/-- A statement is unfinished if what it holds fails, and is then the one around it. -/
theorem stmt {s : Stmt} {x : Traced Signal} (hs : s ∈ stmts)
    (hexec : (Traced.onLine s.line x).run = s.exec settings limit)
    (hx : x.Blames settings limit s.inner s.pieces) :
    (Traced.call (.stmt s) (.onLine s.line x)).Blames settings limit stmts pieces := by
  constructor
  · intro m signal m' hr
    have hrun : s.exec settings limit m = .ok signal m' := by rw [← hexec]; exact hr
    cases hin : x.run m with
    | ok a m₁ => exact (unfinished_ok _ _ _ hrun).trans (hx.ends hin)
    | error halt m₁ =>
      rw [run_call, show (Traced.onLine s.line x).run m = _ from Exec.onLine_error hin] at hr
      cases hr
  · intro m f m' hr
    have hrun : s.exec settings limit m = .error (.failed f) m' := by rw [← hexec]; exact hr
    cases hin : x.run m with
    | ok a m₁ =>
      rw [run_call, show (Traced.onLine s.line x).run m = _ from Exec.onLine_ok hin] at hr
      cases hr
    | error halt m₁ =>
      rw [run_call, show (Traced.onLine s.line x).run m = _ from Exec.onLine_error hin] at hr
      cases halt with
      | failed f₁ =>
        cases hr
        exact (hx.fails hin).stmt hs hrun
      | outOfRounds => cases hr

end Traced.Blames

/-! ## Statements -/

namespace Stmt

section
variable {settings : Settings} {limit : Nat}

open Traced

mutual
theorem trace_blames : (s : Stmt) → {stmts : List Stmt} → {pieces : List Piece} → s ∈ stmts →
    (s.trace settings limit).Blames settings limit stmts pieces
  | .action line a, _, _, hs => by
      have hexec := trace_run settings limit (.action line a)
      rw [trace] at hexec ⊢
      exact .stmt hs hexec (.bind (.perform (by simp [Stmt.pieces])) fun _ => .pure _)
  | .jump line j, _, _, hs => by
      have hexec := trace_run settings limit (.jump line j)
      rw [trace] at hexec ⊢
      exact .stmt hs hexec (.pure _)
  -- what a statement holds is executed among its inner statements and its own pieces
  | .branch line cond body elseIfs otherwise, _, _, hs => by
      have hexec := trace_run settings limit (.branch line cond body elseIfs otherwise)
      rw [trace] at hexec ⊢
      refine .stmt hs hexec (.bind (.condition (by simp [Stmt.pieces])) fun holds => ?_)
      refine .bind (.arm holds (.block body (traceAll_blames body (by simp [inner])))) fun signal => ?_
      refine .bind (traceElseIfs_blames _ _ elseIfs fun arm harm => ?_) fun (chain, signal) => ?_
      · exact ⟨List.mem_cons_of_mem _ (List.mem_map.mpr ⟨arm, harm, rfl⟩),
          elseIf_inner line cond harm body otherwise⟩
      · exact .ite (traceOtherwise_blames _ otherwise (by simp [inner])) (.pure _)
  | .loop line init cond update body, _, _, hs => by
      have hexec := trace_run settings limit (.loop line init cond update body)
      rw [trace] at hexec ⊢
      refine .stmt hs hexec (.ifLive ?_)
      refine .bind (.within .clause (traceOption_blames init ?_)) fun _ => ?_
      · simp [inner]
      refine .rounds (.condition ?_)
        (.within .body (.inFrame true (.block body (traceAll_blames body ?_))))
        (.within .clause (traceOption_blames update ?_)) limit
      all_goals simp [inner, Stmt.pieces]
  | .doWhile line body cond, _, _, hs => by
      have hexec := trace_run settings limit (.doWhile line body cond)
      rw [trace] at hexec ⊢
      refine .stmt hs hexec (.ifLive (.roundsAfter
        (.within .body (.inFrame true (.block body (traceAll_blames body ?_))))
        (.condition ?_) limit))
      all_goals simp [inner, Stmt.pieces]
  | .switch line scrutinee cases fallback, _, _, hs => by
      have hexec := trace_run settings limit (.switch line scrutinee cases fallback)
      rw [trace] at hexec ⊢
      refine .stmt hs hexec (.bind (.eval (by simp [Stmt.pieces])) fun v => ?_)
      refine traceCases_blames v cases (traceFallback_blames fallback (by simp [inner])) ?_
      intro case hcase
      exact ⟨List.mem_cons_of_mem _ (List.mem_map.mpr ⟨case, hcase, rfl⟩),
        case_inner line scrutinee hcase fallback⟩
termination_by structural s => s

theorem traceOption_blames : (s : Option Stmt) → {stmts : List Stmt} → {pieces : List Piece} →
    s.toList ⊆ stmts → (traceOption settings limit s).Blames settings limit stmts pieces
  | none, _, _, _ => .pure ()
  | some s, _, _, hs =>
      .bind (trace_blames s (hs (List.mem_singleton_self s))) fun _ => .pure ()
termination_by structural s => s

theorem traceAll_blames : (body : List Stmt) → {stmts : List Stmt} → {pieces : List Piece} →
    body ⊆ stmts → (traceAll settings limit body).Blames settings limit stmts pieces
  | [], _, _, _ => .pure _
  | s :: rest, _, _, hbody => by
      obtain ⟨hs, hrest⟩ := List.cons_subset.mp hbody
      rw [traceAll]
      exact .bind (trace_blames s hs) fun signal => .ite (traceAll_blames rest hrest) (.pure _)
termination_by structural body => body

theorem traceElseIfs_blames (chain : Chain) (signal : Signal) :
    (arms : List (Expr × List Stmt)) → {stmts : List Stmt} → {pieces : List Piece} →
    (∀ arm ∈ arms, Piece.condition arm.1 ∈ pieces ∧ arm.2 ⊆ stmts) →
    (traceElseIfs settings limit chain signal arms).Blames settings limit stmts pieces
  | [], _, _, _ => .pure _
  | (cond, body) :: rest, _, _, harms => by
      obtain ⟨⟨hcond, hbody⟩, hrest⟩ := List.forall_mem_cons.mp harms
      rw [traceElseIfs]
      refine .bind (.condition hcond) fun holds => ?_
      refine .bind (.arm _ (.block body (traceAll_blames body hbody))) fun next => ?_
      exact traceElseIfs_blames _ _ rest hrest
termination_by structural arms => arms

theorem traceOtherwise_blames (taken : Bool) : (body : Option (List Stmt)) →
    {stmts : List Stmt} → {pieces : List Piece} → body.getD [] ⊆ stmts →
    (traceOtherwise settings limit taken body).Blames settings limit stmts pieces
  | none, _, _, _ => .pure _
  | some body, _, _, hbody => .arm taken (.block body (traceAll_blames body hbody))
termination_by structural body => body

theorem traceFallback_blames : (body : Option (List Stmt)) → {stmts : List Stmt} →
    {pieces : List Piece} → body.getD [] ⊆ stmts →
    (traceFallback settings limit body).Blames settings limit stmts pieces
  | none, _, _, _ => .pure _
  | some body, _, _, hbody => .inFrame true (.block body (traceAll_blames body hbody))
termination_by structural body => body

theorem traceCases_blames (v : Value) {fallback : Traced Signal} :
    (cases : List (Expr × List Stmt)) → {stmts : List Stmt} → {pieces : List Piece} →
    fallback.Blames settings limit stmts pieces →
    (∀ case ∈ cases, Piece.value case.1 ∈ pieces ∧ case.2 ⊆ stmts) →
    (traceCases settings limit v fallback cases).Blames settings limit stmts pieces
  | [], _, _, hf, _ => hf
  | (value, body) :: rest, _, _, hf, hcases => by
      obtain ⟨⟨hvalue, hbody⟩, hrest⟩ := List.forall_mem_cons.mp hcases
      rw [traceCases]
      refine .bind (.eval hvalue) fun c => ?_
      refine .ite (.inFrame true (.block body (traceAll_blames body hbody))) ?_
      exact traceCases_blames v rest hf hrest
termination_by structural cases => cases
end

end

end Stmt

/-! ## Programs -/

theorem Signal.isStray_of_stray? {signal : Signal} {fault : Fault}
    (h : signal.stray? = some fault) : fault.isStray = true := by
  cases signal <;> cases h <;> rfl

/-- The failure is the signal with which one of the statements ends on the last machine, behind those
that leave no signal over. It has the line of this statement. -/
def Failure.StrayIn (settings : Settings) (limit : Nat) (stmts : List Stmt) (m m' : Machine)
    (f : Failure) : Prop :=
  ∃ before s after m₁ signal, stmts = before ++ s :: after ∧
    execTop settings limit before m = .ok () m₁ ∧ s.exec settings limit m₁ = .ok signal m' ∧
    signal.stray? = some f.fault ∧ f.line = s.line

section
variable {settings : Settings} {limit : Nat}

theorem Failure.StrayIn.isStray {stmts : List Stmt} {m m' : Machine} {f : Failure}
    (h : f.StrayIn settings limit stmts m m') : f.fault.isStray = true := by
  obtain ⟨_, _, _, _, _, -, -, -, hsignal, -⟩ := h
  exact Signal.isStray_of_stray? hsignal

theorem traceTop_blames {stmts rest : List Stmt} (hrest : rest ⊆ stmts) {m m' : Machine}
    {f : Failure} (h : (traceTop settings limit rest).run m = .error (.failed f) m') :
    f.ArisesIn settings limit stmts [] ((traceTop settings limit rest).calls m) ∨
      f.StrayIn settings limit rest m m' := by
  induction rest generalizing m with
  | nil => cases h
  | cons s rest ih =>
    obtain ⟨hs, hrest⟩ := List.cons_subset.mp hrest
    obtain ⟨hends, hfails⟩ : (s.trace settings limit).Blames settings limit stmts [] :=
      s.trace_blames hs
    cases hrun : (s.trace settings limit).run m with
    | error halt m₁ =>
      rw [traceTop, Traced.run_bind_error hrun] at h
      cases h
      rw [traceTop, Traced.calls_bind_error hrun]
      exact .inl (hfails hrun)
    | ok signal m₁ =>
      have hexec : s.exec settings limit m = .ok signal m₁ := by rw [← s.trace_run, hrun]
      rw [traceTop, Traced.run_bind_ok hrun] at h
      rw [traceTop, Traced.calls_bind_ok hrun]
      cases hstray : signal.stray? with
      | some fault =>
        rw [hstray] at h
        cases h
        exact .inr ⟨[], s, rest, m, signal, rfl, rfl, hexec, hstray, rfl⟩
      | none =>
        rw [hstray] at h
        -- the statement is finished and leaves no signal, so that the failure is that of the rest
        rcases ih hrest h with harises | ⟨before, s', after, m₂, signal', rfl, hbefore, hsignal⟩
        · exact .inl (harises.append (hends hrun))
        · refine .inr ⟨s :: before, s', after, m₂, signal', rfl, ?_, hsignal⟩
          rw [execTop, Ends.run_bind_ok hexec, hstray]
          exact hbefore

namespace Program

/-- A failure arises in a piece of the program, and its line is that of the innermost statement around
it that has one. A signal that no loop takes up has the line of the statement of the program that ends
with it. -/
theorem failure_on_line {p : Program} {m m' : Machine} {f : Failure}
    (h : p.exec settings limit m = .error (.failed f) m') :
    (f.fault.isStray = false →
      f.ArisesIn settings limit p.stmts [] (p.calls settings limit m)) ∧
    (f.fault.isStray = true →
      f.StrayIn settings limit p.stmts { m with store := .empty, frames := [] } m') := by
  rw [exec_eq, ← traceTop_run] at h
  rcases traceTop_blames (List.Subset.refl p.stmts) h with harises | hstray
  -- no piece fails with the fault of a jump, so that the two cases exclude each other
  · have hpiece : f.fault.isStray = false := by
      obtain ⟨c, q, m₁, hlast, hpart, hact, -⟩ := harises.piece
      exact Call.FailsWith.not_stray ⟨q, m₁, hpart, hact⟩
        (call_wellTyped (List.mem_of_getLast? hlast))
    exact ⟨fun _ => harises, fun htrue => absurd htrue (by simp [hpiece])⟩
  · exact ⟨fun hfalse => absurd hfalse (by simp [hstray.isStray]), fun _ => hstray⟩

/-- A branch with a loop in it whose condition is not declared. Only the branch has a line. -/
def undeclaredCondition : Program where
  stmts := [.branch (some 4) (.lit .logic "true")
    [.loop none none (.var .unknown "b") none []] [] none]

theorem undeclaredCondition_on_line : ∃ f m,
    undeclaredCondition.exec .default 10 (.start .silent) = .error (.failed f) m ∧
      f.fault = .undefinedVariable "b" ∧ f.line = some 4 ∧
      f.ArisesIn .default 10 undeclaredCondition.stmts []
        (undeclaredCondition.calls .default 10 (.start .silent)) :=
  ⟨_, _, rfl, rfl, rfl, (failure_on_line (p := undeclaredCondition) rfl).1 rfl⟩

end Program

end

end Primer
