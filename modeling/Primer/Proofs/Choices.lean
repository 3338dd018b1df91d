import Mathlib.Data.List.Forall2
import Primer.Proofs.Frameless
import Primer.Proofs.Landing
import Primer.Proofs.Plans

/-!
# The choices of branches and switches

A branch asks all of its conditions in order, and executes the body of the first that holds as soon as
it is found to hold. A switch finds its value and then the values of its cases, up to the first that
selects the value. Each executes one body at most, passes on its signal, and stops with the first
failure.
-/

namespace Primer

/-! ## Plans -/

namespace Task

/-- The condition of an arm that does not hold. -/
def deny (arm : Expr × List Stmt) : Task := .ask arm.1 false

/-- The condition of an arm, whether it holds or not. -/
def Asks (arm : Expr × List Stmt) (task : Task) : Prop := ∃ answer, task = .ask arm.1 answer

/-- The value of a case that does not select the switched value. -/
def Misses (v : Value) (case : Expr × List Stmt) (task : Task) : Prop :=
  ∃ c, task = .find case.1 c ∧ v.selects c = false

theorem asks_deny (arms : List (Expr × List Stmt)) : List.Forall₂ Asks arms (arms.map deny) := by
  induction arms with
  | nil => exact .nil
  | cons arm rest ih => exact .cons ⟨false, rfl⟩ ih

end Task

/-- The conditions of the arms are asked, and no body is executed. -/
def AskPlan (arms : List (Expr × List Stmt)) (signal : Signal) : Plan Signal :=
  fun tasks result => List.Forall₂ Task.Asks arms tasks ∧ result = signal

/-- What a branch does: its first condition stands in the first of the arms. -/
inductive BranchPlan (arms : List (Expr × List Stmt)) (otherwise : Option (List Stmt)) :
    List Task → Signal → Prop where
  /-- The first condition that holds is followed by its body, and then by the other conditions. -/
  | taken {before cond body after asks signal} (harms : arms = before ++ (cond, body) :: after)
      (hasks : List.Forall₂ Task.Asks after asks) :
      BranchPlan arms otherwise
        (before.map Task.deny ++ .ask cond true :: .execute body signal :: asks) signal
  | otherwise {body signal} (hbody : otherwise = some body) :
      BranchPlan arms otherwise (arms.map Task.deny ++ [.execute body signal]) signal
  | none (hnone : otherwise = none) : BranchPlan arms otherwise (arms.map Task.deny) .normal

/-- What a switch does when it has found its value. -/
inductive CasePlan (v : Value) (cases : List (Expr × List Stmt)) (fallback : Option (List Stmt)) :
    List Task → Signal → Prop where
  /-- The first case that selects the value is the last one whose value is found. -/
  | selected {before value body after misses c signal}
      (hcases : cases = before ++ (value, body) :: after)
      (hmisses : List.Forall₂ (Task.Misses v) before misses) (hc : v.selects c = true) :
      CasePlan v cases fallback (misses ++ [.find value c, .execute body signal]) signal
  | fallback {misses body signal} (hbody : fallback = some body)
      (hmisses : List.Forall₂ (Task.Misses v) cases misses) :
      CasePlan v cases fallback (misses ++ [.execute body signal]) signal
  | none {misses} (hnone : fallback = none)
      (hmisses : List.Forall₂ (Task.Misses v) cases misses) :
      CasePlan v cases fallback misses .normal

/-- What a switch does: its value is found once, in front of everything else. -/
def SwitchPlan (scrutinee : Expr) (cases : List (Expr × List Stmt))
    (fallback : Option (List Stmt)) : Plan Signal :=
  fun tasks signal => ∃ v rest, tasks = .find scrutinee v :: rest ∧
    CasePlan v cases fallback rest signal

section
variable {settings : Settings} {limit : Nat}

open Traced

/-! ## Branches -/

theorem BranchPlan.first (cond : Expr) (body : List Stmt) {after : List (Expr × List Stmt)}
    {asks : List Task} (otherwise : Option (List Stmt)) (hasks : List.Forall₂ Task.Asks after asks)
    (signal : Signal) : BranchPlan ((cond, body) :: after) otherwise
      (.ask cond true :: .execute body signal :: asks) signal :=
  @BranchPlan.taken _ _ [] _ _ _ _ _ rfl hasks

/-- A plan for the arms behind one whose condition does not hold. -/
theorem BranchPlan.passed {arms : List (Expr × List Stmt)} {otherwise : Option (List Stmt)}
    {tasks : List Task} {signal : Signal} (arm : Expr × List Stmt)
    (h : BranchPlan arms otherwise tasks signal) :
    BranchPlan (arm :: arms) otherwise (Task.deny arm :: tasks) signal := by
  cases h with
  | @taken before _ _ _ _ _ harms hasks =>
    exact @BranchPlan.taken _ _ (arm :: before) _ _ _ _ _ (congrArg (arm :: ·) harms) hasks
  | otherwise hbody => exact .otherwise hbody
  | none hnone => exact .none hnone

namespace Stmt

/-- Once a body was taken the other conditions are asked, whether they hold or not. -/
theorem traceRest_taken (signal : Signal) (arms : List (Expr × List Stmt))
    (otherwise : Option (List Stmt)) (m : Machine) :
    (traceRest settings limit ⟨true⟩ signal arms otherwise).GoesBy settings limit
      (AskPlan arms signal) m := by
  induction arms generalizing m with
  | nil =>
    rw [traceRest_taken_nil]
    exact .pure ⟨.nil, rfl⟩
  | cons arm rest ih =>
    rw [traceRest_taken_cons]
    refine .bind (condition_does arm.1 m) ?_ fun holds m' _ => ?_
    · exact ⟨false, rest.map Task.deny, signal, .cons ⟨false, rfl⟩ (Task.asks_deny rest), rfl⟩
    · exact (ih m').mono fun tasks a h => ⟨.cons ⟨holds, rfl⟩ h.1, h.2⟩

/-- While control is not live no body is executed, whichever conditions hold. -/
theorem traceRest_dead (chain : Chain) (arms : List (Expr × List Stmt))
    (otherwise : Option (List Stmt)) {m : Machine} (hm : m.frames.isLive = false) :
    (traceRest settings limit chain .normal arms otherwise).GoesBy settings limit
      (AskPlan arms .normal) m := by
  induction arms generalizing chain m with
  | nil =>
    rw [traceRest_nil, if_pos rfl]
    cases otherwise with
    | none => exact .pure ⟨.nil, rfl⟩
    | some body => exact .idle (arm_idle _ hm) ⟨.nil, rfl⟩
  | cons arm rest ih =>
    rw [traceRest_cons]
    refine .bind (condition_does arm.1 m) ?_ fun holds m' hrun => ?_
    · exact ⟨false, rest.map Task.deny, .normal, .cons ⟨false, rfl⟩ (Task.asks_deny rest), rfl⟩
    · have hm' : m'.frames.isLive = false := by
        rw [Exec.condition_frames hrun, hm]
      refine .skip (arm_idle _ hm') ?_
      exact (ih (chain.arm holds) hm').mono fun tasks a h => ⟨.cons ⟨holds, rfl⟩ h.1, h.2⟩

/-- While no body was taken, what is left of a branch is a branch of the other arms. -/
theorem traceRest_open (arms : List (Expr × List Stmt)) (otherwise : Option (List Stmt))
    {m : Machine} (hm : m.frames.isLive = true) :
    (traceRest settings limit ⟨false⟩ .normal arms otherwise).GoesBy settings limit
      (BranchPlan arms otherwise) m := by
  induction arms generalizing m with
  | nil =>
    rw [traceRest_nil, if_pos rfl]
    cases otherwise with
    | none => exact .pure (.none rfl)
    | some body => exact .last (arm_does body hm) (fun _ => .otherwise rfl) .normal
  | cons arm rest ih =>
    obtain ⟨cond, body⟩ := arm
    rw [traceRest_cons]
    refine .bind (condition_does cond m) ?_ fun holds m' hrun => ?_
    · exact ⟨true, _, .normal, .first cond body otherwise (Task.asks_deny rest) .normal⟩
    · have hm' : m'.frames.isLive = true := by
        rw [Exec.condition_frames hrun, hm]
      cases holds with
      | true =>
        refine .bind (arm_does body hm') ?_ fun signal m'' _ => ?_
        · exact ⟨.normal, _, .normal, .first cond body otherwise (Task.asks_deny rest) .normal⟩
        · refine (traceRest_taken signal rest otherwise m'').mono ?_
          rintro asks _ ⟨hasks, rfl⟩
          exact .first cond body otherwise hasks _
      | false => exact (ih hm').mono fun tasks signal h => h.passed (cond, body)

theorem trace_branch (line : Option Line) (cond : Expr) (body : List Stmt)
    (elseIfs : List (Expr × List Stmt)) (otherwise : Option (List Stmt)) :
    (branch line cond body elseIfs otherwise).trace settings limit =
      .call (.stmt (branch line cond body elseIfs otherwise)) (.onLine line
        (traceRest settings limit .start .normal ((cond, body) :: elseIfs) otherwise)) := by
  rw [trace, traceRest_cons]
  rfl

end Stmt

/-! ## Switches -/

/-- Every value is selected by its text. -/
theorem Value.selects_text (v : Value) : v.selects (.sentence v.text) = true := by
  cases v with
  | scalar w => cases w <;> exact BEq.rfl
  | array a => exact BEq.rfl

namespace CasePlan

variable {v c : Value} {cases : List (Expr × List Stmt)} {fallback : Option (List Stmt)}

/-- A plan for the cases behind one that does not select the value. -/
theorem passed {tasks : List Task} {signal : Signal} (case : Expr × List Stmt)
    (hc : v.selects c = false) (h : CasePlan v cases fallback tasks signal) :
    CasePlan v (case :: cases) fallback (.find case.1 c :: tasks) signal := by
  have hmiss : Task.Misses v case (.find case.1 c) := ⟨c, rfl, hc⟩
  cases h with
  | selected hcases hmisses hc =>
    exact .selected (congrArg (case :: ·) hcases) (.cons hmiss hmisses) hc
  | fallback hbody hmisses => exact .fallback hbody (.cons hmiss hmisses)
  | none hnone hmisses => exact .none hnone (.cons hmiss hmisses)

theorem first (v : Value) (value : Expr) (body : List Stmt) (after : List (Expr × List Stmt))
    (fallback : Option (List Stmt)) (hc : v.selects c = true) (signal : Signal) :
    CasePlan v ((value, body) :: after) fallback [.find value c, .execute body signal] signal :=
  @CasePlan.selected v _ _ [] _ _ _ [] _ _ rfl .nil hc

theorem allows (v : Value) (cases : List (Expr × List Stmt)) (fallback : Option (List Stmt)) :
    ∃ tasks signal, CasePlan v cases fallback tasks signal := by
  cases cases with
  | nil =>
    cases fallback with
    | none => exact ⟨_, _, .none rfl .nil⟩
    | some body => exact ⟨_, .normal, .fallback rfl .nil⟩
  | cons case rest => exact ⟨_, .normal, first v case.1 case.2 rest fallback v.selects_text _⟩

end CasePlan

namespace Stmt

theorem traceCases_goesBy (v : Value) (fallback : Option (List Stmt))
    (cases : List (Expr × List Stmt)) (m : Machine) :
    (traceCases settings limit v (traceFallback settings limit fallback) cases).GoesBy settings
      limit (CasePlan v cases fallback) m := by
  induction cases generalizing m with
  | nil =>
    rw [traceCases]
    cases fallback with
    | none => exact .pure (.none rfl .nil)
    | some body => exact .last (frame_does body m) (fun _ => .fallback rfl .nil) .normal
  | cons case rest ih =>
    obtain ⟨value, body⟩ := case
    rw [traceCases]
    refine .bind (eval_does value m) ?_ fun c m' _ => ?_
    · exact ⟨_, _, .normal, .first v value body rest fallback v.selects_text .normal⟩
    · split
      · next hc =>
        exact .last (frame_does body m') (fun signal => .first v value body rest fallback hc signal)
          .normal
      · next hc =>
        have hmiss : v.selects c = false := Bool.eq_false_iff.mpr hc
        exact (ih m').mono fun tasks signal h => h.passed (value, body) hmiss

/-! ## Statements -/

theorem GoesBy.of_trace {plan : Plan Signal} {s : Stmt} {x : Traced Signal} {m : Machine}
    (htrace : s.trace settings limit = .call (.stmt s) (.onLine s.line x))
    (h : x.GoesBy settings limit plan m) : s.GoesBy settings limit plan m := by
  refine ⟨x.run, x.calls m, ?_, ?_, h⟩
  · rw [← trace_run, htrace]
    rfl
  · rw [calls, htrace]
    rfl

/-- A branch asks its first condition and then all others in order, once each. The body of the first
that holds is executed before the next condition is asked, and no other body is; the body for no
condition is executed behind all of them if none holds. The signal of the body is passed on when the
conditions behind it were asked. The first condition or body that fails ends the branch. This is so
wherever control is live, and in a run of a program it always is; otherwise the conditions are
asked all the same, and no body is executed. -/
theorem branch_planned (settings : Settings) (limit : Nat) (line : Option Line) (cond : Expr)
    (body : List Stmt) (elseIfs : List (Expr × List Stmt)) (otherwise : Option (List Stmt)) :
    (∀ m : Machine, m.frames.isLive = true →
      (branch line cond body elseIfs otherwise).GoesBy settings limit
        (BranchPlan ((cond, body) :: elseIfs) otherwise) m) ∧
    (∀ m : Machine, m.frames.isLive = false →
      (branch line cond body elseIfs otherwise).GoesBy settings limit
        (AskPlan ((cond, body) :: elseIfs) .normal) m) ∧
    ∀ (p : Program) (m : Machine), ∀ c ∈ p.calls settings limit m,
      c.machine.frames.isLive = true := by
  have htrace := @trace_branch settings limit line cond body elseIfs otherwise
  refine ⟨fun m hm => .of_trace htrace (traceRest_open _ otherwise hm), fun m hm => ?_, ?_⟩
  · exact .of_trace htrace (traceRest_dead _ _ otherwise hm)
  · exact fun p m c hc => (traceTop_live settings limit p.stmts).calls _ rfl c hc

/-- A branch whose second body jumps, with a condition behind it that fails. -/
def heldJump : Stmt :=
  .branch (some 4) (.lit .logic "false") []
    [(.lit .logic "true", [.jump none .breakLoop]), (.var .logic "missing", [])] none

/-- The failure of the last condition takes the place of the jump. -/
theorem heldJump_planned :
    let arms := [(.lit .logic "false", []), (.lit .logic "true", [.jump none .breakLoop]),
      (.var .logic "missing", [])]
    (∃ m, heldJump.exec .default 10 (.start .silent) =
      .error (.failed ⟨.undefinedVariable "missing", some 4⟩) m) ∧
    Frames.isLive [] = true ∧ heldJump.GoesBy .default 10 (BranchPlan arms none) (.start .silent) ∧
    Frames.isLive [false] = false ∧
    heldJump.GoesBy .default 10 (AskPlan arms .normal) ⟨.empty, [false], .silent⟩ ∧
    ∃ c ∈ (Program.mk [heldJump]).calls .default 10 (.start .silent),
      c.machine.frames = [true] ∧ c.machine.frames.isLive = true := by
  obtain ⟨hlive, hdead, hruns⟩ := branch_planned .default 10 (some 4) (.lit .logic "false") []
    [(.lit .logic "true", [.jump none .breakLoop]), (.var .logic "missing", [])] none
  have hmem := List.mem_of_getElem? (l := (Program.mk [heldJump]).calls .default 10 (.start .silent))
    (i := 3) rfl
  exact ⟨⟨_, rfl⟩, rfl, hlive _ rfl, rfl, hdead _ rfl, _, hmem, rfl, hruns _ _ _ hmem⟩

/-- A switch finds its value, once, and then the values of its cases in order, up to the first that
selects the value. It executes the body of that case, which may be empty; if no case selects the
value, it executes the body for no case, if there is one. The signal of the body is passed on. The
first value or body that fails ends the switch. -/
theorem switch_planned (settings : Settings) (limit : Nat) (line : Option Line) (scrutinee : Expr)
    (cases : List (Expr × List Stmt)) (fallback : Option (List Stmt)) (m : Machine) :
    (switch line scrutinee cases fallback).GoesBy settings limit
      (SwitchPlan scrutinee cases fallback) m := by
  refine .of_trace (x := do
    let v ← Traced.eval scrutinee
    traceCases settings limit v (traceFallback settings limit fallback) cases) ?_ ?_
  · rw [trace]
    rfl
  · refine .bind (eval_does scrutinee m) ?_ fun v m' _ => ?_
    · obtain ⟨rest, signal, h⟩ := CasePlan.allows (.number 0.0) cases fallback
      exact ⟨_, rest, signal, _, rest, rfl, h⟩
    · exact (traceCases_goesBy v fallback cases m').mono fun tasks signal h => ⟨v, tasks, rfl, h⟩

end Stmt

end

end Primer
