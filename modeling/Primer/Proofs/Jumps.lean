import Primer.Proofs.Reports
import Primer.Proofs.Scoping
import Primer.Proofs.Tracing

/-!
# The jumps of a program

Where the jumps of a program stand: each has the loops around it, and stands in the body of each or
in one of its clauses. The check reports the jumps that stand in no body, and an execution comes to
these jumps only.
-/

namespace Primer

/-- A jump with the line on which it is reported and with the loops around it, from the outside in. -/
structure JumpSite where
  line : Option Line
  jump : Jump
  path : List Region

/-- A jump that stands in no body of a loop. -/
def JumpSite.isStray (j : JumpSite) : Bool := .body ∉ j.path

def JumpSite.diagnostic (j : JumpSite) : Diagnostic :=
  (Problem.jumpOutsideLoop j.jump).diagnostic j.line

namespace Stmt

mutual
/-- The jumps of a statement in the order in which they are checked. -/
def jumps (around : Option Line) (path : List Region) : Stmt → List JumpSite
  | action _ _ => []
  | jump line j => [⟨line <|> around, j, path⟩]
  | branch line _ body elseIfs otherwise =>
    jumpsAll (line <|> around) path body ++ jumpsArms (line <|> around) path elseIfs ++
      jumpsBody (line <|> around) path otherwise
  | loop line init _ update body =>
    jumpsOf (line <|> around) (path ++ [.clause]) init ++
      jumpsOf (line <|> around) (path ++ [.clause]) update ++
      jumpsAll (line <|> around) (path ++ [.body]) body
  | doWhile line body _ => jumpsAll (line <|> around) (path ++ [.body]) body
  | switch line _ cases fallback =>
    jumpsArms (line <|> around) path cases ++ jumpsBody (line <|> around) path fallback

def jumpsOf (around : Option Line) (path : List Region) : Option Stmt → List JumpSite
  | none => []
  | some s => jumps around path s

def jumpsAll (around : Option Line) (path : List Region) : List Stmt → List JumpSite
  | [] => []
  | s :: rest => jumps around path s ++ jumpsAll around path rest

def jumpsArms (around : Option Line) (path : List Region) :
    List (Expr × List Stmt) → List JumpSite
  | [] => []
  | (_, body) :: rest => jumpsAll around path body ++ jumpsArms around path rest

def jumpsBody (around : Option Line) (path : List Region) : Option (List Stmt) → List JumpSite
  | none => []
  | some body => jumpsAll around path body
end

end Stmt

def Program.jumps (p : Program) : List JumpSite := Stmt.jumpsAll none [] p.stmts

/-! ## Reports -/

/-- The reports of jumps among some diagnostics. -/
def jumpReports (ds : List Diagnostic) : List Diagnostic := ds.filter (·.code = .jump)

/-- The reports that the stray ones among some jumps call for. -/
def strayReports (jumps : List JumpSite) : List Diagnostic :=
  (jumps.filter (·.isStray)).map (·.diagnostic)

@[simp] theorem jumpReports_nil : jumpReports [] = [] := rfl

@[simp] theorem jumpReports_append (ds more : List Diagnostic) :
    jumpReports (ds ++ more) = jumpReports ds ++ jumpReports more :=
  List.filter_append ds more

@[simp] theorem strayReports_nil : strayReports [] = [] := rfl

@[simp] theorem strayReports_append (jumps more : List JumpSite) :
    strayReports (jumps ++ more) = strayReports jumps ++ strayReports more := by
  simp [strayReports]

theorem Jumpless.jumpReports_eq {problems : List Problem} (h : Jumpless problems)
    (line : Option Line) : jumpReports (problems.map (·.diagnostic line)) = [] := by
  unfold jumpReports
  rw [List.filter_map, List.map_eq_nil_iff, List.filter_eq_nil_iff]
  intro p hp
  simpa [Problem.diagnostic] using h p hp

namespace Stmt

open Check

section
variable (line : Option Line) (t : ScopeTree) (e : Expr)

theorem expr_reports : jumpReports (reported (Check.expr e) line t) = [] :=
  (e.check_jumpless t none).jumpReports_eq line

theorem condition_reports (problem : Ty → Problem) (h : ∀ ty, (problem ty).code ≠ .jump) :
    jumpReports (reported (Check.condition e problem) line t) = [] := by
  rw [reported_condition]
  exact Jumpless.jumpReports_eq (by simp [h, e.check_jumpless t none]) line

theorem report_reports (problems : List Problem) (h : Jumpless problems) :
    jumpReports (reported (Check.report problems) line t) = [] :=
  h.jumpReports_eq line

theorem caseProblems_jumpless (switched case : Ty) : Jumpless (caseProblems switched case) := by
  simp [caseProblems, Problem.code_eq_jump]

end

/-- The scopes are in a loop if the path leads through the body of one. -/
def Meets (t : ScopeTree) (path : List Region) : Prop := t.inLoop = true ↔ .body ∈ path

section
variable {t t' : ScopeTree} {path : List Region} {added : List (String × Ty)}

theorem Meets.start : Meets .start [] := by
  simp [Meets, ScopeTree.inLoop, ScopeTree.encloses, ScopeTree.live, ScopeTree.start, Scope.empty]

theorem Meets.extends (h : Meets t path) (ht : ScopeTree.Extends added t t') : Meets t' path := by
  unfold Meets
  rw [ht.inLoop]
  exact h

theorem Meets.clause (h : Meets t path) : Meets t (path ++ [.clause]) := by
  simpa [Meets] using h

theorem Meets.body (t : ScopeTree) (path : List Region) :
    Meets (t.enter .loop) (path ++ [.body]) := by
  simp [Meets, ScopeTree.inLoop, ScopeTree.encloses, ScopeTree.live, ScopeTree.enter, Scope.empty]

theorem Meets.enter (h : Meets t path) (kind : ScopeKind) (hk : kind ≠ .loop) :
    Meets (t.enter kind) path := by
  simpa [Meets, ScopeTree.inLoop, ScopeTree.encloses, ScopeTree.live, ScopeTree.enter, Scope.empty,
    hk] using h

end

theorem jump_reports (j : Jump) (line : Option Line) {t : ScopeTree} {path : List Region}
    (h : Meets t path) :
    jumpReports (reported (Check.jump j) line t) = strayReports [⟨line, j, path⟩] := by
  rw [reported_jump, jumpProblems]
  by_cases hb : .body ∈ path
  · rw [if_pos (h.mpr hb)]
    simp [strayReports, JumpSite.isStray, hb]
  · rw [if_neg fun ht => hb (h.mp ht)]
    simp [jumpReports, strayReports, JumpSite.isStray, JumpSite.diagnostic, hb, Problem.diagnostic,
      Problem.code_eq_jump]

mutual
theorem check_reports : (s : Stmt) → (around : Option Line) → {path : List Region} →
    {t : ScopeTree} → Meets t path →
    jumpReports (reported s.check around t) = strayReports (s.jumps around path)
  | .action line a, around, path, t, _ => by
      simp [check, jumps, (a.check_jumpless t).jumpReports_eq]
  | .jump line j, around, path, t, h => by
      simp only [check, jumps, reported_onLine, reported_bind, reported_pure, List.append_nil,
        jump_reports j _ h]
  | .branch line cond body elseIfs otherwise, around, path, t, h => by
      have hcond := condition_reports (line <|> around) t cond .ifCondition nofun
      have hbody := checkAll_reports body (line <|> around) (h.enter .ifBody nofun)
      have hext := checkAll_extends body (t.enter .ifBody)
      have h' := h.extends (inScope_extends hext)
      have helseIfs := checkElseIfs_reports elseIfs (line <|> around) h'
      have hotherwise := checkBody_reports .elseBody nofun otherwise (line <|> around)
        (h'.extends (checkElseIfs_extends elseIfs _))
      simp only [check, jumps, reported_onLine, reported_bind, reported_inScope, reported_pure,
        after_condition, jumpReports_append, strayReports_append, List.append_nil,
        List.nil_append, List.append_assoc, hcond, hbody, helseIfs, hotherwise]
  | .loop line init cond update body, around, path, t, h => by
      -- the clauses are checked in the scope around the loop, which their path does not leave
      have hinit := checkOption_reports init (line <|> around) h.clause
      have h' := h.extends (checkOption_extends init t)
      have hcond := condition_reports (line <|> around) (after (checkOption init) t) cond
        .loopCondition nofun
      have hupdate := checkOption_reports update (line <|> around) h'.clause
      have hbody := checkAll_reports body (line <|> around)
        (Meets.body (after (checkOption update) (after (checkOption init) t)) path)
      simp only [check, jumps, reported_onLine, reported_bind, reported_inScope, reported_pure,
        after_condition, jumpReports_append, strayReports_append, List.append_nil,
        List.nil_append, List.append_assoc, hinit, hcond, hupdate, hbody]
  | .doWhile line body cond, around, path, t, h => by
      have hbody := checkAll_reports body (line <|> around) (Meets.body t path)
      have hcond := condition_reports (line <|> around) (after (inScope .loop (checkAll body)) t)
        cond .doWhileCondition nofun
      simp only [check, jumps, reported_onLine, reported_bind, reported_inScope, reported_pure,
        jumpReports_append, List.append_nil, hbody, hcond]
  | .switch line scrutinee cases fallback, around, path, t, h => by
      have hs := h.enter .switch nofun
      have hempty := report_reports (line <|> around) t
        (if cases.isEmpty && fallback.isNone then [.emptySwitch] else [])
        (by simp [Problem.code_eq_jump])
      have hcases := checkCases_reports (output (Check.expr scrutinee) t).ty cases
        (line <|> around) hs
      have hfallback := checkBody_reports .defaultBody nofun fallback (line <|> around)
        (hs.extends (checkCases_extends (output (Check.expr scrutinee) t).ty cases _))
      simp only [check_switch, jumps, reported_onLine, reported_bind, reported_inScope,
        reported_pure, after_expr, after_report, jumpReports_append, strayReports_append,
        List.append_nil, List.nil_append, expr_reports, hempty, hcases, hfallback]

theorem checkOption_reports : (s : Option Stmt) → (around : Option Line) → {path : List Region} →
    {t : ScopeTree} → Meets t path →
    jumpReports (reported (checkOption s) around t) = strayReports (jumpsOf around path s)
  | none, _, _, _, _ => rfl
  | some s, around, path, t, h => by
      simp [checkOption, jumpsOf, check_reports s around h]

theorem checkAll_reports : (body : List Stmt) → (around : Option Line) → {path : List Region} →
    {t : ScopeTree} → Meets t path →
    jumpReports (reported (checkAll body) around t) = strayReports (jumpsAll around path body)
  | [], _, _, _, _ => rfl
  | s :: rest, around, path, t, h => by
      have hrest := checkAll_reports rest around (h.extends (check_extends s t))
      simp [checkAll, jumpsAll, check_reports s around h, hrest]

theorem checkElseIfs_reports : (arms : List (Expr × List Stmt)) → (around : Option Line) →
    {path : List Region} → {t : ScopeTree} → Meets t path →
    jumpReports (reported (checkElseIfs arms) around t) = strayReports (jumpsArms around path arms)
  | [], _, _, _, _ => rfl
  | (cond, body) :: rest, around, path, t, h => by
      have hcond := condition_reports around t cond .elseIfCondition nofun
      have hbody := checkAll_reports body around (h.enter .elseIfBody nofun)
      have hext := checkAll_extends body (t.enter .elseIfBody)
      have hrest := checkElseIfs_reports rest around (h.extends (inScope_extends hext))
      simp only [checkElseIfs, jumpsArms, reported_bind, reported_inScope, reported_pure,
        after_condition, jumpReports_append, strayReports_append, List.append_nil,
        List.nil_append, hcond, hbody, hrest]

theorem checkCases_reports (switched : Ty) : (cases : List (Expr × List Stmt)) →
    (around : Option Line) → {path : List Region} → {t : ScopeTree} → Meets t path →
    jumpReports (reported (checkCases switched cases) around t) =
      strayReports (jumpsArms around path cases)
  | [], _, _, _, _ => rfl
  | (value, body) :: rest, around, path, t, h => by
      have hcase := report_reports around t _
        (caseProblems_jumpless switched (output (Check.expr value) t).ty)
      have hbody := checkAll_reports body around (h.enter .caseBody nofun)
      have hext := checkAll_extends body (t.enter .caseBody)
      have hrest := checkCases_reports switched rest around (h.extends (inScope_extends hext))
      simp only [checkCases, jumpsArms, reported_bind, reported_inScope, reported_pure, after_expr,
        after_report, jumpReports_append, strayReports_append, List.append_nil,
        List.nil_append, expr_reports, hcase, hbody, hrest]

theorem checkBody_reports (kind : ScopeKind) (hk : kind ≠ .loop) : (body : Option (List Stmt)) →
    (around : Option Line) → {path : List Region} → {t : ScopeTree} → Meets t path →
    jumpReports (reported (checkBody kind body) around t) = strayReports (jumpsBody around path body)
  | none, _, _, _, _ => rfl
  | some body, around, path, t, h => by
      simp [checkBody, jumpsBody, checkAll_reports body around (h.enter kind hk)]
end

/-! ## Annotations -/

mutual
/-- The types that the check writes on a statement leave its jumps as they are. -/
theorem jumps_output : (s : Stmt) → (around : Option Line) → (path : List Region) →
    (t : ScopeTree) → (output s.check t).jumps around path = s.jumps around path
  | .action line a, around, path, t => by simp [check, jumps]
  | .jump line j, around, path, t => by simp [check, jumps]
  | .branch line cond body elseIfs otherwise, around, path, t => by
      simp [check, jumps, jumpsAll_output body, jumpsArms_elseIfs elseIfs,
        jumpsBody_output .elseBody otherwise]
  | .loop line init cond update body, around, path, t => by
      simp [check, jumps, jumpsOf_output init, jumpsOf_output update, jumpsAll_output body]
  | .doWhile line body cond, around, path, t => by simp [check, jumps, jumpsAll_output body]
  | .switch line scrutinee cases fallback, around, path, t => by
      simp [check_switch, jumps, jumpsArms_cases _ cases, jumpsBody_output .defaultBody fallback]

theorem jumpsOf_output : (s : Option Stmt) → (around : Option Line) → (path : List Region) →
    (t : ScopeTree) → jumpsOf around path (output (checkOption s) t) = jumpsOf around path s
  | none, _, _, _ => rfl
  | some s, around, path, t => by simp [checkOption, jumpsOf, jumps_output s]

theorem jumpsAll_output : (body : List Stmt) → (around : Option Line) → (path : List Region) →
    (t : ScopeTree) → jumpsAll around path (output (checkAll body) t) = jumpsAll around path body
  | [], _, _, _ => rfl
  | s :: rest, around, path, t => by
      simp [checkAll, jumpsAll, jumps_output s, jumpsAll_output rest]

theorem jumpsArms_elseIfs : (arms : List (Expr × List Stmt)) → (around : Option Line) →
    (path : List Region) → (t : ScopeTree) →
    jumpsArms around path (output (checkElseIfs arms) t) = jumpsArms around path arms
  | [], _, _, _ => rfl
  | (cond, body) :: rest, around, path, t => by
      simp [checkElseIfs, jumpsArms, jumpsAll_output body, jumpsArms_elseIfs rest]

theorem jumpsArms_cases (switched : Ty) : (cases : List (Expr × List Stmt)) →
    (around : Option Line) → (path : List Region) → (t : ScopeTree) →
    jumpsArms around path (output (checkCases switched cases) t) = jumpsArms around path cases
  | [], _, _, _ => rfl
  | (value, body) :: rest, around, path, t => by
      simp [checkCases, jumpsArms, jumpsAll_output body, jumpsArms_cases switched rest]

theorem jumpsBody_output (kind : ScopeKind) : (body : Option (List Stmt)) →
    (around : Option Line) → (path : List Region) → (t : ScopeTree) →
    jumpsBody around path (output (checkBody kind body) t) = jumpsBody around path body
  | none, _, _, _ => rfl
  | some body, around, path, t => by simp [checkBody, jumpsBody, jumpsAll_output body]
end

end Stmt

namespace Program

variable (p : Program)

/-- The reports of jumps are those of the stray jumps, in their order. -/
theorem diagnostics_jumps : jumpReports p.diagnostics = strayReports p.jumps := by
  rw [diagnostics_eq]
  exact Stmt.checkAll_reports p.stmts none .start

theorem annotated_jumps : p.annotated.jumps = p.jumps := by
  rw [annotated_eq]
  exact Stmt.jumpsAll_output p.stmts none [] .start

end Program

/-! ## Executions -/

/-- Every jump that an execution comes to is one of the sites, which have the path in front. -/
def Traced.JumpsAt {α : Type} (path : List Region) (sites : List JumpSite) (x : Traced α) : Prop :=
  ∀ m, ∀ c ∈ x.calls m, ∀ line j, c.part = .stmt (.jump line j) →
    ∃ site ∈ sites, site.jump = j ∧ site.path = path ++ c.path

namespace Traced.JumpsAt

variable {α β : Type} {path : List Region} {sites more : List JumpSite} {x : Traced α}

theorem silent (y : Exec α) : JumpsAt path sites (Traced.silent y) := fun _ _ hc => by cases hc

theorem pure (a : α) : JumpsAt path sites (Pure.pure a : Traced α) := fun _ _ hc => by cases hc

theorem piece (p : Piece) (a : Act α) : JumpsAt path sites (Traced.piece p a) := by
  intro m c hc line j hj
  rw [List.mem_singleton.mp hc] at hj
  cases hj

theorem mono (h : JumpsAt path sites x) (hsub : sites ⊆ more) : JumpsAt path more x := by
  intro m c hc line j hj
  obtain ⟨site, hsite, hjump⟩ := h m c hc line j hj
  exact ⟨site, hsub hsite, hjump⟩

theorem bind {f : α → Traced β} (h : JumpsAt path sites x) (hf : ∀ a, JumpsAt path more (f a)) :
    JumpsAt path (sites ++ more) (x >>= f) := by
  have h := h.mono (List.subset_append_left sites more)
  intro m c hc line j hj
  rcases mem_calls_bind hc with hc | ⟨a, m', -, hc⟩
  · exact h m c hc line j hj
  · exact (hf a).mono (List.subset_append_right sites more) m' c hc line j hj

theorem piece_bind {p : Piece} {a : Act α} {f : α → Traced β} (hf : ∀ v, JumpsAt path sites (f v)) :
    JumpsAt path sites (Traced.piece p a >>= f) := by
  have hp : JumpsAt path [] (Traced.piece p a) := .piece p a
  exact hp.bind hf

theorem call {part : Part} (hpart : ∀ line j, part ≠ .stmt (.jump line j))
    (h : JumpsAt path sites x) : JumpsAt path sites (Traced.call part x) := by
  intro m c hc line j hj
  rcases List.mem_cons.mp hc with rfl | hc
  · exact absurd hj (hpart line j)
  · exact h m c hc line j hj

theorem block {body : List Stmt} (h : JumpsAt path sites x) :
    JumpsAt path sites (Traced.call (.block body) x) :=
  .call nofun h

theorem within (r : Region) (h : JumpsAt (path ++ [r]) sites x) :
    JumpsAt path sites (Traced.within r x) := by
  intro m c hc line j hj
  obtain ⟨d, hd, rfl⟩ := List.mem_map.mp hc
  obtain ⟨site, hsite, hjump, hpath⟩ := h m d hd line j hj
  exact ⟨site, hsite, hjump, by simpa [Call.under] using hpath⟩

theorem onLine (line : Option Line) (h : JumpsAt path sites x) :
    JumpsAt path sites (Traced.onLine line x) := h

theorem inFrame (taken : Bool) (h : JumpsAt path sites x) :
    JumpsAt path sites (Traced.inFrame taken x) := fun _ => h _

theorem ite {p : Prop} [Decidable p] {y : Traced α} (h : JumpsAt path sites x)
    (h' : JumpsAt path sites y) : JumpsAt path sites (if p then x else y) := by
  split
  · exact h
  · exact h'

theorem ifLive {x : Traced Signal} (h : JumpsAt path sites x) :
    JumpsAt path sites (Traced.ifLive x) := by
  have hlive : JumpsAt path [] (Traced.silent Exec.isLive) := .silent _
  exact hlive.bind fun _ => .ite h (.pure _)

theorem arm (taken : Bool) {x : Traced Signal} (h : JumpsAt path sites x) :
    JumpsAt path sites (Traced.arm taken x) :=
  .inFrame taken (.ifLive h)

theorem rounds {cond : Traced Bool} {body : Traced Signal} {update : Traced Unit}
    (hc : JumpsAt path sites cond) (hb : JumpsAt path sites body) (hu : JumpsAt path sites update)
    (limit : Nat) : JumpsAt path sites (Traced.rounds cond body update limit) := by
  -- a round comes to the same sites as the rounds behind it
  have hdouble : sites ++ sites ⊆ sites := by simp
  induction limit with
  | zero => exact .silent _
  | succ limit ih =>
    refine (hc.bind fun holds => .ite ?_ (.pure _)).mono hdouble
    refine (hb.bind fun signal => .ite (.pure _) ?_).mono hdouble
    exact (hu.bind fun _ => ih).mono hdouble

theorem roundsAfter {body : Traced Signal} {cond : Traced Bool} (hb : JumpsAt path sites body)
    (hc : JumpsAt path sites cond) (limit : Nat) :
    JumpsAt path sites (Traced.roundsAfter body cond limit) := by
  have hdouble : sites ++ sites ⊆ sites := by simp
  induction limit with
  | zero => exact .silent _
  | succ limit ih =>
    refine (hb.bind fun signal => .ite (.pure _) ?_).mono hdouble
    exact (hc.bind fun holds => .ite ih (.pure _)).mono hdouble

end Traced.JumpsAt

namespace Stmt

open Traced

variable {settings : Settings} {limit : Nat}

mutual
theorem trace_jumps : (s : Stmt) → (around : Option Line) → (path : List Region) →
    JumpsAt path (s.jumps around path) (s.trace settings limit)
  | .action line a, around, path => by
      rw [trace]
      exact .call nofun (.onLine line (.piece_bind fun _ => .pure _))
  | .jump line j, around, path => by
      intro m c hc own k hk
      rw [trace] at hc
      rw [List.mem_singleton.mp hc] at hk ⊢
      cases hk
      exact ⟨_, List.mem_singleton.mpr rfl, rfl, by simp⟩
  | .branch line cond body elseIfs otherwise, around, path => by
      rw [trace, jumps, List.append_assoc]
      refine .call nofun (.onLine line ?_)
      refine .piece_bind fun holds => ?_
      refine (JumpsAt.arm holds (.block (traceAll_jumps body _ path))).bind fun signal => ?_
      refine (traceElseIfs_jumps _ _ elseIfs _ path).bind fun (chain, signal) => ?_
      exact .ite (traceOtherwise_jumps _ otherwise _ path) (.pure _)
  | .loop line init cond update body, around, path => by
      rw [trace, jumps, List.append_assoc]
      refine .call nofun (.onLine line (.ifLive ?_))
      refine (JumpsAt.within .clause (traceOption_jumps init _ _)).bind fun _ => ?_
      refine .rounds (.piece _ _) ?_ ?_ limit
      · exact .within .body (.inFrame true
          ((JumpsAt.block (traceAll_jumps body _ _)).mono (List.subset_append_right _ _)))
      · exact .within .clause ((traceOption_jumps update _ _).mono (List.subset_append_left _ _))
  | .doWhile line body cond, around, path => by
      rw [trace, jumps]
      refine .call nofun (.onLine line (.ifLive ?_))
      refine .roundsAfter ?_ (.piece _ _) limit
      exact .within .body (.inFrame true (.block (traceAll_jumps body _ _)))
  | .switch line scrutinee cases fallback, around, path => by
      rw [trace, jumps]
      refine .call nofun (.onLine line ?_)
      refine .piece_bind fun v => ?_
      exact traceCases_jumps v (traceFallback_jumps fallback _ path) cases _

theorem traceOption_jumps : (s : Option Stmt) → (around : Option Line) → (path : List Region) →
    JumpsAt path (jumpsOf around path s) (traceOption settings limit s)
  | none, _, _ => .pure _
  | some s, around, path => by
      rw [traceOption, jumpsOf, ← List.append_nil (s.jumps around path)]
      exact (trace_jumps s around path).bind fun _ => .pure _

theorem traceAll_jumps : (body : List Stmt) → (around : Option Line) → (path : List Region) →
    JumpsAt path (jumpsAll around path body) (traceAll settings limit body)
  | [], _, _ => .pure _
  | s :: rest, around, path => by
      rw [traceAll, jumpsAll]
      exact (trace_jumps s around path).bind fun _ =>
        .ite (traceAll_jumps rest around path) (.pure _)

theorem traceElseIfs_jumps (chain : Chain) (signal : Signal) :
    (arms : List (Expr × List Stmt)) → (around : Option Line) → (path : List Region) →
    JumpsAt path (jumpsArms around path arms) (traceElseIfs settings limit chain signal arms)
  | [], _, _ => .pure _
  | (cond, body) :: rest, around, path => by
      rw [traceElseIfs, jumpsArms]
      refine .piece_bind fun holds => ?_
      refine (JumpsAt.arm _ (.block (traceAll_jumps body around path))).bind fun next => ?_
      exact traceElseIfs_jumps _ _ rest around path

theorem traceOtherwise_jumps (taken : Bool) : (body : Option (List Stmt)) →
    (around : Option Line) → (path : List Region) →
    JumpsAt path (jumpsBody around path body) (traceOtherwise settings limit taken body)
  | none, _, _ => .pure _
  | some body, around, path => .arm taken (.block (traceAll_jumps body around path))

theorem traceFallback_jumps : (body : Option (List Stmt)) → (around : Option Line) →
    (path : List Region) →
    JumpsAt path (jumpsBody around path body) (traceFallback settings limit body)
  | none, _, _ => .pure _
  | some body, around, path => .inFrame true (.block (traceAll_jumps body around path))

theorem traceCases_jumps (v : Value) {fallback : Traced Signal} {path : List Region}
    {sites : List JumpSite} (hf : JumpsAt path sites fallback) :
    (cases : List (Expr × List Stmt)) → (around : Option Line) →
    JumpsAt path (jumpsArms around path cases ++ sites)
      (traceCases settings limit v fallback cases)
  | [], _ => by
      rw [traceCases, jumpsArms]
      exact hf
  | (value, body) :: rest, around => by
      rw [traceCases, jumpsArms, List.append_assoc]
      refine .piece_bind fun c => .ite ?_ ?_
      · exact (JumpsAt.inFrame true (.block (traceAll_jumps body around path))).mono
          (List.subset_append_left _ _)
      · exact (traceCases_jumps v hf rest around).mono (List.subset_append_right _ _)
end

end Stmt

end Primer
