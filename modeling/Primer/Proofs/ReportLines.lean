import Primer.Proofs.Lines
import Primer.Proofs.Reports

/-!
# The lines of reports

A check finds its problems in statements that stand in one another, and reports each of them on the line
of the innermost one that has a line. A problem in a part of a statement itself, such as a condition
that comes after a body, is found in the statement and in no statement of the body.
-/

namespace Primer

open Check

/-! ## Findings -/

/-- A problem and the statements that are being checked when it is found, from the outside in. -/
structure Finding where
  around : List Stmt
  problem : Problem

namespace Finding

/-- The finding with one more statement around it. -/
def inside (s : Stmt) (f : Finding) : Finding := { f with around := s :: f.around }

/-- The report of a finding in a check that starts on the given line. -/
def diagnostic (outer : Option Line) (f : Finding) : Diagnostic :=
  ⟨f.problem.code, f.problem.message,
    Diagnostic.knownLine (innermostLine f.around <|> outer)⟩

end Finding

/-- Problems of the statement itself that is being checked. -/
def found (problems : List Problem) : List Finding := problems.map fun p => ⟨[], p⟩

def conditionProblems (t : ScopeTree) (e : Expr) (problem : Ty → Problem) : List Problem :=
  (e.check t none).problems ++
    if (e.check t none).ty = .logic then [] else [problem (e.check t none).ty]

def caseValueProblems (t : ScopeTree) (switched : Ty) (value : Expr) : List Problem :=
  (value.check t none).problems ++ caseProblems switched (value.check t none).ty

namespace Stmt

mutual
/-- What is found in a statement, in the order in which it is checked. -/
def findings (t : ScopeTree) : Stmt → List Finding
  | action line a => (found (a.check t).problems).map (·.inside (action line a))
  | jump line j => (found (jumpProblems j t)).map (·.inside (jump line j))
  | branch line cond body elseIfs otherwise =>
    let behindBody := after (inScope .ifBody (checkAll body)) t
    (found (conditionProblems t cond .ifCondition) ++
      findingsAll (t.enter .ifBody) body ++
      findingsElseIfs behindBody elseIfs ++
      findingsBody .elseBody (after (checkElseIfs elseIfs) behindBody) otherwise).map
        (·.inside (branch line cond body elseIfs otherwise))
  | loop line init cond update body =>
    let behindInit := after (checkOption init) t
    (findingsOf t init ++
      found (conditionProblems behindInit cond .loopCondition) ++
      findingsOf behindInit update ++
      findingsAll ((after (checkOption update) behindInit).enter .loop) body).map
        (·.inside (loop line init cond update body))
  | doWhile line body cond =>
    let behindBody := after (inScope .loop (checkAll body)) t
    (findingsAll (t.enter .loop) body ++
      found (conditionProblems behindBody cond .doWhileCondition)).map
        (·.inside (doWhile line body cond))
  | switch line scrutinee cases fallback =>
    let ty := (scrutinee.check t none).ty
    (found (scrutinee.check t none).problems ++
      found (if cases.isEmpty && fallback.isNone then [.emptySwitch] else []) ++
      findingsCases ty (t.enter .switch) cases ++
      findingsBody .defaultBody (after (checkCases ty cases) (t.enter .switch)) fallback).map
        (·.inside (switch line scrutinee cases fallback))

def findingsOf (t : ScopeTree) : Option Stmt → List Finding
  | none => []
  | some s => findings t s

def findingsAll (t : ScopeTree) : List Stmt → List Finding
  | [] => []
  | s :: rest => findings t s ++ findingsAll (after s.check t) rest

def findingsElseIfs (t : ScopeTree) : List (Expr × List Stmt) → List Finding
  | [] => []
  | (cond, body) :: rest =>
    found (conditionProblems t cond .elseIfCondition) ++
      findingsAll (t.enter .elseIfBody) body ++
      findingsElseIfs (after (inScope .elseIfBody (checkAll body)) t) rest

def findingsCases (switched : Ty) (t : ScopeTree) : List (Expr × List Stmt) → List Finding
  | [] => []
  | (value, body) :: rest =>
    found (caseValueProblems t switched value) ++
      findingsAll (t.enter .caseBody) body ++
      findingsCases switched (after (inScope .caseBody (checkAll body)) t) rest

def findingsBody (kind : ScopeKind) (t : ScopeTree) : Option (List Stmt) → List Finding
  | none => []
  | some body => findingsAll (t.enter kind) body
end

end Stmt

/-! ## Reports -/

/-- The reports of findings in a check that starts on the given line. -/
def reportsOf (outer : Option Line) (fs : List Finding) : List Diagnostic :=
  fs.map (·.diagnostic outer)

section
variable (outer : Option Line)

@[simp] theorem reportsOf_append (fs gs : List Finding) :
    reportsOf outer (fs ++ gs) = reportsOf outer fs ++ reportsOf outer gs :=
  List.map_append

@[simp] theorem reportsOf_found (problems : List Problem) :
    reportsOf outer (found problems) = problems.map (·.diagnostic outer) :=
  List.map_map

/-- A statement puts its line in front of the one around it. -/
@[simp] theorem reportsOf_inside (s : Stmt) (fs : List Finding) :
    reportsOf outer (fs.map (·.inside s)) = reportsOf (s.line <|> outer) fs := by
  rw [reportsOf, List.map_map]
  refine List.map_congr_left fun f _ => ?_
  simp [Finding.diagnostic, Finding.inside, Option.or_assoc]

end

theorem condition_reported (e : Expr) (problem : Ty → Problem) (line : Option Line) (t : ScopeTree) :
    reported (Check.condition e problem) line t =
      reportsOf line (found (conditionProblems t e problem)) := by
  rw [reported_condition, reportsOf_found, conditionProblems]

namespace Stmt

mutual
theorem check_reported : (s : Stmt) → (outer : Option Line) → (t : ScopeTree) →
    reported s.check outer t = reportsOf outer (s.findings t)
  | .action line a, outer, t => by
      simp only [check, findings, Stmt.line, reported_onLine, reported_bind, reported_action,
        reported_pure, reportsOf_inside, reportsOf_found, List.append_nil]
  | .jump line j, outer, t => by
      simp only [check, findings, Stmt.line, reported_onLine, reported_bind, reported_jump,
        reported_pure, reportsOf_inside, reportsOf_found, List.append_nil]
  | .branch line cond body elseIfs otherwise, outer, t => by
      simp only [check, findings, Stmt.line, reported_onLine, reported_bind, reported_inScope,
        reported_pure, after_condition, reportsOf_inside, reportsOf_append, List.append_nil,
        List.append_assoc, condition_reported, checkAll_reported body,
        checkElseIfs_reported elseIfs, checkBody_reported .elseBody otherwise]
  | .loop line init cond update body, outer, t => by
      simp only [check, findings, Stmt.line, reported_onLine, reported_bind, reported_inScope,
        reported_pure, after_condition, reportsOf_inside, reportsOf_append, List.append_nil,
        List.append_assoc, condition_reported, checkOption_reported init,
        checkOption_reported update, checkAll_reported body]
  | .doWhile line body cond, outer, t => by
      simp only [check, findings, Stmt.line, reported_onLine, reported_bind, reported_inScope,
        reported_pure, reportsOf_inside, reportsOf_append, List.append_nil, condition_reported,
        checkAll_reported body]
  | .switch line scrutinee cases fallback, outer, t => by
      simp only [check_switch, findings, Stmt.line, reported_onLine, reported_bind, reported_inScope,
        reported_pure, reported_expr, reported_report, output_expr, after_expr, after_report,
        reportsOf_inside, reportsOf_append, reportsOf_found, List.append_nil, List.append_assoc,
        Checked.ty, checkCases_reported, checkBody_reported .defaultBody fallback]

theorem checkOption_reported : (s : Option Stmt) → (outer : Option Line) → (t : ScopeTree) →
    reported (checkOption s) outer t = reportsOf outer (findingsOf t s)
  | none, _, _ => rfl
  | some s, outer, t => by
      simp only [checkOption, findingsOf, reported_bind, reported_pure, List.append_nil,
        check_reported s]

theorem checkAll_reported : (body : List Stmt) → (outer : Option Line) → (t : ScopeTree) →
    reported (checkAll body) outer t = reportsOf outer (findingsAll t body)
  | [], _, _ => rfl
  | s :: rest, outer, t => by
      simp only [checkAll, findingsAll, reported_bind, reported_pure, List.append_nil,
        reportsOf_append, check_reported s, checkAll_reported rest]

theorem checkElseIfs_reported : (arms : List (Expr × List Stmt)) → (outer : Option Line) →
    (t : ScopeTree) → reported (checkElseIfs arms) outer t = reportsOf outer (findingsElseIfs t arms)
  | [], _, _ => rfl
  | (cond, body) :: rest, outer, t => by
      simp only [checkElseIfs, findingsElseIfs, reported_bind, reported_inScope, reported_pure,
        after_condition, reportsOf_append, List.append_nil, List.append_assoc, condition_reported,
        checkAll_reported body, checkElseIfs_reported rest]

theorem checkCases_reported (switched : Ty) : (cases : List (Expr × List Stmt)) →
    (outer : Option Line) → (t : ScopeTree) →
    reported (checkCases switched cases) outer t = reportsOf outer (findingsCases switched t cases)
  | [], _, _ => rfl
  | (value, body) :: rest, outer, t => by
      simp only [checkCases, findingsCases, caseValueProblems, reported_bind, reported_inScope,
        reported_pure, reported_expr, reported_report, output_expr, after_expr, after_report,
        reportsOf_append, reportsOf_found, List.map_append, List.append_nil, List.append_assoc,
        Checked.ty, checkAll_reported body, checkCases_reported switched rest]

theorem checkBody_reported (kind : ScopeKind) : (body : Option (List Stmt)) →
    (outer : Option Line) → (t : ScopeTree) →
    reported (checkBody kind body) outer t = reportsOf outer (findingsBody kind t body)
  | none, _, _ => rfl
  | some body, outer, t => by
      simp only [checkBody, findingsBody, reported_bind, reported_inScope, reported_pure,
        List.append_nil, checkAll_reported body]
end

end Stmt

/-! ## Where problems are found -/

/-- The problem is one of the statement itself, outside the statements that it holds. -/
def Stmt.Owns : Stmt → Problem → Prop
  | action _ a, p => ∃ t, p ∈ (a.check t).problems
  | jump _ j, p => p = .jumpOutsideLoop j
  | branch _ cond _ elseIfs _, p =>
    (∃ t, p ∈ conditionProblems t cond .ifCondition) ∨
      ∃ arm ∈ elseIfs, ∃ t, p ∈ conditionProblems t arm.1 .elseIfCondition
  | loop _ _ cond _ _, p => ∃ t, p ∈ conditionProblems t cond .loopCondition
  | doWhile _ _ cond, p => ∃ t, p ∈ conditionProblems t cond .doWhileCondition
  | switch _ scrutinee cases _, p =>
    p = .emptySwitch ∨ (∃ t, p ∈ (scrutinee.check t none).problems) ∨
      ∃ case ∈ cases, ∃ t ty, p ∈ caseValueProblems t ty case.1

/-- A finding is one of the innermost statement around it, and the statements around it stand in one
another, the first among those given. -/
def Finding.StandsIn (here : Problem → Prop) (stmts : List Stmt) (f : Finding) : Prop :=
  Nested (·.Owns f.problem) (here f.problem) stmts f.around

section
variable {here : Problem → Prop} {stmts : List Stmt}

theorem found_standsIn {problems : List Problem} (h : ∀ p ∈ problems, here p) :
    ∀ f ∈ found problems, f.StandsIn here stmts :=
  List.forall_mem_map.mpr h

theorem inside_standsIn {s : Stmt} {fs : List Finding} (hs : s ∈ stmts)
    (h : ∀ f ∈ fs, f.StandsIn s.Owns s.inner) :
    ∀ f ∈ fs.map (·.inside s), f.StandsIn here stmts :=
  List.forall_mem_map.mpr fun f hf => ⟨hs, h f hf⟩

end

namespace Stmt

mutual
theorem findings_standsIn : (s : Stmt) → (t : ScopeTree) → {here : Problem → Prop} →
    {stmts : List Stmt} → s ∈ stmts → ∀ f ∈ s.findings t, f.StandsIn here stmts
  | .action line a, t, _, _, hs => by
      rw [findings]
      exact inside_standsIn hs (found_standsIn fun p hp => ⟨t, hp⟩)
  | .jump line j, t, _, _, hs => by
      rw [findings]
      refine inside_standsIn hs (found_standsIn fun p hp => ?_)
      simp only [jumpProblems, List.mem_ite_nil_left, List.mem_singleton] at hp
      exact hp.2
  | .branch line cond body elseIfs otherwise, t, _, _, hs => by
      rw [findings]
      refine inside_standsIn hs ?_
      simp only [List.forall_mem_append]
      refine ⟨⟨⟨found_standsIn fun p hp => .inl ⟨_, hp⟩, findingsAll_standsIn body _ (by simp [inner])⟩,
        findingsElseIfs_standsIn elseIfs _ fun arm harm => ⟨fun t p hp => ?_, ?_⟩⟩,
        findingsBody_standsIn .elseBody otherwise _ (by simp [inner])⟩
      · exact .inr ⟨arm, harm, t, hp⟩
      · exact elseIf_inner line cond harm body otherwise
  | .loop line init cond update body, t, _, _, hs => by
      rw [findings]
      refine inside_standsIn hs ?_
      simp only [List.forall_mem_append]
      refine ⟨⟨⟨findingsOf_standsIn init _ ?_, found_standsIn fun p hp => ⟨_, hp⟩⟩,
        findingsOf_standsIn update _ ?_⟩, findingsAll_standsIn body _ ?_⟩
      all_goals simp [inner]
  | .doWhile line body cond, t, _, _, hs => by
      rw [findings]
      refine inside_standsIn hs ?_
      simp only [List.forall_mem_append]
      exact ⟨findingsAll_standsIn body _ (List.Subset.refl body),
        found_standsIn fun p hp => ⟨_, hp⟩⟩
  | .switch line scrutinee cases fallback, _, _, _, hs => by
      rw [findings]
      refine inside_standsIn hs ?_
      simp only [List.forall_mem_append]
      refine ⟨⟨⟨found_standsIn fun p hp => .inr (.inl ⟨_, hp⟩), found_standsIn fun p hp => .inl ?_⟩,
        findingsCases_standsIn _ cases _ fun case hcase => ⟨fun t p hp => ?_, ?_⟩⟩,
        findingsBody_standsIn .defaultBody fallback _ (by simp [inner])⟩
      · simp only [List.mem_ite_nil_right, List.mem_singleton] at hp
        exact hp.2
      · exact .inr (.inr ⟨case, hcase, t, _, hp⟩)
      · exact case_inner line scrutinee hcase fallback
termination_by structural s => s

theorem findingsOf_standsIn : (s : Option Stmt) → (t : ScopeTree) → {here : Problem → Prop} →
    {stmts : List Stmt} → s.toList ⊆ stmts → ∀ f ∈ findingsOf t s, f.StandsIn here stmts
  | none, _, _, _, _ => List.forall_mem_nil _
  | some s, t, _, _, hs => findings_standsIn s t (hs (List.mem_singleton_self s))
termination_by structural s => s

theorem findingsAll_standsIn : (body : List Stmt) → (t : ScopeTree) → {here : Problem → Prop} →
    {stmts : List Stmt} → body ⊆ stmts → ∀ f ∈ findingsAll t body, f.StandsIn here stmts
  | [], _, _, _, _ => List.forall_mem_nil _
  | s :: rest, t, _, _, hbody => by
      obtain ⟨hs, hrest⟩ := List.cons_subset.mp hbody
      rw [findingsAll, List.forall_mem_append]
      exact ⟨findings_standsIn s t hs, findingsAll_standsIn rest _ hrest⟩
termination_by structural body => body

theorem findingsElseIfs_standsIn : (arms : List (Expr × List Stmt)) → (t : ScopeTree) →
    {here : Problem → Prop} → {stmts : List Stmt} →
    (∀ arm ∈ arms, (∀ t, ∀ p ∈ conditionProblems t arm.1 .elseIfCondition, here p) ∧ arm.2 ⊆ stmts) →
    ∀ f ∈ findingsElseIfs t arms, f.StandsIn here stmts
  | [], _, _, _, _ => List.forall_mem_nil _
  | (cond, body) :: rest, t, _, _, harms => by
      obtain ⟨⟨hcond, hbody⟩, hrest⟩ := List.forall_mem_cons.mp harms
      rw [findingsElseIfs, List.forall_mem_append, List.forall_mem_append]
      exact ⟨⟨found_standsIn (hcond t), findingsAll_standsIn body _ hbody⟩,
        findingsElseIfs_standsIn rest _ hrest⟩
termination_by structural arms => arms

theorem findingsCases_standsIn (switched : Ty) : (cases : List (Expr × List Stmt)) →
    (t : ScopeTree) → {here : Problem → Prop} → {stmts : List Stmt} →
    (∀ case ∈ cases, (∀ t, ∀ p ∈ caseValueProblems t switched case.1, here p) ∧ case.2 ⊆ stmts) →
    ∀ f ∈ findingsCases switched t cases, f.StandsIn here stmts
  | [], _, _, _, _ => List.forall_mem_nil _
  | (value, body) :: rest, t, _, _, hcases => by
      obtain ⟨⟨hvalue, hbody⟩, hrest⟩ := List.forall_mem_cons.mp hcases
      rw [findingsCases, List.forall_mem_append, List.forall_mem_append]
      exact ⟨⟨found_standsIn (hvalue t), findingsAll_standsIn body _ hbody⟩,
        findingsCases_standsIn switched rest _ hrest⟩
termination_by structural cases => cases

theorem findingsBody_standsIn (kind : ScopeKind) : (body : Option (List Stmt)) →
    (t : ScopeTree) → {here : Problem → Prop} → {stmts : List Stmt} → body.getD [] ⊆ stmts →
    ∀ f ∈ findingsBody kind t body, f.StandsIn here stmts
  | none, _, _, _, _ => List.forall_mem_nil _
  | some body, _, _, _, hbody => findingsAll_standsIn body _ hbody
termination_by structural body => body
end

end Stmt

/-! ## Programs -/

namespace Program

/-- What the check of a program finds, in order. -/
def findings (p : Program) : List Finding := Stmt.findingsAll .start p.stmts

theorem findings_standIn (p : Program) :
    ∀ f ∈ p.findings, f.StandsIn (fun _ => False) p.stmts :=
  Stmt.findingsAll_standsIn p.stmts .start (List.Subset.refl p.stmts)

/-- The diagnostics of a program are the reports of its findings, each of which stands in its statements
and has the line of the innermost one around it with a line. The check of a statement, from any state,
reports what is found in it, on the line on which it started if no statement gives one, and returns to
that line. -/
theorem diagnostics_on_lines (p : Program) :
    p.diagnostics = reportsOf none p.findings ∧
      (∀ f ∈ p.findings, f.StandsIn (fun _ => False) p.stmts) ∧
      ∀ (s : Stmt) (c : Checker),
        (s.check c).2.diagnostics = c.diagnostics ++ reportsOf c.line (s.findings c.scopes) ∧
          (s.check c).2.line = c.line := by
  refine ⟨?_, p.findings_standIn, fun s c => ⟨?_, line_run s.check c⟩⟩
  · rw [diagnostics_eq, Stmt.checkAll_reported, findings]
  · rw [diagnostics_run, s.check_reported]

/-- A loop with two statements in its body, the second on line 0, and with a condition behind them that
is no truth value. -/
def numericCondition : Program where
  stmts := [.doWhile (some 2)
    [.action (some 3) (.evaluate (.var .unknown "a")), .action (some 0) (.evaluate (.var .unknown "b"))]
    (.lit .unknown "1")]

theorem numericCondition_on_lines :
    numericCondition.diagnostics.map (·.line) = [some 3, none, some 2] ∧
      numericCondition.diagnostics = reportsOf none numericCondition.findings ∧
      ∀ f ∈ numericCondition.findings, f.StandsIn (fun _ => False) numericCondition.stmts := by
  obtain ⟨hreports, hstands, -⟩ := numericCondition.diagnostics_on_lines
  exact ⟨by decide, hreports, hstands⟩

end Program

end Primer
