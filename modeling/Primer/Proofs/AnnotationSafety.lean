import Primer.Proofs.Annotations

/-!
# Annotation safety

In an accepted program every expression, at any depth, has the type that its place gives it, which
is never the unknown one.
-/

namespace Primer

open Check

/-- An expression that follows the typing rules where a check can come to. -/
def Expr.Placed (e : Expr) : Prop := ∃ t : ScopeTree, t.Reachable ∧ e.Typed t.lookup?

theorem Action.Typed.exprs {Γ : Context} {a : Action} (h : a.Typed Γ) :
    ∀ e ∈ a.exprs, e.Typed Γ := by
  have hitem : ∀ i : DisplayItem, i.Typed Γ → ∀ e ∈ i.exprs, e.Typed Γ := by
    intro i hi e he
    cases i with
    | expr e' =>
      rw [DisplayItem.exprs, List.mem_singleton] at he
      exact he ▸ hi
    | named | literal => cases he
  intro e he
  cases a with
  | declare | declareArray =>
    obtain ⟨p, -, hinit⟩ := h
    exact (hinit e (Option.mem_toList.mp he)).1
  | assign name op value =>
    obtain ⟨ty, -, -, hv, -⟩ := h
    rw [Action.exprs, List.mem_singleton] at he
    exact he ▸ hv
  | assignArray name value | push name value =>
    obtain ⟨p, -, hv, -⟩ := h
    rw [Action.exprs, List.mem_singleton] at he
    exact he ▸ hv
  | display item =>
    obtain ⟨i, hi, hei⟩ := List.mem_flatMap.mp he
    exact hitem i (h i (Option.mem_toList.mp hi)) e hei
  | displayAll items =>
    obtain ⟨i, hi, hei⟩ := List.mem_flatMap.mp he
    exact hitem i (h i hi) e hei
  | input => cases he
  | assignElement name idx op value | set name idx value =>
    obtain ⟨p, -, hidx, hv, -⟩ := h
    simp only [Action.exprs, List.mem_cons, List.not_mem_nil, or_false] at he
    rcases he with rfl | rfl
    · exact hidx.1
    · exact hv
  | inputElement name idx =>
    obtain ⟨p, -, hidx, -⟩ := h
    rw [Action.exprs, List.mem_singleton] at he
    exact he ▸ hidx
  | evaluate e' =>
    rw [Action.exprs, List.mem_singleton] at he
    exact he ▸ h

namespace Stmt

open ScopeTree

theorem result_placed {t : ScopeTree} {e : Expr} (ht : t.Reachable)
    (h : (e.check t none).problems = []) : (e.check t none).result.Placed :=
  ⟨t, ht, e.check_typed ht.known none h⟩

theorem inScope_reachable {t : ScopeTree} (kind : ScopeKind) (body : List Stmt) (ht : t.Reachable) :
    (after (checkAll body) (t.enter kind)).exit.Reachable :=
  .exit (checkAll_respects reachable_respected body _ (ht.enter kind))

mutual
theorem check_placed : (s : Stmt) → (t : ScopeTree) → t.Reachable → Accepts s.check t →
    ∀ e ∈ (output s.check t).exprs, e.Placed
  | .action _ a, t, ht, h => by
      simp only [check, accepts_onLine, accepts_bind, accepts_action, accepts_pure, and_true] at h
      simp only [check, output_onLine, output_bind, output_action, output_pure, exprs]
      exact fun e he => ⟨t, ht, (a.check_typed ht.known h).exprs e he⟩
  | .jump _ _, t, _, _ => by
      simp [check, exprs]
  | .branch _ cond body elseIfs otherwise, t, ht, h => by
      simp only [check, accepts_onLine, accepts_bind, accepts_condition, accepts_inScope,
        after_condition, after_inScope, accepts_pure, and_true] at h
      obtain ⟨hcond, hbody, helse, hother⟩ := h
      have hb := inScope_reachable .ifBody body ht
      have he := checkElseIfs_respects reachable_respected elseIfs _ hb
      simp only [check, output_onLine, output_bind, output_condition, after_condition, output_inScope,
        after_inScope, output_pure, exprs, List.forall_mem_cons, List.forall_mem_append]
      exact ⟨result_placed ht hcond.1, ⟨checkAll_placed body _ (ht.enter _) hbody,
        checkElseIfs_placed elseIfs _ hb helse⟩, checkBody_placed _ otherwise _ he hother⟩
  | .loop _ init cond update body, t, ht, h => by
      simp only [check, accepts_onLine, accepts_bind, accepts_condition, accepts_inScope,
        after_condition, accepts_pure, and_true] at h
      obtain ⟨hinit, hcond, hupdate, hbody⟩ := h
      have hi := checkOption_respects reachable_respected init t ht
      have hu := checkOption_respects reachable_respected update _ hi
      simp only [check, output_onLine, output_bind, output_condition, after_condition, output_inScope,
        output_pure, exprs, List.forall_mem_cons, List.forall_mem_append]
      exact ⟨checkOption_placed init t ht hinit, result_placed hi hcond.1,
        checkOption_placed update _ hi hupdate, checkAll_placed body _ (hu.enter _) hbody⟩
  | .doWhile _ body cond, t, ht, h => by
      simp only [check, accepts_onLine, accepts_bind, accepts_condition, accepts_inScope,
        after_inScope, accepts_pure, and_true] at h
      obtain ⟨hbody, hcond⟩ := h
      have hb := inScope_reachable .loop body ht
      simp only [check, output_onLine, output_bind, output_condition, output_inScope, after_inScope,
        output_pure, exprs, List.forall_mem_append, List.forall_mem_singleton]
      exact ⟨checkAll_placed body _ (ht.enter _) hbody, result_placed hb hcond.1⟩
  | .switch _ scrutinee cases fallback, t, ht, h => by
      simp only [check_switch, accepts_onLine, accepts_bind, accepts_expr, accepts_report,
        accepts_inScope, after_expr, after_report, output_expr, accepts_pure, and_true] at h
      obtain ⟨hscrutinee, -, hcases, hfallback⟩ := h
      have hc := checkCases_respects reachable_respected (scrutinee.check t none).result.ty cases _
        (ht.enter .switch)
      simp only [check_switch, output_onLine, output_bind, output_expr, after_expr, after_report,
        output_inScope, output_pure, exprs, List.forall_mem_cons, List.forall_mem_append]
      exact ⟨result_placed ht hscrutinee, checkCases_placed _ cases _ (ht.enter _) hcases,
        checkBody_placed _ fallback _ hc hfallback⟩

theorem checkOption_placed : (s : Option Stmt) → (t : ScopeTree) → t.Reachable →
    Accepts (checkOption s) t → ∀ e ∈ exprsOf (output (checkOption s) t), e.Placed
  | none, t, _, _ => by simp [checkOption, exprsOf]
  | some s, t, ht, h => by
      simp only [checkOption, accepts_bind, accepts_pure, and_true] at h
      simpa only [checkOption, output_bind, output_pure, exprsOf] using check_placed s t ht h

theorem checkAll_placed : (body : List Stmt) → (t : ScopeTree) → t.Reachable →
    Accepts (checkAll body) t → ∀ e ∈ exprsAll (output (checkAll body) t), e.Placed
  | [], t, _, _ => by simp [checkAll, exprsAll]
  | s :: rest, t, ht, h => by
      simp only [checkAll, accepts_bind, accepts_pure, and_true] at h
      have hnext := check_respects reachable_respected s t ht
      simp only [checkAll, output_bind, output_pure, exprsAll, List.forall_mem_append]
      exact ⟨check_placed s t ht h.1, checkAll_placed rest _ hnext h.2⟩

theorem checkElseIfs_placed : (arms : List (Expr × List Stmt)) → (t : ScopeTree) →
    t.Reachable → Accepts (checkElseIfs arms) t →
    ∀ e ∈ exprsArms (output (checkElseIfs arms) t), e.Placed
  | [], t, _, _ => by simp [checkElseIfs, exprsArms]
  | (cond, body) :: rest, t, ht, h => by
      simp only [checkElseIfs, accepts_bind, accepts_condition, accepts_inScope, after_condition,
        after_inScope, accepts_pure, and_true] at h
      obtain ⟨hcond, hbody, hrest⟩ := h
      have hb := inScope_reachable .elseIfBody body ht
      simp only [checkElseIfs, output_bind, output_condition, after_condition, output_inScope,
        after_inScope, output_pure, exprsArms, List.forall_mem_cons, List.forall_mem_append]
      exact ⟨result_placed ht hcond.1, checkAll_placed body _ (ht.enter _) hbody,
        checkElseIfs_placed rest _ hb hrest⟩

theorem checkCases_placed (switched : Ty) : (cases : List (Expr × List Stmt)) →
    (t : ScopeTree) → t.Reachable → Accepts (checkCases switched cases) t →
    ∀ e ∈ exprsArms (output (checkCases switched cases) t), e.Placed
  | [], t, _, _ => by simp [checkCases, exprsArms]
  | (value, body) :: rest, t, ht, h => by
      simp only [checkCases, accepts_bind, accepts_expr, accepts_report, accepts_inScope, after_expr,
        after_report, after_inScope, output_expr, accepts_pure, and_true] at h
      obtain ⟨hvalue, -, hbody, hrest⟩ := h
      have hb := inScope_reachable .caseBody body ht
      simp only [checkCases, output_bind, output_expr, after_expr, after_report, output_inScope,
        after_inScope, output_pure, exprsArms, List.forall_mem_cons, List.forall_mem_append]
      exact ⟨result_placed ht hvalue, checkAll_placed body _ (ht.enter _) hbody,
        checkCases_placed switched rest _ hb hrest⟩

theorem checkBody_placed (kind : ScopeKind) : (body : Option (List Stmt)) → (t : ScopeTree) →
    t.Reachable → Accepts (checkBody kind body) t →
    ∀ e ∈ exprsBody (output (checkBody kind body) t), e.Placed
  | none, t, _, _ => by simp [checkBody, exprsBody]
  | some body, t, ht, h => by
      simp only [checkBody, accepts_bind, accepts_inScope, accepts_pure, and_true] at h
      simpa only [checkBody, output_bind, output_inScope, output_pure, exprsBody] using
        checkAll_placed body _ (ht.enter kind) h
end

end Stmt

/-! ## Reports -/

theorem Check.report_length {problems : List Problem} (h : problems ≠ []) (c : Checker) :
    c.diagnostics.length < (report problems c).2.diagnostics.length := by
  have hpos := List.length_pos_iff.mpr h
  simp only [report_run, List.length_append, List.length_map]
  omega

/-- An expression that has a type, which is that of an array if the expression lists elements. -/
structure Expr.Annotated (e : Expr) : Prop where
  known : e.ty ≠ .unknown
  array : ∀ ty elems, e = .arrayOf ty elems → ∃ elem, ty = .array elem

theorem Expr.Typed.annotated {Γ : Context} {e : Expr} (h : e.Typed Γ) : e.Annotated := by
  refine ⟨h.known, ?_⟩
  rintro ty elems rfl
  obtain ⟨elem, hty, -⟩ := h
  exact ⟨elem, hty⟩

theorem Action.check_annotated {t : ScopeTree} (ht : t.Known) {a : Action}
    (h : (a.check t).problems = []) :
    ∀ e ∈ (a.check t).result.exprs, ∀ x ∈ e.parts, x.Annotated :=
  fun e he _ hx => (Expr.Typed.parts e ((a.check_typed ht h).exprs e he) hx).annotated

namespace Program

theorem nodes_annotated {p : Program} (h : p.diagnostics = []) :
    ∀ e ∈ p.annotated.nodes, e.Annotated := by
  intro e he
  obtain ⟨e', he', hpart⟩ := List.mem_flatMap.mp he
  obtain ⟨t, ht, htyped⟩ :=
    Stmt.checkAll_placed p.stmts .start .start (p.accepts_iff.mp h) e' he'
  exact (Expr.Typed.parts e' htyped hpart).annotated

/-- Wherever a check comes to, it reports a problem if it leaves an expression without a type, and
no name is without one. So a check without reports leaves a type on every expression of the program,
whatever types were there before. -/
theorem unknown_reported :
    (∀ c : Checker, c.scopes.Reachable →
      (∀ s : Stmt, (s.check c).2.scopes.Reachable) ∧
      (∀ e ∈ c.scopes.declared, e.2 ≠ .unknown) ∧
      (∀ (e : Expr) hint, (e.check c.scopes hint).ty = .unknown → (e.check c.scopes hint).problems ≠ []) ∧
      (∀ e, (Check.expr e c).1.ty = .unknown →
        c.diagnostics.length < (Check.expr e c).2.diagnostics.length) ∧
      ∀ a, (∃ e ∈ (Check.action a c).1.exprs, ∃ x ∈ e.parts, ¬x.Annotated) →
        c.diagnostics.length < (Check.action a c).2.diagnostics.length) ∧
    ∀ p : Program, p.diagnostics = [] →
      (∀ e ∈ p.annotated.nodes, e.Annotated) ∧ (∀ ty ∈ p.annotated.types, ty ≠ .unknown) ∧
      p.annotated.erased = p.erased ∧ p.erased.annotated = p.annotated := by
  refine ⟨fun c hc => ⟨fun s => ?_, hc.declared_known, fun e hint => e.check_unknown hc.known, ?_, ?_⟩,
    fun p h => ⟨nodes_annotated h, ?_, p.annotated_erased, erased_annotated h⟩⟩
  · rw [scopes_run]
    exact s.check_respects ScopeTree.reachable_respected c.scopes hc
  · intro e he
    exact report_length (e.check_unknown hc.known he) c
  · rintro a ⟨e, he, x, hx, hunknown⟩
    refine report_length (fun hclean => ?_) c
    exact hunknown (a.check_annotated hc.known hclean e he x hx)
  · intro ty hty
    obtain ⟨e, he, rfl⟩ := List.mem_map.mp (p.annotated.nodes_types ▸ hty)
    exact (nodes_annotated h e he).known

/-- An array of which one element is asked and another one shown. -/
def askedElement : Program where
  stmts := [
    .action none (.declareArray "NUMBER" "none" (some (.arrayOf .unknown []))),
    .action none (.declareArray "NUMBER" "xs" (some (.arrayOf .unknown
      [.lit .unknown "1", .unary .unknown .neg (.lit .unknown "2")]))),
    .branch none (.binary .unknown .equal (.index .unknown "xs" (.lit .unknown "0"))
        (.length .unknown "none"))
      [.action none (.display (some (.expr (.pop .unknown "xs"))) true)] [] none]

theorem askedElement_annotated : askedElement.diagnostics = [] ∧
    askedElement.annotated.nodes.length = 10 ∧
    Expr.Annotated (.arrayOf (.array .number) []) :=
  ⟨rfl, rfl, (unknown_reported.2 askedElement rfl).1 _ List.mem_cons_self⟩

end Program

end Primer
