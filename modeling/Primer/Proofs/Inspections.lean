import Primer.Proofs.Annotations
import Primer.Proofs.Declaring
import Primer.Proofs.Reports

/-!
# Inspections

The check of a program comes to its actions one after the other, to each on a line and in scopes that
depend on the actions before it. The registry runs through them: a name enters it with an accepted
declaration and never leaves it, whatever becomes of the scope of the declaration.
-/

namespace Primer

open Check

/-! ## Actions that the check comes to -/

/-- The name of the variable that an action declares. -/
def Action.variable? : Action → Option String
  | .declare _ name _ => some name
  | _ => none

/-- An action with the line and the scopes in which it is checked. -/
structure Inspection where
  line : Option Line
  scopes : ScopeTree
  action : Action

namespace Inspection

def problems (i : Inspection) : List Problem := (i.action.check i.scopes).problems

def diagnostics (i : Inspection) : List Diagnostic := i.problems.map (·.diagnostic i.line)

/-- The scopes behind the action. -/
def leaves (i : Inspection) : ScopeTree := (i.action.check i.scopes).scopes

/-- The name that the action declares, if nothing is wrong with it. -/
def registered? (i : Inspection) : Option String :=
  if i.problems.isEmpty then i.action.declared? else none

end Inspection

namespace Stmt

mutual
/-- The actions of a statement in the order in which they are checked. -/
def inspections (around : Option Line) (t : ScopeTree) : Stmt → List Inspection
  | action line a => [⟨line <|> around, t, a⟩]
  | jump _ _ => []
  | branch line _ body elseIfs otherwise =>
    let behindBody := after (inScope .ifBody (checkAll body)) t
    inspectionsAll (line <|> around) (t.enter .ifBody) body ++
      (inspectionsArms (line <|> around) .elseIfBody behindBody elseIfs ++
        inspectionsBody (line <|> around) .elseBody (after (checkElseIfs elseIfs) behindBody) otherwise)
  | loop line init _ update body =>
    let behindInit := after (checkOption init) t
    inspectionsOf (line <|> around) t init ++
      (inspectionsOf (line <|> around) behindInit update ++
        inspectionsAll (line <|> around) ((after (checkOption update) behindInit).enter .loop) body)
  | doWhile line body _ => inspectionsAll (line <|> around) (t.enter .loop) body
  | switch line scrutinee cases fallback =>
    let behindCases :=
      after (checkCases (output (Check.expr scrutinee) t).ty cases) (t.enter .switch)
    inspectionsArms (line <|> around) .caseBody (t.enter .switch) cases ++
      inspectionsBody (line <|> around) .defaultBody behindCases fallback

def inspectionsOf (around : Option Line) (t : ScopeTree) : Option Stmt → List Inspection
  | none => []
  | some s => inspections around t s

def inspectionsAll (around : Option Line) (t : ScopeTree) : List Stmt → List Inspection
  | [] => []
  | s :: rest => inspections around t s ++ inspectionsAll around (after s.check t) rest

def inspectionsArms (around : Option Line) (kind : ScopeKind) (t : ScopeTree) :
    List (Expr × List Stmt) → List Inspection
  | [] => []
  | (_, body) :: rest =>
    inspectionsAll around (t.enter kind) body ++
      inspectionsArms around kind (after (inScope kind (checkAll body)) t) rest

def inspectionsBody (around : Option Line) (kind : ScopeKind) (t : ScopeTree) :
    Option (List Stmt) → List Inspection
  | none => []
  | some body => inspectionsAll around (t.enter kind) body
end

/-! They are the actions of the statement, all of them. -/

mutual
theorem inspections_actions : (s : Stmt) → (around : Option Line) → (t : ScopeTree) →
    (s.inspections around t).map Inspection.action = s.everywhere.filterMap action?
  | .action _ _, _, _ => rfl
  | .jump _ _, _, _ => rfl
  | .branch _ _ body elseIfs otherwise, _, _ => by
      simp [inspections, everywhere, action?, List.filterMap_cons, inspectionsAll_actions body,
        inspectionsArms_actions elseIfs, inspectionsBody_actions otherwise]
  | .loop _ init _ update body, _, _ => by
      simp [inspections, everywhere, action?, List.filterMap_cons, inspectionsOf_actions init,
        inspectionsOf_actions update, inspectionsAll_actions body]
  | .doWhile _ body _, _, _ => by
      simp [inspections, everywhere, action?, List.filterMap_cons, inspectionsAll_actions body]
  | .switch _ _ cases fallback, _, _ => by
      simp [inspections, everywhere, action?, List.filterMap_cons, inspectionsArms_actions cases,
        inspectionsBody_actions fallback]

theorem inspectionsOf_actions : (s : Option Stmt) → (around : Option Line) → (t : ScopeTree) →
    (inspectionsOf around t s).map Inspection.action = (everywhereOf s).filterMap action?
  | none, _, _ => rfl
  | some s, around, t => inspections_actions s around t

theorem inspectionsAll_actions : (body : List Stmt) → (around : Option Line) → (t : ScopeTree) →
    (inspectionsAll around t body).map Inspection.action = (everywhereAll body).filterMap action?
  | [], _, _ => rfl
  | s :: rest, _, _ => by
      simp [inspectionsAll, everywhereAll, inspections_actions s, inspectionsAll_actions rest]

theorem inspectionsArms_actions : (arms : List (Expr × List Stmt)) → (around : Option Line) →
    (kind : ScopeKind) → (t : ScopeTree) → (inspectionsArms around kind t arms).map Inspection.action =
      (everywhereArms arms).filterMap action?
  | [], _, _, _ => rfl
  | (_, body) :: rest, _, _, _ => by
      simp [inspectionsArms, everywhereArms, inspectionsAll_actions body, inspectionsArms_actions rest]

theorem inspectionsBody_actions : (body : Option (List Stmt)) → (around : Option Line) →
    (kind : ScopeKind) → (t : ScopeTree) → (inspectionsBody around kind t body).map Inspection.action =
      (everywhereBody body).filterMap action?
  | none, _, _, _ => rfl
  | some body, around, kind, t => inspectionsAll_actions body around (t.enter kind)
end

end Stmt

/-! ## The registry -/

theorem Inspection.leaves_registry (i : Inspection) :
    i.leaves.registry = i.registered?.toList ++ i.scopes.registry := by
  unfold leaves registered? problems
  cases i.action.check_settled i.scopes with
  | declared ty set hn _ hnew _ hclean hc =>
    rw [hc, hclean, List.isEmpty_nil, if_pos rfl, hn, ScopeTree.declare_new hnew]
    rfl
  | marked n hn hc =>
    rw [hc, hn, ScopeTree.markSet_registry]
    split <;> rfl
  | same h hc =>
    rw [hc]
    rcases h with hn | hproblems
    · rw [hn]
      split <;> rfl
    · rw [if_neg fun hempty => hproblems (List.isEmpty_iff.mp hempty)]
      rfl

/-- A live name is registered. -/
theorem ScopeTree.Reachable.registered {t : ScopeTree} (h : t.Reachable) :
    ∀ e ∈ t.declared, e.1 ∈ t.registry := by
  induction h with
  | start => exact nofun
  | @action t a _ ih =>
    intro e he
    cases a.check_settled t with
    | @declared n ty set hn _ hnew _ hclean hc =>
      rw [hc] at he ⊢
      rcases (declare_extends t n ty set).mem he with he | he
      · obtain rfl := List.mem_singleton.mp he
        rw [declare_new hnew]
        exact List.mem_cons_self
      · rw [declare_new hnew]
        exact List.mem_cons_of_mem _ (ih e he)
    | marked n hn hc =>
      rw [hc] at he ⊢
      rw [markSet_registry]
      exact ih e (((markSet_extends t n).mem he).resolve_left nofun)
    | same h hc =>
      rw [hc] at he ⊢
      exact ih e he
  | enter kind _ ih =>
    intro e he
    rw [declared_enter] at he
    exact ih e he
  | exit _ ih =>
    intro e he
    rw [exit_registry]
    exact ih e (declared_exit he)

theorem ScopeTree.Reachable.isRegistered {t : ScopeTree} (h : t.Reachable) {n : String}
    (hn : t.isDeclared n = true) : n ∈ t.registry := by
  obtain ⟨d, hd⟩ := Option.isSome_iff_exists.mp hn
  have hlookup : t.lookup? n = some d.ty := by rw [lookup?, hd, Option.map_some]
  exact h.registered (n, d.ty) (mem_declared hlookup)

/-- The registry goes from each action to the next, from the first registry to the second. -/
inductive Records : List String → List Inspection → List String → Prop where
  | nil {r} : Records r [] r
  | cons {i rest r} : Records i.leaves.registry rest r → Records i.scopes.registry (i :: rest) r

namespace Records

variable {r r' r'' : List String} {i : Inspection} {is rest : List Inspection}

theorem append (h : Records r is r') (h' : Records r' rest r'') : Records r (is ++ rest) r'' := by
  induction h with
  | nil => exact h'
  | cons _ ih => exact .cons (ih h')

theorem split (is : List Inspection) (h : Records r (is ++ rest) r') :
    ∃ r₁, Records r is r₁ ∧ Records r₁ rest r' := by
  induction is generalizing r with
  | nil => exact ⟨r, .nil, h⟩
  | cons i is ih =>
    cases h with
    | cons h =>
      obtain ⟨r₁, h₁, h₂⟩ := ih h
      exact ⟨r₁, .cons h₁, h₂⟩

theorem head (h : Records r (i :: rest) r') : i.scopes.registry = r := by
  cases h
  rfl

/-- The names that are added are those of the accepted declarations, the last one in front. -/
theorem registry_eq (h : Records r is r') :
    r' = (is.filterMap Inspection.registered?).reverse ++ r := by
  induction h with
  | nil => rfl
  | @cons i rest r _ ih =>
    rw [ih, i.leaves_registry, List.filterMap_cons]
    cases i.registered? <;> simp

end Records

/-! ## Checks -/

/-- A check goes through the inspections: what it adds to the registry and a part of what it reports
are theirs, and it comes to their scopes. -/
structure Inspects {α : Type} (x : Check α) (line : Option Line) (t : ScopeTree)
    (is : List Inspection) : Prop where
  reaches : t.Reachable → (∀ i ∈ is, i.scopes.Reachable) ∧ (after x t).Reachable
  records : Records t.registry is (after x t).registry
  reports : (is.flatMap Inspection.diagnostics).Sublist (reported x line t)

namespace Inspects

variable {α β : Type} {x : Check α} {f : α → Check β} {line : Option Line} {t : ScopeTree}
  {is js : List Inspection}

theorem pure (a : α) : Inspects (Pure.pure a) line t [] :=
  ⟨fun ht => ⟨List.forall_mem_nil _, ht⟩, .nil, List.Sublist.refl _⟩

theorem action (a : Action) : Inspects (Check.action a) line t [⟨line, t, a⟩] := by
  refine ⟨fun ht => ⟨?_, .action a ht⟩, .cons (i := ⟨line, t, a⟩) .nil, ?_⟩
  · rw [List.forall_mem_singleton]
    exact ht
  rw [List.flatMap_singleton]
  exact List.Sublist.refl _

theorem bind [Uniform x] [∀ a, Uniform (f a)] (h : Inspects x line t is)
    (h' : Inspects (f (output x t)) line (after x t) js) : Inspects (x >>= f) line t (is ++ js) := by
  refine ⟨fun ht => ?_, ?_, ?_⟩
  · obtain ⟨his, hx⟩ := h.reaches ht
    rw [List.forall_mem_append, after_bind]
    exact ⟨⟨his, (h'.reaches hx).1⟩, (h'.reaches hx).2⟩
  · rw [after_bind]
    exact h.records.append h'.records
  · rw [List.flatMap_append, reported_bind]
    exact h.reports.append h'.reports

/-- A check that leaves the scopes alone may stand in front. -/
theorem behind [Uniform x] [∀ a, Uniform (f a)] (hx : after x t = t)
    (h : Inspects (f (output x t)) line t is) : Inspects (x >>= f) line t is := by
  have hsilent : Inspects x line t [] := by
    refine ⟨fun ht => ⟨List.forall_mem_nil _, ?_⟩, ?_, List.nil_sublist _⟩
    · rw [hx]
      exact ht
    · rw [hx]
      exact .nil
  exact hsilent.bind (hx.symm ▸ h)

/-- A result may be made of what is checked. -/
theorem returned [Uniform x] {g : α → β} (h : Inspects x line t is) :
    Inspects (x >>= fun a => Pure.pure (g a)) line t is := by
  have hpure : Inspects (Pure.pure (g (output x t))) line (after x t) [] := .pure _
  simpa only [List.append_nil] using h.bind (f := fun a => Pure.pure (g a)) hpure

theorem onLine [Uniform x] {own : Option Line} (h : Inspects x (own <|> line) t is) :
    Inspects (Check.onLine own x) line t is := by
  refine ⟨fun ht => ?_, ?_, ?_⟩
  · rw [after_onLine]
    exact h.reaches ht
  · rw [after_onLine]
    exact h.records
  · rw [reported_onLine]
    exact h.reports

theorem inScope {kind : ScopeKind} (h : Inspects x line (t.enter kind) is) :
    Inspects (Check.inScope kind x) line t is := by
  refine ⟨fun ht => (h.reaches (.enter kind ht)).imp_right .exit, ?_, h.reports⟩
  rw [after_inScope, ScopeTree.exit_registry]
  exact h.records

end Inspects

namespace Stmt

mutual
theorem check_inspects : (s : Stmt) → (around : Option Line) → (t : ScopeTree) →
    Inspects s.check around t (s.inspections around t)
  | .action line a, around, t => by
      rw [check, inspections]
      exact .onLine (.returned (.action a))
  | .jump line j, around, t => by
      rw [check, inspections]
      exact .onLine (.behind (after_jump j t) (.pure _))
  | .branch line cond body elseIfs otherwise, around, t => by
      rw [check, inspections]
      refine .onLine (.behind (after_condition cond _ t) ?_)
      refine .bind (.inScope (checkAll_inspects body _ _)) ?_
      exact .bind (checkElseIfs_inspects elseIfs _ _) (.returned (checkBody_inspects _ otherwise _ _))
  | .loop line init cond update body, around, t => by
      rw [check, inspections]
      refine .onLine (.bind (checkOption_inspects init _ t) (.behind (after_condition cond _ _) ?_))
      refine .bind (checkOption_inspects update _ _) ?_
      exact .returned (.inScope (checkAll_inspects body _ _))
  | .doWhile line body cond, around, t => by
      rw [check, inspections, ← List.append_nil (inspectionsAll _ _ _)]
      refine .onLine (.bind (.inScope (checkAll_inspects body _ _)) ?_)
      exact .behind (after_condition cond _ _) (.pure _)
  | .switch line scrutinee cases fallback, around, t => by
      rw [check_switch, inspections]
      refine .onLine (.behind (after_expr scrutinee t) (.behind (after_report _ t) (.inScope ?_)))
      exact .bind (checkCases_inspects _ cases _ _) (.returned (checkBody_inspects _ fallback _ _))

theorem checkOption_inspects : (s : Option Stmt) → (around : Option Line) → (t : ScopeTree) →
    Inspects (checkOption s) around t (inspectionsOf around t s)
  | none, _, _ => .pure none
  | some s, around, t => by
      rw [checkOption, inspectionsOf]
      exact .returned (check_inspects s around t)

theorem checkAll_inspects : (body : List Stmt) → (around : Option Line) → (t : ScopeTree) →
    Inspects (checkAll body) around t (inspectionsAll around t body)
  | [], _, _ => .pure []
  | s :: rest, around, t => by
      rw [checkAll, inspectionsAll]
      exact .bind (check_inspects s around t) (.returned (checkAll_inspects rest around _))

theorem checkElseIfs_inspects : (arms : List (Expr × List Stmt)) → (around : Option Line) →
    (t : ScopeTree) →
    Inspects (checkElseIfs arms) around t (inspectionsArms around .elseIfBody t arms)
  | [], _, _ => .pure []
  | (cond, body) :: rest, around, t => by
      rw [checkElseIfs, inspectionsArms]
      refine .behind (after_condition cond _ t) (.bind (.inScope (checkAll_inspects body _ _)) ?_)
      exact .returned (checkElseIfs_inspects rest around _)

theorem checkCases_inspects (switched : Ty) : (cases : List (Expr × List Stmt)) →
    (around : Option Line) → (t : ScopeTree) →
    Inspects (checkCases switched cases) around t (inspectionsArms around .caseBody t cases)
  | [], _, _ => .pure []
  | (value, body) :: rest, around, t => by
      rw [checkCases, inspectionsArms]
      refine .behind (after_expr value t) (.behind (after_report _ t) ?_)
      refine .bind (.inScope (checkAll_inspects body _ _)) ?_
      exact .returned (checkCases_inspects switched rest around _)

theorem checkBody_inspects (kind : ScopeKind) : (body : Option (List Stmt)) →
    (around : Option Line) → (t : ScopeTree) →
    Inspects (checkBody kind body) around t (inspectionsBody around kind t body)
  | none, _, _ => .pure none
  | some body, around, t => by
      rw [checkBody, inspectionsBody]
      exact .returned (.inScope (checkAll_inspects body _ _))
end

end Stmt

namespace Program

/-- The actions of a program in the order in which they are checked. -/
def inspections (p : Program) : List Inspection := Stmt.inspectionsAll none .start p.stmts

theorem inspections_actions (p : Program) : p.inspections.map Inspection.action = p.actions :=
  Stmt.inspectionsAll_actions p.stmts none .start

/-- The check of each action reports for itself. -/
theorem inspections_reported (p : Program) :
    (p.inspections.flatMap Inspection.diagnostics).Sublist p.diagnostics :=
  (Stmt.checkAll_inspects p.stmts none .start).reports

theorem inspections_reachable (p : Program) : ∀ i ∈ p.inspections, i.scopes.Reachable :=
  ((Stmt.checkAll_inspects p.stmts none .start).reaches .start).1

/-- What the registry holds when the check comes to an action. -/
theorem registry_eq {p : Program} {before after : List Inspection} {i : Inspection}
    (h : p.inspections = before ++ i :: after) :
    i.scopes.registry = (before.filterMap Inspection.registered?).reverse := by
  have hrecords := (Stmt.checkAll_inspects p.stmts none .start).records
  rw [← inspections, h] at hrecords
  obtain ⟨r, hbefore, hafter⟩ := hrecords.split before
  rw [hafter.head, hbefore.registry_eq]
  exact List.append_nil _

end Program

end Primer
