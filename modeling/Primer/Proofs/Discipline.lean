import Primer.Proofs.Declaring
import Primer.Proofs.Ensures
import Primer.Proofs.Parts

/-!
# Disciplines

A discipline relates the scopes of the check to the visits so far and the store of the run, and says of
each action and each evaluation that is accepted in some scopes what it makes of the relation, which
faults it may end in and what its visit shows. It then holds of whole executions: of bodies that are
skipped or run again, of loops that are left early, and of jumps.
-/

namespace Primer

open Check ScopeTree

/-! ## Disciplines -/

/-- What holds of the scopes, the visits so far and the store all along an execution. -/
structure Discipline (settings : Settings) where
  holds : ScopeTree → List Visit → Store → Prop
  /-- The faults that a visit may end in, after the visits before it. -/
  fault : List Visit → Visit → Fault → Prop
  sees : List Visit → Visit → Prop
  /-- The actions that may stand in the program. -/
  action : Action → Prop
  /-- The conditions of loops with the statements that these may have after their rounds. -/
  turn : Expr × Stmt → Prop
  narrow : ∀ {t t' past s}, t.Covers t' → holds t past s → holds t' past s
  /-- Behind the condition of a loop the names of its update may be assumed before it ran. -/
  widen : ∀ {x t m past s}, turn x →
    holds t (past ++ [⟨t, .condition (x.1.check t none).result, m⟩]) s →
    holds (after x.2.check t) (past ++ [⟨t, .condition (x.1.check t none).result, m⟩]) s
  performs : ∀ {t : ScopeTree} {a : Action} {past m}, (a.check t).problems = [] → action a →
    holds t past m.store →
      Act.Keeps (holds (a.check t).scopes (past ++ [⟨t, .action (a.check t).result, m⟩]))
        (fault past ⟨t, .action (a.check t).result, m⟩) ((a.check t).result.perform settings) m ∧
      sees past ⟨t, .action (a.check t).result, m⟩
  evaluates : ∀ {t : ScopeTree} {e : Expr} {past m}, (e.check t none).problems = [] →
    holds t past m.store →
      Act.Keeps (holds t (past ++ [⟨t, .value (e.check t none).result, m⟩]))
        (fault past ⟨t, .value (e.check t none).result, m⟩)
        (Act.eval (e.check t none).result.eval) m ∧
      sees past ⟨t, .value (e.check t none).result, m⟩
  decides : ∀ {t : ScopeTree} {e : Expr} {past m}, (e.check t none).problems = [] →
    (e.check t none).ty = .logic → holds t past m.store →
      Act.Keeps (holds t (past ++ [⟨t, .condition (e.check t none).result, m⟩]))
        (fault past ⟨t, .condition (e.check t none).result, m⟩)
        (Act.eval (e.check t none).result.evalLogic) m ∧
      sees past ⟨t, .condition (e.check t none).result, m⟩

namespace Discipline

variable {settings : Settings} (D : Discipline settings) {t t' : ScopeTree} {past : List Visit}
  {m : Machine}

/-- Control is live, and the discipline holds of the scopes, the visits and the store. -/
def At (t : ScopeTree) (past : List Visit) (m : Machine) : Prop :=
  m.frames.isLive = true ∧ D.holds t past m.store

/-- A statement that may stand in the program. -/
def Admits (s : Stmt) : Prop :=
  (∀ a, s.action? = some a → D.action a) ∧ ∀ x, s.turn? = some x → D.turn x

variable {D}

theorem At.narrow (h : D.At t past m) (ht : t.Covers t') : D.At t' past m := ⟨h.1, D.narrow ht h.2⟩

theorem At.within {kind : ScopeKind} (h : D.At t past m) : D.At (t.enter kind) past m :=
  h.narrow (t.covers_enter kind)

theorem At.outside {kind : ScopeKind} (h : D.At (t.enter kind) past m) : D.At t past m :=
  h.narrow (t.enter_covers kind)

theorem At.enter {kind : ScopeKind} (h : D.At t past m) :
    D.At (t.enter kind) past { m with frames := m.frames.enter true } := by
  refine ⟨?_, h.within.2⟩
  simpa [Frames.enter, Frames.isLive] using h.1

theorem At.leave {kind : ScopeKind} (h : D.At (t.enter kind) past m) :
    D.At t past { m with frames := m.frames.leave } :=
  ⟨Frames.isLive_leave h.1, h.outside.2⟩

theorem At.extend (h : D.At t past m) (ht : Extends [] t t') : D.At t' past m := h.narrow ht.covers

theorem At.restrict (h : D.At t' past m) (ht : Extends [] t t') : D.At t past m := h.narrow ht.covered

/-- A signal that a loop around it takes up. -/
def Caught (t : ScopeTree) (signal : Signal) : Prop := signal ≠ .normal → t.inLoop = true

theorem Caught.normal : Caught t .normal := fun h => absurd rfl h

theorem Caught.enter {kind : ScopeKind} {signal : Signal} (h : Caught (t.enter kind) signal)
    (hkind : kind ≠ .loop) : Caught t signal := by
  intro hs
  have := h hs
  simp only [inLoop, encloses, live, ScopeTree.enter, Scope.empty, List.any_cons, Bool.or_eq_true] at this ⊢
  rcases this with hk | this
  · exact absurd (beq_iff_eq.mp hk) hkind
  · exact this

theorem Caught.extend {added : List (String × Ty)} {signal : Signal} (h : Caught t signal)
    (ht : Extends added t t') : Caught t' signal :=
  fun hs => ht.inLoop.symm ▸ h hs

theorem Caught.restrict {added : List (String × Ty)} {signal : Signal} (h : Caught t' signal)
    (ht : Extends added t t') : Caught t signal :=
  fun hs => ht.inLoop ▸ h hs

/-! ## Executions -/

section
variable {limit : Nat}

theorem body_ensures {taken : Bool} {kind : ScopeKind} {x : Watched Signal} (hkind : kind ≠ .loop)
    (h : ∀ m, D.At (t.enter kind) past m → x.Ensures past m
      (fun signal past m' => D.At (t.enter kind) past m' ∧ Caught (t.enter kind) signal)
      D.fault D.sees) (hm : D.At t past m) :
    (Watched.arm taken x).Ensures past m (fun signal past m' => D.At t past m' ∧ Caught t signal)
      D.fault D.sees :=
  .arm hm.1 ⟨hm, .normal⟩ ((h _ hm.enter).mono fun _ _ _ h => ⟨h.1.leave, h.2.enter hkind⟩)

theorem frame_ensures {kind : ScopeKind} {x : Watched Signal} {Q : Signal → Prop}
    (h : ∀ m, D.At (t.enter kind) past m → x.Ensures past m
      (fun signal past m' => D.At (t.enter kind) past m' ∧ Caught (t.enter kind) signal)
      D.fault D.sees) (hQ : ∀ signal, Caught (t.enter kind) signal → Q signal)
    (hm : D.At t past m) :
    (Watched.inFrame true x).Ensures past m (fun signal past m' => D.At t past m' ∧ Q signal)
      D.fault D.sees :=
  .inFrame ((h _ hm.enter).mono fun _ _ _ h => ⟨h.1.leave, hQ _ h.2⟩)

/-- A condition leads to other scopes if the discipline holds of them once it was visited. -/
theorem condition_leads {e : Expr} {problem : Ty → Problem}
    (h : Accepts (Check.condition e problem) t) (hm : D.At t past m)
    (ht : ∀ s, D.holds t (past ++ [⟨t, .condition (e.check t none).result, m⟩]) s →
      D.holds t' (past ++ [⟨t, .condition (e.check t none).result, m⟩]) s) :
    (Watched.condition t (e.check t none).result).Ensures past m (fun _ => D.At t')
      D.fault D.sees := by
  obtain ⟨hclean, hty⟩ := (accepts_condition e problem t).mp h
  obtain ⟨hkeeps, hsees⟩ := D.decides hclean hty hm.2
  refine .condition (hkeeps.mono (fun _ m' h => ?_) fun _ _ hf => hf) hsees
  exact ⟨h.1 ▸ hm.1, ht _ h.2⟩

theorem condition_ensures {e : Expr} {problem : Ty → Problem}
    (h : Accepts (Check.condition e problem) t) (hm : D.At t past m) :
    (Watched.condition t (e.check t none).result).Ensures past m (fun _ => D.At t)
      D.fault D.sees :=
  condition_leads h hm fun _ hs => hs

/-- The scopes after the update of a loop may be assumed behind its condition. -/
theorem turn_ensures {e : Expr} {problem : Ty → Problem} {update : Option Stmt}
    (h : Accepts (Check.condition e problem) t) (hu : ∀ u, update = some u → D.turn (e, u))
    (hm : D.At t past m) :
    (Watched.condition t (e.check t none).result).Ensures past m
      (fun _ => D.At (after (Stmt.checkOption update) t)) D.fault D.sees := by
  cases update with
  | none => exact condition_ensures h hm
  | some u => exact condition_leads h hm fun s hs => D.widen (hu u rfl) hs

theorem value_ensures {e : Expr} (h : Accepts (Check.expr e) t) (hm : D.At t past m) :
    (Watched.eval t (e.check t none).result).Ensures past m (fun _ => D.At t) D.fault D.sees := by
  obtain ⟨hkeeps, hsees⟩ := D.evaluates ((accepts_expr e t).mp h) hm.2
  refine .eval (hkeeps.mono (fun _ m' h => ?_) fun _ _ hf => hf) hsees
  exact ⟨h.1 ▸ hm.1, h.2⟩

theorem action_ensures {a : Action} (h : Accepts (Check.action a) t) (ha : D.action a)
    (hm : D.At t past m) :
    (Watched.perform settings t (a.check t).result).Ensures past m (fun _ => D.At (a.check t).scopes)
      D.fault D.sees := by
  obtain ⟨hkeeps, hsees⟩ := D.performs ((accepts_action a t).mp h) ha hm.2
  refine .perform (hkeeps.mono (fun _ m' h => ?_) fun _ _ hf => hf) hsees
  exact ⟨h.1 ▸ hm.1, h.2⟩

open Stmt

mutual
theorem watch_ensures : (s : Stmt) → (t : ScopeTree) → (past : List Visit) → (m : Machine) →
    Accepts s.check t → (∀ s' ∈ s.everywhere, D.Admits s') → D.At t past m →
    (s.watch settings limit t).Ensures past m
      (fun signal past m' => D.At (after s.check t) past m' ∧ Caught t signal) D.fault D.sees
  | .action line a => by
      intro t past m h hall hm
      simp only [check, accepts_onLine, accepts_bind, after_onLine, after_bind, after_pure,
        after_action] at h ⊢
      rw [watch]
      refine .onLine ((action_ensures h.1 ?_ hm).bind fun _ _ m' hm' => .pure ⟨hm', .normal⟩)
      rw [everywhere, List.forall_mem_singleton] at hall
      exact hall.1 a rfl
  | .jump line j => by
      intro t past m h hall hm
      simp only [check, accepts_onLine, accepts_bind, after_onLine, after_bind, after_pure,
        after_jump, accepts_jump] at h ⊢
      rw [watch]
      exact .onLine (.pure ⟨hm, fun _ => h.1⟩)
  | .branch line cond body elseIfs otherwise => by
      intro t past m h hall hm
      simp only [check, accepts_onLine, accepts_bind, after_onLine, after_bind, after_pure,
        after_condition, accepts_inScope, accepts_pure, and_true] at h ⊢
      obtain ⟨hcond, hbody, harms, hother⟩ := h
      rw [everywhere, List.forall_mem_cons, List.forall_mem_append, List.forall_mem_append] at hall
      obtain ⟨-, ⟨hallBody, hallArms⟩, hallOther⟩ := hall
      have hext := checkAll_extends body (t.enter .ifBody)
      have ht₁ : Extends [] t (after (inScope .ifBody (checkAll body)) t) := inScope_extends hext
      have ht₂ := checkElseIfs_extends elseIfs (after (inScope .ifBody (checkAll body)) t)
      have ht₃ := checkBody_extends .elseBody otherwise
        (after (checkElseIfs elseIfs) (after (inScope .ifBody (checkAll body)) t))
      rw [watch]
      refine .onLine ((condition_ensures hcond hm).bind fun holds past₁ m₁ h₁ => ?_)
      refine (body_ensures (by decide) (fun m' => watchAll_ensures body _ _ m' hbody hallBody) h₁).bind
        fun signal past₂ m₂ ⟨h₂, hc₂⟩ => ?_
      refine (watchElseIfs_ensures elseIfs _ _ _ past₂ m₂ harms hallArms (h₂.extend ht₁)
        (hc₂.extend ht₁)).bind fun (chain, signal) past₃ m₃ ⟨h₃, hc₃⟩ => ?_
      simp only
      split
      · refine (watchOtherwise_ensures otherwise _ chain.otherwise past₃ m₃ hother hallOther
          h₃).mono fun signal past₄ m₄ ⟨h₄, hc₄⟩ => ?_
        exact ⟨h₄.extend ht₃, (hc₄.restrict ht₂).restrict ht₁⟩
      · exact .pure ⟨h₃.extend ht₃, (hc₃.restrict ht₂).restrict ht₁⟩
  | .loop line init cond update body => by
      intro t past m h hall hm
      simp only [check, accepts_onLine, accepts_bind, after_onLine, after_bind, after_pure,
        after_condition, accepts_inScope, accepts_pure, and_true] at h ⊢
      obtain ⟨hinit, hcond, hupdate, hbody⟩ := h
      rw [everywhere, List.forall_mem_cons, List.forall_mem_append, List.forall_mem_append] at hall
      obtain ⟨⟨-, hu⟩, ⟨hallInit, hallUpdate⟩, hallBody⟩ := hall
      have hturn : ∀ u, update = some u → D.turn (cond, u) := fun u h => hu _ (h ▸ rfl)
      have ht₂ := checkOption_covers update (after (checkOption init) t)
      have hext := checkAll_extends body
        ((after (checkOption update) (after (checkOption init) t)).enter .loop)
      rw [watch]
      refine .onLine (.ifLive hm.1 ?_)
      refine (watchOption_ensures init t past m hinit hallInit hm).bind fun _ past₁ m₁ h₁ => ?_
      -- The body is checked after the update and runs before it: from the condition on the names of
      -- the update are assumed, and the next condition gives them up.
      refine (Watched.Ensures.rounds (J := D.At (after (checkOption init) t))
        (K := D.At (after (checkOption update) (after (checkOption init) t)))
        (fun past' m' hm' => turn_ensures hcond hturn hm') (fun past' m' hm' => ?_)
        (fun past' m' hm' => ?_) limit h₁).mono fun signal past₂ m₂ ⟨h₂, hs⟩ => ?_
      · exact (frame_ensures (Q := fun _ => True)
          (fun m'' => watchAll_ensures body _ _ m'' hbody hallBody)
          (fun _ _ => trivial) hm').mono fun _ _ _ h => h.1
      · exact (watchOption_ensures update _ past' m' hupdate hallUpdate (hm'.narrow ht₂)).mono
          fun _ _ _ h => h.narrow ht₂
      · exact ⟨h₂.extend (inScope_extends hext), hs ▸ .normal⟩
  | .doWhile line body cond => by
      intro t past m h hall hm
      simp only [check, accepts_onLine, accepts_bind, after_onLine, after_bind, after_pure,
        after_condition, accepts_inScope, accepts_pure, and_true] at h ⊢
      rw [everywhere, List.forall_mem_cons] at hall
      have hext := checkAll_extends body (t.enter .loop)
      have ht : Extends [] t (after (inScope .loop (checkAll body)) t) := inScope_extends hext
      rw [watch]
      refine .onLine (.ifLive hm.1 ?_)
      refine (Watched.Ensures.roundsAfter (J := D.At t) (fun past' m' hm' => ?_)
        (fun past' m' hm' => ?_) limit hm).mono fun signal past₁ m₁ ⟨h₁, hs⟩ =>
          ⟨h₁.extend ht, hs ▸ .normal⟩
      · exact (frame_ensures (Q := fun _ => True) (fun m'' => watchAll_ensures body _ _ m'' h.1 hall.2)
          (fun _ _ => trivial) hm').mono fun _ _ _ h => h.1
      · exact (condition_ensures h.2 (hm'.extend ht)).mono fun _ _ _ h => h.restrict ht
  | .switch line scrutinee cases fallback => by
      intro t past m h hall hm
      simp only [check_switch, accepts_onLine, accepts_bind, after_onLine, after_bind, after_pure,
        after_expr, after_report, after_inScope, output_expr, accepts_inScope, accepts_pure,
        and_true] at h ⊢
      obtain ⟨hscrutinee, -, hcases, hfallback⟩ := h
      rw [everywhere, List.forall_mem_cons, List.forall_mem_append] at hall
      have ht := checkCases_extends (scrutinee.check t none).ty cases (t.enter .switch)
      have hext := ht.trans (checkBody_extends .defaultBody fallback _)
      rw [watch]
      refine .onLine ((value_ensures hscrutinee hm).bind fun v past₁ m₁ h₁ => ?_)
      refine (watchCases_ensures _ cases (t.enter .switch) v _ past₁ m₁ hcases hall.2.1 h₁.within
        fun past₂ m₂ h₂ => ?_).mono fun signal past₃ m₃ ⟨h₃, hc₃⟩ => ?_
      -- The fallback is checked after the cases, in whose scopes it finds nothing new.
      · refine (watchFallback_ensures fallback _ past₂ m₂ hfallback hall.2.2 (h₂.extend ht)).mono ?_
        exact fun _ _ _ ⟨h₄, hc₄⟩ => ⟨h₄.restrict ht, hc₄.restrict ht⟩
      · exact ⟨h₃.outside.extend hext.exit, hc₃.enter (by decide)⟩

theorem watchOption_ensures : (s : Option Stmt) → (t : ScopeTree) → (past : List Visit) →
    (m : Machine) → Accepts (checkOption s) t → (∀ s' ∈ everywhereOf s, D.Admits s') → D.At t past m →
    (watchOption settings limit t s).Ensures past m (fun _ => D.At (after (checkOption s) t))
      D.fault D.sees
  | none => fun _ _ _ _ _ hm => .pure hm
  | some s => by
      intro t past m h hall hm
      simp only [checkOption, accepts_bind, after_bind, after_pure] at h ⊢
      rw [watchOption]
      exact (watch_ensures s t past m h.1 hall hm).bind fun _ _ m' hm' => .pure hm'.1

theorem watchAll_ensures : (body : List Stmt) → (t : ScopeTree) → (past : List Visit) →
    (m : Machine) → Accepts (checkAll body) t → (∀ s ∈ everywhereAll body, D.Admits s) →
    D.At t past m →
    (watchAll settings limit t body).Ensures past m
      (fun signal past m' => D.At t past m' ∧ Caught t signal) D.fault D.sees
  | [] => fun _ _ _ _ _ hm => .pure ⟨hm, .normal⟩
  | s :: rest => by
      intro t past m h hall hm
      simp only [checkAll, accepts_bind] at h
      rw [everywhereAll, List.forall_mem_append] at hall
      rw [watchAll]
      have hs := check_covers s t
      refine (watch_ensures s t past m h.1 hall.1 hm).bind fun signal past₁ m₁ ⟨h₁, hc⟩ => ?_
      split
      -- The names that `s` adds are assumed in the rest, and given up with the block.
      · refine (watchAll_ensures rest _ past₁ m₁ h.2.1 hall.2 h₁).mono
          fun signal past₂ m₂ ⟨h₂, hc⟩ => ?_
        exact ⟨h₂.narrow hs, hc.restrict (check_extends s t)⟩
      · exact .pure ⟨h₁.narrow hs, hc⟩

theorem watchElseIfs_ensures : (arms : List (Expr × List Stmt)) → (t : ScopeTree) →
    (chain : Chain) → (signal : Signal) → (past : List Visit) → (m : Machine) →
    Accepts (checkElseIfs arms) t → (∀ s ∈ everywhereArms arms, D.Admits s) → D.At t past m →
    Caught t signal → (watchElseIfs settings limit t chain signal arms).Ensures past m
      (fun found past m' => D.At (after (checkElseIfs arms) t) past m' ∧
        Caught (after (checkElseIfs arms) t) found.2) D.fault D.sees
  | [] => fun _ _ _ _ _ _ _ hm hc => .pure ⟨hm, hc⟩
  | (cond, body) :: rest => by
      intro t chain signal past m h hall hm hc
      simp only [checkElseIfs, accepts_bind, after_bind, after_pure, after_condition,
        accepts_inScope, accepts_pure, and_true] at h ⊢
      obtain ⟨hcond, hbody, hrest⟩ := h
      rw [everywhereArms, List.forall_mem_append] at hall
      have hext := checkAll_extends body (t.enter .elseIfBody)
      have ht : Extends [] t (after (inScope .elseIfBody (checkAll body)) t) := inScope_extends hext
      rw [watchElseIfs]
      refine (condition_ensures hcond hm).bind fun holds past₁ m₁ h₁ => ?_
      refine (body_ensures (by decide) (fun m' => watchAll_ensures body _ _ m' hbody hall.1) h₁).bind
        fun next past₂ m₂ ⟨h₂, hc₂⟩ => ?_
      refine watchElseIfs_ensures rest _ _ _ past₂ m₂ hrest hall.2 (h₂.extend ht) ?_
      split
      · exact hc₂.extend ht
      · exact hc.extend ht

theorem watchOtherwise_ensures : (body : Option (List Stmt)) → (t : ScopeTree) →
    (taken : Bool) → (past : List Visit) → (m : Machine) → Accepts (checkBody .elseBody body) t →
    (∀ s ∈ everywhereBody body, D.Admits s) → D.At t past m →
    (watchOtherwise settings limit t taken body).Ensures past m
      (fun signal past m' => D.At t past m' ∧ Caught t signal) D.fault D.sees
  | none => fun _ _ _ _ _ _ hm => .pure ⟨hm, .normal⟩
  | some body => by
      intro t taken past m h hall hm
      simp only [checkBody, accepts_bind, accepts_inScope] at h
      rw [watchOtherwise]
      exact body_ensures (by decide) (fun m' => watchAll_ensures body _ _ m' h.1 hall) hm

theorem watchFallback_ensures : (body : Option (List Stmt)) → (t : ScopeTree) →
    (past : List Visit) → (m : Machine) → Accepts (checkBody .defaultBody body) t →
    (∀ s ∈ everywhereBody body, D.Admits s) → D.At t past m →
    (watchFallback settings limit t body).Ensures past m
      (fun signal past m' => D.At t past m' ∧ Caught t signal) D.fault D.sees
  | none => fun _ _ _ _ _ hm => .pure ⟨hm, .normal⟩
  | some body => by
      intro t past m h hall hm
      simp only [checkBody, accepts_bind, accepts_inScope] at h
      rw [watchFallback]
      exact frame_ensures (fun m' => watchAll_ensures body _ _ m' h.1 hall)
        (fun _ hc => hc.enter (by decide)) hm

theorem watchCases_ensures (switched : Ty) : (cases : List (Expr × List Stmt)) →
    (t : ScopeTree) → (v : Value) → (fallback : Watched Signal) → (past : List Visit) →
    (m : Machine) → Accepts (checkCases switched cases) t → (∀ s ∈ everywhereArms cases, D.Admits s) →
    D.At t past m →
    (∀ past m, D.At t past m →
      fallback.Ensures past m (fun signal past m' => D.At t past m' ∧ Caught t signal)
        D.fault D.sees) →
    (watchCases settings limit t v fallback cases).Ensures past m
      (fun signal past m' => D.At t past m' ∧ Caught t signal) D.fault D.sees
  | [] => fun _ _ _ past m _ _ hm hfallback => hfallback past m hm
  | (value, body) :: rest => by
      intro t v fallback past m h hall hm hfallback
      simp only [checkCases, accepts_bind, after_expr, after_report, accepts_inScope, accepts_pure,
        and_true] at h
      obtain ⟨hvalue, -, hbody, hrest⟩ := h
      rw [everywhereArms, List.forall_mem_append] at hall
      have hext := checkAll_extends body (t.enter .caseBody)
      have ht : Extends [] t (after (inScope .caseBody (checkAll body)) t) := inScope_extends hext
      rw [watchCases]
      refine (value_ensures hvalue hm).bind fun c past₁ m₁ h₁ => ?_
      split
      · exact frame_ensures (fun m' => watchAll_ensures body _ _ m' hbody hall.1)
          (fun _ hc => hc.enter (by decide)) h₁
      · refine (watchCases_ensures switched rest _ v fallback past₁ m₁ hrest hall.2 (h₁.extend ht)
          fun past₂ m₂ h₂ => ?_).mono fun _ _ _ ⟨h₃, hc₃⟩ => ⟨h₃.restrict ht, hc₃.restrict ht⟩
        refine (hfallback past₂ m₂ (h₂.restrict ht)).mono ?_
        exact fun _ _ _ ⟨h₄, hc₄⟩ => ⟨h₄.extend ht, hc₄.extend ht⟩
end

/-- No jump gets out of a program, since a body of a loop is around each of them. -/
theorem watchTop_ensures (stmts : List Stmt) (t : ScopeTree) (past : List Visit) (m : Machine)
    (h : Accepts (checkAll stmts) t) (hall : ∀ s ∈ everywhereAll stmts, D.Admits s)
    (hl : t.inLoop = false) (hm : D.At t past m) :
    (watchTop settings limit t stmts).Ensures past m (fun _ => D.At (after (checkAll stmts) t))
      D.fault D.sees := by
  induction stmts generalizing t past m with
  | nil => exact .pure hm
  | cons s rest ih =>
    simp only [checkAll, accepts_bind, after_bind, after_pure] at h ⊢
    rw [everywhereAll, List.forall_mem_append] at hall
    have hs := check_extends s t
    rw [watchTop]
    refine (watch_ensures s t past m h.1 hall.1 hm).bind fun signal past₁ m₁ ⟨h₁, hc⟩ => ?_
    cases signal with
    | normal => exact ih _ past₁ m₁ h.2.1 hall.2 (hs.inLoop.trans hl) h₁
    | breakLoop | continueLoop => exact absurd (hc (by decide)) (by simp [hl])

end

end Discipline

/-! ## Programs -/

namespace Program

variable {settings : Settings} {limit : Nat} {D : Discipline settings} {p : Program}
  {console : Console}

theorem admits (ha : ∀ a ∈ p.actions, D.action a) (hu : ∀ x ∈ p.turns, D.turn x) :
    ∀ s ∈ Stmt.everywhereAll p.stmts, D.Admits s := fun s hs =>
  ⟨fun a h => ha a (List.mem_filterMap.mpr ⟨s, hs, h⟩),
    fun x h => hu x (List.mem_filterMap.mpr ⟨s, hs, h⟩)⟩

theorem watch_ensures (h : p.diagnostics = []) (ha : ∀ a ∈ p.actions, D.action a)
    (hu : ∀ x ∈ p.turns, D.turn x) (hstart : D.holds .start [] .empty) :
    (p.watch settings limit).Ensures [] (.start console) (fun _ _ _ => True) D.fault D.sees := by
  refine .bind (Q := fun _ => D.At .start) (.of_silent (Ends.modify ⟨rfl, hstart⟩))
    fun _ past m hm => ?_
  refine (Discipline.watchTop_ensures p.stmts .start past m ?_ (admits ha hu) rfl hm).mono
    fun _ _ _ _ => trivial
  exact (accepts_iff p).mp h

/-- Every visit of a run of an accepted program shows what a discipline says, in view of the visits
before it. -/
theorem visits_seen (h : p.diagnostics = []) (ha : ∀ a ∈ p.actions, D.action a)
    (hu : ∀ x ∈ p.turns, D.turn x) (hstart : D.holds .start [] .empty) {past : List Visit} {v : Visit}
    (hv : past ++ [v] <+: p.visits settings limit console) : D.sees past v :=
  (watch_ensures h ha hu hstart).visits past v hv

/-- A run of an accepted program fails at its last visit, in no other way than a discipline says. -/
theorem run_fault (h : p.diagnostics = []) (ha : ∀ a ∈ p.actions, D.action a)
    (hu : ∀ x ∈ p.turns, D.turn x) (hstart : D.holds .start [] .empty) {f : Failure}
    (hf : (p.run settings limit console).1 = .failed f) :
    ∃ past v, p.visits settings limit console = past ++ [v] ∧ D.fault past v f.fault := by
  have hensures : (p.watch settings limit).Ensures [] (.start console) (fun _ _ _ => True)
      D.fault D.sees := watch_ensures h ha hu hstart
  rw [run_eq_watched h] at hf
  cases hr : (p.watch settings limit).run (.start console) with
  | ok _ m =>
    rw [hr] at hf
    cases hf
  | error halt m =>
    have hmeets := hensures.ends.error hr
    rw [hr] at hf
    cases halt with
    | failed f' =>
      cases hf
      exact hmeets
    | outOfRounds => cases hf

/-- A visit of a list has visits before it. -/
theorem visit_split {v : Visit} {visits : List Visit} (h : v ∈ visits) :
    ∃ past, past ++ [v] <+: visits := by
  obtain ⟨past, rest, rfl⟩ := List.append_of_mem h
  exact ⟨past, rest, by simp⟩

end Program

end Primer
