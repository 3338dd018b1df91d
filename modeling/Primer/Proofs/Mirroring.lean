import Primer.Proofs.ErasedEvaluation
import Primer.Proofs.Watching

/-!
# Executions without types

A watched execution goes along with that of the program without types as long as each piece that
it comes to does the same without its types. So the two are compared piece by piece, and never as
wholes.
-/

namespace Primer

variable {α β : Type} {settings : Settings} {limit : Nat}

/-- The piece of a visit does the same without its types. -/
def Visit.Mirrored (settings : Settings) (v : Visit) : Prop :=
  match v.piece with
  | .action a => a.erase.perform settings v.machine = a.perform settings v.machine
  | .value e => Act.eval e.erase.eval v.machine = Act.eval e.eval v.machine
  | .condition e => Act.eval e.erase.evalLogic v.machine = Act.eval e.evalLogic v.machine

/-- The other execution does what the watched one does from a machine from which all visits are
mirrored. -/
def Watched.Mirrors (settings : Settings) (x : Watched α) (y : Exec α) : Prop :=
  ∀ m, (∀ v ∈ x.visits m, v.Mirrored settings) → y m = x.run m

/-! ## Parts of executions -/

namespace Watched.Mirrors

variable {x x' : Watched α} {y y' : Exec α}

theorem silent (y : Exec α) : Mirrors settings (Watched.silent y) y := fun _ _ => rfl

theorem pure (a : α) : Mirrors settings (Pure.pure a) (Pure.pure a) := fun _ _ => rfl

theorem bind {f : α → Watched β} {g : α → Exec β} (h : Mirrors settings x y)
    (hf : ∀ a, Mirrors settings (f a) (g a)) : Mirrors settings (x >>= f) (y >>= g) := by
  intro m hv
  have hx : y m = x.run m := h m fun v hmem => hv v (List.mem_append_left _ hmem)
  have hends : Ends (x.run m) (fun a m' => x.run m = .ok a m') fun _ _ => True :=
    ⟨id, fun _ => trivial⟩
  refine Ends.bind_congr hx hends fun a m' ha => hf a m' fun v hmem => hv v ?_
  refine List.mem_append_right _ ?_
  rw [ha]
  exact hmem

theorem ite {p : Prop} [Decidable p] (h : Mirrors settings x y) (h' : Mirrors settings x' y') :
    Mirrors settings (if p then x else x') (if p then y else y') := by
  split
  · exact h
  · exact h'

theorem perform (t : ScopeTree) (a : Action) :
    Mirrors settings (Watched.perform settings t a) (Exec.act (a.erase.perform settings)) := by
  intro m hv
  have ha : a.erase.perform settings m = a.perform settings m := hv _ List.mem_cons_self
  simp only [Watched.perform, Exec.act, ha]

theorem eval (t : ScopeTree) (e : Expr) :
    Mirrors settings (Watched.eval t e) (Exec.eval e.erase) := by
  intro m hv
  have he : Act.eval e.erase.eval m = Act.eval e.eval m := hv _ List.mem_cons_self
  simp only [Watched.eval, Exec.eval, Exec.act, he]

theorem condition (t : ScopeTree) (e : Expr) :
    Mirrors settings (Watched.condition t e) (Exec.condition e.erase) := by
  intro m hv
  have he : Act.eval e.erase.evalLogic m = Act.eval e.evalLogic m := hv _ List.mem_cons_self
  simp only [Watched.condition, Exec.condition, Exec.act, he]

theorem onLine (line : Option Line) (h : Mirrors settings x y) :
    Mirrors settings (Watched.onLine line x) (Exec.onLine line y) := by
  intro m hv
  simp only [Watched.onLine, Exec.onLine, h m hv]

theorem inFrame (taken : Bool) (h : Mirrors settings x y) :
    Mirrors settings (Watched.inFrame taken x) (Exec.inFrame taken y) := by
  intro m hv
  simp only [Watched.inFrame, Exec.inFrame, h _ hv]

theorem ifLive {x : Watched Signal} {y : Exec Signal} (h : Mirrors settings x y) :
    Mirrors settings (Watched.ifLive x) (Exec.ifLive y) :=
  (silent Exec.isLive).bind fun _ => h.ite (.pure _)

theorem arm {x : Watched Signal} {y : Exec Signal} (taken : Bool) (h : Mirrors settings x y) :
    Mirrors settings (Watched.arm taken x) (Exec.arm taken y) :=
  .inFrame taken h.ifLive

theorem rounds {cond : Watched Bool} {body : Watched Signal} {update : Watched Unit}
    {cond' : Exec Bool} {body' : Exec Signal} {update' : Exec Unit}
    (hc : Mirrors settings cond cond') (hb : Mirrors settings body body')
    (hu : Mirrors settings update update') (limit : Nat) :
    Mirrors settings (Watched.rounds cond body update limit)
      (Exec.rounds cond' body' update' limit) := by
  induction limit with
  | zero => exact .silent _
  | succ limit ih =>
    refine hc.bind fun holds => .ite (hb.bind fun signal => ?_) (.pure _)
    exact .ite (.pure _) (hu.bind fun _ => ih)

theorem roundsAfter {body : Watched Signal} {cond : Watched Bool} {body' : Exec Signal}
    {cond' : Exec Bool} (hb : Mirrors settings body body') (hc : Mirrors settings cond cond')
    (limit : Nat) :
    Mirrors settings (Watched.roundsAfter body cond limit) (Exec.roundsAfter body' cond' limit) := by
  induction limit with
  | zero => exact .silent _
  | succ limit ih =>
    refine hb.bind fun signal => .ite (.pure _) ?_
    exact hc.bind fun holds => .ite ih (.pure _)

end Watched.Mirrors

/-! ## Statements -/

namespace Stmt

open Check Watched

theorem erase_line (s : Stmt) : s.erase.line = s.line := by
  cases s <;> rfl

mutual
theorem watch_mirrors (t : ScopeTree) : (s : Stmt) →
    Mirrors settings (watch settings limit t s) (s.erase.exec settings limit)
  | .action line a => by
      rw [watch, erase, exec, ← a.erase_check t]
      exact .onLine line (.bind (.perform t _) fun _ => .pure _)
  | .jump line j => by
      rw [watch, erase, exec]
      exact .onLine line (.pure _)
  | .branch line cond body elseIfs otherwise => by
      rw [watch, erase, exec, ← cond.erase_check t none]
      refine .onLine line (.bind (.condition t _) fun holds => ?_)
      refine .bind (.arm holds (watchAll_mirrors _ body)) fun signal => ?_
      refine .bind (watchElseIfs_mirrors _ _ _ elseIfs) fun (chain, signal) => ?_
      exact .ite (watchOtherwise_mirrors _ _ otherwise) (.pure _)
  | .loop line init cond update body => by
      rw [watch, erase, exec, ← cond.erase_check (after (checkOption init) t) none]
      refine .onLine line (.ifLive (.bind (watchOption_mirrors t init) fun _ => ?_))
      exact .rounds (.condition _ _) (.inFrame true (watchAll_mirrors _ body))
        (watchOption_mirrors _ update) limit
  | .doWhile line body cond => by
      rw [watch, erase, exec, ← cond.erase_check (after (inScope .loop (checkAll body)) t) none]
      refine .onLine line (.ifLive ?_)
      exact .roundsAfter (.inFrame true (watchAll_mirrors _ body)) (.condition _ _) limit
  | .switch line scrutinee cases fallback => by
      rw [watch, erase, exec, ← scrutinee.erase_check t none]
      refine .onLine line (.bind (.eval t _) fun v => ?_)
      exact watchCases_mirrors _ v (watchFallback_mirrors _ fallback) cases

theorem watchOption_mirrors (t : ScopeTree) : (s : Option Stmt) →
    Mirrors settings (watchOption settings limit t s) (execOption settings limit (eraseOf s))
  | none => .pure _
  | some s => by
      rw [watchOption, eraseOf, execOption]
      exact .bind (watch_mirrors t s) fun _ => .pure _

theorem watchAll_mirrors (t : ScopeTree) : (body : List Stmt) →
    Mirrors settings (watchAll settings limit t body) (execAll settings limit (eraseAll body))
  | [] => .pure _
  | s :: rest => by
      rw [watchAll, eraseAll, execAll]
      exact .bind (watch_mirrors t s) fun signal => .ite (watchAll_mirrors _ rest) (.pure _)

theorem watchElseIfs_mirrors (t : ScopeTree) (chain : Chain) (signal : Signal) :
    (arms : List (Expr × List Stmt)) →
    Mirrors settings (watchElseIfs settings limit t chain signal arms)
      (execElseIfs settings limit chain signal (eraseArms arms))
  | [] => .pure _
  | (cond, body) :: rest => by
      rw [watchElseIfs, eraseArms, execElseIfs, ← cond.erase_check t none]
      refine .bind (.condition t _) fun holds => ?_
      refine .bind (.arm _ (watchAll_mirrors _ body)) fun next => ?_
      exact watchElseIfs_mirrors _ _ _ rest

theorem watchOtherwise_mirrors (t : ScopeTree) (taken : Bool) : (body : Option (List Stmt)) →
    Mirrors settings (watchOtherwise settings limit t taken body)
      (execOtherwise settings limit taken (eraseBody body))
  | none => .pure _
  | some body => by
      rw [watchOtherwise, eraseBody, execOtherwise]
      exact .arm taken (watchAll_mirrors _ body)

theorem watchFallback_mirrors (t : ScopeTree) : (body : Option (List Stmt)) →
    Mirrors settings (watchFallback settings limit t body)
      (execFallback settings limit (eraseBody body))
  | none => .pure _
  | some body => by
      rw [watchFallback, eraseBody, execFallback]
      exact .inFrame true (watchAll_mirrors _ body)

theorem watchCases_mirrors (t : ScopeTree) (v : Value) {fallback : Watched Signal}
    {fallback' : Exec Signal} (hf : Mirrors settings fallback fallback') :
    (cases : List (Expr × List Stmt)) →
    Mirrors settings (watchCases settings limit t v fallback cases)
      (execCases settings limit v fallback' (eraseArms cases))
  | [] => hf
  | (value, body) :: rest => by
      rw [watchCases, eraseArms, execCases, ← value.erase_check t none]
      refine .bind (.eval t _) fun c => .ite (.inFrame true (watchAll_mirrors _ body)) ?_
      exact watchCases_mirrors _ v hf rest
end

end Stmt

/-! ## Programs -/

theorem watchTop_mirrors (t : ScopeTree) (stmts : List Stmt) :
    Watched.Mirrors settings (watchTop settings limit t stmts)
      (execTop settings limit (Stmt.eraseAll stmts)) := by
  induction stmts generalizing t with
  | nil => exact .pure ()
  | cons s rest ih =>
    rw [Stmt.eraseAll, watchTop, execTop, s.erase_line]
    refine .bind (s.watch_mirrors t) fun signal => ?_
    cases signal.stray? with
    | none => exact ih _
    | some fault => exact .silent _

namespace Program

theorem watch_mirrors (p : Program) :
    Watched.Mirrors settings (p.watch settings limit) (p.erased.exec settings limit) :=
  .bind (.silent _) fun _ => watchTop_mirrors .start p.stmts

/-- A run whose visits are mirrored is the execution of the program without types. -/
theorem exec_erased {p : Program} {console : Console}
    (h : ∀ v ∈ p.visits settings limit console, v.Mirrored settings) :
    p.erased.exec settings limit (.start console) =
      p.annotated.exec settings limit (.start console) := by
  rw [p.watch_mirrors _ h, watch_run]

end Program

end Primer
