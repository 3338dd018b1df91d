import Primer.Proofs.Retention

/-!
# Scope safety

Whether or not a statement is accepted, its check returns to the scope and the line where it began.
Only the innermost scope gets new names, and what is known of a name stays known.
-/

namespace Primer

open Check

/-- A state of the check that a statement may leave behind: in the same place, with at most more
names in the innermost scope and more that is known of the others. -/
structure Checker.Framed (c c' : Checker) : Prop where
  line : c'.line = c.line
  depth : c'.scopes.depth = c.scopes.depth
  kinds : c'.scopes.live.map Scope.kind = c.scopes.live.map Scope.kind
  outer : c'.scopes.outer.map Scope.entries = c.scopes.outer.map Scope.entries
  current : ∃ new, c'.scopes.current.entries = new ++ c.scopes.current.entries
  retained : c.scopes.Retains c'.scopes

theorem Checker.Framed.of_extends {c c' : Checker} {added : List (String × Ty)}
    (h : ScopeTree.Extends added c.scopes c'.scopes) (hkept : c.scopes.Retains c'.scopes)
    (hline : c'.line = c.line) : c.Framed c' := by
  obtain ⟨new, -, hcurrent⟩ := h.current
  have hkinds : c'.scopes.live.map Scope.kind = c.scopes.live.map Scope.kind := by
    have houter := congrArg (List.map Prod.fst) h.outer
    simp only [List.map_map] at houter
    have hkind : c'.scopes.current.kind = c.scopes.current.kind := congrArg Prod.fst hcurrent
    simp only [ScopeTree.live, List.map_cons, hkind]
    exact congrArg (_ :: ·) houter
  refine ⟨hline, ?_, hkinds, ?_, ⟨new, congrArg Prod.snd hcurrent⟩, hkept⟩
  · simpa [ScopeTree.depth] using congrArg List.length hkinds
  · have houter := congrArg (List.map Prod.snd) h.outer
    simp only [List.map_map] at houter
    exact houter

namespace Stmt

variable (s : Stmt) (body : List Stmt) (kind : ScopeKind) (c : Checker)

theorem check_framed : c.Framed (s.check c).2 := by
  have hscopes := scopes_run s.check c
  have hextends : ScopeTree.Extends s.adds c.scopes (s.check c).2.scopes :=
    hscopes ▸ check_extends s c.scopes
  have hretains : c.scopes.Retains (s.check c).2.scopes :=
    hscopes ▸ check_respects ScopeTree.retains_respected s c.scopes
  exact .of_extends hextends hretains (line_run s.check c)

/-- A body leaves no name behind. -/
theorem inScope_lookup? :
    (inScope kind (checkAll body) c).2.scopes.lookup? = c.scopes.lookup? := by
  rw [scopes_run]
  exact (inScope_extends (checkAll_extends body _)).lookup?

theorem check_lookup? (h : s.adds = []) : (s.check c).2.scopes.lookup? = c.scopes.lookup? := by
  rw [scopes_run]
  exact (h ▸ check_extends s c.scopes).lookup?

theorem loop_lookup? (line : Option Line) (init : Option Stmt) (cond : Expr)
    (update : Option Stmt) : ((loop line init cond update body).check c).2.scopes.lookup? =
      (checkOption update (checkOption init c).2).2.scopes.lookup? := by
  simp only [scopes_run, check, after_onLine, after_bind, after_condition, after_pure]
  exact (inScope_extends (checkAll_extends body _)).lookup?

end Stmt

namespace Program

open Stmt

theorem checked_extends (p : Program) :
    ScopeTree.Extends (p.stmts.flatMap adds) .start p.checked.2.scopes := by
  have h := scopes_run (checkAll p.stmts) .start
  exact h ▸ checkAll_extends p.stmts .start

/-- A statement is checked in the scopes around it and leaves them there. Branches and switches
change no look-up, and loops only by what they have around their rounds; so a program ends in the
outermost scope, with the names that its own statements declare. -/
theorem scopes_framed :
    (∀ (s : Stmt) (c : Checker), c.Framed (s.check c).2) ∧
    (∀ line cond body elseIfs otherwise (c : Checker),
      ((branch line cond body elseIfs otherwise).check c).2.scopes.lookup? = c.scopes.lookup?) ∧
    (∀ line body cond (c : Checker),
      ((doWhile line body cond).check c).2.scopes.lookup? = c.scopes.lookup?) ∧
    (∀ line scrutinee cases fallback (c : Checker),
      ((switch line scrutinee cases fallback).check c).2.scopes.lookup? = c.scopes.lookup?) ∧
    (∀ line init cond update body (c : Checker),
      ((loop line init cond update body).check c).2.scopes.lookup? =
        (checkOption update (checkOption init c).2).2.scopes.lookup?) ∧
    (∀ kind body (c : Checker),
      (inScope kind (checkAll body) c).2.scopes.lookup? = c.scopes.lookup?) ∧
    ∀ p : Program, p.checked.2.scopes.depth = 1 ∧
      ∀ n ty, p.checked.2.scopes.lookup? n = some ty → ∃ s ∈ p.stmts, (n, ty) ∈ s.adds := by
  refine ⟨check_framed, ?_, ?_, ?_, ?_, fun kind body c => inScope_lookup? body kind c, ?_⟩
  · exact fun _ _ _ _ _ c => check_lookup? _ c rfl
  · exact fun _ _ _ c => check_lookup? _ c rfl
  · exact fun _ _ _ _ c => check_lookup? _ c rfl
  · exact fun line init cond update body c => loop_lookup? body c line init cond update
  · intro p
    have h := p.checked_extends
    constructor
    · have houter := congrArg List.length h.outer
      simpa [ScopeTree.depth, ScopeTree.live, ScopeTree.start] using houter
    · intro n ty hn
      rcases h.mem (ScopeTree.mem_declared hn) with hadds | hstart
      · exact List.mem_flatMap.mp hadds
      · simp [ScopeTree.declared, ScopeTree.live, ScopeTree.start, Scope.empty, Scope.entries] at hstart

/-- A name of the program, and one of a body in it. -/
def bodyName : Program where
  stmts := [
    .action none (.declare "NUMBER" "total" (some (.lit .unknown "1"))),
    .branch none (.lit .unknown "true") [.action none (.declare "NUMBER" "part" none)] [] none]

theorem bodyName_framed : bodyName.checked.2.scopes.lookup? "total" = some .number ∧
    (∃ s ∈ bodyName.stmts, ("total", .number) ∈ s.adds) ∧
    bodyName.checked.2.scopes.lookup? "part" = none ∧ bodyName.checked.2.scopes.depth = 1 := by
  obtain ⟨-, -, -, -, -, -, hprogram⟩ := scopes_framed
  have htotal : bodyName.checked.2.scopes.lookup? "total" = some .number := rfl
  exact ⟨htotal, (hprogram bodyName).2 "total" .number htotal, rfl, (hprogram bodyName).1⟩

end Program

end Primer
