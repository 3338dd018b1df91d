import Primer.Proofs.Lockstep
import Primer.Proofs.Mirroring
import Primer.Proofs.Types

/-!
# The redundancy of types

An accepted program that declares no name twice and reads no line into a truth value runs as well
without the types that the check found.
-/

namespace Primer

namespace Program

variable {p : Program} {t : ScopeTree} {s : Store}

/-- The types of a run whose store is exact. -/
structure ExactTypes (p : Program) (t : ScopeTree) (s : Store) : Prop extends p.Types t s where
  exact : s.Exact

namespace ExactTypes

theorem start : p.ExactTypes .start .empty := ⟨.start, .empty⟩

theorem store (h : p.ExactTypes t s) : s.Matches p.context := ⟨h.agrees, h.exact⟩

theorem keeps {α : Type} {x : Act α} {m : Machine}
    (hx : Act.Keeps (Store.Matches p.context) (fun _ => True) x m)
    (ht : ∀ e ∈ t.declared, e ∈ p.declarations) : Act.Keeps (p.ExactTypes t) (fun _ => True) x m :=
  hx.mono (fun _ _ h => ⟨h.1, ⟨ht, h.2.agrees⟩, h.2.exact⟩) fun _ _ hf => hf

end ExactTypes

/-- The program reads no line into a truth value. -/
def ReadsNoLogic (p : Program) : Prop := ∀ n, .input n ∈ p.actions → (n, .logic) ∉ p.declarations

theorem ReadsNoLogic.input (h : p.ReadsNoLogic) {a : Action} (ha : a ∈ p.actions) (t : ScopeTree)
    (n : String) (hn : (a.check t).result = .input n) : p.context n ≠ some .logic := by
  have hbare : a.bare = .input n := by rw [← a.check_bare t, hn, Action.bare]
  cases a with
  | input n' =>
    cases hbare
    exact fun hlogic => h n ha (mem_of_context hlogic)
  | _ => cases hbare

/-- The types of a program as a discipline that keeps stores exact. -/
def exactDiscipline (p : Program) (hp : p.Distinct) (hinput : p.ReadsNoLogic) (settings : Settings) :
    Discipline settings where
  holds t _ := p.ExactTypes t
  fault _ _ _ := True
  sees _ := Visit.Mirrored settings
  action a := a ∈ p.actions
  turn x := x ∈ p.turns
  narrow ht h := ⟨⟨fun e he => h.declared e (ht.declared e he), h.agrees⟩, h.exact⟩
  widen hx h := ⟨⟨h.declared_turn hx, h.agrees⟩, h.exact⟩
  performs {t a _ m} h ha hm := by
    have htyped := hm.typed_action hp h
    refine ⟨ExactTypes.keeps ?_ (hm.declared_after ha), ?_⟩
    · exact Action.perform_matches htyped (action_extends hp ha t) (hinput.input ha t) hm.store
    · exact Action.perform_erase htyped (Action.check_filled hm.known h) hm.store
  evaluates {t e _ m} h hm := by
    have htyped := hm.typed_expr hp h
    refine ⟨ExactTypes.keeps (Act.eval_matches htyped hm.store) hm.declared, ?_⟩
    exact Expr.act_erase htyped (Expr.check_filled hm.known h) hm.store
  decides {t e _ m} h hty hm := by
    have htyped := hm.typed_expr hp h
    refine ⟨ExactTypes.keeps (.eval (Expr.evalLogic_matches htyped hm.store)) hm.declared, ?_⟩
    exact Act.eval_congr (Expr.evalLogic_erase htyped (Expr.check_filled hm.known h) hm.store)

/-- The types that the check writes on such a program change nothing in its execution: neither how it
ends nor what it shows, reports, reads and stores. -/
theorem types_redundant (h : p.diagnostics = []) (hp : p.Distinct) (hinput : p.ReadsNoLogic)
    (settings : Settings) (limit : Nat) (console : Console) :
    p.annotated.executed settings limit console = p.erased.executed settings limit console := by
  have hvisits : ∀ v ∈ p.visits settings limit console, v.Mirrored settings := by
    intro v hv
    obtain ⟨past, hpast⟩ := visit_split hv
    exact visits_seen (D := p.exactDiscipline hp hinput settings) h (fun _ ha => ha) (fun _ hx => hx)
      .start hpast
  rw [executed, executed, exec_erased hvisits]

/-- Arrays that are empty at first and at last, and one that is shown as it is listed. -/
def listedWords : Program where
  stmts := [
    .action none (.declareArray "LETTER" "xs" (some (.arrayOf .unknown []))),
    .action none (.push "xs" (.lit .unknown "'a'")),
    .action none (.declare "SENTENCE" "word" none),
    .action none (.input "word"),
    .action none (.display (some (.expr (.arrayOf .unknown
      [.var .unknown "word", .lit .unknown "\"b\""]))) true),
    .action none (.display (some (.named "xs")) true),
    .action none (.assignArray "xs" (.arrayOf .unknown [])),
    .action none (.display (some (.named "xs")) true)]

theorem listedWords_redundant : listedWords.diagnostics = [] ∧
    listedWords.annotated.types ≠ listedWords.erased.types ∧
    (listedWords.erased.executed .default 10 (.scripted ["hi"])).2.console.output =
      "Enter value for word: [\"hi\", \"b\"]\n['a']\n[]\n" ∧
    listedWords.annotated.executed .default 10 (.scripted ["hi"]) =
      listedWords.erased.executed .default 10 (.scripted ["hi"]) := by
  have hclean : listedWords.diagnostics = [] := List.isEmpty_iff.mp (by decide +kernel)
  have hinput : listedWords.ReadsNoLogic := by
    intro n _ hn
    have hdeclared : (n, Ty.logic) ∈ [("xs", Ty.array .letter), ("word", .scalar .sentence)] := hn
    simp at hdeclared
  exact ⟨hclean, by decide +kernel, by decide +kernel,
    types_redundant hclean (by decide) hinput .default 10 (.scripted ["hi"])⟩

end Program

end Primer
