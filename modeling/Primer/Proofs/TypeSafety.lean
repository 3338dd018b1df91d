import Primer.Proofs.Types
import Primer.Proofs.Names

/-!
# The safety of types

An accepted program that declares no name twice keeps to the types that the check found, as long as
no update of a loop adds a name and no array is assigned to as to a variable: expressions have values
of their types, but for texts that were read into LOGIC variables, and a run fails in its data only.
-/

namespace Primer

namespace Program

variable {p : Program}

theorem not_assignsArray
    (ha : ∀ n op value, .assign n op value ∈ p.actions → ∀ q, (n, .array q) ∉ p.declarations) :
    ∀ a ∈ p.actions, a ∈ p.actions ∧ ¬a.AssignsArray p.context := by
  intro a hmem
  refine ⟨hmem, fun harray => ?_⟩
  cases a with
  | assign n op value =>
    obtain ⟨q, hq⟩ := harray
    exact ha n op value hmem q (mem_of_context hq)
  | _ => exact harray

/-- In such a program expressions have values of their types, and a run fails in its data only. -/
theorem types_safe (h : p.diagnostics = []) (hp : p.Distinct) (hu : ∀ u ∈ p.updates, u.adds = [])
    (ha : ∀ n op value, .assign n op value ∈ p.actions → ∀ q, (n, .array q) ∉ p.declarations)
    (settings : Settings) (limit : Nat) (console : Console) :
    (∀ v ∈ p.visits settings limit console, ∀ e s w s', .evaluates e s ∈ v.events →
      e.eval s = .ok w s' → w.ty = e.ty ∨ e.ty = .logic ∧ w.ty = .scalar .sentence) ∧
    ∀ f, (p.run settings limit console).1 = .failed f → f.fault.isOfData = true := by
  have hactions := not_assignsArray ha
  refine ⟨fun v hv e s w s' he heval => ?_, fun f hf => ?_⟩
  · obtain ⟨past, hpast⟩ := visit_split hv
    have hseen :=
      visits_seen (D := p.typesDiscipline hp settings) h hactions (fun _ hx => hx) .start hpast
    obtain ⟨htyped, hs⟩ := hseen _ he
    exact ((e.eval_typed htyped hs).ok heval).2.ty_eq
  · obtain ⟨_, _, _, hsound⟩ :=
      run_fault (D := p.typesDiscipline hp settings) h hactions (fun _ hx => hx) .start hf
    rcases hsound with hdata | ⟨n, hn⟩
    · exact hdata
    -- The types alone do not exclude a name that is not bound; the names do, as no update adds one.
    · obtain ⟨past, v, -, hlate⟩ := run_mayBlame h hf
      rw [hn] at hlate
      exact absurd hlate (not_late hu)

/-- A condition on a truth value that is read. -/
def askedCondition : Program where
  stmts := [
    .action none (.declare "LOGIC" "sure" (some (.lit .unknown "true"))),
    .action none (.input "sure"),
    .branch none (.var .unknown "sure") [.action none (.display (some (.named "sure")) true)] [] none]

theorem askedCondition_safe : askedCondition.diagnostics = [] ∧
    (∃ v ∈ askedCondition.visits .default 10 (.scripted ["maybe"]), ∃ e s w s', .evaluates e s ∈ v.events ∧
      e.eval s = .ok w s' ∧ e.ty ≠ w.ty ∧ (w.ty = e.ty ∨ e.ty = .logic ∧ w.ty = .scalar .sentence)) ∧
    ∃ f, (askedCondition.run .default 10 (.scripted ["maybe"])).1 = .failed f ∧
      f.fault.isOfData = true := by
  have hactions : askedCondition.actions = [
    .declare "LOGIC" "sure" (some (.lit .unknown "true")), .input "sure",
    .display (some (.named "sure")) true] := rfl
  have safe := types_safe (p := askedCondition) rfl (by decide) (by decide)
    (fun n op value hmem => by simp [hactions] at hmem) .default 10 (.scripted ["maybe"])
  have drifted : ∃ v ∈ askedCondition.visits .default 10 (.scripted ["maybe"]), ∃ e s w s',
      .evaluates e s ∈ v.events ∧ e.eval s = .ok w s' ∧ e.ty ≠ w.ty :=
    ⟨_, List.mem_of_getElem? (i := 2) rfl, .var .logic "sure", _, .sentence "maybe", _,
      List.mem_cons_self, rfl, nofun⟩
  obtain ⟨v, hv, e, s, w, s', he, heval, hty⟩ := drifted
  exact ⟨rfl, ⟨v, hv, e, s, w, s', he, heval, hty, safe.1 v hv e s w s' he heval⟩, _, rfl,
    safe.2 _ rfl⟩

end Program

end Primer
