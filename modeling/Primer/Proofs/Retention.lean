import Primer.Proofs.Scoping

/-!
# What a check retains

A relation between the scopes before and after a check is one of whole statements if it is one of
actions and goes along with sequences and with bodies. The relation of this module is retention: the
names of each live scope keep their types and their values, and no name is struck from the registry.
-/

namespace Primer

open Check

/-! ## Relations that every check respects -/

/-- A relation of scopes that holds across actions and goes along with sequences and bodies. -/
structure ScopeTree.Respected (R : ScopeTree → ScopeTree → Prop) : Prop where
  refl : ∀ t, R t t
  trans : ∀ {t t' t''}, R t t' → R t' t'' → R t t''
  action : ∀ t (a : Action), R t (a.check t).scopes
  block : ∀ {t t' kind}, R (t.enter kind) t' → R t t'.exit

namespace Stmt

variable {R : ScopeTree → ScopeTree → Prop} (hR : ScopeTree.Respected R)
include hR

theorem inScope_respects {α : Type} {x : Check α} {kind : ScopeKind} {t : ScopeTree}
    (h : R (t.enter kind) (after x (t.enter kind))) : R t (after (inScope kind x) t) := hR.block h

mutual
theorem check_respects : (s : Stmt) → (t : ScopeTree) → R t (after s.check t)
  | .action _ a, t => by
      simpa [check] using hR.action t a
  | .jump _ _, t => by
      simpa [check] using hR.refl t
  | .branch _ _ body elseIfs otherwise, t => by
      simp only [check, after_onLine, after_bind, after_condition, after_pure]
      have hbody := checkAll_respects body (t.enter .ifBody)
      exact hR.trans (inScope_respects hR hbody)
        (hR.trans (checkElseIfs_respects elseIfs _) (checkBody_respects .elseBody otherwise _))
  | .loop _ init _ update body, t => by
      simp only [check, after_onLine, after_bind, after_condition, after_pure]
      refine hR.trans (checkOption_respects init t) (hR.trans (checkOption_respects update _) ?_)
      exact inScope_respects hR (checkAll_respects body _)
  | .doWhile _ body _, t => by
      simp only [check, after_onLine, after_bind, after_condition, after_pure]
      exact inScope_respects hR (checkAll_respects body _)
  | .switch _ scrutinee cases fallback, t => by
      simp only [check_switch, after_onLine, after_bind, after_expr, after_report]
      have hcases := checkCases_respects (output (Check.expr scrutinee) t).ty cases (t.enter .switch)
      refine inScope_respects hR (hR.trans hcases ?_)
      simp only [after_bind, after_pure]
      exact checkBody_respects .defaultBody fallback _

theorem checkOption_respects : (s : Option Stmt) → (t : ScopeTree) → R t (after (checkOption s) t)
  | none, t => hR.refl t
  | some s, t => by
      simpa [checkOption] using check_respects s t

theorem checkAll_respects : (body : List Stmt) → (t : ScopeTree) → R t (after (checkAll body) t)
  | [], t => hR.refl t
  | s :: rest, t => by
      simp only [checkAll, after_bind, after_pure]
      exact hR.trans (check_respects s t) (checkAll_respects rest _)

theorem checkElseIfs_respects : (arms : List (Expr × List Stmt)) → (t : ScopeTree) →
    R t (after (checkElseIfs arms) t)
  | [], t => hR.refl t
  | (_, body) :: rest, t => by
      simp only [checkElseIfs, after_bind, after_condition, after_pure]
      have hbody := checkAll_respects body (t.enter .elseIfBody)
      exact hR.trans (inScope_respects hR hbody) (checkElseIfs_respects rest _)

theorem checkCases_respects (switched : Ty) : (cases : List (Expr × List Stmt)) →
    (t : ScopeTree) → R t (after (checkCases switched cases) t)
  | [], t => hR.refl t
  | (_, body) :: rest, t => by
      simp only [checkCases, after_bind, after_expr, after_report, after_pure]
      have hbody := checkAll_respects body (t.enter .caseBody)
      exact hR.trans (inScope_respects hR hbody) (checkCases_respects switched rest _)

theorem checkBody_respects (kind : ScopeKind) : (body : Option (List Stmt)) → (t : ScopeTree) →
    R t (after (checkBody kind body) t)
  | none, t => hR.refl t
  | some body, t => by
      simp only [checkBody, after_bind, after_pure]
      exact inScope_respects hR (checkAll_respects body _)
end

end Stmt

/-! ## A single scope -/

namespace Scope

/-- The names of the first scope have their types in the second one, and their values if they have
any. -/
def Retains (s s' : Scope) : Prop :=
  ∀ n d, s.find? n = some d → ∃ d', s'.find? n = some d' ∧ d'.ty = d.ty ∧
    (d.initialized = true → d'.initialized = true)

variable {s s' s'' : Scope} {n : String} {d : Declaration}

theorem Retains.refl (s : Scope) : s.Retains s := fun _ d h => ⟨d, h, rfl, id⟩

theorem Retains.trans (h : s.Retains s') (h' : s'.Retains s'') : s.Retains s'' := by
  intro n d hn
  obtain ⟨d', hn', hty, hset⟩ := h n d hn
  obtain ⟨d'', hn'', hty', hset'⟩ := h' n d' hn'
  exact ⟨d'', hn'', hty'.trans hty, fun hd => hset' (hset hd)⟩

theorem find?_insert (s : Scope) (n m : String) (d : Declaration) :
    (s.insert n d).find? m = if m == n then some d else s.find? m := by
  rw [find?, insert, List.lookup_cons]
  cases m == n <;> rfl

theorem find?_markSet (s : Scope) (n m : String) : (s.markSet n).find? m =
    (s.find? m).map fun d => if m == n then { d with initialized := true } else d := by
  obtain ⟨kind, names⟩ := s
  simp only [find?, markSet]
  induction names with
  | nil => rfl
  | cons e rest ih =>
    obtain ⟨k, d⟩ := e
    rw [List.map_cons]
    by_cases hm : m = k
    · subst hm
      by_cases hn : m = n <;> simp [hn]
    · have hne : (m == k) = false := by simpa using hm
      rw [List.lookup_cons (k := k), hne, ← ih, List.lookup_cons]
      have hkey : (if k == n then (k, { d with initialized := true }) else (k, d)).1 = k := by
        split <;> rfl
      rw [hkey, hne]

theorem insert_retains (h : s.declares n = false) (d : Declaration) : s.Retains (s.insert n d) := by
  intro m d' hm
  have hmn : (m == n) = false := by
    rw [beq_eq_false_iff_ne]
    rintro rfl
    rw [declares, hm] at h
    cases h
  exact ⟨d', by rw [find?_insert, hmn, if_neg Bool.false_ne_true, hm], rfl, id⟩

theorem markSet_retains (s : Scope) (n : String) : s.Retains (s.markSet n) := by
  intro m d hm
  rw [find?_markSet, hm, Option.map_some]
  refine ⟨_, rfl, ?_⟩
  split
  · exact ⟨rfl, fun _ => rfl⟩
  · exact ⟨rfl, id⟩

end Scope

/-! ## Nested scopes -/

namespace ScopeTree

/-- Each live scope stays in its place, with its names, and no name leaves the registry. -/
structure Retains (t t' : ScopeTree) : Prop where
  live : ∀ (i : Nat) (s : Scope), t.live[i]? = some s → ∃ s', t'.live[i]? = some s' ∧ s.Retains s'
  registry : t.registry ⊆ t'.registry

variable {t t' t'' : ScopeTree} {kind : ScopeKind}

namespace Retains

theorem refl (t : ScopeTree) : t.Retains t := ⟨fun _ s hs => ⟨s, hs, .refl s⟩, List.Subset.refl _⟩

theorem trans (h : t.Retains t') (h' : t'.Retains t'') : t.Retains t'' := by
  refine ⟨fun i s hs => ?_, List.Subset.trans h.registry h'.registry⟩
  obtain ⟨s', hs', hkeeps⟩ := h.live i s hs
  obtain ⟨s'', hs'', hkeeps'⟩ := h'.live i s' hs'
  exact ⟨s'', hs'', hkeeps.trans hkeeps'⟩

theorem of_parts (hcurrent : t.current.Retains t'.current)
    (houter : ∀ (i : Nat) (s : Scope), t.outer[i]? = some s → ∃ s', t'.outer[i]? = some s' ∧ s.Retains s')
    (hregistry : t.registry ⊆ t'.registry) : t.Retains t' := by
  refine ⟨fun i s hs => ?_, hregistry⟩
  cases i with
  | zero =>
    cases hs
    exact ⟨t'.current, rfl, hcurrent⟩
  | succ i => exact houter i s hs

theorem exit (h : (t.enter kind).Retains t') : t.Retains t'.exit := by
  -- the scope of the body is in front, so that the others are one place further in
  have hlive : ∀ (i : Nat) (s : Scope), t.live[i]? = some s →
      ∃ s', t'.outer[i]? = some s' ∧ s.Retains s' :=
    fun i s hs => h.live (i + 1) s hs
  unfold ScopeTree.exit
  split
  · next houter =>
    obtain ⟨s', hs', -⟩ := hlive 0 t.current rfl
    rw [houter] at hs'
    cases hs'
  · next s rest houter =>
    rw [houter] at hlive
    exact ⟨hlive, h.registry⟩

end Retains

theorem declare_retains (t : ScopeTree) (n : String) (ty : Ty) (set : Bool) :
    t.Retains (t.declare n ty set) := by
  unfold declare
  split
  · exact .refl t
  · next h =>
    have hcurrent := Scope.insert_retains (Bool.eq_false_iff.mpr h) ⟨ty, set⟩
    exact .of_parts hcurrent (fun _ s hs => ⟨s, hs, .refl s⟩) (List.subset_cons_self _ _)

theorem markSetIn_retains (n : String) (scopes : List Scope) (i : Nat) (s : Scope)
    (hs : scopes[i]? = some s) : ∃ s', (markSetIn n scopes)[i]? = some s' ∧ s.Retains s' := by
  induction scopes generalizing i with
  | nil => cases hs
  | cons s₀ rest ih =>
    unfold markSetIn
    cases i with
    | zero =>
      cases hs
      split
      · exact ⟨_, rfl, s.markSet_retains n⟩
      · exact ⟨s, rfl, .refl s⟩
    | succ i =>
      split
      · exact ⟨s, hs, .refl s⟩
      · exact ih i hs

theorem markSet_retains (t : ScopeTree) (n : String) : t.Retains (t.markSet n) := by
  unfold markSet
  split
  · exact .of_parts (t.current.markSet_retains n) (fun _ s hs => ⟨s, hs, .refl s⟩)
      (List.Subset.refl _)
  · exact .of_parts (.refl t.current) (markSetIn_retains n t.outer) (List.Subset.refl _)

end ScopeTree

open ScopeTree

/-! ## Actions and statements -/

theorem Action.check_retains (t : ScopeTree) (a : Action) : t.Retains (a.check t).scopes := by
  have h := a.check_leaves t
  generalize (a.check t).scopes = t' at h
  cases h with
  | same => exact .refl t
  | marked n => exact markSet_retains t n
  | @declared n ty set _ => exact declare_retains t n ty set

theorem ScopeTree.retains_respected : Respected Retains where
  refl := .refl
  trans := .trans
  action := Action.check_retains
  block := .exit

end Primer
