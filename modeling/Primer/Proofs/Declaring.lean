import Primer.Proofs.ScopeLevels

/-!
# Accepted declarations

The check accepts a variable whose name no live scope has, and an array whose name the innermost scope
does not have. So a name that stands at two levels is one of an array at the inner one, and no check
changes what stands.
-/

namespace Primer

/-- The name that an action declares, be it that of a variable or of an array. -/
def Action.declared? : Action → Option String
  | .declare _ name _ | .declareArray _ name _ => some name
  | _ => none

theorem Action.adds_lookup {a : Action} {n : String} {ty : Ty} :
    a.adds.lookup n = some ty ↔ (n, ty) ∈ a.adds := by
  cases a with
  | declare ty name _ | declareArray ty name _ =>
    cases hp : Primitive.ofName? ty with
    | none => simp [adds, hp]
    | some p =>
      simp only [adds, hp, Option.toList_some, List.map_cons, List.map_nil, List.mem_singleton,
        Prod.mk.injEq, List.lookup_cons, List.lookup_nil]
      by_cases hn : n = name
      · simp [hn, eq_comm]
      · simp [hn, beq_eq_false_iff_ne.mpr hn]
  | _ => simp [adds]

theorem subset_judge (before : List Problem) (ty : Ty) (found : List Problem) :
    before ⊆ judge before ty found := by
  unfold judge
  split
  · exact List.subset_append_left _ _
  · exact List.Subset.refl _

section
variable (t : ScopeTree) (tyName name : String) (init : Option Expr) {p : Primitive}

/-- A declaration of a valid type is not accepted unless the name may be declared. -/
theorem named_subset_checkDeclare (h : Primitive.ofName? tyName = some p) :
    variableNameProblems t name ⊆ (checkDeclare t tyName name init).problems := by
  simp only [checkDeclare, h]
  cases init with
  | none => exact List.Subset.refl _
  | some e => exact List.Subset.trans (List.subset_append_left _ _) (subset_judge _ _ _)

theorem named_subset_checkDeclareArray (h : Primitive.ofName? tyName = some p) :
    arrayNameProblems t name ⊆ (checkDeclareArray t tyName name init).problems := by
  simp only [checkDeclareArray, h]
  cases init with
  | none => exact List.Subset.refl _
  | some e => exact List.Subset.trans (List.subset_append_left _ _) (subset_judge _ _ _)

end

namespace ScopeTree

variable {t : ScopeTree} {name : String}

theorem isDeclared_of_here (h : t.isDeclaredHere name = true) : t.isDeclared name = true := by
  obtain ⟨d, hd⟩ := Option.isSome_iff_exists.mp h
  have hfind : t.find? name = some d := by rw [find?, live, List.findSome?_cons, hd]
  rw [isDeclared, hfind, Option.isSome_some]

theorem not_declared_of_named (h : variableNameProblems t name = []) : t.isDeclared name = false := by
  refine Bool.eq_false_iff.mpr fun hdeclared => ?_
  have hmem : Problem.duplicateVariable name ∈ variableNameProblems t name := by
    simp [variableNameProblems, hdeclared]
  rw [h] at hmem
  cases hmem

theorem not_here_of_not_declared (h : t.isDeclared name = false) : t.isDeclaredHere name = false :=
  Bool.eq_false_iff.mpr fun hhere => Bool.eq_false_iff.mp h (isDeclared_of_here hhere)

theorem not_here_of_arrayNamed (h : arrayNameProblems t name = []) :
    t.isDeclaredHere name = false := by
  refine Bool.eq_false_iff.mpr fun hhere => ?_
  have hmem : Problem.duplicateArray name ∈ arrayNameProblems t name := by
    simp [arrayNameProblems, hhere]
  rw [h] at hmem
  cases hmem

theorem declare_new (h : t.isDeclaredHere name = false) (ty : Ty) (set : Bool) :
    t.declare name ty set =
      { t with current := t.current.insert name ⟨ty, set⟩, registry := name :: t.registry } := by
  rw [declare, h, if_neg Bool.false_ne_true]

end ScopeTree

namespace Action

/-- What the check of an action leaves: a new name in the innermost scope, if the action is an accepted
declaration, and otherwise at most a mark. The name of a variable is new in the scopes around it
too. -/
inductive Settled (a : Action) (t : ScopeTree) : CheckedAction → Prop where
  | declared {c : CheckedAction} {n : String} (ty : Ty) (set : Bool) (hn : a.declared? = some n)
    (hadds : (n, ty) ∈ a.adds) (hnew : t.isDeclaredHere n = false)
    (hfree : ty.isArray = false → t.isDeclared n = false) (hclean : c.problems = [])
    (hc : c.scopes = t.declare n ty set) : Settled a t c
  | marked {c : CheckedAction} (n : String) (hn : a.declared? = none) (hc : c.scopes = t.markSet n) :
    Settled a t c
  | same {c : CheckedAction} (h : a.declared? = none ∨ c.problems ≠ []) (hc : c.scopes = t) :
    Settled a t c

theorem Settled.ifClean_declared {a b : Action} {t : ScopeTree} {problems : List Problem}
    {n : String} (ty : Ty) (set : Bool) (hn : a.declared? = some n) (hadds : (n, ty) ∈ a.adds)
    (hnew : problems = [] → t.isDeclaredHere n = false ∧
      (ty.isArray = false → t.isDeclared n = false)) :
    a.Settled t (.ifClean t b problems (·.declare n ty set)) := by
  cases problems with
  | nil => exact .declared ty set hn hadds (hnew rfl).1 (hnew rfl).2 rfl rfl
  | cons => exact .same (.inr (List.cons_ne_nil _ _)) rfl

theorem Settled.ifClean_marked {a b : Action} {t : ScopeTree} {problems : List Problem} (n : String)
    (hn : a.declared? = none) : a.Settled t (.ifClean t b problems (·.markSet n)) := by
  cases problems with
  | nil => exact .marked n hn rfl
  | cons => exact .same (.inl hn) rfl

theorem checkDeclare_settled (t : ScopeTree) (ty n : String) (init : Option Expr) :
    (declare ty n init).Settled t (checkDeclare t ty n init) := by
  cases hp : Primitive.ofName? ty with
  | none =>
    simp only [checkDeclare, hp]
    exact .same (.inr (List.cons_ne_nil _ _)) rfl
  | some p =>
    have hnamed := named_subset_checkDeclare t ty n init hp
    have hadds : (n, Ty.scalar p) ∈ (declare ty n init).adds := by simp [adds, hp]
    have hnew (h : variableNameProblems t n = []) :
        t.isDeclaredHere n = false ∧ ((Ty.scalar p).isArray = false → t.isDeclared n = false) :=
      have hfree := ScopeTree.not_declared_of_named h
      ⟨ScopeTree.not_here_of_not_declared hfree, fun _ => hfree⟩
    simp only [checkDeclare, hp] at hnamed ⊢
    cases init with
    | none => exact .ifClean_declared _ _ rfl hadds hnew
    | some e =>
      refine .ifClean_declared _ _ rfl hadds fun hclean => hnew ?_
      exact List.subset_nil.mp (List.Subset.trans hnamed (List.subset_nil.mpr hclean))

theorem checkDeclareArray_settled (t : ScopeTree) (elem n : String) (init : Option Expr) :
    (declareArray elem n init).Settled t (checkDeclareArray t elem n init) := by
  cases hp : Primitive.ofName? elem with
  | none =>
    simp only [checkDeclareArray, hp]
    exact .same (.inr (List.cons_ne_nil _ _)) rfl
  | some p =>
    have hnamed := named_subset_checkDeclareArray t elem n init hp
    have hadds : (n, Ty.array p) ∈ (declareArray elem n init).adds := by simp [adds, hp]
    have hnew (h : arrayNameProblems t n = []) :
        t.isDeclaredHere n = false ∧ ((Ty.array p).isArray = false → t.isDeclared n = false) :=
      ⟨ScopeTree.not_here_of_arrayNamed h, fun harray => by cases harray⟩
    simp only [checkDeclareArray, hp] at hnamed ⊢
    cases init with
    | none => exact .ifClean_declared _ _ rfl hadds hnew
    | some e =>
      refine .ifClean_declared _ _ rfl hadds fun hclean => hnew ?_
      exact List.subset_nil.mp (List.Subset.trans hnamed (List.subset_nil.mpr hclean))

theorem check_settled (t : ScopeTree) (a : Action) : a.Settled t (a.check t) := by
  have hsame : ∀ {a b : Action} {problems : List Problem}, a.declared? = none →
      a.Settled t (.unchanged t b problems) := fun ha => .same (.inl ha) rfl
  cases a with
  | declare ty n init => exact checkDeclare_settled t ty n init
  | declareArray elem n init => exact checkDeclareArray_settled t elem n init
  | assign name op value =>
    simp only [check, checkAssign]
    split
    · exact hsame rfl
    · exact .ifClean_marked name rfl
  | assignArray name value =>
    simp only [check, checkAssignArray]
    repeat' split
    · exact hsame rfl
    · exact hsame rfl
    · exact .ifClean_marked name rfl
  | input name => exact .ifClean_marked name rfl
  | display item _ => cases item <;> exact hsame rfl
  | assignElement | set =>
    simp only [check, checkElement]
    split <;> exact hsame rfl
  | push =>
    simp only [check, checkPush]
    split <;> exact hsame rfl
  | inputElement =>
    simp only [check, checkInputElement]
    split <;> exact hsame rfl
  | displayAll | evaluate => exact hsame rfl

theorem adds_declared {a : Action} {n : String} {ty : Ty} (h : (n, ty) ∈ a.adds) :
    a.declared? = some n := by
  cases a with
  | declare _ name _ | declareArray _ name _ =>
    obtain ⟨p, -, hp⟩ := List.mem_map.mp h
    cases hp
    rfl
  | _ => cases h

/-- The name of an accepted declaration is new in the innermost scope, and that of a variable in the
scopes around it too. -/
theorem check_new {a : Action} {t : ScopeTree} {n : String} {ty : Ty} (hclean : (a.check t).problems = [])
    (h : (n, ty) ∈ a.adds) :
    t.isDeclaredHere n = false ∧ (ty.isArray = false → t.isDeclared n = false) := by
  cases a.check_settled t with
  | @declared m ty' set hm hadds hnew hfree _ _ =>
    obtain rfl := Option.some.inj (hm.symm.trans (adds_declared h))
    obtain rfl := Option.some.inj ((adds_lookup.mpr hadds).symm.trans (adds_lookup.mpr h))
    exact ⟨hnew, hfree⟩
  | marked m hm hc =>
    rw [adds_declared h] at hm
    cases hm
  | same hsame hc =>
    rw [adds_declared h] at hsame
    exact absurd hclean (hsame.resolve_left (Option.some_ne_none n))

end Action

/-! ## Names at several levels -/

namespace ScopeTree

variable {t t' : ScopeTree} {n : String} {ty : Ty} {l : Nat}

/-- A name that stands at two levels is one of an array at the inner one. -/
def Layered (t : ScopeTree) : Prop :=
  ∀ n l l' ty ty', l < l' → t.typeAt l n = some ty → t.typeAt l' n = some ty' → ty'.isArray = true

/-- The names of the first scopes stand at their levels in the second ones, which are layered if the
first are. -/
structure Stays (t t' : ScopeTree) : Prop where
  level : t'.level = t.level
  typeAt : ∀ {l n ty}, t.typeAt l n = some ty → t'.typeAt l n = some ty
  layered : t.Layered → t'.Layered

theorem Layered.start : start.Layered := fun n l _ _ _ _ h _ => by
  rw [typeAt_start] at h
  cases h

theorem Layered.covered (h : t.Layered) (ht : t.Covers t') : t'.Layered :=
  fun n l l' ty ty' hlt hty hty' => h n l l' ty ty' hlt (ht.typeAt hty) (ht.typeAt hty')

theorem Stays.of_typeAt (hlevel : t'.level = t.level) (h : ∀ l n, t'.typeAt l n = t.typeAt l n) :
    t.Stays t' := by
  refine ⟨hlevel, fun hty => (h _ _).trans hty, fun ht n l l' ty ty' hlt hty hty' => ?_⟩
  rw [h] at hty hty'
  exact ht n l l' ty ty' hlt hty hty'

theorem declare_stays (hnew : t.isDeclaredHere n = false)
    (hfree : ty.isArray = false → t.isDeclared n = false) (set : Bool) :
    t.Stays (t.declare n ty set) := by
  refine ⟨level_declare t n ty set, fun {l m ty'} hty => ?_, fun ht m l l' ty₁ ty₂ hlt h₁ h₂ => ?_⟩
  · rw [typeAt_declare, if_neg ?_, hty]
    rintro ⟨rfl, rfl, -⟩
    rw [isDeclaredHere_typeAt, hty] at hnew
    cases hnew
  · rw [typeAt_declare] at h₁ h₂
    split at h₁
    -- a name at the innermost level stands at no level further inside
    · next hn =>
      obtain ⟨-, rfl, -⟩ := hn
      rw [if_neg fun h => Nat.ne_of_gt hlt h.2.1, typeAt_none hlt] at h₂
      cases h₂
    split at h₂
    · next hn =>
      obtain ⟨rfl, -, -⟩ := hn
      cases h₂
      refine Classical.byContradiction fun harray => ?_
      have hnone := hfree (Bool.eq_false_iff.mpr harray)
      rw [isDeclared_of_typeAt h₁] at hnone
      cases hnone
    · exact ht m l l' ty₁ ty₂ hlt h₁ h₂

theorem stays_respected : Respected Stays where
  refl t := .of_typeAt rfl fun _ _ => rfl
  trans h h' := ⟨h'.level.trans h.level, fun hty => h'.typeAt (h.typeAt hty),
    fun ht => h'.layered (h.layered ht)⟩
  action t a := by
    cases a.check_settled t with
    | declared ty set _ _ hnew hfree _ hc =>
      rw [hc]
      exact declare_stays hnew hfree set
    | marked n _ hc =>
      rw [hc]
      exact .of_typeAt (level_markSet t n) (typeAt_markSet t n)
    | same _ hc =>
      rw [hc]
      exact .of_typeAt rfl fun _ _ => rfl
  block {t t' kind} h := by
    have hexit : t'.exit.level = t.level := by
      have hlevel : t'.outer.length = t.outer.length + 1 := h.level
      obtain ⟨s, rest, houter⟩ := List.exists_cons_of_length_eq_add_one hlevel
      simp only [houter, List.length_cons, Nat.add_right_cancel_iff] at hlevel
      rw [exit, houter]
      exact hlevel
    refine ⟨hexit, fun {l n ty} hty => ?_, fun ht => ?_⟩
    · rw [typeAt_exit, hexit, if_pos (typeAt_level_le hty)]
      exact h.typeAt ((typeAt_enter t kind l n).trans hty)
    · exact (h.layered (ht.covered (t.covers_enter kind))).covered t'.covers_exit

/-- What a check adds to scopes stands at their level, where the name did not stand. -/
theorem Stays.entries {added : List (String × Ty)} (h : t.Stays t') (ht : Extends added t t')
    (hty : t'.typeAt l n = some ty) :
    t.typeAt l n = some ty ∨ (l = t.level ∧ t.typeAt l n = none) ∧ (n, ty) ∈ added := by
  cases hold : t.typeAt l n with
  | none =>
    rcases ht.typeAt hty with hsame | ⟨hl, hadded⟩
    · rw [hold] at hsame
      cases hsame
    · exact .inr ⟨⟨hl, rfl⟩, hadded⟩
  | some ty' =>
    rw [h.typeAt hold] at hty
    exact .inl hty

theorem Stays.covers {added : List (String × Ty)} (h : t.Stays t') (ht : Extends added t t') :
    t'.Covers t :=
  ⟨fun _ he => ht.declared he, h.typeAt⟩

end ScopeTree

open ScopeTree

theorem Action.check_stays (t : ScopeTree) (a : Action) : t.Stays (a.check t).scopes :=
  stays_respected.action t a

namespace Stmt

open Check

theorem check_stays (s : Stmt) (t : ScopeTree) : t.Stays (after s.check t) :=
  check_respects stays_respected s t

theorem check_covers (s : Stmt) (t : ScopeTree) : (after s.check t).Covers t :=
  (s.check_stays t).covers (s.check_extends t)

theorem checkOption_covers (s : Option Stmt) (t : ScopeTree) : (after (checkOption s) t).Covers t :=
  (checkOption_respects stays_respected s t).covers (checkOption_extends s t)

end Stmt

end Primer
