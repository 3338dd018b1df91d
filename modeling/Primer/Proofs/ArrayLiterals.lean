import Primer.Proofs.TypingRules

/-!
# Array literals

An array literal takes its element type from its first element, or, if it is empty, from the array
that it is stored in. So in an accepted program an empty literal stands by itself where an array is
declared or assigned, and every other literal has an element.
-/

namespace Primer

/-! ## Expressions -/

namespace Expr

mutual
/-- Every array literal in the expression has an element. -/
def Filled : Expr → Prop
  | lit _ _ | var _ _ | step _ _ _ _ | length _ _ | pop _ _ => True
  | binary _ _ left right => Filled left ∧ Filled right
  | unary _ _ e | newArray _ _ e | index _ _ e => Filled e
  | arrayOf _ elems => elems ≠ [] ∧ FilledAll elems

def FilledAll : List Expr → Prop
  | [] => True
  | e :: rest => Filled e ∧ FilledAll rest
end

theorem filledAll_iff {es : List Expr} : FilledAll es ↔ ∀ e ∈ es, e.Filled := by
  induction es with
  | nil => simp [FilledAll]
  | cons e rest ih => rw [FilledAll, ih, List.forall_mem_cons]

theorem eraseAll_eq_nil {es : List Expr} : eraseAll es = [] ↔ es = [] := by
  cases es <;> simp [eraseAll]

mutual
theorem filled_erase : (e : Expr) → (e.erase.Filled ↔ e.Filled)
  | lit _ _ | var _ _ | step _ _ _ _ | length _ _ | pop _ _ => by simp only [erase, Filled]
  | binary _ _ left right => by
      simp only [erase, Filled, filled_erase left, filled_erase right]
  | unary _ _ e | newArray _ _ e | index _ _ e => by simp only [erase, Filled, filled_erase e]
  | arrayOf _ elems => by
      simp only [erase, Filled, ne_eq, eraseAll_eq_nil, filledAll_erase elems]

theorem filledAll_erase : (es : List Expr) → (FilledAll (eraseAll es) ↔ FilledAll es)
  | [] => by simp only [eraseAll]
  | e :: rest => by simp only [eraseAll, FilledAll, filled_erase e, filledAll_erase rest]
end

variable {t : ScopeTree} {e : Expr} {ty : Ty} {hint : Option Primitive}

theorem HasType.filled (h : e.HasType t ty) : e.Filled := by
  induction h with
  | lit | var | step | length | pop => trivial
  | arith _ _ hl hr | order _ _ hl hr | logic _ _ hl hr | equality _ _ _ _ hl hr => exact ⟨hl, hr⟩
  | not _ he | sign _ _ he | newArray _ _ he | index _ _ he => exact he
  | arrayOf hne _ ih => exact ⟨hne, filledAll_iff.mpr ih⟩

/-- An array literal without elements. -/
def IsEmptyLiteral (e : Expr) : Prop := ∃ was, e = arrayOf was []

theorem isEmptyLiteral_erase : e.erase.IsEmptyLiteral ↔ e.IsEmptyLiteral := by
  cases e with
  | arrayOf was elems =>
    cases elems <;> simp [IsEmptyLiteral, erase, eraseAll]
  | _ => simp [IsEmptyLiteral, erase]

/-- The hint of a context decides for an empty literal only. -/
theorem check_hint (ht : t.Known) (h : (e.check t hint).problems = []) :
    e.check t hint = e.check t none ∨ e.IsEmptyLiteral := by
  cases e with
  | arrayOf was elems =>
    cases elems with
    | nil => exact .inr ⟨was, rfl⟩
    | cons e rest =>
      rw [check] at h
      have hclean := literal_clean h
      have he := check_typed ht none e (checkElems_head hclean)
      rw [check, check, checkElems_cons he.known hclean, CheckedElems.literal, CheckedElems.literal,
        CheckedElems.cons, checkElems_first]
      cases (e.check t none).ty <;> exact .inl rfl
  | _ => exact .inl (by simp only [check])

/-- An expression that is accepted has no empty literal in it, but may be one where an array is
wanted. -/
theorem filled_of_clean (ht : t.Known) (h : (e.check t hint).problems = []) :
    e.Filled ∨ hint ≠ none ∧ e.IsEmptyLiteral := by
  have hfilled (h : (e.check t none).problems = []) : e.Filled :=
    (accepted_hasType ht e _ ⟨h, rfl⟩).filled
  rcases check_hint ht h with hnone | hempty
  · exact .inl (hfilled (hnone ▸ h))
  · cases hint with
    | none => exact .inl (hfilled h)
    | some p => exact .inr ⟨nofun, hempty⟩

theorem check_filled (ht : t.Known) (h : (e.check t none).problems = []) :
    (e.check t none).result.Filled := by
  rw [← filled_erase, erase_check, filled_erase]
  exact (filled_of_clean ht h).resolve_right fun hempty => hempty.1 rfl

end Expr

/-! ## Actions -/

namespace Action

/-- The element type that an action expects of its expressions. -/
def hint (t : ScopeTree) : Action → Option Primitive
  | .declareArray elem _ _ => Primitive.ofName? elem
  | .assignArray name _ => (t.lookup? name).bind Ty.element?
  | _ => none

/-- The actions that store a whole array. -/
def storesArray : Action → Bool
  | .declareArray _ _ _ | .assignArray _ _ => true
  | _ => false

/-- Every array literal in the action has an element, but for one that is stored as it is. -/
def Filled (a : Action) : Prop :=
  ∀ e ∈ a.exprs, e.Filled ∨ a.storesArray = true ∧ e.IsEmptyLiteral

variable {t : ScopeTree} {a : Action}

theorem check_item {form : DisplayForm} {i : DisplayItem} (h : (i.check t form).2 = []) :
    ∀ e ∈ i.exprs, (e.check t none).problems = [] := by
  cases i with
  | expr e => exact List.forall_mem_singleton.mpr h
  | named | literal => exact List.forall_mem_nil _

/-- An action that is accepted has no problem in its expressions. -/
theorem check_exprs (h : (a.check t).problems = []) :
    ∀ e ∈ a.exprs, (e.check t (a.hint t)).problems = [] := by
  cases a with
  | declare ty name init =>
    simp only [check] at h
    obtain ⟨p, -, hinit⟩ := checkDeclare_clean h
    exact fun e he => (hinit e (Option.mem_toList.mp he)).1
  | assign name op value =>
    simp only [check] at h
    obtain ⟨target, -, hv, -⟩ := checkAssign_clean h
    exact List.forall_mem_singleton.mpr hv
  | display item newline =>
    cases item with
    | none => exact List.forall_mem_nil _
    | some item =>
      rw [exprs, Option.toList_some, List.flatMap_singleton]
      exact check_item h
  | displayAll items newline =>
    simp only [check, CheckedAction.unchanged, List.append_eq_nil_iff, List.flatMap_eq_nil_iff] at h
    intro e he
    obtain ⟨i, hi, he⟩ := List.mem_flatMap.mp he
    exact check_item (h.2 _ (List.mem_map_of_mem hi)) e he
  | input name => exact List.forall_mem_nil _
  | declareArray elem name init =>
    simp only [check] at h
    obtain ⟨p, hp, hinit⟩ := checkDeclareArray_clean h
    rw [hint, hp]
    exact fun e he => (hinit e (Option.mem_toList.mp he)).1
  | assignArray name value =>
    simp only [check] at h
    obtain ⟨p, hn, hv, -⟩ := checkAssignArray_clean h
    rw [hint, hn]
    exact List.forall_mem_singleton.mpr hv
  | assignElement name idx op value | set name idx value =>
    simp only [check] at h
    obtain ⟨p, used, -, -, hi, hv, -⟩ := checkElement_clean h
    exact List.forall_mem_cons.mpr ⟨hi.1, List.forall_mem_singleton.mpr hv⟩
  | inputElement name idx =>
    simp only [check] at h
    obtain ⟨p, used, -, -, hi, -⟩ := checkInputElement_clean h
    exact List.forall_mem_singleton.mpr hi
  | push name value =>
    simp only [check] at h
    obtain ⟨p, used, -, -, hv, -⟩ := checkPush_clean h
    exact List.forall_mem_singleton.mpr hv
  | evaluate e => exact List.forall_mem_singleton.mpr h

theorem storesArray_erase : a.erase.storesArray = a.storesArray := by
  cases a <;> rfl

theorem exprs_erase (a : Action) : a.erase.exprs = a.exprs.map Expr.erase := by
  have hitem : ∀ i : DisplayItem, i.erase.exprs = i.exprs.map Expr.erase := by
    intro i
    cases i <;> rfl
  cases a with
  | declare _ _ init | declareArray _ _ init => cases init <;> rfl
  | display item newline =>
    cases item with
    | none => rfl
    | some i => simp [erase, exprs, hitem]
  | displayAll items newline =>
    simp [erase, exprs, List.flatMap_map, List.map_flatMap, hitem]
  | _ => rfl

theorem filled_erase : a.erase.Filled ↔ a.Filled := by
  simp only [Filled, exprs_erase, List.forall_mem_map, Expr.filled_erase, storesArray_erase,
    Expr.isEmptyLiteral_erase]

/-- What the check makes of an action that is accepted has no empty literal in it, but may store one
as it is. -/
theorem check_filled (ht : t.Known) (h : (a.check t).problems = []) :
    (a.check t).result.Filled := by
  rw [← filled_erase, erase_check, filled_erase]
  intro e he
  rcases Expr.filled_of_clean ht (check_exprs h e he) with hfilled | ⟨hhint, hempty⟩
  · exact .inl hfilled
  · refine .inr ⟨?_, hempty⟩
    cases a with
    | declareArray | assignArray => rfl
    | _ => exact absurd rfl hhint

end Action

end Primer
