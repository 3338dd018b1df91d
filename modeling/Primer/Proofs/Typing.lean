import Primer.Proofs.Bindings
import Primer.Proofs.Scoping

/-!
# Typing

The typing of annotated expressions and actions, as rules on their own. What a check accepts in some
scopes is annotated so that it is typed in the context of these scopes.
-/

namespace Primer

variable {Γ Γ' : Context} {t : ScopeTree}

/-! ## Expressions -/

mutual
/-- An expression whose annotations follow the typing rules in a context. -/
def Expr.Typed (Γ : Context) : Expr → Prop
  | .lit ty raw => Literal.classify raw = .ok ty
  | .var ty name => Γ name = some ty ∧ ty ≠ .unknown
  | .binary ty op left right =>
    ty = op.resultTy ∧ op.operandProblems left.ty right.ty = [] ∧ left.Typed Γ ∧ right.Typed Γ
  | .unary ty op operand => ty = op.resultTy ∧ operand.ty = op.resultTy ∧ operand.Typed Γ
  | .step ty name _ _ => ty = .number ∧ Γ name = some .number
  | .arrayOf ty elems => ∃ p, ty = .array p ∧ Expr.TypedAll Γ (.scalar p) elems
  | .newArray ty elem size =>
    (∃ p, Primitive.ofName? elem = some p ∧ ty = .array p) ∧ size.ty = .number ∧ size.Typed Γ
  | .index ty name idx =>
    (∃ p, Γ name = some (.array p) ∧ ty = .scalar p) ∧ idx.ty = .number ∧ idx.Typed Γ
  | .length ty name => ty = .number ∧ ∃ p, Γ name = some (.array p)
  | .pop ty name => ∃ p, Γ name = some (.array p) ∧ ty = .scalar p

/-- Expressions of one type whose annotations follow the typing rules. -/
def Expr.TypedAll (Γ : Context) (ty : Ty) : List Expr → Prop
  | [] => True
  | e :: rest => (e.ty = ty ∧ e.Typed Γ) ∧ Expr.TypedAll Γ ty rest
end

namespace Expr

theorem Typed.known {e : Expr} (h : e.Typed Γ) : e.ty ≠ .unknown := by
  cases e with
  | lit ty raw =>
    obtain ⟨p, rfl⟩ := Literal.classify_scalar h
    exact nofun
  | var ty name => exact h.2
  | binary ty op left right => cases op <;> (rw [Expr.ty, h.1]; exact nofun)
  | unary ty op operand => cases op <;> (rw [Expr.ty, h.1]; exact nofun)
  | step | length => rw [Expr.ty, h.1]; exact nofun
  | arrayOf ty elems =>
    obtain ⟨p, rfl, -⟩ := h
    exact nofun
  | newArray ty elem size =>
    obtain ⟨⟨p, -, rfl⟩, -⟩ := h
    exact nofun
  | index ty name idx =>
    obtain ⟨⟨p, -, rfl⟩, -⟩ := h
    exact nofun
  | pop ty name =>
    obtain ⟨p, -, rfl⟩ := h
    exact nofun

mutual
theorem Typed.mono (hΓ : ∀ n ty, Γ n = some ty → Γ' n = some ty) :
    (e : Expr) → e.Typed Γ → e.Typed Γ'
  | .lit _ _, h => h
  | .var _ name, h => ⟨hΓ name _ h.1, h.2⟩
  | .binary _ _ left right, h =>
      ⟨h.1, h.2.1, Typed.mono hΓ left h.2.2.1, Typed.mono hΓ right h.2.2.2⟩
  | .unary _ _ operand, h => ⟨h.1, h.2.1, Typed.mono hΓ operand h.2.2⟩
  | .step _ name _ _, h => ⟨h.1, hΓ name _ h.2⟩
  | .arrayOf _ elems, ⟨p, hty, h⟩ => ⟨p, hty, TypedAll.mono hΓ (.scalar p) elems h⟩
  | .newArray _ _ size, h => ⟨h.1, h.2.1, Typed.mono hΓ size h.2.2⟩
  | .index _ name idx, ⟨⟨p, hn, hty⟩, h⟩ => ⟨⟨p, hΓ name _ hn, hty⟩, h.1, Typed.mono hΓ idx h.2⟩
  | .length _ name, ⟨hty, p, hn⟩ => ⟨hty, p, hΓ name _ hn⟩
  | .pop _ name, ⟨p, hn, hty⟩ => ⟨p, hΓ name _ hn, hty⟩

theorem TypedAll.mono (hΓ : ∀ n ty, Γ n = some ty → Γ' n = some ty) (ty : Ty) :
    (es : List Expr) → TypedAll Γ ty es → TypedAll Γ' ty es
  | [], _ => trivial
  | e :: rest, h => ⟨⟨h.1.1, Typed.mono hΓ e h.1.2⟩, TypedAll.mono hΓ ty rest h.2⟩
end

end Expr

/-! ## Uses of names -/

/-- Scopes in which every name has a type. -/
def ScopeTree.Known (t : ScopeTree) : Prop := ∀ n ty, t.lookup? n = some ty → ty ≠ .unknown

namespace ScopeTree

variable {n : String}

theorem use_clean (h : (t.use n).2 = []) : t.lookup? n = some (t.use n).1 := by
  unfold use at h ⊢
  unfold lookup?
  cases hf : t.find? n with
  | none => simp [hf] at h
  | some d => rfl

theorem useArray_cases (t : ScopeTree) (n : String) :
    (∃ p used, t.useArray n = (some p, used) ∧ t.lookup? n = some (.array p)) ∨
      ∃ problems, t.useArray n = (none, problems) ∧ problems ≠ [] := by
  unfold useArray lookup?
  cases hf : t.find? n with
  | none => exact .inr ⟨_, rfl, nofun⟩
  | some d =>
    obtain ⟨ty, set⟩ := d
    cases ty with
    | array p => exact .inl ⟨p, _, rfl, rfl⟩
    | scalar | unknown => exact .inr ⟨_, rfl, nofun⟩

end ScopeTree

/-! ## The check of expressions -/

theorem indexProblems_clean {ty : Ty} (h : indexProblems ty = []) (hty : ty ≠ .unknown) :
    ty = .number := by
  unfold indexProblems at h
  split at h
  · next hor => exact hor.resolve_left hty
  · cases h

theorem sizeProblems_clean {ty : Ty} (h : sizeProblems ty = []) (hty : ty ≠ .unknown) :
    ty = .number := by
  unfold sizeProblems at h
  split at h
  · next hor => exact hor.resolve_left hty
  · cases h

theorem UnaryOp.operandProblems_clean {op : UnaryOp} {ty : Ty} (h : op.operandProblems ty = []) :
    ty = op.resultTy := by
  unfold operandProblems at h
  split at h
  · assumption
  · cases op <;> cases h

theorem Ty.isUnknown_iff {ty : Ty} : ty.isUnknown = true ↔ ty = .unknown := by
  cases ty <;> simp [isUnknown]

theorem Checked.isTyped_iff {c : Checked Expr} :
    c.isTyped = true ↔ c.problems = [] ∧ c.ty ≠ .unknown := by
  rw [isTyped, Bool.and_eq_true, List.isEmpty_iff, Bool.not_eq_true', ← Bool.not_eq_true,
    Ty.isUnknown_iff]

namespace Expr

theorem checkElems_first (t : ScopeTree) (ty : Ty) (es : List Expr) :
    (checkElems t (some ty) es).first = some ty := by
  induction es with
  | nil => rw [checkElems]
  | cons e rest ih =>
    rw [checkElems]
    split
    · exact ih
    · split
      · exact ih
      · rfl

theorem checkElems_head {first : Option Ty} {e : Expr} {rest : List Expr}
    (h : (checkElems t first (e :: rest)).problems = []) : (e.check t none).problems = [] := by
  cases first with
  | none =>
    rw [checkElems] at h
    split at h <;> exact (List.append_eq_nil_iff.mp h).1
  | some expected =>
    rw [checkElems] at h
    repeat' split at h
    all_goals exact (List.append_eq_nil_iff.mp h).1

theorem checkElems_cons {first : Option Ty} {e : Expr} {rest : List Expr}
    (he : (e.check t none).ty ≠ .unknown) (h : (checkElems t first (e :: rest)).problems = []) :
    checkElems t first (e :: rest) =
      .cons (e.check t none) (checkElems t (some (e.check t none).ty) rest) := by
  cases first with
  | none => rw [checkElems, if_neg (fun hu => he (Ty.isUnknown_iff.mp hu))]
  | some expected =>
    rw [checkElems, if_neg (fun hu => he (Ty.isUnknown_iff.mp hu))] at h ⊢
    by_cases heq : expected = (e.check t none).ty
    · subst heq
      rw [if_pos rfl]
    · rw [if_neg heq] at h
      exact nomatch (List.append_eq_nil_iff.mp h).2

/-- A literal has the element type of its elements, and of the context if it has none. -/
theorem literal_typed {Γ : Context} {c : CheckedElems} {hint : Option Primitive}
    (h : (c.literal hint).problems = []) (hnone : c.first = none → c.elems = [])
    (hsome : ∀ ty, c.first = some ty → TypedAll Γ ty c.elems) :
    c.problems = [] → (c.literal hint).result.Typed Γ := by
  intro hc
  unfold CheckedElems.literal at h ⊢
  rw [hc] at h ⊢
  simp only [List.isEmpty_nil, if_true] at h ⊢
  unfold literalTy at h ⊢
  cases hf : c.first with
  | none =>
    rw [hf] at h
    cases hint with
    | none => cases h
    | some p => exact ⟨p, rfl, by rw [hnone hf]; trivial⟩
  | some ty =>
    rw [hf] at h
    cases ty with
    | scalar p => exact ⟨p, rfl, hsome _ hf⟩
    | array | unknown => cases h

theorem literal_clean {c : CheckedElems} {hint : Option Primitive}
    (h : (c.literal hint).problems = []) : c.problems = [] := by
  unfold CheckedElems.literal at h
  split at h
  · next hc => exact List.isEmpty_iff.mp hc
  · exact h

mutual
theorem check_typed (ht : t.Known) : (hint : Option Primitive) → (e : Expr) →
    (e.check t hint).problems = [] → (e.check t hint).result.Typed t.lookup?
  | _, .lit _ raw => by
      intro h
      rw [check] at h ⊢
      cases hc : Literal.classify raw with
      | ok ty => rwa [Typed]
      | error fault =>
        rw [hc] at h
        cases h
  | _, .var _ name => by
      intro h
      rw [check] at h ⊢
      have hn := ScopeTree.use_clean h
      exact ⟨hn, ht name _ hn⟩
  | _, .binary _ op left right => by
      intro h
      rw [check] at h ⊢
      by_cases hty : ((left.check t none).isTyped && (right.check t none).isTyped) = true
      · rw [if_pos hty] at h ⊢
        rw [Bool.and_eq_true, Checked.isTyped_iff, Checked.isTyped_iff] at hty
        exact ⟨rfl, h, check_typed ht none left hty.1.1, check_typed ht none right hty.2.1⟩
      -- Operands without problems have types, so this branch of the check reports a problem.
      · rw [if_neg hty] at h
        obtain ⟨hl, hr⟩ := List.append_eq_nil_iff.mp h
        refine absurd (Bool.and_eq_true_iff.mpr ⟨?_, ?_⟩) hty
        · exact Checked.isTyped_iff.mpr ⟨hl, (check_typed ht none left hl).known⟩
        · exact Checked.isTyped_iff.mpr ⟨hr, (check_typed ht none right hr).known⟩
  | _, .unary _ op operand => by
      intro h
      rw [check] at h ⊢
      by_cases hty : (operand.check t none).isTyped = true
      · rw [if_pos hty] at h ⊢
        rw [Checked.isTyped_iff] at hty
        exact ⟨rfl, UnaryOp.operandProblems_clean h, check_typed ht none operand hty.1⟩
      · rw [if_neg hty] at h
        have ho : (operand.check t none).problems = [] := h
        exact absurd (Checked.isTyped_iff.mpr ⟨ho, (check_typed ht none operand ho).known⟩) hty
  | _, .step _ name op fixity => by
      intro h
      rw [check] at h ⊢
      cases hf : t.find? name with
      | none => simp only [hf, reduceCtorEq] at h
      | some d =>
        simp only [hf, List.append_eq_nil_iff, ite_eq_left_iff, reduceCtorEq, imp_false,
          Decidable.not_not] at h
        exact ⟨rfl, by rw [ScopeTree.lookup?, hf, Option.map_some, h.2]⟩
  | hint, .arrayOf _ elems => by
      intro h
      rw [check] at h ⊢
      have hc := literal_clean h
      obtain ⟨hnone, hsome⟩ := checkElems_typed ht none elems hc
      exact literal_typed h hnone hsome hc
  | _, .newArray _ elem size => by
      intro h
      rw [check] at h ⊢
      obtain ⟨⟨helem, hs⟩, hsize⟩ : (_ ∧ _) ∧ _ := by
        simpa only [List.append_eq_nil_iff] using h
      have hst := check_typed ht none size hs
      cases hp : Primitive.ofName? elem with
      | none => rw [hp] at helem; cases helem
      | some p => exact ⟨⟨p, hp, rfl⟩, sizeProblems_clean hsize hst.known, hst⟩
  | _, .index _ name idx => by
      intro h
      rw [check] at h ⊢
      rcases t.useArray_cases name with ⟨p, used, hu, hn⟩ | ⟨problems, hu, hne⟩
      · rw [hu] at h ⊢
        obtain ⟨⟨-, hi⟩, hidx⟩ : (_ ∧ _) ∧ _ := by
          simpa only [List.append_eq_nil_iff] using h
        have hit := check_typed ht none idx hi
        exact ⟨⟨p, hn, rfl⟩, indexProblems_clean hidx hit.known, hit⟩
      · rw [hu] at h
        exact absurd h hne
  | _, .length _ name => by
      intro h
      rw [check] at h ⊢
      rcases t.useArray_cases name with ⟨p, used, hu, hn⟩ | ⟨problems, hu, hne⟩
      · rw [hu]
        exact ⟨rfl, p, hn⟩
      · rw [hu] at h
        exact absurd h hne
  | _, .pop _ name => by
      intro h
      rw [check] at h ⊢
      rcases t.useArray_cases name with ⟨p, used, hu, hn⟩ | ⟨problems, hu, hne⟩
      · rw [hu]
        exact ⟨p, hn, rfl⟩
      · rw [hu] at h
        exact absurd h hne

theorem checkElems_typed (ht : t.Known) : (first : Option Ty) → (es : List Expr) →
    (checkElems t first es).problems = [] →
    ((checkElems t first es).first = none → (checkElems t first es).elems = []) ∧
    ∀ ty, (checkElems t first es).first = some ty →
      TypedAll t.lookup? ty (checkElems t first es).elems
  | first, [] => by
      intro _
      rw [checkElems]
      exact ⟨fun _ => rfl, fun _ _ => trivial⟩
  | first, e :: rest => by
      intro h
      have he := check_typed ht none e (checkElems_head h)
      have heq := checkElems_cons he.known h
      rw [heq] at h ⊢
      have hrest := (checkElems_typed ht _ rest (List.append_eq_nil_iff.mp h).2).2
      simp only [CheckedElems.cons, checkElems_first, reduceCtorEq, false_implies, true_and,
        Option.some.injEq, forall_eq']
      exact ⟨⟨rfl, he⟩, hrest _ (checkElems_first t _ rest)⟩
end

end Expr

/-! ## Actions -/

/-- An item of a display whose annotations follow the typing rules. -/
def DisplayItem.Typed (Γ : Context) : DisplayItem → Prop
  | .expr e => e.Typed Γ
  | .named name => ∃ ty, Γ name = some ty ∧ ty ≠ .unknown
  | .literal _ => True

/-- The types that an assignment to a variable may meet. -/
def AssignOp.Fits (target source : Ty) : AssignOp → Prop
  | .plain => target.accepts source = true
  | .compound _ => target = .number ∧ source = .number

/-- The types that an assignment to an element may meet. -/
def AssignOp.FitsElement (elem : Primitive) (source : Ty) : AssignOp → Prop
  | .plain => (Ty.scalar elem).accepts source = true
  | .compound op => elem = .sentence ∧ op = .add ∨ elem = .number ∧ source = .number

/-- An action whose annotations follow the typing rules in a context. -/
def Action.Typed (Γ : Context) : Action → Prop
  | .declare ty _ init => ∃ p, Primitive.ofName? ty = some p ∧
    ∀ e ∈ init, e.Typed Γ ∧ (Ty.scalar p).accepts e.ty = true
  | .assign name op value => ∃ ty, Γ name = some ty ∧ ty ≠ .unknown ∧ value.Typed Γ ∧ op.Fits ty value.ty
  | .display item _ => ∀ i ∈ item, i.Typed Γ
  | .displayAll items _ => ∀ i ∈ items, i.Typed Γ
  | .input name => ∃ p, Γ name = some (.scalar p)
  | .declareArray elem _ init => ∃ p, Primitive.ofName? elem = some p ∧
    ∀ e ∈ init, e.Typed Γ ∧ e.ty = .array p
  | .assignArray name value => ∃ p, Γ name = some (.array p) ∧ value.Typed Γ ∧ value.ty = .array p
  | .assignElement name idx op value => ∃ p, Γ name = some (.array p) ∧
    (idx.Typed Γ ∧ idx.ty = .number) ∧ value.Typed Γ ∧ op.FitsElement p value.ty
  | .inputElement name idx => ∃ p, Γ name = some (.array p) ∧ idx.Typed Γ ∧ idx.ty = .number
  | .push name value => ∃ p, Γ name = some (.array p) ∧ value.Typed Γ ∧
    (Ty.scalar p).accepts value.ty = true
  | .set name idx value => ∃ p, Γ name = some (.array p) ∧ (idx.Typed Γ ∧ idx.ty = .number) ∧
    value.Typed Γ ∧ (Ty.scalar p).accepts value.ty = true
  | .evaluate e => e.Typed Γ

theorem DisplayItem.Typed.mono (hΓ : ∀ n ty, Γ n = some ty → Γ' n = some ty) {i : DisplayItem}
    (h : i.Typed Γ) : i.Typed Γ' := by
  cases i with
  | expr e => exact Expr.Typed.mono hΓ e h
  | named name =>
    obtain ⟨ty, hn, hty⟩ := h
    exact ⟨ty, hΓ name ty hn, hty⟩
  | literal raw => trivial

theorem Action.Typed.mono (hΓ : ∀ n ty, Γ n = some ty → Γ' n = some ty) {a : Action}
    (h : a.Typed Γ) : a.Typed Γ' := by
  cases a with
  | declare | declareArray =>
    obtain ⟨p, hp, h⟩ := h
    exact ⟨p, hp, fun e he => ⟨Expr.Typed.mono hΓ e (h e he).1, (h e he).2⟩⟩
  | assign name op value =>
    obtain ⟨ty, hn, hty, hv, h⟩ := h
    exact ⟨ty, hΓ name ty hn, hty, Expr.Typed.mono hΓ value hv, h⟩
  | display | displayAll => exact fun i hi => (h i hi).mono hΓ
  | input name =>
    obtain ⟨p, hn⟩ := h
    exact ⟨p, hΓ name _ hn⟩
  | assignArray name value | push name value =>
    obtain ⟨p, hn, hv, h⟩ := h
    exact ⟨p, hΓ name _ hn, Expr.Typed.mono hΓ value hv, h⟩
  | assignElement name idx _ value | set name idx value =>
    obtain ⟨p, hn, hi, hv, h⟩ := h
    exact ⟨p, hΓ name _ hn, ⟨Expr.Typed.mono hΓ idx hi.1, hi.2⟩, Expr.Typed.mono hΓ value hv, h⟩
  | inputElement name idx =>
    obtain ⟨p, hn, hi, h⟩ := h
    exact ⟨p, hΓ name _ hn, Expr.Typed.mono hΓ idx hi, h⟩
  | evaluate e => exact Expr.Typed.mono hΓ e h

/-! ## The check of actions -/

theorem judge_clean_iff {before found : List Problem} {ty : Ty} :
    judge before ty found = [] ↔ before = [] ∧ (ty ≠ .unknown → found = []) := by
  rw [judge, ne_eq, ← Ty.isUnknown_iff]
  by_cases hb : before = []
  · cases hu : ty.isUnknown <;> simp [hb]
  · simp [hb]

theorem accepts_clean {target source : Ty} {problem : Problem}
    (h : (if target.accepts source = true then [] else [problem]) = []) :
    target.accepts source = true := by
  by_cases ha : target.accepts source = true
  · exact ha
  · simp [ha] at h

theorem assignProblems_clean {target source : Ty} {name : String} {op : AssignOp}
    (h : assignProblems target name op source = []) : op.Fits target source := by
  cases op with
  | plain => exact accepts_clean h
  | compound op =>
    by_cases ht : target = .number
    · by_cases hs : source = .number
      · exact ⟨ht, hs⟩
      · simp [assignProblems, ht, hs] at h
    · simp [assignProblems, ht] at h

theorem elementProblems_clean {elem : Primitive} {source : Ty} {op : AssignOp}
    (h : elementProblems elem op source = []) : op.FitsElement elem source := by
  cases op with
  | plain => exact accepts_clean h
  | compound op =>
    cases op with
    | add =>
      cases elem with
      | sentence => exact .inl ⟨rfl, rfl⟩
      | number => exact .inr ⟨rfl, by simpa [elementProblems] using h⟩
      | letter | logic => cases h
    | sub | mul | div | mod =>
      by_cases he : elem = .number
      · by_cases hs : source = .number
        · exact .inr ⟨he, hs⟩
        · simp [elementProblems, he, hs] at h
      · simp [elementProblems, he] at h

theorem arrayInitProblems_clean {elem : Primitive} {ty : Ty} (h : arrayInitProblems elem ty = []) :
    ty = .array elem := by
  cases ty with
  | array found =>
    simp only [arrayInitProblems, Ty.element?, ite_eq_left_iff, reduceCtorEq, imp_false,
      Decidable.not_not] at h
    rw [h]
  | scalar | unknown => cases h

theorem arrayAssignProblems_clean {target source : Ty} (h : arrayAssignProblems target source = []) :
    source = target := by
  by_cases hs : source = target
  · exact hs
  · unfold arrayAssignProblems at h
    split at h
    · cases h
    · simp at h

theorem DisplayItem.check_typed (ht : t.Known) {form : DisplayForm} {i : DisplayItem}
    (h : (i.check t form).2 = []) : (i.check t form).1.Typed t.lookup? := by
  cases i with
  | expr e => exact Expr.check_typed ht none e h
  | named name =>
    unfold DisplayItem.check at h ⊢
    cases hf : t.find? name with
    | none => simp [hf] at h
    | some d =>
      have hn : t.lookup? name = some d.ty := by rw [ScopeTree.lookup?, hf, Option.map_some]
      exact ⟨d.ty, hn, ht name d.ty hn⟩
  | literal raw => trivial

/-! What each check finds out about the parts of an action that it accepts. -/

section
variable {name : String} {value idx : Expr} {init : Option Expr}

theorem checkDeclare_clean {ty : String} (h : (checkDeclare t ty name init).problems = []) :
    ∃ p, Primitive.ofName? ty = some p ∧ ∀ e ∈ init, (e.check t none).problems = [] ∧
      ((e.check t none).ty ≠ .unknown → (Ty.scalar p).accepts (e.check t none).ty = true) := by
  unfold checkDeclare at h
  cases hp : Primitive.ofName? ty with
  | none => rw [hp] at h; cases h
  | some p =>
    rw [hp] at h
    refine ⟨p, rfl, fun e he => ?_⟩
    cases he
    obtain ⟨hbefore, hfound⟩ := judge_clean_iff.mp h
    exact ⟨(List.append_eq_nil_iff.mp hbefore).2, fun hty => accepts_clean (hfound hty)⟩

theorem checkDeclareArray_clean {elem : String}
    (h : (checkDeclareArray t elem name init).problems = []) :
    ∃ p, Primitive.ofName? elem = some p ∧ ∀ e ∈ init, (e.check t (some p)).problems = [] ∧
      ((e.check t (some p)).ty ≠ .unknown → (e.check t (some p)).ty = .array p) := by
  unfold checkDeclareArray at h
  cases hp : Primitive.ofName? elem with
  | none => rw [hp] at h; cases h
  | some p =>
    rw [hp] at h
    refine ⟨p, rfl, fun e he => ?_⟩
    cases he
    obtain ⟨hbefore, hfound⟩ := judge_clean_iff.mp h
    exact ⟨(List.append_eq_nil_iff.mp hbefore).2, fun hty => arrayInitProblems_clean (hfound hty)⟩

theorem checkAssign_clean {op : AssignOp} (h : (checkAssign t name op value).problems = []) :
    ∃ target, t.lookup? name = some target ∧ (value.check t none).problems = [] ∧
      ((value.check t none).ty ≠ .unknown → op.Fits target (value.check t none).ty) := by
  unfold checkAssign at h
  cases hn : t.lookup? name with
  | none => rw [hn] at h; cases h
  | some target =>
    rw [hn] at h
    obtain ⟨hbefore, hfound⟩ := judge_clean_iff.mp h
    exact ⟨target, rfl, hbefore, fun hty => assignProblems_clean (hfound hty)⟩

theorem checkAssignArray_clean (h : (checkAssignArray t name value).problems = []) :
    ∃ p, t.lookup? name = some (.array p) ∧ (value.check t (some p)).problems = [] ∧
      ((value.check t (some p)).ty ≠ .unknown → (value.check t (some p)).ty = .array p) := by
  unfold checkAssignArray at h
  cases hn : t.lookup? name with
  | none => rw [hn] at h; cases h
  | some target =>
    rw [hn] at h
    cases target with
    | array p =>
      obtain ⟨hbefore, hfound⟩ := judge_clean_iff.mp h
      exact ⟨p, rfl, hbefore, fun hty => arrayAssignProblems_clean (hfound hty)⟩
    | scalar | unknown => cases h

theorem checkElement_clean {build : Expr → Expr → Action} {found : Primitive → Ty → List Problem}
    (h : (checkElement t name idx value build found).problems = []) :
    ∃ p used, t.useArray name = (some p, used) ∧ t.lookup? name = some (.array p) ∧
      ((idx.check t none).problems = [] ∧ indexProblems (idx.check t none).ty = []) ∧
      (value.check t none).problems = [] ∧
      ((value.check t none).ty ≠ .unknown → found p (value.check t none).ty = []) := by
  unfold checkElement at h
  rcases t.useArray_cases name with ⟨p, used, hu, hn⟩ | ⟨problems, hu, hne⟩
  · rw [hu] at h
    obtain ⟨hbefore, hfound⟩ := judge_clean_iff.mp h
    obtain ⟨⟨⟨-, hi⟩, hidx⟩, hv⟩ : ((_ ∧ _) ∧ _) ∧ _ := by
      simpa only [List.append_eq_nil_iff] using hbefore
    exact ⟨p, used, hu, hn, ⟨hi, hidx⟩, hv, hfound⟩
  · rw [hu] at h
    exact absurd h hne

theorem checkInputElement_clean (h : (checkInputElement t name idx).problems = []) :
    ∃ p used, t.useArray name = (some p, used) ∧ t.lookup? name = some (.array p) ∧
      (idx.check t none).problems = [] ∧ indexProblems (idx.check t none).ty = [] := by
  unfold checkInputElement at h
  rcases t.useArray_cases name with ⟨p, used, hu, hn⟩ | ⟨problems, hu, hne⟩
  · rw [hu] at h
    obtain ⟨⟨-, hi⟩, hidx⟩ : (_ ∧ _) ∧ _ := by
      simpa only [CheckedAction.unchanged, List.append_eq_nil_iff] using h
    exact ⟨p, used, hu, hn, hi, hidx⟩
  · rw [hu] at h
    exact absurd h hne

theorem checkPush_clean (h : (checkPush t name value).problems = []) :
    ∃ p used, t.useArray name = (some p, used) ∧ t.lookup? name = some (.array p) ∧
      (value.check t none).problems = [] ∧
      ((value.check t none).ty ≠ .unknown → (Ty.scalar p).accepts (value.check t none).ty = true) := by
  unfold checkPush at h
  rcases t.useArray_cases name with ⟨p, used, hu, hn⟩ | ⟨problems, hu, hne⟩
  · rw [hu] at h
    obtain ⟨hbefore, hfound⟩ := judge_clean_iff.mp h
    exact ⟨p, used, hu, hn, (List.append_eq_nil_iff.mp hbefore).2,
      fun hty => accepts_clean (hfound hty)⟩
  · rw [hu] at h
    exact absurd h hne

end

theorem checkElement_typed (ht : t.Known) {name : String} {idx value : Expr}
    {build : Expr → Expr → Action} {found : Primitive → Ty → List Problem}
    (h : (checkElement t name idx value build found).problems = []) :
    ∃ p i v, (checkElement t name idx value build found).result = build i v ∧
      t.lookup? name = some (.array p) ∧ (i.Typed t.lookup? ∧ i.ty = .number) ∧
      v.Typed t.lookup? ∧ found p v.ty = [] := by
  obtain ⟨p, used, hu, hn, ⟨hi, hidx⟩, hv, hfound⟩ := checkElement_clean h
  have hit := Expr.check_typed ht none idx hi
  have hvt := Expr.check_typed ht none value hv
  rw [checkElement, hu]
  exact ⟨p, _, _, rfl, hn, ⟨hit, indexProblems_clean hidx hit.known⟩, hvt, hfound hvt.known⟩

/-- What a check accepts is typed in the context of the scopes. -/
theorem Action.check_typed (ht : t.Known) {a : Action} (h : (a.check t).problems = []) :
    (a.check t).result.Typed t.lookup? := by
  cases a with
  | declare ty name init =>
    simp only [check] at h ⊢
    have hclean := checkDeclare_clean h
    -- The result is named, since taking `hclean` apart would evaluate it in the goal.
    generalize hr : (checkDeclare t ty name init).result = a
    obtain ⟨p, hp⟩ := hclean
    rw [checkDeclare, hp.1] at hr
    subst hr
    cases init with
    | none => exact ⟨p, hp.1, by simp⟩
    | some e =>
      obtain ⟨hclean, hfits⟩ := hp.2 e rfl
      have he := Expr.check_typed ht none e hclean
      refine ⟨p, hp.1, fun e' he' => ?_⟩
      cases he'
      exact ⟨he, hfits he.known⟩
  | assign name op value =>
    simp only [check] at h ⊢
    obtain ⟨target, hn, hclean, hfits⟩ := checkAssign_clean h
    have hv := Expr.check_typed ht none value hclean
    rw [checkAssign, hn]
    exact ⟨target, hn, ht name target hn, hv, hfits hv.known⟩
  | display item newline =>
    cases item with
    | none => cases h
    | some item =>
      intro i hi
      cases hi
      exact DisplayItem.check_typed ht h
  | displayAll items newline =>
    intro i hi
    simp only [check, CheckedAction.unchanged, List.append_eq_nil_iff, List.flatMap_eq_nil_iff] at h
    obtain ⟨c, hc, rfl⟩ := List.mem_map.mp hi
    obtain ⟨item, hitem, rfl⟩ := List.mem_map.mp hc
    exact DisplayItem.check_typed ht (h.2 _ (List.mem_map_of_mem hitem))
  | input name =>
    simp only [check, CheckedAction.ifClean, inputProblems] at h
    cases hn : t.lookup? name with
    | none => rw [hn] at h; cases h
    | some ty =>
      rw [hn] at h
      cases ty with
      | scalar p => exact ⟨p, hn⟩
      | array => cases h
      | unknown => exact absurd rfl (ht name _ hn)
  | declareArray elem name init =>
    simp only [check] at h ⊢
    have hclean := checkDeclareArray_clean h
    generalize hr : (checkDeclareArray t elem name init).result = a
    obtain ⟨p, hp⟩ := hclean
    rw [checkDeclareArray, hp.1] at hr
    subst hr
    cases init with
    | none => exact ⟨p, hp.1, by simp⟩
    | some e =>
      obtain ⟨hclean, hfits⟩ := hp.2 e rfl
      have he := Expr.check_typed ht (some p) e hclean
      refine ⟨p, hp.1, fun e' he' => ?_⟩
      cases he'
      exact ⟨he, hfits he.known⟩
  | assignArray name value =>
    simp only [check] at h ⊢
    obtain ⟨p, hn, hclean, hfits⟩ := checkAssignArray_clean h
    have hv := Expr.check_typed ht (some p) value hclean
    rw [checkAssignArray, hn]
    exact ⟨p, hn, hv, hfits hv.known⟩
  | assignElement name idx op value =>
    obtain ⟨p, i, v, hr, hn, hi, hv, hfound⟩ := checkElement_typed ht h
    rw [check, hr]
    exact ⟨p, hn, hi, hv, elementProblems_clean hfound⟩
  | set name idx value =>
    obtain ⟨p, i, v, hr, hn, hi, hv, hfound⟩ := checkElement_typed ht h
    rw [check, hr]
    exact ⟨p, hn, hi, hv, accepts_clean hfound⟩
  | inputElement name idx =>
    simp only [check] at h ⊢
    obtain ⟨p, used, hu, hn, hclean, hidx⟩ := checkInputElement_clean h
    have hi := Expr.check_typed ht none idx hclean
    rw [checkInputElement, hu]
    exact ⟨p, hn, hi, indexProblems_clean hidx hi.known⟩
  | push name value =>
    simp only [check] at h ⊢
    obtain ⟨p, used, hu, hn, hclean, hfits⟩ := checkPush_clean h
    have hv := Expr.check_typed ht none value hclean
    rw [checkPush, hu]
    exact ⟨p, hn, hv, hfits hv.known⟩
  | evaluate e => exact Expr.check_typed ht none e h

/-! The check writes types on the expressions of an action and leaves the rest as it is. -/

namespace Action

/-- An action without its expressions. -/
def bare : Action → Action
  | .declare ty name _ => .declare ty name none
  | .assign name op _ => .assign name op (.lit .unknown "")
  | .display _ newline => .display none newline
  | .displayAll _ newline => .displayAll [] newline
  | .input name => .input name
  | .declareArray elem name _ => .declareArray elem name none
  | .assignArray name _ => .assignArray name (.lit .unknown "")
  | .assignElement name _ op _ => .assignElement name (.lit .unknown "") op (.lit .unknown "")
  | .inputElement name _ => .inputElement name (.lit .unknown "")
  | .push name _ => .push name (.lit .unknown "")
  | .set name _ _ => .set name (.lit .unknown "") (.lit .unknown "")
  | .evaluate _ => .evaluate (.lit .unknown "")

theorem check_bare (t : ScopeTree) (a : Action) : (a.check t).result.bare = a.bare := by
  cases a with
  | declare ty name init =>
    simp only [check, checkDeclare]
    cases hp : Primitive.ofName? ty with
    | none => rfl
    | some p => cases init <;> rfl
  | declareArray elem name init =>
    simp only [check, checkDeclareArray]
    cases hp : Primitive.ofName? elem with
    | none => rfl
    | some p => cases init <;> rfl
  | assign name op value =>
    simp only [check, checkAssign]
    split <;> rfl
  | display item newline => cases item <;> rfl
  | assignArray name value =>
    simp only [check, checkAssignArray]
    repeat' split
    all_goals rfl
  | assignElement | set =>
    simp only [check, checkElement]
    split <;> rfl
  | inputElement name idx =>
    simp only [check, checkInputElement]
    split <;> rfl
  | push name value =>
    simp only [check, checkPush]
    split <;> rfl
  | displayAll | input | evaluate => rfl

theorem adds_bare (a : Action) : a.bare.adds = a.adds := by
  cases a <;> rfl

theorem check_adds (t : ScopeTree) (a : Action) : (a.check t).result.adds = a.adds := by
  rw [← adds_bare, check_bare, adds_bare]

end Action

end Primer
