import Primer.Proofs.Reports

/-!
# Programs without types

A check reads no type that an earlier check wrote: it finds in an accepted program what it finds in
the program without types, and it changes nothing else in a program.
-/

namespace Primer

open Check

/-! ## Erasure -/

namespace Expr

mutual
/-- The expression without the types of a check. -/
def erase : Expr → Expr
  | lit _ raw => lit .unknown raw
  | var _ name => var .unknown name
  | binary _ op left right => binary .unknown op (erase left) (erase right)
  | unary _ op operand => unary .unknown op (erase operand)
  | step _ name op fixity => step .unknown name op fixity
  | arrayOf _ elems => arrayOf .unknown (eraseAll elems)
  | newArray _ elem size => newArray .unknown elem (erase size)
  | index _ name idx => index .unknown name (erase idx)
  | length _ name => length .unknown name
  | pop _ name => pop .unknown name

def eraseAll : List Expr → List Expr
  | [] => []
  | e :: rest => erase e :: eraseAll rest
end

end Expr

def DisplayItem.erase : DisplayItem → DisplayItem
  | .expr e => .expr e.erase
  | .named name => .named name
  | .literal raw => .literal raw

def Action.erase : Action → Action
  | .declare ty name init => .declare ty name (init.map Expr.erase)
  | .assign name op value => .assign name op value.erase
  | .display item newline => .display (item.map DisplayItem.erase) newline
  | .displayAll items newline => .displayAll (items.map DisplayItem.erase) newline
  | .input name => .input name
  | .declareArray elem name init => .declareArray elem name (init.map Expr.erase)
  | .assignArray name value => .assignArray name value.erase
  | .assignElement name idx op value => .assignElement name idx.erase op value.erase
  | .inputElement name idx => .inputElement name idx.erase
  | .push name value => .push name value.erase
  | .set name idx value => .set name idx.erase value.erase
  | .evaluate e => .evaluate e.erase

namespace Stmt

mutual
/-- The statement without the types of a check. -/
def erase : Stmt → Stmt
  | action line a => action line a.erase
  | jump line j => jump line j
  | branch line cond body elseIfs otherwise =>
    branch line cond.erase (eraseAll body) (eraseArms elseIfs) (eraseBody otherwise)
  | loop line init cond update body =>
    loop line (eraseOf init) cond.erase (eraseOf update) (eraseAll body)
  | doWhile line body cond => doWhile line (eraseAll body) cond.erase
  | switch line scrutinee cases fallback =>
    switch line scrutinee.erase (eraseArms cases) (eraseBody fallback)

def eraseOf : Option Stmt → Option Stmt
  | none => none
  | some s => some (erase s)

def eraseAll : List Stmt → List Stmt
  | [] => []
  | s :: rest => erase s :: eraseAll rest

def eraseArms : List (Expr × List Stmt) → List (Expr × List Stmt)
  | [] => []
  | (e, body) :: rest => (e.erase, eraseAll body) :: eraseArms rest

def eraseBody : Option (List Stmt) → Option (List Stmt)
  | none => none
  | some body => some (eraseAll body)
end

end Stmt

/-- The program without the types of a check. -/
def Program.erased (p : Program) : Program := ⟨Stmt.eraseAll p.stmts⟩

/-! ## The check writes types only -/

namespace Expr

variable (t : ScopeTree)

mutual
theorem erase_check : (hint : Option Primitive) → (e : Expr) →
    (e.check t hint).result.erase = e.erase
  | _, .lit _ raw => by
      rw [check]
      split <;> simp only [erase]
  | _, .var _ _ => by simp only [check, erase]
  | _, .binary _ op left right => by
      rw [check]
      split <;> simp only [erase, erase_check none left, erase_check none right]
  | _, .unary _ op operand => by
      rw [check]
      split <;> simp only [erase, erase_check none operand]
  | _, .step _ _ _ _ => by
      rw [check]
      split <;> simp only [erase]
  | hint, .arrayOf _ elems => by
      rw [check, CheckedElems.literal]
      split <;> simp only [erase, eraseAll_check none elems]
  | _, .newArray _ _ size => by simp only [check, erase, erase_check none size]
  | _, .index _ name idx => by
      rw [check]
      split <;> simp only [erase, erase_check none idx]
  | _, .length _ _ => by
      rw [check]
      split <;> simp only [erase]
  | _, .pop _ _ => by
      rw [check]
      split <;> simp only [erase]

theorem eraseAll_check : (first : Option Ty) → (es : List Expr) →
    eraseAll (checkElems t first es).elems = eraseAll es
  | _, [] => by simp only [checkElems]
  | first, e :: rest => by
      have he := erase_check none e
      simp only [checkElems]
      repeat' split
      all_goals simp only [CheckedElems.cons, eraseAll, he, eraseAll_check _ rest]
end

end Expr

theorem DisplayItem.erase_check (t : ScopeTree) (form : DisplayForm) (i : DisplayItem) :
    (i.check t form).1.erase = i.erase := by
  cases i with
  | expr e => simp only [check, erase, Expr.erase_check]
  | named | literal => rfl

theorem Action.erase_check (t : ScopeTree) (a : Action) : (a.check t).result.erase = a.erase := by
  cases a with
  | declare ty name init =>
    simp only [check, checkDeclare]
    cases Primitive.ofName? ty with
    | none => rfl
    | some p =>
      cases init with
      | none => rfl
      | some e => simp [CheckedAction.ifClean, erase, Expr.erase_check]
  | declareArray elem name init =>
    simp only [check, checkDeclareArray]
    cases Primitive.ofName? elem with
    | none => rfl
    | some p =>
      cases init with
      | none => rfl
      | some e => simp [CheckedAction.ifClean, erase, Expr.erase_check]
  | assign name op value =>
    simp only [check, checkAssign]
    split <;> simp [CheckedAction.unchanged, CheckedAction.ifClean, erase, Expr.erase_check]
  | display item newline =>
    cases item <;> simp [check, CheckedAction.unchanged, erase, DisplayItem.erase_check]
  | displayAll items newline =>
    simp [check, CheckedAction.unchanged, erase, Function.comp_def, DisplayItem.erase_check]
  | input name => rfl
  | assignArray name value =>
    simp only [check, checkAssignArray]
    repeat' split
    all_goals simp [CheckedAction.unchanged, CheckedAction.ifClean, erase, Expr.erase_check]
  | assignElement | set =>
    simp only [check, checkElement]
    split <;> simp [CheckedAction.unchanged, erase, Expr.erase_check]
  | inputElement name idx =>
    simp only [check, checkInputElement]
    split <;> simp [CheckedAction.unchanged, erase, Expr.erase_check]
  | push name value =>
    simp only [check, checkPush]
    split <;> simp [CheckedAction.unchanged, erase, Expr.erase_check]
  | evaluate e => simp [check, CheckedAction.unchanged, erase, Expr.erase_check]

namespace Stmt

mutual
theorem erase_check : (s : Stmt) → (t : ScopeTree) → (output s.check t).erase = s.erase
  | .action _ a, t => by
      simp only [check, output_onLine, output_bind, output_action, output_pure, erase,
        a.erase_check]
  | .jump _ _, t => by
      simp only [check, output_onLine, output_bind, output_pure, erase]
  | .branch _ cond body elseIfs otherwise, t => by
      simp only [check, output_onLine, output_bind, output_condition, output_inScope, output_pure,
        erase, cond.erase_check, eraseAll_check body, eraseArms_checkElseIfs elseIfs,
        eraseBody_check _ otherwise]
  | .loop _ init cond update body, t => by
      simp only [check, output_onLine, output_bind, output_condition, output_inScope, output_pure,
        erase, cond.erase_check, eraseOf_check init, eraseOf_check update, eraseAll_check body]
  | .doWhile _ body cond, t => by
      simp only [check, output_onLine, output_bind, output_condition, output_inScope, output_pure,
        erase, cond.erase_check, eraseAll_check body]
  | .switch _ scrutinee cases fallback, t => by
      simp only [check_switch, output_onLine, output_bind, output_expr, output_inScope, output_pure,
        erase, scrutinee.erase_check, eraseArms_checkCases _ cases, eraseBody_check _ fallback]

theorem eraseOf_check : (s : Option Stmt) → (t : ScopeTree) →
    eraseOf (output (checkOption s) t) = eraseOf s
  | none, t => by simp only [checkOption, output_pure]
  | some s, t => by simp only [checkOption, output_bind, output_pure, eraseOf, erase_check s]

theorem eraseAll_check : (body : List Stmt) → (t : ScopeTree) →
    eraseAll (output (checkAll body) t) = eraseAll body
  | [], t => by simp only [checkAll, output_pure]
  | s :: rest, t => by
      simp only [checkAll, output_bind, output_pure, eraseAll, erase_check s, eraseAll_check rest]

theorem eraseArms_checkElseIfs : (arms : List (Expr × List Stmt)) → (t : ScopeTree) →
    eraseArms (output (checkElseIfs arms) t) = eraseArms arms
  | [], t => by simp only [checkElseIfs, output_pure]
  | (cond, body) :: rest, t => by
      simp only [checkElseIfs, output_bind, output_condition, output_inScope, output_pure, eraseArms,
        cond.erase_check, eraseAll_check body, eraseArms_checkElseIfs rest]

theorem eraseArms_checkCases (switched : Ty) : (cases : List (Expr × List Stmt)) →
    (t : ScopeTree) → eraseArms (output (checkCases switched cases) t) = eraseArms cases
  | [], t => by simp only [checkCases, output_pure]
  | (value, body) :: rest, t => by
      simp only [checkCases, output_bind, output_expr, output_inScope, output_pure, eraseArms,
        value.erase_check, eraseAll_check body, eraseArms_checkCases switched rest]

theorem eraseBody_check (kind : ScopeKind) : (body : Option (List Stmt)) → (t : ScopeTree) →
    eraseBody (output (checkBody kind body) t) = eraseBody body
  | none, t => by simp only [checkBody, output_pure]
  | some body, t => by
      simp only [checkBody, output_bind, output_inScope, output_pure, eraseBody, eraseAll_check body]
end

end Stmt

theorem Program.annotated_erased (p : Program) : p.annotated.erased = p.erased := by
  rw [annotated_eq, erased, Stmt.eraseAll_check, erased]

/-! ## The check reads no types -/

namespace Expr

variable (t : ScopeTree)

mutual
theorem check_erase : (hint : Option Primitive) → (e : Expr) →
    (e.check t hint).problems = [] → e.erase.check t hint = e.check t hint
  | _, .lit _ raw | _, .var _ _ | _, .step _ _ _ _ | _, .length _ _ | _, .pop _ _ => by
      intro _
      simp only [erase, check]
  | _, .binary _ op left right => by
      intro h
      have hbelow : (left.check t none).problems = [] ∧ (right.check t none).problems = [] := by
        rw [check] at h
        split at h
        · next hty =>
          rw [Bool.and_eq_true, Checked.isTyped_iff, Checked.isTyped_iff] at hty
          exact ⟨hty.1.1, hty.2.1⟩
        · exact List.append_eq_nil_iff.mp h
      simp only [erase, check, check_erase none left hbelow.1, check_erase none right hbelow.2]
  | _, .unary _ op operand => by
      intro h
      have hbelow : (operand.check t none).problems = [] := by
        rw [check] at h
        split at h
        · next hty => exact (Checked.isTyped_iff.mp hty).1
        · exact h
      simp only [erase, check, check_erase none operand hbelow]
  | hint, .arrayOf _ elems => by
      intro h
      rw [check] at h
      simp only [erase, check, checkElems_erase none elems (literal_clean h)]
  | _, .newArray _ elem size => by
      intro h
      have hbelow : (size.check t none).problems = [] := by
        simp only [check, List.append_eq_nil_iff] at h
        exact h.1.2
      simp only [erase, check, check_erase none size hbelow]
  | _, .index _ name idx => by
      intro h
      rw [check] at h
      rcases t.useArray_cases name with ⟨p, used, hu, -⟩ | ⟨problems, hu, hne⟩
      · rw [hu] at h
        simp only [List.append_eq_nil_iff] at h
        simp only [erase, check, hu, check_erase none idx h.1.2]
      · rw [hu] at h
        exact absurd h hne

theorem checkElems_erase : (first : Option Ty) → (es : List Expr) →
    (checkElems t first es).problems = [] →
    checkElems t first (eraseAll es) = checkElems t first es
  | _, [] => by
      intro _
      simp only [eraseAll]
  | first, e :: rest => by
      intro h
      have he := check_erase none e (checkElems_head h)
      have hrest : ∀ first', (checkElems t first' rest).problems = [] →
          checkElems t first' (eraseAll rest) = checkElems t first' rest :=
        fun first' => checkElems_erase first' rest
      simp only [eraseAll, checkElems, he] at h ⊢
      split
      · next hu =>
        rw [if_pos hu] at h
        rw [hrest _ (List.append_eq_nil_iff.mp h).2]
      · next hu =>
        rw [if_neg hu] at h
        cases first with
        | none => rw [hrest _ (List.append_eq_nil_iff.mp h).2]
        | some expected =>
          by_cases heq : expected = (e.check t none).ty
          · simp only [heq, if_true] at h ⊢
            rw [hrest _ (List.append_eq_nil_iff.mp h).2]
          · simp only [heq, if_false, List.append_eq_nil_iff] at h
            exact nomatch h.2
end

end Expr

theorem DisplayItem.check_erase {t : ScopeTree} {form : DisplayForm} {i : DisplayItem}
    (h : (i.check t form).2 = []) : i.erase.check t form = i.check t form := by
  cases i with
  | expr e => simp only [erase, check, e.check_erase t none h]
  | named | literal => rfl

theorem Action.check_erase {t : ScopeTree} {a : Action} (h : (a.check t).problems = []) :
    a.erase.check t = a.check t := by
  cases a with
  | declare ty name init =>
    cases init with
    | none => rfl
    | some e =>
      simp only [erase, Option.map_some, check] at h ⊢
      obtain ⟨p, hp, hinit⟩ := checkDeclare_clean h
      simp only [checkDeclare, hp, e.check_erase t none (hinit e rfl).1, Option.isSome_some]
  | declareArray elem name init =>
    cases init with
    | none => rfl
    | some e =>
      simp only [erase, Option.map_some, check] at h ⊢
      obtain ⟨p, hp, hinit⟩ := checkDeclareArray_clean h
      simp only [checkDeclareArray, hp, e.check_erase t (some p) (hinit e rfl).1, Option.isSome_some]
  | assign name op value =>
    simp only [erase, check] at h ⊢
    obtain ⟨target, hn, hv, -⟩ := checkAssign_clean h
    simp only [checkAssign, hn, value.check_erase t none hv]
  | display item newline =>
    cases item with
    | none => rfl
    | some item => simp only [erase, Option.map_some, check, DisplayItem.check_erase h]
  | displayAll items newline =>
    have hitems : (items.map DisplayItem.erase).map (·.check t .multi) = items.map (·.check t .multi) := by
      simp only [check, CheckedAction.unchanged, List.append_eq_nil_iff, List.flatMap_eq_nil_iff] at h
      simp only [List.map_map, List.map_inj_left]
      intro i hi
      exact DisplayItem.check_erase (h.2 _ (List.mem_map_of_mem hi))
    simp only [erase, check, hitems, List.isEmpty_map]
  | input name => rfl
  | assignArray name value =>
    simp only [erase, check] at h ⊢
    obtain ⟨p, hn, hv, -⟩ := checkAssignArray_clean h
    simp only [checkAssignArray, hn, Ty.element?, value.check_erase t (some p) hv]
  | assignElement name idx op value | set name idx value =>
    simp only [erase, check] at h ⊢
    obtain ⟨p, used, hu, -, hi, hv, -⟩ := checkElement_clean h
    simp only [checkElement, hu, idx.check_erase t none hi.1, value.check_erase t none hv]
  | inputElement name idx =>
    simp only [erase, check] at h ⊢
    obtain ⟨p, used, hu, -, hi, -⟩ := checkInputElement_clean h
    simp only [checkInputElement, hu, idx.check_erase t none hi]
  | push name value =>
    simp only [erase, check] at h ⊢
    obtain ⟨p, used, hu, -, hv, -⟩ := checkPush_clean h
    simp only [checkPush, hu, value.check_erase t none hv]
  | evaluate e => simp only [erase, check, e.check_erase t none h]

/-- The second check accepts the scopes and does what the first one does. -/
structure Check.Agrees {α : Type} (x y : Check α) (t : ScopeTree) : Prop where
  accepts : Accepts y t
  output : output y t = output x t
  after : after y t = after x t

namespace Stmt

@[simp] theorem eraseArms_nil {arms : List (Expr × List Stmt)} : eraseArms arms = [] ↔ arms = [] := by
  cases arms <;> simp [eraseArms]

@[simp] theorem eraseBody_none {body : Option (List Stmt)} : eraseBody body = none ↔ body = none := by
  cases body <;> simp [eraseBody]

mutual
theorem check_erase : (s : Stmt) → (t : ScopeTree) → Accepts s.check t →
    Agrees s.check s.erase.check t
  | .action _ a, t => by
      intro h
      simp only [check, accepts_onLine, accepts_bind, accepts_action, accepts_pure, and_true] at h
      constructor <;> simp [check, erase, a.check_erase h, h]
  | .jump _ j, t => by
      intro h
      exact ⟨h, rfl, rfl⟩
  | .branch _ cond body elseIfs otherwise, t => by
      intro h
      simp only [check, accepts_onLine, accepts_bind, accepts_condition, accepts_inScope,
        after_condition, after_inScope, accepts_pure, and_true] at h
      obtain ⟨hcond, hbody, helse, hother⟩ := h
      have hc := cond.check_erase t none hcond.1
      obtain ⟨hb, hbo, hba⟩ := checkAll_erase body _ hbody
      obtain ⟨he, heo, hea⟩ := checkElseIfs_erase elseIfs _ helse
      obtain ⟨ho, hoo, hoa⟩ := checkBody_erase _ otherwise _ hother
      constructor <;> simp [check, erase, hc, hcond, hb, hbo, hba, he, heo, hea, ho, hoo, hoa]
  | .loop _ init cond update body, t => by
      intro h
      simp only [check, accepts_onLine, accepts_bind, accepts_condition, accepts_inScope,
        after_condition, accepts_pure, and_true] at h
      obtain ⟨hinit, hcond, hupdate, hbody⟩ := h
      obtain ⟨hi, hio, hia⟩ := checkOption_erase init _ hinit
      have hc := cond.check_erase _ none hcond.1
      obtain ⟨hu, huo, hua⟩ := checkOption_erase update _ hupdate
      obtain ⟨hb, hbo, hba⟩ := checkAll_erase body _ hbody
      constructor <;> simp [check, erase, hi, hio, hia, hc, hcond, hu, huo, hua, hb, hbo, hba]
  | .doWhile _ body cond, t => by
      intro h
      simp only [check, accepts_onLine, accepts_bind, accepts_condition, accepts_inScope,
        after_inScope, accepts_pure, and_true] at h
      obtain ⟨hbody, hcond⟩ := h
      obtain ⟨hb, hbo, hba⟩ := checkAll_erase body _ hbody
      have hc := cond.check_erase _ none hcond.1
      constructor <;> simp [check, erase, hb, hbo, hba, hc, hcond]
  | .switch _ scrutinee cases fallback, t => by
      intro h
      simp only [check_switch, accepts_onLine, accepts_bind, accepts_expr, accepts_report,
        accepts_inScope, after_expr, after_report, output_expr, accepts_pure, and_true] at h
      obtain ⟨hscrutinee, hempty, hcases, hfallback⟩ := h
      have hs := scrutinee.check_erase t none hscrutinee
      obtain ⟨hc, hco, hca⟩ := checkCases_erase _ cases _ hcases
      obtain ⟨hf, hfo, hfa⟩ := checkBody_erase _ fallback _ hfallback
      constructor
      · simpa [check_switch, erase, hs, hscrutinee, hc, hco, hca, hf] using hempty
      · simp [check_switch, erase, hs, hco, hca, hfo]
      · simp [check_switch, erase, hs, hco, hca, hfa]

theorem checkOption_erase : (s : Option Stmt) → (t : ScopeTree) → Accepts (checkOption s) t →
    Agrees (checkOption s) (checkOption (eraseOf s)) t
  | none, t => fun h => ⟨h, rfl, rfl⟩
  | some s, t => by
      intro h
      simp only [checkOption, accepts_bind, accepts_pure, and_true] at h
      obtain ⟨hs, hso, hsa⟩ := check_erase s t h
      constructor <;> simp [checkOption, eraseOf, hs, hso, hsa]

theorem checkAll_erase : (body : List Stmt) → (t : ScopeTree) → Accepts (checkAll body) t →
    Agrees (checkAll body) (checkAll (eraseAll body)) t
  | [], t => fun h => ⟨h, rfl, rfl⟩
  | s :: rest, t => by
      intro h
      simp only [checkAll, accepts_bind, accepts_pure, and_true] at h
      obtain ⟨hs, hso, hsa⟩ := check_erase s t h.1
      obtain ⟨hr, hro, hra⟩ := checkAll_erase rest _ h.2
      constructor <;> simp [checkAll, eraseAll, hs, hso, hsa, hr, hro, hra]

theorem checkElseIfs_erase : (arms : List (Expr × List Stmt)) → (t : ScopeTree) →
    Accepts (checkElseIfs arms) t → Agrees (checkElseIfs arms) (checkElseIfs (eraseArms arms)) t
  | [], t => fun h => ⟨h, rfl, rfl⟩
  | (cond, body) :: rest, t => by
      intro h
      simp only [checkElseIfs, accepts_bind, accepts_condition, accepts_inScope, after_condition,
        after_inScope, accepts_pure, and_true] at h
      obtain ⟨hcond, hbody, hrest⟩ := h
      have hc := cond.check_erase t none hcond.1
      obtain ⟨hb, hbo, hba⟩ := checkAll_erase body _ hbody
      obtain ⟨hr, hro, hra⟩ := checkElseIfs_erase rest _ hrest
      constructor <;> simp [checkElseIfs, eraseArms, hc, hcond, hb, hbo, hba, hr, hro, hra]

theorem checkCases_erase (switched : Ty) : (cases : List (Expr × List Stmt)) →
    (t : ScopeTree) → Accepts (checkCases switched cases) t →
    Agrees (checkCases switched cases) (checkCases switched (eraseArms cases)) t
  | [], t => fun h => ⟨h, rfl, rfl⟩
  | (value, body) :: rest, t => by
      intro h
      simp only [checkCases, accepts_bind, accepts_expr, accepts_report, accepts_inScope, after_expr,
        after_report, after_inScope, output_expr, accepts_pure, and_true] at h
      obtain ⟨hvalue, hfits, hbody, hrest⟩ := h
      have hv := value.check_erase t none hvalue
      obtain ⟨hb, hbo, hba⟩ := checkAll_erase body _ hbody
      obtain ⟨hr, hro, hra⟩ := checkCases_erase switched rest _ hrest
      constructor <;> simp [checkCases, eraseArms, hv, hvalue, hfits, hb, hbo, hba, hr, hro, hra]

theorem checkBody_erase (kind : ScopeKind) : (body : Option (List Stmt)) → (t : ScopeTree) →
    Accepts (checkBody kind body) t →
    Agrees (checkBody kind body) (checkBody kind (eraseBody body)) t
  | none, t => fun h => ⟨h, rfl, rfl⟩
  | some body, t => by
      intro h
      simp only [checkBody, accepts_bind, accepts_inScope, accepts_pure, and_true] at h
      obtain ⟨hb, hbo, hba⟩ := checkAll_erase body _ h
      constructor <;> simp [checkBody, eraseBody, hb, hbo, hba]
end

end Stmt

theorem Program.erased_annotated {p : Program} (h : p.diagnostics = []) :
    p.erased.annotated = p.annotated := by
  rw [annotated_eq, annotated_eq]
  exact congrArg Program.mk (Stmt.checkAll_erase p.stmts .start (p.accepts_iff.mp h)).output

end Primer
