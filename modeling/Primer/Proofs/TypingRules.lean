import Primer.Proofs.Annotations
import Primer.Proofs.LiteralForms

/-!
# The typing rules

The types of expressions as rules on the syntax, without regard to the order and the reports of the
check. The check of an expression accepts what has a type by the rules and finds this type.
-/

namespace Primer

variable {t : ScopeTree} {e : Expr} {ty : Ty}

/-! ## The rules -/

/-- Types such that a value of the second may stand where the first is expected. -/
inductive Ty.Compatible : Ty → Ty → Prop where
  | same (ty : Ty) : Compatible ty ty
  | letterAsNumber : Compatible .number (.scalar .letter)
  | letterAsSentence : Compatible (.scalar .sentence) (.scalar .letter)

/-- The typing rules of expressions. The types written on an expression do not count. -/
inductive Expr.HasType (t : ScopeTree) : Expr → Ty → Prop where
  | lit {was ty : Ty} {raw : String} :
      Literal.Form (Text.trim raw).toList ty → HasType t (.lit was raw) ty
  | var {was ty : Ty} {name : String} :
      t.find? name = some ⟨ty, true⟩ → HasType t (.var was name) ty
  | arith {was : Ty} {op : ArithOp} {left right : Expr} :
      HasType t left .number → HasType t right .number →
      HasType t (.binary was (.arith op) left right) .number
  | order {was : Ty} {op : OrderOp} {left right : Expr} :
      HasType t left .number → HasType t right .number →
      HasType t (.binary was (.order op) left right) .logic
  | logic {was : Ty} {op : LogicOp} {left right : Expr} :
      HasType t left .logic → HasType t right .logic →
      HasType t (.binary was (.logic op) left right) .logic
  | equality {was ty ty' : Ty} {op : BinaryOp} {left right : Expr} :
      op = .equal ∨ op = .notEqual → HasType t left ty → HasType t right ty' →
      ty.Compatible ty' ∨ ty'.Compatible ty → HasType t (.binary was op left right) .logic
  | not {was : Ty} {operand : Expr} :
      HasType t operand .logic → HasType t (.unary was .not operand) .logic
  | sign {was : Ty} {op : UnaryOp} {operand : Expr} :
      op = .plus ∨ op = .neg → HasType t operand .number → HasType t (.unary was op operand) .number
  | step {was : Ty} {name : String} {op : StepOp} {fixity : Fixity} :
      t.find? name = some ⟨.number, true⟩ → HasType t (.step was name op fixity) .number
  | arrayOf {was : Ty} {elems : List Expr} {p : Primitive} :
      elems ≠ [] → (∀ e ∈ elems, HasType t e (.scalar p)) → HasType t (.arrayOf was elems) (.array p)
  | newArray {was : Ty} {elem : String} {size : Expr} {p : Primitive} :
      Primitive.ofName? elem = some p → HasType t size .number →
      HasType t (.newArray was elem size) (.array p)
  | index {was : Ty} {name : String} {idx : Expr} {p : Primitive} :
      t.find? name = some ⟨.array p, true⟩ → HasType t idx .number →
      HasType t (.index was name idx) (.scalar p)
  | length {was : Ty} {name : String} {p : Primitive} :
      t.find? name = some ⟨.array p, true⟩ → HasType t (.length was name) .number
  | pop {was : Ty} {name : String} {p : Primitive} :
      t.find? name = some ⟨.array p, true⟩ → HasType t (.pop was name) (.scalar p)

/-! ## Names and operators -/

theorem Ty.accepts_iff {target source : Ty} :
    target.accepts source = true ↔ target.Compatible source := by
  constructor
  · intro h
    simp only [accepts, Bool.or_eq_true, beq_iff_eq] at h
    rcases h with rfl | h
    · exact .same _
    · split at h
      · exact .letterAsNumber
      · exact .letterAsSentence
      · cases h
  · intro h
    cases h with
    | same => simp [accepts]
    | letterAsNumber | letterAsSentence => rfl

theorem Ty.comparable_iff {left right : Ty} :
    left.comparable right = true ↔ left.Compatible right ∨ right.Compatible left := by
  rw [comparable, Bool.or_eq_true, accepts_iff, accepts_iff]

namespace ScopeTree

variable {name : String} {p : Primitive}

theorem use_clean_iff : (t.use name).2 = [] ∧ (t.use name).1 = ty ↔
    t.find? name = some ⟨ty, true⟩ := by
  unfold use
  cases t.find? name with
  | none => simp
  | some d =>
    obtain ⟨declared, initialized⟩ := d
    cases initialized <;> simp

theorem useArray_clean_iff : t.useArray name = (some p, []) ↔
    t.find? name = some ⟨.array p, true⟩ := by
  unfold useArray
  cases t.find? name with
  | none => simp
  | some d =>
    obtain ⟨declared, initialized⟩ := d
    cases declared <;> cases initialized <;> simp [Ty.element?]

end ScopeTree

/-! ## Operators -/

namespace BinaryOp

variable {l r : Ty}

theorem arith_clean {op : ArithOp} :
    (BinaryOp.arith op).operandProblems l r = [] ↔ l = .number ∧ r = .number := by
  simp [operandProblems]

theorem order_clean {op : OrderOp} :
    (BinaryOp.order op).operandProblems l r = [] ↔ l = .number ∧ r = .number := by
  simp [operandProblems]

theorem logic_clean {op : LogicOp} :
    (BinaryOp.logic op).operandProblems l r = [] ↔ l = .logic ∧ r = .logic := by
  simp [operandProblems]

theorem equality_clean {op : BinaryOp} (h : op = .equal ∨ op = .notEqual) :
    op.operandProblems l r = [] ↔ l.Compatible r ∨ r.Compatible l := by
  rcases h with rfl | rfl <;>
    simp only [operandProblems, ite_eq_left_iff, reduceCtorEq, imp_false, not_not,
      Ty.comparable_iff]

end BinaryOp

/-! ## The check of each form -/

namespace Expr

/-- An expression in which the check finds no problem, with the type it finds. -/
def Accepted (t : ScopeTree) (e : Expr) (ty : Ty) : Prop :=
  (e.check t none).problems = [] ∧ (e.check t none).ty = ty

theorem check_isKnown (ht : t.Known) (h : (e.check t none).problems = []) :
    ¬(e.check t none).ty.isUnknown = true :=
  fun hu => (check_typed ht none e h).known (Ty.isUnknown_iff.mp hu)

/-- The check judges operators only over operands it accepts. -/
theorem isTyped_check_iff (ht : t.Known) :
    (e.check t none).isTyped = true ↔ (e.check t none).problems = [] :=
  Checked.isTyped_iff.trans ⟨And.left, fun h => ⟨h, (check_typed ht none e h).known⟩⟩

variable {was : Ty} {raw name elem : String} {left right operand size idx : Expr} {elems : List Expr}

theorem accepted_lit : (lit was raw).Accepted t ty ↔ Literal.classify raw = .ok ty := by
  rw [Accepted, check]
  cases Literal.classify raw with
  | ok found => simp [Checked.ty, Expr.ty]
  | error fault => simp

theorem accepted_var : (var was name).Accepted t ty ↔ t.find? name = some ⟨ty, true⟩ := by
  rw [Accepted, check]
  exact ScopeTree.use_clean_iff

theorem accepted_binary (ht : t.Known) {op : BinaryOp} : (binary was op left right).Accepted t ty ↔
    ∃ l r, left.Accepted t l ∧ right.Accepted t r ∧ op.operandProblems l r = [] ∧
      op.resultTy = ty := by
  rw [Accepted, check]
  by_cases h : ((left.check t none).isTyped && (right.check t none).isTyped) = true
  · rw [if_pos h]
    rw [Bool.and_eq_true, isTyped_check_iff ht, isTyped_check_iff ht] at h
    refine ⟨fun hop => ⟨_, _, ⟨h.1, rfl⟩, ⟨h.2, rfl⟩, hop.1, hop.2⟩, ?_⟩
    rintro ⟨l, r, hl, hr, hop, hty⟩
    exact ⟨hl.2 ▸ hr.2 ▸ hop, hty⟩
  · rw [if_neg h]
    rw [Bool.and_eq_true, isTyped_check_iff ht, isTyped_check_iff ht] at h
    refine ⟨fun hop => absurd (List.append_eq_nil_iff.mp hop.1) h, ?_⟩
    rintro ⟨l, r, hl, hr, -⟩
    exact absurd ⟨hl.1, hr.1⟩ h

theorem accepted_unary (ht : t.Known) {op : UnaryOp} : (unary was op operand).Accepted t ty ↔
    operand.Accepted t op.resultTy ∧ op.resultTy = ty := by
  rw [Accepted, check]
  by_cases h : (operand.check t none).isTyped = true
  · rw [if_pos h]
    rw [isTyped_check_iff ht] at h
    refine ⟨fun hop => ⟨⟨h, UnaryOp.operandProblems_clean hop.1⟩, hop.2⟩, ?_⟩
    rintro ⟨ho, hty⟩
    exact ⟨by simp [ho.2, UnaryOp.operandProblems], hty⟩
  · rw [if_neg h]
    rw [isTyped_check_iff ht] at h
    exact ⟨fun hop => absurd hop.1 h, fun hop => absurd hop.1.1 h⟩

theorem accepted_step {op : StepOp} {fixity : Fixity} : (step was name op fixity).Accepted t ty ↔
    t.find? name = some ⟨.number, true⟩ ∧ .number = ty := by
  rw [Accepted, check]
  cases t.find? name with
  | none => simp
  | some d =>
    obtain ⟨declared, initialized⟩ := d
    by_cases hd : declared = .number <;> cases initialized <;> simp [hd, Checked.ty, Expr.ty]

theorem accepted_index (ht : t.Known) : (index was name idx).Accepted t ty ↔
    ∃ p, t.find? name = some ⟨.array p, true⟩ ∧ idx.Accepted t .number ∧ .scalar p = ty := by
  rw [Accepted, check]
  simp only [← ScopeTree.useArray_clean_iff]
  rcases t.useArray_cases name with ⟨p, used, hu, -⟩ | ⟨problems, hu, hne⟩
  · rw [hu]
    simp only [List.append_eq_nil_iff, Prod.mk.injEq, Option.some.injEq]
    constructor
    · rintro ⟨⟨⟨hused, hi⟩, hidx⟩, hty⟩
      have hnumber := indexProblems_clean hidx (check_typed ht none idx hi).known
      exact ⟨p, ⟨rfl, hused⟩, ⟨hi, hnumber⟩, hty⟩
    · rintro ⟨_, ⟨rfl, hused⟩, hi, hty⟩
      exact ⟨⟨⟨hused, hi.1⟩, by rw [hi.2, indexProblems, if_pos (.inr rfl)]⟩, hty⟩
  · rw [hu]
    simp [hne]

theorem accepted_length : (length was name).Accepted t ty ↔
    ∃ p, t.find? name = some ⟨.array p, true⟩ ∧ .number = ty := by
  rw [Accepted, check]
  simp only [← ScopeTree.useArray_clean_iff]
  rcases t.useArray_cases name with ⟨p, used, hu, -⟩ | ⟨problems, hu, hne⟩
  · rw [hu]
    simp [Checked.ty, Expr.ty]
  · rw [hu]
    simp [hne]

theorem accepted_pop : (pop was name).Accepted t ty ↔
    ∃ p, t.find? name = some ⟨.array p, true⟩ ∧ .scalar p = ty := by
  rw [Accepted, check]
  simp only [← ScopeTree.useArray_clean_iff]
  rcases t.useArray_cases name with ⟨p, used, hu, -⟩ | ⟨problems, hu, hne⟩
  · rw [hu]
    simp [Checked.ty, Expr.ty, and_assoc]
  · rw [hu]
    simp [hne]

theorem accepted_newArray (ht : t.Known) : (newArray was elem size).Accepted t ty ↔
    ∃ p, Primitive.ofName? elem = some p ∧ size.Accepted t .number ∧ .array p = ty := by
  rw [Accepted, check]
  cases Primitive.ofName? elem with
  | none => simp
  | some p =>
    simp only [Option.isSome_some, if_true, List.nil_append, List.append_eq_nil_iff,
      Option.some.injEq, exists_eq_left']
    constructor
    · rintro ⟨⟨hs, hsize⟩, hty⟩
      exact ⟨⟨hs, sizeProblems_clean hsize (check_typed ht none size hs).known⟩, hty⟩
    · rintro ⟨hs, hty⟩
      exact ⟨⟨hs.1, by rw [hs.2, sizeProblems, if_pos (.inr rfl)]⟩, hty⟩

/-! ### Array literals -/

theorem checkElems_some (ht : t.Known) {ty : Ty} :
    (checkElems t (some ty) elems).problems = [] ↔ ∀ e ∈ elems, e.Accepted t ty := by
  induction elems with
  | nil => simp [checkElems]
  | cons e rest ih =>
    rw [List.forall_mem_cons, ← ih]
    by_cases he : (e.check t none).problems = []
    · rw [checkElems, if_neg (check_isKnown ht he)]
      by_cases hty : ty = (e.check t none).ty
      · simp [hty, Accepted, CheckedElems.cons, he]
      · simp [hty, Accepted, Ne.symm hty]
    · exact ⟨fun h => absurd (checkElems_head h) he, fun h => absurd h.1.1 he⟩

theorem checkElems_none (ht : t.Known) {ty : Ty} : (checkElems t none elems).problems = [] ∧
    (checkElems t none elems).first = some ty ↔ elems ≠ [] ∧ ∀ e ∈ elems, e.Accepted t ty := by
  cases elems with
  | nil => simp [checkElems]
  | cons e rest =>
    rw [List.forall_mem_cons]
    by_cases he : (e.check t none).problems = []
    · rw [checkElems, if_neg (check_isKnown ht he)]
      simp only [CheckedElems.cons, he, List.nil_append, checkElems_first, checkElems_some ht,
        Option.some.injEq, Accepted, ne_eq, reduceCtorEq, not_false_eq_true, true_and]
      constructor
      · rintro ⟨hrest, rfl⟩
        exact ⟨rfl, hrest⟩
      · rintro ⟨rfl, hrest⟩
        exact ⟨hrest, rfl⟩
    · exact ⟨fun h => absurd (checkElems_head h.1) he, fun h => absurd h.2.1.1 he⟩

theorem literal_clean_iff {c : CheckedElems} :
    (c.literal none).problems = [] ∧ (c.literal none).ty = ty ↔
      ∃ p, (c.problems = [] ∧ c.first = some (.scalar p)) ∧ .array p = ty := by
  unfold CheckedElems.literal
  by_cases hc : c.problems = []
  · rcases hf : c.first with _ | (_ | _ | _) <;> simp [hc, literalTy, Checked.ty, Expr.ty]
  · simp [hc]

theorem accepted_arrayOf (ht : t.Known) : (arrayOf was elems).Accepted t ty ↔
    ∃ p, (elems ≠ [] ∧ ∀ e ∈ elems, e.Accepted t (.scalar p)) ∧ .array p = ty := by
  simp only [← checkElems_none ht]
  rw [Accepted, check]
  exact literal_clean_iff

/-! ## The check decides the rules -/

mutual
theorem accepted_hasType (ht : t.Known) :
    (e : Expr) → (ty : Ty) → e.Accepted t ty → e.HasType t ty
  | lit _ _, _ => fun h => .lit (Literal.classify_iff.mp (accepted_lit.mp h))
  | var _ _, _ => fun h => .var (accepted_var.mp h)
  | binary _ op left right, _ => by
      intro h
      obtain ⟨l, r, hl, hr, hop, rfl⟩ := (accepted_binary ht).mp h
      have hl := accepted_hasType ht left l hl
      have hr := accepted_hasType ht right r hr
      cases op with
      | arith op =>
        obtain ⟨rfl, rfl⟩ := BinaryOp.arith_clean.mp hop
        exact .arith hl hr
      | order op =>
        obtain ⟨rfl, rfl⟩ := BinaryOp.order_clean.mp hop
        exact .order hl hr
      | logic op =>
        obtain ⟨rfl, rfl⟩ := BinaryOp.logic_clean.mp hop
        exact .logic hl hr
      | equal => exact .equality (.inl rfl) hl hr ((BinaryOp.equality_clean (.inl rfl)).mp hop)
      | notEqual => exact .equality (.inr rfl) hl hr ((BinaryOp.equality_clean (.inr rfl)).mp hop)
  | unary _ op operand, _ => by
      intro h
      obtain ⟨ho, rfl⟩ := (accepted_unary ht).mp h
      have ho := accepted_hasType ht operand _ ho
      cases op with
      | not => exact .not ho
      | plus => exact .sign (.inl rfl) ho
      | neg => exact .sign (.inr rfl) ho
  | step _ _ _ _, _ => by
      intro h
      obtain ⟨hname, rfl⟩ := accepted_step.mp h
      exact .step hname
  | arrayOf _ elems, _ => by
      intro h
      obtain ⟨p, ⟨hne, helems⟩, rfl⟩ := (accepted_arrayOf ht).mp h
      exact .arrayOf hne (acceptedAll_hasType ht elems _ helems)
  | newArray _ _ size, _ => by
      intro h
      obtain ⟨p, helem, hsize, rfl⟩ := (accepted_newArray ht).mp h
      exact .newArray helem (accepted_hasType ht size _ hsize)
  | index _ _ idx, _ => by
      intro h
      obtain ⟨p, hname, hidx, rfl⟩ := (accepted_index ht).mp h
      exact .index hname (accepted_hasType ht idx _ hidx)
  | length _ _, _ => by
      intro h
      obtain ⟨p, hname, rfl⟩ := accepted_length.mp h
      exact .length hname
  | pop _ _, _ => by
      intro h
      obtain ⟨p, hname, rfl⟩ := accepted_pop.mp h
      exact .pop hname

theorem acceptedAll_hasType (ht : t.Known) : (es : List Expr) → (ty : Ty) →
    (∀ e ∈ es, e.Accepted t ty) → ∀ e ∈ es, e.HasType t ty
  | [], _ => fun _ => nofun
  | e :: rest, ty => by
      intro h
      rw [List.forall_mem_cons] at h ⊢
      exact ⟨accepted_hasType ht e ty h.1, acceptedAll_hasType ht rest ty h.2⟩
end

theorem HasType.accepted (ht : t.Known) (h : e.HasType t ty) : e.Accepted t ty := by
  induction h with
  | lit hform => exact accepted_lit.mpr (Literal.classify_iff.mpr hform)
  | var hname => exact accepted_var.mpr hname
  | arith _ _ hl hr =>
    exact (accepted_binary ht).mpr ⟨_, _, hl, hr, BinaryOp.arith_clean.mpr ⟨rfl, rfl⟩, rfl⟩
  | order _ _ hl hr =>
    exact (accepted_binary ht).mpr ⟨_, _, hl, hr, BinaryOp.order_clean.mpr ⟨rfl, rfl⟩, rfl⟩
  | logic _ _ hl hr =>
    exact (accepted_binary ht).mpr ⟨_, _, hl, hr, BinaryOp.logic_clean.mpr ⟨rfl, rfl⟩, rfl⟩
  | equality hop _ _ hty hl hr =>
    refine (accepted_binary ht).mpr ⟨_, _, hl, hr, (BinaryOp.equality_clean hop).mpr hty, ?_⟩
    rcases hop with rfl | rfl <;> rfl
  | not _ ho => exact (accepted_unary ht).mpr ⟨ho, rfl⟩
  | sign hop _ ho => rcases hop with rfl | rfl <;> exact (accepted_unary ht).mpr ⟨ho, rfl⟩
  | step hname => exact accepted_step.mpr ⟨hname, rfl⟩
  | arrayOf hne _ helems => exact (accepted_arrayOf ht).mpr ⟨_, ⟨hne, helems⟩, rfl⟩
  | newArray helem _ hsize => exact (accepted_newArray ht).mpr ⟨_, helem, hsize, rfl⟩
  | index hname _ hidx => exact (accepted_index ht).mpr ⟨_, hname, hidx, rfl⟩
  | length hname => exact accepted_length.mpr ⟨_, hname, rfl⟩
  | pop hname => exact accepted_pop.mpr ⟨_, hname, rfl⟩

/-- The check of an expression adds no report and finds a type exactly if the expression has this
type by the rules, and an expression has one type at most. A name of an unknown type makes no part
of the scopes that a check comes to (`ScopeTree.Reachable.known`). -/
theorem check_decides (c : Checker) (hc : c.scopes.Known) (e : Expr) (ty : Ty) :
    (((Check.expr e).run c).2.diagnostics = c.diagnostics ∧ ((Check.expr e).run c).1.ty = ty ↔
      e.HasType c.scopes ty) ∧
    ∀ ty', e.HasType c.scopes ty → e.HasType c.scopes ty' → ty = ty' := by
  have hrules {ty : Ty} : e.Accepted c.scopes ty ↔ e.HasType c.scopes ty :=
    ⟨accepted_hasType hc e ty, HasType.accepted hc⟩
  refine ⟨?_, fun ty' h h' => (hrules.mpr h).2.symm.trans (hrules.mpr h').2⟩
  rw [← hrules, StateT.run, Check.expr_run, Check.report_run]
  simp only [List.append_right_eq_self, List.map_eq_nil_iff]
  rfl

/-- Scopes in which an array of numbers has a value. -/
def arrayScopes : ScopeTree := ScopeTree.start.declare "xs" (.array .number) true

/-- The comparison of an element with a letter. -/
def elementComparison : Expr :=
  .binary .unknown .equal (.index .unknown "xs" (.lit .unknown "0")) (.lit .unknown "'a'")

theorem elementComparison_decided : arrayScopes.Known ∧
    elementComparison.HasType arrayScopes .logic ∧
    ∀ ty', elementComparison.HasType arrayScopes ty' → .logic = ty' := by
  have hknown : arrayScopes.Known := by
    intro n ty hn
    by_cases hxs : n = "xs"
    · subst hxs
      cases hn
      exact nofun
    · simp [arrayScopes, ScopeTree.start, ScopeTree.declare, ScopeTree.isDeclaredHere,
        Scope.declares, Scope.find?, Scope.empty, Scope.insert, ScopeTree.lookup?, ScopeTree.find?,
        ScopeTree.live, hxs] at hn
  have h := check_decides ⟨arrayScopes, [], none⟩ hknown elementComparison .logic
  have htype := h.1.mp ⟨by decide, by decide⟩
  exact ⟨hknown, htype, fun ty' => h.2 ty' htype⟩

end Expr

end Primer
