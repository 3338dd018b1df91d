import Primer.Proofs.Remarks
import Primer.Proofs.TypingRules

/-!
# The problems of operators

An operator reports a problem just if nothing below it does and its operands have types that its rule
forbids. So what is wrong in an expression is reported where it is wrong, and not by the operators
above, which have no type then.
-/

namespace Primer

variable (t : ScopeTree)

/-! ## Rules -/

/-- Types that the operator takes its operands from. -/
inductive BinaryOp.Allows : BinaryOp → Ty → Ty → Prop where
  | arith (op : ArithOp) : Allows (.arith op) .number .number
  | order (op : OrderOp) : Allows (.order op) .number .number
  | logic (op : LogicOp) : Allows (.logic op) .logic .logic
  | equality {op : BinaryOp} {left right : Ty} : op = .equal ∨ op = .notEqual →
      left.Compatible right ∨ right.Compatible left → Allows op left right

/-- Types that the operator takes its operand from. -/
inductive UnaryOp.Allows : UnaryOp → Ty → Prop where
  | not : Allows .not .logic
  | sign {op : UnaryOp} : op = .plus ∨ op = .neg → Allows op .number

theorem BinaryOp.allows_iff {op : BinaryOp} {left right : Ty} :
    op.Allows left right ↔ op.operandProblems left right = [] := by
  constructor
  · rintro (op | op | op | ⟨hop, hcompatible⟩)
    · exact arith_clean.mpr ⟨rfl, rfl⟩
    · exact order_clean.mpr ⟨rfl, rfl⟩
    · exact logic_clean.mpr ⟨rfl, rfl⟩
    · exact (equality_clean hop).mpr hcompatible
  · intro h
    cases op with
    | arith op =>
      obtain ⟨rfl, rfl⟩ := arith_clean.mp h
      exact .arith op
    | order op =>
      obtain ⟨rfl, rfl⟩ := order_clean.mp h
      exact .order op
    | logic op =>
      obtain ⟨rfl, rfl⟩ := logic_clean.mp h
      exact .logic op
    | equal => exact .equality (.inl rfl) ((equality_clean (.inl rfl)).mp h)
    | notEqual => exact .equality (.inr rfl) ((equality_clean (.inr rfl)).mp h)

theorem UnaryOp.allows_iff {op : UnaryOp} {ty : Ty} :
    op.Allows ty ↔ op.operandProblems ty = [] := by
  constructor
  · rintro (_ | ⟨rfl | rfl⟩) <;> rfl
  · intro h
    obtain rfl := operandProblems_clean h
    cases op with
    | not => exact .not
    | plus => exact .sign (.inl rfl)
    | neg => exact .sign (.inr rfl)

theorem BinaryOp.operandProblems_one (op : BinaryOp) (left right : Ty) :
    (op.operandProblems left right).length ≤ 1 := by
  cases op <;> unfold operandProblems <;> dsimp only <;> split <;> simp

theorem UnaryOp.operandProblems_one (op : UnaryOp) (ty : Ty) :
    (op.operandProblems ty).length ≤ 1 := by
  unfold operandProblems
  split
  · exact Nat.zero_le 1
  · cases op <;> exact Nat.le_refl 1

namespace Expr

def isOperator : Expr → Bool
  | binary _ _ _ _ | unary _ _ _ => true
  | _ => false

/-- What the operator has to say of operands of the given types. -/
def operatorProblems (tys : Nat → Ty) : Expr → List Problem
  | binary _ op _ _ => op.operandProblems (tys 0) (tys 1)
  | unary _ op _ => op.operandProblems (tys 0)
  | _ => []

/-- The types of the operands are known, and the rule of the operator forbids them. -/
def Misused (tys : Nat → Ty) : Expr → Prop
  | binary _ op _ _ => tys 0 ≠ .unknown ∧ tys 1 ≠ .unknown ∧ ¬op.Allows (tys 0) (tys 1)
  | unary _ op _ => tys 0 ≠ .unknown ∧ ¬op.Allows (tys 0)
  | _ => False

end Expr

/-! ## Reports of a part -/

/-- What the part at the place reports. -/
def problemsAt (rs : List Remark) (place : Place) : List Problem :=
  (rs.filter (·.place = place)).map (·.problem)

section
variable {rs rs' : List Remark} {place : Place} {i j : Nat} {problems : List Problem}

@[simp] theorem problemsAt_append :
    problemsAt (rs ++ rs') place = problemsAt rs place ++ problemsAt rs' place := by
  simp [problemsAt]

@[simp] theorem problemsAt_root : problemsAt (reportedAt [] problems) [] = problems := by
  simp [problemsAt, reportedAt, List.filter_map, Function.comp_def]

@[simp] theorem problemsAt_behind_root : problemsAt (rs.map (.behind [i])) [] = [] := by
  simp [problemsAt, Remark.behind]

/-- The remarks inside an operand, as they are seen from the operand. -/
def within (i : Nat) (rs : List Remark) : List Remark :=
  rs.filterMap fun r =>
    match r.place with
    | [] => none
    | j :: place => if j = i then some ⟨place, r.problem⟩ else none

@[simp] theorem within_append : within i (rs ++ rs') = within i rs ++ within i rs' :=
  List.filterMap_append

@[simp] theorem within_root : within i (reportedAt [] problems) = [] := by
  simp [within, reportedAt]

theorem within_behind : within i (rs.map (.behind [j])) = if j = i then rs else [] := by
  rw [within, List.filterMap_map]
  show rs.filterMap (fun r => if j = i then some r else none) = _
  split <;> simp

theorem problemsAt_cons : problemsAt rs (i :: place) = problemsAt (within i rs) place := by
  induction rs with
  | nil => rfl
  | cons r rs ih =>
    obtain ⟨way, problem⟩ := r
    have hhead : problemsAt [⟨way, problem⟩] (i :: place) =
        problemsAt (within i [⟨way, problem⟩]) place := by
      rcases way with _ | ⟨j, way⟩
      · rfl
      · by_cases hj : j = i <;> by_cases hway : way = place <;>
          simp [problemsAt, within, hj, hway]
    rw [← List.singleton_append, problemsAt_append, within_append, problemsAt_append, ih, hhead]

/-- If nothing is reported but inside one operand, then all remarks are those inside it. -/
theorem all_within (hroot : problemsAt rs [] = []) (hrest : ∀ j, j ≠ i → within j rs = []) :
    rs = (within i rs).map (.behind [i]) := by
  induction rs with
  | nil => rfl
  | cons r rs ih =>
    obtain ⟨way, problem⟩ := r
    rw [← List.singleton_append, problemsAt_append, List.append_eq_nil_iff] at hroot
    simp only [← List.singleton_append (l := rs), within_append, List.append_eq_nil_iff] at hrest
    have htail := ih hroot.2 fun j hj => (hrest j hj).2
    rcases way with _ | ⟨j, way⟩
    · exact absurd hroot.1 (by simp [problemsAt])
    · by_cases hj : j = i
      · subst hj
        rw [← List.singleton_append, within_append, List.map_append, ← htail]
        simp [within, Remark.behind]
      · exact absurd (hrest j hj).1 (by simp [within])

theorem remarks_nil_iff_problemsAt : rs = [] ↔ ∀ place, problemsAt rs place = [] := by
  refine ⟨by rintro rfl _; rfl, fun h => List.eq_nil_iff_forall_not_mem.mpr fun r hr => ?_⟩
  have hmem : r.problem ∈ problemsAt rs r.place :=
    List.mem_map_of_mem (List.mem_filter.mpr ⟨hr, decide_eq_true rfl⟩)
  rw [h] at hmem
  cases hmem

end

/-! ## Parts -/

namespace Expr

/-- The expressions that an expression holds itself. -/
def operands : Expr → List Expr
  | binary _ _ left right => [left, right]
  | unary _ _ e | newArray _ _ e | index _ _ e => [e]
  | arrayOf _ elems => elems
  | lit _ _ | var _ _ | step _ _ _ _ | length _ _ | pop _ _ => []

/-- The part at the place. -/
def at? (e : Expr) : Place → Option Expr
  | [] => some e
  | i :: place =>
    match e.operands[i]? with
    | some c => c.at? place
    | none => none

/-- The type that stands at the place. -/
def tyAt (e : Expr) (place : Place) : Ty :=
  match e.at? place with
  | some c => c.ty
  | none => .unknown

theorem tyAt_cons (e : Expr) (i : Nat) (place : Place) :
    e.tyAt (i :: place) = e.operands[i]?.elim .unknown fun c => c.tyAt place := by
  rw [tyAt, at?]
  cases e.operands[i]? <;> rfl

/-- The type that the check finds for the part at the place, and writes on an expression without
types. It is unknown where the check does not come to. -/
def foundAt (hint : Option Primitive) (e : Expr) (place : Place) : Ty :=
  (e.erase.check t hint).result.tyAt place

/-- The elements up to the first one of another type. -/
def comparedElems : Option Ty → List Expr → List Expr
  | _, [] => []
  | first, e :: rest =>
    e :: match compareElem first (e.check t none).ty with
      | .ok next => comparedElems next rest
      | .error _ => []

/-- The operands that the check comes to. -/
def reached : Expr → List Expr
  | binary _ _ left right => [left, right]
  | unary _ _ e | newArray _ _ e => [e]
  | arrayOf _ elems => comparedElems t none elems
  | index _ name e => if (t.useArray name).1.isSome then [e] else []
  | lit _ _ | var _ _ | step _ _ _ _ | length _ _ | pop _ _ => []

theorem comparedElems_take (first : Option Ty) (es : List Expr) :
    comparedElems t first es = es.take (comparedElems t first es).length := by
  induction es generalizing first with
  | nil => rfl
  | cons e rest ih =>
    rw [comparedElems]
    cases compareElem first (e.check t none).ty with
    | ok next => exact congrArg (e :: ·) (ih next)
    | error expected => rfl

theorem reached_operand {e c : Expr} {i : Nat} (h : (e.reached t)[i]? = some c) :
    e.operands[i]? = some c := by
  cases e with
  | arrayOf ty elems =>
    rw [reached, comparedElems_take] at h
    rw [List.getElem?_take] at h
    split at h
    · exact h
    · cases h
  | index ty name e =>
    rw [reached] at h
    split at h
    · exact h
    · cases h
  | _ => exact h

/-- The elements are numbered from `k` on. -/
theorem numbered_cons (k i : Nat) (f : Expr → List Remark) (e : Expr) (rest : List Expr) :
    ((if k = i then f e else []) ++ if i < k + 1 then [] else rest[i - (k + 1)]?.elim [] f) =
      if i < k then [] else (e :: rest)[i - k]?.elim [] f := by
  rcases Nat.lt_trichotomy i k with hlt | rfl | hgt
  · rw [if_neg (by omega), if_pos (by omega), if_pos hlt, List.append_nil]
  · simp
  · obtain ⟨d, rfl⟩ : ∃ d, i = k + 1 + d := ⟨i - (k + 1), by omega⟩
    rw [if_neg (by omega), if_neg (by omega), if_neg (by omega), List.nil_append,
      show k + 1 + d - k = d + 1 by omega, List.getElem?_cons_succ, Nat.add_sub_cancel_left]

theorem remarksElems_within (k : Nat) (first : Option Ty) (es : List Expr) (i : Nat) :
    within i (remarksElems t k first es) =
      if i < k then []
      else (comparedElems t first es)[i - k]?.elim [] fun c => c.remarks t none := by
  induction es generalizing k first with
  | nil => simp [remarksElems, comparedElems, within]
  | cons e rest ih =>
    rw [remarksElems, comparedElems, within_append, within_behind, ← numbered_cons]
    refine congrArg _ ?_
    cases compareElem first (e.check t none).ty with
    | ok next => exact ih (k + 1) next
    | error expected => simp

/-- Inside an operand stands what the operand reports by itself, if the check comes to it. -/
theorem remarks_within (hint : Option Primitive) (e : Expr) (i : Nat) :
    within i (e.remarks t hint) = (e.reached t)[i]?.elim [] fun c => c.remarks t none := by
  cases e with
  | binary ty op left right =>
    simp only [remarks, within_append, within_root, within_behind, reached]
    match i with
    | 0 | 1 | i + 2 => simp
  | unary ty op e | newArray ty elem e =>
    simp only [remarks, within_append, within_root, within_behind, reached]
    match i with
    | 0 | i + 1 => simp
  | arrayOf ty elems =>
    simp only [remarks, within_append, within_root, remarksElems_within, reached]
    simp
  | index ty name e =>
    rw [remarks, reached]
    rcases t.useArray name with ⟨_ | elem, problems⟩
    · simp
    · simp only [within_append, within_root, within_behind]
      match i with
      | 0 | i + 1 => simp
  | _ => simp [remarks, reached]

theorem remarks_at (hint : Option Primitive) (e : Expr) (i : Nat) (place : Place) :
    problemsAt (e.remarks t hint) (i :: place) =
      (e.reached t)[i]?.elim [] fun c => problemsAt (c.remarks t none) place := by
  rw [problemsAt_cons, remarks_within]
  cases (e.reached t)[i]? <;> rfl

theorem comparedElems_all {k : Nat} {first : Option Ty} {es : List Expr}
    (h : problemsAt (remarksElems t k first es) [] = []) : comparedElems t first es = es := by
  induction es generalizing k first with
  | nil => rfl
  | cons e rest ih =>
    rw [remarksElems, problemsAt_append, problemsAt_behind_root, List.nil_append] at h
    rw [comparedElems]
    cases hverdict : compareElem first (e.check t none).ty with
    | ok next =>
      rw [hverdict] at h
      exact congrArg _ (ih h)
    | error expected =>
      rw [hverdict] at h
      cases h

/-- An expression that reports nothing itself is checked in all its operands. -/
theorem reached_all {hint : Option Primitive} {e : Expr}
    (h : problemsAt (e.remarks t hint) [] = []) : e.reached t = e.operands := by
  cases e with
  | arrayOf ty elems =>
    rw [remarks, problemsAt_append, List.append_eq_nil_iff] at h
    exact comparedElems_all t h.1
  | index ty name e =>
    rw [remarks] at h
    rw [reached]
    rcases t.useArray_cases name with ⟨p, used, huse, -⟩ | ⟨problems, huse, hne⟩
    · rw [huse]
      rfl
    · rw [huse] at h
      exact absurd (problemsAt_root.symm.trans h) hne
  | _ => rfl

/-! ## Found types -/

theorem isTyped_congr {c c' : Checked Expr} (h : c.ty = c'.ty ∧ c.problems = c'.problems) :
    c.isTyped = c'.isTyped := by
  rw [Checked.isTyped, h.1, h.2, Checked.isTyped]

mutual
/-- The check does not look at the types that an expression has. -/
theorem check_erased : (hint : Option Primitive) → (e : Expr) →
    (e.erase.check t hint).ty = (e.check t hint).ty ∧
      (e.erase.check t hint).problems = (e.check t hint).problems
  | _, lit _ _ | _, var _ _ | _, step _ _ _ _ | _, length _ _ | _, pop _ _ => by
      simp only [erase, check, and_self]
  | _, binary _ op left right => by
      have hleft := check_erased none left
      have hright := check_erased none right
      simp only [erase, check, isTyped_congr hleft, isTyped_congr hright, hleft.1,
        hleft.2, hright.1, hright.2]
      cases (left.check t none).isTyped && (right.check t none).isTyped <;> exact ⟨rfl, rfl⟩
  | _, unary _ op operand => by
      have hoperand := check_erased none operand
      simp only [erase, check, isTyped_congr hoperand, hoperand.1, hoperand.2]
      cases (operand.check t none).isTyped <;> exact ⟨rfl, rfl⟩
  | hint, arrayOf _ elems => by
      obtain ⟨hfirst, hproblems⟩ := checkElems_erased none elems
      simp only [erase, check, CheckedElems.literal, hfirst, hproblems]
      cases (checkElems t none elems).problems.isEmpty <;> exact ⟨rfl, rfl⟩
  | _, newArray _ elem size => by
      obtain ⟨hty, hproblems⟩ := check_erased none size
      simp only [erase, check, hty, hproblems]
      exact ⟨rfl, trivial⟩
  | _, index _ name idx => by
      obtain ⟨hty, hproblems⟩ := check_erased none idx
      rw [erase, check, check]
      rcases t.useArray name with ⟨_ | elem, problems⟩
      · exact ⟨rfl, rfl⟩
      · exact ⟨rfl, by simp only [hty, hproblems]⟩

theorem checkElems_erased : (first : Option Ty) → (es : List Expr) →
    (checkElems t first (eraseAll es)).first = (checkElems t first es).first ∧
      (checkElems t first (eraseAll es)).problems = (checkElems t first es).problems
  | _, [] => by simp only [eraseAll, and_self]
  | first, e :: rest => by
      obtain ⟨hty, hproblems⟩ := check_erased none e
      rw [eraseAll, checkElems_compared, checkElems_compared, hty, hproblems]
      cases compareElem first (e.check t none).ty with
      | ok next =>
        obtain ⟨hfirst, hrest⟩ := checkElems_erased next rest
        exact ⟨hfirst, by simp only [CheckedElems.cons, hproblems, hrest]⟩
      | error expected => exact ⟨rfl, rfl⟩
end

theorem eraseAll_eq_map (es : List Expr) : eraseAll es = es.map erase := by
  induction es with
  | nil => rfl
  | cons e rest ih => rw [eraseAll, ih, List.map_cons]

theorem operands_erase (e : Expr) : e.erase.operands = e.operands.map erase := by
  cases e <;> simp [erase, operands, eraseAll_eq_map]

theorem tyAt_erase (e : Expr) (place : Place) : e.erase.tyAt place = .unknown := by
  induction place generalizing e with
  | nil => cases e <;> simp [tyAt, at?, erase, ty]
  | cons i place ih =>
    rw [tyAt_cons, operands_erase, List.getElem?_map]
    cases e.operands[i]? with
    | none => rfl
    | some c => exact ih c

theorem comparedElems_erase (first : Option Ty) (es : List Expr) :
    comparedElems t first (eraseAll es) = (comparedElems t first es).map erase := by
  induction es generalizing first with
  | nil => rfl
  | cons e rest ih =>
    rw [eraseAll, comparedElems, comparedElems, (check_erased t none e).1, List.map_cons]
    cases compareElem first (e.check t none).ty with
    | ok next => exact congrArg _ (ih next)
    | error expected => rfl

theorem reached_erase (e : Expr) : e.erase.reached t = (e.reached t).map erase := by
  cases e with
  | arrayOf ty elems => simp only [erase, reached, comparedElems_erase]
  | index ty name e =>
    simp only [erase, reached]
    split <;> rfl
  | _ => simp [erase, reached]

theorem checkElems_elems (first : Option Ty) (es : List Expr) :
    (checkElems t first es).elems =
      (comparedElems t first es).map (fun c => (c.check t none).result) ++
        es.drop (comparedElems t first es).length := by
  induction es generalizing first with
  | nil => simp [checkElems, comparedElems]
  | cons e rest ih =>
    rw [checkElems_compared, comparedElems]
    cases compareElem first (e.check t none).ty with
    | ok next => exact congrArg _ (ih next)
    | error expected => rfl

/-- The operands that the check comes to are checked, and the others stay as they were. -/
theorem operands_check (hint : Option Primitive) (e : Expr) :
    (e.check t hint).result.operands =
      (e.reached t).map (fun c => (c.check t none).result) ++
        e.operands.drop (e.reached t).length := by
  cases e with
  | arrayOf ty elems =>
    rw [check, CheckedElems.literal]
    split <;> exact checkElems_elems t none elems
  | index ty name e =>
    rw [check, reached]
    rcases t.useArray name with ⟨_ | elem, problems⟩ <;> rfl
  | lit | var | binary | unary | step | newArray | length | pop =>
    simp only [check]
    repeat' split
    all_goals rfl

theorem foundAt_root (hint : Option Primitive) (e : Expr) :
    e.foundAt t hint [] = (e.check t hint).ty := (check_erased t hint e).1

theorem foundAt_cons (hint : Option Primitive) (e : Expr) (i : Nat) (place : Place) :
    e.foundAt t hint (i :: place) =
      (e.reached t)[i]?.elim .unknown fun c => c.foundAt t none place := by
  rw [foundAt, tyAt_cons, operands_check, reached_erase, operands_erase]
  rcases Nat.lt_or_ge i (e.reached t).length with hlt | hge
  · rw [List.getElem?_append_left (by simpa using hlt)]
    simp [List.getElem?_eq_getElem hlt, foundAt]
  · rw [List.getElem?_append_right (by simpa using hge), List.getElem?_eq_none hge,
      List.getElem?_drop, List.getElem?_map]
    -- what the check does not come to has no type yet
    have hnone (o : Option Expr) :
        (o.map erase).elim .unknown (fun c => c.tyAt place) = .unknown := by
      cases o with
      | none => rfl
      | some c => exact tyAt_erase c place
    exact hnone _

/-! ## Parts by themselves -/

/-- What the context of a part expects of it if it is an array: nothing, unless the part is all. -/
def hintAt (hint : Option Primitive) : Place → Option Primitive
  | [] => hint
  | _ :: _ => none

theorem hintAt_cons (hint : Option Primitive) (i : Nat) (place : Place) :
    hintAt hint (i :: place) = hintAt none place := by
  cases place <;> rfl

section
variable {t} {hint : Option Primitive} {e part leaf : Expr} {place : Place}

/-- What the check finds and reports in a part is what it finds and reports in the part by itself, if it
comes to the part. -/
theorem part_alone (t : ScopeTree) (hint : Option Primitive) (h : e.at? place = some part) :
    (∀ below, problemsAt (e.remarks t hint) (place ++ below) =
        problemsAt (part.remarks t (hintAt hint place)) below ∧
      e.foundAt t hint (place ++ below) = part.foundAt t (hintAt hint place) below) ∨
    ∀ below, problemsAt (e.remarks t hint) (place ++ below) = [] ∧
      e.foundAt t hint (place ++ below) = .unknown := by
  induction place generalizing e hint with
  | nil =>
    obtain rfl : e = part := Option.some.inj h
    exact .inl fun below => ⟨rfl, rfl⟩
  | cons i place ih =>
    simp only [List.cons_append, remarks_at, foundAt_cons]
    cases hreached : (e.reached t)[i]? with
    | none => exact .inr fun below => ⟨rfl, rfl⟩
    | some c =>
      rw [at?, reached_operand t hreached] at h
      rw [hintAt_cons]
      exact ih none h

/-- Nothing is reported below an expression if nothing is wrong with the operands that the check comes
to. -/
theorem quiet_iff : (∀ i below, problemsAt (e.remarks t hint) (i :: below) = []) ↔
    ∀ c ∈ e.reached t, (c.check t none).problems = [] := by
  constructor
  · intro h c hc
    obtain ⟨i, hi⟩ := List.mem_iff_getElem?.mp hc
    refine (remarks_nil t).mp (remarks_nil_iff_problemsAt.mpr fun below => ?_)
    have hbelow := h i below
    rwa [remarks_at, hi] at hbelow
  · intro h i below
    rw [remarks_at]
    cases hi : (e.reached t)[i]? with
    | none => rfl
    | some c =>
      have hnil := (remarks_nil t).mpr (h c (List.mem_of_getElem? hi))
      exact remarks_nil_iff_problemsAt.mp hnil below

/-! ## Operators -/

theorem foundAt_operand {i : Nat} {c : Expr} (h : (e.reached t)[i]? = some c) :
    e.foundAt t hint [i] = (c.check t none).ty := by
  rw [foundAt_cons, h]
  exact foundAt_root t none c

theorem operator_reached (h : e.isOperator = true) : e.reached t = e.operands := by
  cases e <;> first | rfl | cases h

theorem operator_judged (h : e.isOperator = true) :
    (problemsAt (e.remarks t hint) [] ≠ [] ↔
      (∀ i below, problemsAt (e.remarks t hint) (i :: below) = []) ∧
        e.Misused fun i => e.foundAt t hint [i]) ∧
    (problemsAt (e.remarks t hint) [] ≠ [] → problemsAt (e.remarks t hint) [] =
      e.operatorProblems fun i => e.foundAt t hint [i]) := by
  rw [quiet_iff, operator_reached h]
  cases e with
  | binary ty op left right =>
    have hleft : (binary ty op left right).foundAt t hint [0] = (left.check t none).ty :=
      foundAt_operand rfl
    have hright : (binary ty op left right).foundAt t hint [1] = (right.check t none).ty :=
      foundAt_operand rfl
    simp only [remarks, problemsAt_append, problemsAt_behind_root, problemsAt_root,
      List.nil_append, operands, List.forall_mem_cons, Misused, operatorProblems, hleft, hright,
      BinaryOp.allows_iff, Bool.and_eq_true, Checked.isTyped_iff]
    split
    · next htyped =>
      exact ⟨⟨fun hop => ⟨⟨htyped.1.1, htyped.2.1, List.forall_mem_nil _⟩, htyped.1.2, htyped.2.2,
        hop⟩, fun hop => hop.2.2.2⟩, fun _ => rfl⟩
    · next htyped =>
      refine ⟨⟨fun hop => absurd rfl hop, ?_⟩, fun hop => absurd rfl hop⟩
      rintro ⟨⟨hl, hr, -⟩, hlty, hrty, -⟩
      exact absurd ⟨⟨hl, hlty⟩, hr, hrty⟩ htyped
  | unary ty op operand =>
    have hoperand : (unary ty op operand).foundAt t hint [0] = (operand.check t none).ty :=
      foundAt_operand rfl
    simp only [remarks, problemsAt_append, problemsAt_behind_root, problemsAt_root,
      List.nil_append, operands, List.forall_mem_cons, Misused, operatorProblems, hoperand,
      UnaryOp.allows_iff, Checked.isTyped_iff]
    split
    · next htyped =>
      exact ⟨⟨fun hop => ⟨⟨htyped.1, List.forall_mem_nil _⟩, htyped.2, hop⟩, fun hop => hop.2.2⟩,
        fun _ => rfl⟩
    · next htyped =>
      refine ⟨⟨fun hop => absurd rfl hop, ?_⟩, fun hop => absurd rfl hop⟩
      rintro ⟨⟨ho, -⟩, hty, -⟩
      exact absurd ⟨ho, hty⟩ htyped
  | _ => cases h

/-- An operator has no type if one of its operands has a problem or no type. -/
theorem operator_spoiled {c : Expr} (h : e.isOperator = true) (hc : c ∈ e.operands)
    (hfault : (c.check t none).isTyped = false) : (e.check t hint).ty = .unknown := by
  cases e with
  | binary ty op left right =>
    have hnot : ((left.check t none).isTyped && (right.check t none).isTyped) = false := by
      simp only [operands, List.mem_cons, List.not_mem_nil, or_false] at hc
      rcases hc with rfl | rfl
      · rw [hfault, Bool.false_and]
      · rw [hfault, Bool.and_false]
    rw [check, hnot]
    rfl
  | unary ty op operand =>
    obtain rfl := List.mem_singleton.mp hc
    rw [check, hfault]
    rfl
  | _ => cases h

theorem not_isTyped_iff {c : Checked Expr} :
    c.isTyped = false ↔ c.problems ≠ [] ∨ c.ty = .unknown := by
  rw [← Bool.not_eq_true, Checked.isTyped_iff, Decidable.not_and_iff_not_or_not, Decidable.not_not]

theorem misused_unknown : ¬part.Misused fun _ => .unknown := by
  cases part with
  | binary | unary => exact fun h => h.1 rfl
  | _ => exact id

theorem part_judged (h : e.at? place = some part) (hoperator : part.isOperator = true) :
    (problemsAt (e.remarks t hint) place ≠ [] ↔
      (∀ i below, problemsAt (e.remarks t hint) (place ++ i :: below) = []) ∧
        part.Misused fun i => e.foundAt t hint (place ++ [i])) ∧
    (problemsAt (e.remarks t hint) place ≠ [] → problemsAt (e.remarks t hint) place =
      part.operatorProblems fun i => e.foundAt t hint (place ++ [i])) := by
  rcases part_alone t hint h with halone | hnone
  · have hroot := (halone []).1
    rw [List.append_nil] at hroot
    simp only [hroot, (halone _).1, (halone _).2]
    exact operator_judged hoperator
  · have hroot := (hnone []).1
    rw [List.append_nil] at hroot
    simp only [hroot, (hnone _).2]
    exact ⟨⟨fun hne => absurd rfl hne, fun hmisused => absurd hmisused.2 misused_unknown⟩,
      fun hne => absurd rfl hne⟩

theorem part_spoiled (h : e.at? place = some part) (hoperator : part.isOperator = true)
    (hfault : (∃ i below, problemsAt (e.remarks t hint) (place ++ i :: below) ≠ []) ∨
      ∃ i, i < part.operands.length ∧ e.foundAt t hint (place ++ [i]) = .unknown) :
    e.foundAt t hint place = .unknown := by
  rcases part_alone t hint h with halone | hnone
  · have hroot := (halone []).2
    rw [List.append_nil, foundAt_root] at hroot
    simp only [(halone _).1, (halone _).2] at hfault
    rw [hroot]
    rcases hfault with ⟨i, below, hbelow⟩ | ⟨i, hi, hunknown⟩
    · rw [remarks_at] at hbelow
      cases hc : (part.reached t)[i]? with
      | none => exact absurd (by rw [hc]; rfl) hbelow
      | some c =>
        rw [hc] at hbelow
        have hproblems : (c.check t none).problems ≠ [] := fun hnil =>
          hbelow (remarks_nil_iff_problemsAt.mp ((remarks_nil t).mpr hnil) below)
        exact operator_spoiled hoperator (List.mem_of_getElem? (reached_operand t hc))
          (not_isTyped_iff.mpr (.inl hproblems))
    · have hc : part.operands[i]? = some part.operands[i] := List.getElem?_eq_getElem hi
      rw [foundAt_operand ((congrArg (·[i]?) (operator_reached hoperator)).trans hc)] at hunknown
      exact operator_spoiled hoperator (List.mem_of_getElem? hc)
        (not_isTyped_iff.mpr (.inr hunknown))
  · have hroot := (hnone []).2
    rwa [List.append_nil] at hroot

theorem operatorProblems_one (tys : Nat → Ty) (e : Expr) : (e.operatorProblems tys).length ≤ 1 := by
  cases e with
  | binary ty op left right => exact op.operandProblems_one _ _
  | unary ty op operand => exact op.operandProblems_one _
  | _ => exact Nat.zero_le 1

/-! ## One leaf at fault -/

/-- Around the place nothing is wrong. What stands above it is an operator or reports nothing itself, and
the operands beside the way to it have no problem in them. -/
def SoundAround (t : ScopeTree) (hint : Option Primitive) (e : Expr) : Place → Prop
  | [] => True
  | i :: place => (e.isOperator = true ∨ problemsAt (e.remarks t hint) [] = []) ∧
    ∀ j c, e.operands[j]? = some c →
      if j = i then c.SoundAround t none place else (c.check t none).problems = []

/-- The remarks are those in one operand if nothing is reported in the others or by the expression. -/
theorem remarks_operand {c : Expr} {i : Nat} (hown : problemsAt (e.remarks t hint) [] = [])
    (hi : e.operands[i]? = some c)
    (hrest : ∀ j c', e.operands[j]? = some c' → j ≠ i → (c'.check t none).problems = []) :
    e.remarks t hint = (c.remarks t none).map (.behind [i]) := by
  have hreached := reached_all t hown
  have hothers : ∀ j, j ≠ i → within j (e.remarks t hint) = [] := by
    intro j hj
    rw [remarks_within, hreached]
    cases hc : e.operands[j]? with
    | none => rfl
    | some c' => exact (remarks_nil t).mpr (hrest j c' hc hj)
  rw [all_within hown hothers, remarks_within, hreached, hi]
  rfl

/-- All remarks come from the part if something is wrong in it and nothing around it. -/
theorem remarks_alone (h : e.at? place = some leaf) (hsound : e.SoundAround t hint place)
    (hfault : (leaf.check t (hintAt hint place)).problems ≠ []) :
    e.remarks t hint = (leaf.remarks t (hintAt hint place)).map (.behind place) := by
  induction place generalizing e hint with
  | nil =>
    obtain rfl : e = leaf := Option.some.inj h
    exact (Remark.behind_root _).symm
  | cons i place ih =>
    obtain ⟨hself, hoperands⟩ := hsound
    rw [hintAt_cons] at hfault ⊢
    rw [at?] at h
    cases hi : e.operands[i]? with
    | none =>
      rw [hi] at h
      cases h
    | some c =>
      rw [hi] at h
      have hc : c.remarks t none = (leaf.remarks t (hintAt none place)).map (.behind place) :=
        ih h (by simpa using hoperands i c hi) hfault
      have hproblems : (c.check t none).problems ≠ [] := by
        rwa [← remarks_problem, hc, Remark.problem_behind, remarks_problem]
      -- an operator is quiet over an operand with a problem
      have hown : problemsAt (e.remarks t hint) [] = [] := by
        refine hself.elim (fun hoperator => Decidable.not_not.mp fun hreports => ?_) id
        have hquiet := quiet_iff.mp ((operator_judged hoperator).1.mp hreports).1
        rw [operator_reached hoperator] at hquiet
        exact hproblems (hquiet c (List.mem_of_getElem? hi))
      rw [remarks_operand hown hi fun j c' hj hne => by simpa [hne] using hoperands j c' hj, hc,
        Remark.behind_behind]
      rfl

end

/-! ## Expressions -/

/-- In an expression no operator reports what is wrong below it. -/
structure JudgedOnce (hint : Option Primitive) (e : Expr) : Prop where
  /-- The log of a check that goes by marks has grown by the remarks, and these are its problems. -/
  logged : (∀ log, e.marked t hint [] log = ((e.check t hint).result, log ++ e.remarks t hint)) ∧
    (e.remarks t hint).map (·.problem) = (e.check t hint).problems
  /-- An operator reports just if nothing below it does and its operands have types against its rule. -/
  judged : ∀ place part, e.at? place = some part → part.isOperator = true →
    (problemsAt (e.remarks t hint) place ≠ [] ↔
      (∀ i below, problemsAt (e.remarks t hint) (place ++ i :: below) = []) ∧
        part.Misused fun i => e.foundAt t hint (place ++ [i]))
  /-- What it reports is one problem, which is about these types. -/
  own : ∀ place part, e.at? place = some part → part.isOperator = true →
    problemsAt (e.remarks t hint) place ≠ [] →
      (∃ p, problemsAt (e.remarks t hint) place = [p]) ∧ problemsAt (e.remarks t hint) place =
        part.operatorProblems fun i => e.foundAt t hint (place ++ [i])
  /-- On the way from an operator to a part inside it, only one of the two reports. -/
  once : ∀ place part below, e.at? place = some part → part.isOperator = true →
    problemsAt (e.remarks t hint) place ≠ [] →
      problemsAt (e.remarks t hint) (place ++ below) ≠ [] → below = []
  /-- An operator has no type if something below it is reported or an operand of it has no type. -/
  spoiled : ∀ place part, e.at? place = some part → part.isOperator = true →
    ((∃ i below, problemsAt (e.remarks t hint) (place ++ i :: below) ≠ []) ∨
      ∃ i, i < part.operands.length ∧ e.foundAt t hint (place ++ [i]) = .unknown) →
        e.foundAt t hint place = .unknown
  /-- If something is wrong in one part and nothing around it, all problems are those of the part. -/
  alone : ∀ place leaf, e.at? place = some leaf → e.SoundAround t hint place →
    (leaf.check t (hintAt hint place)).problems ≠ [] →
      (e.check t hint).problems = (leaf.check t (hintAt hint place)).problems ∧
        ∀ r ∈ e.remarks t hint, place <+: r.place

theorem operators_judged (hint : Option Primitive) (e : Expr) : e.JudgedOnce t hint where
  logged := ⟨fun log => (marked_eq t hint [] e log).trans (by rw [Remark.behind_root]),
    remarks_problem t hint e⟩
  judged _ _ hpart hoperator := (part_judged hpart hoperator).1
  own place part hpart hoperator hreports := by
    have hown := (part_judged hpart hoperator).2 hreports
    obtain ⟨p, hp⟩ := List.length_eq_one_iff.mp (Nat.le_antisymm
      (hown ▸ part.operatorProblems_one _) (List.length_pos_iff.mpr hreports))
    exact ⟨⟨p, hp⟩, hown⟩
  once _ _ below hpart hoperator hreports hbelow := by
    have hquiet := ((part_judged hpart hoperator).1.mp hreports).1
    cases below with
    | nil => rfl
    | cons i below => exact absurd (hquiet i below) hbelow
  spoiled _ _ hpart hoperator hfault := part_spoiled hpart hoperator hfault
  alone _ _ hpart hsound hfault := by
    have hremarks := remarks_alone hpart hsound hfault
    refine ⟨?_, fun r hr => ?_⟩
    · rw [← remarks_problem, ← remarks_problem, hremarks, Remark.problem_behind]
    · rw [hremarks] at hr
      obtain ⟨r, -, rfl⟩ := List.mem_map.mp hr
      exact List.prefix_append _ _

/-- A sum of a number and a text, times a number. -/
def textSum : Expr :=
  .binary .unknown (.arith .mul)
    (.binary .unknown (.arith .add) (.lit .unknown "1") (.lit .unknown "\"x\"")) (.lit .unknown "2")

/-- The sum reports the text, and the product has no type and reports nothing. -/
theorem textSum_judged :
    textSum.remarks .start none =
      [⟨[0], .arithmeticOperands (.arith .add) .number (.scalar .sentence)⟩] ∧
    textSum.foundAt .start none [0] = .number ∧ textSum.foundAt .start none [] = .unknown ∧
    problemsAt (textSum.remarks .start none) [] = [] ∧ textSum.JudgedOnce .start none := by
  have h := operators_judged .start none textSum
  have hremarks : textSum.remarks .start none =
      [⟨[0], .arithmeticOperands (.arith .add) .number (.scalar .sentence)⟩] := by decide +kernel
  have hreports : problemsAt (textSum.remarks .start none) [0] ≠ [] := by
    rw [hremarks]
    decide
  refine ⟨hremarks, by decide +kernel, ?_, ?_, h⟩
  · exact h.spoiled [] textSum rfl rfl (.inl ⟨0, [], hreports⟩)
  · exact Decidable.not_not.mp fun hroot => nomatch h.once [] textSum [0] rfl rfl hroot hreports

end Expr

end Primer
