import Primer.Proofs.Typing

/-!
# Remarks

A check keeps one log of problems for all parts of an expression. Whether there is a problem in the
operands of an operator is seen from the length that the log had before them. In the log stands, for
every part that the check comes to, what the part itself has to report.
-/

namespace Primer

variable (t : ScopeTree)

/-! ## Places -/

/-- The way from an expression to a part of it: which operand is taken, step by step. -/
abbrev Place := List Nat

/-- A problem and the part that reports it. -/
structure Remark where
  place : Place
  problem : Problem
deriving DecidableEq

namespace Remark

/-- The remark as it is seen from further outside. -/
def behind (way : Place) (r : Remark) : Remark := { r with place := way ++ r.place }

theorem behind_root (rs : List Remark) : rs.map (behind []) = rs := List.map_id rs

theorem behind_behind (way way' : Place) (rs : List Remark) :
    (rs.map (behind way')).map (behind way) = rs.map (behind (way ++ way')) := by
  simp [behind, Function.comp_def]

theorem problem_behind (way : Place) (rs : List Remark) :
    (rs.map (behind way)).map problem = rs.map problem := by
  simp [behind, Function.comp_def]

end Remark

def reportedAt (place : Place) (problems : List Problem) : List Remark :=
  problems.map fun p => ⟨place, p⟩

theorem reportedAt_behind (place : Place) (problems : List Problem) :
    (reportedAt [] problems).map (.behind place) = reportedAt place problems := by
  simp [reportedAt, Remark.behind, Function.comp_def]

theorem reportedAt_problem (place : Place) (problems : List Problem) :
    (reportedAt place problems).map (·.problem) = problems := by
  simp [reportedAt, Function.comp_def]

theorem Checked.result_ty (c : Checked Expr) : c.result.ty = c.ty := rfl

/-! ## The check with a log -/

/-- What the elements behind one of the type are compared with, or the type that it should have had. -/
def compareElem (first : Option Ty) (ty : Ty) : Except Ty (Option Ty) :=
  if ty.isUnknown then .ok first
  else match first with
    | none => .ok (some ty)
    | some expected => if expected = ty then .ok first else .error expected

namespace Expr

mutual
/-- The check of the part that stands at the place, behind what the log holds already. -/
def marked : Option Primitive → Place → Expr → List Remark → Expr × List Remark
  | _, place, binary _ op left right, log =>
    let mark := log.length
    let (l, log) := marked none (place ++ [0]) left log
    let (r, log) := marked none (place ++ [1]) right log
    if mark < log.length ∨ l.ty.isUnknown ∨ r.ty.isUnknown then (binary .unknown op l r, log)
    else (binary op.resultTy op l r, log ++ reportedAt place (op.operandProblems l.ty r.ty))
  | _, place, unary _ op operand, log =>
    let mark := log.length
    let (c, log) := marked none (place ++ [0]) operand log
    if mark < log.length ∨ c.ty.isUnknown then (unary .unknown op c, log)
    else (unary op.resultTy op c, log ++ reportedAt place (op.operandProblems c.ty))
  | hint, place, arrayOf _ elems, log =>
    let mark := log.length
    match markedElems place 0 none elems log with
    | (elems, none, log) => (arrayOf .unknown elems, log)
    | (elems, some first, log) =>
      if mark < log.length then (arrayOf .unknown elems, log)
      else
        let (ty, problems) := literalTy hint first
        (arrayOf ty elems, log ++ reportedAt place problems)
  | _, place, newArray _ elem size, log =>
    let p := Primitive.ofName? elem
    let ty := match p with
      | some p => .array p
      | none => .unknown
    let invalid := if p.isSome then [] else [.invalidArrayType elem]
    let (s, log) := marked none (place ++ [0]) size (log ++ reportedAt place invalid)
    (newArray ty elem s, log ++ reportedAt place (sizeProblems s.ty))
  | _, place, index _ name idx, log =>
    match t.useArray name with
    | (none, problems) => (index .unknown name idx, log ++ reportedAt place problems)
    | (some elem, problems) =>
      let (i, log) := marked none (place ++ [0]) idx (log ++ reportedAt place problems)
      (index (.scalar elem) name i, log ++ reportedAt place (indexProblems i.ty))
  | hint, place, e, log =>
    let c := e.check t hint
    (c.result, log ++ reportedAt place c.problems)

/-- The check of the elements of an array, with the type that they have been compared with, unless one
of them has another type. -/
def markedElems (place : Place) :
    Nat → Option Ty → List Expr → List Remark → List Expr × Option (Option Ty) × List Remark
  | _, first, [], log => ([], some first, log)
  | i, first, e :: rest, log =>
    let (c, log) := marked none (place ++ [i]) e log
    match compareElem first c.ty with
    | .ok next =>
      let (rest, verdict, log) := markedElems place (i + 1) next rest log
      (c :: rest, verdict, log)
    | .error expected =>
      (c :: rest, none, log ++ reportedAt place [.mixedElements expected c.ty])
end

/-! ## What the log holds -/

mutual
/-- What the parts of an expression report, in order: each part stands between what it reports before
its operands and what it reports after them. -/
def remarks : Option Primitive → Expr → List Remark
  | _, binary _ op left right =>
    let l := left.check t none
    let r := right.check t none
    (remarks none left).map (.behind [0]) ++ (remarks none right).map (.behind [1]) ++
      reportedAt [] (if l.isTyped && r.isTyped then op.operandProblems l.ty r.ty else [])
  | _, unary _ op operand =>
    let c := operand.check t none
    (remarks none operand).map (.behind [0]) ++
      reportedAt [] (if c.isTyped then op.operandProblems c.ty else [])
  | hint, arrayOf _ elems =>
    let c := checkElems t none elems
    remarksElems 0 none elems ++
      reportedAt [] (if c.problems.isEmpty then (literalTy hint c.first).2 else [])
  | _, newArray _ elem size =>
    reportedAt [] (if (Primitive.ofName? elem).isSome then [] else [.invalidArrayType elem]) ++
      (remarks none size).map (.behind [0]) ++ reportedAt [] (sizeProblems (size.check t none).ty)
  | _, index _ name idx =>
    match t.useArray name with
    | (none, problems) => reportedAt [] problems
    | (some _, problems) =>
      reportedAt [] problems ++ (remarks none idx).map (.behind [0]) ++
        reportedAt [] (indexProblems (idx.check t none).ty)
  | hint, e => reportedAt [] (e.check t hint).problems

def remarksElems : Nat → Option Ty → List Expr → List Remark
  | _, _, [] => []
  | i, first, e :: rest =>
    (remarks none e).map (.behind [i]) ++
      match compareElem first (e.check t none).ty with
      | .ok next => remarksElems (i + 1) next rest
      | .error expected => reportedAt [] [.mixedElements expected (e.check t none).ty]
end

theorem checkElems_compared (first : Option Ty) (e : Expr) (rest : List Expr) :
    checkElems t first (e :: rest) =
      match compareElem first (e.check t none).ty with
      | .ok next => .cons (e.check t none) (checkElems t next rest)
      | .error expected => ⟨(e.check t none).result :: rest,
          (e.check t none).problems ++ [.mixedElements expected (e.check t none).ty], first⟩ := by
  unfold compareElem
  cases first with
  | none =>
    simp only [checkElems]
    split <;> rfl
  | some expected =>
    simp only [checkElems]
    split
    · rfl
    · split <;> rfl

mutual
/-- The remarks hold the problems of the check in their order. -/
theorem remarks_problem : (hint : Option Primitive) → (e : Expr) →
    (e.remarks t hint).map (·.problem) = (e.check t hint).problems
  | _, binary _ op left right => by
      simp only [remarks, List.map_append, Remark.problem_behind, reportedAt_problem,
        remarks_problem none left, remarks_problem none right]
      rw [check]
      split
      · next hty =>
        rw [Bool.and_eq_true, Checked.isTyped_iff, Checked.isTyped_iff] at hty
        rw [hty.1.1, hty.2.1]
        rfl
      · rw [List.append_nil]
  | _, unary _ op operand => by
      simp only [remarks, List.map_append, Remark.problem_behind, reportedAt_problem,
        remarks_problem none operand]
      rw [check]
      split
      · next hty =>
        rw [(Checked.isTyped_iff.mp hty).1]
        rfl
      · rw [List.append_nil]
  | hint, arrayOf _ elems => by
      simp only [remarks, List.map_append, reportedAt_problem, remarksElems_problem 0 none elems]
      rw [check, CheckedElems.literal]
      split
      · next hclean =>
        rw [List.isEmpty_iff.mp hclean]
        rfl
      · rw [List.append_nil]
  | _, newArray _ elem size => by
      simp only [remarks, check, List.map_append, Remark.problem_behind, reportedAt_problem,
        remarks_problem none size]
  | _, index _ name idx => by
      rw [remarks, check]
      cases t.useArray name with
      | mk elem problems =>
        cases elem with
        | none => exact reportedAt_problem [] problems
        | some elem =>
          simp only [List.map_append, Remark.problem_behind, reportedAt_problem,
            remarks_problem none idx]
  | _, lit _ _ | _, var _ _ | _, step _ _ _ _ | _, length _ _ | _, pop _ _ => by
      simp only [remarks, reportedAt_problem]

theorem remarksElems_problem : (i : Nat) → (first : Option Ty) → (es : List Expr) →
    (remarksElems t i first es).map (·.problem) = (checkElems t first es).problems
  | _, _, [] => by
      rw [remarksElems, checkElems]
      rfl
  | i, first, e :: rest => by
      rw [remarksElems, checkElems_compared, List.map_append, Remark.problem_behind,
        remarks_problem none e]
      cases compareElem first (e.check t none).ty with
      | ok next => exact congrArg _ (remarksElems_problem (i + 1) next rest)
      | error expected => exact congrArg _ (reportedAt_problem [] _)
end

theorem remarks_nil {hint : Option Primitive} {e : Expr} :
    e.remarks t hint = [] ↔ (e.check t hint).problems = [] := by
  rw [← remarks_problem, List.map_eq_nil_iff]

theorem remarksElems_nil {i : Nat} {first : Option Ty} {es : List Expr} :
    remarksElems t i first es = [] ↔ (checkElems t first es).problems = [] := by
  rw [← remarksElems_problem t i, List.map_eq_nil_iff]

/-- A log has grown if something was put behind it. -/
theorem log_grown {log rs : List Remark} : log.length < (log ++ rs).length ↔ rs ≠ [] := by
  rw [List.length_append, Nat.lt_add_right_iff_pos, List.length_pos_iff]

theorem isTyped_remarks {e : Expr} : (e.check t none).isTyped = true ↔
    e.remarks t none = [] ∧ ¬(e.check t none).ty.isUnknown = true := by
  rw [Checked.isTyped_iff, remarks_nil, Ty.isUnknown_iff]

/-- The log has not grown over an operand with a type just if the operand is typed. -/
theorem judged_unary (log : List Remark) (way : Place) (operand : Expr) :
    ¬(log.length < (log ++ (operand.remarks t none).map (Remark.behind way)).length ∨
      (operand.check t none).ty.isUnknown = true) ↔ (operand.check t none).isTyped = true := by
  rw [log_grown, not_or, Ne, Decidable.not_not, List.map_eq_nil_iff, isTyped_remarks]

theorem judged_binary (log : List Remark) (way way' : Place) (left right : Expr) :
    ¬(log.length < (log ++ (left.remarks t none).map (Remark.behind way) ++
        (right.remarks t none).map (Remark.behind way')).length ∨
      (left.check t none).ty.isUnknown = true ∨ (right.check t none).ty.isUnknown = true) ↔
      ((left.check t none).isTyped && (right.check t none).isTyped) = true := by
  rw [List.append_assoc, log_grown, not_or, not_or, Ne, Decidable.not_not, List.append_eq_nil_iff,
    List.map_eq_nil_iff, List.map_eq_nil_iff, Bool.and_eq_true, isTyped_remarks, isTyped_remarks]
  exact and_and_and_comm

mutual
/-- The check with a log is the check, and the log has grown by the remarks. -/
theorem marked_eq : (hint : Option Primitive) → (place : Place) → (e : Expr) →
    (log : List Remark) → e.marked t hint place log =
      ((e.check t hint).result, log ++ (e.remarks t hint).map (.behind place))
  | _, place, binary _ op left right, log => by
      simp only [marked, check, remarks, marked_eq none (place ++ [0]) left,
        marked_eq none (place ++ [1]) right, List.map_append, Remark.behind_behind,
        reportedAt_behind, Checked.result_ty]
      have htyped := judged_binary t log (place ++ [0]) (place ++ [1]) left right
      by_cases h : ((left.check t none).isTyped && (right.check t none).isTyped) = true
      · rw [if_neg (htyped.mpr h), if_pos h, if_pos h, List.append_assoc log, List.append_assoc]
      · rw [if_pos (Decidable.not_not.mp (mt htyped.mp h)), if_neg h, if_neg h, List.append_assoc]
        simp [reportedAt]
  | _, place, unary _ op operand, log => by
      simp only [marked, check, remarks, marked_eq none (place ++ [0]) operand, List.map_append,
        Remark.behind_behind, reportedAt_behind, Checked.result_ty]
      have htyped := judged_unary t log (place ++ [0]) operand
      by_cases h : (operand.check t none).isTyped = true
      · rw [if_neg (htyped.mpr h), if_pos h, if_pos h, List.append_assoc]
      · rw [if_pos (Decidable.not_not.mp (mt htyped.mp h)), if_neg h, if_neg h]
        simp [reportedAt]
  | hint, place, arrayOf _ elems, log => by
      obtain ⟨verdict, helems, hverdict⟩ := markedElems_eq place 0 none elems log
      simp only [marked, check, CheckedElems.literal, remarks, helems, List.map_append,
        reportedAt_behind]
      have hgrown :
          log.length < (log ++ (remarksElems t 0 none elems).map (Remark.behind place)).length ↔
            ¬(checkElems t none elems).problems.isEmpty = true := by
        rw [log_grown, Ne, List.map_eq_nil_iff, remarksElems_nil, List.isEmpty_iff]
      rcases hverdict with rfl | ⟨rfl, hproblems⟩
      · by_cases h : (checkElems t none elems).problems.isEmpty = true
        · dsimp only
          rw [if_neg (hgrown.not.mpr (not_not_intro h)), if_pos h, if_pos h, List.append_assoc]
        · dsimp only
          rw [if_pos (hgrown.mpr h), if_neg h, if_neg h]
          simp [reportedAt]
      · have h : ¬(checkElems t none elems).problems.isEmpty = true :=
          mt List.isEmpty_iff.mp hproblems
        rw [if_neg h, if_neg h]
        simp [reportedAt]
  | _, place, newArray _ elem size, log => by
      simp only [marked, check, remarks, marked_eq none (place ++ [0]) size, List.map_append,
        reportedAt_behind, Remark.behind_behind, List.append_assoc]
      cases Primitive.ofName? elem <;> rfl
  | _, place, index _ name idx, log => by
      rw [marked, check, remarks]
      cases t.useArray name with
      | mk elem problems =>
        cases elem with
        | none => rw [reportedAt_behind]
        | some elem =>
          simp only [marked_eq none (place ++ [0]) idx, List.map_append, reportedAt_behind,
            Remark.behind_behind, List.append_assoc]
          rfl
  | _, _, lit _ _, _ | _, _, var _ _, _ | _, _, step _ _ _ _, _ | _, _, length _ _, _ |
    _, _, pop _ _, _ => by
      simp only [marked, remarks, reportedAt_behind]

theorem markedElems_eq (place : Place) : (i : Nat) → (first : Option Ty) → (es : List Expr) →
    (log : List Remark) → ∃ verdict, markedElems t place i first es log =
        ((checkElems t first es).elems, verdict,
          log ++ (remarksElems t i first es).map (.behind place)) ∧
      (verdict = some (checkElems t first es).first ∨
        verdict = none ∧ (checkElems t first es).problems ≠ [])
  | _, _, [], log => by
      refine ⟨_, ?_, .inl rfl⟩
      simp [markedElems, checkElems, remarksElems]
  | i, first, e :: rest, log => by
      simp only [markedElems, remarksElems, checkElems_compared, marked_eq none (place ++ [i]) e,
        Checked.result_ty, List.map_append, Remark.behind_behind]
      cases compareElem first (e.check t none).ty with
      | ok next =>
        obtain ⟨verdict, helems, hverdict⟩ := markedElems_eq place (i + 1) next rest
          (log ++ (e.remarks t none).map (.behind (place ++ [i])))
        refine ⟨verdict, ?_, hverdict.imp id fun h => ⟨h.1, ?_⟩⟩
        · simp only [helems, List.append_assoc]
          rfl
        · exact fun hnil => h.2 (List.append_eq_nil_iff.mp hnil).2
      | error expected =>
        refine ⟨none, ?_, .inr ⟨rfl, by simp⟩⟩
        simp only [reportedAt_behind, List.append_assoc]
end

end Expr

end Primer
