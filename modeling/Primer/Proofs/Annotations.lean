import Primer.Proofs.Erasure
import Primer.Proofs.Retention
import Primer.Proofs.Parts

/-!
# Annotations

An expression keeps the type that a check found for it. The type is unknown only where the check
reports a problem, so that every expression in an accepted program has one.
-/

namespace Primer

open Check

/-! ## Scopes that a check can come to -/

/-- The scopes between the first statement of a program and the last. -/
inductive ScopeTree.Reachable : ScopeTree → Prop where
  | start : Reachable .start
  | action {t : ScopeTree} (a : Action) : Reachable t → Reachable (a.check t).scopes
  | enter {t : ScopeTree} (kind : ScopeKind) : Reachable t → Reachable (t.enter kind)
  | exit {t : ScopeTree} : Reachable t → Reachable t.exit

namespace ScopeTree

variable {t t' : ScopeTree}

theorem reachable_respected : Respected fun t t' => t.Reachable → t'.Reachable where
  refl _ := id
  trans h h' := h' ∘ h
  action _ a := .action a
  block h ht := .exit (h (.enter _ ht))

theorem Reachable.declared_known (h : t.Reachable) : ∀ e ∈ t.declared, e.2 ≠ .unknown := by
  induction h with
  | start =>
    intro e he
    simp [declared, live, ScopeTree.start, Scope.empty, Scope.entries] at he
  | @action t a _ ih =>
    intro e he
    rcases (a.check_extends t).mem he with hadds | ht
    · exact Action.adds_known hadds
    · exact ih e ht
  | enter kind _ ih =>
    intro e he
    exact ih e (declared_enter ▸ he)
  | exit _ ih =>
    intro e he
    exact ih e (declared_exit he)

theorem Reachable.known (h : t.Reachable) : t.Known :=
  fun n ty hn => h.declared_known (n, ty) (mem_declared hn)

end ScopeTree

theorem Expr.check_unknown {t : ScopeTree} (ht : t.Known) {e : Expr} {hint : Option Primitive}
    (h : (e.check t hint).ty = .unknown) : (e.check t hint).problems ≠ [] :=
  fun hclean => (check_typed ht hint e hclean).known h

/-! ## The expressions of a program -/

namespace Expr

mutual
/-- The expression and all expressions in it, in the order of their types. -/
def parts : Expr → List Expr
  | lit ty raw => [lit ty raw]
  | var ty name => [var ty name]
  | binary ty op left right => binary ty op left right :: (parts left ++ parts right)
  | unary ty op operand => unary ty op operand :: parts operand
  | step ty name op fixity => [step ty name op fixity]
  | arrayOf ty elems => arrayOf ty elems :: partsAll elems
  | newArray ty elem size => newArray ty elem size :: parts size
  | index ty name idx => index ty name idx :: parts idx
  | length ty name => [length ty name]
  | pop ty name => [pop ty name]

def partsAll : List Expr → List Expr
  | [] => []
  | e :: rest => parts e ++ partsAll rest
end

mutual
theorem parts_types : (e : Expr) → e.parts.map ty = e.types
  | lit _ _ | var _ _ | step _ _ _ _ | length _ _ | pop _ _ => by simp [parts, types, ty]
  | binary _ _ left right => by simp [parts, types, ty, parts_types left, parts_types right]
  | unary _ _ e | newArray _ _ e | index _ _ e => by simp [parts, types, ty, parts_types e]
  | arrayOf _ elems => by simp [parts, types, ty, partsAll_types elems]

theorem partsAll_types : (es : List Expr) → (partsAll es).map ty = typesAll es
  | [] => by simp [partsAll, typesAll]
  | e :: rest => by simp [partsAll, typesAll, parts_types e, partsAll_types rest]
end

mutual
theorem Typed.parts {Γ : Context} {x : Expr} : (e : Expr) → e.Typed Γ → x ∈ e.parts → x.Typed Γ
  | lit _ _, h, hx | var _ _, h, hx | step _ _ _ _, h, hx | length _ _, h, hx | pop _ _, h, hx => by
      rw [Expr.parts, List.mem_singleton] at hx
      exact hx ▸ h
  | binary _ _ left right, h, hx => by
      simp only [Expr.parts, List.mem_cons, List.mem_append] at hx
      rcases hx with rfl | hx | hx
      · exact h
      · exact Typed.parts left h.2.2.1 hx
      · exact Typed.parts right h.2.2.2 hx
  | unary _ _ e, h, hx | newArray _ _ e, h, hx | index _ _ e, h, hx => by
      simp only [Expr.parts, List.mem_cons] at hx
      rcases hx with rfl | hx
      · exact h
      · exact Typed.parts e h.2.2 hx
  | arrayOf _ elems, h, hx => by
      simp only [Expr.parts, List.mem_cons] at hx
      rcases hx with rfl | hx
      · exact h
      · obtain ⟨p, -, helems⟩ := h
        exact TypedAll.parts elems helems hx

theorem TypedAll.parts {Γ : Context} {x : Expr} {ty : Ty} :
    (es : List Expr) → TypedAll Γ ty es → x ∈ partsAll es → x.Typed Γ
  | e :: rest, h, hx => by
      simp only [partsAll, List.mem_append] at hx
      rcases hx with hx | hx
      · exact Typed.parts e h.1.2 hx
      · exact TypedAll.parts rest h.2 hx
end

end Expr

def DisplayItem.exprs : DisplayItem → List Expr
  | .expr e => [e]
  | _ => []

/-- The expressions of an action that stand in no other expression. -/
def Action.exprs : Action → List Expr
  | .declare _ _ init | .declareArray _ _ init => init.toList
  | .assign _ _ value | .assignArray _ value | .push _ value => [value]
  | .display item _ => item.toList.flatMap DisplayItem.exprs
  | .displayAll items _ => items.flatMap DisplayItem.exprs
  | .input _ => []
  | .assignElement _ i _ value | .set _ i value => [i, value]
  | .inputElement _ i => [i]
  | .evaluate e => [e]

namespace Stmt

mutual
/-- The expressions of a statement that stand in no other expression. -/
def exprs : Stmt → List Expr
  | action _ a => a.exprs
  | jump _ _ => []
  | branch _ cond body elseIfs otherwise =>
    cond :: (exprsAll body ++ exprsArms elseIfs ++ exprsBody otherwise)
  | loop _ init cond update body => exprsOf init ++ cond :: (exprsOf update ++ exprsAll body)
  | doWhile _ body cond => exprsAll body ++ [cond]
  | switch _ scrutinee cases fallback => scrutinee :: (exprsArms cases ++ exprsBody fallback)

def exprsOf : Option Stmt → List Expr
  | none => []
  | some s => exprs s

def exprsAll : List Stmt → List Expr
  | [] => []
  | s :: rest => exprs s ++ exprsAll rest

def exprsArms : List (Expr × List Stmt) → List Expr
  | [] => []
  | (e, body) :: rest => e :: (exprsAll body ++ exprsArms rest)

def exprsBody : Option (List Stmt) → List Expr
  | none => []
  | some body => exprsAll body
end

end Stmt

/-- The expressions of a program at any depth. -/
def Program.nodes (p : Program) : List Expr := (Stmt.exprsAll p.stmts).flatMap Expr.parts

/-! They are those whose types are on the program. -/

theorem Action.exprs_types (a : Action) : (a.exprs.flatMap Expr.parts).map Expr.ty = a.types := by
  have hitem : ∀ i : DisplayItem, (i.exprs.flatMap Expr.parts).map Expr.ty = i.types := by
    intro i
    cases i <;> simp [DisplayItem.exprs, DisplayItem.types, Expr.parts_types]
  have hitems : ∀ items : List DisplayItem,
      ((items.flatMap DisplayItem.exprs).flatMap Expr.parts).map Expr.ty =
        items.flatMap DisplayItem.types := by
    intro items
    induction items with
    | nil => rfl
    | cons i rest ih =>
      simp only [List.flatMap_cons, List.flatMap_append, List.map_append, hitem, ih]
  cases a with
  | declare _ _ init | declareArray _ _ init =>
    cases init <;> simp [exprs, types, Expr.typesOf, Expr.parts_types]
  | display item => exact hitems item.toList
  | displayAll items => exact hitems items
  | _ => simp [exprs, types, Expr.parts_types]

namespace Stmt

mutual
theorem exprs_types : (s : Stmt) → (s.exprs.flatMap Expr.parts).map Expr.ty = s.types
  | action _ a => by simp only [exprs, types, a.exprs_types]
  | jump _ _ => by simp [exprs, types]
  | branch _ cond body elseIfs otherwise => by
      simp [exprs, types, cond.parts_types, exprsAll_types body, exprsArms_types elseIfs,
        exprsBody_types otherwise]
  | loop _ init cond update body => by
      simp [exprs, types, cond.parts_types, exprsOf_types init, exprsOf_types update,
        exprsAll_types body]
  | doWhile _ body cond => by simp [exprs, types, cond.parts_types, exprsAll_types body]
  | switch _ scrutinee cases fallback => by
      simp [exprs, types, scrutinee.parts_types, exprsArms_types cases, exprsBody_types fallback]

theorem exprsOf_types :
    (s : Option Stmt) → ((exprsOf s).flatMap Expr.parts).map Expr.ty = typesOf s
  | none => by simp [exprsOf, typesOf]
  | some s => by simp only [exprsOf, typesOf, exprs_types s]

theorem exprsAll_types :
    (body : List Stmt) → ((exprsAll body).flatMap Expr.parts).map Expr.ty = typesAll body
  | [] => by simp [exprsAll, typesAll]
  | s :: rest => by simp [exprsAll, typesAll, exprs_types s, exprsAll_types rest]

theorem exprsArms_types : (arms : List (Expr × List Stmt)) →
    ((exprsArms arms).flatMap Expr.parts).map Expr.ty = typesArms arms
  | [] => by simp [exprsArms, typesArms]
  | (e, body) :: rest => by
      simp [exprsArms, typesArms, e.parts_types, exprsAll_types body, exprsArms_types rest]

theorem exprsBody_types : (body : Option (List Stmt)) →
    ((exprsBody body).flatMap Expr.parts).map Expr.ty = typesBody body
  | none => by simp [exprsBody, typesBody]
  | some body => by simp only [exprsBody, typesBody, exprsAll_types body]
end

end Stmt

theorem Program.nodes_types (p : Program) : p.nodes.map Expr.ty = p.types :=
  Stmt.exprsAll_types p.stmts

end Primer
