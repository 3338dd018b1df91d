import Primer.Syntax

/-!
# Lines

What goes wrong in a program goes wrong in statements that stand in one another. The line of it is that
of the innermost of them that has a line.
-/

namespace Primer

/-- The line of the innermost of the statements that has one. They stand from the outside in. -/
def innermostLine (stack : List Stmt) : Option Line := (stack.filterMap Stmt.line).getLast?

@[simp] theorem innermostLine_cons (stack : List Stmt) (s : Stmt) :
    innermostLine (s :: stack) = (innermostLine stack <|> s.line) := by
  cases hs : s.line <;> cases h : stack.filterMap Stmt.line <;>
    simp [innermostLine, hs, h, List.getLast?_cons]

/-- The statements that a statement holds itself, without those further in. -/
def Stmt.inner : Stmt → List Stmt
  | action _ _ | jump _ _ => []
  | branch _ _ body elseIfs otherwise => body ++ elseIfs.flatMap (·.2) ++ otherwise.getD []
  | loop _ init _ update body => init.toList ++ update.toList ++ body
  | doWhile _ body _ => body
  | switch _ _ cases fallback => cases.flatMap (·.2) ++ fallback.getD []

section
variable {arm : Expr × List Stmt} {arms : List (Expr × List Stmt)} (line : Option Line) (e : Expr)

theorem Stmt.elseIf_inner (h : arm ∈ arms) (body : List Stmt) (otherwise : Option (List Stmt)) :
    arm.2 ⊆ (branch line e body arms otherwise).inner := fun _ hs =>
  List.mem_append_left _ (List.mem_append_right _ (List.mem_flatMap.mpr ⟨arm, h, hs⟩))

theorem Stmt.case_inner (h : arm ∈ arms) (fallback : Option (List Stmt)) :
    arm.2 ⊆ (switch line e arms fallback).inner := fun _ hs =>
  List.mem_append_left _ (List.mem_flatMap.mpr ⟨arm, h, hs⟩)

end

/-- The statements stand in one another, from the outside in: the first is one of those given, each
holds the next, and the last has the property. Without any statement, it is the place itself that has
it. -/
def Nested (own : Stmt → Prop) (here : Prop) (stmts : List Stmt) : List Stmt → Prop
  | [] => here
  | s :: stack => s ∈ stmts ∧ Nested own (own s) s.inner stack

end Primer
