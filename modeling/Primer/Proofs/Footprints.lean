import Primer.Proofs.Frames
import Primer.Proofs.Moves

/-!
# The footprint of an evaluation

What an evaluation may change: the number variables that its expression steps, and the arrays that it
pops, which lose elements from their ends. It leaves the console and the frames alone, and every
other name with what it holds.
-/

namespace Primer

/-! ## Single moves -/

/-- Only a number variable takes a number. -/
theorem Value.coerce_number_ok {x : Float} {p : Primitive} {w : Scalar}
    (h : (Value.number x).coerce p = .ok w) : p = .number ∧ w = .number x := by
  cases p with
  | number =>
    cases h
    exact ⟨rfl, rfl⟩
  | letter | sentence | logic => cases h

/-! ## Bindings -/

/-- What a list of moves may make of the binding of a name. -/
inductive Binding.Moved (moves : List Move) (name : String) (b b' : Binding) : Prop where
  | same (h : b'.value = b.value)
  | stepped {x} (hmem : .step name ∈ moves) (hty : b.ty = .number) (h : b'.value = .number x)
  /-- Each pop takes one element from the end at most. -/
  | popped {a a'} (hmem : .pop name ∈ moves) (h : b.value = .array a) (h' : b'.value = .array a')
      (helem : a'.elem = a.elem) (hshorter : a'.items.toList <+: a.items.toList)
      (hsize : a.size ≤ a'.size + moves.count (.pop name))

namespace Binding.Moved

variable {moves more : List Move} {name : String} {b b₁ b' : Binding}

theorem mono (h : Moved moves name b b') (hsub : moves.Sublist more) : Moved more name b b' := by
  cases h with
  | same h => exact .same h
  | stepped hmem hty h => exact .stepped (hsub.mem hmem) hty h
  | popped hmem h h' helem hshorter hsize =>
    have hcount := hsub.count_le (.pop name)
    exact .popped (hsub.mem hmem) h h' helem hshorter (by omega)

theorem trans (hty : b₁.ty = b.ty) (h : Moved moves name b b₁) (h' : Moved more name b₁ b') :
    Moved (moves ++ more) name b b' := by
  cases h' with
  | same hsame =>
    -- nothing is left to do behind the first moves
    cases h with
    | same h => exact .same (hsame.trans h)
    | stepped hmem hnum h => exact .stepped (List.mem_append_left _ hmem) hnum (hsame.trans h)
    | popped hmem hb hb₁ helem hshorter hsize =>
      refine .popped (List.mem_append_left _ hmem) hb (hsame.trans hb₁) helem hshorter ?_
      rw [List.count_append]
      omega
  | stepped hmem hnum hb' => exact .stepped (List.mem_append_right _ hmem) (hty ▸ hnum) hb'
  | popped hmem hb₁ hb' helem hshorter hsize =>
    cases h with
    | same h =>
      refine .popped (List.mem_append_right _ hmem) (h ▸ hb₁) hb' helem hshorter ?_
      rw [List.count_append]
      omega
    | stepped _ _ h =>
      rw [h] at hb₁
      cases hb₁
    | popped _ hb h helem₁ hshorter₁ hsize₁ =>
      rw [h] at hb₁
      cases hb₁
      refine .popped (List.mem_append_right _ hmem) hb hb' (helem.trans helem₁)
        (hshorter.trans hshorter₁) ?_
      rw [List.count_append]
      omega

end Binding.Moved

/-! ## Stores -/

/-- What a list of moves may make of a store. -/
structure Store.MovedBy (moves : List Move) (s s' : Store) : Prop where
  /-- The bound names and their types are the same. -/
  types : ∀ n, (s'.find? n).map (·.ty) = (s.find? n).map (·.ty)
  values : ∀ n b b', s.find? n = some b → s'.find? n = some b' → Binding.Moved moves n b b'

namespace Store.MovedBy

variable {moves more : List Move} {s s₁ s' : Store} {name : String} {b : Binding} {v : Value}

theorem refl (s : Store) : s.MovedBy [] s where
  types _ := rfl
  values n b b' hb hb' := by
    rw [hb] at hb'
    cases hb'
    exact .same rfl

theorem mono (h : s.MovedBy moves s') (hsub : moves.Sublist more) : s.MovedBy more s' :=
  ⟨h.types, fun n b b' hb hb' => (h.values n b b' hb hb').mono hsub⟩

theorem trans (h : s.MovedBy moves s₁) (h' : s₁.MovedBy more s') : s.MovedBy (moves ++ more) s' where
  types n := (h'.types n).trans (h.types n)
  values n b b' hb hb' := by
    have hty := h.types n
    rw [hb, Option.map_some, Option.map_eq_some_iff] at hty
    obtain ⟨b₁, hb₁, hty⟩ := hty
    exact .trans hty (h.values n b b₁ hb hb₁) (h'.values n b₁ b' hb₁ hb')

/-- A move gives one name another value. -/
theorem update (hb : s.find? name = some b) (hv : Binding.Moved moves name b ⟨b.ty, v⟩) :
    s.MovedBy moves (s.declare name b.ty v) where
  types n := by
    rw [find?_declare]
    split
    · next hn =>
      rw [hn, hb]
      rfl
    · rfl
  values n b₁ b' hb₁ hb' := by
    rw [find?_declare] at hb'
    split at hb'
    · next hn =>
      rw [hn, hb] at hb₁
      cases hb₁
      cases hb'
      exact hn ▸ hv
    · rw [hb₁] at hb'
      cases hb'
      exact .same rfl

theorem of_leads {move : Move} (h : move.Leads s s') : s.MovedBy [move] s' := by
  cases h with
  | step h =>
    obtain ⟨b, p, w, hb, hty, hw, rfl⟩ := assign_ok h
    obtain ⟨rfl, rfl⟩ := Value.coerce_number_ok hw
    exact update hb (.stepped List.mem_cons_self hty rfl)
  | pop h =>
    obtain ⟨b, a, a', hb, ha, hpop, rfl⟩ := modifyArray_ok h
    obtain ⟨helem, hitems⟩ := a.pop_last.ok hpop
    refine update hb (.popped List.mem_cons_self ha rfl helem ?_ ?_)
    · rw [hitems, Array.toList_push]
      exact List.prefix_append _ _
    · rw [ArrayValue.size, hitems, Array.size_push, List.count_singleton_self]
      exact Nat.le_refl _

theorem of_moves (h : s.Moves moves s') : s.MovedBy moves s' := by
  induction h with
  | nil => exact refl _
  | cons hmove _ ih => exact (of_leads hmove).trans ih

/-- An evaluation that fails has made some of the moves only. -/
theorem of_makes {α : Type} {x : Eval α} (h : x.Makes moves s) : s.MovedBy moves (stateOf (x s)) := by
  cases hx : x s with
  | ok a s' => exact of_moves (h.ok hx)
  | error f s' =>
    obtain ⟨made, hmade, hs'⟩ := h.error hx
    exact (of_moves hs').mono hmade.sublist

end Store.MovedBy

/-- Without moves the store stays as it is. -/
theorem Eval.Makes.still {α : Type} {x : Eval α} {s : Store} (h : x.Makes [] s) :
    stateOf (x s) = s := by
  cases hx : x s with
  | ok a s' =>
    cases h.ok hx
    rfl
  | error f s' =>
    obtain ⟨made, hmade, hs'⟩ := h.error hx
    rw [List.prefix_nil.mp hmade] at hs'
    cases hs'
    rfl

/-! ## Expressions -/

theorem Exec.stateOf_eval (e : Expr) (m : Machine) :
    stateOf (Exec.eval e m) = { m with store := stateOf (e.eval m.store) } := by
  cases he : e.eval m.store with
  | ok v s => rw [Exec.eval, Exec.act_ok (Act.eval_ok he), stateOf_ok, stateOf_ok]
  | error f s => rw [Exec.eval, Exec.act_error (Act.eval_error he), stateOf_error, stateOf_error]

namespace Expr

/-- However the evaluation of an expression ends, the names and their types are the same behind it. A
value is another one only if it is a number that the expression steps, or an array that it pops: the
array is then a beginning of the old one and lacks one element at most for each pop. Console and
frames are the same. An expression without steps and pops changes nothing. -/
theorem eval_footprint (e : Expr) (m : Machine) :
    m.store.MovedBy e.moves (stateOf (Exec.eval e m)).store ∧
    (stateOf (Exec.eval e m)).console = m.console ∧
    (stateOf (Exec.eval e m)).frames = m.frames ∧
    (e.moves = [] → stateOf (Exec.eval e m) = m) := by
  rw [Exec.stateOf_eval]
  have hmakes := e.eval_makes m.store
  refine ⟨.of_makes hmakes, rfl, rfl, fun hmoves => ?_⟩
  rw [hmoves] at hmakes
  rw [hmakes.still]

/-- A machine with a number and an array of two elements. -/
def scored : Machine where
  store := (Store.empty.declare "x" .number (.number 0.0)).declare "xs" (.array .sentence)
    (.array ⟨.sentence, #[.sentence "a", .sentence "b"]⟩)
  frames := [true]
  console := .scripted ["c"]

/-- A step and a pop in front of an array that is missing. -/
def interrupted : Expr :=
  .arrayOf .unknown
    [.step .unknown "x" .inc .post, .pop .unknown "xs", .length .unknown "ys"]

theorem interrupted_footprint :
    let m' := stateOf (Exec.eval interrupted scored)
    (∃ m, Exec.eval interrupted scored = .error (.failed (.of (.undefinedVariable "ys"))) m) ∧
    (∃ b b', scored.store.find? "xs" = some b ∧ m'.store.find? "xs" = some b' ∧
      b'.value = .array ⟨.sentence, #[.sentence "a"]⟩ ∧ b.Moved interrupted.moves "xs" b') ∧
    (m'.store.find? "x").map (·.ty) = some .number ∧ m'.console = scored.console ∧
    m'.frames = [true] ∧
    (Expr.length .unknown "xs").moves = [] ∧
    stateOf (Exec.eval (.length .unknown "xs") scored) = scored := by
  obtain ⟨hmoved, hconsole, hframes, -⟩ := eval_footprint interrupted scored
  obtain ⟨-, -, -, hpure⟩ := eval_footprint (.length .unknown "xs") scored
  refine ⟨⟨_, rfl⟩, ⟨_, _, rfl, rfl, rfl, hmoved.values "xs" _ _ rfl rfl⟩, ?_, hconsole, hframes,
    rfl, hpure rfl⟩
  exact hmoved.types "x"

end Expr

end Primer
