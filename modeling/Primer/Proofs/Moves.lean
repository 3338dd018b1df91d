import Primer.Proofs.Evaluation

/-!
# The moves of an evaluation

An evaluation changes the store by its moves only: a step gives a variable another number, and a
pop takes the last element of an array. An evaluation that succeeds makes the moves of its expression,
all of them and in order, and one that fails makes the first few of them.
-/

namespace Primer

/-! ## Changes of the store -/

namespace Store

variable {s s' : Store} {name : String} {v : Value}

theorem assign_ok (h : s.assign name v = .ok s') :
    ∃ b p w, s.find? name = some b ∧ b.ty = .scalar p ∧ v.coerce p = .ok w ∧
      s' = s.declare name b.ty (.scalar w) := by
  obtain ⟨p, hp, h⟩ := Yields.ok_of_bind h
  obtain ⟨w, hw, h⟩ := Yields.ok_of_bind h
  obtain ⟨b, hb, rfl⟩ := put_ok h
  obtain ⟨⟨ty, value⟩, hb', hp⟩ := Yields.ok_of_bind hp
  rw [binding_ok hb'] at hb
  cases hb
  cases ty with
  | scalar q =>
    cases hp
    exact ⟨_, _, w, binding_ok hb', rfl, hw, rfl⟩
  | array | unknown => cases hp

end Store

/-! ## Moves -/

/-- A change that a part of an expression makes to a name. -/
inductive Move where
  | step (name : String)
  | pop (name : String)
deriving DecidableEq

/-- The move leads from one store to the other. -/
inductive Move.Leads : Move → Store → Store → Prop where
  | step {name x s s'} : s.assign name (.number x) = .ok s' → Leads (.step name) s s'
  | pop {name v s s'} : s.popArray name = .ok v s' → Leads (.pop name) s s'

/-- The moves, made in order, lead from one store to the other. -/
inductive Store.Moves : Store → List Move → Store → Prop where
  | nil {s} : Moves s [] s
  | cons {move moves s s₁ s'} : move.Leads s s₁ → Moves s₁ moves s' → Moves s (move :: moves) s'

namespace Store.Moves

variable {s s' s'' : Store} {move : Move} {moves more : List Move} {I : Store → Prop}

theorem one (h : move.Leads s s') : s.Moves [move] s' := .cons h .nil

theorem append (h : s.Moves moves s') (h' : s'.Moves more s'') : s.Moves (moves ++ more) s'' := by
  induction h with
  | nil => exact h'
  | cons hmove _ ih => exact .cons hmove (ih h')

/-- What each move keeps holds after all of them. -/
theorem keeps (hI : ∀ {move s s'}, Move.Leads move s s' → I s → I s') (h : s.Moves moves s') (hs : I s) :
    I s' := by
  induction h with
  | nil => exact hs
  | cons hmove _ ih => exact ih (hI hmove hs)

end Store.Moves

namespace Expr

mutual
/-- The moves of an expression, in the order of evaluation. -/
def moves : Expr → List Move
  | lit _ _ | var _ _ | length _ _ => []
  | binary _ _ left right => moves left ++ moves right
  | unary _ _ e | newArray _ _ e | index _ _ e => moves e
  | step _ name _ _ => [.step name]
  | arrayOf _ elems => movesAll elems
  | pop _ name => [.pop name]

def movesAll : List Expr → List Move
  | [] => []
  | e :: rest => moves e ++ movesAll rest
end

end Expr

/-! ## Evaluations -/

namespace Eval

variable {α β : Type} {moves more : List Move} {s : Store}

/-- An evaluation from a store makes the moves, or fails before it has made all of them. -/
def Makes (x : Eval α) (moves : List Move) (s : Store) : Prop :=
  Ends (x s) (fun _ s' => s.Moves moves s') fun _ s' => ∃ made, made <+: moves ∧ s.Moves made s'

namespace Makes

theorem pure (a : α) : Makes (Pure.pure a) [] s := Ends.pure .nil

theorem throw (f : Fault) : Makes (MonadExcept.throw f : Eval α) moves s :=
  Ends.throw ⟨[], List.nil_prefix, .nil⟩

theorem lift (x : Except Fault α) : Makes (Eval.lift x) [] s :=
  lift_ends ⟨fun _ => .nil, fun _ => ⟨[], List.prefix_rfl, .nil⟩⟩

theorem read (look : Store → Except Fault α) : Makes (Eval.read look) [] s := lift (look s)

theorem bind {x : Eval α} {f : α → Eval β} (h : x.Makes moves s)
    (hf : ∀ a s', (f a).Makes more s') : (x >>= f).Makes (moves ++ more) s := by
  refine Ends.bind_eq (fun a s₁ hx => ?_) fun e s₁ hx => ?_
  · have h₁ := h.ok hx
    refine (hf a s₁).mono (fun _ _ h₂ => h₁.append h₂) fun _ _ h₂ => ?_
    obtain ⟨made, hmade, h₂⟩ := h₂
    exact ⟨_, (List.prefix_append_right_inj moves).mpr hmade, h₁.append h₂⟩
  · obtain ⟨made, hmade, h₁⟩ := h.error hx
    exact ⟨made, hmade.trans (List.prefix_append _ _), h₁⟩

/-- The rest of an evaluation may make no moves. -/
theorem andThen {x : Eval α} {f : α → Eval β} (h : x.Makes moves s)
    (hf : ∀ a s', (f a).Makes [] s') : (x >>= f).Makes moves s :=
  List.append_nil moves ▸ h.bind hf

/-- What each move keeps holds after the evaluation, however it ends. -/
theorem keeps {x : Eval α} {I : Store → Prop}
    (hI : ∀ {move s s'}, Move.Leads move s s' → I s → I s') (h : x.Makes moves s) (hs : I s) :
    Ends (x s) (fun _ s' => I s') fun _ s' => I s' :=
  h.mono (fun _ _ h => h.keeps hI hs) fun _ _ ⟨_, _, h⟩ => h.keeps hI hs

theorem change {update : Store → Except Fault Store} {move : Move}
    (h : ∀ {s'}, update s = .ok s' → move.Leads s s') : (Eval.change update).Makes [move] s :=
  change_ends ⟨fun hs => .one (h hs), fun _ => ⟨[], List.nil_prefix, .nil⟩⟩

theorem popArray (name : String) (s : Store) : Makes (Store.popArray name) [.pop name] s where
  ok h := .one (.pop h)
  error h :=
    ⟨[], List.nil_prefix, (Store.modifyArray_unchanged ArrayValue.pop_atomic).error h ▸ .nil⟩

end Makes

end Eval

open Eval

theorem evalStep_makes (name : String) (op : StepOp) (fixity : Fixity) (s : Store) :
    (evalStep name op fixity).Makes [.step name] s := by
  refine (Makes.read _).bind fun v s₁ => (Makes.lift _).bind fun old s₂ => ?_
  exact (Makes.change fun h => .step h).andThen fun _ s₃ => .pure _

namespace Expr

theorem pop_makes (ty : Ty) (name : String) (s : Store) : (pop ty name).eval.Makes [.pop name] s := by
  rw [eval]
  exact (Makes.popArray name s).andThen fun _ _ => .pure _

mutual
theorem eval_makes : (e : Expr) → (s : Store) → e.eval.Makes e.moves s
  | .lit ty raw, s => by
      rw [eval, moves]
      exact (Makes.lift _).andThen fun v s₁ => .pure _
  | .var ty name, s => by
      rw [eval, moves]
      exact .read _
  | .binary ty op left right, s => by
      rw [eval, moves]
      refine (eval_makes left s).bind fun a s₁ => ?_
      exact (eval_makes right s₁).andThen fun b s₂ => .lift _
  | .unary ty op operand, s => by
      rw [eval, moves]
      exact (eval_makes operand s).andThen fun v s₁ => .lift _
  | .step ty name op fixity, s => by
      rw [eval, moves]
      exact evalStep_makes name op fixity s
  | .arrayOf ty elems, s => by
      rw [eval, moves]
      refine (evalAll_makes elems s).andThen fun values s₁ => ?_
      exact (Makes.lift _).andThen fun a s₂ => .pure _
  | .newArray ty elem size, s => by
      rw [eval, moves]
      cases Primitive.ofName? elem with
      | none => exact .throw _
      | some p =>
        refine (eval_makes size s).andThen fun v s₁ => (Makes.lift _).andThen fun n s₂ => ?_
        exact (Makes.lift _).andThen fun a s₃ => .pure _
  | .index ty name idx, s => by
      rw [eval, moves]
      refine (eval_makes idx s).andThen fun v s₁ => (Makes.lift _).andThen fun i s₂ => ?_
      refine (Makes.read _).andThen fun a s₃ => ?_
      exact (Makes.lift _).andThen fun w s₄ => .pure _
  | .length ty name, s => by
      rw [eval, moves]
      exact (Makes.read _).andThen fun a s₁ => .pure _
  | .pop ty name, s => pop_makes ty name s

theorem evalAll_makes : (es : List Expr) → (s : Store) → (evalAll es).Makes (movesAll es) s
  | [], s => by
      rw [evalAll, movesAll]
      exact .pure _
  | e :: rest, s => by
      rw [evalAll, movesAll]
      refine (eval_makes e s).bind fun v s₁ => ?_
      exact (evalAll_makes rest s₁).andThen fun values s₂ => .pure _
end

theorem evalNumber_makes (e : Expr) (s : Store) : e.evalNumber.Makes e.moves s :=
  (eval_makes e s).andThen fun _ _ => .lift _

end Expr

end Primer
