import Primer.Proofs.Annotations
import Primer.Proofs.ArrayEdits
import Primer.Proofs.Frames

/-!
# What a failure leaves

The evaluation of the operands of an action is a part of the action, and all of it that a failure
leaves in the store: what was to be stored or shown is not. The evaluation of an expression without
steps and pops leaves nothing.
-/

namespace Primer

variable {α β : Type}

/-! ## Evaluations that keep the store -/

namespace Expr

/-- Whether the expression changes the store by itself, its operands apart. -/
def isEffect : Expr → Bool
  | step _ _ _ _ | pop _ _ => true
  | _ => false

/-- No part of the expression changes the store. -/
def Effectless (e : Expr) : Prop := ∀ x ∈ e.parts, x.isEffect = false

end Expr

/-- An evaluation that leaves the store as it is, however it ends. -/
def Eval.Still (x : Eval α) : Prop := ∀ s, stateOf (x s) = s

namespace Eval.Still

variable {x : Eval α}

theorem pure (a : α) : Still (Pure.pure a) := fun _ => rfl

theorem throw (f : Fault) : Still (MonadExcept.throw f : Eval α) := fun _ => rfl

theorem lift (y : Except Fault α) : Still (Eval.lift y) := by
  cases y with
  | ok a => exact .pure a
  | error f => exact .throw f

theorem read (look : Store → Except Fault α) : Still (Eval.read look) := fun s => lift (look s) s

theorem bind {f : α → Eval β} (h : Still x) (hf : ∀ a, Still (f a)) : Still (x >>= f) := by
  intro s
  have hs := h s
  cases hx : x s with
  | ok a s' =>
    rw [hx] at hs
    obtain rfl : s' = s := hs
    rw [Ends.run_bind_ok hx]
    exact hf a s'
  | error f s' =>
    rw [hx] at hs
    rw [Ends.run_bind_error hx]
    exact hs

end Eval.Still

namespace Expr

open Eval

mutual
theorem eval_still : (e : Expr) → e.Effectless → Still e.eval
  | lit _ raw, _ => by
      rw [eval]
      exact (Still.lift _).bind fun _ => .pure _
  | var _ name, _ => by
      rw [eval]
      exact .read _
  | binary _ op left right, h => by
      rw [Effectless, parts, List.forall_mem_cons, List.forall_mem_append] at h
      rw [eval]
      exact (eval_still left h.2.1).bind fun _ => (eval_still right h.2.2).bind fun _ => .lift _
  | unary _ op operand, h => by
      rw [Effectless, parts, List.forall_mem_cons] at h
      rw [eval]
      exact (eval_still operand h.2).bind fun _ => .lift _
  | step ty name op fixity, h => by
      have hstep := h (step ty name op fixity) (by rw [parts]; exact List.mem_cons_self)
      cases hstep
  | arrayOf ty elems, h => by
      rw [Effectless, parts, List.forall_mem_cons] at h
      rw [eval]
      exact (evalAll_still elems h.2).bind fun _ => (Still.lift _).bind fun _ => .pure _
  | newArray _ elem size, h => by
      rw [Effectless, parts, List.forall_mem_cons] at h
      rw [eval]
      split
      · exact .throw _
      · refine (eval_still size h.2).bind fun _ => (Still.lift _).bind fun _ => ?_
        exact (Still.lift _).bind fun _ => .pure _
  | index _ name idx, h => by
      rw [Effectless, parts, List.forall_mem_cons] at h
      rw [eval]
      refine (eval_still idx h.2).bind fun _ => (Still.lift _).bind fun _ => ?_
      exact (Still.read _).bind fun _ => (Still.lift _).bind fun _ => .pure _
  | length _ name, _ => by
      rw [eval]
      exact (Still.read _).bind fun _ => .pure _
  | pop ty name, h => by
      have hpop := h (pop ty name) (by rw [parts]; exact List.mem_cons_self)
      cases hpop

theorem evalAll_still : (es : List Expr) → (∀ x ∈ partsAll es, x.isEffect = false) →
    Still (evalAll es)
  | [], _ => by
      rw [evalAll]
      exact .pure _
  | e :: rest, h => by
      rw [partsAll, List.forall_mem_append] at h
      rw [evalAll]
      exact (eval_still e h.1).bind fun _ => (evalAll_still rest h.2).bind fun _ => .pure _
end

theorem evalNumber_still {e : Expr} (h : e.Effectless) : Still e.evalNumber :=
  (eval_still e h).bind fun _ => .lift _

end Expr

/-! ## The operands of an action -/

/-- Whether the array can be assigned to as a whole. -/
def Store.declaresArray (s : Store) (name : String) : Bool :=
  ((s.find? name).bind (·.ty.element?)).isSome

/-- The evaluation of an initializer. A declaration of an invalid type does not come to it. -/
def askInit (ty : String) (init : Option Expr) : Eval Unit :=
  match Primitive.ofName? ty, init with
  | some _, some e => do let _ ← e.eval
  | _, _ => return ()

def DisplayItem.ask : DisplayItem → Eval Unit
  | .expr e => do let _ ← e.eval
  | .named name => do let _ ← Eval.read (·.get name)
  | .literal _ => return ()

/-- The evaluation of the items of a display, up to the first one that fails. -/
def DisplayItem.askAll : List DisplayItem → Eval Unit
  | [] => return ()
  | item :: rest => do
    item.ask
    askAll rest

section
open Eval

theorem askInit_still (ty : String) {init : Option Expr} (h : ∀ e ∈ init.toList, e.Effectless) :
    Still (askInit ty init) := by
  unfold askInit
  split
  · next e _ => exact (e.eval_still (h e (by simp))).bind fun _ => .pure _
  · exact .pure _

theorem DisplayItem.ask_still {item : DisplayItem} (h : ∀ e ∈ item.exprs, e.Effectless) :
    Still item.ask := by
  cases item with
  | expr e => exact (e.eval_still (h e List.mem_cons_self)).bind fun _ => .pure _
  | named name => exact (Still.read _).bind fun _ => .pure _
  | literal raw => exact .pure _

theorem DisplayItem.askAll_still {items : List DisplayItem}
    (h : ∀ e ∈ items.flatMap DisplayItem.exprs, e.Effectless) : Still (askAll items) := by
  induction items with
  | nil => exact .pure _
  | cons item rest ih =>
    rw [List.flatMap_cons, List.forall_mem_append] at h
    exact (ask_still h.1).bind fun _ => ih h.2

end

namespace Action

/-- The evaluation of the operands of an action, up to the first one that fails. An assignment to what
is no array does not come to its operand. -/
def ask : Action → Eval Unit
  | .declare ty _ init | .declareArray ty _ init => askInit ty init
  | .assign _ _ value | .push _ value => do let _ ← value.eval
  | .display item _ => DisplayItem.askAll item.toList
  | .displayAll items _ => DisplayItem.askAll items
  | .input _ => return ()
  | .assignArray name value => do
    if (← get).declaresArray name then do let _ ← value.eval
  | .assignElement _ idx _ value | .set _ idx value => do
    let _ ← idx.evalNumber
    let _ ← value.eval
  | .inputElement _ idx => do let _ ← idx.evalNumber
  | .evaluate e => do let _ ← e.eval

open Eval

theorem ask_still {a : Action} (h : ∀ e ∈ a.exprs, e.Effectless) : Still a.ask := by
  cases a with
  | declare ty name init | declareArray ty name init =>
    rw [ask]
    exact askInit_still ty h
  | assign name op value | push name value =>
    exact (value.eval_still (h value List.mem_cons_self)).bind fun _ => .pure _
  | display item => exact DisplayItem.askAll_still h
  | displayAll items => exact DisplayItem.askAll_still h
  | input => exact .pure _
  | assignArray name value =>
    have hvalue := (value.eval_still (h value List.mem_cons_self)).bind fun _ => .pure ()
    refine Still.bind (fun _ => rfl) fun s => ?_
    split
    · exact hvalue
    · exact .pure _
  | assignElement name idx op value | set name idx value =>
    have hidx := Expr.evalNumber_still (h idx (by simp [exprs]))
    exact hidx.bind fun _ => (value.eval_still (h value (by simp [exprs]))).bind fun _ => .pure _
  | inputElement name idx =>
    exact (Expr.evalNumber_still (h idx List.mem_cons_self)).bind fun _ => .pure _
  | evaluate e => exact (e.eval_still (h e List.mem_cons_self)).bind fun _ => .pure _

end Action

/-! ## Acts that fail -/

/-- A failure of the act leaves what the evaluation leaves in the store, and changes nothing else. -/
def Act.LeavesOnly (ask : Eval Unit) (x : Act α) (m : Machine) : Prop :=
  Ends (x m) (fun _ _ => True) fun _ m' => m' = { m with store := stateOf (ask m.store) }

namespace Act.LeavesOnly

variable {m : Machine} {ask : Eval Unit}

theorem pure (a : α) : LeavesOnly (Pure.pure ()) (Pure.pure a) m := Ends.pure trivial

theorem throw (f : Fault) : LeavesOnly (Pure.pure ()) (MonadExcept.throw f : Act α) m :=
  Ends.throw rfl

theorem change (update : Store → Except Fault Store) :
    LeavesOnly (Pure.pure ()) (Act.change update) m :=
  Act.change_ends ⟨fun _ => trivial, fun _ => rfl⟩

/-- A change of an array leaves the store if it fails, as it leaves the array then. -/
theorem modifyArray {edit : ArrayValue.Edit α} (name : String) (hedit : edit.Atomic) :
    LeavesOnly (Pure.pure ()) (Act.eval (Store.modifyArray name edit)) m :=
  Act.eval_ends ((Store.modifyArray_unchanged hedit).mono (fun _ _ h => h) fun _ _ hs => by rw [hs]; rfl)

theorem write (f : Console → Console) : LeavesOnly (Pure.pure ()) (Act.write f) m :=
  ⟨fun _ => trivial, nofun⟩

theorem lift {y : Except Fault α} {k : α → Act β}
    (hk : ∀ a, LeavesOnly (Pure.pure ()) (k a) m) : LeavesOnly (Pure.pure ()) (Act.lift y >>= k) m := by
  cases y with
  | ok a => exact hk a
  | error f => exact throw f

theorem read {look : Store → Except Fault α} {k : α → Act β}
    (hk : ∀ a, LeavesOnly (Pure.pure ()) (k a) m) :
    LeavesOnly (Pure.pure ()) (Act.read look >>= k) m :=
  Ends.bind (Q := fun _ m' => m' = m) (Act.read_ends ⟨fun _ => rfl, fun _ => rfl⟩)
    fun a _ hm => hm ▸ hk a

/-- An operand is evaluated first. -/
theorem operand {e : Eval α} {k : α → Act β}
    (hk : ∀ v m, LeavesOnly ask (k v) m) : LeavesOnly (e >>= fun _ => ask) (Act.eval e >>= k) m := by
  refine Ends.bind_eq (fun v m' hv => ?_) fun f m' hf => ?_
  · cases he : e m.store with
    | ok w s =>
      rw [Act.eval_ok he] at hv
      cases hv
      rw [Ends.run_bind_ok he]
      exact hk v _
    | error f s =>
      rw [Act.eval_error he] at hv
      cases hv
  · cases he : e m.store with
    | ok w s =>
      rw [Act.eval_ok he] at hf
      cases hf
    | error f s =>
      rw [Act.eval_error he] at hf
      cases hf
      rw [Ends.run_bind_error he]
      rfl

end Act.LeavesOnly

open Act

section
variable (settings : Settings) (name : String) (value idx : Expr) (op : AssignOp) (m : Machine)

theorem performDeclare_leaves (ty : String) (init : Option Expr) :
    LeavesOnly (Action.declare ty name init).ask (performDeclare ty name init) m := by
  rw [Action.ask]
  unfold performDeclare askInit
  cases Primitive.ofName? ty with
  | none => exact .throw _
  | some p =>
    cases init with
    | none =>
      simp only [pure_bind]
      exact .change _
    | some e => exact .operand fun v _ => .lift fun w => .change _

theorem performDeclareArray_leaves (elem : String) (init : Option Expr) :
    LeavesOnly (Action.declareArray elem name init).ask (performDeclareArray elem name init) m := by
  rw [Action.ask]
  unfold performDeclareArray askInit
  cases Primitive.ofName? elem with
  | none => exact .throw _
  | some p =>
    cases init with
    | none =>
      simp only [pure_bind]
      exact .change _
    | some e => exact .operand fun v _ => .lift fun a => .change _

theorem performAssign_leaves :
    LeavesOnly (Action.assign name op value).ask (performAssign name op value) m := by
  refine .operand fun v m => ?_
  cases op with
  | plain => exact .change _
  | compound op =>
    simp only [assignedValue, bind_assoc, pure_bind]
    exact .read fun current => .lift fun a => .lift fun b => .lift fun n => .change _

theorem performAssignArray_leaves :
    LeavesOnly (Action.assignArray name value).ask (performAssignArray name value) m := by
  rw [performAssignArray, Action.ask]
  have hget : (get : Eval Store) m.store = .ok m.store m.store := rfl
  cases hname : m.store.find? name with
  | none =>
    have hbinding : m.store.binding name = .error (.undefinedVariable name) := by
      rw [Store.binding, hname]
    unfold LeavesOnly
    rw [Ends.run_bind_error (Act.read_error hbinding), Ends.run_bind_ok hget, Store.declaresArray,
      hname]
    exact ⟨fun _ => trivial, fun h => by cases h; rfl⟩
  | some b =>
    have hbinding : m.store.binding name = .ok b := by rw [Store.binding, hname]
    unfold LeavesOnly
    rw [Ends.run_bind_ok (Act.read_ok hbinding), Ends.run_bind_ok hget, Store.declaresArray, hname,
      Option.bind_some]
    cases b.ty.element? with
    | none => exact LeavesOnly.throw (.notAnArray name)
    | some elem => exact LeavesOnly.operand fun v m => .lift fun a => .change _

theorem performAssignElement_leaves : LeavesOnly (Action.assignElement name idx op value).ask
    (performAssignElement name idx op value) m := by
  refine .operand fun i m => .operand fun v m => ?_
  cases op with
  | plain => exact .modifyArray name (ArrayValue.set_atomic i v)
  | compound op =>
    simp only [assignedElement, bind_assoc]
    refine .read fun a => .lift fun current => ?_
    split
    · exact .modifyArray name (ArrayValue.set_atomic i _)
    · simp only [bind_assoc]
      exact .lift fun x => .lift fun y => .lift fun n =>
        .modifyArray name (ArrayValue.set_atomic i _)

theorem performSet_leaves : LeavesOnly (Action.set name idx value).ask (performSet name idx value) m :=
  .operand fun i _ => .operand fun v _ => .modifyArray name (ArrayValue.set_atomic i v)

theorem performPush_leaves : LeavesOnly (Action.push name value).ask (performPush name value) m :=
  .operand fun v _ => .modifyArray name (ArrayValue.push_atomic v)

/-- What is shown behind the items does not come to that if one of them fails. -/
theorem shownAll_leaves {k : List String → Act Unit} (items : List DisplayItem) (m : Machine)
    (hk : ∀ texts m, LeavesOnly (pure ()) (k texts) m) :
    LeavesOnly (DisplayItem.askAll items) (shownAll items >>= k) m := by
  induction items generalizing k m with
  | nil => exact hk [] m
  | cons item rest ih =>
    have hrest := fun text m => ih (k := fun texts => k (text :: texts)) m fun texts m => hk _ m
    cases item with
    | expr e =>
      simp only [shownAll, DisplayItem.shown, DisplayItem.askAll, DisplayItem.ask, bind_assoc,
        pure_bind]
      exact .operand fun (v : Value) m => hrest v.text m
    | named n =>
      simp only [shownAll, DisplayItem.shown, DisplayItem.askAll, DisplayItem.ask, bind_assoc,
        pure_bind]
      exact .operand fun (v : Value) m => hrest v.text m
    | literal raw =>
      simp only [shownAll, DisplayItem.shown, DisplayItem.askAll, DisplayItem.ask, bind_assoc,
        pure_bind]
      exact hrest (Literal.unquote raw) m

theorem performDisplay_leaves (items : List DisplayItem) (newline : Bool) :
    LeavesOnly (DisplayItem.askAll items) (performDisplay items newline) m :=
  shownAll_leaves items m fun _ _ => .write _

end

end Primer
