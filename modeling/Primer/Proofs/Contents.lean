import Primer.Proofs.Evaluation

/-!
# What the store holds

Whatever program runs, checked or not, a name holds a value of the type with which it was declared,
with two exceptions that input brings about: a name of a truth value and a name of an array may hold
a text. Every conversion yields a value of its target whatever it is given, and none of them ends in
the fault of a jump.
-/

namespace Primer

/-! ## Faults -/

/-- The faults of a jump outside a loop. -/
def Fault.isStray : Fault → Bool
  | .breakOutsideLoop | .continueOutsideLoop => true
  | _ => false

/-- A conversion whose value has a property and whose fault is not that of a jump. -/
abbrev Gives {α : Type} (x : Except Fault α) (Q : α → Prop) : Prop := Yields x Q (·.isStray = false)

/-! ## Conversions of any value -/

theorem Fault.badElement_isStray (p : Primitive) (text : String) :
    (badElement p text).isStray = false := by
  cases p <;> rfl

theorem Scalar.toNumber_gives (v : Scalar) : Gives v.toNumber fun _ => True := by
  unfold toNumber
  repeat' split
  all_goals first
    | exact .value trivial
    | exact .fault rfl

theorem Scalar.toLogic_gives (v : Scalar) : Gives v.toLogic fun _ => True := by
  unfold toLogic
  repeat' split
  all_goals first
    | exact .value trivial
    | exact .fault rfl

theorem Scalar.ofLiteral_gives (raw : String) : Gives (Scalar.ofLiteral raw) fun _ => True :=
  ⟨fun _ => trivial, fun h => ofLiteral_error h ▸ rfl⟩

namespace Value

theorem toNumber_gives (v : Value) : Gives v.toNumber fun _ => True := by
  cases v with
  | scalar v => exact v.toNumber_gives
  | array a => exact .fault rfl

theorem toLogic_gives (v : Value) : Gives v.toLogic fun _ => True := by
  cases v with
  | scalar v => exact v.toLogic_gives
  | array a => exact .fault rfl

theorem coerce_gives (p : Primitive) (v : Value) : Gives (v.coerce p) (·.primitive = p) := by
  unfold coerce
  split
  · exact (v.toNumber_gives.mono (fun _ _ => rfl) fun _ hf => hf).map
  · exact (v.toLogic_gives.mono (fun _ _ => rfl) fun _ hf => hf).map
  all_goals first
    | exact .value rfl
    | exact .fault rfl

theorem coerceElement_gives (p : Primitive) (v : Value) :
    Gives (v.coerceElement p) (·.primitive = p) := by
  unfold coerceElement
  repeat' split
  all_goals first
    | exact .value rfl
    | exact .fault (Fault.badElement_isStray _ _)

end Value

namespace ArrayValue

variable {p : Primitive} {a : ArrayValue}

theorem ofSize_gives (p : Primitive) (n : Float) : Gives (ofSize p n) (Of p) := by
  refine ⟨(ofSize_yields p n).ok, fun {f} h => ?_⟩
  have hdata := (ofSize_yields p n).error h
  cases f <;> first | rfl | cases hdata

theorem ofValues_gives (p : Primitive) (values : List Value) : Gives (ofValues p values) (Of p) := by
  refine Yields.map ((Yields.mapM fun v _ => v.coerceElement_gives p).mono (fun items h => ?_)
    fun _ hf => hf)
  exact ⟨rfl, by simpa using h⟩

theorem position_gives (a : ArrayValue) (i : Float) : Gives (a.position i) fun _ => True := by
  unfold position
  repeat' split
  all_goals first
    | exact .value trivial
    | exact .fault rfl

theorem get_gives (a : ArrayValue) (i : Float) : Gives (a.get i) fun _ => True := by
  have hpos := a.position_gives i
  unfold get
  cases hp : a.position i with
  | error f => exact .fault (hpos.error hp)
  | ok k =>
    simp only
    split
    · exact .value trivial
    · exact .fault rfl

theorem set_gives (ha : a.Of p) (i : Float) (v : Value) :
    (set i v).Makes a (fun _ b => b.Of p) (·.isStray = false) :=
  .set ((a.position_gives i).mono (fun _ _ => (v.coerceElement_gives a.elem).mono
    (fun _ hw => ha.setIfInBounds (hw.trans ha.1)) fun _ hf => hf) fun _ hf => hf)

theorem push_gives (ha : a.Of p) (v : Value) :
    (push v).Makes a (fun _ b => b.Of p) (·.isStray = false) :=
  .push ((v.coerceElement_gives a.elem).mono (fun _ hw => ha.push (hw.trans ha.1)) fun _ hf => hf)

end ArrayValue

/-! ## Values -/

/-- A value whose elements have its element type, if it is an array. -/
def Value.Regular (v : Value) : Prop := ∀ a, v = .array a → a.Of a.elem

theorem Value.Regular.scalar (v : Scalar) : (Value.scalar v).Regular := by
  intro a h
  cases h

theorem Value.Regular.array {a : ArrayValue} {p : Primitive} (h : a.Of p) :
    (Value.array a).Regular := by
  rintro b ⟨⟩
  exact h.1 ▸ h

theorem Value.Regular.of_ty {v : Value} {ty : Ty} (h : v.ty = ty) (hty : ty.isArray = false) :
    v.Regular := by
  rintro a rfl
  cases h
  cases hty

theorem Value.Regular.toArray_gives {v : Value} (hv : v.Regular) (p : Primitive) :
    Gives (v.toArray p) (ArrayValue.Of p) := by
  cases v with
  | scalar w => exact .fault rfl
  | array a =>
    have ha := hv a rfl
    simp only [Value.toArray, ArrayValue.retype]
    split
    · next h => exact .value (h ▸ ha)
    · exact ArrayValue.ofValues_gives p _

theorem ArithOp.apply_gives (op : ArithOp) (a b : Float) : Gives (op.apply a b) fun _ => True := by
  unfold ArithOp.apply
  repeat' split
  all_goals first
    | exact .value trivial
    | exact .fault rfl

theorem BinaryOp.apply_gives (op : BinaryOp) (a b : Value) :
    Gives (op.apply a b) (·.ty = op.resultTy) := by
  cases op with
  | arith op =>
    refine a.toNumber_gives.bind fun x _ => b.toNumber_gives.bind fun y _ => ?_
    exact (op.apply_gives x y).bind fun n _ => .value rfl
  | order op =>
    refine a.toNumber_gives.bind fun x _ => b.toNumber_gives.bind fun y _ => ?_
    exact .value rfl
  | logic op =>
    refine a.toLogic_gives.bind fun x _ => b.toLogic_gives.bind fun y _ => ?_
    exact .value rfl
  | equal | notEqual => exact .value rfl

theorem UnaryOp.apply_gives (op : UnaryOp) (v : Value) :
    Gives (op.apply v) (·.ty = op.resultTy) := by
  cases op with
  | not => exact (v.toLogic_gives.mono (fun _ _ => rfl) fun _ hf => hf).map
  | plus | neg => exact (v.toNumber_gives.mono (fun _ _ => rfl) fun _ hf => hf).map

theorem BinaryOp.apply_regular (op : BinaryOp) (a b : Value) :
    Gives (op.apply a b) Value.Regular :=
  (op.apply_gives a b).mono (fun _ h => .of_ty h (by cases op <;> rfl)) fun _ hf => hf

theorem UnaryOp.apply_regular (op : UnaryOp) (v : Value) : Gives (op.apply v) Value.Regular :=
  (op.apply_gives v).mono (fun _ h => .of_ty h (by cases op <;> rfl)) fun _ hf => hf

/-! ## Types of names -/

/-- What a name may hold that was declared with the type. No value is admitted where the type is
not known, and since an element is a scalar, no array is an element of another. -/
inductive Ty.Admits : Ty → Value → Prop where
  | scalar (v : Scalar) : Admits (.scalar v.primitive) (.scalar v)
  | array {p a} : a.Of p → Admits (.array p) (.array a)
  /-- A line that was read into a truth value. -/
  | logicText (s : String) : Admits .logic (.sentence s)
  /-- A line that was read into an array. -/
  | arrayText (p : Primitive) (s : String) : Admits (.array p) (.sentence s)

namespace Ty.Admits

variable {ty : Ty} {v : Value}

theorem of_primitive {w : Scalar} {p : Primitive} (h : w.primitive = p) :
    (Ty.scalar p).Admits (.scalar w) :=
  h ▸ .scalar w

theorem regular (h : ty.Admits v) : v.Regular := by
  cases h with
  | array ha => exact .array ha
  | _ => exact .scalar _

theorem number {n : Float} (h : ty.Admits (.number n)) : ty = .number := by
  cases h
  rfl

theorem letter {c : Char} (h : ty.Admits (.scalar (.letter c))) : ty = .scalar .letter := by
  cases h
  rfl

/-- What holds neither a number nor a letter may hold a text. -/
theorem text (h : ty.Admits v) (hn : ∀ n, v ≠ .number n) (hc : ∀ c, v ≠ .scalar (.letter c))
    (s : String) : ty.Admits (.sentence s) := by
  cases h with
  | scalar w =>
    cases w with
    | number n => exact absurd rfl (hn n)
    | letter c => exact absurd rfl (hc c)
    | sentence => exact .scalar (.sentence s)
    | logic => exact .logicText s
  | array => exact .arrayText _ s
  | logicText => exact .logicText s
  | arrayText => exact .arrayText _ s

end Ty.Admits

/-! ## Stores -/

namespace Store

/-- Every name that is bound holds what its type admits. -/
def WellTyped (s : Store) : Prop := ∀ n b, s.find? n = some b → b.ty.Admits b.value

theorem WellTyped.empty : Store.empty.WellTyped := by
  intro n b h
  cases h

/-- The second store binds the names of the first. A type in it is that of a declaration or the one
that its name has in the first store. -/
structure Retains (declared : List (String × Ty)) (s s' : Store) : Prop where
  bound : ∀ n, s.contains n = true → s'.contains n = true
  origin : ∀ n b', s'.find? n = some b' →
    (n, b'.ty) ∈ declared ∨ ∃ b, s.find? n = some b ∧ b.ty = b'.ty

namespace Retains

variable {s s' s'' : Store} {added more : List (String × Ty)} {n : String} {b' : Binding}

theorem refl (s : Store) : s.Retains [] s where
  bound _ h := h
  origin _ b hb := .inr ⟨b, hb, rfl⟩

theorem trans (h : s.Retains added s') (h' : s'.Retains more s'') :
    s.Retains (added ++ more) s'' where
  bound n hn := h'.bound n (h.bound n hn)
  origin n b'' hb'' := by
    rcases h'.origin n b'' hb'' with hmem | ⟨b', hb', hty'⟩
    · exact .inl (List.mem_append_right _ hmem)
    rcases h.origin n b' hb' with hmem | ⟨b, hb, hty⟩
    · exact .inl (List.mem_append_left _ (hty' ▸ hmem))
    · exact .inr ⟨b, hb, hty.trans hty'⟩

theorem mono (h : s.Retains added s') (hsub : added ⊆ more) : s.Retains more s' :=
  ⟨h.bound, fun n b hb => (h.origin n b hb).imp_left fun hmem => hsub hmem⟩

/-- Without declarations no type changes. -/
theorem find (h : s.Retains [] s') (hb : s'.find? n = some b') :
    ∃ b, s.find? n = some b ∧ b.ty = b'.ty := by
  rcases h.origin n b' hb with hmem | hfind
  · cases hmem
  · exact hfind

theorem symm (h : s.Retains [] s') : s'.Retains [] s where
  bound n hn := by
    obtain ⟨b', hb'⟩ := contains_iff.mp hn
    obtain ⟨b, hb, -⟩ := h.find hb'
    exact contains_iff.mpr ⟨b, hb⟩
  origin n b hb := by
    obtain ⟨b', hb'⟩ := contains_iff.mp (h.bound n (contains_iff.mpr ⟨b, hb⟩))
    obtain ⟨b₁, hb₁, hty⟩ := h.find hb'
    rw [hb] at hb₁
    cases hb₁
    exact .inr ⟨b', hb', hty.symm⟩

end Retains

/-- The second store is well typed and retains what the first binds. -/
structure Follows (declared : List (String × Ty)) (s s' : Store) : Prop where
  wellTyped : s'.WellTyped
  retains : s.Retains declared s'

variable {s s' s'' : Store} {added more : List (String × Ty)} {n : String} {ty : Ty} {v : Value}

theorem Follows.refl (hs : s.WellTyped) : s.Follows [] s := ⟨hs, .refl s⟩

theorem Follows.trans (h : s.Follows added s') (h' : s'.Follows more s'') :
    s.Follows (added ++ more) s'' :=
  ⟨h'.wellTyped, h.retains.trans h'.retains⟩

theorem Follows.mono (h : s.Follows added s') (hsub : added ⊆ more) : s.Follows more s' :=
  ⟨h.wellTyped, h.retains.mono hsub⟩

theorem WellTyped.declare (hs : s.WellTyped) (n : String) (hv : ty.Admits v) :
    (s.declare n ty v).WellTyped := by
  intro m b hb
  rw [find?_declare] at hb
  split at hb
  · cases hb
    exact hv
  · exact hs m b hb

theorem declare_follows (hs : s.WellTyped) (n : String) (hv : ty.Admits v) :
    s.Follows [(n, ty)] (s.declare n ty v) := by
  refine ⟨hs.declare n hv, fun m hm => contains_declare hm, fun m b hb => ?_⟩
  rw [find?_declare] at hb
  split at hb
  · next hmn =>
    cases hb
    exact .inl (by simp [hmn])
  · exact .inr ⟨b, hb, rfl⟩

/-- A new value of a name leaves its type. -/
theorem update_follows (hs : s.WellTyped) {b : Binding} (hb : s.find? n = some b)
    (hv : b.ty.Admits v) : s.Follows [] (s.declare n b.ty v) := by
  refine ⟨hs.declare n hv, fun m hm => contains_declare hm, fun m b' hb' => .inr ?_⟩
  rw [find?_declare] at hb'
  split at hb'
  · next hmn =>
    cases hb'
    exact ⟨b, hmn ▸ hb, rfl⟩
  · exact ⟨b', hb', rfl⟩

theorem binding_gives (s : Store) (n : String) : Gives (s.binding n) (s.find? n = some ·) :=
  (s.binding_yields n).mono (fun _ hb => hb) fun f hf => by rw [hf.1]; rfl

theorem get_gives (hs : s.WellTyped) (n : String) :
    Gives (s.get n) fun v => ∃ b, s.find? n = some b ∧ b.ty.Admits v :=
  Yields.map ((s.binding_gives n).mono (fun b hb => ⟨b, hb, hs n b hb⟩) fun _ hf => hf)

theorem put_gives (hs : s.WellTyped) (hv : ∀ b, s.find? n = some b → b.ty.Admits v) :
    Gives (s.put n v) (s.Follows []) :=
  Yields.map ((s.binding_gives n).mono (fun b hb => update_follows hs hb (hv b hb)) fun _ hf => hf)

theorem assign_gives (hs : s.WellTyped) (n : String) (v : Value) :
    Gives (s.assign n v) (s.Follows []) := by
  unfold assign declaredPrimitive
  refine Yields.bind (Q := fun p => ∃ b, s.find? n = some b ∧ b.ty = .scalar p) ?_
    fun p ⟨b, hb, hty⟩ => ?_
  · refine (s.binding_gives n).bind fun b hb => ?_
    obtain ⟨ty, value⟩ := b
    cases ty with
    | scalar p => exact .value ⟨_, hb, rfl⟩
    | array | unknown => exact .fault rfl
  · refine (v.coerce_gives p).bind fun w hw => put_gives hs fun b' hb' => ?_
    rw [hb] at hb'
    cases hb'
    rw [hty]
    exact .of_primitive hw

theorem array_gives (hs : s.WellTyped) (n : String) : Gives (s.array n) fun a =>
    ∃ b p, s.find? n = some b ∧ b.ty = .array p ∧ a.Of p := by
  refine (get_gives hs n).bind fun v ⟨b, hb, hv⟩ => ?_
  cases v with
  | scalar w => exact .fault rfl
  | array a =>
    obtain ⟨ty, value⟩ := b
    cases hv with
    | array ha => exact .value ⟨_, _, hb, rfl, ha⟩

end Store

/-! ## Evaluations -/

variable {α β : Type} {Q : α → Prop} {R : β → Prop} {s : Store}

/-- An evaluation from a store, with what holds of its value: the store after it follows the one
before it, however it ends. -/
def Eval.Settles (x : Eval α) (Q : α → Prop) (s : Store) : Prop :=
  Ends (x s) (fun a s' => Q a ∧ s.Follows [] s') fun f s' => f.isStray = false ∧ s.Follows [] s'

namespace Eval.Settles

theorem pure {a : α} (hs : s.WellTyped) (h : Q a) : Settles (Pure.pure a) Q s :=
  Ends.pure ⟨h, .refl hs⟩

theorem lift {x : Except Fault α} (hs : s.WellTyped) (h : Gives x Q) : Settles (Eval.lift x) Q s :=
  Eval.lift_ends (h.mono (fun _ ha => ⟨ha, .refl hs⟩) fun _ hf => ⟨hf, .refl hs⟩)

theorem read {look : Store → Except Fault α} (hs : s.WellTyped) (h : Gives (look s) Q) :
    Settles (Eval.read look) Q s :=
  lift (x := look s) hs h

theorem change {update : Store → Except Fault Store} (hs : s.WellTyped)
    (h : Gives (update s) (s.Follows [])) : Settles (Eval.change update) (fun _ => True) s :=
  Eval.change_ends (h.mono (fun _ h => ⟨trivial, h⟩) fun _ hf => ⟨hf, .refl hs⟩)

theorem bind {x : Eval α} {f : α → Eval β} (h : Settles x Q s)
    (hf : ∀ a s', Q a → s'.WellTyped → Settles (f a) R s') : Settles (x >>= f) R s := by
  refine Ends.bind_eq (fun a s' hx => ?_) fun f s' hx => h.error hx
  obtain ⟨ha, hs'⟩ := h.ok hx
  exact (hf a s' ha hs'.wellTyped).mono (fun _ _ h => ⟨h.1, hs'.trans h.2⟩)
    fun _ _ h => ⟨h.1, hs'.trans h.2⟩

theorem modifyArray {edit : ArrayValue.Edit α} (hs : s.WellTyped) (n : String)
    (hedit : ∀ {p a}, a.Of p → edit.Makes a (fun w b => Q w ∧ b.Of p) (·.isStray = false)) :
    Settles (Store.modifyArray n edit) Q s := by
  refine (Store.modifyArray_ends (Store.array_gives hs n).error fun b a hb ha => ?_).mono
    (fun _ _ h => h) fun f s' ⟨hs', hf⟩ => ⟨hf, hs'.symm ▸ .refl hs⟩
  obtain ⟨ty, value⟩ := b
  subst ha
  cases hs n _ hb with
  | array ha =>
    exact (hedit ha).mono (fun w a' h => ⟨h.1, Store.update_follows hs hb (.array h.2)⟩) fun _ hf => hf

end Eval.Settles

open Eval

theorem evalStep_settles (hs : s.WellTyped) (n : String) (op : StepOp) (fixity : Fixity) :
    Settles (evalStep n op fixity) Value.Regular s := by
  unfold evalStep
  refine (Settles.read hs (Store.get_gives hs n)).bind fun v s hv hs => ?_
  refine (Settles.lift hs v.toNumber_gives).bind fun old s _ hs => ?_
  refine (Settles.change hs (Store.assign_gives hs n _)).bind fun _ s _ hs => ?_
  exact .pure hs (.scalar _)

namespace Expr

theorem pop_settles (hs : s.WellTyped) (ty : Ty) (name : String) :
    Settles (pop ty name).eval Value.Regular s := by
  rw [eval]
  refine (Settles.modifyArray (Q := fun _ => True) hs name fun ha => ?_).bind fun w s' _ hs' =>
    .pure hs' (.scalar w)
  exact (ArrayValue.pop_makes ha).mono (fun _ _ h => ⟨trivial, h.2⟩) fun _ hf => hf ▸ rfl

mutual
theorem eval_settles : (e : Expr) → ∀ {s : Store}, s.WellTyped → Settles e.eval Value.Regular s
  | .lit ty raw => by
      intro hs
      rw [eval]
      refine (Settles.lift hs (Scalar.ofLiteral_gives raw)).bind fun v s _ hs => ?_
      exact .pure hs (.scalar v)
  | .var ty name => by
      intro hs
      rw [eval]
      exact .read hs ((Store.get_gives hs name).mono (fun v ⟨_, _, hv⟩ => hv.regular) fun _ hf => hf)
  | .binary ty op left right => by
      intro hs
      rw [eval]
      refine (eval_settles left hs).bind fun a s _ hs => ?_
      exact (eval_settles right hs).bind fun b s _ hs => .lift hs (op.apply_regular a b)
  | .unary ty op operand => by
      intro hs
      rw [eval]
      exact (eval_settles operand hs).bind fun v s _ hs => .lift hs (op.apply_regular v)
  | .step ty name op fixity => by
      intro hs
      rw [eval]
      exact evalStep_settles hs name op fixity
  | .arrayOf ty elems => by
      intro hs
      rw [eval]
      refine (evalAll_settles elems hs).bind fun values s _ hs => ?_
      refine (Settles.lift hs (ArrayValue.ofValues_gives _ values)).bind fun a s ha hs => ?_
      exact .pure hs (.array ha)
  | .newArray ty elem size => by
      intro hs
      rw [eval]
      cases Primitive.ofName? elem with
      | none => exact Ends.throw ⟨rfl, .refl hs⟩
      | some p =>
        refine (eval_settles size hs).bind fun v s _ hs => ?_
        refine (Settles.lift hs v.toNumber_gives).bind fun n s _ hs => ?_
        refine (Settles.lift hs (ArrayValue.ofSize_gives p n)).bind fun a s ha hs => ?_
        exact .pure hs (.array ha)
  | .index ty name idx => by
      intro hs
      rw [eval]
      refine (eval_settles idx hs).bind fun v s _ hs => ?_
      refine (Settles.lift hs v.toNumber_gives).bind fun i s _ hs => ?_
      refine (Settles.read hs (Store.array_gives hs name)).bind fun a s _ hs => ?_
      exact (Settles.lift hs (a.get_gives i)).bind fun w s _ hs => .pure hs (.scalar w)
  | .length ty name => by
      intro hs
      rw [eval]
      refine (Settles.read hs (Store.array_gives hs name)).bind fun a s _ hs => ?_
      exact .pure hs (.scalar _)
  | .pop ty name => by
      intro hs
      exact pop_settles hs ty name

theorem evalAll_settles : (es : List Expr) → ∀ {s : Store}, s.WellTyped →
    Settles (evalAll es) (fun _ => True) s
  | [] => by
      intro hs
      rw [evalAll]
      exact .pure hs trivial
  | e :: rest => by
      intro hs
      rw [evalAll]
      refine (eval_settles e hs).bind fun v s _ hs => ?_
      exact (evalAll_settles rest hs).bind fun values s _ hs => .pure hs trivial
end

variable (e : Expr)

theorem evalNumber_settles (hs : s.WellTyped) : Settles e.evalNumber (fun _ => True) s :=
  (e.eval_settles hs).bind fun v _ _ hs => .lift hs v.toNumber_gives

theorem evalLogic_settles (hs : s.WellTyped) : Settles e.evalLogic (fun _ => True) s :=
  (e.eval_settles hs).bind fun v _ _ hs => .lift hs v.toLogic_gives

end Expr

end Primer
