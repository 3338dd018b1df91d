import Primer.Proofs.Actions
import Primer.Proofs.Naming

/-!
# The names in an action

A declaration adds its name to the store, and no other action adds any. What an action blames is to
blame in the store before it.
-/

namespace Primer

variable {Γ : Context} {α : Type} {s : Store} {m : Machine} {n : String} {ty : Ty} {p : Primitive}

/-- An act that only lets a store grow and only blames names that are to blame in it. -/
abbrev Act.Grows (Γ : Context) (s : Store) (x : Act α) (m : Machine) : Prop :=
  Act.Keeps (s.Grows Γ []) (Fault.Blames Γ s) x m

namespace Act.Grows

theorem eval {e : Eval α} (h : Eval.Grows Γ e m.store) (hs : s.Grows Γ [] m.store) :
    Act.Grows Γ s (Act.eval e) m :=
  Act.Keeps.eval (h.mono (fun _ _ h => hs.trans h) fun _ _ hf => hf.earlier hs)

theorem read {look : Store → Except Fault α} {Q : α → Prop}
    (h : Yields (look m.store) Q (Fault.Blames Γ m.store)) (hs : s.Grows Γ [] m.store) :
    Act.Grows Γ s (Act.read look) m :=
  eval (.read h) hs

theorem lift {x : Except Fault α} (h : Nameless x) (hs : s.Grows Γ [] m.store) :
    Act.Grows Γ s (Act.lift x) m :=
  Act.Keeps.lift hs h.blames

theorem change {update : Store → Except Fault Store}
    (h : Yields (update m.store) (m.store.Grows Γ []) (Fault.Blames Γ m.store))
    (hs : s.Grows Γ [] m.store) : Act.Grows Γ s (Act.change update) m :=
  Act.Keeps.change (h.mono (fun _ h => hs.trans h) fun _ hf => hf.earlier hs)

end Act.Grows

theorem toArray_nameless (p : Primitive) (v : Value) : Nameless (v.toArray p) := by
  cases v with
  | scalar v => exact .fault rfl
  | array a => exact a.retype_nameless p

/-! ## Declarations and assignments -/

/-- An act that adds a name to a store. -/
abbrev Act.Adds (Γ : Context) (s : Store) (n : String) (ty : Ty) (x : Act Unit) (m : Machine) :
    Prop :=
  Act.Keeps (s.Grows Γ [(n, ty)]) (Fault.Blames Γ s) x m

theorem declare_adds (hs : s.Grows Γ [] m.store) (n : String) (ty : Ty) (v : Value)
    (hv : v.ty.isArray = ty.isArray) :
    Act.Adds Γ s n ty (Act.change fun s => .ok (s.declare n ty v)) m :=
  Act.Keeps.change (.value (hs.trans (.declare _ hv)))

theorem performDeclare_adds {name : String} {init : Option Expr}
    (hp : Primitive.ofName? name = some p) (h : ∀ e ∈ init, e.Typed Γ) :
    Act.Adds Γ m.store n (.scalar p) (performDeclare name n init) m := by
  simp only [performDeclare, hp]
  cases init with
  | none => exact declare_adds (.refl _) n _ _ rfl
  | some e =>
    refine Act.Keeps.bind (Act.Grows.eval (e.eval_grows (h e rfl) m.store) (.refl _)) fun v m₁ h₁ => ?_
    refine Act.Keeps.bind (Act.Grows.lift (v.coerce_nameless p) h₁) fun w m₂ h₂ => ?_
    exact declare_adds h₂ n _ (.scalar w) rfl

theorem performDeclareArray_adds {elem : String} {init : Option Expr}
    (hp : Primitive.ofName? elem = some p) (h : ∀ e ∈ init, e.Typed Γ) :
    Act.Adds Γ m.store n (.array p) (performDeclareArray elem n init) m := by
  simp only [performDeclareArray, hp]
  cases init with
  | none => exact declare_adds (.refl _) n _ _ rfl
  | some e =>
    refine Act.Keeps.bind (Act.Grows.eval (e.eval_grows (h e rfl) m.store) (.refl _)) fun v m₁ h₁ => ?_
    refine Act.Keeps.bind (Act.Grows.lift (toArray_nameless p v) h₁) fun a m₂ h₂ => ?_
    exact declare_adds h₂ n (.array p) (.array a) rfl

theorem assignedValue_grows {op : AssignOp} {v : Value} (hn : Γ n = some ty)
    (hs : s.Grows Γ [] m.store) : Act.Grows Γ s (assignedValue n op v) m := by
  cases op with
  | plain => exact .pure hs
  | compound op =>
    refine Act.Keeps.bind (Act.Grows.read (Store.get_blames hn) hs) fun c m₁ h₁ => ?_
    refine Act.Keeps.bind (Act.Grows.lift c.toNumber_nameless h₁) fun x m₂ h₂ => ?_
    refine Act.Keeps.bind (Act.Grows.lift v.toNumber_nameless h₂) fun y m₃ h₃ => ?_
    exact Act.Keeps.bind (Act.Grows.lift (op.apply_nameless x y) h₃) fun r m₄ h₄ => .pure h₄

theorem assignedElement_grows {i : Float} {op : AssignOp} {v : Value} (hn : Γ n = some (.array p))
    (hs : s.Grows Γ [] m.store) : Act.Grows Γ s (assignedElement n i op v) m := by
  cases op with
  | plain => exact .pure hs
  | compound op =>
    refine Act.Keeps.bind (Act.Grows.read (Store.array_blames hn) hs) fun a m₁ h₁ => ?_
    refine Act.Keeps.bind (Act.Grows.lift (a.get_nameless i) h₁) fun old m₂ h₂ => ?_
    split
    · exact .pure h₂
    · refine Act.Keeps.bind (Act.Grows.lift old.toNumber_nameless h₂) fun x m₃ h₃ => ?_
      refine Act.Keeps.bind (Act.Grows.lift v.toNumber_nameless h₃) fun y m₄ h₄ => ?_
      exact Act.Keeps.bind (Act.Grows.lift (op.apply_nameless x y) h₄) fun r m₅ h₅ => .pure h₅

theorem performAssignArray_grows {value : Expr} (hn : Γ n = some (.array p)) (hv : value.Typed Γ) :
    Act.Grows Γ m.store (performAssignArray n value) m := by
  unfold performAssignArray
  refine Ends.bind (Q := fun b m' => m.store.find? n = some b ∧ m' = m) (Act.read_ends ?_)
    fun b m' ⟨hb, hm'⟩ => ?_
  · exact (Store.binding_blames hn).mono (fun b hb => ⟨hb, rfl⟩) fun _ hf => hf
  subst hm'
  obtain ⟨ty, old⟩ := b
  cases ty with
  | array q =>
    refine Act.Keeps.bind (Act.Grows.eval (value.eval_grows hv _) (.refl _)) fun v m₁ h₁ => ?_
    refine Act.Keeps.bind (Act.Grows.lift (toArray_nameless q v) h₁) fun a m₂ h₂ => ?_
    refine Act.Grows.change (Store.put_grows hn fun b' hb' _ => .inl ?_) h₂
    rcases h₂.origin n b' hb' with ⟨hmem, -⟩ | ⟨b, hb₀, hty, -⟩
    · cases hmem
    · rw [hb] at hb₀
      cases hb₀
      exact hty ▸ rfl
  | _ => exact Ends.throw ⟨⟨p, hn⟩, _, hb, fun h => by cases h.1⟩

/-! ## Display and input -/

theorem DisplayItem.shown_grows {i : DisplayItem} (h : i.Typed Γ) (hs : s.Grows Γ [] m.store) :
    Act.Grows Γ s i.shown m := by
  cases i with
  | expr e => exact Act.Keeps.bind (Act.Grows.eval (e.eval_grows h _) hs) fun _ _ h => .pure h
  | named name =>
    obtain ⟨ty, hn, -⟩ := h
    exact Act.Keeps.bind (Act.Grows.read (Store.get_blames hn) hs) fun _ _ h => .pure h
  | literal raw => exact .pure hs

theorem put_scalar_grows (hn : Γ n = some (.scalar p)) (w : Scalar) (hs : s.Grows Γ [] m.store) :
    Act.Grows Γ s (Act.change (·.put n (.scalar w))) m := by
  refine Act.Grows.change (Store.put_grows hn fun b _ _ => ?_) hs
  cases hb : b.ty.isArray with
  | true => exact .inr ⟨⟨p, hn⟩, hb⟩
  | false => exact .inl rfl

theorem performInput_grows {settings : Settings} (hn : Γ n = some (.scalar p)) :
    Act.Grows Γ m.store (performInput settings n) m := by
  refine Act.Keeps.bind (Act.Grows.read (Store.get_blames hn) (.refl _)) fun current m₁ h₁ => ?_
  refine Act.Keeps.bind (Act.Keeps.input h₁ trivial) fun line m₂ h₂ => ?_
  split
  · split
    · exact put_scalar_grows hn _ h₂
    · exact .warn h₂
  · split
    · exact put_scalar_grows hn _ h₂
    · exact .warn h₂
  · exact put_scalar_grows hn _ h₂

theorem elementOfLine_nameless (p : Primitive) (line : String) : Nameless (elementOfLine p line) :=
  (elementOfLine_yields p line).mono (fun _ _ => trivial) fun _ hf => Fault.isOfData_nameless hf

theorem performInputElement_grows {settings : Settings} {idx : Expr} (hn : Γ n = some (.array p))
    (hi : idx.Typed Γ) : Act.Grows Γ m.store (performInputElement settings n idx) m := by
  refine Act.Keeps.bind (Act.Grows.eval (idx.evalNumber_grows hi _) (.refl _)) fun i m₁ h₁ => ?_
  refine Act.Keeps.bind (Act.Grows.read (Store.array_blames hn) h₁) fun a m₂ h₂ => ?_
  refine Act.Keeps.bind (Act.Grows.lift (a.get_nameless i) h₂) fun _ m₃ h₃ => ?_
  refine Act.Keeps.bind (Act.Keeps.input h₃ trivial) fun line m₄ h₄ => ?_
  refine Act.Keeps.bind (Act.Grows.lift (elementOfLine_nameless a.elem line) h₄) fun v m₅ h₅ => ?_
  exact Act.Grows.eval (Store.modifyArray_grows hn (ArrayValue.set_nameless i (.scalar v))) h₅

/-! ## Actions -/

/-- A typed action lets the store grow by the names that it adds, and blames only names that are to
blame in the store before it. -/
theorem Action.perform_grows {a : Action} (settings : Settings) (h : a.Typed Γ) :
    Act.Keeps (m.store.Grows Γ a.adds) (Fault.Blames Γ m.store) (a.perform settings) m := by
  cases a with
  | declare ty n init =>
    obtain ⟨p, hp, h⟩ := h
    simp only [adds, hp]
    rw [perform]
    exact performDeclare_adds hp fun e he => (h e he).1
  | declareArray elem n init =>
    obtain ⟨p, hp, h⟩ := h
    simp only [adds, hp]
    rw [perform]
    exact performDeclareArray_adds hp fun e he => (h e he).1
  | assign n op value =>
    obtain ⟨ty, hn, -, hv, -⟩ := h
    rw [perform]
    refine Act.Keeps.bind (Act.Grows.eval (value.eval_grows hv _) (.refl _)) fun v m₁ h₁ => ?_
    refine Act.Keeps.bind (assignedValue_grows hn h₁) fun w m₂ h₂ => ?_
    exact Act.Grows.change (Store.assign_grows hn w) h₂
  | assignArray n value =>
    obtain ⟨p, hn, hv, -⟩ := h
    rw [perform]
    exact performAssignArray_grows hn hv
  | assignElement n idx op value =>
    obtain ⟨p, hn, hi, hv, -⟩ := h
    rw [perform]
    refine Act.Keeps.bind (Act.Grows.eval (idx.evalNumber_grows hi.1 _) (.refl _)) fun i m₁ h₁ => ?_
    refine Act.Keeps.bind (Act.Grows.eval (value.eval_grows hv _) h₁) fun v m₂ h₂ => ?_
    refine Act.Keeps.bind (assignedElement_grows hn h₂) fun w m₃ h₃ => ?_
    exact Act.Grows.eval (Store.modifyArray_grows hn (ArrayValue.set_nameless i w)) h₃
  | set n idx value =>
    obtain ⟨p, hn, hi, hv, -⟩ := h
    rw [perform]
    refine Act.Keeps.bind (Act.Grows.eval (idx.evalNumber_grows hi.1 _) (.refl _)) fun i m₁ h₁ => ?_
    refine Act.Keeps.bind (Act.Grows.eval (value.eval_grows hv _) h₁) fun v m₂ h₂ => ?_
    exact Act.Grows.eval (Store.modifyArray_grows hn (ArrayValue.set_nameless i v)) h₂
  | push n value =>
    obtain ⟨p, hn, hv, -⟩ := h
    rw [perform]
    refine Act.Keeps.bind (Act.Grows.eval (value.eval_grows hv _) (.refl _)) fun v m₁ h₁ => ?_
    exact Act.Grows.eval (Store.modifyArray_grows hn (ArrayValue.push_nameless v)) h₁
  | display item newline =>
    rw [perform]
    exact performDisplay_keeps (fun i hi m' hm' =>
      i.shown_grows (h i (Option.mem_toList.mp hi)) hm') (.refl _)
  | displayAll items newline =>
    rw [perform]
    exact performDisplay_keeps (fun i hi m' hm' => i.shown_grows (h i hi) hm') (.refl _)
  | input n =>
    obtain ⟨p, hn⟩ := h
    rw [perform]
    exact performInput_grows hn
  | inputElement n idx =>
    obtain ⟨p, hn, hi, -⟩ := h
    rw [perform]
    exact performInputElement_grows hn hi
  | evaluate e =>
    rw [perform]
    exact Act.Keeps.bind (Act.Grows.eval (e.eval_grows h _) (.refl _)) fun _ _ hm => .pure hm

end Primer
