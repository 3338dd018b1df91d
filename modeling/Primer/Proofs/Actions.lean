import Primer.Proofs.Writes

/-!
# Typed actions

A typed action keeps the agreement of the store with the context and leaves the frames alone. The
faults that it may end in are those of the data and of names that are not bound, apart from an
assignment to an array as to a variable.
-/

namespace Primer

open Store.Agrees

/-! ## Display -/

section
variable {I : Store → Prop} {E : Fault → Prop} {m : Machine}

theorem shownAll_keeps {items : List DisplayItem}
    (h : ∀ i ∈ items, ∀ m, I m.store → Act.Keeps I E i.shown m) (hm : I m.store) :
    Act.Keeps I E (shownAll items) m := by
  induction items generalizing m with
  | nil => exact .pure hm
  | cons i rest ih =>
    rw [shownAll]
    refine (h i (by simp) m hm).bind fun s m' hm' => ?_
    exact (ih (fun i hi => h i (by simp [hi])) hm').bind fun _ m'' hm'' => .pure hm''

theorem performDisplay_keeps {items : List DisplayItem} {newline : Bool}
    (h : ∀ i ∈ items, ∀ m, I m.store → Act.Keeps I E i.shown m) (hm : I m.store) :
    Act.Keeps I E (performDisplay items newline) m :=
  (shownAll_keeps h hm).bind fun _ _ hm' => .write hm'

end

/-! ## Types -/

section
variable {Γ : Context} {m : Machine}

theorem Expr.evalAll_agrees {es : List Expr} (h : ∀ e ∈ es, e.Typed Γ) {s : Store}
    (hs : s.Agrees Γ) : Ends (Expr.evalAll es s) (fun _ s' => s'.Agrees Γ) (fun f _ => f.Sound) := by
  induction es generalizing s with
  | nil => exact Ends.pure hs
  | cons e rest ih =>
    rw [Expr.evalAll]
    refine (Expr.eval_typed e (h e (by simp)) hs).bind fun v s₁ hv => ?_
    exact (ih (fun e he => h e (by simp [he])) hv.1).bind fun vs s₂ hs₂ => Ends.pure hs₂

theorem Action.Typed.operands {a : Action} (h : a.Typed Γ) : ∀ e ∈ a.operands, e.Typed Γ := by
  intro e he
  cases a with
  | declare ty n init | declareArray ty n init =>
    obtain ⟨p, -, h⟩ := h
    exact (h e (Option.mem_toList.mp he)).1
  | assign n op value =>
    obtain ⟨ty, -, -, h, -⟩ := h
    rwa [List.mem_singleton.mp he]
  | assignArray n value | push n value =>
    obtain ⟨p, -, h, -⟩ := h
    rwa [List.mem_singleton.mp he]
  | assignElement n idx _ value | set n idx value =>
    obtain ⟨p, -, hi, h, -⟩ := h
    rcases List.mem_cons.mp he with rfl | he
    · exact hi.1
    · rwa [List.mem_singleton.mp he]
  | display | displayAll | input | inputElement | evaluate => cases he

/-- A context that has the names an action adds, if it knows them, with the types they are added. -/
def Action.Extends (Γ : Context) (a : Action) : Prop :=
  ∀ e ∈ a.adds, ∀ known, Γ e.1 = some known → known = e.2

theorem Stores.holds {s : Store} {a : Action} {vs : List Value} {n : String} {ty : Ty} {v : Value}
    (h : Stores s a vs n ty v) : ty.Holds v := by
  cases h with
  | declareDefault _ => exact .of_primitive (Scalar.default_primitive _)
  | declare _ _ hp | assign _ _ _ hp => exact .of_primitive hp
  | compound => exact .of_primitive rfl
  | declareEmpty => exact ArrayValue.of_empty _
  | declareArray _ ha | assignArray _ _ ha => exact ha
  | assignElement _ _ hb | addText _ _ _ hb | compoundElement _ _ _ _ hb | set _ _ hb
  | push _ _ hb => exact hb

theorem Stores.known {s : Store} {a : Action} {vs : List Value} {n : String} {ty known : Ty}
    {v : Value} (h : Stores s a vs n ty v) (hs : s.Agrees Γ) (hadds : a.Extends Γ)
    (hn : Γ n = some known) : known = ty := by
  cases h with
  | declareDefault hp => exact hadds (n, _) (by simp [Action.adds, hp]) known hn
  | declare hp => exact hadds (n, _) (by simp [Action.adds, hp]) known hn
  | declareEmpty hp => exact hadds (n, _) (by simp [Action.adds, hp]) known hn
  | declareArray hp => exact hadds (n, _) (by simp [Action.adds, hp]) known hn
  | assign hb hty | assignArray hb hty => exact ((hs n known _ hn hb).1).symm.trans hty
  | compound hb | assignElement hb | addText hb | compoundElement hb | set hb | push hb =>
    exact ((hs n known _ hn hb).1).symm

theorem WriteFails.sound {a : Action} {f : Fault} {m' : Machine} (h : WriteFails Γ a m f m') :
    f.Sound := by
  cases h with
  | operand _ hf => exact hf
  | unbound hf => exact .inr ⟨_, hf⟩
  | store _ hf => exact .inl hf.isOfData

theorem Writes.agrees {a : Action} {m' : Machine} (h : Writes a m m') (ht : a.Typed Γ)
    (hadds : a.Extends Γ) (hs : m.store.Agrees Γ) : m'.frames = m.frames ∧ m'.store.Agrees Γ := by
  obtain ⟨vs, s, n, ty, v, ho, hst, rfl⟩ := h
  have hs' := (Expr.evalAll_agrees ht.operands hs).ok ho
  exact ⟨rfl, hs'.declare (fun known hn => hst.known hs' hadds hn) hst.holds⟩

theorem DisplayItem.shown_typed {i : DisplayItem} (h : i.Typed Γ) (hs : m.store.Agrees Γ) :
    Act.Keeps (Store.Agrees Γ) Fault.Sound i.shown m := by
  cases i with
  | expr e =>
    refine Act.Keeps.bind (.eval ?_) fun _ _ hm' => .pure hm'
    exact (Expr.eval_typed e h hs).mono (fun _ _ h => h.1) fun _ _ hf => hf
  | named name =>
    obtain ⟨ty, hn, -⟩ := h
    refine Act.Keeps.bind (.eval (Eval.read_ends ?_)) fun _ _ hm' => .pure hm'
    exact (hs.get hn).mono (fun _ _ => hs) fun _ hf => hf.sound
  | literal raw => exact .pure hs

theorem put_typed {n : String} {ty : Ty} {v : Value} (hs : m.store.Agrees Γ) (hn : Γ n = some ty)
    (hv : ty.Holds v) : Act.Keeps (Store.Agrees Γ) Fault.Sound (Act.change (·.put n v)) m :=
  .change ((hs.put hn hv).mono (fun _ h => h.2) fun _ hf => hf.sound)

theorem performInput_typed {settings : Settings} {n : String} {p : Primitive}
    (hn : Γ n = some (.scalar p)) (hs : m.store.Agrees Γ) :
    Act.Keeps (Store.Agrees Γ) Fault.Sound (performInput settings n) m := by
  unfold performInput
  refine Ends.bind (Q := fun v m' => (Ty.scalar p).Holds v ∧ m' = m) (Act.read_ends ?_)
    fun current m' ⟨hholds, hm'⟩ => ?_
  · exact (hs.get hn).mono (fun v hv => ⟨hv.2, rfl⟩) fun _ hf => hf.sound
  subst hm'
  refine (Act.Keeps.input hs (.inl rfl)).bind fun line m'' hs'' => ?_
  obtain ⟨w, rfl⟩ := hholds.scalar
  cases w with
  | number x =>
    obtain rfl : Primitive.number = p := by
      rcases hholds with h | ⟨-, h⟩
      · exact h
      · cases h
    dsimp only
    cases Numeric.read? (Text.trim line) with
    | none => exact .warn hs''
    | some k => exact put_typed hs'' hn (.of_primitive rfl)
  | letter c =>
    obtain rfl : Primitive.letter = p := by
      rcases hholds with h | ⟨-, h⟩
      · exact h
      · cases h
    dsimp only
    cases singleChar? line with
    | none => exact .warn hs''
    | some k => exact put_typed hs'' hn (.of_primitive rfl)
  | sentence s =>
    refine put_typed hs'' hn ?_
    rcases hholds with h | ⟨h, -⟩
    · exact .inl h
    · exact .inr ⟨h, rfl⟩
  | logic b =>
    refine put_typed hs'' hn ?_
    rcases hholds with h | ⟨-, h⟩
    · exact .inr ⟨h.symm, rfl⟩
    · cases h

theorem elementOfLine_yields (p : Primitive) (line : String) :
    Yields (elementOfLine p line) (fun v => v.primitive = p) (·.isOfData = true) := by
  unfold elementOfLine
  cases p with
  | number =>
    dsimp only
    cases Numeric.read? (Text.trim line) with
    | none => exact .fault rfl
    | some n => exact .value rfl
  | letter =>
    dsimp only
    cases singleChar? line with
    | none => exact .fault rfl
    | some c => exact .value rfl
  | logic =>
    dsimp only
    cases Literal.truth? (Text.trim line) with
    | none => exact .fault rfl
    | some b => exact .value rfl
  | sentence => exact .value rfl

theorem performInputElement_typed {settings : Settings} {n : String} {idx : Expr}
    (h : (Action.inputElement n idx).Typed Γ) (hs : m.store.Agrees Γ) :
    Act.Keeps (Store.Agrees Γ) Fault.Sound (performInputElement settings n idx) m := by
  obtain ⟨p, hn, hi, hity⟩ := h
  unfold performInputElement
  refine Act.Keeps.bind (.eval (Expr.evalNumber_typed hi hity hs)) fun i m₁ hs₁ => ?_
  refine Ends.bind (Q := fun a m' => a.Of p ∧ m' = m₁) (Act.read_ends ?_) fun a m' ⟨ha, hm'⟩ => ?_
  · exact (hs₁.array hn).mono (fun a ha => ⟨ha.2, rfl⟩) fun _ hf => hf.sound
  subst hm'
  refine Act.Keeps.bind (.lift hs₁ ?_) fun _ m₂ hs₂ => ?_
  · exact (a.get_yields i).mono (fun _ _ => trivial) fun f hf => .inl (Fault.isOfIndex_isOfData hf)
  refine (Act.Keeps.input hs₂ (.inl rfl)).bind fun line m₃ hs₃ => ?_
  rw [ha.1]
  refine Ends.bind (Q := fun w m' => w.primitive = p ∧ m' = m₃) (Act.lift_ends ?_)
    fun w m' ⟨hw, hm'⟩ => ?_
  · exact (elementOfLine_yields p line).mono (fun _ hw => ⟨hw, rfl⟩) fun _ hf => .inl hf
  subst hw hm'
  refine Act.Keeps.eval ((hs₃.modifyArray hn fun a ha => ArrayValue.set_self_makes ha).mono
    (fun _ _ h => h.2) fun f _ hf => ?_)
  rcases hf.2 with hf | hf
  · exact hf.sound
  · exact .inl (Fault.isOfIndex_isOfData hf)

/-- The fault of an assignment to an array as to a variable. -/
def ArrayAssigned (Γ : Context) (a : Action) (f : Fault) : Prop :=
  a.AssignsArray Γ ∧ ∃ expected got, f = .typeMismatch expected got

/-- A typed action keeps the agreement, and fails in the data or at a name that is not bound only,
unless it assigns to an array as to a variable. -/
theorem Action.perform_typed {settings : Settings} {a : Action} (h : a.Typed Γ) (hadds : a.Extends Γ)
    (hs : m.store.Agrees Γ) :
    Act.Keeps (Store.Agrees Γ) (fun f => f.Sound ∨ ArrayAssigned Γ a f) (a.perform settings) m := by
  by_cases harray : a.AssignsArray Γ
  · cases a with
    | assign n op value =>
      obtain ⟨p, hn⟩ := harray
      rw [perform]
      refine (performAssign_array h hn hs).mono (fun _ _ h => h.elim) fun f m' hf => ?_
      rcases hf with ⟨-, -, hf⟩ | hf | ⟨-, -, -, hf, -⟩
      · exact .inl hf
      · exact .inl (.inr hf)
      · exact .inr ⟨⟨p, hn⟩, _, _, hf⟩
    | _ => exact harray.elim
  by_cases hw : a.isWrite = true
  · exact (perform_writes settings hw h harray hs).mono
      (fun _ m' hm' => hm'.agrees h hadds hs) fun f m' hf => .inl hf.sound
  · refine Ends.mono (?_ : Act.Keeps (Store.Agrees Γ) Fault.Sound _ m) (fun _ _ h => h)
      fun _ _ hf => .inl hf
    cases a with
    | display item newline =>
      exact performDisplay_keeps (fun i hi m hm => i.shown_typed (h i (Option.mem_toList.mp hi)) hm) hs
    | displayAll items newline =>
      exact performDisplay_keeps (fun i hi m hm => i.shown_typed (h i hi) hm) hs
    | input n =>
      obtain ⟨p, hn⟩ := h
      exact performInput_typed hn hs
    | inputElement n idx => exact performInputElement_typed h hs
    | evaluate e =>
      refine Act.Keeps.bind (.eval ?_) fun _ _ hm' => .pure hm'
      exact (Expr.eval_typed e h hs).mono (fun _ _ h => h.1) fun _ _ hf => hf
    | _ => exact absurd rfl hw

end

end Primer
