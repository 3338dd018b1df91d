import Primer.Proofs.ArrayLiterals
import Primer.Proofs.Exactness

/-!
# Evaluation without types

Of the types on an expression an evaluation reads those of array literals only. In a store that
matches the context the first element of a typed literal has the type that the literal has, so that
nothing changes without the types. An empty literal is an array of sentences then, and becomes one of
the type of the array in which it is stored.
-/

namespace Primer

variable {Γ : Context}

/-! ## Expressions -/

theorem literalElem_unknown {p : Primitive} {values : List Value} (hne : values ≠ [])
    (h : ∀ v ∈ values, v.ty = .scalar p) :
    literalElem .unknown values = literalElem (.array p) values := by
  cases values with
  | nil => exact absurd rfl hne
  | cons v rest =>
    cases v with
    | scalar w => exact Ty.scalar.inj (h _ List.mem_cons_self)
    | array a => exact nomatch h _ List.mem_cons_self

namespace Expr

mutual
/-- A typed expression without empty literals evaluates to the same without its types. -/
theorem eval_erase : (e : Expr) → e.Typed Γ → e.Filled → ∀ {s : Store}, s.Matches Γ →
    e.erase.eval s = e.eval s
  | .lit ty raw | .var ty name | .step ty name op fixity | .length ty name | .pop ty name => by
      intro _ _ s _
      simp only [erase, eval]
  | .binary ty op left right => by
      intro ⟨_, _, hl, hr⟩ ⟨hfl, hfr⟩ s hs
      rw [erase, eval, eval]
      refine Ends.bind_congr (eval_erase left hl hfl hs) (eval_matches hl hs) fun a s₁ h₁ => ?_
      exact Ends.bind_left (eval_erase right hr hfr h₁.1)
  | .unary ty op operand => by
      intro ⟨_, _, ho⟩ hf s hs
      rw [erase, eval, eval]
      exact Ends.bind_left (eval_erase operand ho hf hs)
  | .arrayOf ty elems => by
      intro ⟨p, hty, h⟩ ⟨hne, hf⟩ s hs
      rw [erase, eval, eval, hty]
      refine Ends.bind_congr (evalAll_erase (.scalar p) elems h hf hs) (evalAll_matches h hs)
        fun values s₁ ⟨_, hlength, hvalues⟩ => ?_
      have hfound : values ≠ [] := by
        rintro rfl
        exact hne (List.length_eq_zero_iff.mp hlength.symm)
      rw [literalElem_unknown hfound hvalues]
  | .newArray ty elem size => by
      intro ⟨_, _, h⟩ hf s hs
      rw [erase, eval, eval]
      cases Primitive.ofName? elem with
      | none => rfl
      | some p => exact Ends.bind_left (eval_erase size h hf hs)
  | .index ty name idx => by
      intro ⟨_, _, h⟩ hf s hs
      rw [erase, eval, eval]
      exact Ends.bind_left (eval_erase idx h hf hs)

theorem evalAll_erase (ty : Ty) : (es : List Expr) → TypedAll Γ ty es → FilledAll es →
    ∀ {s : Store}, s.Matches Γ → evalAll (eraseAll es) s = evalAll es s
  | [] => by
      intro _ _ s _
      rw [eraseAll]
  | e :: rest => by
      intro h hf s hs
      rw [eraseAll, evalAll, evalAll]
      refine Ends.bind_congr (eval_erase e h.1.2 hf.1 hs) (eval_matches h.1.2 hs) fun v s₁ h₁ => ?_
      exact Ends.bind_left (evalAll_erase ty rest h.2 hf.2 h₁.1)
end

variable {e : Expr} {s : Store} {m : Machine}

theorem evalNumber_erase (h : e.Typed Γ) (hf : e.Filled) (hs : s.Matches Γ) :
    e.erase.evalNumber s = e.evalNumber s :=
  Ends.bind_left (eval_erase e h hf hs)

theorem evalLogic_erase (h : e.Typed Γ) (hf : e.Filled) (hs : s.Matches Γ) :
    e.erase.evalLogic s = e.evalLogic s :=
  Ends.bind_left (eval_erase e h hf hs)

theorem act_erase (h : e.Typed Γ) (hf : e.Filled) (hs : m.store.Matches Γ) :
    Act.eval e.erase.eval m = Act.eval e.eval m :=
  Act.eval_congr (eval_erase e h hf hs)

end Expr

/-! ## Actions -/

theorem Value.toArray_empty (p q : Primitive) :
    (Value.array (.empty q)).toArray p = .ok (.empty p) := by
  by_cases h : p = q
  · subst h
    exact ArrayValue.retype_of (ArrayValue.of_empty p)
  · exact if_neg h

section
variable {settings : Settings} {m : Machine}

/-- An empty literal is stored as an empty array of the wanted type, whatever its own type is. -/
theorem Expr.store_empty {β : Type} (was : Ty) (p : Primitive) (k : ArrayValue → Act β) :
    (Act.eval (arrayOf was []).eval >>= fun v => Act.lift (v.toArray p) >>= k) m =
      k (.empty p) m := by
  have heval : (arrayOf was []).eval m.store =
      .ok (.array (.empty (literalElem was []))) m.store := by
    rw [eval]
    rfl
  rw [Ends.run_bind_ok (Act.eval_ok heval), Value.toArray_empty]
  rfl

theorem Expr.store_erase {β : Type} {e : Expr} {p : Primitive} {k : ArrayValue → Act β}
    (h : e.Typed Γ) (hf : e.Filled ∨ e.IsEmptyLiteral) (hs : m.store.Matches Γ) :
    (Act.eval e.erase.eval >>= fun v => Act.lift (v.toArray p) >>= k) m =
      (Act.eval e.eval >>= fun v => Act.lift (v.toArray p) >>= k) m := by
  rcases hf with hf | ⟨was, rfl⟩
  · exact Ends.bind_left (act_erase h hf hs)
  · rw [erase, eraseAll, store_empty, store_empty]

theorem DisplayItem.shown_erase {i : DisplayItem} (h : i.Typed Γ) (hf : ∀ e ∈ i.exprs, e.Filled)
    (hs : m.store.Matches Γ) : i.erase.shown m = i.shown m := by
  cases i with
  | expr e => exact Ends.bind_left (e.act_erase h (hf e List.mem_cons_self) hs)
  | named | literal => rfl

theorem shownAll_erase {items : List DisplayItem} (h : ∀ i ∈ items, i.Typed Γ)
    (hf : ∀ i ∈ items, ∀ e ∈ i.exprs, e.Filled) (hs : m.store.Matches Γ) :
    shownAll (items.map DisplayItem.erase) m = shownAll items m := by
  induction items generalizing m with
  | nil => rfl
  | cons i rest ih =>
    rw [List.forall_mem_cons] at h hf
    rw [List.map_cons, shownAll, shownAll]
    refine Ends.bind_congr (i.shown_erase h.1 hf.1 hs) (i.shown_matches h.1 hs) fun s m₁ h₁ => ?_
    exact Ends.bind_left (ih h.2 hf.2 h₁.2)

theorem performDisplay_erase {items : List DisplayItem} {newline : Bool}
    (h : ∀ i ∈ items, i.Typed Γ) (hf : ∀ i ∈ items, ∀ e ∈ i.exprs, e.Filled)
    (hs : m.store.Matches Γ) :
    performDisplay (items.map DisplayItem.erase) newline m = performDisplay items newline m :=
  Ends.bind_left (shownAll_erase h hf hs)

theorem index_erase {β : Type} {idx value : Expr} {k : Float → Value → Act β} (hi : idx.Typed Γ)
    (hfi : idx.Filled) (hv : value.Typed Γ) (hfv : value.Filled) (hs : m.store.Matches Γ) :
    (Act.eval idx.erase.evalNumber >>= fun i => Act.eval value.erase.eval >>= k i) m =
      (Act.eval idx.evalNumber >>= fun i => Act.eval value.eval >>= k i) m := by
  have hidx : Act.Keeps (Store.Matches Γ) (fun _ => True) (Act.eval idx.evalNumber) m :=
    .eval (Expr.evalNumber_matches hi hs)
  refine Ends.bind_congr (Act.eval_congr (Expr.evalNumber_erase hi hfi hs)) hidx fun i m₁ h₁ => ?_
  exact Ends.bind_left (value.act_erase hv hfv h₁.2)

/-- A typed action whose literals have elements, but for one that is stored, does the same without
its types. -/
theorem Action.perform_erase {a : Action} (h : a.Typed Γ) (hf : a.Filled) (hs : m.store.Matches Γ) :
    a.erase.perform settings m = a.perform settings m := by
  have hfilled : a.storesArray = false → ∀ e ∈ a.exprs, e.Filled := fun hstores e he =>
    (hf e he).resolve_right fun hempty => by simp [hstores] at hempty
  have hstored : ∀ e ∈ a.exprs, e.Filled ∨ e.IsEmptyLiteral :=
    fun e he => (hf e he).imp_right And.right
  cases a with
  | declare ty n init =>
    obtain ⟨p, hp, hinit⟩ := h
    cases init with
    | none => rfl
    | some e =>
      simp only [erase, Option.map_some, perform, performDeclare, hp]
      exact Ends.bind_left (e.act_erase (hinit e rfl).1 (hfilled rfl e List.mem_cons_self) hs)
  | assign n op value =>
    obtain ⟨ty, -, -, hv, -⟩ := h
    exact Ends.bind_left (value.act_erase hv (hfilled rfl value List.mem_cons_self) hs)
  | display item newline =>
    have hitems : (item.map DisplayItem.erase).toList = item.toList.map DisplayItem.erase := by
      cases item <;> rfl
    rw [erase, perform, hitems]
    refine performDisplay_erase (fun i hi => h i (Option.mem_toList.mp hi))
      (fun i hi e he => hfilled rfl e ?_) hs
    exact List.mem_flatMap.mpr ⟨i, hi, he⟩
  | displayAll items newline =>
    refine performDisplay_erase h (fun i hi e he => hfilled rfl e ?_) hs
    exact List.mem_flatMap.mpr ⟨i, hi, he⟩
  | input n => rfl
  | declareArray elem n init =>
    obtain ⟨p, hp, hinit⟩ := h
    cases init with
    | none => rfl
    | some e =>
      simp only [erase, Option.map_some, perform, performDeclareArray, hp]
      exact e.store_erase (hinit e rfl).1 (hstored e List.mem_cons_self) hs
  | assignArray n value =>
    obtain ⟨p, -, hv, -⟩ := h
    refine Ends.bind_congr rfl (Act.Keeps.read hs .any) fun b m' hm' => ?_
    cases b.ty.element? with
    | none => rfl
    | some p => exact value.store_erase hv (hstored value List.mem_cons_self) hm'.2
  | assignElement n idx op value | set n idx value =>
    obtain ⟨p, -, hi, hv, -⟩ := h
    have hidx := hfilled rfl idx List.mem_cons_self
    have hvalue := hfilled rfl value (List.mem_cons_of_mem _ List.mem_cons_self)
    exact index_erase hi.1 hidx hv hvalue hs
  | inputElement n idx =>
    obtain ⟨p, -, hi, -⟩ := h
    have hidx := hfilled rfl idx List.mem_cons_self
    exact Ends.bind_left (Act.eval_congr (Expr.evalNumber_erase hi hidx hs))
  | push n value =>
    obtain ⟨p, -, hv, -⟩ := h
    exact Ends.bind_left (value.act_erase hv (hfilled rfl value List.mem_cons_self) hs)
  | evaluate e => exact Ends.bind_left (e.act_erase h (hfilled rfl e List.mem_cons_self) hs)

end

end Primer
