import Primer.Proofs.Contents
import Primer.Proofs.Events
import Primer.Proofs.Frames

/-!
# What actions do to the types of names

An action leaves the names and their types as they are, and a declaration gives its name the type of
the declaration. This holds of the store between two parts of an action too, so that a failure
leaves a store like any other.
-/

namespace Primer

open Store

variable {α β : Type} {Q : α → Prop} {R : β → Prop} {m : Machine} {s : Store} {n : String}
  {added : List (String × Ty)}

/-! ## Acts -/

/-- An act on a machine, with what holds of its value and with what it declares if it succeeds. -/
def Act.Settles (x : Act α) (added : List (String × Ty)) (Q : α → Prop) (m : Machine) : Prop :=
  Ends (x m) (fun a m' => Q a ∧ m.store.Follows added m'.store)
    fun f m' => f.isStray = false ∧ m.store.Follows [] m'.store

namespace Act.Settles

theorem pure {a : α} (hs : m.store.WellTyped) (h : Q a) : Settles (Pure.pure a) [] Q m :=
  Ends.pure ⟨h, .refl hs⟩

theorem throw {f : Fault} (hs : m.store.WellTyped) (h : f.isStray = false) :
    Settles (MonadExcept.throw f : Act α) added Q m :=
  Ends.throw ⟨h, .refl hs⟩

theorem bind {x : Act α} {f : α → Act β} (h : Settles x [] Q m)
    (hf : ∀ a m', Q a → m.store.Follows [] m'.store → Settles (f a) added R m') :
    Settles (x >>= f) added R m := by
  refine Ends.bind_eq (fun a m' hx => ?_) fun f m' hx => h.error hx
  obtain ⟨ha, hm'⟩ := h.ok hx
  exact (hf a m' ha hm').mono (fun _ _ h => ⟨h.1, hm'.trans h.2⟩) fun _ _ h => ⟨h.1, hm'.trans h.2⟩

theorem eval {e : Eval α} (h : e.Settles Q m.store) : Settles (Act.eval e) [] Q m := Act.eval_ends h

theorem lift {x : Except Fault α} (hs : m.store.WellTyped) (h : Gives x Q) :
    Settles (Act.lift x) [] Q m :=
  Act.lift_ends (h.mono (fun _ ha => ⟨ha, .refl hs⟩) fun _ hf => ⟨hf, .refl hs⟩)

theorem read {look : Store → Except Fault α} (hs : m.store.WellTyped) (h : Gives (look m.store) Q) :
    Settles (Act.read look) [] Q m :=
  eval (.read hs h)

theorem change {update : Store → Except Fault Store} (hs : m.store.WellTyped)
    (h : Gives (update m.store) (m.store.Follows added)) :
    Settles (Act.change update) added (fun _ => True) m :=
  Act.change_ends (h.mono (fun _ h => ⟨trivial, h⟩) fun _ hf => ⟨hf, .refl hs⟩)

theorem declare {ty : Ty} {v : Value} (hs : m.store.WellTyped) (n : String) (hv : ty.Admits v) :
    Settles (Act.change fun s => .ok (s.declare n ty v)) [(n, ty)] (fun _ => True) m :=
  change hs (.value (declare_follows hs n hv))

theorem write (f : Console → Console) (hs : m.store.WellTyped) :
    Settles (Act.write f) [] (fun _ => True) m :=
  ⟨fun h => by cases h; exact ⟨trivial, .refl hs⟩, nofun⟩

theorem warn (settings : Settings) (message : String) (hs : m.store.WellTyped) :
    Settles (Act.warn settings message) [] (fun _ => True) m := by
  unfold Act.warn
  split
  · exact write _ hs
  · exact pure hs trivial

theorem line (hs : m.store.WellTyped) : Settles Act.line [] (fun _ => True) m := by
  unfold Settles
  rcases hread : m.console.readLine with ⟨_ | text, console⟩
  · rw [Act.line_none hread]
    exact ⟨nofun, fun h => by cases h; exact ⟨rfl, .refl hs⟩⟩
  · rw [Act.line_some hread]
    exact ⟨fun h => by cases h; exact ⟨trivial, .refl hs⟩, nofun⟩

theorem input (settings : Settings) (prompt : String) (hs : m.store.WellTyped) :
    Settles (Act.input settings prompt) [] (fun _ => True) m := by
  rw [Act.input_eq]
  split
  · exact (write _ hs).bind fun _ m' _ hm' => line hm'.wellTyped
  · exact line hs

end Act.Settles

open Act

/-- What fits a value that the name holds fits it after the line was read. -/
theorem Act.Settles.put (name : String) {m' : Machine} (hm' : m.store.Follows [] m'.store)
    {v w : Value}
    (hv : ∃ b, m.store.find? name = some b ∧ b.ty.Admits v)
    (h : ∀ {ty : Ty}, ty.Admits v → ty.Admits w) :
    Settles (Act.change (·.put name w)) [] (fun _ => True) m' := by
  refine .change hm'.wellTyped (put_gives hm'.wellTyped fun b' hb' => ?_)
  obtain ⟨b, hb, hadmits⟩ := hv
  obtain ⟨b₀, hb₀, hty⟩ := hm'.retains.find hb'
  rw [hb] at hb₀
  cases hb₀
  rw [← hty]
  exact h hadmits

theorem elementOfLine_gives (p : Primitive) (line : String) :
    Gives (elementOfLine p line) fun _ => True := by
  unfold elementOfLine
  repeat' split
  all_goals first
    | exact .value trivial
    | exact .fault rfl

/-! ## Declarations and assignments -/

section
variable (hs : m.store.WellTyped) (name : String) (e idx : Expr) (op : AssignOp)
include hs

theorem performDeclare_settles (ty : String) (init : Option Expr) :
    Settles (performDeclare ty name init) (Action.declare ty name init).adds (fun _ => True) m := by
  simp only [performDeclare, Action.adds]
  cases Primitive.ofName? ty with
  | none => exact .throw hs rfl
  | some p =>
    cases init with
    | none => exact .declare hs name (.of_primitive (Scalar.default_primitive p))
    | some e =>
      refine (Settles.eval (e.eval_settles hs)).bind fun v m₁ _ h₁ => ?_
      refine (Settles.lift h₁.wellTyped (v.coerce_gives p)).bind fun w m₂ hw h₂ => ?_
      exact .declare h₂.wellTyped name (.of_primitive hw)

theorem performDeclareArray_settles (elem : String) (init : Option Expr) :
    Settles (performDeclareArray elem name init) (Action.declareArray elem name init).adds
      (fun _ => True) m := by
  simp only [performDeclareArray, Action.adds]
  cases Primitive.ofName? elem with
  | none => exact .throw hs rfl
  | some p =>
    cases init with
    | none => exact .declare hs name (.array (ArrayValue.of_empty p))
    | some e =>
      refine (Settles.eval (e.eval_settles hs)).bind fun v m₁ hv h₁ => ?_
      refine (Settles.lift h₁.wellTyped (hv.toArray_gives p)).bind fun a m₂ ha h₂ => ?_
      exact .declare h₂.wellTyped name (.array ha)

theorem assignedValue_settles (v : Value) :
    Settles (assignedValue name op v) [] (fun _ => True) m := by
  cases op with
  | plain => exact .pure hs trivial
  | compound op =>
    refine (Settles.read hs (get_gives hs name)).bind fun current m₁ _ h₁ => ?_
    refine (Settles.lift h₁.wellTyped current.toNumber_gives).bind fun a m₂ _ h₂ => ?_
    refine (Settles.lift h₂.wellTyped v.toNumber_gives).bind fun b m₃ _ h₃ => ?_
    refine (Settles.lift h₃.wellTyped (op.apply_gives a b)).bind fun c m₄ _ h₄ => ?_
    exact .pure h₄.wellTyped trivial

theorem performAssign_settles : Settles (performAssign name op e) [] (fun _ => True) m := by
  refine (Settles.eval (e.eval_settles hs)).bind fun v m₁ _ h₁ => ?_
  refine (assignedValue_settles h₁.wellTyped name op v).bind fun w m₂ _ h₂ => ?_
  exact .change h₂.wellTyped (assign_gives h₂.wellTyped name w)

theorem performAssignArray_settles : Settles (performAssignArray name e) [] (fun _ => True) m := by
  refine (Settles.read hs (binding_gives m.store name)).bind fun b m₁ hb h₁ => ?_
  cases hty : b.ty with
  | scalar p | unknown => exact .throw h₁.wellTyped rfl
  | array p =>
    refine (Settles.eval (e.eval_settles h₁.wellTyped)).bind fun v m₂ hv h₂ => ?_
    refine (Settles.lift h₂.wellTyped (hv.toArray_gives p)).bind fun a m₃ ha h₃ => ?_
    -- The type was read before the value was found, and is the same still.
    refine .change h₃.wellTyped (put_gives h₃.wellTyped fun b' hb' => ?_)
    obtain ⟨b₀, hb₀, hty₀⟩ := ((h₁.trans h₂).trans h₃).retains.find hb'
    rw [hb] at hb₀
    cases hb₀
    rw [← hty₀, hty]
    exact .array ha

/-! ## Elements -/

theorem assignedElement_settles (i : Float) (v : Value) :
    Settles (assignedElement name i op v) [] (fun _ => True) m := by
  cases op with
  | plain => exact .pure hs trivial
  | compound op =>
    refine (Settles.read hs (array_gives hs name)).bind fun a m₁ _ h₁ => ?_
    refine (Settles.lift h₁.wellTyped (a.get_gives i)).bind fun current m₂ _ h₂ => ?_
    split
    · exact .pure h₂.wellTyped trivial
    · refine (Settles.lift h₂.wellTyped current.toNumber_gives).bind fun x m₃ _ h₃ => ?_
      refine (Settles.lift h₃.wellTyped v.toNumber_gives).bind fun y m₄ _ h₄ => ?_
      refine (Settles.lift h₄.wellTyped (op.apply_gives x y)).bind fun z m₅ _ h₅ => ?_
      exact .pure h₅.wellTyped trivial

theorem modifyArray_settles {edit : ArrayValue.Edit Unit}
    (hedit : ∀ {p a}, a.Of p → edit.Makes a (fun _ b => b.Of p) (·.isStray = false)) :
    Settles (Act.eval (Store.modifyArray name edit)) [] (fun _ => True) m :=
  .eval (.modifyArray hs name fun ha => (hedit ha).mono (fun _ _ h => ⟨trivial, h⟩) fun _ hf => hf)

theorem performAssignElement_settles :
    Settles (performAssignElement name idx op e) [] (fun _ => True) m := by
  refine (Settles.eval (idx.evalNumber_settles hs)).bind fun i m₁ _ h₁ => ?_
  refine (Settles.eval (e.eval_settles h₁.wellTyped)).bind fun v m₂ _ h₂ => ?_
  refine (assignedElement_settles h₂.wellTyped name op i v).bind fun w m₃ _ h₃ => ?_
  exact modifyArray_settles h₃.wellTyped name fun ha => ArrayValue.set_gives ha i w

theorem performSet_settles : Settles (performSet name idx e) [] (fun _ => True) m := by
  refine (Settles.eval (idx.evalNumber_settles hs)).bind fun i m₁ _ h₁ => ?_
  refine (Settles.eval (e.eval_settles h₁.wellTyped)).bind fun v m₂ _ h₂ => ?_
  exact modifyArray_settles h₂.wellTyped name fun ha => ArrayValue.set_gives ha i v

theorem performPush_settles : Settles (performPush name e) [] (fun _ => True) m := by
  refine (Settles.eval (e.eval_settles hs)).bind fun v m₁ _ h₁ => ?_
  exact modifyArray_settles h₁.wellTyped name fun ha => ArrayValue.push_gives ha v

/-! ## Display and input -/

theorem shown_settles (item : DisplayItem) : Settles item.shown [] (fun _ => True) m := by
  cases item with
  | expr e =>
    exact (Settles.eval (e.eval_settles hs)).bind fun v m₁ _ h₁ => .pure h₁.wellTyped trivial
  | named n =>
    exact (Settles.read hs (get_gives hs n)).bind fun v m₁ _ h₁ => .pure h₁.wellTyped trivial
  | literal raw => exact .pure hs trivial

theorem shownAll_settles (items : List DisplayItem) :
    Settles (shownAll items) [] (fun _ => True) m := by
  induction items generalizing m with
  | nil => exact .pure hs trivial
  | cons item rest ih =>
    refine (shown_settles hs item).bind fun text m₁ _ h₁ => ?_
    exact (ih h₁.wellTyped).bind fun texts m₂ _ h₂ => .pure h₂.wellTyped trivial

theorem performDisplay_settles (items : List DisplayItem) (newline : Bool) :
    Settles (performDisplay items newline) [] (fun _ => True) m :=
  (shownAll_settles hs items).bind fun _ _ _ h => .write _ h.wellTyped

theorem performInput_settles (settings : Settings) :
    Settles (performInput settings name) [] (fun _ => True) m := by
  refine (Settles.read hs (get_gives hs name)).bind fun current m₁ hv h₁ => ?_
  refine (Settles.input settings _ h₁.wellTyped).bind fun line m₂ _ h₂ => ?_
  have h := h₁.trans h₂
  split
  · split
    · exact .put name h hv fun hn => hn.number ▸ .scalar (.number _)
    · exact .warn settings _ h.wellTyped
  · split
    · exact .put name h hv fun hc => hc.letter ▸ .scalar (.letter _)
    · exact .warn settings _ h.wellTyped
  · next hn hc => exact .put name h hv fun ht => ht.text hn hc line

theorem performInputElement_settles (settings : Settings) :
    Settles (performInputElement settings name idx) [] (fun _ => True) m := by
  refine (Settles.eval (idx.evalNumber_settles hs)).bind fun i m₁ _ h₁ => ?_
  refine (Settles.read h₁.wellTyped (array_gives h₁.wellTyped name)).bind fun a m₂ _ h₂ => ?_
  refine (Settles.lift h₂.wellTyped (a.get_gives i)).bind fun _ m₃ _ h₃ => ?_
  refine (Settles.input settings _ h₃.wellTyped).bind fun line m₄ _ h₄ => ?_
  refine (Settles.lift h₄.wellTyped (elementOfLine_gives a.elem line)).bind fun v m₅ _ h₅ => ?_
  exact modifyArray_settles h₅.wellTyped name fun ha => ArrayValue.set_gives ha i _

theorem Action.perform_settles (settings : Settings) (a : Action) :
    Settles (a.perform settings) a.adds (fun _ => True) m := by
  cases a with
  | declare ty name init => exact performDeclare_settles hs name ty init
  | assign name op value => exact performAssign_settles hs name value op
  | display item newline => exact performDisplay_settles hs _ newline
  | displayAll items newline => exact performDisplay_settles hs items newline
  | input name => exact performInput_settles hs name settings
  | declareArray elem name init => exact performDeclareArray_settles hs name elem init
  | assignArray name value => exact performAssignArray_settles hs name value
  | assignElement name idx op value => exact performAssignElement_settles hs name value idx op
  | inputElement name idx => exact performInputElement_settles hs name idx settings
  | push name value => exact performPush_settles hs name value
  | set name idx value => exact performSet_settles hs name value idx
  | evaluate e =>
    exact (Settles.eval (e.eval_settles hs)).bind fun _ _ _ h => .pure h.wellTyped trivial

end

end Primer
