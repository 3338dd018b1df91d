import Primer.Proofs.Watching
import Primer.Proofs.Evaluation
import Primer.Proofs.Naming

/-!
# What happens inside a piece

A piece evaluates expressions, parts of expressions included, and uses names. Each evaluation and
each use happens on a store of its own, the one that the evaluations before it leave.
-/

namespace Primer

/-- What happens inside a piece. -/
inductive Event where
  /-- An expression is evaluated in a store. -/
  | evaluates (e : Expr) (s : Store)
  /-- The value of a name is taken from a store or put into it. -/
  | uses (name : String) (s : Store)

/-- The events after an evaluation that succeeds. -/
def Eval.next {α : Type} (x : Eval α) (s : Store) (events : α → Store → List Event) : List Event :=
  match x s with
  | .ok a s => events a s
  | .error _ _ => []

/-! ## Expressions -/

namespace Expr

mutual
/-- The events of the evaluation of an expression in a store. -/
def events (s : Store) : Expr → List Event
  | lit ty raw => [.evaluates (lit ty raw) s]
  | var ty name => [.evaluates (var ty name) s, .uses name s]
  | binary ty op left right =>
    .evaluates (binary ty op left right) s ::
      (left.events s ++ left.eval.next s fun _ s => right.events s)
  | unary ty op operand => .evaluates (unary ty op operand) s :: operand.events s
  | step ty name op fixity => [.evaluates (step ty name op fixity) s, .uses name s]
  | arrayOf ty elems => .evaluates (arrayOf ty elems) s :: eventsAll s elems
  | newArray ty elem size =>
    .evaluates (newArray ty elem size) s ::
      if (Primitive.ofName? elem).isSome then size.events s else []
  | index ty name idx =>
    .evaluates (index ty name idx) s ::
      (idx.events s ++ idx.evalNumber.next s fun _ s => [.uses name s])
  | length ty name => [.evaluates (length ty name) s, .uses name s]
  | pop ty name => [.evaluates (pop ty name) s, .uses name s]

def eventsAll (s : Store) : List Expr → List Event
  | [] => []
  | e :: rest => e.events s ++ e.eval.next s fun _ s => eventsAll s rest
end

end Expr

/-! ## Actions -/

/-- The events of an evaluation, and the use of a name after it. -/
def Expr.eventsThenUse (s : Store) (e : Expr) (name : String) : List Event :=
  e.events s ++ e.eval.next s fun _ s => [.uses name s]

def DisplayItem.eventsAll (s : Store) : List DisplayItem → List Event
  | [] => []
  | .expr e :: rest => e.events s ++ e.eval.next s fun _ s => eventsAll s rest
  | .named name :: rest =>
    .uses name s :: (Eval.read (·.get name)).next s fun _ s => eventsAll s rest
  | .literal _ :: rest => eventsAll s rest

/-- The events of an action. A name that is declared is not used, since the declaration makes a new
binding. -/
def Action.events (s : Store) : Action → List Event
  | .declare _ _ init | .declareArray _ _ init => Expr.eventsAll s init.toList
  | .assign name _ value | .push name value => value.eventsThenUse s name
  | .display item _ => DisplayItem.eventsAll s item.toList
  | .displayAll items _ => DisplayItem.eventsAll s items
  | .input name => [.uses name s]
  | .assignArray name value =>
    .uses name s :: (Eval.read (·.binding name)).next s fun b s =>
      if b.ty.isArray then value.eventsThenUse s name else []
  | .assignElement name idx _ value | .set name idx value =>
    idx.events s ++ idx.evalNumber.next s fun _ s => value.eventsThenUse s name
  | .inputElement name idx => idx.events s ++ idx.evalNumber.next s fun _ s => [.uses name s]
  | .evaluate e => e.events s

def Visit.events (v : Visit) : List Event :=
  match v.piece with
  | .action a => a.events v.machine.store
  | .value e | .condition e => e.events v.machine.store

/-! ## The events of typed pieces -/

/-- An event whose store has a property: a typed expression is evaluated, or a known name is used. -/
def Event.Sound (Γ : Context) (I : Store → Prop) : Event → Prop
  | .evaluates e s => e.Typed Γ ∧ I s
  | .uses name s => (∃ ty, Γ name = some ty) ∧ I s

/-- A property of the store that the evaluation of a typed expression keeps. -/
def Kept (Γ : Context) (I : Store → Prop) : Prop :=
  ∀ e : Expr, e.Typed Γ → ∀ s, I s → Ends (e.eval s) (fun _ s' => I s') fun _ _ => True

theorem Store.Agrees.kept {Γ : Context} : Kept Γ (Store.Agrees Γ) := fun e h _ hs =>
  (e.eval_typed h hs).mono (fun _ _ h => h.1) fun _ _ _ => trivial

theorem Kept.of_grows {Γ : Context} {I : Store → Prop} (h : ∀ s s', s.Grows Γ [] s' → I s → I s') :
    Kept Γ I := fun e he s hs =>
  (e.eval_grows he s).mono (fun _ s' hg => h s s' hg hs) fun _ _ _ => trivial

section
variable {Γ : Context} {I : Store → Prop} {s : Store} {V : Event → Prop}

theorem Eval.next_forall {α : Type} {x : Eval α} {events : α → Store → List Event}
    (h : Ends (x s) (fun _ s' => I s') fun _ _ => True)
    (hevents : ∀ a s, I s → ∀ e ∈ events a s, V e) : ∀ e ∈ x.next s events, V e := by
  intro e he
  unfold Eval.next at he
  cases hx : x s with
  | ok a s' =>
    rw [hx] at he
    exact hevents a s' (h.ok hx) e he
  | error f s' =>
    rw [hx] at he
    cases he

theorem Eval.read_kept {α : Type} {look : Store → Except Fault α} (hs : I s) :
    Ends (Eval.read look s) (fun _ s' => I s') fun _ _ => True :=
  Eval.read_ends ⟨fun _ => hs, fun _ => trivial⟩

theorem Kept.evalNumber (hI : Kept Γ I) {e : Expr} (h : e.Typed Γ) (hs : I s) :
    Ends (e.evalNumber s) (fun _ s' => I s') fun _ _ => True :=
  (hI e h s hs).bind fun _ _ hs' => Eval.lift_ends ⟨fun _ => hs', fun _ => trivial⟩

namespace Expr

mutual
theorem events_sound (hI : Kept Γ I) : (e : Expr) → e.Typed Γ → ∀ {s : Store}, I s →
    ∀ ev ∈ e.events s, ev.Sound Γ I
  | .lit ty raw => by
      intro h s hs
      rw [events, List.forall_mem_singleton]
      exact ⟨h, hs⟩
  | .var ty name => by
      intro h s hs
      rw [events, List.forall_mem_cons, List.forall_mem_singleton]
      exact ⟨⟨h, hs⟩, ⟨ty, h.1⟩, hs⟩
  | .binary ty op left right => by
      intro h s hs
      rw [events, List.forall_mem_cons, List.forall_mem_append]
      refine ⟨⟨h, hs⟩, events_sound hI left h.2.2.1 hs, ?_⟩
      exact Eval.next_forall (hI left h.2.2.1 s hs) fun _ _ hs' => events_sound hI right h.2.2.2 hs'
  | .unary ty op operand => by
      intro h s hs
      rw [events, List.forall_mem_cons]
      exact ⟨⟨h, hs⟩, events_sound hI operand h.2.2 hs⟩
  | .step ty name op fixity => by
      intro h s hs
      rw [events, List.forall_mem_cons, List.forall_mem_singleton]
      exact ⟨⟨h, hs⟩, ⟨_, h.2⟩, hs⟩
  | .arrayOf ty elems => by
      intro h s hs
      rw [events, List.forall_mem_cons]
      refine ⟨⟨h, hs⟩, ?_⟩
      obtain ⟨p, -, h⟩ := h
      exact eventsAll_sound hI (.scalar p) elems h hs
  | .newArray ty elem size => by
      intro h s hs
      rw [events, List.forall_mem_cons]
      refine ⟨⟨h, hs⟩, ?_⟩
      split
      · exact events_sound hI size h.2.2 hs
      · exact nofun
  | .index ty name idx => by
      intro h s hs
      rw [events, List.forall_mem_cons, List.forall_mem_append]
      obtain ⟨⟨p, hn, hty⟩, hidx, hi⟩ := h
      refine ⟨⟨⟨⟨p, hn, hty⟩, hidx, hi⟩, hs⟩, events_sound hI idx hi hs, ?_⟩
      refine Eval.next_forall (hI.evalNumber hi hs) fun _ s' hs' => ?_
      rw [List.forall_mem_singleton]
      exact ⟨⟨_, hn⟩, hs'⟩
  | .length ty name => by
      intro h s hs
      rw [events, List.forall_mem_cons, List.forall_mem_singleton]
      obtain ⟨hty, p, hn⟩ := h
      exact ⟨⟨⟨hty, p, hn⟩, hs⟩, ⟨_, hn⟩, hs⟩
  | .pop ty name => by
      intro h s hs
      rw [events, List.forall_mem_cons, List.forall_mem_singleton]
      obtain ⟨p, hn, hty⟩ := h
      exact ⟨⟨⟨p, hn, hty⟩, hs⟩, ⟨_, hn⟩, hs⟩

theorem eventsAll_sound (hI : Kept Γ I) (ty : Ty) : (es : List Expr) → TypedAll Γ ty es →
    ∀ {s : Store}, I s → ∀ ev ∈ eventsAll s es, ev.Sound Γ I
  | [] => by
      intro _ s _
      rw [eventsAll]
      exact nofun
  | e :: rest => by
      intro h s hs
      rw [eventsAll, List.forall_mem_append]
      refine ⟨events_sound hI e h.1.2 hs, ?_⟩
      exact Eval.next_forall (hI e h.1.2 s hs) fun _ _ hs' => eventsAll_sound hI ty rest h.2 hs'
end

theorem eventsThenUse_sound (hI : Kept Γ I) {e : Expr} (h : e.Typed Γ) {name : String} {ty : Ty}
    (hn : Γ name = some ty) (hs : I s) : ∀ ev ∈ e.eventsThenUse s name, ev.Sound Γ I := by
  rw [eventsThenUse, List.forall_mem_append]
  refine ⟨e.events_sound hI h hs, Eval.next_forall (hI e h s hs) fun _ s' hs' => ?_⟩
  rw [List.forall_mem_singleton]
  exact ⟨⟨ty, hn⟩, hs'⟩

theorem init_events_sound (hI : Kept Γ I) {init : Option Expr} (h : ∀ e ∈ init, e.Typed Γ)
    (hs : I s) : ∀ ev ∈ eventsAll s init.toList, ev.Sound Γ I := by
  cases init with
  | none => exact nofun
  | some e =>
    simp only [Option.toList_some]
    rw [eventsAll, List.forall_mem_append]
    refine ⟨e.events_sound hI (h e rfl) hs, ?_⟩
    exact Eval.next_forall (hI e (h e rfl) s hs) fun _ _ _ => nofun

end Expr

theorem DisplayItem.eventsAll_sound (hI : Kept Γ I) {items : List DisplayItem}
    (h : ∀ i ∈ items, i.Typed Γ) (hs : I s) :
    ∀ ev ∈ DisplayItem.eventsAll s items, ev.Sound Γ I := by
  induction items generalizing s with
  | nil => exact nofun
  | cons i rest ih =>
    have hrest := fun i hi => h i (List.mem_cons_of_mem _ hi)
    cases i with
    | expr e =>
      have he : e.Typed Γ := h (.expr e) (by simp)
      rw [eventsAll, List.forall_mem_append]
      exact ⟨e.events_sound hI he hs, Eval.next_forall (hI e he s hs) fun _ _ hs' => ih hrest hs'⟩
    | named name =>
      obtain ⟨ty, hn, -⟩ := h (.named name) (by simp)
      rw [eventsAll, List.forall_mem_cons]
      exact ⟨⟨⟨ty, hn⟩, hs⟩, Eval.next_forall (Eval.read_kept hs) fun _ _ hs' => ih hrest hs'⟩
    | literal raw =>
      rw [eventsAll]
      exact ih hrest hs

theorem Action.events_sound (hI : Kept Γ I) {a : Action} (h : a.Typed Γ) (hs : I s) :
    ∀ ev ∈ a.events s, ev.Sound Γ I := by
  cases a with
  | declare ty n init | declareArray elem n init =>
    obtain ⟨p, -, h⟩ := h
    exact Expr.init_events_sound hI (fun e he => (h e he).1) hs
  | assign n op value =>
    obtain ⟨ty, hn, -, hv, -⟩ := h
    exact Expr.eventsThenUse_sound hI hv hn hs
  | push n value =>
    obtain ⟨p, hn, hv, -⟩ := h
    exact Expr.eventsThenUse_sound hI hv hn hs
  | display item newline =>
    exact DisplayItem.eventsAll_sound hI (fun i hi => h i (Option.mem_toList.mp hi)) hs
  | displayAll items newline => exact DisplayItem.eventsAll_sound hI h hs
  | input n =>
    obtain ⟨p, hn⟩ := h
    rw [events, List.forall_mem_singleton]
    exact ⟨⟨_, hn⟩, hs⟩
  | assignArray n value =>
    obtain ⟨p, hn, hv, -⟩ := h
    rw [events, List.forall_mem_cons]
    refine ⟨⟨⟨_, hn⟩, hs⟩, Eval.next_forall (Eval.read_kept hs) fun b s' hs' => ?_⟩
    split
    · exact Expr.eventsThenUse_sound hI hv hn hs'
    · exact nofun
  | assignElement n idx op value | set n idx value =>
    obtain ⟨p, hn, hi, hv, -⟩ := h
    rw [events, List.forall_mem_append]
    refine ⟨idx.events_sound hI hi.1 hs, Eval.next_forall (hI.evalNumber hi.1 hs) fun _ s' hs' => ?_⟩
    exact Expr.eventsThenUse_sound hI hv hn hs'
  | inputElement n idx =>
    obtain ⟨p, hn, hi, -⟩ := h
    rw [events, List.forall_mem_append]
    refine ⟨idx.events_sound hI hi hs, Eval.next_forall (hI.evalNumber hi hs) fun _ s' hs' => ?_⟩
    rw [List.forall_mem_singleton]
    exact ⟨⟨_, hn⟩, hs'⟩
  | evaluate e => exact e.events_sound hI h hs

/-- A piece whose annotations follow the typing rules in a context. -/
def Piece.Typed (Γ : Context) : Piece → Prop
  | .action a => a.Typed Γ
  | .value e => e.Typed Γ
  | .condition e => e.Typed Γ ∧ e.ty = .logic

theorem Visit.events_sound (hI : Kept Γ I) {v : Visit} (h : v.piece.Typed Γ)
    (hs : I v.machine.store) : ∀ ev ∈ v.events, ev.Sound Γ I := by
  obtain ⟨t, piece, m⟩ := v
  cases piece with
  | action a => exact a.events_sound hI h hs
  | value e => exact e.events_sound hI h hs
  | condition e => exact e.events_sound hI h.1 hs

end

end Primer
