import Primer.Run.Action

/-!
# How a computation ends

A conversion yields a value or a fault, and a part of a run ends with a value or a fault and a state
in both cases. `Yields` and `Ends` say what holds of either end, and go along with the composition
of conversions and of runs.
-/

namespace Primer

variable {ε σ α β : Type}

/-! ## Conversions -/

/-- What holds of the value or of the fault. -/
structure Yields (x : Except ε α) (Q : α → Prop) (E : ε → Prop) : Prop where
  ok : ∀ {a}, x = .ok a → Q a
  error : ∀ {f}, x = .error f → E f

namespace Yields

variable {Q Q' : α → Prop} {R : β → Prop} {E E' : ε → Prop} {x : Except ε α}

theorem any : Yields x (fun _ => True) fun _ => True := ⟨fun _ => trivial, fun _ => trivial⟩

theorem value {a : α} (h : Q a) : Yields (.ok a : Except ε α) Q E :=
  ⟨fun hx => by cases hx; exact h, nofun⟩

theorem fault {f : ε} (h : E f) : Yields (.error f : Except ε α) Q E :=
  ⟨nofun, fun hx => by cases hx; exact h⟩

theorem mono (h : Yields x Q E) (hQ : ∀ a, Q a → Q' a) (hE : ∀ f, E f → E' f) : Yields x Q' E' :=
  ⟨fun hx => hQ _ (h.ok hx), fun hx => hE _ (h.error hx)⟩

theorem bind {f : α → Except ε β} (h : Yields x Q E) (hf : ∀ a, Q a → Yields (f a) R E) :
    Yields (x >>= f) R E := by
  cases x with
  | ok a => exact hf a (h.ok rfl)
  | error f => exact .fault (h.error rfl)

theorem ok_of_bind {f : α → Except ε β} {b : β} (h : (x >>= f) = .ok b) :
    ∃ a, x = .ok a ∧ f a = .ok b := by
  cases x with
  | ok a => exact ⟨a, rfl, h⟩
  | error e => cases h

theorem ok_of_map {f : α → β} {b : β} (h : x.map f = .ok b) : ∃ a, x = .ok a ∧ f a = b := by
  cases x with
  | ok a => exact ⟨a, rfl, Except.ok.inj h⟩
  | error e => cases h

theorem map {f : α → β} (h : Yields x (fun a => R (f a)) E) : Yields (x.map f) R E := by
  cases x with
  | ok a => exact .value (h.ok rfl)
  | error f => exact .fault (h.error rfl)

theorem mapM {f : α → Except ε β} {items : List α} (h : ∀ a ∈ items, Yields (f a) R E) :
    Yields (items.mapM f) (fun found => ∀ b ∈ found, R b) E := by
  induction items with
  | nil => exact .value nofun
  | cons a rest ih =>
    rw [List.mapM_cons]
    refine (h a (by simp)).bind fun b hb => ?_
    refine (ih fun a ha => h a (by simp [ha])).bind fun found hfound => .value ?_
    simpa using ⟨hb, hfound⟩

end Yields

/-! ## Parts of a run -/

/-- What holds of the value or of the fault, and of the state after it. -/
structure Ends (r : EStateM.Result ε σ α) (Q : α → σ → Prop) (E : ε → σ → Prop) : Prop where
  ok : ∀ {a s}, r = .ok a s → Q a s
  error : ∀ {f s}, r = .error f s → E f s

namespace Ends

variable {Q Q' : α → σ → Prop} {R : β → σ → Prop} {E E' : ε → σ → Prop} {x : EStateM ε σ α} {s : σ}

theorem mono (h : Ends (x s) Q E) (hQ : ∀ a s', Q a s' → Q' a s') (hE : ∀ f s', E f s' → E' f s') :
    Ends (x s) Q' E' :=
  ⟨fun hx => hQ _ _ (h.ok hx), fun hx => hE _ _ (h.error hx)⟩

theorem any {r : EStateM.Result ε σ α} : Ends r (fun _ _ => True) fun _ _ => True :=
  ⟨fun _ => trivial, fun _ => trivial⟩

theorem pure {a : α} (h : Q a s) : Ends ((Pure.pure a : EStateM ε σ α) s) Q E :=
  ⟨fun hx => by cases hx; exact h, nofun⟩

theorem throw {f : ε} (h : E f s) : Ends ((MonadExcept.throw f : EStateM ε σ α) s) Q E :=
  ⟨nofun, fun hx => by cases hx; exact h⟩

theorem get {Q : σ → σ → Prop} (h : Q s s) : Ends ((MonadState.get : EStateM ε σ σ) s) Q E :=
  ⟨fun hx => by cases hx; exact h, nofun⟩

theorem modify {g : σ → σ} {Q : Unit → σ → Prop} (h : Q () (g s)) :
    Ends ((modify g : EStateM ε σ Unit) s) Q E :=
  ⟨fun hx => by cases hx; exact h, nofun⟩

theorem run_bind_ok {f : α → EStateM ε σ β} {a : α} {s' : σ} (h : x s = .ok a s') :
    (x >>= f) s = f a s' := by
  show EStateM.bind x f s = _
  rw [EStateM.bind, h]

theorem run_bind_error {f : α → EStateM ε σ β} {e : ε} {s' : σ} (h : x s = .error e s') :
    (x >>= f) s = .error e s' := by
  show EStateM.bind x f s = _
  rw [EStateM.bind, h]

/-- The ends of a composition, by those of its first part. -/
theorem bind_eq {f : α → EStateM ε σ β} (ok : ∀ a s', x s = .ok a s' → Ends (f a s') R E)
    (error : ∀ e s', x s = .error e s' → E e s') : Ends ((x >>= f) s) R E := by
  cases hx : x s with
  | ok a s' =>
    rw [run_bind_ok hx]
    exact ok a s' hx
  | error e s' =>
    rw [run_bind_error hx]
    exact ⟨nofun, fun he => by cases he; exact error e s' hx⟩

theorem bind {f : α → EStateM ε σ β} (h : Ends (x s) Q E)
    (hf : ∀ a s', Q a s' → Ends (f a s') R E) : Ends ((x >>= f) s) R E :=
  bind_eq (fun a s' hx => hf a s' (h.ok hx)) fun _ _ hx => h.error hx

section
variable {y : EStateM ε σ α} {f g : α → EStateM ε σ β}

theorem bind_congr (h : y s = x s) (hx : Ends (x s) Q E)
    (hf : ∀ a s', Q a s' → g a s' = f a s') : (y >>= g) s = (x >>= f) s := by
  cases hr : x s with
  | ok a s' => rw [run_bind_ok hr, run_bind_ok (h.trans hr), hf a s' (hx.ok hr)]
  | error e s' => rw [run_bind_error hr, run_bind_error (h.trans hr)]

theorem bind_left (h : y s = x s) : (y >>= f) s = (x >>= f) s :=
  bind_congr h .any fun _ _ _ => rfl

end

end Ends

/-! ## Evaluations and acts -/

section
variable {Q : α → Store → Prop} {E : Fault → Store → Prop} {s : Store}

theorem Eval.lift_ends {x : Except Fault α} (h : Yields x (Q · s) (E · s)) :
    Ends (Eval.lift x s) Q E := by
  cases x with
  | ok a => exact Ends.pure (h.ok rfl)
  | error f => exact Ends.throw (h.error rfl)

theorem Eval.read_ends {look : Store → Except Fault α} (h : Yields (look s) (Q · s) (E · s)) :
    Ends (Eval.read look s) Q E :=
  Eval.lift_ends (x := look s) h

theorem Eval.set_ends {s' : Store} {Q : Unit → Store → Prop} (h : Q () s') :
    Ends ((set s' : Eval Unit) s) Q E :=
  ⟨fun hx => by cases hx; exact h, nofun⟩

theorem Eval.change_ends {update : Store → Except Fault Store} {Q : Unit → Store → Prop}
    (h : Yields (update s) (Q ()) (E · s)) : Ends (Eval.change update s) Q E :=
  Ends.bind (Eval.read_ends (Q := fun s' _ => Q () s') h) fun _ _ hs => Eval.set_ends hs

end

section
variable {Q : α → Machine → Prop} {E : Fault → Machine → Prop} {m : Machine}

theorem Act.eval_ok {e : Eval α} {a : α} {s : Store} (h : e m.store = .ok a s) :
    Act.eval e m = .ok a { m with store := s } := by
  rw [Act.eval, h]

theorem Act.eval_error {e : Eval α} {f : Fault} {s : Store} (h : e m.store = .error f s) :
    Act.eval e m = .error f { m with store := s } := by
  rw [Act.eval, h]

theorem Act.eval_ends {e : Eval α}
    (h : Ends (e m.store) (fun a s => Q a { m with store := s }) fun f s => E f { m with store := s }) :
    Ends (Act.eval e m) Q E := by
  cases he : e m.store with
  | ok a s =>
    rw [eval_ok he]
    exact ⟨fun hx => by cases hx; exact h.ok he, nofun⟩
  | error f s =>
    rw [eval_error he]
    exact ⟨nofun, fun hx => by cases hx; exact h.error he⟩

theorem Act.eval_congr {x y : Eval α} (h : y m.store = x m.store) : Act.eval y m = Act.eval x m := by
  rw [eval, eval, h]

theorem Act.lift_ok (a : α) : Act.lift (.ok a) = (Pure.pure a : Act α) := rfl

theorem Act.lift_ends {x : Except Fault α} (h : Yields x (Q · m) (E · m)) :
    Ends (Act.lift x m) Q E := by
  cases x with
  | ok a => exact Ends.pure (h.ok rfl)
  | error f => exact Ends.throw (h.error rfl)

theorem Act.read_ok {look : Store → Except Fault α} {a : α} (h : look m.store = .ok a) :
    Act.read look m = .ok a m := by
  refine Act.eval_ok ?_
  show Eval.lift (look m.store) m.store = _
  rw [h]
  rfl

theorem Act.read_error {look : Store → Except Fault α} {f : Fault} (h : look m.store = .error f) :
    Act.read look m = .error f m := by
  refine Act.eval_error ?_
  show Eval.lift (look m.store) m.store = _
  rw [h]
  rfl

theorem Act.read_ends {look : Store → Except Fault α} (h : Yields (look m.store) (Q · m) (E · m)) :
    Ends (Act.read look m) Q E :=
  Act.eval_ends (Eval.read_ends h)

theorem Act.change_ends {update : Store → Except Fault Store} {Q : Unit → Machine → Prop}
    (h : Yields (update m.store) (fun s => Q () { m with store := s }) (E · m)) :
    Ends (Act.change update m) Q E :=
  Act.eval_ends (Eval.change_ends h)

end

/-! ## Acts that keep a property of the store -/

/-- An act that keeps a property of the store and the frames, with what holds of its fault. -/
def Act.Keeps {α : Type} (I : Store → Prop) (E : Fault → Prop) (x : Act α) (m : Machine) : Prop :=
  Ends (x m) (fun _ m' => m'.frames = m.frames ∧ I m'.store) (fun f _ => E f)

namespace Act.Keeps

variable {α β : Type} {I J : Store → Prop} {E : Fault → Prop} {x : Act α} {m : Machine}

theorem pure {a : α} (h : I m.store) : Keeps I E (Pure.pure a : Act α) m := Ends.pure ⟨rfl, h⟩

theorem bind {f : α → Act β} (h : Keeps I E x m)
    (hf : ∀ a m', I m'.store → Keeps J E (f a) m') : Keeps J E (x >>= f) m :=
  Ends.bind h fun a m' hm' =>
    (hf a m' hm'.2).mono (fun _ _ h => ⟨h.1.trans hm'.1, h.2⟩) fun _ _ h => h

theorem eval {e : Eval α} (h : Ends (e m.store) (fun _ s => I s) (fun f _ => E f)) :
    Keeps I E (Act.eval e) m :=
  Act.eval_ends (h.mono (fun _ _ hs => ⟨rfl, hs⟩) fun _ _ hf => hf)

theorem lift {y : Except Fault α} (hm : I m.store) (h : Yields y (fun _ => True) E) :
    Keeps I E (Act.lift y) m :=
  Act.lift_ends (h.mono (fun _ _ => ⟨rfl, hm⟩) fun _ hf => hf)

theorem read {look : Store → Except Fault α} (hm : I m.store)
    (h : Yields (look m.store) (fun _ => True) E) : Keeps I E (Act.read look) m :=
  eval (Eval.read_ends (h.mono (fun _ _ => hm) fun _ hf => hf))

theorem change {update : Store → Except Fault Store} (h : Yields (update m.store) I E) :
    Keeps I E (Act.change update) m :=
  Act.change_ends (h.mono (fun _ hs => ⟨rfl, hs⟩) fun _ hf => hf)

theorem write {f : Console → Console} (h : I m.store) : Keeps I E (Act.write f) m :=
  ⟨fun hx => by cases hx; exact ⟨rfl, h⟩, nofun⟩

theorem warn {settings : Settings} {message : String} (h : I m.store) :
    Keeps I E (Act.warn settings message) m := by
  unfold Act.warn
  split
  · exact write h
  · exact pure h

theorem input {settings : Settings} {prompt : String} (h : I m.store) (hE : E .inputClosed) :
    Keeps I E (Act.input settings prompt) m := by
  unfold Act.input
  extract_lets rest
  have hrest : ∀ u m', I m'.store → Keeps I E (rest u) m' := by
    intro u m' hm'
    refine Ends.bind (Q := fun a m'' => m'' = m') (Ends.get rfl) fun a m'' hm'' => ?_
    subst hm''
    generalize a.console.readLine = read
    obtain ⟨line, console⟩ := read
    refine Ends.bind (Q := fun _ m' => m'.frames = m''.frames ∧ I m'.store) (Ends.modify ⟨rfl, hm'⟩)
      fun _ m' hm => ?_
    cases line with
    | none => exact Ends.throw hE
    | some line => exact Ends.pure hm
  split
  · exact (write h).bind hrest
  · exact hrest () m h

end Act.Keeps

end Primer
