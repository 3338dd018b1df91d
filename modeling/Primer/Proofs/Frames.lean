import Primer.Proofs.Acting
import Primer.Proofs.Consoles
import Primer.Run.Exec

/-!
# Computations that are blind to frames

An action sees the store and the console of a machine and nothing else of it. So it makes the same of
a machine whatever the frames are, and leaves the frames as they are.
-/

namespace Primer

variable {ε ε' σ α β : Type}

/-! ## Results -/

/-- The state that a computation leaves, however it ends. -/
def stateOf : EStateM.Result ε σ α → σ
  | .ok _ s => s
  | .error _ s => s

def mapState (f : σ → σ) : EStateM.Result ε σ α → EStateM.Result ε σ α
  | .ok a s => .ok a (f s)
  | .error e s => .error e (f s)

@[simp] theorem stateOf_ok (a : α) (s : σ) : stateOf (.ok a s : EStateM.Result ε σ α) = s := rfl

@[simp] theorem stateOf_error (e : ε) (s : σ) :
    stateOf (.error e s : EStateM.Result ε σ α) = s := rfl

@[simp] theorem mapState_error (f : σ → σ) (e : ε) (s : σ) :
    mapState f (.error e s : EStateM.Result ε σ α) = .error e (f s) := rfl

@[simp] theorem stateOf_mapState (f : σ → σ) (r : EStateM.Result ε σ α) :
    stateOf (mapState f r) = f (stateOf r) := by
  cases r <;> rfl

/-! ## Blindness -/

def Machine.withFrames (frames : Frames) (m : Machine) : Machine := { m with frames }

section
variable {m : Machine} {f g : Frames}

@[simp] theorem Machine.withFrames_frames : (m.withFrames f).frames = f := rfl

@[simp] theorem Machine.withFrames_self : m.withFrames m.frames = m := rfl

@[simp] theorem Machine.withFrames_twice : (m.withFrames f).withFrames g = m.withFrames g := rfl

end

/-- A computation that makes the same of a machine whatever its frames are. -/
def Blind (x : EStateM ε Machine α) : Prop :=
  ∀ m frames, x (m.withFrames frames) = mapState (Machine.withFrames frames) (x m)

namespace Blind

variable {x : EStateM ε Machine α}

/-- What is blind to frames does not change them. -/
theorem frames (h : Blind x) (m : Machine) : (stateOf (x m)).frames = m.frames := by
  have hm := h m m.frames
  rw [Machine.withFrames_self] at hm
  rw [hm, stateOf_mapState, Machine.withFrames_frames]

theorem pure (a : α) : Blind (Pure.pure a : EStateM ε Machine α) := fun _ _ => rfl

theorem throw (e : ε) : Blind (MonadExcept.throw e : EStateM ε Machine α) := fun _ _ => rfl

theorem bind {f : α → EStateM ε Machine β} (h : Blind x) (hf : ∀ a, Blind (f a)) :
    Blind (x >>= f) := by
  intro m frames
  have hm := h m frames
  cases hx : x m with
  | ok a m' =>
    rw [hx] at hm
    rw [Ends.run_bind_ok hm, Ends.run_bind_ok hx, hf a m' frames]
  | error e m' =>
    rw [hx] at hm
    rw [Ends.run_bind_error hm, Ends.run_bind_error hx, mapState_error]

end Blind

/-! ## Executions -/

namespace Exec

section
variable {a : Act α} {x : Exec α} {m m' : Machine} {v : α} {f : Fault} {halt : Halt} {taken : Bool}

theorem act_ok (h : a m = .ok v m') : Exec.act a m = .ok v m' := by
  rw [Exec.act, h]

theorem act_error (h : a m = .error f m') : Exec.act a m = .error (.failed (.of f)) m' := by
  rw [Exec.act, h]

theorem onLine_ok {line : Option Line} (h : x m = .ok v m') : onLine line x m = .ok v m' := by
  rw [onLine, h]

theorem onLine_error {line : Option Line} (h : x m = .error halt m') :
    onLine line x m = .error (halt.orLine line) m' := by
  rw [onLine, h]

theorem ok_of_onLine {line : Option Line} (h : onLine line x m = .ok v m') : x m = .ok v m' := by
  cases hx : x m with
  | ok w m₁ =>
    rw [onLine_ok hx] at h
    exact h
  | error halt m₁ =>
    rw [onLine_error hx] at h
    cases h

theorem inFrame_ok (h : x (m.withFrames (m.frames.enter taken)) = .ok v m') :
    inFrame taken x m = .ok v (m'.withFrames m'.frames.leave) := by
  rw [Machine.withFrames] at h
  rw [inFrame, h, Machine.withFrames]

theorem inFrame_error (h : x (m.withFrames (m.frames.enter taken)) = .error halt m') :
    inFrame taken x m = .error halt (m'.withFrames m'.frames.leave) := by
  rw [Machine.withFrames] at h
  rw [inFrame, h, Machine.withFrames]

theorem inFrame_congr {y : Exec α} (h : x (m.withFrames (m.frames.enter taken)) =
    y (m.withFrames (m.frames.enter taken))) : inFrame taken x m = inFrame taken y m := by
  rw [Machine.withFrames] at h
  rw [inFrame, inFrame, h]

theorem ok_of_inFrame (h : inFrame taken x m = .ok v m') :
    ∃ m₁, x (m.withFrames (m.frames.enter taken)) = .ok v m₁ := by
  cases hx : x (m.withFrames (m.frames.enter taken)) with
  | ok w m₁ =>
    rw [inFrame_ok hx] at h
    cases h
    exact ⟨m₁, rfl⟩
  | error halt m₁ =>
    rw [inFrame_error hx] at h
    cases h

end

end Exec

/-! ## Acts -/

namespace Act

theorem eval_blind (e : Eval α) : Blind (Act.eval e) := by
  intro m frames
  cases he : e m.store with
  | ok a s => rw [eval_ok he, eval_ok (m := m.withFrames frames) he]; rfl
  | error f s => rw [eval_error he, eval_error (m := m.withFrames frames) he]; rfl

theorem write_blind (f : Console → Console) : Blind (Act.write f) := fun _ _ => rfl

theorem warn_blind (settings : Settings) (message : String) : Blind (Act.warn settings message) := by
  rw [warn_eq]
  exact write_blind _

theorem line_blind : Blind line := by
  intro m frames
  rcases hread : m.console.readLine with ⟨_ | text, console⟩
  · rw [line_none hread, line_none (m := m.withFrames frames) hread]
    rfl
  · rw [line_some hread, line_some (m := m.withFrames frames) hread]
    rfl

theorem input_blind (settings : Settings) (prompt : String) : Blind (Act.input settings prompt) := by
  rw [input_eq_prompted]
  exact (write_blind _).bind fun _ => line_blind

end Act

/-! ## Actions -/

/-- Blindness is a relation of an act to whatever act. -/
def Act.blindness (settings : Settings) : Act.Reading settings settings where
  rel x _ := Blind x
  pure := .pure
  throw := .throw
  bind := .bind
  eval := Act.eval_blind
  print _ := Act.write_blind _
  input := Act.input_blind settings
  warn := Act.warn_blind settings

theorem Action.perform_blind (settings : Settings) (a : Action) : Blind (a.perform settings) :=
  (Act.blindness settings).perform a

end Primer
