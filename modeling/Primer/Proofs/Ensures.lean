import Primer.Proofs.Watching
import Primer.Proofs.Frames

/-!
# What a watched execution ensures

A watched execution ensures something of its ends and of each of its visits, in view of the visits
before. The rules go along with the parts that executions are made of; a loop needs an invariant in
front of its condition and one behind it.
-/

namespace Primer

/-- A halt whose fault has a property; reaching the limit of rounds is no fault. -/
def Halt.Meets (E : Fault → Prop) : Halt → Prop
  | .failed f => E f.fault
  | .outOfRounds => True

theorem Halt.Meets.mono {E E' : Fault → Prop} {halt : Halt} (h : halt.Meets E)
    (hE : ∀ f, E f → E' f) : halt.Meets E' := by
  cases halt with
  | failed f => exact hE _ h
  | outOfRounds => trivial

/-- What ends with an item in front of two lists ends within the first, or goes on in the second. -/
theorem concat_prefix_append {α : Type} {xs ys before : List α} {a : α}
    (h : before ++ [a] <+: xs ++ ys) :
    before ++ [a] <+: xs ∨ ∃ rest, before = xs ++ rest ∧ rest ++ [a] <+: ys := by
  rcases List.prefix_or_prefix_of_prefix h (List.prefix_append xs ys) with hxs | ⟨rest, hrest⟩
  · exact .inl hxs
  rcases List.eq_nil_or_concat rest with rfl | ⟨rest, b, rfl⟩
  · exact .inl ⟨[], by simpa using hrest.symm⟩
  · rw [List.concat_eq_append, ← List.append_assoc] at hrest
    obtain ⟨rfl, hab⟩ := List.append_inj' hrest rfl
    cases hab
    rw [List.append_assoc, List.prefix_append_right_inj] at h
    exact .inr ⟨rest, rfl, h⟩

namespace Watched

variable {α β : Type} {past : List Visit} {E : List Visit → Visit → Fault → Prop}
  {V : List Visit → Visit → Prop}

/-- What holds of the value, the visits up to the end and the machine, of a fault and the visit that it
ends, and of each visit. The visits of the run before this part of it are given. -/
structure Ensures (x : Watched α) (past : List Visit) (m : Machine)
    (Q : α → List Visit → Machine → Prop) (E : List Visit → Visit → Fault → Prop)
    (V : List Visit → Visit → Prop) : Prop where
  ends : Ends (x.run m) (fun a m' => Q a (past ++ x.visits m) m') fun halt _ =>
    halt.Meets fun f => ∃ before v, x.visits m = before ++ [v] ∧ E (past ++ before) v f
  visits : ∀ before v, before ++ [v] <+: x.visits m → V (past ++ before) v

namespace Ensures

variable {Q Q' : α → List Visit → Machine → Prop} {R : β → List Visit → Machine → Prop}
  {x : Watched α} {m : Machine}

theorem mono (h : x.Ensures past m Q E V) (hQ : ∀ a past m', Q a past m' → Q' a past m') :
    x.Ensures past m Q' E V :=
  ⟨h.ends.mono (fun a m' hq => hQ a _ m' hq) fun _ _ hh => hh, h.visits⟩

/-- An execution without visits. -/
theorem of_silent {y : Exec α} (h : Ends (y m) (fun a m' => Q a past m') fun halt _ =>
    halt.Meets fun _ => False) : (silent y).Ensures past m Q E V where
  ends := h.mono (fun a m' hq => by simpa [silent] using hq)
    fun _ _ hh => hh.mono fun _ hf => hf.elim
  visits before v h := by simp [silent] at h

theorem pure {a : α} (h : Q a past m) : (Pure.pure a : Watched α).Ensures past m Q E V :=
  of_silent (Ends.pure h)

theorem bind {f : α → Watched β} (h : x.Ensures past m Q E V)
    (hf : ∀ a past m', Q a past m' → (f a).Ensures past m' R E V) :
    (x >>= f).Ensures past m R E V := by
  cases hx : x.run m with
  | ok a m' =>
    have hvisits : (x >>= f).visits m = x.visits m ++ (f a).visits m' := by
      show x.visits m ++ _ = _
      rw [hx]
    have hnext := hf a _ m' (h.ends.ok hx)
    refine ⟨?_, fun before v hv => ?_⟩
    · rw [hvisits, run_bind, Ends.run_bind_ok hx, ← List.append_assoc]
      refine hnext.ends.mono (fun _ _ hq => hq) fun halt _ hh => hh.mono fun fault => ?_
      rintro ⟨before, v, hsplit, hE⟩
      exact ⟨x.visits m ++ before, v, by rw [hsplit, List.append_assoc],
        by rwa [← List.append_assoc]⟩
    · rw [hvisits] at hv
      rcases concat_prefix_append hv with hfirst | ⟨rest, rfl, hrest⟩
      · exact h.visits before v hfirst
      · rw [← List.append_assoc]
        exact hnext.visits rest v hrest
  | error halt m' =>
    have hvisits : (x >>= f).visits m = x.visits m := by
      show x.visits m ++ _ = _
      rw [hx, List.append_nil]
    refine ⟨?_, fun before v hv => h.visits before v (hvisits ▸ hv)⟩
    rw [hvisits, run_bind, Ends.run_bind_error hx]
    exact ⟨nofun, fun he => by cases he; exact h.ends.error hx⟩

theorem outOfRounds : (silent (throw .outOfRounds) : Watched α).Ensures past m Q E V :=
  of_silent (Ends.throw trivial)

/-! ## Pieces -/

theorem act_ends {a : Act α} {Q : α → Machine → Prop} {E : Fault → Prop}
    (h : Ends (a m) Q fun f _ => E f) : Ends (Exec.act a m) Q fun halt _ => halt.Meets E := by
  cases ha : a m with
  | ok v m' =>
    rw [Exec.act_ok ha]
    exact ⟨fun hx => by cases hx; exact h.ok ha, nofun⟩
  | error f m' =>
    rw [Exec.act_error ha]
    exact ⟨nofun, fun hx => by cases hx; exact h.error ha⟩

/-- An execution that is a single visit. -/
theorem of_visit {v : Visit} (hvisits : x.visits m = [v])
    (hends : Ends (x.run m) (fun a m' => Q a (past ++ [v]) m') fun halt _ => halt.Meets (E past v))
    (hv : V past v) : x.Ensures past m Q E V where
  ends := by
    rw [hvisits]
    exact hends.mono (fun _ _ hq => hq) fun _ _ hh => hh.mono fun _ hf =>
      ⟨[], v, rfl, by rwa [List.append_nil]⟩
  visits before v' h := by
    rw [hvisits] at h
    rcases List.prefix_cons_iff.mp h with h | ⟨rest, h, hrest⟩
    · simp at h
    rw [List.prefix_nil.mp hrest] at h
    obtain ⟨rfl, hv'⟩ := List.append_eq_singleton_iff.mp h |>.resolve_right (by simp)
    obtain rfl := List.singleton_inj.mp hv'
    rwa [List.append_nil]

theorem perform {settings : Settings} {t : ScopeTree} {a : Action}
    {Q : Unit → List Visit → Machine → Prop}
    (h : Ends (a.perform settings m) (fun u m' => Q u (past ++ [⟨t, .action a, m⟩]) m')
      fun f _ => E past ⟨t, .action a, m⟩ f) (hv : V past ⟨t, .action a, m⟩) :
    (Watched.perform settings t a).Ensures past m Q E V :=
  .of_visit rfl (act_ends h) hv

theorem eval {t : ScopeTree} {e : Expr} {Q : Value → List Visit → Machine → Prop}
    (h : Ends (Act.eval e.eval m) (fun w m' => Q w (past ++ [⟨t, .value e, m⟩]) m')
      fun f _ => E past ⟨t, .value e, m⟩ f) (hv : V past ⟨t, .value e, m⟩) :
    (Watched.eval t e).Ensures past m Q E V :=
  .of_visit rfl (act_ends h) hv

theorem condition {t : ScopeTree} {e : Expr} {Q : Bool → List Visit → Machine → Prop}
    (h : Ends (Act.eval e.evalLogic m) (fun b m' => Q b (past ++ [⟨t, .condition e, m⟩]) m')
      fun f _ => E past ⟨t, .condition e, m⟩ f) (hv : V past ⟨t, .condition e, m⟩) :
    (Watched.condition t e).Ensures past m Q E V :=
  .of_visit rfl (act_ends h) hv

/-! ## Lines and frames -/

theorem onLine {line : Option Line} (h : x.Ensures past m Q E V) :
    (Watched.onLine line x).Ensures past m Q E V := by
  refine ⟨?_, h.visits⟩
  show Ends (Exec.onLine line x.run m) _ _
  cases hx : x.run m with
  | ok v m' =>
    rw [Exec.onLine_ok hx]
    exact ⟨fun he => by cases he; exact h.ends.ok hx, nofun⟩
  | error halt m' =>
    rw [Exec.onLine_error hx]
    refine ⟨nofun, fun he => ?_⟩
    cases he
    have hmeets := h.ends.error hx
    cases halt with
    | failed f => exact hmeets
    | outOfRounds => trivial

theorem inFrame {taken : Bool}
    (h : x.Ensures past { m with frames := m.frames.enter taken }
      (fun a past m' => Q a past { m' with frames := m'.frames.leave }) E V) :
    (Watched.inFrame taken x).Ensures past m Q E V := by
  refine ⟨?_, h.visits⟩
  show Ends (Exec.inFrame taken x.run m) _ _
  cases hx : x.run { m with frames := m.frames.enter taken } with
  | ok v m' =>
    rw [Exec.inFrame_ok hx]
    exact ⟨fun he => by cases he; exact h.ends.ok hx, nofun⟩
  | error halt m' =>
    rw [Exec.inFrame_error hx]
    exact ⟨nofun, fun he => by cases he; exact h.ends.error hx⟩

theorem isLive {Q : Bool → List Visit → Machine → Prop} (h : Q m.frames.isLive past m) :
    (silent Exec.isLive).Ensures past m Q E V :=
  of_silent (Ends.bind (Ends.get (Q := fun a m' => a = m ∧ m' = m) ⟨rfl, rfl⟩)
    fun a m' ⟨ha, hm'⟩ => by subst ha hm'; exact Ends.pure h)

/-- An execution goes on where control is live, and is left out where it is not. -/
theorem ifLive_of {x : Watched Signal} {Q : Signal → List Visit → Machine → Prop}
    (hlive : m.frames.isLive = true → x.Ensures past m Q E V)
    (hdead : m.frames.isLive = false → Q .normal past m) : (Watched.ifLive x).Ensures past m Q E V := by
  refine bind (isLive (Q := fun live past' m' => (past' = past ∧ m' = m) ∧ m.frames.isLive = live)
    ⟨⟨rfl, rfl⟩, rfl⟩) fun live past' m' ⟨⟨hpast, hm'⟩, hl⟩ => ?_
  subst hpast hm'
  cases live with
  | true => exact hlive hl
  | false => exact pure (hdead hl)

theorem ifLive {x : Watched Signal} {Q : Signal → List Visit → Machine → Prop}
    (hm : m.frames.isLive = true) (h : x.Ensures past m Q E V) :
    (Watched.ifLive x).Ensures past m Q E V :=
  ifLive_of (fun _ => h) fun hdead => by rw [hm] at hdead; cases hdead

/-- A body that is not taken is left out. -/
theorem arm {taken : Bool} {body : Watched Signal} {Q : Signal → List Visit → Machine → Prop}
    (hm : m.frames.isLive = true) (hskip : Q .normal past m)
    (h : body.Ensures past { m with frames := m.frames.enter true }
      (fun a past m' => Q a past { m' with frames := m'.frames.leave }) E V) :
    (Watched.arm taken body).Ensures past m Q E V := by
  refine inFrame ?_
  cases taken with
  | true => exact ifLive hm h
  | false => exact ifLive_of nofun fun _ => hskip

/-! ## Loops -/

/-- The rounds of a loop. What holds in front of a condition is `J`, what holds behind it `K`; the body
keeps `K`, and the update leads back. -/
theorem rounds {cond : Watched Bool} {body : Watched Signal} {update : Watched Unit}
    {J K : List Visit → Machine → Prop}
    (hc : ∀ past m, J past m → cond.Ensures past m (fun _ => K) E V)
    (hb : ∀ past m, K past m → body.Ensures past m (fun _ => K) E V)
    (hu : ∀ past m, K past m → update.Ensures past m (fun _ => J) E V) (limit : Nat)
    (hm : J past m) :
    (Watched.rounds cond body update limit).Ensures past m
      (fun signal past m' => K past m' ∧ signal = .normal) E V := by
  induction limit generalizing past m with
  | zero => exact outOfRounds
  | succ limit ih =>
    rw [Watched.rounds]
    refine (hc past m hm).bind fun holds past₁ m₁ h₁ => ?_
    split
    · refine (hb past₁ m₁ h₁).bind fun signal past₂ m₂ h₂ => ?_
      split
      · exact pure ⟨h₂, rfl⟩
      · exact (hu past₂ m₂ h₂).bind fun _ past₃ m₃ h₃ => ih h₃
    · exact pure ⟨h₁, rfl⟩

theorem roundsAfter {body : Watched Signal} {cond : Watched Bool} {J : List Visit → Machine → Prop}
    (hb : ∀ past m, J past m → body.Ensures past m (fun _ => J) E V)
    (hc : ∀ past m, J past m → cond.Ensures past m (fun _ => J) E V) (limit : Nat)
    (hm : J past m) :
    (Watched.roundsAfter body cond limit).Ensures past m
      (fun signal past m' => J past m' ∧ signal = .normal) E V := by
  induction limit generalizing past m with
  | zero => exact outOfRounds
  | succ limit ih =>
    rw [Watched.roundsAfter]
    refine (hb past m hm).bind fun signal past₁ m₁ h₁ => ?_
    split
    · exact pure ⟨h₁, rfl⟩
    · refine (hc past₁ m₁ h₁).bind fun holds past₂ m₂ h₂ => ?_
      split
      · exact ih h₂
      · exact pure ⟨h₂, rfl⟩

end Ensures

end Watched

theorem Frames.isLive_leave {frames : Frames} (h : frames.isLive = true) :
    frames.leave.isLive = true := by
  cases frames with
  | nil => rfl
  | cons taken rest =>
    simp only [isLive, List.all_cons, Bool.and_eq_true] at h
    exact h.2

end Primer
