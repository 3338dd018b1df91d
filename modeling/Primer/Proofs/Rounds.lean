import Primer.Proofs.Frames

/-!
# The limit of rounds

An execution that is not cut short by its limit of rounds does the same under every higher limit.
What it ends in is therefore what it ends in under all limits that are high enough, and it goes on for
ever where every limit cuts it short.
-/

namespace Primer

/-! ## Results that are not cut short -/

/-- A result that no limit of rounds cut short. -/
def Decided {α : Type} (r : EStateM.Result Halt Machine α) : Prop := ∀ m, r ≠ .error .outOfRounds m

namespace Decided

variable {α β : Type} {x : Exec α} {m : Machine}

theorem of_bind {f : α → Exec β} (h : Decided ((x >>= f) m)) : Decided (x m) :=
  fun m' hx => h m' (Ends.run_bind_error hx)

theorem of_onLine {line : Option Line} (h : Decided (Exec.onLine line x m)) : Decided (x m) :=
  fun m' hx => h m' (Exec.onLine_error hx)

theorem of_inFrame {taken : Bool} (h : Decided (Exec.inFrame taken x m)) :
    Decided (x (m.withFrames (m.frames.enter taken))) :=
  fun _ hx => h _ (Exec.inFrame_error hx)

end Decided

/-- An execution does what another one does unless it is cut short. -/
def Exec.Approximates {α : Type} (x y : Exec α) : Prop := ∀ m, Decided (x m) → y m = x m

namespace Exec.Approximates

variable {α β : Type} {x y : Exec α}

theorem refl (x : Exec α) : Approximates x x := fun _ _ => rfl

theorem outOfRounds (y : Exec α) : Approximates (throw .outOfRounds) y :=
  fun m h => absurd rfl (h m)

theorem bind {f g : α → Exec β} (h : Approximates x y) (hf : ∀ a, Approximates (f a) (g a)) :
    Approximates (x >>= f) (y >>= g) := by
  intro m hm
  have hy := h m hm.of_bind
  cases hx : x m with
  | ok a m' =>
    rw [Ends.run_bind_ok hx] at hm ⊢
    rw [Ends.run_bind_ok (hy.trans hx)]
    exact hf a m' hm
  | error halt m' => rw [Ends.run_bind_error hx, Ends.run_bind_error (hy.trans hx)]

theorem after {f g : α → Exec β} (hf : ∀ a, Approximates (f a) (g a)) :
    Approximates (x >>= f) (x >>= g) :=
  (refl x).bind hf

theorem ite {p : Prop} [Decidable p] {x' y' : Exec α} (h : Approximates x y)
    (h' : Approximates x' y') : Approximates (if p then x else x') (if p then y else y') := by
  split
  · exact h
  · exact h'

theorem onLine (line : Option Line) (h : Approximates x y) :
    Approximates (Exec.onLine line x) (Exec.onLine line y) := by
  intro m hm
  rw [Exec.onLine, Exec.onLine, h m hm.of_onLine]

theorem inFrame (taken : Bool) (h : Approximates x y) :
    Approximates (Exec.inFrame taken x) (Exec.inFrame taken y) :=
  fun _ hm => Exec.inFrame_congr (h _ hm.of_inFrame)

theorem ifLive {x y : Exec Signal} (h : Approximates x y) :
    Approximates (Exec.ifLive x) (Exec.ifLive y) :=
  after fun _ => .ite h (.refl _)

theorem arm (taken : Bool) {x y : Exec Signal} (h : Approximates x y) :
    Approximates (Exec.arm taken x) (Exec.arm taken y) :=
  .inFrame taken (.ifLive h)

section
variable {cond : Exec Bool} {body body' : Exec Signal} {update update' : Exec Unit}
  {limit limit' : Nat}

theorem rounds (hb : Approximates body body') (hu : Approximates update update')
    (h : limit ≤ limit') :
    Approximates (Exec.rounds cond body update limit) (Exec.rounds cond body' update' limit') := by
  induction limit generalizing limit' with
  | zero => exact .outOfRounds _
  | succ limit ih =>
    cases limit' with
    | zero => cases h
    | succ limit' =>
      refine .after fun holds => .ite (.bind hb fun signal => .ite (.refl _) ?_) (.refl _)
      exact .bind hu fun _ => ih (Nat.le_of_succ_le_succ h)

theorem roundsAfter (hb : Approximates body body') (h : limit ≤ limit') :
    Approximates (Exec.roundsAfter body cond limit) (Exec.roundsAfter body' cond limit') := by
  induction limit generalizing limit' with
  | zero => exact .outOfRounds _
  | succ limit ih =>
    cases limit' with
    | zero => cases h
    | succ limit' =>
      refine .bind hb fun signal => .ite (.refl _) (.after fun holds => .ite ?_ (.refl _))
      exact ih (Nat.le_of_succ_le_succ h)

end

end Exec.Approximates

/-! ## Statements -/

namespace Stmt

open Exec

variable {settings : Settings} {limit limit' : Nat}

mutual
theorem exec_mono (h : limit ≤ limit') : (s : Stmt) →
    Approximates (s.exec settings limit) (s.exec settings limit')
  | .action line a => by
      rw [exec, exec]
      exact .refl _
  | .jump line j => by
      rw [exec, exec]
      exact .refl _
  | .branch line cond body elseIfs otherwise => by
      rw [exec, exec]
      refine .onLine line (.after fun holds => .bind (.arm holds (execAll_mono h body)) fun _ => ?_)
      refine .bind (execElseIfs_mono h _ _ elseIfs) fun (chain, signal) => ?_
      exact .ite (execOtherwise_mono h _ otherwise) (.refl _)
  | .loop line init cond update body => by
      rw [exec, exec]
      refine .onLine line (.ifLive (.bind (execOption_mono h init) fun _ => ?_))
      exact .rounds (.inFrame true (execAll_mono h body)) (execOption_mono h update) h
  | .doWhile line body cond => by
      rw [exec, exec]
      exact .onLine line (.ifLive (.roundsAfter (.inFrame true (execAll_mono h body)) h))
  | .switch line scrutinee cases fallback => by
      rw [exec, exec]
      refine .onLine line (.after fun v => ?_)
      exact execCases_mono h v (execFallback_mono h fallback) cases

theorem execOption_mono (h : limit ≤ limit') : (s : Option Stmt) →
    Approximates (execOption settings limit s) (execOption settings limit' s)
  | none => .refl _
  | some s => by
      rw [execOption, execOption]
      exact .bind (exec_mono h s) fun _ => .refl _

theorem execAll_mono (h : limit ≤ limit') : (body : List Stmt) →
    Approximates (execAll settings limit body) (execAll settings limit' body)
  | [] => .refl _
  | s :: rest => by
      rw [execAll, execAll]
      exact .bind (exec_mono h s) fun signal => .ite (execAll_mono h rest) (.refl _)

theorem execElseIfs_mono (h : limit ≤ limit') (chain : Chain) (signal : Signal) :
    (arms : List (Expr × List Stmt)) →
    Approximates (execElseIfs settings limit chain signal arms)
      (execElseIfs settings limit' chain signal arms)
  | [] => .refl _
  | (cond, body) :: rest => by
      rw [execElseIfs, execElseIfs]
      refine .after fun holds => .bind (.arm _ (execAll_mono h body)) fun next => ?_
      exact execElseIfs_mono h _ _ rest

theorem execOtherwise_mono (h : limit ≤ limit') (taken : Bool) : (body : Option (List Stmt)) →
    Approximates (execOtherwise settings limit taken body) (execOtherwise settings limit' taken body)
  | none => .refl _
  | some body => .arm taken (execAll_mono h body)

theorem execFallback_mono (h : limit ≤ limit') : (body : Option (List Stmt)) →
    Approximates (execFallback settings limit body) (execFallback settings limit' body)
  | none => .refl _
  | some body => .inFrame true (execAll_mono h body)

theorem execCases_mono (h : limit ≤ limit') (v : Value) {fallback fallback' : Exec Signal}
    (hf : Approximates fallback fallback') : (cases : List (Expr × List Stmt)) →
    Approximates (execCases settings limit v fallback cases)
      (execCases settings limit' v fallback' cases)
  | [] => hf
  | (value, body) :: rest => by
      rw [execCases, execCases]
      refine .after fun c => .ite (.inFrame true (execAll_mono h body)) ?_
      exact execCases_mono h v hf rest
end

end Stmt

/-! ## Executions under every limit -/

namespace Exec

variable {α : Type} {x y : Nat → Exec α} {m : Machine} {r : EStateM.Result Halt Machine α}

/-- A higher limit changes nothing where a lower one does not cut the execution short. -/
def Steady (x : Nat → Exec α) : Prop :=
  ∀ limit limit', limit ≤ limit' → Approximates (x limit) (x limit')

/-- The result under all limits that are high enough. -/
def EndsIn (x : Nat → Exec α) (m : Machine) (r : EStateM.Result Halt Machine α) : Prop :=
  Decided r ∧ ∃ enough, ∀ limit, enough ≤ limit → x limit m = r

/-- Every limit cuts the execution short. -/
def Diverges (x : Nat → Exec α) (m : Machine) : Prop := ∀ limit, ¬Decided (x limit m)

/-- Two executions that end in the same results, or both go on for ever. -/
structure Agree (x y : Nat → Exec α) (m : Machine) : Prop where
  ends : ∀ r, EndsIn x m r ↔ EndsIn y m r
  diverges : Diverges x m ↔ Diverges y m

/-- The results of an execution are among those of another one, which may take another limit for them. -/
def Follows (x y : Nat → Exec α) (m : Machine) : Prop :=
  ∀ limit, Decided (x limit m) → ∃ limit', y limit' m = x limit m

/-- One limit is enough to know the end of an execution. -/
theorem Steady.endsIn_iff (hx : Steady x) : EndsIn x m r ↔ Decided r ∧ ∃ limit, x limit m = r := by
  constructor
  · rintro ⟨hr, enough, h⟩
    exact ⟨hr, enough, h enough (Nat.le_refl _)⟩
  · rintro ⟨hr, enough, rfl⟩
    exact ⟨hr, enough, fun limit h => hx enough limit h m hr⟩

theorem Steady.diverges_iff (hx : Steady x) : Diverges x m ↔ ∀ r, ¬EndsIn x m r := by
  constructor
  · rintro h r hr
    obtain ⟨hr, limit, rfl⟩ := hx.endsIn_iff.mp hr
    exact h limit hr
  · intro h limit hd
    exact h _ (hx.endsIn_iff.mpr ⟨hd, limit, rfl⟩)

theorem Follows.endsIn (h : Follows x y m) (hx : Steady x) (hy : Steady y) (hr : EndsIn x m r) :
    EndsIn y m r := by
  obtain ⟨hr, limit, rfl⟩ := hx.endsIn_iff.mp hr
  exact hy.endsIn_iff.mpr ⟨hr, h limit hr⟩

theorem Follows.agree (h : Follows x y m) (h' : Follows y x m) (hx : Steady x) (hy : Steady y) :
    Agree x y m := by
  have hends : ∀ r, EndsIn x m r ↔ EndsIn y m r := fun r => ⟨h.endsIn hx hy, h'.endsIn hy hx⟩
  refine ⟨hends, ?_⟩
  rw [hx.diverges_iff, hy.diverges_iff]
  exact forall_congr' fun r => not_congr (hends r)

end Exec

theorem Stmt.exec_steady (settings : Settings) (s : Stmt) :
    Exec.Steady fun limit => s.exec settings limit :=
  fun _ _ h => s.exec_mono h

end Primer
