import Primer.Proofs.Frameless
import Primer.Proofs.JumpSafety
import Primer.Proofs.Rounds

/-!
# The forms of loops

A loop that asks its condition behind the body is the body and then, unless that breaks, the loop that
asks it in front. A loop with a first statement and an update is the first statement and then the loop
whose body ends in the update, provided that no continue leaves the body before it.
-/

namespace Primer

/-! ## Executions one after the other -/

namespace Exec

/-- The second execution if the first one ends normally. -/
def andThen (x y : Exec Signal) : Exec Signal := do
  let signal ← x
  if signal = .normal then y else return signal

/-- The second execution unless the first one breaks. -/
def unlessBreak (x y : Exec Signal) : Exec Signal := do
  if (← x) = .breakLoop then return .normal else y

section
variable {α β : Type} {x y : Exec Signal}

theorem andThen_normal (x : Exec Signal) : x.andThen (pure .normal) = x := by
  have hkept : (fun s => if s = .normal then pure .normal else pure s) =
      (pure : Signal → Exec Signal) := by
    funext s
    split
    case isTrue hs => rw [hs]
    case isFalse => rfl
  rw [andThen, hkept, bind_pure]

theorem andThen_assoc (x y z : Exec Signal) :
    (x.andThen y).andThen z = x.andThen (y.andThen z) := by
  rw [andThen, andThen, andThen, bind_assoc]
  refine bind_congr fun s => ?_
  cases s <;> rfl

theorem Normal.andThen (hx : Normal x) (hy : Normal y) : Normal (x.andThen y) :=
  hx.bind fun _ hs => .ite hy (.pure hs)

theorem Normal.andThen_eq (hx : Normal x) (y : Exec Signal) :
    x.andThen y = (do let _ ← x; y) :=
  hx.congr fun s hs => by rw [hs]; rfl

/-- A break skips the execution in the middle as well as the last one, where a continue would skip the
one in the middle only. -/
theorem unlessBreak_andThen (hx : Returns (· ≠ .continueLoop) x) (hy : Normal y)
    (z : Exec Signal) : unlessBreak (x.andThen y) z = unlessBreak x (do let _ ← y; z) := by
  rw [unlessBreak, andThen, bind_assoc]
  refine hx.congr fun s hs => ?_
  cases s with
  | normal => exact hy.congr fun s hs => by rw [hs]; rfl
  | breakLoop => rfl
  | continueLoop => exact absurd rfl hs

/-! ## Lines -/

theorem onLine_twice (line : Option Line) (x : Exec α) :
    onLine line (onLine line x) = onLine line x := by
  funext m
  cases hx : x m with
  | ok a m' => rw [onLine_ok (onLine_ok hx), onLine_ok hx]
  | error halt m' =>
    rw [onLine_error (onLine_error hx), onLine_error hx]
    cases halt with
    | failed f => cases hf : f.line <;> cases line <;> simp [Halt.orLine, Failure.orLine, hf]
    | outOfRounds => rfl

theorem onLine_bind_congr {line : Option Line} {x : Exec α} {f g : α → Exec β}
    (h : ∀ a, onLine line (f a) = onLine line (g a)) :
    onLine line (x >>= f) = onLine line (x >>= g) := by
  funext m
  cases hx : x m with
  | ok a m' =>
    rw [onLine, onLine, Ends.run_bind_ok hx, Ends.run_bind_ok hx]
    exact congrFun (h a) m'
  | error halt m' =>
    rw [onLine_error (Ends.run_bind_error hx), onLine_error (Ends.run_bind_error hx)]

theorem onLine_unlessBreak (line : Option Line) (x y : Exec Signal) :
    onLine line (unlessBreak x (onLine line y)) = onLine line (unlessBreak x y) := by
  refine onLine_bind_congr fun s => ?_
  split
  · rfl
  · exact onLine_twice line y

end

/-! ## Rounds -/

section
variable (cond : Exec Bool) {body : Exec Signal}

theorem Approximates.unlessBreak {x x' y y' : Exec Signal} (h : Approximates x x')
    (h' : Approximates y y') : Approximates (x.unlessBreak y) (x'.unlessBreak y') :=
  .bind h fun _ => .ite (.refl _) h'

/-- With the condition behind it the body is done once more than with the condition in front. -/
theorem roundsAfter_approximates (body : Exec Signal) (limit : Nat) :
    Approximates (roundsAfter body cond limit)
      (body.unlessBreak (rounds cond body (pure ()) limit)) := by
  induction limit with
  | zero => exact .outOfRounds _
  | succ limit ih => exact .unlessBreak (.refl _) (.after fun holds => .ite ih (.refl _))

theorem unlessBreak_rounds_approximates {body' : Exec Signal} (hb : Approximates body body')
    (limit : Nat) :
    Approximates (body.unlessBreak (rounds cond body (pure ()) limit))
      (roundsAfter body' cond (limit + 1)) := by
  induction limit with
  | zero => exact .unlessBreak hb (.outOfRounds _)
  | succ limit ih => exact .unlessBreak hb (.after fun holds => .ite ih (.refl _))

theorem rounds_succ (body : Exec Signal) (update : Exec Unit) (limit : Nat) :
    rounds cond body update (limit + 1) = do
      if ← cond then body.unlessBreak (do update; rounds cond body update limit)
      else return .normal :=
  rfl

/-- Where no body continues, the update may stand at its end. -/
theorem rounds_update {update : Exec Signal} (hb : Returns (· ≠ .continueLoop) body)
    (hu : Normal update) (limit : Nat) :
    rounds cond (body.andThen update) (pure ()) limit =
      rounds cond body (do let _ ← update) limit := by
  induction limit with
  | zero => rfl
  | succ limit ih =>
    rw [rounds_succ, rounds_succ, ih, unlessBreak_andThen hb hu, bind_assoc]

end

end Exec

/-! ## Plain executions -/

namespace Matches

variable {α : Type} {Q : α → Prop} {x x' y y' : Exec α}

/-- The execution that is blind to frames is the other one without frames. -/
theorem unframed (h : Matches x y) (m : Machine) :
    y m = mapState (Machine.withFrames m.frames) (x (m.withFrames [])) := by
  rw [h.agree (m.withFrames []) rfl, ← h.blind, Machine.withFrames_twice, Machine.withFrames_self]

theorem returns (h : Matches x y) (hx : Exec.Returns Q x) : Exec.Returns Q y := by
  intro m a m' hy
  rw [h.unframed] at hy
  cases hr : x (m.withFrames []) with
  | ok b m₁ =>
    rw [hr] at hy
    cases hy
    exact hx _ _ _ hr
  | error halt m₁ =>
    rw [hr] at hy
    cases hy

theorem approximates (h : Matches x y) (h' : Matches x' y') (hx : Exec.Approximates x x') :
    Exec.Approximates y y' := by
  intro m hm
  rw [h.unframed] at hm
  have hd : Decided (x (m.withFrames [])) := by
    intro m₁ hr
    rw [hr] at hm
    exact hm _ rfl
  rw [h.unframed, h'.unframed, hx _ hd]

theorem unlessBreak {x x' y y' : Exec Signal} (h : Matches x x') (h' : Matches y y') :
    Matches (x.unlessBreak y) (x'.unlessBreak y') :=
  .bind h fun _ => .ite (.pure _) h'

end Matches

namespace Stmt

variable {settings : Settings} {limit : Nat}

theorem plainAll_append (body more : List Stmt) :
    plainAll settings limit (body ++ more) =
      (plainAll settings limit body).andThen (plainAll settings limit more) := by
  induction body with
  | nil => rfl
  | cons s rest ih =>
    show (s.plain settings limit).andThen (plainAll settings limit (rest ++ more)) = _
    rw [ih, ← Exec.andThen_assoc]
    rfl

theorem plainAll_singleton (s : Stmt) :
    plainAll settings limit [s] = s.plain settings limit :=
  Exec.andThen_normal _

theorem plainAll_normal {body : List Stmt} (h : ∀ s ∈ body, Exec.Normal (s.exec settings limit)) :
    Exec.Normal (plainAll settings limit body) := by
  induction body with
  | nil => exact .pure
  | cons s rest ih =>
    rw [List.forall_mem_cons] at h
    exact .andThen (s.exec_matches.returns h.1) (ih h.2)

theorem plainAll_mono {limit' : Nat} (h : limit ≤ limit') (body : List Stmt) :
    Exec.Approximates (plainAll settings limit body) (plainAll settings limit' body) :=
  (execAll_matches body).approximates (execAll_matches body) (execAll_mono h body)

theorem plainOption_eq (s : Option Stmt) :
    plainOption settings limit s = (do let _ ← plainAll settings limit s.toList) := by
  cases s with
  | none => rfl
  | some s => rw [plainOption, Option.toList, plainAll_singleton]

theorem plainAll_no_continue {body : List Stmt}
    (h : ∀ j ∈ jumpsAll none [] body, j.path = [] → j.jump ≠ .continueLoop) :
    Exec.Returns (· ≠ .continueLoop) (plainAll settings limit body) := by
  have hsignals : Signals (· ≠ .continueLoop) (jumpsAll none [] body) := by
    intro j hj hpath
    have hjump := h j hj hpath
    cases hj' : j.jump with
    | breakLoop => nofun
    | continueLoop => exact absurd hj' hjump
  exact (execAll_matches body).returns (execAll_returns nofun body hsignals)

/-! ## Loops -/

section
variable (settings : Settings) (line : Option Line) (cond : Expr) (body : List Stmt) {m : Machine}

theorem doWhile_agree (hm : m.frames.isLive = true) :
    Exec.Agree (fun limit => (doWhile line body cond).exec settings limit)
      (fun limit => Exec.onLine line (Exec.unlessBreak (execAll settings limit body)
        ((loop line none cond none body).exec settings limit))) m := by
  have hdoWhile (limit : Nat) : (doWhile line body cond).exec settings limit m =
      Exec.onLine line (Exec.roundsAfter (plainAll settings limit body)
        (Exec.condition cond) limit) m :=
    (exec_matches _).agree m hm
  have hloop (limit : Nat) : Exec.onLine line (Exec.unlessBreak (execAll settings limit body)
        ((loop line none cond none body).exec settings limit)) m =
      Exec.onLine line (Exec.unlessBreak (plainAll settings limit body)
        (Exec.rounds (Exec.condition cond) (plainAll settings limit body) (pure ()) limit)) m := by
    rw [(((execAll_matches body).unlessBreak (exec_matches _)).onLine line).agree m hm, plain,
      Exec.onLine_unlessBreak]
    rfl
  -- the body in front of the loop is a round that the limit of the loop does not count
  refine Exec.Follows.agree (fun limit hd => ⟨limit, ?_⟩) (fun limit hd => ⟨limit + 1, ?_⟩)
    (exec_steady settings _) fun _ _ h => .onLine line (.unlessBreak (execAll_mono h body)
      (exec_mono h _))
  · simp only [hdoWhile, hloop] at hd ⊢
    exact (Exec.roundsAfter_approximates _ _ limit).onLine line m hd
  · simp only [hdoWhile, hloop] at hd ⊢
    have hbody : Exec.Approximates (plainAll settings limit body)
        (plainAll settings (limit + 1) body) := plainAll_mono (Nat.le_succ limit) body
    exact (Exec.unlessBreak_rounds_approximates _ hbody limit).onLine line m hd

theorem loop_eq {init update : Option Stmt} {limit : Nat} (hm : m.frames.isLive = true)
    (hclauses : ∀ s ∈ init.toList ++ update.toList, Exec.Normal (s.exec settings limit))
    (hbody : ∀ j ∈ jumpsAll none [] body, j.path = [] → j.jump ≠ .continueLoop) :
    (loop line init cond update body).exec settings limit m =
      Exec.onLine line (execAll settings limit
        (init.toList ++ [loop line none cond none (body ++ update.toList)])) m := by
  obtain ⟨hinit, hupdate⟩ := List.forall_mem_append.mp hclauses
  rw [(exec_matches _).agree m hm, ((execAll_matches _).onLine line).agree m hm]
  refine congrFun ?_ m
  calc (loop line init cond update body).plain settings limit
      = Exec.onLine line (do
          let _ ← plainAll settings limit init.toList
          Exec.rounds (Exec.condition cond) (plainAll settings limit body)
            (do let _ ← plainAll settings limit update.toList) limit) := by
        rw [plain, plainOption_eq, plainOption_eq, bind_assoc]
        rfl
    _ = Exec.onLine line (do
          let _ ← plainAll settings limit init.toList
          Exec.rounds (Exec.condition cond) (plainAll settings limit (body ++ update.toList))
            (pure ()) limit) := by
        rw [plainAll_append, Exec.rounds_update _ (plainAll_no_continue hbody)
          (plainAll_normal hupdate)]
    _ = Exec.onLine line (do
          let _ ← plainAll settings limit init.toList
          (loop line none cond none (body ++ update.toList)).plain settings limit) := by
        rw [plain]
        exact (Exec.onLine_bind_congr fun _ => Exec.onLine_twice line _).symm
    _ = Exec.onLine line (plainAll settings limit
          (init.toList ++ [loop line none cond none (body ++ update.toList)])) := by
        rw [plainAll_append, plainAll_singleton, (plainAll_normal hinit).andThen_eq]

/-- While control is live a loop that asks its condition behind the body ends as the body does with,
behind it unless it breaks, the loop that asks the condition in front, or goes on for ever as they do.
A loop does under every limit what its first statement does with, behind it, the loop whose body ends
in the update, if its clauses end normally and no continue in its body is meant for it. -/
theorem loops_agree (hm : m.frames.isLive = true) :
    Exec.Agree (fun limit => (doWhile line body cond).exec settings limit)
      (fun limit => Exec.onLine line (Exec.unlessBreak (execAll settings limit body)
        ((loop line none cond none body).exec settings limit))) m ∧
    ∀ init update limit,
      (∀ s ∈ init.toList ++ update.toList, Exec.Normal (s.exec settings limit)) →
      (∀ j ∈ jumpsAll none [] body, j.path = [] → j.jump ≠ .continueLoop) →
      (loop line init cond update body).exec settings limit m =
        Exec.onLine line (execAll settings limit
          (init.toList ++ [loop line none cond none (body ++ update.toList)])) m :=
  ⟨doWhile_agree settings line cond body hm, fun _ _ _ => loop_eq settings line cond body hm⟩

end

/-- A body with a continue that is meant for a loop in it. -/
def innerContinue : List Stmt := [.doWhile none [.jump none .continueLoop] (.lit .logic "false")]

/-- A machine with a flag that is lowered. -/
def flagged : Machine :=
  { Machine.start .silent with
    store := Store.empty.declare "go" (.scalar .logic) (.scalar (.logic false)) }

def raiseFlag : Stmt := .action none (.declare "LOGIC" "go" (some (.lit .logic "true")))

def lowerFlag : Stmt := .action none (.assign "go" .plain (.lit .logic "false"))

/-- With the flag lowered the body is done once. A loop that raises the flag first and lowers it after
each round goes one round, and so does the one whose body lowers the flag. -/
theorem innerContinue_loops_agree :
    flagged.frames.isLive = true ∧
    Exec.EndsIn (fun limit => Exec.onLine none (Exec.unlessBreak
        (execAll .default limit innerContinue)
        ((loop none none (.var .logic "go") none innerContinue).exec .default limit)))
      flagged (.ok .normal flagged) ∧
    (∀ s ∈ [raiseFlag, lowerFlag], Exec.Normal (s.exec .default 2)) ∧
    (∀ j ∈ jumpsAll none [] innerContinue, j.path = [] → j.jump ≠ .continueLoop) ∧
    Exec.onLine none (execAll .default 2
        [raiseFlag, loop none none (.var .logic "go") none (innerContinue ++ [lowerFlag])])
      flagged = .ok .normal flagged := by
  have hlive : flagged.frames.isLive = true := rfl
  have hjumps : Contained (jumpsAll none [] [raiseFlag, lowerFlag]) := fun _ hj => nomatch hj
  have hclauses : ∀ s ∈ [raiseFlag, lowerFlag], Exec.Normal (s.exec .default 2) :=
    fun s hs => s.exec_normal (contained_of_mem hjumps hs)
  have hbody : ∀ j ∈ jumpsAll none [] innerContinue, j.path = [] → j.jump ≠ .continueLoop := by
    decide
  obtain ⟨hagree, hloop⟩ := loops_agree .default none (.var .logic "go") innerContinue hlive
  refine ⟨hlive, (hagree.ends _).mp ?_, hclauses, hbody, ?_⟩
  · exact (exec_steady .default _).endsIn_iff.mpr ⟨nofun, 2, rfl⟩
  · exact (hloop (some raiseFlag) (some lowerFlag) 2 hclauses hbody).symm.trans rfl

end Stmt

end Primer
