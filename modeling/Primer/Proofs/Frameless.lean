import Primer.Proofs.Paths

/-!
# Executing without frames

The plain execution enters no frames and asks for none: of a branch it runs the body that is taken,
and it runs every loop that it comes to. While control is live the execution with frames does the
same. It finds control live wherever it comes, and leaves the frames as they were.
-/

namespace Primer

/-! ## Plain executions -/

/-- The body of a branch, if it is taken. -/
def Exec.chosen (taken : Bool) (body : Exec Signal) : Exec Signal :=
  if taken then body else return .normal

namespace Stmt

mutual
def plain (settings : Settings) (limit : Nat) : Stmt → Exec Signal
  | action line a => Exec.onLine line do
    Exec.act (a.perform settings)
    return .normal
  | jump line j => Exec.onLine line do return j.signal
  | branch line cond body elseIfs otherwise => Exec.onLine line do
    let holds ← Exec.condition cond
    let signal ← Exec.chosen holds (plainAll settings limit body)
    let (chain, signal) ← plainElseIfs settings limit (Chain.start.arm holds) signal elseIfs
    if signal = .normal then plainOtherwise settings limit chain.otherwise otherwise
    else return signal
  | loop line init cond update body => Exec.onLine line do
    plainOption settings limit init
    Exec.rounds (Exec.condition cond) (plainAll settings limit body)
      (plainOption settings limit update) limit
  | doWhile line body cond => Exec.onLine line do
    Exec.roundsAfter (plainAll settings limit body) (Exec.condition cond) limit
  | switch line scrutinee cases fallback => Exec.onLine line do
    let v ← Exec.eval scrutinee
    plainCases settings limit v (plainFallback settings limit fallback) cases

def plainOption (settings : Settings) (limit : Nat) : Option Stmt → Exec Unit
  | none => return ()
  | some s => do let _ ← plain settings limit s

def plainAll (settings : Settings) (limit : Nat) : List Stmt → Exec Signal
  | [] => return .normal
  | s :: rest => do
    let signal ← plain settings limit s
    if signal = .normal then plainAll settings limit rest else return signal

def plainElseIfs (settings : Settings) (limit : Nat) (chain : Chain) (signal : Signal) :
    List (Expr × List Stmt) → Exec (Chain × Signal)
  | [] => return (chain, signal)
  | (cond, body) :: rest => do
    let holds ← Exec.condition cond
    let next ← Exec.chosen (chain.takes holds) (plainAll settings limit body)
    plainElseIfs settings limit (chain.arm holds) (if signal = .normal then next else signal) rest

def plainOtherwise (settings : Settings) (limit : Nat) (taken : Bool) :
    Option (List Stmt) → Exec Signal
  | none => return .normal
  | some body => Exec.chosen taken (plainAll settings limit body)

def plainFallback (settings : Settings) (limit : Nat) : Option (List Stmt) → Exec Signal
  | none => return .normal
  | some body => plainAll settings limit body

def plainCases (settings : Settings) (limit : Nat) (v : Value) (fallback : Exec Signal) :
    List (Expr × List Stmt) → Exec Signal
  | [] => fallback
  | (value, body) :: rest => do
    let c ← Exec.eval value
    if v.selects c then plainAll settings limit body
    else plainCases settings limit v fallback rest
end

end Stmt

def plainTop (settings : Settings) (limit : Nat) : List Stmt → Exec Unit
  | [] => return ()
  | s :: rest => do
    match (← s.plain settings limit).stray? with
    | none => plainTop settings limit rest
    | some fault => throw (.failed ⟨fault, s.line⟩)

/-- The plain execution of a program, on a machine whose names are forgotten first. -/
def Program.plain (settings : Settings) (limit : Nat) (p : Program) : Exec Unit := do
  modify fun m => { m with store := .empty }
  plainTop settings limit p.stmts

/-! ## Agreement while control is live -/

@[simp] theorem Frames.leave_enter (frames : Frames) (taken : Bool) :
    (frames.enter taken).leave = frames := rfl

/-- An execution does what one that is blind to frames does, as long as control is live. -/
structure Matches {α : Type} (x y : Exec α) : Prop where
  blind : Blind y
  agree : ∀ m, m.frames.isLive = true → x m = y m

namespace Matches

variable {α β : Type} {x y : Exec α}

/-- Frames are the same behind an execution as in front of it. -/
theorem frames (h : Matches x y) {m : Machine} (hm : m.frames.isLive = true) :
    (stateOf (x m)).frames = m.frames := by
  rw [h.agree m hm]
  exact h.blind.frames m

theorem of_blind (h : Blind x) : Matches x x := ⟨h, fun _ _ => rfl⟩

theorem act {a : Act α} (h : Blind a) : Matches (Exec.act a) (Exec.act a) := by
  refine of_blind fun m frames => ?_
  have hm := h m frames
  cases ha : a m with
  | ok v m' =>
    rw [ha] at hm
    rw [Exec.act_ok ha, Exec.act_ok hm]
    rfl
  | error f m' =>
    rw [ha] at hm
    rw [Exec.act_error ha, Exec.act_error hm]
    rfl

theorem pure (a : α) : Matches (Pure.pure a) (Pure.pure a) := of_blind (.pure a)

theorem bind {f g : α → Exec β} (h : Matches x y) (hf : ∀ a, Matches (f a) (g a)) :
    Matches (x >>= f) (y >>= g) := by
  refine ⟨h.blind.bind fun a => (hf a).blind, fun m hm => ?_⟩
  have hframes := h.blind.frames m
  cases hy : y m with
  | ok a m' =>
    rw [hy, stateOf_ok] at hframes
    rw [Ends.run_bind_ok ((h.agree m hm).trans hy), Ends.run_bind_ok hy]
    exact (hf a).agree m' (hframes ▸ hm)
  | error halt m' => rw [Ends.run_bind_error ((h.agree m hm).trans hy), Ends.run_bind_error hy]

theorem ite {p : Prop} [Decidable p] {x' y' : Exec α} (h : Matches x y) (h' : Matches x' y') :
    Matches (if p then x else x') (if p then y else y') := by
  split
  · exact h
  · exact h'

theorem onLine (line : Option Line) (h : Matches x y) :
    Matches (Exec.onLine line x) (Exec.onLine line y) := by
  refine ⟨fun m frames => ?_, fun m hm => ?_⟩
  · have hm := h.blind m frames
    cases hy : y m with
    | ok a m' =>
      rw [hy] at hm
      rw [Exec.onLine_ok hy, Exec.onLine_ok hm]
      rfl
    | error halt m' =>
      rw [hy] at hm
      rw [Exec.onLine_error hy, Exec.onLine_error hm]
      rfl
  · rw [Exec.onLine, Exec.onLine, h.agree m hm]

theorem ifLive {x y : Exec Signal} (h : Matches x y) : Matches (Exec.ifLive x) y := by
  refine ⟨h.blind, fun m hm => ?_⟩
  have hlive : Exec.isLive m = .ok true m := congrArg (EStateM.Result.ok · m) hm
  rw [Exec.ifLive, Ends.run_bind_ok hlive]
  exact h.agree m hm

/-- Inside a frame that is taken control is live if it is live outside. -/
theorem inFrame (h : Matches x y) : Matches (Exec.inFrame true x) y := by
  refine ⟨h.blind, fun m hm => ?_⟩
  have hx : x (m.withFrames (m.frames.enter true)) =
      mapState (Machine.withFrames (m.frames.enter true)) (y m) := by
    rw [h.agree (m.withFrames (m.frames.enter true)) hm, h.blind]
  -- what is left of the frames when the new one is gone is what was there before
  have hframes := h.blind.frames m
  cases hy : y m with
  | ok a m' =>
    rw [hy] at hx hframes
    rw [Exec.inFrame_ok hx, Machine.withFrames_twice, Machine.withFrames_frames,
      Frames.leave_enter, ← hframes, stateOf_ok, Machine.withFrames_self]
  | error halt m' =>
    rw [hy] at hx hframes
    rw [Exec.inFrame_error hx, Machine.withFrames_twice, Machine.withFrames_frames,
      Frames.leave_enter, ← hframes, stateOf_error, Machine.withFrames_self]

/-- In a frame that is not taken nothing is executed. -/
theorem skipped (x : Exec Signal) : Matches (Exec.arm false x) (Pure.pure .normal) :=
  ⟨.pure _, fun _ _ => rfl⟩

theorem arm {x y : Exec Signal} (h : Matches x y) (taken : Bool) :
    Matches (Exec.arm taken x) (Exec.chosen taken y) := by
  cases taken with
  | true => exact h.ifLive.inFrame
  | false => exact skipped x

theorem rounds {cond : Exec Bool} {body body' : Exec Signal} {update update' : Exec Unit}
    (hc : Matches cond cond) (hb : Matches body body') (hu : Matches update update') (limit : Nat) :
    Matches (Exec.rounds cond body update limit) (Exec.rounds cond body' update' limit) := by
  induction limit with
  | zero => exact of_blind (.throw _)
  | succ limit ih =>
    refine hc.bind fun holds => .ite (hb.bind fun signal => ?_) (.pure _)
    exact .ite (.pure _) (hu.bind fun _ => ih)

theorem roundsAfter {body body' : Exec Signal} {cond : Exec Bool} (hb : Matches body body')
    (hc : Matches cond cond) (limit : Nat) :
    Matches (Exec.roundsAfter body cond limit) (Exec.roundsAfter body' cond limit) := by
  induction limit with
  | zero => exact of_blind (.throw _)
  | succ limit ih =>
    refine hb.bind fun signal => .ite (.pure _) ?_
    exact hc.bind fun holds => .ite ih (.pure _)

end Matches

theorem Exec.condition_matches (e : Expr) : Matches (Exec.condition e) (Exec.condition e) :=
  .act (Act.eval_blind _)

theorem Exec.condition_frames {e : Expr} {m m' : Machine} {holds : Bool}
    (h : Exec.condition e m = .ok holds m') : m'.frames = m.frames := by
  have hframes := (Exec.condition_matches e).blind.frames m
  rw [h] at hframes
  exact hframes

theorem Exec.eval_matches (e : Expr) : Matches (Exec.eval e) (Exec.eval e) :=
  .act (Act.eval_blind _)

namespace Stmt

variable {settings : Settings} {limit : Nat}

mutual
theorem exec_matches : (s : Stmt) → Matches (s.exec settings limit) (s.plain settings limit)
  | .action line a => by
      rw [exec, plain]
      exact .onLine line (.bind (.act (a.perform_blind settings)) fun _ => .pure _)
  | .jump line j => by
      rw [exec, plain]
      exact .onLine line (.pure _)
  | .branch line cond body elseIfs otherwise => by
      rw [exec, plain]
      refine .onLine line (.bind (Exec.condition_matches cond) fun holds => ?_)
      refine .bind (.arm (execAll_matches body) holds) fun signal => ?_
      refine .bind (execElseIfs_matches _ _ elseIfs) fun (chain, signal) => ?_
      exact .ite (execOtherwise_matches _ otherwise) (.pure _)
  | .loop line init cond update body => by
      rw [exec, plain]
      refine .onLine line (.ifLive (.bind (execOption_matches init) fun _ => ?_))
      exact .rounds (Exec.condition_matches cond) (.inFrame (execAll_matches body))
        (execOption_matches update) limit
  | .doWhile line body cond => by
      rw [exec, plain]
      refine .onLine line (.ifLive ?_)
      exact .roundsAfter (.inFrame (execAll_matches body)) (Exec.condition_matches cond) limit
  | .switch line scrutinee cases fallback => by
      rw [exec, plain]
      refine .onLine line (.bind (Exec.eval_matches scrutinee) fun v => ?_)
      exact execCases_matches v (execFallback_matches fallback) cases

theorem execOption_matches : (s : Option Stmt) →
    Matches (execOption settings limit s) (plainOption settings limit s)
  | none => .pure _
  | some s => by
      rw [execOption, plainOption]
      exact .bind (exec_matches s) fun _ => .pure _

theorem execAll_matches : (body : List Stmt) →
    Matches (execAll settings limit body) (plainAll settings limit body)
  | [] => .pure _
  | s :: rest => by
      rw [execAll, plainAll]
      exact .bind (exec_matches s) fun signal => .ite (execAll_matches rest) (.pure _)

theorem execElseIfs_matches (chain : Chain) (signal : Signal) : (arms : List (Expr × List Stmt)) →
    Matches (execElseIfs settings limit chain signal arms)
      (plainElseIfs settings limit chain signal arms)
  | [] => .pure _
  | (cond, body) :: rest => by
      rw [execElseIfs, plainElseIfs]
      refine .bind (Exec.condition_matches cond) fun holds => ?_
      refine .bind (.arm (execAll_matches body) _) fun next => ?_
      exact execElseIfs_matches _ _ rest

theorem execOtherwise_matches (taken : Bool) : (body : Option (List Stmt)) →
    Matches (execOtherwise settings limit taken body) (plainOtherwise settings limit taken body)
  | none => .pure _
  | some body => by
      rw [execOtherwise, plainOtherwise]
      exact .arm (execAll_matches body) taken

theorem execFallback_matches : (body : Option (List Stmt)) →
    Matches (execFallback settings limit body) (plainFallback settings limit body)
  | none => .pure _
  | some body => by
      rw [execFallback, plainFallback]
      exact .inFrame (execAll_matches body)

theorem execCases_matches (v : Value) {fallback fallback' : Exec Signal}
    (hf : Matches fallback fallback') : (cases : List (Expr × List Stmt)) →
    Matches (execCases settings limit v fallback cases)
      (plainCases settings limit v fallback' cases)
  | [] => hf
  | (value, body) :: rest => by
      rw [execCases, plainCases]
      refine .bind (Exec.eval_matches value) fun c => .ite (.inFrame (execAll_matches body)) ?_
      exact execCases_matches v hf rest
end

end Stmt

theorem execTop_matches (settings : Settings) (limit : Nat) (stmts : List Stmt) :
    Matches (execTop settings limit stmts) (plainTop settings limit stmts) := by
  induction stmts with
  | nil => exact .pure ()
  | cons s rest ih =>
    refine .bind s.exec_matches fun signal => ?_
    cases signal.stray? with
    | none => exact ih
    | some fault => exact .of_blind (.throw _)

/-! ## Calls -/

/-- The machine behind a part that is executed by itself, however it ends. -/
def Part.behind (settings : Settings) (limit : Nat) : Part → Machine → Machine
  | stmt s, m => stateOf (s.exec settings limit m)
  | block body, m => stateOf (Stmt.execAll settings limit body m)
  | piece p, m => stateOf (p.act settings m)

theorem Part.behind_frames {settings : Settings} {limit : Nat} (part : Part) {m : Machine}
    (hm : m.frames.isLive = true) : (part.behind settings limit m).frames = m.frames := by
  cases part with
  | stmt s => exact s.exec_matches.frames hm
  | block body => exact (Stmt.execAll_matches body).frames hm
  | piece p => exact p.act_blind.frames m

/-- The calls of an execution find control live. -/
structure Traced.Live {α : Type} (x : Traced α) : Prop where
  matched : ∃ y, Matches x.run y
  calls : ∀ m, m.frames.isLive = true → ∀ c ∈ x.calls m, c.machine.frames.isLive = true

namespace Traced.Live

variable {α β : Type} {x : Traced α}

theorem silent {y : Exec α} (h : Blind y) : (Traced.silent y).Live :=
  ⟨⟨y, .of_blind h⟩, fun _ _ _ hc => nomatch hc⟩

theorem piece (p : Piece) {a : Act α} (h : Blind a) : (Traced.piece p a).Live := by
  refine ⟨⟨_, .act h⟩, fun m hm c hc => ?_⟩
  obtain rfl := List.mem_singleton.mp hc
  exact hm

theorem bind {f : α → Traced β} (h : x.Live) (hf : ∀ a, (f a).Live) : (x >>= f).Live := by
  obtain ⟨y, hy⟩ := h.matched
  obtain ⟨g, hg⟩ := Classical.axiomOfChoice fun a => (hf a).matched
  refine ⟨⟨_, hy.bind hg⟩, fun m hm c hc => ?_⟩
  rcases mem_calls_bind hc with hc | ⟨a, m', hx, hc⟩
  · exact h.calls m hm c hc
  · have hframes := hy.frames hm
    rw [hx, stateOf_ok] at hframes
    exact (hf a).calls m' (hframes ▸ hm) c hc

theorem call (part : Part) (h : x.Live) : (Traced.call part x).Live := by
  refine ⟨h.matched, fun m hm c hc => ?_⟩
  rcases List.mem_cons.mp hc with rfl | hc
  · exact hm
  · exact h.calls m hm c hc

theorem within (r : Region) (h : x.Live) : (Traced.within r x).Live := by
  refine ⟨h.matched, fun m hm c hc => ?_⟩
  obtain ⟨c', hc', rfl⟩ := List.mem_map.mp hc
  exact h.calls m hm c' hc'

theorem onLine (line : Option Line) (h : x.Live) : (Traced.onLine line x).Live := by
  obtain ⟨y, hy⟩ := h.matched
  exact ⟨⟨_, hy.onLine line⟩, h.calls⟩

theorem inFrame (h : x.Live) : (Traced.inFrame true x).Live :=
  ⟨h.matched.imp fun _ hy => hy.inFrame, fun _ hm => h.calls _ hm⟩

theorem ifLive {x : Traced Signal} (h : x.Live) : (Traced.ifLive x).Live := by
  refine ⟨?_, fun m hm => ?_⟩
  · obtain ⟨y, hy⟩ := h.matched
    rw [run_ifLive]
    exact ⟨y, hy.ifLive⟩
  · rw [calls_ifLive_live hm]
    exact h.calls m hm

theorem arm {x : Traced Signal} (h : x.Live) (taken : Bool) : (Traced.arm taken x).Live := by
  cases taken with
  | true => exact h.ifLive.inFrame
  | false => exact ⟨⟨_, .skipped x.run⟩, fun _ _ _ hc => nomatch hc⟩

end Traced.Live

/-- Control stays live wherever an execution comes. -/
def liveLaw (settings : Settings) : Law settings where
  holds := Traced.Live
  pure a := .silent (.pure a)
  bind := .bind
  outOfRounds := .silent (.throw _)
  perform a := .piece _ (a.perform_blind settings)
  eval _ := .piece _ (Act.eval_blind _)
  condition _ := .piece _ (Act.eval_blind _)
  stmt _ _ hx := hx.call _
  block _ _ hx := hx.call _
  within r _ _ hx := hx.within r
  onLine line _ hx := hx.onLine line
  inFrame hx := hx.inFrame
  arm taken _ hx := hx.arm taken
  ifLive hx := hx.ifLive

theorem traceTop_live (settings : Settings) (limit : Nat) (stmts : List Stmt) :
    (traceTop settings limit stmts).Live := by
  induction stmts with
  | nil => exact .silent (.pure ())
  | cons s rest ih =>
    refine .bind ((liveLaw settings).trace s) fun signal => ?_
    cases signal.stray? with
    | none => exact ih
    | some fault => exact .silent (.throw _)

namespace Program

/-- Every part finds control live and leaves the frames as it found them, the machine has none in the
end, and the plain execution of the program, which is blind to them, does the same. -/
theorem frames_redundant (settings : Settings) (limit : Nat) (p : Program) (m : Machine) :
    (∀ c ∈ p.calls settings limit m, c.machine.frames.isLive = true ∧
      (c.part.behind settings limit c.machine).frames = c.machine.frames) ∧
    (stateOf (p.exec settings limit m)).frames.depth = 0 ∧
    Blind (p.plain settings limit) ∧
    p.exec settings limit m =
      mapState (Machine.withFrames []) (p.plain settings limit m) := by
  -- the frames are forgotten first, and without frames control is live
  have htop := execTop_matches settings limit p.stmts
  refine ⟨fun c hc => ?_, ?_, ?_, ?_⟩
  · have hlive := (traceTop_live settings limit p.stmts).calls _ (by rfl) c hc
    exact ⟨hlive, c.part.behind_frames hlive⟩
  · exact congrArg Frames.depth (htop.frames rfl)
  · exact Blind.bind (fun _ _ => rfl) fun _ => htop.blind
  · rw [exec_eq, htop.agree _ rfl]
    exact htop.blind { m with store := .empty } []

/-- A loop that is left from a branch in it. -/
def leftFromBranch : Program where
  stmts := [.loop none none (.lit .logic "true") none
    [.branch none (.lit .logic "true") [.jump none .breakLoop] [] none]]

/-- The frames at its calls: of the loop and its condition, of the body, the branch and the condition
of the branch, of the arm and the jump. -/
example : (leftFromBranch.calls .default 10 (.start .silent)).map (·.machine.frames) =
    [[], [], [true], [true], [true], [true, true], [true, true]] := rfl

end Program

end Primer
