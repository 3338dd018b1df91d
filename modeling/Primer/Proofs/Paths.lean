import Primer.Proofs.Laws

/-!
# The path of a run

The store and the console of a run change in its pieces only. They are taken from piece to piece, each
of which starts with what the one before it leaves, and a failure is that of the last piece.
-/

namespace Primer

/-! ## Worlds -/

/-- What a run reads and writes. -/
structure World where
  store : Store
  console : Console

def Machine.world (m : Machine) : World := ⟨m.store, m.console⟩

def World.machine (w : World) : Machine := ⟨w.store, [], w.console⟩

@[simp] theorem Machine.world_withFrames (m : Machine) (frames : Frames) :
    (m.withFrames frames).world = m.world := rfl

namespace Piece

variable (settings : Settings)

def act : Piece → Act Unit
  | action a => a.perform settings
  | value e => do let _ ← Act.eval e.eval
  | condition e => do let _ ← Act.eval e.evalLogic

/-- The world that a piece leaves, however it ends. -/
def leaves (p : Piece) (w : World) : World := (stateOf (p.act settings w.machine)).world

variable {settings}

theorem act_blind (p : Piece) : Blind (p.act settings) := by
  cases p with
  | action a => exact a.perform_blind settings
  | value e | condition e => exact (Act.eval_blind _).bind fun _ => .pure ()

theorem world_act (p : Piece) (m : Machine) :
    (stateOf (p.act settings m)).world = p.leaves settings m.world := by
  have h : p.act settings m = mapState _ (p.act settings m.world.machine) :=
    p.act_blind m.world.machine m.frames
  rw [h, stateOf_mapState, Machine.world_withFrames, leaves]

end Piece

/-- The world behind the start of a call: only a piece changes it by itself. -/
def Part.leaves (settings : Settings) : Part → World → World
  | .piece p, w => p.leaves settings w
  | _, w => w

/-- The calls take one world to the other. -/
inductive Path (settings : Settings) : World → List Call → World → Prop where
  | nil {w} : Path settings w [] w
  | cons {part m path rest w} : Path settings (part.leaves settings m.world) rest w →
      Path settings m.world (⟨part, m, path⟩ :: rest) w

namespace Path

variable {settings : Settings} {w w' w'' : World} {c : Call} {calls rest : List Call}

theorem append (h : Path settings w calls w') (h' : Path settings w' rest w'') :
    Path settings w (calls ++ rest) w'' := by
  induction h with
  | nil => exact h'
  | cons _ ih => exact .cons (ih h')

theorem split (calls : List Call) (h : Path settings w (calls ++ rest) w') :
    ∃ w₁, Path settings w calls w₁ ∧ Path settings w₁ rest w' := by
  induction calls generalizing w with
  | nil => exact ⟨w, .nil, h⟩
  | cons c calls ih =>
    cases h with
    | cons h =>
      obtain ⟨w₁, h₁, h₂⟩ := ih h
      exact ⟨w₁, .cons h₁, h₂⟩

theorem head (h : Path settings w (c :: rest) w') : c.machine.world = w := by
  cases h
  rfl

theorem under (r : Region) (h : Path settings w calls w') :
    Path settings w (calls.map (·.under r)) w' := by
  induction h with
  | nil => exact .nil
  | cons _ ih => exact .cons ih

end Path

/-! ## The law -/

/-- A piece that ends in a fault on the machine in front of it. -/
def Call.FailsWith (settings : Settings) (f : Fault) (c : Call) : Prop :=
  ∃ p m, c.part = .piece p ∧ p.act settings c.machine = .error f m

/-- The calls are the path of the world, and the last one is to blame for a failure. -/
structure Traced.Flows {α : Type} (settings : Settings) (x : Traced α) (m : Machine) : Prop where
  path : Path settings m.world (x.calls m) (stateOf (x.run m)).world
  fails : ∀ {f m'}, x.run m = .error (.failed f) m' →
    ∃ c, (x.calls m).getLast? = some c ∧ c.FailsWith settings f.fault

namespace Traced.Flows

variable {α β : Type} {settings : Settings} {x : Traced α} {m : Machine}

theorem bind {f : α → Traced β} (h : x.Flows settings m) (hf : ∀ a m, (f a).Flows settings m) :
    (x >>= f).Flows settings m := by
  cases hx : x.run m with
  | ok a m₁ =>
    have hpath := h.path
    rw [hx] at hpath
    obtain ⟨hpath', hfails⟩ := hf a m₁
    refine ⟨?_, fun {f' m'} hr => ?_⟩
    · rw [calls_bind_ok hx, run_bind_ok hx]
      exact hpath.append hpath'
    · rw [run_bind_ok hx] at hr
      obtain ⟨c, hc, hcf⟩ := hfails hr
      rw [calls_bind_ok hx]
      exact ⟨c, by simp [List.getLast?_append, hc], hcf⟩
  | error halt m₁ =>
    have hpath := h.path
    rw [hx] at hpath
    refine ⟨?_, fun {f' m'} hr => ?_⟩
    · rw [calls_bind_error hx, run_bind_error hx]
      exact hpath
    · rw [run_bind_error hx] at hr
      cases hr
      rw [calls_bind_error hx]
      exact h.fails hx

theorem silent {y : Exec α} (h : (stateOf (y m)).world = m.world)
    (hf : ∀ {f m'}, y m ≠ .error (.failed f) m') : (Traced.silent y).Flows settings m := by
  refine ⟨?_, fun hr => absurd hr hf⟩
  show Path settings m.world [] (stateOf (y m)).world
  rw [h]
  exact .nil

theorem piece {p : Piece} {a : Act α} (hok : ∀ v m', a m = .ok v m' → p.act settings m = .ok () m')
    (herror : ∀ f m', a m = .error f m' → p.act settings m = .error f m') :
    (Traced.piece p a).Flows settings m := by
  cases ha : a m with
  | ok v m' =>
    have hrun : (Traced.piece p a).run m = .ok v m' := Exec.act_ok ha
    have hw : m'.world = p.leaves settings m.world := by rw [← p.world_act, hok v m' ha, stateOf_ok]
    refine ⟨?_, fun hr => by rw [hrun] at hr; cases hr⟩
    rw [hrun, stateOf_ok, hw]
    exact .cons .nil
  | error f m' =>
    have hrun : (Traced.piece p a).run m = .error (.failed (.of f)) m' := Exec.act_error ha
    have hw : m'.world = p.leaves settings m.world := by
      rw [← p.world_act, herror f m' ha, stateOf_error]
    refine ⟨?_, fun hr => ?_⟩
    · rw [hrun, stateOf_error, hw]
      exact .cons .nil
    · rw [hrun] at hr
      cases hr
      exact ⟨_, rfl, p, m', rfl, herror f m' ha⟩

theorem call {part : Part} (hpart : ∀ w, part.leaves settings w = w) (h : x.Flows settings m) :
    (Traced.call part x).Flows settings m := by
  refine ⟨.cons ?_, fun hr => ?_⟩
  · rw [hpart]
    exact h.path
  · obtain ⟨c, hc, hcf⟩ := h.fails hr
    exact ⟨c, by simp [Traced.call, List.getLast?_cons, hc], hcf⟩

theorem within (r : Region) (h : x.Flows settings m) : (Traced.within r x).Flows settings m := by
  refine ⟨h.path.under r, fun hr => ?_⟩
  obtain ⟨c, hc, hcf⟩ := h.fails hr
  exact ⟨c.under r, by simp [Traced.within, hc], hcf⟩

theorem onLine (line : Option Line) (h : x.Flows settings m) :
    (Traced.onLine line x).Flows settings m := by
  have hpath := h.path
  cases hx : x.run m with
  | ok a m' =>
    have hrun : (Traced.onLine line x).run m = .ok a m' := Exec.onLine_ok hx
    rw [hx] at hpath
    refine ⟨?_, fun hr => by rw [hrun] at hr; cases hr⟩
    rw [hrun]
    exact hpath
  | error halt m' =>
    have hrun : (Traced.onLine line x).run m = .error (halt.orLine line) m' := Exec.onLine_error hx
    rw [hx] at hpath
    refine ⟨?_, fun hr => ?_⟩
    · rw [hrun]
      exact hpath
    · rw [hrun] at hr
      cases halt with
      | failed f =>
        have hlast := h.fails hx
        cases hr
        exact hlast
      | outOfRounds => cases hr

theorem inFrame (taken : Bool) (h : ∀ m, x.Flows settings m) :
    (Traced.inFrame taken x).Flows settings m := by
  obtain ⟨hpath, hfails⟩ := h (m.withFrames (m.frames.enter taken))
  cases hx : x.run (m.withFrames (m.frames.enter taken)) with
  | ok a m' =>
    have hrun : (Traced.inFrame taken x).run m = .ok a (m'.withFrames m'.frames.leave) :=
      Exec.inFrame_ok hx
    rw [hx] at hpath
    refine ⟨?_, fun hr => by rw [hrun] at hr; cases hr⟩
    rw [hrun]
    exact hpath
  | error halt m' =>
    have hrun : (Traced.inFrame taken x).run m = .error halt (m'.withFrames m'.frames.leave) :=
      Exec.inFrame_error hx
    rw [hx] at hpath
    refine ⟨?_, fun hr => ?_⟩
    · rw [hrun]
      exact hpath
    · rw [hrun] at hr
      cases hr
      exact hfails hx

theorem ifLive {x : Traced Signal} (h : ∀ m, x.Flows settings m) :
    (Traced.ifLive x).Flows settings m := by
  refine bind (silent rfl (fun hr => by cases hr)) fun live m => ?_
  split
  · exact h m
  · exact silent rfl (fun hr => by cases hr)

end Traced.Flows

theorem Piece.act_discard {α : Type} {x : Act α} {settings : Settings} {p : Piece} {m : Machine}
    (hp : p.act settings = do let _ ← x) : (Traced.piece p x).Flows settings m :=
  .piece (fun v m' hv => by rw [hp, Ends.run_bind_ok hv]; rfl)
    fun f m' hf => by rw [hp, Ends.run_bind_error hf]

/-- Executions go along the path of their calls. -/
def pathLaw (settings : Settings) : Law settings where
  holds x := ∀ m, x.Flows settings m
  pure _ _ := .silent rfl (fun hr => by cases hr)
  bind hx hf m := (hx m).bind hf
  outOfRounds _ := .silent rfl (fun hr => by cases hr)
  perform _ _ := .piece (fun _ _ h => h) fun _ _ h => h
  eval _ _ := Piece.act_discard rfl
  condition _ _ := Piece.act_discard rfl
  stmt _ _ hx m := (hx m).call fun _ => rfl
  block _ _ hx m := (hx m).call fun _ => rfl
  within r _ _ hx m := (hx m).within r
  onLine line _ hx m := (hx m).onLine line
  inFrame hx _ := .inFrame true hx
  arm taken _ hx _ := .inFrame taken fun _ => .ifLive hx
  ifLive hx _ := .ifLive hx

/-! ## Programs -/

/-- A failure of statements in order is that of the last piece, or of a signal that no loop took up. -/
structure TopFlows (settings : Settings) (limit : Nat) (stmts : List Stmt) (m : Machine) : Prop where
  path : Path settings m.world ((traceTop settings limit stmts).calls m)
    (stateOf ((traceTop settings limit stmts).run m)).world
  fails : ∀ {f m'}, (traceTop settings limit stmts).run m = .error (.failed f) m' →
    (∃ c, ((traceTop settings limit stmts).calls m).getLast? = some c ∧
      c.FailsWith settings f.fault) ∨
    ∃ s ∈ stmts, ∃ m₁ signal m₂, s.exec settings limit m₁ = .ok signal m₂ ∧
      signal.stray? = some f.fault

theorem traceTop_flows (settings : Settings) (limit : Nat) (stmts : List Stmt) (m : Machine) :
    TopFlows settings limit stmts m := by
  induction stmts generalizing m with
  | nil => exact ⟨.nil, fun hr => by cases hr⟩
  | cons s rest ih =>
    obtain ⟨hpath, hfails⟩ : (s.trace settings limit).Flows settings m :=
      (pathLaw settings).trace s m
    cases hs : (s.trace settings limit).run m with
    | error halt m₁ =>
      rw [hs] at hpath
      refine ⟨?_, fun hr => ?_⟩
      · rw [traceTop, Traced.calls_bind_error hs, Traced.run_bind_error hs]
        exact hpath
      · rw [traceTop, Traced.run_bind_error hs] at hr
        cases hr
        rw [traceTop, Traced.calls_bind_error hs]
        exact .inl (hfails hs)
    | ok signal m₁ =>
      rw [hs] at hpath
      cases hstray : signal.stray? with
      | none =>
        -- the last piece is that of the rest, which goes on from what the statement leaves
        obtain ⟨hpath', hfails'⟩ := ih m₁
        refine ⟨?_, fun hr => ?_⟩
        · rw [traceTop, Traced.calls_bind_ok hs, Traced.run_bind_ok hs, hstray]
          exact hpath.append hpath'
        · rw [traceTop, Traced.run_bind_ok hs, hstray] at hr
          rw [traceTop, Traced.calls_bind_ok hs, hstray]
          rcases hfails' hr with ⟨c, hc, hcf⟩ | ⟨s', hs', hsignal⟩
          · exact .inl ⟨c, by simp [List.getLast?_append, hc], hcf⟩
          · exact .inr ⟨s', List.mem_cons_of_mem _ hs', hsignal⟩
      | some fault =>
        refine ⟨?_, fun hr => ?_⟩
        · rw [traceTop, Traced.calls_bind_ok hs, Traced.run_bind_ok hs, hstray]
          exact hpath.append .nil
        · rw [traceTop, Traced.run_bind_ok hs, hstray] at hr
          cases hr
          rw [Stmt.trace_run] at hs
          exact .inr ⟨s, List.mem_cons_self, m, signal, m₁, hs, hstray⟩

namespace Program

variable {settings : Settings} {limit : Nat} {p : Program} {m : Machine}

theorem calls_eq : p.calls settings limit m =
    (traceTop settings limit p.stmts).calls { m with store := .empty, frames := [] } := rfl

theorem exec_eq : p.exec settings limit m =
    execTop settings limit p.stmts { m with store := .empty, frames := [] } := rfl

/-- The calls of a program lead from the empty store to what the run leaves. -/
theorem path (settings : Settings) (limit : Nat) (p : Program) (m : Machine) :
    Path settings ⟨.empty, m.console⟩ (p.calls settings limit m)
      (stateOf (p.exec settings limit m)).world := by
  rw [calls_eq, exec_eq, ← traceTop_run]
  exact (traceTop_flows settings limit p.stmts { m with store := .empty, frames := [] }).path

/-- A fault comes from a piece, or from a statement whose signal is left over. -/
theorem fails {f : Failure} {m' : Machine} (h : p.exec settings limit m = .error (.failed f) m') :
    (∃ c ∈ p.calls settings limit m, c.FailsWith settings f.fault) ∨
    ∃ s ∈ p.stmts, ∃ m₁ signal m₂, s.exec settings limit m₁ = .ok signal m₂ ∧
      signal.stray? = some f.fault := by
  rw [exec_eq, ← traceTop_run] at h
  rcases (traceTop_flows settings limit p.stmts _).fails h with ⟨c, hc, hfails⟩ | hstray
  · exact .inl ⟨c, List.mem_of_getLast? hc, hfails⟩
  · exact .inr hstray

end Program

end Primer
