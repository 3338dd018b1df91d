import Primer.Proofs.Tracing

/-!
# Plans

A plan says which tasks may be done, one after the other, and what comes of the whole. An execution
goes by a plan if it does all tasks of a list that the plan allows and has the result of the plan, or
if it does the first ones of such a list and ends with the failure of the next one. It comes to no
calls but those of the tasks.
-/

namespace Primer

/-! ## Tasks -/

/-- What a statement does as a whole, with what comes of it. -/
inductive Task where
  | ask (cond : Expr) (answer : Bool)
  | find (e : Expr) (v : Value)
  | execute (body : List Stmt) (signal : Signal)

/-- An execution with another result. -/
def Traced.map {α β : Type} (f : α → β) (x : Traced α) : Traced β :=
  ⟨do return f (← x.run), x.calls⟩

/-- Does the task and tells what really comes of it. -/
def Task.attempt (settings : Settings) (limit : Nat) : Task → Traced Task
  | ask cond _ => (Traced.condition cond).map (ask cond)
  | find e _ => (Traced.eval e).map (find e)
  | execute body _ =>
    (Traced.inFrame true (.call (.block body) (Stmt.traceAll settings limit body))).map
      (execute body)

section
variable (settings : Settings) (limit : Nat)

/-- The tasks are done in order, and come to what they say. -/
inductive Task.Done : List Task → Machine → List Call → Machine → Prop where
  | nil {m} : Done [] m [] m
  | cons {task tasks m m₁ calls m'} (first : (task.attempt settings limit).run m = .ok task m₁)
      (rest : Done tasks m₁ calls m') :
      Done (task :: tasks) m ((task.attempt settings limit).calls m ++ calls) m'

/-- The lists of tasks that may be done, and the result of each. -/
abbrev Plan (α : Type) := List Task → α → Prop

/-- The result and the calls from a machine on come about by the plan. -/
inductive Plan.Explains {α : Type} (plan : Plan α) (m : Machine) :
    EStateM.Result Halt Machine α → List Call → Prop where
  | completed {tasks a calls m'} (allowed : plan tasks a)
      (done : Task.Done settings limit tasks m calls m') : Explains plan m (.ok a m') calls
  /-- The tasks in front of the one that fails are done, and none behind it. -/
  | stopped {tasks task rest a calls m₁ halt m'} (allowed : plan (tasks ++ task :: rest) a)
      (done : Task.Done settings limit tasks m calls m₁)
      (fails : (task.attempt settings limit).run m₁ = .error halt m') :
      Explains plan m (.error halt m') (calls ++ (task.attempt settings limit).calls m₁)

/-- The execution goes by the plan. -/
def Traced.GoesBy {α : Type} (plan : Plan α) (x : Traced α) (m : Machine) : Prop :=
  plan.Explains settings limit m (x.run m) (x.calls m)

/-- The statement goes by the plan. Its own call comes first, and it gives a failure its line. -/
def Stmt.GoesBy (plan : Plan Signal) (s : Stmt) (m : Machine) : Prop :=
  ∃ x calls, s.exec settings limit = Exec.onLine s.line x ∧
    s.calls settings limit m = ⟨.stmt s, m, []⟩ :: calls ∧
    plan.Explains settings limit m (x m) calls

/-- The execution does the task, and has for its result what comes of it. -/
structure Traced.Does {α : Type} (x : Traced α) (task : α → Task) (m : Machine) : Prop where
  run : ∀ a, ((task a).attempt settings limit).run m = (x.map task).run m
  calls : ∀ a, ((task a).attempt settings limit).calls m = x.calls m

end

/-! ## Executions -/

section
variable {α β : Type} {settings : Settings} {limit : Nat}

theorem Plan.Explains.mono {plan more : Plan α} {m : Machine}
    {r : EStateM.Result Halt Machine α} {calls : List Call}
    (h : plan.Explains settings limit m r calls)
    (hplan : ∀ tasks a, plan tasks a → more tasks a) : more.Explains settings limit m r calls := by
  cases h with
  | completed allowed done => exact .completed (hplan _ _ allowed) done
  | stopped allowed done fails => exact .stopped (hplan _ _ allowed) done fails

theorem Plan.Explains.cons {plan : Plan α} {task : Task} {m m₁ : Machine}
    {r : EStateM.Result Halt Machine α} {calls : List Call}
    (first : (task.attempt settings limit).run m = .ok task m₁)
    (h : Explains settings limit (fun tasks a => plan (task :: tasks) a) m₁ r calls) :
    plan.Explains settings limit m r ((task.attempt settings limit).calls m ++ calls) := by
  cases h with
  | completed allowed done => exact .completed allowed (.cons first done)
  | stopped allowed done fails =>
    rw [← List.append_assoc]
    exact .stopped allowed (.cons first done) fails

/-- A failure of the very first task. -/
theorem Plan.Explains.first {plan : Plan α} {task : Task} {rest : List Task} {a : α}
    {m m' : Machine} {halt : Halt} (allowed : plan (task :: rest) a)
    (fails : (task.attempt settings limit).run m = .error halt m') :
    plan.Explains settings limit m (.error halt m') ((task.attempt settings limit).calls m) :=
  have allowed : plan ([] ++ task :: rest) a := allowed
  .stopped allowed .nil fails

namespace Traced

variable {x : Traced α} {m m' : Machine} {a : α} {halt : Halt}

theorem run_map_ok (f : α → β) (h : x.run m = .ok a m') : (x.map f).run m = .ok (f a) m' :=
  Ends.run_bind_ok h

theorem run_map_error (f : α → β) (h : x.run m = .error halt m') :
    (x.map f).run m = .error halt m' :=
  Ends.run_bind_error h

theorem run_map_congr {y : Traced α} (f : α → β) (h : x.run m = y.run m) :
    (x.map f).run m = (y.map f).run m := by
  show EStateM.bind x.run _ m = EStateM.bind y.run _ m
  rw [EStateM.bind, EStateM.bind, h]

section
variable {task : α → Task} (hx : x.Does settings limit task m)
include hx

theorem Does.ok (h : x.run m = .ok a m') :
    ((task a).attempt settings limit).run m = .ok (task a) m' :=
  (hx.run a).trans (run_map_ok task h)

theorem Does.error (h : x.run m = .error halt m') (a : α) :
    ((task a).attempt settings limit).run m = .error halt m' :=
  (hx.run a).trans (run_map_error task h)

end

theorem condition_does (cond : Expr) (m : Machine) :
    (Traced.condition cond).Does settings limit (.ask cond) m :=
  ⟨fun _ => rfl, fun _ => rfl⟩

theorem eval_does (e : Expr) (m : Machine) : (Traced.eval e).Does settings limit (.find e) m :=
  ⟨fun _ => rfl, fun _ => rfl⟩

theorem frame_does (body : List Stmt) (m : Machine) :
    (Traced.inFrame true (.call (.block body) (Stmt.traceAll settings limit body))).Does settings
      limit (.execute body) m :=
  ⟨fun _ => rfl, fun _ => rfl⟩

/-- While control is live the body of a taken arm is executed. -/
theorem arm_does (body : List Stmt) {m : Machine} (hm : m.frames.isLive = true) :
    (Traced.arm true (.call (.block body) (Stmt.traceAll settings limit body))).Does settings limit
      (.execute body) m := by
  -- control is live inside the frame if it is live outside
  have hinside : (m.withFrames (m.frames.enter true)).frames.isLive = true := hm
  refine ⟨fun _ => run_map_congr _ (Exec.inFrame_congr (run_ifLive_live hinside).symm), fun _ => ?_⟩
  exact (calls_ifLive_live (x := .call (.block body) _) hinside).symm

/-- The execution does nothing on the machine. -/
structure Idles (x : Traced α) (a : α) (m : Machine) : Prop where
  run : x.run m = .ok a m
  calls : x.calls m = []

/-- While control is not live no arm is executed, taken or not. -/
theorem arm_idle {x : Traced Signal} (taken : Bool) {m : Machine} (hm : m.frames.isLive = false) :
    (Traced.arm taken x).Idles .normal m := by
  let inside := m.withFrames (m.frames.enter taken)
  have hdead : inside.frames.isLive = false := by
    show (taken && m.frames.isLive) = false
    rw [hm, Bool.and_false]
  have hlive : (silent Exec.isLive).run inside = .ok false inside :=
    congrArg (EStateM.Result.ok · inside) hdead
  constructor
  · have hrun : (ifLive x).run inside = .ok .normal inside := by
      rw [ifLive, run_bind_ok hlive, if_neg Bool.false_ne_true]
      rfl
    exact Exec.inFrame_ok hrun
  · show (ifLive x).calls inside = []
    rw [ifLive, calls_bind_ok hlive, if_neg Bool.false_ne_true]
    rfl

namespace GoesBy

variable {plan more : Plan α}

theorem mono (h : x.GoesBy settings limit plan m) (hplan : ∀ tasks a, plan tasks a → more tasks a) :
    x.GoesBy settings limit more m :=
  Plan.Explains.mono h hplan

theorem pure (h : plan [] a) : (Pure.pure a : Traced α).GoesBy settings limit plan m :=
  .completed h .nil

theorem idle (hx : x.Idles a m) (h : plan [] a) : x.GoesBy settings limit plan m := by
  unfold GoesBy
  rw [hx.run, hx.calls]
  exact .completed h .nil

theorem skip {y : Traced β} {b : β} {f : β → Traced α} (hy : y.Idles b m)
    (h : (f b).GoesBy settings limit plan m) : (y >>= f).GoesBy settings limit plan m := by
  unfold GoesBy
  rw [run_bind_ok hy.run, calls_bind_ok hy.run, hy.calls]
  exact h

/-- A task that the plan has in front, and then what the plan has behind it. -/
theorem bind {y : Traced β} {task : β → Task} {f : β → Traced α}
    (hy : y.Does settings limit task m) (hplan : ∃ b tasks a, plan (task b :: tasks) a)
    (hf : ∀ b m', y.run m = .ok b m' →
      (f b).GoesBy settings limit (fun tasks a => plan (task b :: tasks) a) m') :
    (y >>= f).GoesBy settings limit plan m := by
  unfold GoesBy
  cases hrun : y.run m with
  | ok b m' =>
    rw [run_bind_ok hrun, calls_bind_ok hrun, ← hy.calls b]
    exact .cons (hy.ok hrun) (hf b m' hrun)
  | error halt m' =>
    obtain ⟨b, tasks, a, hplan⟩ := hplan
    rw [run_bind_error hrun, calls_bind_error hrun, ← hy.calls b]
    exact .first hplan (hy.error hrun b)

/-- A last task, whose result is that of the whole. -/
theorem last {task : α → Task} (hx : x.Does settings limit task m) (h : ∀ a, plan [task a] a)
    (a : α) : x.GoesBy settings limit plan m := by
  unfold GoesBy
  cases hrun : x.run m with
  | ok a m' =>
    rw [← hx.calls a, ← List.append_nil (Traced.calls _ m)]
    exact .completed (h a) (.cons (hx.ok hrun) .nil)
  | error halt m' =>
    rw [← hx.calls a]
    exact .first (h a) (hx.error hrun a)

end GoesBy

end Traced

end

end Primer
