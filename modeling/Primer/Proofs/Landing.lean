import Primer.Proofs.JumpSafety
import Primer.Proofs.Parts

/-!
# Where jumps land

What an execution still comes to behind a jump. A branch asks the conditions that are left, which may
fail but open no body, and what is in front of the jump's loop is over then. A break in the body of a
loop ends the loop, and a continue starts its next round. A jump in a clause of a loop ends the
clause and nothing else: the loop goes on with its condition.
-/

namespace Primer

/-! ## Calls -/

/-- A call of a jump that stands in the loops of the path. -/
def Call.Jumps (j : Jump) (path : List Region) (c : Call) : Prop :=
  (∃ line, c.part = .stmt (.jump line j)) ∧ c.path = path

/-- A condition that is asked in the loops of the path. -/
def Call.Asks (path : List Region) (c : Call) : Prop :=
  (∃ e, c.part = .piece (.condition e)) ∧ c.path = path

section
variable {j : Jump} {path : List Region} {r : Region} {c : Call}

theorem Call.Jumps.of_under (h : (c.under r).Jumps j (r :: path)) : c.Jumps j path :=
  ⟨h.1, List.tail_eq_of_cons_eq h.2⟩

theorem Call.Asks.under (h : c.Asks path) : (c.under r).Asks (r :: path) :=
  ⟨h.1, congrArg (r :: ·) h.2⟩

end

theorem suffix_append {α : Type} {a : α} {rest xs ys : List α} (h : a :: rest <:+ xs ++ ys) :
    (∃ more, rest = more ++ ys ∧ a :: more <:+ xs) ∨ a :: rest <:+ ys := by
  obtain ⟨front, hfront⟩ := h
  rcases List.append_eq_append_iff.mp hfront with ⟨back, rfl, hback⟩ | ⟨skipped, -, rfl⟩
  · cases back with
    | nil => exact .inr (hback ▸ List.suffix_refl _)
    | cons b more =>
      cases hback
      exact .inl ⟨more, rfl, List.suffix_append front _⟩
  · exact .inr (List.suffix_append skipped _)

namespace Traced

variable {α β γ : Type} {Q : α → Prop} {R : β → Prop} {j : Jump} {path : List Region}
  {x : Traced α} {f : α → Traced β} {part : Part}

theorem bind_assoc (x : Traced α) (f : α → Traced β) (g : β → Traced γ) :
    x >>= f >>= g = x >>= fun a => f a >>= g := by
  have hrun : (x >>= f >>= g).run = (x >>= fun a => f a >>= g).run := by
    funext m
    cases hx : x.run m with
    | ok a m₁ =>
      rw [run_bind_ok (x := x) hx]
      cases hf : (f a).run m₁ with
      | ok b m₂ => rw [run_bind_ok hf, run_bind_ok ((run_bind_ok hx).trans hf)]
      | error halt m₂ => rw [run_bind_error hf, run_bind_error ((run_bind_ok hx).trans hf)]
    | error halt m₁ => rw [run_bind_error hx, run_bind_error (run_bind_error hx)]
  have hcalls : (x >>= f >>= g).calls = (x >>= fun a => f a >>= g).calls := by
    funext m
    cases hx : x.run m with
    | ok a m₁ =>
      rw [calls_bind_ok (x := x) hx]
      cases hf : (f a).run m₁ with
      | ok b m₂ =>
        rw [calls_bind_ok hf, calls_bind_ok ((run_bind_ok hx).trans hf), calls_bind_ok hx,
          List.append_assoc]
      | error halt m₂ =>
        rw [calls_bind_error hf, calls_bind_error ((run_bind_ok hx).trans hf), calls_bind_ok hx]
    | error halt m₁ =>
      rw [calls_bind_error hx, calls_bind_error (run_bind_error hx), calls_bind_error hx]
  exact Traced.ext hrun hcalls

theorem pure_bind (a : α) (f : α → Traced β) : Pure.pure a >>= f = f a := rfl

/-- A jump behind the call of another part is one behind its execution. -/
theorem suffix_of_call {m : Machine} {c : Call} {rest : List Call}
    (hpart : ∀ line, part ≠ .stmt (.jump line j)) (h : c :: rest <:+ (call part x).calls m)
    (hj : c.Jumps j path) : c :: rest <:+ x.calls m := by
  rcases List.suffix_cons_iff.mp h with heq | hsuffix
  · cases heq
    obtain ⟨⟨line, hj⟩, -⟩ := hj
    exact absurd hj (hpart line)
  · exact hsuffix

/-! ## Executions without a jump -/

/-- An execution that never comes to such a jump. -/
def Avoids (j : Jump) (path : List Region) (x : Traced α) : Prop :=
  ∀ m, ∀ c ∈ x.calls m, ¬c.Jumps j path

theorem Avoids.silent (y : Exec α) : Avoids j path (Traced.silent y) := fun _ _ hc => by cases hc

theorem Avoids.pure (a : α) : Avoids j path (Pure.pure a : Traced α) := fun _ _ hc => by cases hc

theorem Avoids.piece (p : Piece) (a : Act α) : Avoids j path (Traced.piece p a) := by
  rintro m c hc ⟨⟨line, hj⟩, -⟩
  rw [List.mem_singleton.mp hc] at hj
  cases hj

theorem Avoids.within {r : Region} (h : ∀ inner, path ≠ r :: inner) :
    Avoids j path (Traced.within r x) := by
  rintro m c hc ⟨-, rfl⟩
  obtain ⟨d, -, rfl⟩ := List.mem_map.mp hc
  exact h d.path rfl

/-! ## Executions that are over -/

/-- Nothing is done but that conditions are asked, and the result has the property. -/
def Idle (path : List Region) (Q : α → Prop) (x : Traced α) : Prop :=
  ∀ m, (∀ d ∈ x.calls m, d.Asks path) ∧ ∀ a m', x.run m = .ok a m' → Q a

theorem Idle.pure {a : α} (h : Q a) : Idle path Q (Pure.pure a) := by
  refine fun m => ⟨nofun, ?_⟩
  rintro _ _ ⟨⟩
  exact h

theorem Idle.condition (e : Expr) : Idle [] (fun _ => True) (Traced.condition e) := by
  refine fun m => ⟨fun d hd => ?_, fun _ _ _ => trivial⟩
  rw [List.mem_singleton.mp hd]
  exact ⟨⟨e, rfl⟩, rfl⟩

theorem Idle.bind (h : Idle path Q x) (hf : ∀ a, Q a → Idle path R (f a)) :
    Idle path R (x >>= f) := by
  intro m
  cases hx : x.run m with
  | ok a m' =>
    rw [calls_bind_ok hx, run_bind_ok hx, List.forall_mem_append]
    obtain ⟨hcalls, hresult⟩ := hf a ((h m).2 a m' hx) m'
    exact ⟨⟨(h m).1, hcalls⟩, hresult⟩
  | error halt m' =>
    rw [calls_bind_error hx, run_bind_error hx]
    exact ⟨(h m).1, nofun⟩

theorem Idle.avoids (h : Idle path Q x) (path' : List Region) : Avoids j path' x := by
  rintro m c hc ⟨⟨line, hj⟩, -⟩
  obtain ⟨⟨e, he⟩, -⟩ := (h m).1 c hc
  rw [he] at hj
  cases hj

/-- Behind the jump nothing is done but that conditions are asked, and the result has the
property. -/
def Drains (j : Jump) (path : List Region) (Q : α → Prop) (x : Traced α) : Prop :=
  ∀ m c rest, c :: rest <:+ x.calls m → c.Jumps j path →
    (∀ d ∈ rest, d.Asks path) ∧ ∀ a m', x.run m = .ok a m' → Q a

namespace Drains

theorem of_avoids (h : Avoids j path x) : Drains j path Q x :=
  fun m c _ hsuffix hj => absurd hj (h m c (hsuffix.subset List.mem_cons_self))

theorem pure (a : α) : Drains j path Q (Pure.pure a) := of_avoids (.pure a)

theorem bind (h : Drains j path Q x) (hidle : ∀ a, Q a → Idle path R (f a))
    (hf : ∀ a, Drains j path R (f a)) : Drains j path R (x >>= f) := by
  intro m c rest hsuffix hj
  cases hx : x.run m with
  | ok a m' =>
    rw [calls_bind_ok hx] at hsuffix
    rw [run_bind_ok hx]
    rcases suffix_append hsuffix with ⟨more, rfl, hmore⟩ | hsuffix
    · obtain ⟨hasks, hresult⟩ := h m c more hmore hj
      obtain ⟨hidle, hend⟩ := hidle a (hresult a m' hx) m'
      exact ⟨List.forall_mem_append.mpr ⟨hasks, hidle⟩, hend⟩
    · exact hf a m' c rest hsuffix hj
  | error halt m' =>
    rw [calls_bind_error hx] at hsuffix
    rw [run_bind_error hx]
    exact ⟨(h m c rest hsuffix hj).1, nofun⟩

theorem after (h : Avoids j path x) (hf : ∀ a, Drains j path R (f a)) :
    Drains j path R (x >>= f) :=
  bind (Q := fun _ => False) (of_avoids h) nofun hf

theorem ite {p : Prop} [Decidable p] {y : Traced α} (h : Drains j path Q x)
    (h' : Drains j path Q y) : Drains j path Q (if p then x else y) := by
  split
  · exact h
  · exact h'

theorem call (hpart : ∀ line, part ≠ .stmt (.jump line j)) (h : Drains j path Q x) :
    Drains j path Q (Traced.call part x) :=
  fun m c rest hsuffix hj => h m c rest (suffix_of_call hpart hsuffix hj) hj

theorem within (r : Region) (h : Drains j path Q x) :
    Drains j (r :: path) Q (Traced.within r x) := by
  intro m c rest hsuffix hj
  obtain ⟨calls, hmore, hcalls⟩ := List.suffix_map_iff.mp hsuffix
  obtain ⟨d, more, rfl, rfl, rfl⟩ := List.map_eq_cons_iff.mp hcalls.symm
  obtain ⟨hasks, hresult⟩ := h m d more hmore hj.of_under
  refine ⟨fun e he => ?_, hresult⟩
  obtain ⟨d', hd', rfl⟩ := List.mem_map.mp he
  exact (hasks d' hd').under

theorem onLine (line : Option Line) (h : Drains j path Q x) :
    Drains j path Q (Traced.onLine line x) := by
  intro m c rest hsuffix hj
  obtain ⟨hasks, hresult⟩ := h m c rest hsuffix hj
  exact ⟨hasks, fun a m' ha => hresult a m' (Exec.ok_of_onLine ha)⟩

theorem inFrame (taken : Bool) (h : Drains j path Q x) :
    Drains j path Q (Traced.inFrame taken x) := by
  intro m c rest hsuffix hj
  obtain ⟨hasks, hresult⟩ := h (m.withFrames (m.frames.enter taken)) c rest hsuffix hj
  refine ⟨hasks, fun a m' ha => ?_⟩
  obtain ⟨m₁, hx⟩ := Exec.ok_of_inFrame ha
  exact hresult a m₁ hx

theorem ifLive {Q : Signal → Prop} {x : Traced Signal} (h : Drains j path Q x) :
    Drains j path Q (Traced.ifLive x) :=
  after (.silent _) fun _ => ite h (pure _)

theorem arm (taken : Bool) {Q : Signal → Prop} {x : Traced Signal} (h : Drains j path Q x) :
    Drains j path Q (Traced.arm taken x) :=
  inFrame taken (ifLive h)

section
variable {cond : Traced Bool} {body : Traced Signal} {update : Traced Unit} {P Q : Signal → Prop}

theorem rounds (hc : Avoids j path cond) (hb : Drains j path P body)
    (hP : ∀ s, P s → s = .breakLoop ∧ Q .normal) (hu : Avoids j path update) (limit : Nat) :
    Drains j path Q (Traced.rounds cond body update limit) := by
  induction limit with
  | zero => exact of_avoids (.silent _)
  | succ limit ih =>
    refine after hc fun holds => ite (bind hb (fun s hs => ?_) fun s => ?_) (pure _)
    -- the jump is in the body of this round, which ends the loop, or in a later round
    · rw [if_pos (hP s hs).1]
      exact .pure (hP s hs).2
    · exact ite (pure _) (after hu fun _ => ih)

theorem roundsAfter (hb : Drains j path P body) (hP : ∀ s, P s → s = .breakLoop ∧ Q .normal)
    (hc : Avoids j path cond) (limit : Nat) :
    Drains j path Q (Traced.roundsAfter body cond limit) := by
  induction limit with
  | zero => exact of_avoids (.silent _)
  | succ limit ih =>
    refine bind hb (fun s hs => ?_) fun s => ?_
    · rw [if_pos (hP s hs).1]
      exact .pure (hP s hs).2
    · exact ite (pure _) (after hc fun holds => ite ih (pure _))

end

end Drains

/-! ## Executions that go on -/

/-- Conditions are asked, and then comes the next call or the execution stops early. -/
def GoesOn (x : Traced α) (m : Machine) (path : List Region) (next : Call → Prop)
    (rest : List Call) : Prop :=
  ∃ asked later, rest = asked ++ later ∧ (∀ d ∈ asked, d.Asks path) ∧
    ((∃ d more, later = d :: more ∧ next d) ∨ later = [] ∧ ∃ halt m', x.run m = .error halt m')

/-- The first call is the next one, or the execution stops before any. -/
def Starts (next : Call → Prop) (x : Traced α) : Prop :=
  ∀ m, (∃ d more, x.calls m = d :: more ∧ next d) ∨
    x.calls m = [] ∧ ∃ halt m', x.run m = .error halt m'

/-- Behind the jump the execution goes on with the next call. -/
def Leads (j : Jump) (path : List Region) (next : Call → Prop) (x : Traced α) : Prop :=
  ∀ m c rest, c :: rest <:+ x.calls m → c.Jumps j path → x.GoesOn m path next rest

variable {next : Call → Prop}

theorem Starts.throw (halt : Halt) : Starts next (silent (throw halt) : Traced α) :=
  fun m => .inr ⟨rfl, halt, m, rfl⟩

theorem Starts.within {r : Region} {next' : Call → Prop} (h : Starts next x)
    (hnext : ∀ c, next c → next' (c.under r)) : Starts next' (Traced.within r x) := by
  intro m
  rcases h m with ⟨d, more, hcalls, hd⟩ | ⟨hcalls, hrun⟩
  · exact .inl ⟨d.under r, more.map (·.under r), by simp [Traced.within, hcalls], hnext d hd⟩
  · exact .inr ⟨by simp [Traced.within, hcalls], hrun⟩

theorem Starts.bind (h : Starts next x) : Starts next (x >>= f) := by
  intro m
  cases hx : x.run m with
  | ok a m' =>
    rcases h m with ⟨d, more, hcalls, hd⟩ | ⟨-, halt, m₁, hrun⟩
    · rw [calls_bind_ok hx, hcalls]
      exact .inl ⟨d, _, rfl, hd⟩
    · rw [hx] at hrun
      cases hrun
  | error halt m' =>
    rw [calls_bind_error hx, run_bind_error hx]
    rcases h m with hstart | ⟨hcalls, -⟩
    · exact .inl hstart
    · exact .inr ⟨hcalls, halt, m', rfl⟩

namespace Leads

theorem of_avoids (h : Avoids j path x) : Leads j path next x :=
  fun m c _ hsuffix hj => absurd hj (h m c (hsuffix.subset List.mem_cons_self))

theorem bind (h : Drains j path Q x) (hstarts : ∀ a, Q a → Starts next (f a))
    (hf : ∀ a, Leads j path next (f a)) : Leads j path next (x >>= f) := by
  intro m c rest hsuffix hj
  cases hx : x.run m with
  | ok a m' =>
    rw [calls_bind_ok hx] at hsuffix
    have hrun : (x >>= f).run m = (f a).run m' := run_bind_ok hx
    rcases suffix_append hsuffix with ⟨more, rfl, hmore⟩ | hsuffix
    · obtain ⟨hasks, hresult⟩ := h m c more hmore hj
      refine ⟨more, (f a).calls m', rfl, hasks, ?_⟩
      rw [hrun]
      exact hstarts a (hresult a m' hx) m'
    · obtain ⟨asked, later, hrest, hasks, hlater⟩ := hf a m' c rest hsuffix hj
      refine ⟨asked, later, hrest, hasks, ?_⟩
      rw [hrun]
      exact hlater
  | error halt m' =>
    rw [calls_bind_error hx] at hsuffix
    refine ⟨rest, [], by simp, (h m c rest hsuffix hj).1, .inr ⟨rfl, halt, m', run_bind_error hx⟩⟩

theorem after (h : Avoids j path x) (hf : ∀ a, Leads j path next (f a)) :
    Leads j path next (x >>= f) :=
  bind (Q := fun _ => False) (Drains.of_avoids h) nofun hf

theorem ite {p : Prop} [Decidable p] {y : Traced α} (h : Leads j path next x)
    (h' : Leads j path next y) : Leads j path next (if p then x else y) := by
  split
  · exact h
  · exact h'

theorem call (hpart : ∀ line, part ≠ .stmt (.jump line j)) (h : Leads j path next x) :
    Leads j path next (Traced.call part x) :=
  fun m c rest hsuffix hj => h m c rest (suffix_of_call hpart hsuffix hj) hj

theorem onLine (line : Option Line) (h : Leads j path next x) :
    Leads j path next (Traced.onLine line x) := by
  intro m c rest hsuffix hj
  obtain ⟨asked, later, hrest, hasks, hlater⟩ := h m c rest hsuffix hj
  refine ⟨asked, later, hrest, hasks, hlater.imp_right fun ⟨hnil, halt, m', hrun⟩ => ?_⟩
  exact ⟨hnil, halt.orLine line, m', Exec.onLine_error hrun⟩

theorem ifLive {x : Traced Signal} (h : Leads j path next x) :
    Leads j path next (Traced.ifLive x) :=
  after (.silent _) fun _ => ite h (of_avoids (.pure _))

section
variable {cond : Traced Bool} {body : Traced Signal} {update : Traced Unit}

theorem starts_rounds (hc : Starts next cond) (limit : Nat) :
    Starts next (Traced.rounds cond body update limit) := by
  cases limit with
  | zero => exact .throw _
  | succ limit => exact hc.bind

theorem rounds_body (hc : Avoids j path cond) (hb : Drains j path (· = .continueLoop) body)
    (hu : Avoids j path update)
    (hstarts : ∀ limit, Starts next (update >>= fun _ => Traced.rounds cond body update limit))
    (limit : Nat) : Leads j path next (Traced.rounds cond body update limit) := by
  induction limit with
  | zero => exact of_avoids (.silent _)
  | succ limit ih =>
    refine after hc fun holds => ite (bind hb (fun s hs => ?_) fun s => ?_) (of_avoids (.pure _))
    · subst hs
      exact hstarts limit
    · exact ite (of_avoids (.pure _)) (after hu fun _ => ih)

theorem rounds_update (hc : Avoids j path cond) (hb : Avoids j path body)
    (hu : Drains j path (fun _ => True) update) (hstarts : Starts next cond) (limit : Nat) :
    Leads j path next (Traced.rounds cond body update limit) := by
  induction limit with
  | zero => exact of_avoids (.silent _)
  | succ limit ih =>
    refine after hc fun holds => ite (after hb fun s => ite (of_avoids (.pure _)) ?_)
      (of_avoids (.pure _))
    exact bind hu (fun _ _ => starts_rounds hstarts limit) fun _ => ih

theorem roundsAfter_body (hb : Drains j path (· = .continueLoop) body) (hc : Avoids j path cond)
    (hstarts : Starts next cond) (limit : Nat) :
    Leads j path next (Traced.roundsAfter body cond limit) := by
  induction limit with
  | zero => exact of_avoids (.silent _)
  | succ limit ih =>
    refine bind hb (fun s hs => ?_) fun s => ?_
    · subst hs
      exact hstarts.bind
    · exact ite (of_avoids (.pure _)) (after hc fun holds => ite ih (of_avoids (.pure _)))

end

end Leads

end Traced

/-! ## Statements -/

namespace Stmt

open Traced

/-- An execution that passes on the jumps that stand in no loop of it: what is left is asked, and the
result is the signal of the jump. -/
def Passes (x : Traced Signal) : Prop := ∀ j : Jump, Drains j [] (· = j.signal) x

variable {settings : Settings} {limit : Nat}

/-- What is left of a branch behind one of its arms. -/
def traceRest (settings : Settings) (limit : Nat) (chain : Chain) (signal : Signal)
    (elseIfs : List (Expr × List Stmt)) (otherwise : Option (List Stmt)) : Traced Signal := do
  let (chain, signal) ← traceElseIfs settings limit chain signal elseIfs
  if signal = .normal then traceOtherwise settings limit chain.otherwise otherwise else return signal

theorem traceRest_nil (chain : Chain) (signal : Signal) (otherwise : Option (List Stmt)) :
    traceRest settings limit chain signal [] otherwise =
      if signal = .normal then traceOtherwise settings limit chain.otherwise otherwise
      else pure signal := by
  rw [traceRest, traceElseIfs, Traced.pure_bind]

theorem traceRest_cons (chain : Chain) (signal : Signal) (cond : Expr) (body : List Stmt)
    (elseIfs : List (Expr × List Stmt)) (otherwise : Option (List Stmt)) :
    traceRest settings limit chain signal ((cond, body) :: elseIfs) otherwise = (do
      let holds ← Traced.condition cond
      let next ← Traced.arm (chain.takes holds)
        (Traced.call (.block body) (traceAll settings limit body))
      traceRest settings limit (chain.arm holds) (if signal = .normal then next else signal)
        elseIfs otherwise) := by
  rw [traceRest, traceElseIfs, Traced.bind_assoc]
  congr 1
  funext holds
  rw [Traced.bind_assoc]
  rfl

section
variable (signal : Signal) (elseIfs : List (Expr × List Stmt)) (otherwise : Option (List Stmt))

/-! Once a body of a branch was taken the other conditions are asked, but no body is taken. -/

theorem traceRest_taken_nil :
    traceRest settings limit ⟨true⟩ signal [] otherwise = Pure.pure signal := by
  rw [traceRest_nil]
  split
  · next h =>
    subst h
    cases otherwise <;> rfl
  · rfl

theorem traceRest_taken_cons (arm : Expr × List Stmt) :
    traceRest settings limit ⟨true⟩ signal (arm :: elseIfs) otherwise = (do
      let _ ← Traced.condition arm.1
      traceRest settings limit ⟨true⟩ signal elseIfs otherwise) := by
  have hsignal : (if signal = .normal then .normal else signal) = signal := by
    split
    · next h => exact h.symm
    · rfl
  rw [traceRest_cons]
  -- the chain takes no arm any more, so that the next one is skipped with the normal signal
  show (do
    let _ ← Traced.condition arm.1
    traceRest settings limit ⟨true⟩ (if signal = Signal.normal then Signal.normal else signal)
      elseIfs otherwise) = _
  rw [hsignal]

theorem traceRest_idle :
    Idle [] (· = signal) (traceRest settings limit ⟨true⟩ signal elseIfs otherwise) := by
  induction elseIfs with
  | nil =>
    rw [traceRest_taken_nil]
    exact .pure rfl
  | cons arm elseIfs ih =>
    rw [traceRest_taken_cons]
    exact (Idle.condition arm.1).bind fun _ _ => ih

end

theorem Passes.pure (signal : Signal) : Passes (Pure.pure signal) := fun _ => .pure _

theorem Passes.block {x : Traced Signal} (h : Passes x) (body : List Stmt) :
    Passes (Traced.call (.block body) x) :=
  fun j => .call nofun (h j)

theorem Passes.armThenRest {x : Traced Signal} (h : Passes x)
    (elseIfs : List (Expr × List Stmt)) (otherwise : Option (List Stmt)) :
    Passes (Traced.arm true x >>= fun signal =>
      traceRest settings limit ⟨true⟩ signal elseIfs otherwise) := by
  intro j
  refine Drains.bind (.arm true (h j)) (fun signal hsignal => ?_) fun signal => ?_
  · exact hsignal ▸ traceRest_idle signal elseIfs otherwise
  · exact .of_avoids ((traceRest_idle signal elseIfs otherwise).avoids [])

mutual
/-- A statement passes on the jumps that stand in no loop of it. -/
theorem trace_passes : (s : Stmt) → Passes (s.trace settings limit)
  | .action line a => by
      intro j
      rw [trace]
      exact .call nofun (.onLine line (.after (.piece _ _) fun _ => .pure _))
  | .jump line k => by
      intro j m c rest hsuffix hj
      rw [trace] at hsuffix ⊢
      rcases List.suffix_cons_iff.mp hsuffix with heq | hsuffix
      · cases heq
        obtain ⟨⟨line', hj⟩, -⟩ := hj
        cases hj
        refine ⟨nofun, ?_⟩
        rintro _ _ ⟨⟩
        rfl
      · cases List.suffix_nil.mp hsuffix
  | .branch line cond body elseIfs otherwise => by
      intro j
      rw [trace]
      refine .call nofun (.onLine line (.after (.piece _ _) fun holds => ?_))
      have hbody := (traceAll_passes body).block body
      -- the jump is in this arm if the arm is taken, and in the rest of the branch if not
      cases holds with
      | true => exact hbody.armThenRest elseIfs otherwise j
      | false => exact traceRest_passes elseIfs otherwise (traceOtherwise_passes otherwise) j
  | .loop line init cond update body => by
      intro j
      rw [trace]
      refine .call nofun (.onLine line (.ifLive (.after (.within (by simp)) fun _ => ?_)))
      -- every jump inside has the loop on its path
      exact .rounds (P := fun _ => False) (.piece _ _) (.of_avoids (.within (by simp))) nofun
        (.within (by simp)) limit
  | .doWhile line body cond => by
      intro j
      rw [trace]
      refine .call nofun (.onLine line (.ifLive ?_))
      exact .roundsAfter (P := fun _ => False) (.of_avoids (.within (by simp))) nofun (.piece _ _)
        limit
  | .switch line scrutinee cases fallback => by
      intro j
      rw [trace]
      refine .call nofun (.onLine line (.after (.piece _ _) fun v => ?_))
      exact traceCases_passes v (traceFallback_passes fallback) cases j

theorem traceAll_passes : (body : List Stmt) → Passes (traceAll settings limit body)
  | [] => .pure _
  | s :: rest => by
      intro j
      rw [traceAll]
      refine Drains.bind (trace_passes s j) (fun signal hsignal => ?_) fun signal => ?_
      · subst hsignal
        cases j <;> exact .pure rfl
      · exact .ite (traceAll_passes rest j) (.pure _)

/-- Further conditions of a branch none of whose bodies was taken so far. -/
theorem traceRest_passes : (elseIfs : List (Expr × List Stmt)) →
    (otherwise : Option (List Stmt)) → Passes (traceOtherwise settings limit true otherwise) →
    Passes (traceRest settings limit ⟨false⟩ .normal elseIfs otherwise)
  | [], otherwise, h => by
      rw [traceRest_nil]
      exact h
  | (cond, body) :: elseIfs, otherwise, h => by
      intro j
      rw [traceRest_cons]
      refine .after (.piece _ _) fun holds => ?_
      have hbody := (traceAll_passes body).block body
      cases holds with
      | true => exact hbody.armThenRest elseIfs otherwise j
      | false => exact traceRest_passes elseIfs otherwise h j

theorem traceOtherwise_passes : (body : Option (List Stmt)) →
    Passes (traceOtherwise settings limit true body)
  | none => .pure _
  | some body => fun j => .arm true ((traceAll_passes body).block body j)

theorem traceFallback_passes : (body : Option (List Stmt)) →
    Passes (traceFallback settings limit body)
  | none => .pure _
  | some body => fun j => .inFrame true ((traceAll_passes body).block body j)

theorem traceCases_passes (v : Value) {fallback : Traced Signal} (hf : Passes fallback) :
    (cases : List (Expr × List Stmt)) → Passes (traceCases settings limit v fallback cases)
  | [] => hf
  | (value, body) :: rest => by
      intro j
      rw [traceCases]
      refine .after (.piece _ _) fun c => ?_
      have hbody := (traceAll_passes body).block body
      exact .ite (.inFrame true (hbody j)) (traceCases_passes v hf rest j)
end

/-! ## Loops -/

/-- The condition of a loop. -/
def condition? : Stmt → Option Expr
  | loop _ _ cond _ _ | doWhile _ _ cond => some cond
  | _ => none

/-- The condition of the loop itself. -/
def AsksAgain (s : Stmt) (c : Call) : Prop :=
  ∃ cond, s.condition? = some cond ∧ c.part = .piece (.condition cond) ∧ c.path = []

/-- What a loop does behind a body: its update if it has one, or else its condition. -/
def EndsRound (s : Stmt) (c : Call) : Prop :=
  match s.update? with
  | some u => c.part = .stmt u ∧ c.path = [.clause]
  | none => s.AsksAgain c

theorem starts_condition {s : Stmt} {cond : Expr} (h : s.condition? = some cond) :
    Starts s.AsksAgain (Traced.condition cond) :=
  fun _ => .inl ⟨_, [], rfl, cond, h, rfl, rfl⟩

theorem trace_starts (s : Stmt) :
    Starts (fun c => c.part = .stmt s ∧ c.path = []) (s.trace settings limit) := by
  cases s <;> exact fun m => .inl ⟨_, _, rfl, rfl, rfl⟩

theorem clause_starts (s : Stmt) : Starts (fun c => c.part = .stmt s ∧ c.path = [.clause])
    (Traced.within .clause (traceOption settings limit (some s))) := by
  rw [traceOption]
  exact (Starts.bind s.trace_starts).within fun c hc => ⟨hc.1, congrArg (Region.clause :: ·) hc.2⟩

theorem traceOption_drains (clause : Option Stmt) (j : Jump) :
    Drains j [.clause] (fun _ => True)
      (Traced.within .clause (traceOption settings limit clause)) := by
  cases clause with
  | none => exact .within .clause (.pure _)
  | some s =>
    rw [traceOption]
    refine .within .clause (Drains.bind (trace_passes s j) (fun _ _ => .pure trivial) fun _ => ?_)
    exact .pure _

theorem body_drains (body : List Stmt) (j : Jump) :
    Drains j [.body] (· = j.signal)
      (Traced.within .body (.inFrame true (.call (.block body) (traceAll settings limit body)))) :=
  .within .body (.inFrame true ((traceAll_passes body).block body j))

section
variable {s : Stmt} {cond : Expr} (h : s.condition? = some cond)
include h

theorem loop_break : Drains .breakLoop [.body] (· = .normal) (s.trace settings limit) := by
  cases s with
  | loop line init cond update body =>
    rw [trace]
    refine .call nofun (.onLine line (.ifLive (.after (.within (by simp)) fun _ => ?_)))
    exact Drains.rounds (Q := (· = .normal)) (.piece _ _) (body_drains body .breakLoop)
      (fun _ hs => ⟨hs, rfl⟩) (.within (by simp)) limit
  | doWhile line body cond =>
    rw [trace]
    refine .call nofun (.onLine line (.ifLive ?_))
    exact Drains.roundsAfter (Q := (· = .normal)) (body_drains body .breakLoop)
      (fun _ hs => ⟨hs, rfl⟩) (.piece _ _) limit
  | _ => cases h

theorem loop_continue : Leads .continueLoop [.body] s.EndsRound (s.trace settings limit) := by
  cases s with
  | loop line init cond update body =>
    rw [trace]
    refine .call nofun (.onLine line (.ifLive (.after (.within (by simp)) fun _ => ?_)))
    refine .rounds_body (.piece _ _) (body_drains body .continueLoop) (.within (by simp))
      (fun limit => ?_) limit
    cases update with
    | none =>
      exact Leads.starts_rounds (starts_condition (s := .loop line init cond none body) rfl) limit
    | some u => exact u.clause_starts.bind
  | doWhile line body cond =>
    rw [trace]
    refine .call nofun (.onLine line (.ifLive ?_))
    exact .roundsAfter_body (body_drains body .continueLoop) (.piece _ _)
      (starts_condition (s := .doWhile line body cond) rfl) limit
  | _ => cases h

theorem loop_clause (j : Jump) : Leads j [.clause] s.AsksAgain (s.trace settings limit) := by
  cases s with
  | loop line init cond update body =>
    rw [trace]
    refine .call nofun (.onLine line (.ifLive ?_))
    have hstarts := starts_condition (s := .loop line init cond update body) rfl
    refine .bind (traceOption_drains init j) (fun _ _ => Leads.starts_rounds hstarts limit)
      fun _ => ?_
    exact .rounds_update (.piece _ _) (.within (by simp)) (traceOption_drains update j) hstarts
      limit
  | doWhile line body cond =>
    rw [trace]
    refine .call nofun (.onLine line (.ifLive ?_))
    exact .roundsAfter_body (.of_avoids (.within (by simp))) (.piece _ _)
      (starts_condition (s := .doWhile line body cond) rfl) limit
  | _ => cases h

theorem loop_normal : Exec.Normal (s.exec settings limit) := by
  cases s with
  | loop line init cond update body =>
    rw [exec]
    exact .onLine line (Exec.Normal.ifLive (.after fun _ => Exec.Normal.rounds _ _ _ limit))
  | doWhile line body cond =>
    rw [exec]
    exact .onLine line (Exec.Normal.ifLive (Exec.Normal.roundsAfter _ _ limit))
  | _ => cases h

end

end Stmt

/-! ## Programs -/

theorem traceTop_jumps (settings : Settings) (limit : Nat) (stmts : List Stmt) :
    Traced.JumpsAt [] (Stmt.jumpsAll none [] stmts) (traceTop settings limit stmts) := by
  induction stmts with
  | nil => exact .pure _
  | cons s rest ih =>
    refine (s.trace_jumps none []).bind fun signal => ?_
    cases signal.stray? with
    | none => exact ih
    | some fault => exact .silent _

namespace Program

/-- A program comes to its own jumps only. -/
theorem calls_jump {settings : Settings} {limit : Nat} {p : Program} {m : Machine} {c : Call}
    (hc : c ∈ p.calls settings limit m) {j : Jump} {path : List Region} (hj : c.Jumps j path) :
    ∃ site ∈ p.jumps, site.jump = j ∧ site.path = path := by
  obtain ⟨⟨line, hpart⟩, rfl⟩ := hj
  exact traceTop_jumps settings limit p.stmts _ c hc line j hpart

/-- Where the jumps of a loop go. No loop passes on a signal. Behind a break in its body a loop is
over, behind a continue in its body it ends the round, and behind a jump in its first statement or in
its update it asks its condition, as if there had been no jump. In a program without diagnostics
every jump that is executed stands in the body of some loop. -/
theorem jumps_land (settings : Settings) (limit : Nat) :
    (∀ s : Stmt, s.condition?.isSome = true → ∀ m,
      (∀ signal m', s.exec settings limit m = .ok signal m' → signal = .normal) ∧
      ∀ c rest, c :: rest <:+ s.calls settings limit m →
        (c.Jumps .breakLoop [.body] → ∀ d ∈ rest, d.Asks [.body]) ∧
        (c.Jumps .continueLoop [.body] →
          (s.trace settings limit).GoesOn m [.body] s.EndsRound rest) ∧
        ∀ j, c.Jumps j [.clause] → (s.trace settings limit).GoesOn m [.clause] s.AsksAgain rest) ∧
    ∀ p : Program, p.diagnostics = [] → ∀ m, ∀ c ∈ p.annotated.calls settings limit m,
      ∀ j path, c.Jumps j path → .body ∈ path := by
  refine ⟨fun s hs m => ?_, fun p hp m c hc j path hj => ?_⟩
  · obtain ⟨cond, hcond⟩ := Option.isSome_iff_exists.mp hs
    refine ⟨Stmt.loop_normal hcond m, fun c rest hsuffix => ⟨fun hj => ?_, fun hj => ?_, ?_⟩⟩
    · exact (Stmt.loop_break hcond m c rest hsuffix hj).1
    · exact Stmt.loop_continue hcond m c rest hsuffix hj
    · exact fun j hj => Stmt.loop_clause hcond j m c rest hsuffix hj
  · obtain ⟨site, hsite, -, rfl⟩ := calls_jump hc hj
    rw [annotated_jumps] at hsite
    have hcontained : Stmt.Contained p.jumps := contained_of_reports (by simp [hp])
    simpa [JumpSite.isStray] using hcontained site hsite

/-- A loop with a break in front of its first round. -/
def breakFirst : Stmt := .loop none (some (.jump none .breakLoop)) (.lit .logic "false") none []

/-- A loop whose body comes to a break in a clause of another loop. -/
def lostBreak : Program where
  stmts := [
    .loop none none (.lit .logic "true") none
      [breakFirst, .action none (.display (some (.literal "\"lost\"")) true), .jump none .breakLoop]]

theorem lostBreak_lands : lostBreak.diagnostics = [] ∧
    (lostBreak.run .default 10 (.scripted [])).2.console.output = "lost\n" ∧
    (∃ c rest, c :: rest <:+ breakFirst.calls .default 10 (.start .silent) ∧
      c.Jumps .breakLoop [.clause] ∧ (breakFirst.trace .default 10).GoesOn (.start .silent) [.clause]
        breakFirst.AsksAgain rest) ∧
    ∃ c ∈ lostBreak.annotated.calls .default 10 (.start .silent),
      c.Jumps .breakLoop [.body, .clause] ∧ .body ∈ [Region.body, .clause] := by
  have hland := jumps_land .default 10
  refine ⟨rfl, rfl, ⟨_, _, ⟨[_], rfl⟩, ⟨⟨none, rfl⟩, rfl⟩, ?_⟩, ?_⟩
  · exact ((hland.1 breakFirst rfl (.start .silent)).2 _ _ ⟨[_], rfl⟩).2.2 _ ⟨⟨none, rfl⟩, rfl⟩
  · refine ⟨_, List.mem_of_getElem? (i := 4) rfl, ⟨⟨none, rfl⟩, rfl⟩, ?_⟩
    exact hland.2 lostBreak rfl (.start .silent) _ (List.mem_of_getElem? (i := 4) rfl) _ _
      ⟨⟨none, rfl⟩, rfl⟩

end Program

end Primer
