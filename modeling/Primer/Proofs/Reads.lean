import Primer.Proofs.Paths

/-!
# Reads of lines

An action reads one line or none, which its operands decide. One that reads none does not see what
lines there are. One that reads a line takes the first of them, does not see the others, and fails if
there is none.
-/

namespace Primer

variable {α β : Type} {settings : Settings}

/-! ## Machines with other lines -/

/-- The console with the given lines to read, if it has any. Not every list of lines can be found in a
text, so that the lines take the place of the text on the standard streams. -/
def Console.withUnread (lines : List String) : Console → Console
  | recording t => recording { t with input := lines }
  | standard s => recording ⟨s.output, s.warnings, lines⟩
  | silent => silent

def Machine.withUnread (lines : List String) (m : Machine) : Machine :=
  { m with console := m.console.withUnread lines }

theorem Console.withUnread_twice (lines lines' : List String) (c : Console) :
    (c.withUnread lines).withUnread lines' = c.withUnread lines' := by
  cases c <;> rfl

/-- Only a console with lines to read has one. -/
theorem Console.unread_withUnread {c : Console} {line : String} {rest : List String}
    (h : c.unread = line :: rest) (lines : List String) : (c.withUnread lines).unread = lines := by
  cases c with
  | recording t => rfl
  | standard s => rfl
  | silent => cases h

/-- What is read is gone once there are other lines. -/
theorem Console.readLine_withUnread (lines : List String) (c : Console) :
    c.readLine.2.withUnread lines = c.withUnread lines := by
  rcases c with ⟨_, _, _ | _⟩ | ⟨_, _, _ | _⟩ | _ <;> rfl

theorem Console.prompted_withUnread (settings : Settings) (text : String) (lines : List String)
    (c : Console) :
    (c.withUnread lines).prompted settings text = (c.prompted settings text).withUnread lines := by
  unfold prompted
  split
  · cases c <;> rfl
  · rfl

theorem Console.warned_withUnread (settings : Settings) (message : String) (lines : List String)
    (c : Console) :
    (c.withUnread lines).warned settings message = (c.warned settings message).withUnread lines := by
  unfold warned
  split
  · cases c <;> rfl
  · rfl

/-! ## Acts that read no line -/

/-- On the machine the act does the same whatever lines there are to read, and leaves them. -/
structure Act.ReadsNone (x : Act α) (m : Machine) : Prop where
  blind : ∀ lines, x (m.withUnread lines) = mapState (Machine.withUnread lines) (x m)
  unread : (stateOf (x m)).console.unread = m.console.unread

namespace Act.ReadsNone

variable {x : Act α} {m : Machine}

theorem pure (a : α) : ReadsNone (Pure.pure a) m := ⟨fun _ => rfl, rfl⟩

theorem throw (f : Fault) : ReadsNone (MonadExcept.throw f : Act α) m := ⟨fun _ => rfl, rfl⟩

theorem bind {f : α → Act β} (h : ReadsNone x m)
    (hf : ∀ a m', x m = .ok a m' → ReadsNone (f a) m') : ReadsNone (x >>= f) m := by
  obtain ⟨hblind, hunread⟩ := h
  cases hx : x m with
  | ok a m' =>
    rw [hx] at hunread
    refine ⟨fun lines => ?_, ?_⟩
    · have hlines := hblind lines
      rw [hx] at hlines
      rw [Ends.run_bind_ok hlines, Ends.run_bind_ok hx, (hf a m' hx).blind lines]
    · rw [Ends.run_bind_ok hx, (hf a m' hx).unread]
      exact hunread
  | error f' m' =>
    rw [hx] at hunread
    refine ⟨fun lines => ?_, ?_⟩
    · have hlines := hblind lines
      rw [hx] at hlines
      rw [Ends.run_bind_error hlines, Ends.run_bind_error hx, mapState_error]
    · rw [Ends.run_bind_error hx]
      exact hunread

theorem eval (e : Eval α) : ReadsNone (Act.eval e) m := by
  cases he : e m.store with
  | ok a s =>
    refine ⟨fun lines => ?_, by rw [eval_ok he]; rfl⟩
    rw [eval_ok he, eval_ok (m := m.withUnread lines) he]
    rfl
  | error f s =>
    refine ⟨fun lines => ?_, by rw [eval_error he]; rfl⟩
    rw [eval_error he, eval_error (m := m.withUnread lines) he]
    rfl

theorem read (look : Store → Except Fault α) : ReadsNone (Act.read look) m := eval _

theorem change (update : Store → Except Fault Store) : ReadsNone (Act.change update) m := eval _

theorem lift (y : Except Fault α) : ReadsNone (Act.lift y) m := by
  cases y with
  | ok a => exact .pure a
  | error f => exact .throw f

theorem print (text : String) : ReadsNone (Act.write (·.print text)) m := by
  obtain ⟨store, frames, console⟩ := m
  refine ⟨fun lines => ?_, Console.print_unread console text⟩
  cases console <;> rfl

theorem prompted (settings : Settings) (text : String) :
    ReadsNone (Act.write (·.prompted settings text)) m := by
  refine ⟨fun lines => ?_, Console.prompted_unread m.console text settings⟩
  exact congrArg (fun c => EStateM.Result.ok () { m with console := c })
    (Console.prompted_withUnread settings text lines m.console)

theorem warn (settings : Settings) (message : String) : ReadsNone (Act.warn settings message) m := by
  rw [warn_eq]
  refine ⟨fun lines => ?_, Console.warned_unread m.console message settings⟩
  exact congrArg (fun c => EStateM.Result.ok () { m with console := c })
    (Console.warned_withUnread settings message lines m.console)

end Act.ReadsNone

/-- To read no line on any machine goes along with composition. -/
def Act.readsNone : Act.Congruence where
  rel x _ := ∀ m, ReadsNone x m
  pure a _ := .pure a
  throw f _ := .throw f
  bind h hf m := (h m).bind fun a m' _ => hf a m'
  eval e _ := .eval e
  print text _ := .print text

/-! ## Acts that read a line -/

section
variable {m : Machine}

theorem Act.line_closed (h : m.console.unread = []) :
    Act.line m = .error .inputClosed { m with console := m.console.readLine.2 } :=
  line_none (Prod.ext (by rw [Console.readLine_line, h, List.head?_nil]) rfl)

theorem Act.line_first {text : String} {rest : List String} (h : m.console.unread = text :: rest) :
    Act.line m = .ok text { m with console := m.console.readLine.2 } :=
  line_some (Prod.ext (by rw [Console.readLine_line, h, List.head?_cons]) rfl)

end

/-- On the machine the act reads a line: it takes the first one and does not see the others, or it
fails as there is none. -/
structure Act.ReadsOne (x : Act α) (m : Machine) : Prop where
  closed : m.console.unread = [] → ∃ m', x m = .error .inputClosed m'
  first : ∀ line rest, m.console.unread = line :: rest →
    mapState (Machine.withUnread rest) (x m) =
      mapState (Machine.withUnread rest) (x (m.withUnread [line]))
  unread : (stateOf (x m)).console.unread = m.console.unread.tail

namespace Act.ReadsOne

variable {x : Act α} {m m' : Machine}

/-- What is done first reads no line. -/
theorem behind {a : α} {f : α → Act β} (h : ReadsNone x m) (hx : x m = .ok a m')
    (hf : ReadsOne (f a) m') : ReadsOne (x >>= f) m := by
  obtain ⟨hblind, hunread⟩ := h
  rw [hx, stateOf_ok] at hunread
  refine ⟨fun hnil => ?_, fun line rest hcons => ?_, ?_⟩
  · rw [Ends.run_bind_ok hx]
    exact hf.closed (hunread.trans hnil)
  · have hline := hblind [line]
    rw [hx] at hline
    rw [Ends.run_bind_ok hx, Ends.run_bind_ok hline]
    exact hf.first line rest (hunread.trans hcons)
  · rw [Ends.run_bind_ok hx, hf.unread, hunread]

theorem line {f : String → Act β} (hf : ∀ text m, ReadsNone (f text) m) (m : Machine) :
    ReadsOne (Act.line >>= f) m := by
  refine ⟨fun hnil => ⟨_, Ends.run_bind_error (line_closed hnil)⟩, fun text rest hcons => ?_, ?_⟩
  · have honly : (m.withUnread [text]).console.unread = [text] :=
      Console.unread_withUnread hcons [text]
    -- both are left with the same line, and what is done with it does not see the others
    have hleft : ({ m with console := m.console.readLine.2 } : Machine).withUnread rest =
        { m.withUnread [text] with console := (m.console.withUnread [text]).readLine.2 }.withUnread
          rest := by
      simp only [Machine.withUnread, Console.readLine_withUnread, Console.withUnread_twice]
    rw [Ends.run_bind_ok (line_first hcons), Ends.run_bind_ok (line_first honly),
      ← (hf text _).blind rest, ← (hf text _).blind rest]
    exact congrArg (f text) hleft
  · cases hunread : m.console.unread with
    | nil =>
      rw [Ends.run_bind_error (line_closed hunread), stateOf_error]
      show m.console.readLine.2.unread = []
      rw [Console.readLine_unread, hunread, List.tail_nil]
    | cons text rest =>
      rw [Ends.run_bind_ok (line_first hunread), (hf text _).unread]
      show m.console.readLine.2.unread = rest
      rw [Console.readLine_unread, hunread, List.tail_cons]

/-- What is done with the line reads no other one. -/
theorem input (settings : Settings) (prompt : String) {f : String → Act β}
    (hf : ∀ text m, ReadsNone (f text) m) (m : Machine) :
    ReadsOne (Act.input settings prompt >>= f) m := by
  rw [input_eq_prompted, bind_assoc]
  exact behind (.prompted settings prompt) rfl (line hf _)

end Act.ReadsOne

/-- The act reads one line or none. -/
def Act.Reads (one : Bool) (x : Act α) (m : Machine) : Prop :=
  if one then ReadsOne x m else ReadsNone x m

namespace Act.Reads

variable {x : Act α} {m m' : Machine} {f : α → Act β}

theorem stop {fault : Fault} (h : ReadsNone x m) (hx : x m = .error fault m') :
    Reads false (x >>= f) m :=
  ReadsNone.bind h fun a m'' ha => by rw [hx] at ha; cases ha

theorem behind {one : Bool} {a : α} (h : ReadsNone x m) (hx : x m = .ok a m')
    (hf : Reads one (f a) m') : Reads one (x >>= f) m := by
  cases one with
  | true => exact ReadsOne.behind h hx hf
  | false => exact ReadsNone.bind h fun a' m'' ha => by rw [hx] at ha; cases ha; exact hf

theorem unread {one : Bool} (h : Reads one x m) :
    (stateOf (x m)).console.unread = m.console.unread.drop (if one then 1 else 0) := by
  cases one with
  | true => simpa using ReadsOne.unread h
  | false => exact ReadsNone.unread h

end Act.Reads

/-! ## Actions -/

/-- Whether the action comes to read a line. The variable that it reads into has to be there, and so
has the element. -/
def Action.readsLine : Action → Store → Bool
  | .input name, s => (s.get name).isOk
  | .inputElement name idx, s =>
    match idx.evalNumber s with
    | .ok i s =>
      match s.array name with
      | .ok a => (a.get i).isOk
      | .error _ => false
    | .error _ _ => false
  | _, _ => false

section
variable (settings : Settings) (name : String) (idx : Expr) (m : Machine)

theorem performInput_reads :
    (performInput settings name).Reads ((Action.input name).readsLine m.store) m := by
  rw [Action.readsLine]
  cases hget : m.store.get name with
  | error f => exact .stop (.read _) (Act.read_error hget)
  | ok v =>
    refine .behind (.read _) (Act.read_ok hget) ?_
    refine Act.ReadsOne.input settings _ (fun line m => ?_) m
    split
    · split
      · exact .change _
      · exact .warn settings _
    · split
      · exact .change _
      · exact .warn settings _
    · exact .change _

theorem performInputElement_reads : (performInputElement settings name idx).Reads
    ((Action.inputElement name idx).readsLine m.store) m := by
  rw [Action.readsLine]
  cases hidx : idx.evalNumber m.store with
  | error f s => exact .stop (.eval _) (Act.eval_error hidx)
  | ok i s =>
    refine .behind (.eval _) (Act.eval_ok hidx) ?_
    dsimp only
    cases harray : s.array name with
    | error f => exact .stop (.read _) (Act.read_error (m := { m with store := s }) harray)
    | ok a =>
      refine .behind (.read _) (Act.read_ok (m := { m with store := s }) harray) ?_
      dsimp only
      cases hget : a.get i with
      | error f => exact .stop (m := { m with store := s }) (.lift (.error f)) rfl
      | ok v =>
        refine .behind (m := { m with store := s }) (.lift (.ok v)) rfl ?_
        refine Act.ReadsOne.input settings _ (fun line m => ?_) _
        exact .bind (.lift _) fun v m' _ => .eval _

theorem Action.perform_reads (a : Action) : (a.perform settings).Reads (a.readsLine m.store) m := by
  cases hinput : a.isInput with
  | true =>
    cases a with
    | input name => exact performInput_reads settings name m
    | inputElement name idx => exact performInputElement_reads settings name idx m
    | _ => cases hinput
  | false =>
    have hnone : a.readsLine m.store = false := by cases a <;> first | rfl | cases hinput
    rw [hnone]
    exact a.perform_related Act.readsNone hinput settings settings m

end

/-! ## Calls -/

/-- Whether the piece comes to read a line. -/
def Piece.readsLine : Piece → Store → Bool
  | action a, s => a.readsLine s
  | _, _ => false

theorem Piece.act_reads (settings : Settings) (p : Piece) (m : Machine) :
    (p.act settings).Reads (p.readsLine m.store) m := by
  cases p with
  | action a => exact a.perform_reads settings m
  | value e | condition e => exact Act.ReadsNone.bind (.eval _) fun _ _ _ => .pure ()

namespace Call

def readsLine (c : Call) : Bool :=
  match c.part with
  | .piece p => p.readsLine c.machine.store
  | _ => false

theorem leaves_unread (settings : Settings) (c : Call) :
    (c.part.leaves settings c.machine.world).console.unread =
      c.machine.console.unread.drop (if c.readsLine then 1 else 0) := by
  obtain ⟨part, m, path⟩ := c
  cases part with
  | stmt | block => rfl
  | piece p =>
    show (p.leaves settings m.world).console.unread = _
    rw [← p.world_act]
    exact (p.act_reads settings m).unread

end Call

/-- Along a path the lines are taken in order, one by each call that reads. -/
theorem Path.unread {w w' : World} {calls : List Call} (h : Path settings w calls w') :
    w'.console.unread = w.console.unread.drop (calls.countP Call.readsLine) := by
  induction h with
  | nil => rfl
  | @cons part m path rest w _ ih =>
    rw [ih, Call.leaves_unread settings ⟨part, m, path⟩, List.drop_drop, List.countP_cons, Nat.add_comm]
    rfl

end Primer
