import Primer.Proofs.StoreSafety

/-!
# Truth values after input

A line that is read into a truth value stays a text. A condition reads the text as one of the two
words, with case and white space put aside; an equality and a case of a switch compare it with the
word as it stands. All three agree on a truth value and on a text that is one of the words. On a text
that a condition reads although it is another spelling of a word, the equality and the case fail.
-/

namespace Primer

/-! ## Values -/

theorem Scalar.logicText_inj {b t : Bool} : logicText b = logicText t ↔ b = t := by
  cases b <;> cases t <;> decide

theorem Scalar.logicText_beq (b t : Bool) : (logicText b == logicText t) = (b == t) :=
  Bool.eq_iff_iff.mpr (by simp only [beq_iff_eq, logicText_inj])

/-- A name of a truth value holds one, or the line that was read last. -/
theorem Ty.Admits.truth {w : Value} (h : Ty.logic.Admits w) :
    (∃ b, w = .logic b) ∨ ∃ s, w = .sentence s := by
  generalize hty : Ty.logic = ty at h
  cases h with
  | scalar v =>
    cases v with
    | logic b => exact .inl ⟨b, rfl⟩
    | number | letter | sentence => cases hty
  | logicText s => exact .inr ⟨s, rfl⟩
  | array | arrayText => cases hty

namespace Value

variable {w : Value} {b t : Bool} {s : String}

section
variable (h : Ty.logic.Admits w) (b : Bool)
include h

theorem looselyEqual_logic : w.looselyEqual (.logic b) = (w.text == Scalar.logicText b) := by
  rcases h.truth with ⟨t, rfl⟩ | ⟨s, rfl⟩
  · exact (Scalar.logicText_beq t b).symm
  · rfl

theorem logic_looselyEqual : (Value.logic b).looselyEqual w = (w.text == Scalar.logicText b) := by
  rcases h.truth with ⟨t, rfl⟩ | ⟨s, rfl⟩
  · exact (Scalar.logicText_beq b t).symm.trans Bool.beq_comm
  · exact Bool.beq_comm

theorem selects_logic : w.selects (.logic b) = (w.text == Scalar.logicText b) := by
  rw [← looselyEqual_logic h]
  rcases h.truth with ⟨t, rfl⟩ | ⟨s, rfl⟩ <;> rfl

end

theorem toLogic_logicText (b : Bool) : (sentence (Scalar.logicText b)).toLogic = .ok b := by
  cases b <;> rfl

/-- The text is the word of a truth value if the value reads as it, and is the word if it is a
text. -/
theorem text_eq_iff (h : Ty.logic.Admits w) : w.text = Scalar.logicText b ↔
    w.toLogic = .ok b ∧ ∀ s, w = .sentence s → s = Scalar.logicText b := by
  rcases h.truth with ⟨t, rfl⟩ | ⟨s, rfl⟩
  · have hread : (logic t).toLogic = .ok b ↔ t = b := by simp [toLogic, Scalar.toLogic]
    rw [hread, and_iff_left nofun]
    exact Scalar.logicText_inj
  · refine ⟨fun hs => ?_, fun hs => hs.2 s rfl⟩
    have hword : s = Scalar.logicText b := hs
    refine ⟨hword ▸ toLogic_logicText b, fun s' hs' => ?_⟩
    cases hs'
    exact hword

theorem sentence_text_iff (h : (sentence s).toLogic = .ok t) :
    (sentence s).text = Scalar.logicText b ↔ b = t ∧ s = Scalar.logicText t := by
  rw [text_eq_iff (.logicText s), h]
  constructor
  · intro ⟨ht, hs⟩
    cases ht
    exact ⟨rfl, hs s rfl⟩
  · rintro ⟨rfl, hs⟩
    exact ⟨rfl, fun s' hs' => by cases hs'; exact hs⟩

end Value

/-! ## Bound names -/

section
variable {s : Store} {n : String} {b : Binding}

theorem Store.get_found (h : s.find? n = some b) : s.get n = .ok b.value := by
  rw [get, binding, h]
  rfl

theorem Store.put_found (h : s.find? n = some b) (v : Value) :
    s.put n v = .ok (s.declare n b.ty v) := by
  rw [put, binding, h]
  rfl

theorem Eval.get_found (h : s.find? n = some b) : Eval.read (·.get n) s = .ok b.value s := by
  show Eval.lift (s.get n) s = _
  rw [Store.get_found h]
  rfl

theorem Eval.put_found (h : s.find? n = some b) (v : Value) :
    Eval.change (·.put n v) s = .ok () (s.declare n b.ty v) := by
  have hread : Eval.read (·.put n v) s = .ok (s.declare n b.ty v) s := by
    show Eval.lift (s.put n v) s = _
    rw [Store.put_found h]
    rfl
  rw [change, Ends.run_bind_ok hread]
  rfl

end

/-! ## Asking for a truth value -/

/-- How a program learns whether the value of a name is a given truth value: a condition converts
it, so that a branch is executed as one on the truth value; an equality with a literal and a case of a
switch look at its text. -/
structure Machine.Answers (m : Machine) (name : String) (w : Value) : Prop where
  condition : ∀ ty, Exec.condition (.var ty name) m = Exec.act (Act.lift w.toLogic) m
  branch : ∀ settings limit line ty tyLit raw b body elseIfs otherwise,
    Scalar.ofLiteral raw = .ok (.logic b) → w.toLogic = .ok b →
    (Stmt.branch line (.var ty name) body elseIfs otherwise).exec settings limit m =
      (Stmt.branch line (.lit tyLit raw) body elseIfs otherwise).exec settings limit m
  equal : ∀ ty tyName tyLit raw b, Scalar.ofLiteral raw = .ok (.logic b) →
    Exec.eval (.binary ty .equal (.var tyName name) (.lit tyLit raw)) m =
      .ok (.logic (w.text == Scalar.logicText b)) m
  equalTo : ∀ ty tyName tyLit raw b, Scalar.ofLiteral raw = .ok (.logic b) →
    Exec.eval (.binary ty .equal (.lit tyLit raw) (.var tyName name)) m =
      .ok (.logic (w.text == Scalar.logicText b)) m
  switched : ∀ ty, Exec.eval (.var ty name) m = .ok w m
  case : ∀ settings limit fallback tyLit raw b body rest, Scalar.ofLiteral raw = .ok (.logic b) →
    Stmt.execCases settings limit w fallback ((.lit tyLit raw, body) :: rest) m =
      if w.text = Scalar.logicText b then
        Exec.inFrame true (Stmt.execAll settings limit body) m
      else Stmt.execCases settings limit w fallback rest m

section
variable {m : Machine} {s : Store} {name raw : String} {b : Bool} {bound : Binding} {w : Value}

theorem Expr.eval_found (h : s.find? name = some bound) (ty : Ty) :
    (var ty name).eval s = .ok bound.value s := by
  rw [eval]
  exact Eval.get_found h

theorem Expr.eval_truth (h : Scalar.ofLiteral raw = .ok (.logic b)) (ty : Ty) :
    (lit ty raw).eval s = .ok (.logic b) s := by
  rw [eval, h]
  rfl

theorem Expr.eval_binary {op : BinaryOp} {left right : Expr} {a c v : Value} (ty : Ty)
    (hl : left.eval s = .ok a s) (hr : right.eval s = .ok c s) (h : op.apply a c = .ok v) :
    (binary ty op left right).eval s = .ok v s := by
  rw [eval, Ends.run_bind_ok hl, Ends.run_bind_ok hr, h]
  rfl

theorem Exec.eval_ok {e : Expr} {v : Value} (h : e.eval m.store = .ok v m.store) :
    Exec.eval e m = .ok v m := by
  rw [Exec.eval, Exec.act, Act.eval_ok h]

theorem Exec.condition_eq {e : Expr} {v : Value} (h : e.eval m.store = .ok v m.store) :
    Exec.condition e m = Exec.act (Act.lift v.toLogic) m := by
  have hlogic : e.evalLogic m.store = Eval.lift v.toLogic m.store := Ends.run_bind_ok h
  rw [Exec.condition, Exec.act, Act.eval, hlogic, Exec.act]
  cases v.toLogic <;> rfl

theorem Stmt.exec_branch {cond cond' : Expr} (h : Exec.condition cond m = Exec.condition cond' m)
    (settings : Settings) (limit : Nat) (line : Option Line) (body : List Stmt)
    (elseIfs : List (Expr × List Stmt)) (otherwise : Option (List Stmt)) :
    (branch line cond body elseIfs otherwise).exec settings limit m =
      (branch line cond' body elseIfs otherwise).exec settings limit m := by
  rw [exec, exec, Exec.onLine, Exec.onLine]
  cases hcond : Exec.condition cond' m with
  | ok holds m' => rw [Ends.run_bind_ok (h.trans hcond), Ends.run_bind_ok hcond]
  | error halt m' => rw [Ends.run_bind_error (h.trans hcond), Ends.run_bind_error hcond]

theorem Machine.answers (h : Ty.logic.Admits w) (hname : m.store.find? name = some ⟨.logic, w⟩) :
    m.Answers name w where
  condition ty := Exec.condition_eq (Expr.eval_found hname ty)
  branch settings limit line ty tyLit raw b body elseIfs otherwise hraw hlogic := by
    refine Stmt.exec_branch ?_ settings limit line body elseIfs otherwise
    rw [Exec.condition_eq (Expr.eval_found hname ty), Exec.condition_eq (Expr.eval_truth hraw tyLit)]
    exact congrArg (fun read => Exec.act (Act.lift read) m) hlogic
  equal ty tyName tyLit raw b hraw :=
    Exec.eval_ok (Expr.eval_binary ty (Expr.eval_found hname tyName) (Expr.eval_truth hraw tyLit)
      (by rw [BinaryOp.apply, Value.looselyEqual_logic h]))
  equalTo ty tyName tyLit raw b hraw :=
    Exec.eval_ok (Expr.eval_binary ty (Expr.eval_truth hraw tyLit) (Expr.eval_found hname tyName)
      (by rw [BinaryOp.apply, Value.logic_looselyEqual h]))
  switched ty := Exec.eval_ok (Expr.eval_found hname ty)
  case settings limit fallback tyLit raw b body rest hraw := by
    have hcase := Exec.eval_ok (m := m) (Expr.eval_truth hraw tyLit)
    rw [Stmt.execCases, Ends.run_bind_ok hcase, Value.selects_logic h]
    simp only [beq_iff_eq]
    split <;> rfl

end

/-! ## Reading a line -/

theorem Console.readLine_print (text : String) (c : Console) :
    (c.print text).readLine.1 = c.readLine.1 := by
  cases c with
  | silent => rfl
  | recording t =>
    obtain ⟨output, warnings, input⟩ := t
    cases input <;> rfl
  | standard s =>
    obtain ⟨output, warnings, input⟩ := s
    cases input <;> rfl

namespace Act

variable (settings : Settings) {prompt : String} {m : Machine}

/-- A prompt, if there is one, does not change which line is read. -/
theorem input_eq_line (prompt : String) (m : Machine) : ∃ console,
    input settings prompt m = line { m with console } ∧
      console.readLine.1 = m.console.readLine.1 := by
  rw [input_eq]
  split
  · have hwrite : write (·.print prompt) m = .ok () { m with console := m.console.print prompt } :=
      rfl
    exact ⟨_, Ends.run_bind_ok hwrite, Console.readLine_print prompt m.console⟩
  · exact ⟨m.console, rfl, rfl⟩

theorem input_some {text : String} (h : m.console.readLine.1 = some text) :
    ∃ console, input settings prompt m = .ok text { m with console } := by
  obtain ⟨console, hinput, hread⟩ := input_eq_line settings prompt m
  exact ⟨_, hinput.trans (line_some (Prod.ext (hread.trans h) rfl))⟩

theorem input_none (h : m.console.readLine.1 = none) :
    ∃ console, input settings prompt m = .error .inputClosed { m with console } := by
  obtain ⟨console, hinput, hread⟩ := input_eq_line settings prompt m
  exact ⟨_, hinput.trans (line_none (Prod.ext (hread.trans h) rfl))⟩

end Act

/-- Input into a name of a truth value: whatever the line says, it is stored as a text, and that is
what the name is asked for from then on. -/
structure Machine.ReadsText (settings : Settings) (name : String) (m : Machine) : Prop where
  text : ∀ {s}, m.console.readLine.1 = some s → ∃ m', performInput settings name m = .ok () m' ∧
    m'.store = m.store.declare name .logic (.sentence s) ∧ m'.Answers name (.sentence s)
  closed : m.console.readLine.1 = none → ∃ console,
    performInput settings name m = .error .inputClosed { m with console }

theorem performInput_logic (settings : Settings) {m : Machine} {name : String} {w : Value}
    (h : Ty.logic.Admits w) (hname : m.store.find? name = some ⟨.logic, w⟩) :
    m.ReadsText settings name := by
  have hread : Act.read (·.get name) m = .ok w m := Act.eval_ok (Eval.get_found hname)
  constructor
  · intro s hline
    obtain ⟨console, hinput⟩ := Act.input_some settings hline
    have hput := Act.eval_ok (m := { m with console }) (Eval.put_found hname (.sentence s))
    have hstored := Store.find?_declare_self m.store name .logic (.sentence s)
    refine ⟨{ m with store := m.store.declare name .logic (.sentence s), console }, ?_, rfl,
      Machine.answers (.logicText s) hstored⟩
    rw [performInput, Ends.run_bind_ok hread, Ends.run_bind_ok hinput]
    rcases h.truth with ⟨b, rfl⟩ | ⟨s', rfl⟩ <;> exact hput
  · intro hline
    obtain ⟨console, hinput⟩ := Act.input_none settings hline
    refine ⟨console, ?_⟩
    rw [performInput, Ends.run_bind_ok hread, Ends.run_bind_error hinput]

/-! ## Runs -/

namespace Program

/-- A text that a condition reads as a truth value is equal to it, and is selected by its case, only
if it is the word. In a run of any program, input leaves its line as such a text in a name of a truth
value. Wherever the name is asked, an equality and a case hold exactly if a condition reads the
value and the value, if it is a text, is the word. -/
theorem truth_asked (settings : Settings) (limit : Nat) (p : Program) (m : Machine) :
    (∀ b s t, (Value.sentence s).toLogic = .ok t →
      ((Value.logic b).looselyEqual (.sentence s) = true ↔ b = t ∧ s = Scalar.logicText t) ∧
      ((Value.sentence s).looselyEqual (.logic b) = true ↔ b = t ∧ s = Scalar.logicText t) ∧
      ((Value.sentence s).selects (.logic b) = true ↔ b = t ∧ s = Scalar.logicText t)) ∧
    ∀ c ∈ p.calls settings limit m, ∀ n : Machine, n.store ∈ c.stores → ∀ name w,
      n.store.find? name = some ⟨.logic, w⟩ →
        n.ReadsText settings name ∧ n.Answers name w ∧ ∀ b, w.text = Scalar.logicText b ↔
          w.toLogic = .ok b ∧ ∀ s, w = .sentence s → s = Scalar.logicText b := by
  refine ⟨fun b s t hs => ?_, fun c hc n hn name w hname => ?_⟩
  · rw [← Value.sentence_text_iff hs, Value.logic_looselyEqual (.logicText s),
      Value.looselyEqual_logic (.logicText s), Value.selects_logic (.logicText s), beq_iff_eq]
    exact ⟨.rfl, .rfl, .rfl⟩
  · have hadmits := (c.stores_follow (call_wellTyped hc) _ hn).wellTyped name _ hname
    exact ⟨performInput_logic settings hadmits hname, Machine.answers hadmits hname,
      fun b => Value.text_eq_iff hadmits⟩

/-- A truth value that is read, asked in the three ways. -/
def spelledTruth : Program where
  stmts := [
    .action none (.declare "LOGIC" "sure" none), .action none (.input "sure"),
    .action none (.display (some (.expr
      (.binary .unknown .equal (.var .unknown "sure") (.lit .unknown "true")))) true),
    .branch none (.var .unknown "sure") [] [] none,
    .switch none (.var .unknown "sure") [(.lit .unknown "true", [])] none]

theorem spelledTruth_asked : spelledTruth.diagnostics = [] ∧
    (Value.sentence "TRUE").toLogic = .ok true ∧
    (Value.logic true).looselyEqual (.sentence "TRUE") = false ∧
    ∃ c ∈ spelledTruth.calls .default 10 (.start (.scripted ["TRUE"])),
      c.machine.store.find? "sure" = some ⟨.logic, .sentence "TRUE"⟩ ∧
      Exec.condition (.var .logic "sure") c.machine = .ok true c.machine ∧
      Exec.eval (.binary .logic .equal (.var .logic "sure") (.lit .logic "true")) c.machine =
        .ok (.logic false) c.machine := by
  have hread : (Value.sentence "TRUE").toLogic = .ok true := rfl
  obtain ⟨hlaw, hrun⟩ := truth_asked .default 10 spelledTruth (.start (.scripted ["TRUE"]))
  refine ⟨rfl, hread, ?_, _, List.mem_of_getElem? (i := 4) rfl, rfl, ?_⟩
  · rw [Bool.eq_false_iff, ne_eq, (hlaw true "TRUE" true hread).1]
    decide
  · obtain ⟨-, hanswers, -⟩ := hrun _ (List.mem_of_getElem? (i := 4) rfl) _ List.mem_cons_self
      "sure" (.sentence "TRUE") rfl
    exact ⟨hanswers.condition .logic, hanswers.equal .logic .logic .logic "true" true rfl⟩

end Program

end Primer
