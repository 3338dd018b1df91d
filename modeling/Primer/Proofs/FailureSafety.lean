import Primer.Proofs.Operands
import Primer.Proofs.TruthValues

/-!
# The safety of failures

An action that fails has stored nothing: the store is the one that its operands left, and it is the
store before the action if no operand changes it. A display that fails has shown nothing, and an input
that has nowhere to put its line neither asks for one nor reads one.
-/

namespace Primer

/-! ## Inputs -/

/-- A failure of the act leaves the store, while the console may have gone on. -/
def Act.FailsAt {α : Type} (s : Store) (x : Act α) (m : Machine) : Prop :=
  Ends (x m) (fun _ _ => True) fun _ m' => m'.store = s

namespace Act.FailsAt

variable {α β : Type} {s : Store} {m : Machine}

theorem warn (settings : Settings) (message : String) :
    FailsAt s (Act.warn settings message) m := by
  unfold Act.warn
  split
  · exact ⟨fun _ => trivial, nofun⟩
  · exact Ends.pure trivial

section
variable (h : m.store = s)
include h

theorem change (update : Store → Except Fault Store) : FailsAt s (Act.change update) m :=
  Act.change_ends ⟨fun _ => trivial, fun _ => h⟩

theorem modifyArray {edit : ArrayValue.Edit α} (name : String) (hedit : edit.Atomic) :
    FailsAt s (Act.eval (Store.modifyArray name edit)) m :=
  Act.eval_ends ((Store.modifyArray_unchanged hedit).mono (fun _ _ h => h) fun _ _ hs => hs.trans h)

theorem lift {y : Except Fault α} {k : α → Act β} (hk : ∀ a, FailsAt s (k a) m) :
    FailsAt s (Act.lift y >>= k) m := by
  cases y with
  | ok a => exact hk a
  | error f => exact Ends.throw h

theorem read {look : Store → Except Fault α} {k : α → Act β} (hk : ∀ a, FailsAt s (k a) m) :
    FailsAt s (Act.read look >>= k) m :=
  Ends.bind (Q := fun _ m' => m' = m) (Act.read_ends ⟨fun _ => rfl, fun _ => h⟩)
    fun a _ hm => hm ▸ hk a

theorem input {settings : Settings} {prompt : String} {k : String → Act β}
    (hk : ∀ line m, m.store = s → FailsAt s (k line) m) :
    FailsAt s (Act.input settings prompt >>= k) m := by
  cases hline : m.console.readLine.1 with
  | none =>
    obtain ⟨console, hinput⟩ : ∃ console, Act.input settings prompt m = .error .inputClosed
        { m with console } := Act.input_none settings hline
    rw [FailsAt, Ends.run_bind_error hinput]
    exact ⟨nofun, fun hx => by cases hx; exact h⟩
  | some text =>
    obtain ⟨console, hinput⟩ : ∃ console, Act.input settings prompt m = .ok text { m with console } :=
      Act.input_some settings hline
    rw [FailsAt, Ends.run_bind_ok hinput]
    exact hk text _ h

end

end Act.FailsAt

open Act

section
variable (settings : Settings) (name : String) (m : Machine)

theorem performInput_fails : FailsAt m.store (performInput settings name) m := by
  refine .read rfl fun current => .input rfl fun line m' h => ?_
  split
  · cases Numeric.read? (Text.trim line) with
    | some n => exact .change h _
    | none => exact .warn settings _
  · cases singleChar? line with
    | some c => exact .change h _
    | none => exact .warn settings _
  · exact .change h _

theorem performInputElement_fails (idx : Expr) :
    FailsAt (stateOf (idx.evalNumber m.store)) (performInputElement settings name idx) m := by
  rw [FailsAt, performInputElement]
  cases hidx : idx.evalNumber m.store with
  | error f s =>
    rw [Ends.run_bind_error (Act.eval_error hidx)]
    exact ⟨nofun, fun hx => by cases hx; rfl⟩
  | ok i s =>
    rw [Ends.run_bind_ok (Act.eval_ok hidx)]
    refine FailsAt.read rfl fun a => .lift rfl fun _ => .input rfl fun line m' h => ?_
    exact .lift h fun v => .modifyArray h name (ArrayValue.set_atomic i (.scalar v))

end

namespace Action

variable {settings : Settings} {m m' : Machine} {a : Action} {f : Fault}

theorem perform_leaves (settings : Settings) (m : Machine) (h : a.isInput = false) :
    LeavesOnly a.ask (a.perform settings) m := by
  cases a with
  | declare ty name init => exact performDeclare_leaves name m ty init
  | assign name op value => exact performAssign_leaves name value op m
  | display item newline => exact performDisplay_leaves m _ newline
  | displayAll items newline => exact performDisplay_leaves m items newline
  | input | inputElement => cases h
  | declareArray elem name init => exact performDeclareArray_leaves name m elem init
  | assignArray name value => exact performAssignArray_leaves name value m
  | assignElement name idx op value => exact performAssignElement_leaves name value idx op m
  | push name value => exact performPush_leaves name value m
  | set name idx value => exact performSet_leaves name value idx m
  | evaluate e => exact .operand fun _ _ => .pure ()

/-- The store behind an action that fails is the one behind its operands. -/
theorem perform_store (h : a.perform settings m = .error f m') :
    m'.store = stateOf (a.ask m.store) := by
  cases hinput : a.isInput with
  | false => rw [(perform_leaves settings m hinput).error h]
  | true =>
    cases a with
    | input name => exact (performInput_fails settings name m).error h
    | inputElement name idx =>
      have hask : stateOf ((inputElement name idx).ask m.store) = stateOf (idx.evalNumber m.store) := by
        rw [ask]
        cases hidx : idx.evalNumber m.store with
        | ok i s => rw [Ends.run_bind_ok hidx]; rfl
        | error f s => rw [Ends.run_bind_error hidx]; rfl
      rw [hask]
      exact (performInputElement_fails settings name m idx).error h
    | _ => cases hinput

theorem perform_console (h : a.perform settings m = .error f m') (hinput : a.isInput = false) :
    m'.console = m.console := by
  rw [(perform_leaves settings m hinput).error h]

end Action

/-! ## Statements -/

theorem Store.get_unbound {s : Store} {name : String} (h : s.contains name = false) :
    s.get name = .error (.undefinedVariable name) := by
  have hfind : s.find? name = none := Option.not_isSome_iff_eq_none.mp (Bool.eq_false_iff.mp h)
  rw [get, binding, hfind]
  rfl

namespace Stmt

variable {settings : Settings} {limit : Nat} {line : Option Line} {a : Action} {m m' : Machine}

/-- An action on a line ends as it does by itself; its fault takes the line. -/
theorem exec_action_eq : (action line a).exec settings limit m =
    match a.perform settings m with
    | .ok _ m' => .ok .normal m'
    | .error f m' => .error (.failed ⟨f, line⟩) m' := by
  rw [exec]
  cases ha : a.perform settings m with
  | ok u m' => exact Exec.onLine_ok (Ends.run_bind_ok (Exec.act_ok ha))
  | error f m' =>
    rw [Exec.onLine_error (Ends.run_bind_error (Exec.act_error ha))]
    cases line <;> rfl

theorem exec_action_error_iff {halt : Halt} :
    (action line a).exec settings limit m = .error halt m' ↔
      ∃ f, halt = .failed ⟨f, line⟩ ∧ a.perform settings m = .error f m' := by
  rw [exec_action_eq]
  cases a.perform settings m with
  | ok u m₁ => exact ⟨nofun, fun ⟨_, _, h⟩ => nomatch h⟩
  | error f m₁ =>
    constructor
    · intro h
      cases h
      exact ⟨f, rfl, rfl⟩
    · rintro ⟨_, rfl, ⟨⟩⟩
      rfl

/-- An action that fails leaves the store that the evaluation of its operands left, which is the store
before if none of them has a step or a pop in it. It leaves the console as it is unless it reads
input; and an input fails without a prompt and without reading a line if its name is unbound, or if its
array has no element of the index. -/
theorem failure_safe (settings : Settings) (limit : Nat) (line : Option Line) (m : Machine) :
    (∀ a halt m', (action line a).exec settings limit m = .error halt m' →
      m'.store = stateOf (a.ask m.store) ∧
      ((∀ e ∈ a.exprs, e.Effectless) → m'.store = m.store) ∧
      (a.isInput = false → m'.console = m.console)) ∧
    (∀ name, m.store.contains name = false → (action line (.input name)).exec settings limit m =
      .error (.failed ⟨.undefinedVariable name, line⟩) m) ∧
    (∀ name idx f s, idx.evalNumber m.store = .error f s →
      (action line (.inputElement name idx)).exec settings limit m =
        .error (.failed ⟨f, line⟩) { m with store := s }) ∧
    ∀ name idx i s f, idx.evalNumber m.store = .ok i s →
      (s.array name >>= fun a => a.get i) = .error f →
      (action line (.inputElement name idx)).exec settings limit m =
        .error (.failed ⟨f, line⟩) { m with store := s } := by
  refine ⟨fun a halt m' h => ?_, fun name hname => ?_, fun name idx f s hidx => ?_,
    fun name idx i s f hidx hget => ?_⟩
  · obtain ⟨f, -, hf⟩ := exec_action_error_iff.mp h
    refine ⟨Action.perform_store hf, fun hstill => ?_, Action.perform_console hf⟩
    rw [Action.perform_store hf, Action.ask_still hstill]
  · have hread : Act.read (·.get name) m = .error _ m := Act.read_error (Store.get_unbound hname)
    exact exec_action_error_iff.mpr ⟨_, rfl, Ends.run_bind_error hread⟩
  · exact exec_action_error_iff.mpr ⟨f, rfl, Ends.run_bind_error (Act.eval_error hidx)⟩
  · refine exec_action_error_iff.mpr ⟨f, rfl, ?_⟩
    rw [Action.perform, performInputElement, Ends.run_bind_ok (Act.eval_ok hidx)]
    cases harray : s.array name with
    | error f' =>
      rw [harray] at hget
      cases hget
      exact Ends.run_bind_error (Act.read_error harray)
    | ok a =>
      rw [harray] at hget
      have hget : a.get i = .error f := hget
      rw [Ends.run_bind_ok (Act.read_ok harray), hget]
      rfl

/-- A machine with an array of one element and a line to read. -/
def oneElement : Machine where
  store := Store.empty.declare "ys" (.array .sentence) (.array ⟨.sentence, #[.sentence "a"]⟩)
  frames := []
  console := .scripted ["b"]

/-- Pushing what is popped: the pop is done when the array for it turns out to be missing. -/
def lostPush : Stmt := .action (some 3) (.push "xs" (.pop .unknown "ys"))

/-- A display of which the first item can be shown. -/
def halfShown : Action := .displayAll [.named "ys", .named "xs"] true

theorem oneElement_failure_safe :
    (∃ halt m', lostPush.exec .default 10 oneElement = .error halt m' ∧
      m'.store = stateOf ((Action.push "xs" (.pop .unknown "ys")).ask oneElement.store) ∧
      m'.store.array "ys" = .ok (.empty .sentence)) ∧
    (∃ halt m', (action none halfShown).exec .default 10 oneElement = .error halt m' ∧
      m'.store = oneElement.store ∧ m'.console.output = "") ∧
    oneElement.store.contains "xs" = false ∧
    (action none (.input "xs")).exec .default 10 oneElement =
      .error (.failed ⟨.undefinedVariable "xs", none⟩) oneElement ∧
    (action none (.inputElement "ys" (.index .unknown "xs" (.var .unknown "xs")))).exec .default 10
      oneElement = .error (.failed ⟨.undefinedVariable "xs", none⟩) oneElement ∧
    (action none (.inputElement "xs" (.length .unknown "ys"))).exec .default 10 oneElement =
      .error (.failed ⟨.undefinedVariable "xs", none⟩) oneElement := by
  obtain ⟨hpush, -, -, -⟩ := failure_safe .default 10 (some 3) oneElement
  obtain ⟨hdisplay, hinput, hindex, helement⟩ := failure_safe .default 10 none oneElement
  refine ⟨⟨_, _, rfl, (hpush _ _ _ rfl).1, rfl⟩, ⟨_, _, rfl, ?_, ?_⟩, rfl, hinput "xs" rfl,
    hindex _ _ _ _ rfl, helement _ _ _ _ _ rfl rfl⟩
  · exact (hdisplay halfShown _ _ rfl).2.1 (List.forall_mem_nil _)
  · exact congrArg Console.output ((hdisplay halfShown _ _ rfl).2.2 rfl)

end Stmt

end Primer
