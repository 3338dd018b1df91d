import Primer.Proofs.Lockstep
import Primer.Proofs.Reads

/-!
# The safety of input

A run reads its lines in order, one by each call that reads, and does not see what it does not read:
whatever follows the lines of a run that did not want for one, it ends in the same way and leaves what
follows behind the lines that it left.
-/

namespace Primer

/-! ## Longer input -/

/-- Two recording consoles that differ in their lines: the second one has some more at the end. -/
inductive Console.Longer (more : List String) : Console → Console → Prop where
  | recording (t : Transcript) :
    Longer more (recording t) (recording { t with input := t.input ++ more })

/-- Longer input stays so, but for a run that wants a line where the shorter input has ended. -/
theorem Console.longer_parallel (settings : Settings) (more : List String) :
    Parallel settings settings (· = .inputClosed) (Longer more) where
  print _ := by
    rintro ⟨t⟩
    exact .recording _
  prompt _ := by
    rintro ⟨t⟩
    unfold prompted
    split <;> exact .recording _
  warn _ := by
    rintro ⟨t⟩
    unfold warned
    split <;> exact .recording _
  read := by
    rintro _ _ ⟨output, warnings, _ | ⟨line, rest⟩⟩
    · -- the shorter input has ended, and the first of the further lines may be there
      exact .inr ⟨rfl, rfl⟩
    · exact .inl ⟨rfl, .recording ⟨output, warnings, rest⟩⟩

/-- Whether a run failed for want of a line. -/
def Outcome.isInputClosed : Outcome → Bool
  | .failed ⟨.inputClosed, _⟩ => true
  | _ => false

/-- Two runs that differ in the lines that they leave: the second one leaves some more at the end. -/
structure Outcome.SameButFor (more : List String) (r r' : Outcome × Machine) : Prop
    extends Outcome.SameResult r r' where
  output : r'.2.console.output = r.2.console.output
  warnings : r'.2.console.warnings = r.2.console.warnings
  unread : r'.2.console.unread = r.2.console.unread ++ more

theorem Outcome.SameEnd.sameButFor {more : List String} {r r' : Outcome × Machine}
    (h : SameEnd (· = .inputClosed) (Console.Longer more) r r') (hr : r.1.isInputClosed = false) :
    SameButFor more r r' := by
  rcases h with ⟨⟨_, line⟩, hfailed, rfl⟩ | ⟨houtcome, hstore, -, hconsole⟩
  · rw [hfailed] at hr
    cases hr
  · generalize hc : r.2.console = c at hconsole
    generalize hd : r'.2.console = d at hconsole
    cases hconsole
    exact ⟨⟨houtcome, hstore⟩, by rw [hc, hd]; rfl, by rw [hc, hd]; rfl, by rw [hc, hd]; rfl⟩

/-! ## Programs -/

/-- The call reads one line or none, if it is a piece. -/
def Call.Reads (settings : Settings) (c : Call) : Prop :=
  ∀ p, c.part = .piece p → (p.act settings).Reads c.readsLine c.machine

theorem Call.reads (settings : Settings) (c : Call) : c.Reads settings := by
  rintro p hp
  rw [readsLine, hp]
  exact p.act_reads settings c.machine

namespace Program

open Outcome

theorem input_in_order (settings : Settings) (limit : Nat) (p : Program) :
    (∀ lines more,
      ((p.run settings limit (.scripted lines)).1.isInputClosed = false →
        SameButFor more (p.run settings limit (.scripted lines))
          (p.run settings limit (.scripted (lines ++ more)))) ∧
      ((p.executed settings limit (.scripted lines)).1.isInputClosed = false →
        SameButFor more (p.executed settings limit (.scripted lines))
          (p.executed settings limit (.scripted (lines ++ more))))) ∧
    ∀ m,
      (∀ before c after, p.calls settings limit m = before ++ c :: after →
        c.machine.console.unread = m.console.unread.drop (before.countP Call.readsLine) ∧
          c.Reads settings) ∧
      (stateOf (p.exec settings limit m)).console.unread =
        m.console.unread.drop ((p.calls settings limit m).countP Call.readsLine) := by
  refine ⟨fun lines more => ?_, fun m => ⟨fun before c after h => ?_, ?_⟩⟩
  · have h := Console.longer_parallel settings more
    have hlines : Console.Longer more (.scripted lines) (.scripted (lines ++ more)) := .recording _
    exact ⟨(run_sameEnd h hlines limit p).sameButFor, (executed_sameEnd h hlines limit p).sameButFor⟩
  · have hpath := p.path settings limit m
    rw [h] at hpath
    obtain ⟨w, hbefore, hafter⟩ := hpath.split before
    rw [← hafter.head] at hbefore
    exact ⟨hbefore.unread, c.reads settings⟩
  · exact (p.path settings limit m).unread

/-- A character is read twice. -/
def rereadLetter : Program where
  stmts := [.action none (.declare "LETTER" "x" none), .action none (.input "x"),
    .action none (.input "x")]

/-- Each of the two lines is taken by a read, the rejected one too, and a third one is left. -/
theorem rereadLetter_input_in_order :
    let m : Machine := .start (.scripted ["ab", "c"])
    let short := rereadLetter.run .default 1 (.scripted ["ab", "c"])
    let long := rereadLetter.run .default 1 (.scripted (["ab", "c"] ++ ["d"]))
    (short.1.isInputClosed = false ∧ SameButFor ["d"] short long ∧
      long.2.console.unread = ["d"]) ∧
    ∃ before c after, rereadLetter.calls .default 1 m = before ++ c :: after ∧
      c.readsLine = true ∧ c.machine.console.unread = ["c"] ∧ c.Reads .default := by
  have h := input_in_order .default 1 rereadLetter
  have hopen : (rereadLetter.run .default 1 (.scripted ["ab", "c"])).1.isInputClosed = false := by
    decide +kernel
  have hcalls := (h.2 (.start (.scripted ["ab", "c"]))).1
  refine ⟨⟨hopen, (h.1 ["ab", "c"] ["d"]).1 hopen, by decide +kernel⟩,
    [_, _, _, _, _], _, _, rfl, rfl, ?_, ?_⟩
  · exact (hcalls [_, _, _, _, _] _ _ rfl).1
  · exact (hcalls [_, _, _, _, _] _ _ rfl).2

end Program

end Primer
