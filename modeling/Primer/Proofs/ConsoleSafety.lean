import Primer.Proofs.Lockstep

/-!
# The safety of settings and consoles

What a run writes besides the output of the program, and whether its console keeps anything, has no
part in what the run computes: it ends in the same way, with the same store, and has read the same
lines.
-/

namespace Primer

/-! ## Alike consoles -/

namespace Console

/-- Two consoles with the same lines to read. They show the same output, they show the same warnings,
and the first one shows no warning, each if that is asked of them. -/
structure Alike (sameOutput sameWarnings noWarning : Prop) (c d : Console) : Prop where
  unread : d.unread = c.unread
  output : sameOutput → d.isSilent = c.isSilent ∧ d.output = c.output
  warnings : sameWarnings → d.isSilent = c.isSilent ∧ d.warnings = c.warnings
  quiet : noWarning → c.warnings = []

namespace Alike

variable {P W Q : Prop} {c d : Console} {settings settings' : Settings}

theorem refl (c : Console) (hQ : Q → c.warnings = []) : Alike P W Q c c :=
  ⟨rfl, fun _ => ⟨rfl, rfl⟩, fun _ => ⟨rfl, rfl⟩, hQ⟩

theorem print (h : Alike P W Q c d) (text : String) : Alike P W Q (c.print text) (d.print text) where
  unread := by simpa using h.unread
  output hP := by
    obtain ⟨hsilent, houtput⟩ := h.output hP
    simp [print_output, hsilent, houtput]
  warnings hW := by simpa using h.warnings hW
  quiet hQ := by simpa using h.quiet hQ

theorem prompted (h : Alike P W Q c d) (hP : P → settings'.prompts = settings.prompts)
    (text : String) : Alike P W Q (c.prompted settings text) (d.prompted settings' text) where
  unread := by simpa using h.unread
  output hp := by
    unfold Console.prompted
    rw [hP hp]
    split
    · exact (h.print text).output hp
    · exact h.output hp
  warnings hW := by simpa using h.warnings hW
  quiet hQ := by simpa using h.quiet hQ

theorem warned (h : Alike P W Q c d) (hW : W → settings'.warnings = settings.warnings)
    (hQ : Q → settings.warnings = false) (message : String) :
    Alike P W Q (c.warned settings message) (d.warned settings' message) where
  unread := by simpa using h.unread
  output hP := by simpa using h.output hP
  warnings hw := by
    obtain ⟨hsilent, hwarnings⟩ := h.warnings hw
    unfold Console.warned
    rw [hW hw]
    split
    · simp [warn_warnings, hsilent, hwarnings]
    · exact ⟨hsilent, hwarnings⟩
  quiet hq := by
    unfold Console.warned
    rw [hQ hq]
    exact h.quiet hq

theorem readLine (h : Alike P W Q c d) :
    c.readLine.1 = d.readLine.1 ∧ Alike P W Q c.readLine.2 d.readLine.2 := by
  refine ⟨by rw [readLine_line, readLine_line, h.unread], ?_, ?_, ?_, ?_⟩
  · rw [readLine_unread, readLine_unread, h.unread]
  · simpa using h.output
  · simpa using h.warnings
  · simpa using h.quiet

end Alike

/-- Alike consoles stay alike if the settings agree in what is asked of the consoles. -/
theorem alike_parallel {P W Q : Prop} {settings settings' : Settings}
    (hP : P → settings'.prompts = settings.prompts) (hW : W → settings'.warnings = settings.warnings)
    (hQ : Q → settings.warnings = false) :
    Parallel settings settings' (fun _ => False) (Alike P W Q) where
  print text h := h.print text
  prompt text h := h.prompted hP text
  warn message h := h.warned hW hQ message
  read h := .inl h.readLine

/-- A silent console and one without input are alike if nothing is asked of what they show. -/
theorem silent_alike : Alike False False False silent (scripted []) := ⟨rfl, nofun, nofun, nofun⟩

end Console

/-! ## Runs -/

/-- Two runs under settings of their own have the same result and leave the same lines unread. They
differ in the prompts and the warnings that one of them writes and the other one does not. -/
structure Outcome.SameRun (settings settings' : Settings) (r r' : Outcome × Machine) : Prop
    extends Outcome.SameResult r r' where
  unread : r'.2.console.unread = r.2.console.unread
  output : settings'.prompts = settings.prompts → r'.2.console.output = r.2.console.output
  warnings : settings'.warnings = settings.warnings → r'.2.console.warnings = r.2.console.warnings
  quiet : settings.warnings = false → r.2.console.warnings = []

namespace Outcome.SameEnd

variable {C : Console → Console → Prop} {settings settings' : Settings} {r r' : Outcome × Machine}

/-- Without excuses the ends are the same. -/
theorem end_eq (h : SameEnd (fun _ => False) C r r') : r'.1 = r.1 ∧ Machine.Beside C r.2 r'.2 :=
  h.resolve_left fun ⟨_, _, hf⟩ => hf

theorem sameResult (h : SameEnd (fun _ => False) C r r') : SameResult r r' :=
  ⟨h.end_eq.1, h.end_eq.2.store⟩

theorem sameRun (h : SameEnd (fun _ => False)
    (Console.Alike (settings'.prompts = settings.prompts) (settings'.warnings = settings.warnings)
      (settings.warnings = false)) r r') : SameRun settings settings' r r' where
  toSameResult := h.sameResult
  unread := h.end_eq.2.console.unread
  output hp := (h.end_eq.2.console.output hp).2
  warnings hw := (h.end_eq.2.console.warnings hw).2
  quiet hq := h.end_eq.2.console.quiet hq

end Outcome.SameEnd

namespace Program

open Outcome

/-- Neither the settings nor the kind of the console have a part in the result of a run. -/
theorem settings_inert (settings settings' : Settings) (limit : Nat) (p : Program) :
    (∀ lines,
      SameRun settings settings' (p.run settings limit (.scripted lines))
        (p.run settings' limit (.scripted lines)) ∧
      SameRun settings settings' (p.executed settings limit (.scripted lines))
        (p.executed settings' limit (.scripted lines))) ∧
    SameResult (p.run settings limit .silent) (p.run settings' limit (.scripted [])) ∧
    SameResult (p.executed settings limit .silent) (p.executed settings' limit (.scripted [])) := by
  refine ⟨fun lines => ?_, ?_⟩
  · have h : Console.Parallel settings settings' _ _ := Console.alike_parallel id id id
    exact ⟨(run_sameEnd h (.refl _ fun _ => rfl) limit p).sameRun,
      (executed_sameEnd h (.refl _ fun _ => rfl) limit p).sameRun⟩
  · have h : Console.Parallel settings settings' _ (Console.Alike False False False) :=
      Console.alike_parallel nofun nofun nofun
    exact ⟨(run_sameEnd h Console.silent_alike limit p).sameResult,
      (executed_sameEnd h Console.silent_alike limit p).sameResult⟩

/-- A character is read and shown. -/
def echoLetter : Program where
  stmts := [.action none (.declare "LETTER" "x" none), .action none (.input "x"),
    .action none (.display (some (.named "x")) true)]

/-- A line that is no character is reported, or dropped without a word. -/
theorem echoLetter_settings_inert :
    let loud := echoLetter.run .default 1 (.scripted ["ab", "c"])
    let quiet := echoLetter.run ⟨false, false⟩ 1 (.scripted ["ab", "c"])
    (loud.2.console.output = "Enter value for x:  \n" ∧
      loud.2.console.warnings = ["LETTER input must be a single character."]) ∧
    (quiet.2.console.output = " \n" ∧ quiet.2.console.warnings = []) ∧
    Outcome.SameRun ⟨false, false⟩ .default quiet loud ∧ quiet.2.console.unread = ["c"] := by
  have h := ((settings_inert ⟨false, false⟩ .default 1 echoLetter).1 ["ab", "c"]).1
  exact ⟨⟨by decide +kernel, by decide +kernel⟩, ⟨by decide +kernel, h.quiet rfl⟩, h,
    by decide +kernel⟩

end Program

end Primer
