import Primer.Proofs.ConsoleSafety

/-!
# Input on the standard streams

The standard streams find the lines of their text one at a time. They find just the lines that were
written, however each of them was ended, so that a run on the text is the run on a script of the lines.
-/

namespace Primer

/-! ## Written lines -/

/-- How a line is ended: by a line feed, or by a return and a line feed. -/
inductive LineEnd where
  | feed
  | returnFeed
deriving DecidableEq

def LineEnd.text : LineEnd → String
  | feed => "\n"
  | returnFeed => "\r\n"

/-- The text can be told from the end of its line: there is no line feed in it and no return at its
end. -/
structure IsLine (text : String) : Prop where
  noFeed : '\n' ∉ text.toList
  noReturn : text.toList.getLast? ≠ some '\r'

instance (text : String) : Decidable (IsLine text) :=
  decidable_of_iff ('\n' ∉ text.toList ∧ text.toList.getLast? ≠ some '\r')
    ⟨fun h => ⟨h.1, h.2⟩, fun h => ⟨h.1, h.2⟩⟩

/-- The text of ended lines, with an open one behind them that may be empty. -/
def writtenText : List (String × LineEnd) → String → String
  | [], last => last
  | (line, ending) :: rows, last => line ++ ending.text ++ writtenText rows last

/-- The lines of the text. An open line counts if there is anything in it. -/
def writtenLines (rows : List (String × LineEnd)) (last : String) : List String :=
  rows.map (·.1) ++ if last = "" then [] else [last]

section
variable {rows : List (String × LineEnd)} {last : String}

theorem dropReturn_line {line : List Char} (h : line.getLast? ≠ some '\r') :
    dropReturn line = line := by
  unfold dropReturn
  split
  · next hlast => exact absurd hlast h
  · rfl

theorem dropReturn_return (line : List Char) : dropReturn (line ++ ['\r']) = line := by
  simp [dropReturn]

/-- Neither end of a line leaves a trace in it. -/
theorem linesOf_row {line : String} (h : IsLine line) (ending : LineEnd) (rest : String) :
    linesOf (line ++ ending.text ++ rest).toList = line :: linesOf rest.toList := by
  rw [String.toList_append, String.toList_append]
  cases ending with
  | feed =>
    have hfeed : LineEnd.feed.text.toList = ['\n'] := rfl
    rw [hfeed, List.append_assoc, List.singleton_append, linesOf_ended h.noFeed,
      dropReturn_line h.noReturn, String.ofList_toList]
  | returnFeed =>
    have hfeed : LineEnd.returnFeed.text.toList = ['\r', '\n'] := rfl
    have hnone : '\n' ∉ line.toList ++ ['\r'] := by
      simpa using h.noFeed
    rw [hfeed, ← List.singleton_append (x := '\r'), ← List.append_assoc, List.append_assoc,
      List.singleton_append, linesOf_ended hnone, dropReturn_return, String.ofList_toList]

theorem linesOf_writtenText (hrows : ∀ row ∈ rows, IsLine row.1) (hlast : '\n' ∉ last.toList) :
    linesOf (writtenText rows last).toList = writtenLines rows last := by
  induction rows with
  | nil =>
    rw [writtenText, linesOf_open hlast, String.ofList_toList]
    simp [writtenLines]
  | cons row rows ih =>
    obtain ⟨hrow, hrest⟩ := List.forall_mem_cons.mp hrows
    rw [writtenText, linesOf_row hrow, ih hrest]
    rfl

end

/-! ## Reads one after another -/

namespace Console

/-- The console after some reads. -/
def afterReads (c : Console) : Nat → Console
  | 0 => c
  | k + 1 => (c.afterReads k).readLine.2

theorem afterReads_unread (c : Console) (k : Nat) : (c.afterReads k).unread = c.unread.drop k := by
  induction k with
  | zero => rfl
  | succ k ih => rw [afterReads, readLine_unread, ih, List.tail_drop]

/-- Reads find the lines in order and nothing after the last one. -/
theorem readLine_afterReads (c : Console) (k : Nat) :
    (c.afterReads k).readLine.1 = c.unread[k]? := by
  rw [readLine_line, afterReads_unread, List.head?_drop]

/-- The standard streams and a script of their lines are alike. -/
theorem onInput_alike {P W Q : Prop} (text : String) :
    Alike P W Q (onInput text) (scripted (linesOf text.toList)) :=
  ⟨rfl, fun _ => ⟨rfl, rfl⟩, fun _ => ⟨rfl, rfl⟩, fun _ => rfl⟩

end Console

/-! ## Runs -/

namespace Program

open Outcome

/-- Written lines are read as they are, and a run on the text of them is the run on a script of them. -/
theorem lines_read (rows : List (String × LineEnd)) (last : String)
    (hrows : ∀ row ∈ rows, IsLine row.1) (hlast : '\n' ∉ last.toList) :
    (∀ k, ((Console.onInput (writtenText rows last)).afterReads k).readLine.1 =
      (writtenLines rows last)[k]?) ∧
    ∀ (p : Program) (settings : Settings) (limit : Nat),
      SameRun settings settings (p.run settings limit (.onInput (writtenText rows last)))
        (p.run settings limit (.scripted (writtenLines rows last))) ∧
      SameRun settings settings (p.executed settings limit (.onInput (writtenText rows last)))
        (p.executed settings limit (.scripted (writtenLines rows last))) := by
  have hlines := linesOf_writtenText hrows hlast
  refine ⟨fun k => ?_, fun p settings limit => ?_⟩
  · rw [Console.readLine_afterReads, ← hlines]
    rfl
  · have h : Console.Parallel settings settings _ _ := Console.alike_parallel id id id
    rw [← hlines]
    exact ⟨(run_sameEnd h (Console.onInput_alike _) limit p).sameRun,
      (executed_sameEnd h (Console.onInput_alike _) limit p).sameRun⟩

/-- A text is read and shown, and another one is read. -/
def echoFirst : Program where
  stmts := [.action none (.declare "SENTENCE" "x" none), .action none (.input "x"),
    .action none (.display (some (.named "x")) true), .action none (.input "x")]

/-- A return in a line stays, and so does one at the end of an open line. -/
theorem echoFirst_lines_read :
    let rows : List (String × LineEnd) := [("a\rb", .returnFeed), ("", .feed)]
    let typed := echoFirst.run ⟨false, true⟩ 1 (.onInput "a\rb\r\n\nz\r")
    let scripted := echoFirst.run ⟨false, true⟩ 1 (.scripted ["a\rb", "", "z\r"])
    (writtenText rows "z\r" = "a\rb\r\n\nz\r" ∧
      writtenLines rows "z\r" = ["a\rb", "", "z\r"]) ∧
    (∀ row ∈ rows, IsLine row.1) ∧ '\n' ∉ "z\r".toList ∧
    (Console.onInput "a\rb\r\n\nz\r").readLine.1 = some "a\rb" ∧
    SameRun ⟨false, true⟩ ⟨false, true⟩ typed scripted ∧
    typed.2.console.output = "a\rb\n" ∧ scripted.2.console.unread = ["z\r"] := by
  intro rows typed scripted
  have htext : writtenText rows "z\r" = "a\rb\r\n\nz\r" := by decide +kernel
  have hwritten : writtenLines rows "z\r" = ["a\rb", "", "z\r"] := by decide +kernel
  have hrows : ∀ row ∈ rows, IsLine row.1 := by decide +kernel
  have hlast : '\n' ∉ "z\r".toList := by decide +kernel
  have h := lines_read rows "z\r" hrows hlast
  rw [htext, hwritten] at h
  exact ⟨⟨htext, hwritten⟩, hrows, hlast, h.1 0, (h.2 echoFirst ⟨false, true⟩ 1).1,
    by decide +kernel, by decide +kernel⟩

end Program

end Primer
