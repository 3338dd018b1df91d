import Primer.Proofs.Ends

/-!
# What consoles do

A console has output, warnings and lines to read, and each use of it changes one of them at most. The
acts that use a console are a few: to write, to read a line behind a prompt, and to warn.
-/

namespace Primer

/-! ## Lines of a text -/

section
variable {line : List Char}

theorem linesAfter_ended (h : '\n' ∉ line) (read rest : List Char) :
    linesAfter read (line ++ '\n' :: rest) =
      dropReturn (read.reverse ++ line) :: linesAfter [] rest := by
  induction line generalizing read with
  | nil => simp [linesAfter]
  | cons c line ih =>
    rw [List.mem_cons, not_or] at h
    rw [List.cons_append, linesAfter, ih h.2, List.reverse_cons, List.append_assoc]
    · rfl
    · exact fun hc => h.1 hc.symm

theorem linesAfter_open (h : '\n' ∉ line) (read : List Char) :
    linesAfter read line = if read.reverse ++ line = [] then [] else [read.reverse ++ line] := by
  induction line generalizing read with
  | nil => simp [linesAfter]
  | cons c line ih =>
    rw [List.mem_cons, not_or] at h
    rw [linesAfter, ih h.2]
    · simp
    · exact fun hc => h.1 hc.symm

theorem splitLine_ended (h : '\n' ∉ line) (rest : List Char) :
    splitLine (line ++ '\n' :: rest) = (line ++ ['\n'], rest) := by
  have hall : ∀ c ∈ line, (c != '\n') = true := fun c hc => bne_iff_ne.mpr fun hn => h (hn ▸ hc)
  simp [splitLine, List.takeWhile_append_of_pos hall, List.dropWhile_append_of_pos hall]

theorem splitLine_open (h : '\n' ∉ line) : splitLine line = (line, []) := by
  have hall : ∀ c ∈ line, (c != '\n') = true := fun c hc => bne_iff_ne.mpr fun hn => h (hn ▸ hc)
  have hnone : line.dropWhile (· != '\n') = [] := by
    have hpos : (line ++ []).dropWhile (· != '\n') = [].dropWhile (· != '\n') :=
      List.dropWhile_append_of_pos hall
    rwa [List.append_nil] at hpos
  rw [splitLine, hnone]

theorem trimLine_ended (line : List Char) : trimLine (line ++ ['\n']) = dropReturn line := by
  simp [trimLine]

theorem trimLine_open (h : '\n' ∉ line) : trimLine line = line := by
  unfold trimLine
  split
  · next hlast => exact absurd (List.mem_of_getLast? hlast) h
  · rfl

theorem linesOf_ended (h : '\n' ∉ line) (rest : List Char) :
    linesOf (line ++ '\n' :: rest) = String.ofList (dropReturn line) :: linesOf rest := by
  rw [linesOf, linesAfter_ended h]
  rfl

theorem linesOf_open (h : '\n' ∉ line) :
    linesOf line = if line = [] then [] else [String.ofList line] := by
  rw [linesOf, linesAfter_open h, List.reverse_nil, List.nil_append]
  split <;> rfl

/-- The first of the lines is the one that is split off, and the others are those of the rest. -/
theorem linesOf_splitLine {text : List Char} (h : text ≠ []) : linesOf text =
    String.ofList (trimLine (splitLine text).1) :: linesOf (splitLine text).2 := by
  by_cases hfeed : '\n' ∈ text
  · obtain ⟨line, rest, rfl, hline⟩ := List.eq_append_cons_of_mem hfeed
    rw [linesOf_ended hline, splitLine_ended hline, trimLine_ended]
  · rw [linesOf_open hfeed, splitLine_open hfeed, trimLine_open hfeed, if_neg h]
    rfl

end

/-! ## Consoles -/

namespace Console

def isSilent : Console → Bool
  | recording _ => false
  | standard _ => false
  | silent => true

/-- The console behind a prompt, if prompts are written. -/
def prompted (settings : Settings) (text : String) (c : Console) : Console :=
  if settings.prompts then c.print text else c

/-- The console behind a warning, if warnings are reported. -/
def warned (settings : Settings) (message : String) (c : Console) : Console :=
  if settings.warnings then c.warn message else c

section
variable (c : Console) (s : String) (settings : Settings)

@[simp] theorem print_isSilent : (c.print s).isSilent = c.isSilent := by cases c <;> rfl

@[simp] theorem print_unread : (c.print s).unread = c.unread := by cases c <;> rfl

@[simp] theorem print_warnings : (c.print s).warnings = c.warnings := by cases c <;> rfl

theorem print_output : (c.print s).output = if c.isSilent then "" else c.output ++ s := by
  cases c <;> rfl

@[simp] theorem warn_isSilent : (c.warn s).isSilent = c.isSilent := by cases c <;> rfl

@[simp] theorem warn_unread : (c.warn s).unread = c.unread := by cases c <;> rfl

@[simp] theorem warn_output : (c.warn s).output = c.output := by cases c <;> rfl

theorem warn_warnings : (c.warn s).warnings = if c.isSilent then [] else c.warnings ++ [s] := by
  cases c <;> rfl

@[simp] theorem prompted_isSilent : (c.prompted settings s).isSilent = c.isSilent := by
  unfold prompted
  split <;> simp

@[simp] theorem prompted_unread : (c.prompted settings s).unread = c.unread := by
  unfold prompted
  split <;> simp

@[simp] theorem prompted_warnings : (c.prompted settings s).warnings = c.warnings := by
  unfold prompted
  split <;> simp

@[simp] theorem warned_isSilent : (c.warned settings s).isSilent = c.isSilent := by
  unfold warned
  split <;> simp

@[simp] theorem warned_unread : (c.warned settings s).unread = c.unread := by
  unfold warned
  split <;> simp

@[simp] theorem warned_output : (c.warned settings s).output = c.output := by
  unfold warned
  split <;> simp

@[simp] theorem readLine_isSilent : c.readLine.2.isSilent = c.isSilent := by
  rcases c with ⟨_, _, _ | _⟩ | ⟨_, _, _ | _⟩ | _ <;> rfl

@[simp] theorem readLine_output : c.readLine.2.output = c.output := by
  rcases c with ⟨_, _, _ | _⟩ | ⟨_, _, _ | _⟩ | _ <;> rfl

@[simp] theorem readLine_warnings : c.readLine.2.warnings = c.warnings := by
  rcases c with ⟨_, _, _ | _⟩ | ⟨_, _, _ | _⟩ | _ <;> rfl

theorem readLine_line : c.readLine.1 = c.unread.head? := by
  rcases c with ⟨_, _, _ | _⟩ | ⟨_, _, _ | ⟨c, text⟩⟩ | _
  case standard.cons =>
    exact congrArg List.head? (linesOf_splitLine (List.cons_ne_nil c text)).symm
  all_goals rfl

theorem readLine_unread : c.readLine.2.unread = c.unread.tail := by
  rcases c with ⟨_, _, _ | _⟩ | ⟨_, _, _ | ⟨c, text⟩⟩ | _
  case standard.cons =>
    exact congrArg List.tail (linesOf_splitLine (List.cons_ne_nil c text)).symm
  all_goals rfl

end

end Console

/-! ## Acts that use a console -/

namespace Act

theorem warn_eq (settings : Settings) (message : String) :
    warn settings message = write (·.warned settings message) := by
  unfold warn Console.warned
  split <;> rfl

/-- Reads a line, without a prompt. -/
def line : Act String := do
  let (line, console) := (← get).console.readLine
  modify fun m => { m with console }
  match line with
  | some line => return line
  | none => throw .inputClosed

theorem input_eq (settings : Settings) (prompt : String) : Act.input settings prompt =
    if settings.prompts then write (·.print prompt) >>= fun _ => line else line := by
  unfold Act.input
  cases settings.prompts with
  | true => rfl
  | false => rfl

theorem input_eq_prompted (settings : Settings) (prompt : String) :
    input settings prompt = write (·.prompted settings prompt) >>= fun _ => line := by
  rw [input_eq]
  unfold Console.prompted
  split <;> rfl

section
variable {m : Machine} {text : String} {console : Console}

theorem line_some (h : m.console.readLine = (some text, console)) :
    line m = .ok text { m with console } := by
  have hget : (get : Act Machine) m = .ok m m := rfl
  rw [line, Ends.run_bind_ok hget, h]
  rfl

theorem line_none (h : m.console.readLine = (none, console)) :
    line m = .error .inputClosed { m with console } := by
  have hget : (get : Act Machine) m = .ok m m := rfl
  rw [line, Ends.run_bind_ok hget, h]
  rfl

end

end Act

end Primer
