import Primer.Run.Action

/-!
# The command line

A command is named by the first argument. The options of a run may stand before or after its path.
-/

namespace Primer

/-! ## Options of a run -/

/-- The options of a run, as they are given. -/
structure RunOptions where
  path : Option String
  noPrompt : Bool
  quietWarnings : Bool
deriving DecidableEq

/-- What is wrong with the options of a run. -/
inductive OptionFault where
  | unknown (flag : String)
  | unexpected (arg : String)
deriving DecidableEq

def OptionFault.message : OptionFault → String
  | unknown flag => "unknown option '" ++ flag ++ "'"
  | unexpected arg => "unexpected argument '" ++ arg ++ "'"

namespace RunOptions

def none : RunOptions := ⟨.none, false, false⟩

/-- What the run may write. -/
def settings (o : RunOptions) : Settings := ⟨!o.noPrompt, !o.quietWarnings⟩

/-- Takes up one argument. -/
def add (o : RunOptions) (arg : String) : Except OptionFault RunOptions :=
  if arg = "--no-prompt" then .ok { o with noPrompt := true }
  else if arg = "--quiet-warnings" then .ok { o with quietWarnings := true }
  else if arg.toList.head? = some '-' then .error (.unknown arg)
  else if o.path.isNone then .ok { o with path := some arg }
  else .error (.unexpected arg)

/-- The options that the arguments give, up to the first one that is wrong. -/
def ofArgs (args : List String) : Except OptionFault RunOptions := args.foldlM add none

end RunOptions

/-! ## Commands -/

/-- What the command line asks for. -/
inductive Command where
  /-- Checks a program and executes it if nothing is wrong with it. -/
  | run (path : String) (settings : Settings)
  /-- Checks a program only. -/
  | check (path : String)
  | help
  | version
deriving DecidableEq

/-- Why a command line asks for nothing that can be done. -/
inductive Misuse where
  | noCommand
  | unknownCommand (name : String)
  | badOption (fault : OptionFault)
  | runWithoutPath
  | checkWithoutPath
deriving DecidableEq

namespace Command

/-- The run that the arguments behind its name ask for. -/
def ofRunArgs (args : List String) : Except Misuse Command :=
  match RunOptions.ofArgs args with
  | .error fault => .error (.badOption fault)
  | .ok o =>
    match o.path with
    | some path => .ok (run path o.settings)
    | none => .error .runWithoutPath

/-- The command that the arguments ask for. Arguments that a command has no use for are passed
over, except by a run. -/
def ofArgs : List String → Except Misuse Command
  | [] => .error .noCommand
  | name :: args =>
    match name with
    | "run" => ofRunArgs args
    | "check" =>
      match args with
      | path :: _ => .ok (check path)
      | [] => .error .checkWithoutPath
    | "help" | "--help" | "-h" => .ok help
    | "version" | "--version" | "-V" => .ok version
    | name => .error (.unknownCommand name)

end Command

end Primer
