import Primer.Run.Eval
import Primer.Console
import Primer.Branch

/-!
# Performing actions

An action changes the store and the console. Its operands are evaluated before anything is stored
or shown, so that an action that fails leaves no more than its operands did.
-/

namespace Primer

/-- What a run may write besides the output of the program. -/
structure Settings where
  /-- Whether a prompt is written before each input. -/
  prompts : Bool
  /-- Whether input that does not fit a variable is reported. -/
  warnings : Bool
deriving DecidableEq

def Settings.default : Settings := ⟨true, true⟩

structure Machine where
  store : Store
  frames : Frames
  console : Console

/-- A machine without names, before a console. -/
def Machine.start (console : Console) : Machine := ⟨.empty, [], console⟩

/-- A part of a run that may end in a fault. -/
abbrev Act := EStateM Fault Machine

namespace Act

/-- An evaluation, which sees the store alone. -/
def eval {α : Type} (e : Eval α) : Act α := fun m =>
  match e m.store with
  | .ok a s => .ok a { m with store := s }
  | .error fault s => .error fault { m with store := s }

/-- A conversion, which leaves the machine alone. -/
def lift {α : Type} : Except Fault α → Act α
  | .ok a => pure a
  | .error fault => throw fault

def read {α : Type} (look : Store → Except Fault α) : Act α := eval (.read look)

/-- Changes the store; a fault leaves it as it was. -/
def change (update : Store → Except Fault Store) : Act Unit := eval (.change update)

def write (f : Console → Console) : Act Unit := modify fun m => { m with console := f m.console }

/-- Reads a line behind a prompt. -/
def input (settings : Settings) (prompt : String) : Act String := do
  if settings.prompts then write (·.print prompt)
  let (line, console) := (← get).console.readLine
  modify fun m => { m with console }
  match line with
  | some line => return line
  | none => throw .inputClosed

/-- Reports input that does not fit. -/
def warn (settings : Settings) (message : String) : Act Unit := do
  if settings.warnings then write (·.warn message)

end Act

/-! ## Declarations and assignments -/

/-- The value as an array of the given element type. -/
def Value.toArray (elem : Primitive) : Value → Except Fault ArrayValue
  | .array a => a.retype elem
  | .scalar v => .error (.typeMismatch (Ty.array elem).text (Ty.scalar v.primitive).text)

/-- Declares a variable, with the default of its type if there is no initializer. -/
def performDeclare (tyName name : String) (init : Option Expr) : Act Unit :=
  match Primitive.ofName? tyName with
  | none => throw (.typeMismatch "NUMBER, LETTER, SENTENCE or LOGIC" tyName)
  | some p => do
    let v ← match init with
      | none => pure (Scalar.default p)
      | some e => do
        let v ← Act.eval e.eval
        Act.lift (v.coerce p)
    Act.change fun s => .ok (s.declare name (.scalar p) (.scalar v))

/-- What an assignment stores: the value, or what its operator makes of the variable and it. -/
def assignedValue (name : String) (op : AssignOp) (v : Value) : Act Value :=
  match op with
  | .plain => pure v
  | .compound op => do
    let current ← Act.read (·.get name)
    let a ← Act.lift current.toNumber
    let b ← Act.lift v.toNumber
    return .number (← Act.lift (op.apply a b))

def performAssign (name : String) (op : AssignOp) (value : Expr) : Act Unit := do
  let v ← Act.eval value.eval
  let v ← assignedValue name op v
  Act.change (·.assign name v)

/-- Declares an array, empty if there is no initializer. -/
def performDeclareArray (elemName name : String) (init : Option Expr) : Act Unit :=
  match Primitive.ofName? elemName with
  | none => throw (.typeMismatch "array element type" elemName)
  | some elem => do
    let a ← match init with
      | none => pure (ArrayValue.empty elem)
      | some e => do
        let v ← Act.eval e.eval
        Act.lift (v.toArray elem)
    Act.change fun s => .ok (s.declare name (.array elem) (.array a))

def performAssignArray (name : String) (value : Expr) : Act Unit := do
  let b ← Act.read (·.binding name)
  match b.ty.element? with
  | none => throw (.notAnArray name)
  | some elem => do
    let v ← Act.eval value.eval
    let a ← Act.lift (v.toArray elem)
    Act.change (·.put name (.array a))

/-- What an assignment to an element stores. Addition joins texts in an array of sentences. -/
def assignedElement (name : String) (i : Float) (op : AssignOp) (v : Value) : Act Value :=
  match op with
  | .plain => pure v
  | .compound op => do
    let a ← Act.read (·.array name)
    let current ← Act.lift (a.get i)
    if a.elem = .sentence ∧ op = .add then return .sentence (current.text ++ v.text)
    else do
      let x ← Act.lift current.toNumber
      let y ← Act.lift v.toNumber
      return .number (← Act.lift (op.apply x y))

def performAssignElement (name : String) (idx : Expr) (op : AssignOp) (value : Expr) :
    Act Unit := do
  let i ← Act.eval idx.evalNumber
  let v ← Act.eval value.eval
  let v ← assignedElement name i op v
  Act.eval (Store.modifyArray name (ArrayValue.set i v))

def performSet (name : String) (idx value : Expr) : Act Unit := do
  let i ← Act.eval idx.evalNumber
  let v ← Act.eval value.eval
  Act.eval (Store.modifyArray name (ArrayValue.set i v))

def performPush (name : String) (value : Expr) : Act Unit := do
  let v ← Act.eval value.eval
  Act.eval (Store.modifyArray name (ArrayValue.push v))

/-! ## Display -/

def DisplayItem.shown : DisplayItem → Act String
  | .expr e => do return (← Act.eval e.eval).text
  | .named name => do return (← Act.read (·.get name)).text
  | .literal raw => return Literal.unquote raw

def shownAll : List DisplayItem → Act (List String)
  | [] => return []
  | item :: rest => do
    let s ← item.shown
    return s :: (← shownAll rest)

/-- Shows items with single spaces between them. -/
def performDisplay (items : List DisplayItem) (newline : Bool) : Act Unit := do
  let texts ← shownAll items
  let text := " ".intercalate texts
  Act.write fun c => if newline then c.printLine text else c.print text

/-! ## Input -/

def singleChar? (line : String) : Option Char :=
  match line.toList with
  | [c] => some c
  | _ => none

/-- The warning about a line that is no numeral. -/
def numeralWanted (name : String) : String :=
  "Error: Numeric input required for NUMBER variable '" ++ name ++ "'."

/-- Reads input into a variable. The value that is stored decides what fits: a number wants a
numeral and a letter one character, and a line that does not fit is reported and dropped. Anything
else takes the line as a sentence. -/
def performInput (settings : Settings) (name : String) : Act Unit := do
  let current ← Act.read (·.get name)
  let line ← Act.input settings ("Enter value for " ++ name ++ ": ")
  match current with
  | .scalar (.number _) =>
    match Numeric.read? (Text.trim line) with
    | some n => Act.change (·.put name (.number n))
    | none => Act.warn settings (numeralWanted name)
  | .scalar (.letter _) =>
    match singleChar? line with
    | some c => Act.change (·.put name (.scalar (.letter c)))
    | none => Act.warn settings "LETTER input must be a single character."
  | _ => Act.change (·.put name (.sentence line))

/-- The value of a line for an array of the given element type. -/
def elementOfLine (elem : Primitive) (line : String) : Except Fault Scalar :=
  match elem with
  | .number =>
    match Numeric.read? (Text.trim line) with
    | some n => .ok (.number n)
    | none => .error .numericInputRequired
  | .letter =>
    match singleChar? line with
    | some c => .ok (.letter c)
    | none => .error .letterInputLength
  | .logic =>
    match Literal.truth? (Text.trim line) with
    | some b => .ok (.logic b)
    | none => .error (.badElement .logic (Text.trim line))
  | .sentence => .ok (.sentence line)

/-- Reads input into an element. The index is tried before anything is written or read. -/
def performInputElement (settings : Settings) (name : String) (idx : Expr) : Act Unit := do
  let i ← Act.eval idx.evalNumber
  let a ← Act.read (·.array name)
  let _ ← Act.lift (a.get i)
  let line ← Act.input settings
    ("Enter value for " ++ name ++ "[" ++ Numeric.plainText i ++ "]: ")
  let v ← Act.lift (elementOfLine a.elem line)
  Act.eval (Store.modifyArray name (ArrayValue.set i (.scalar v)))

/-! ## Actions -/

def Action.perform (settings : Settings) : Action → Act Unit
  | .declare ty name init => performDeclare ty name init
  | .assign name op value => performAssign name op value
  | .display item newline => performDisplay item.toList newline
  | .displayAll items newline => performDisplay items newline
  | .input name => performInput settings name
  | .declareArray elem name init => performDeclareArray elem name init
  | .assignArray name value => performAssignArray name value
  | .assignElement name idx op value => performAssignElement name idx op value
  | .inputElement name idx => performInputElement settings name idx
  | .push name value => performPush name value
  | .set name idx value => performSet name idx value
  | .evaluate e => do let _ ← Act.eval e.eval

end Primer
