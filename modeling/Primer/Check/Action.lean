import Primer.Check.Expr
import Primer.Identifier

/-!
# Checking actions

The check of an action writes types on its expressions, lists its problems and says what the scopes
hold afterwards. A name is declared, or counts as initialized, only if nothing is wrong with the
action.
-/

namespace Primer

/-- What a check makes of an action: the action with its types, its problems, and the scopes
after it. -/
structure CheckedAction where
  result : Action
  problems : List Problem
  scopes : ScopeTree

namespace CheckedAction

/-- An action that leaves the scopes as they are. -/
def unchanged (scopes : ScopeTree) (a : Action) (problems : List Problem) : CheckedAction :=
  ⟨a, problems, scopes⟩

/-- An action that changes the scopes if nothing is wrong with it. -/
def ifClean (scopes : ScopeTree) (a : Action) (problems : List Problem)
    (change : ScopeTree → ScopeTree) : CheckedAction :=
  ⟨a, problems, if problems.isEmpty then change scopes else scopes⟩

end CheckedAction

/-- A problem that is told only if there was none before it and the type in question is known. -/
def judge (before : List Problem) (ty : Ty) (found : List Problem) : List Problem :=
  if before.isEmpty && !ty.isUnknown then before ++ found else before

/-! ## Variables -/

/-- What is wrong with declaring a variable of a name. -/
def variableNameProblems (scopes : ScopeTree) (name : String) : List Problem :=
  (if Identifier.isValid name then [] else [.invalidName name])
    ++ (if scopes.isDeclared name || scopes.isRegistered name then [.duplicateVariable name]
        else [])

def checkDeclare (scopes : ScopeTree) (tyName name : String) (init : Option Expr) :
    CheckedAction :=
  match Primitive.ofName? tyName with
  | none => .unchanged scopes (.declare tyName name init) [.invalidType tyName]
  | some p =>
    let declared := Ty.scalar p
    let named := variableNameProblems scopes name
    let change := fun t : ScopeTree => t.declare name declared init.isSome
    match init with
    | none => .ifClean scopes (.declare tyName name none) named change
    | some e =>
      let c := e.check scopes none
      let problems := judge (named ++ c.problems) c.ty
        (if declared.accepts c.ty then [] else [.initializerType declared c.ty name])
      .ifClean scopes (.declare tyName name (some c.result)) problems change

/-- What is wrong with assigning a value of a type to a variable. -/
def assignProblems (target : Ty) (name : String) (op : AssignOp) (source : Ty) : List Problem :=
  match op with
  | .plain => if target.accepts source then [] else [.assignedType target source name]
  | .compound _ =>
    if target ≠ .number then [.compoundTarget op name target]
    else if source ≠ .number then [.compoundSource op source]
    else []

def checkAssign (scopes : ScopeTree) (name : String) (op : AssignOp) (value : Expr) :
    CheckedAction :=
  match scopes.lookup? name with
  | none => .unchanged scopes (.assign name op value) [.undefinedVariable name]
  | some target =>
    let c := value.check scopes none
    let problems := judge c.problems c.ty (assignProblems target name op c.ty)
    .ifClean scopes (.assign name op c.result) problems (·.markSet name)

/-! ## Display and input -/

/-- What is wrong with a literal that is displayed as it is written. -/
def displayLiteralProblems (raw : String) : List Problem :=
  match raw.toList with
  | '\'' :: rest =>
    if rest.getLast? ≠ some '\'' then [.openDisplaySingle raw]
    else if rest.length ≠ 2 then [.longDisplayLetter raw]
    else []
  | '"' :: rest => if rest.getLast? ≠ some '"' then [.openDisplayDouble raw] else []
  | _ => [.badLiteral .invalid raw]

def DisplayItem.check (scopes : ScopeTree) (form : DisplayForm) :
    DisplayItem → DisplayItem × List Problem
  | .expr e =>
    let c := e.check scopes none
    (.expr c.result, c.problems)
  | .named name =>
    (.named name,
      match scopes.find? name with
      | none => [.undefinedItem form name]
      | some d => if d.initialized then [] else [.uninitializedVariable name])
  | .literal raw => (.literal raw, displayLiteralProblems raw)

/-- What is wrong with reading input into a variable. -/
def inputProblems (scopes : ScopeTree) (name : String) : List Problem :=
  match scopes.lookup? name with
  | none => [.undefinedInput name]
  | some ty => if ty.isArray then [.inputArray name] else []

/-! ## Arrays -/

/-- What is wrong with declaring an array of a name. -/
def arrayNameProblems (scopes : ScopeTree) (name : String) : List Problem :=
  (if scopes.isDeclaredHere name then [.duplicateArray name] else [])
    ++ (if Identifier.isValid name then [] else [.invalidArrayName name])

/-- What is wrong with starting an array off with a value of a type. -/
def arrayInitProblems (elem : Primitive) (value : Ty) : List Problem :=
  match value.element? with
  | none => [.initializerNotArray value]
  | some found => if found = elem then [] else [.initializerElement elem found]

def checkDeclareArray (scopes : ScopeTree) (elemName name : String) (init : Option Expr) :
    CheckedAction :=
  match Primitive.ofName? elemName with
  | none => .unchanged scopes (.declareArray elemName name init) [.invalidArrayType elemName]
  | some elem =>
    let named := arrayNameProblems scopes name
    let change := fun t : ScopeTree => t.declare name (.array elem) init.isSome
    match init with
    | none => .ifClean scopes (.declareArray elemName name none) named change
    | some e =>
      let c := e.check scopes (some elem)
      let problems := judge (named ++ c.problems) c.ty (arrayInitProblems elem c.ty)
      .ifClean scopes (.declareArray elemName name (some c.result)) problems change

/-- What is wrong with assigning a value of a type to a whole array. -/
def arrayAssignProblems (target source : Ty) : List Problem :=
  if !source.isArray then [.assignedNotArray]
  else if source ≠ target then [.assignedArrayType target source]
  else []

def checkAssignArray (scopes : ScopeTree) (name : String) (value : Expr) : CheckedAction :=
  match scopes.lookup? name with
  | none => .unchanged scopes (.assignArray name value) [.undefinedArray name]
  | some target =>
    match target.element? with
    | none => .unchanged scopes (.assignArray name value) [.notArray name]
    | some elem =>
      let c := value.check scopes (some elem)
      let problems := judge c.problems c.ty (arrayAssignProblems target c.ty)
      .ifClean scopes (.assignArray name c.result) problems (·.markSet name)

/-- What is wrong with assigning a value of a type to an element. Addition joins texts in an array
of sentences, whatever the value is. -/
def elementProblems (elem : Primitive) (op : AssignOp) (source : Ty) : List Problem :=
  match op with
  | .plain => if (Ty.scalar elem).accepts source then [] else [.elementType source elem]
  | .compound .add =>
    match elem with
    | .sentence => []
    | .number => if source = .number then [] else [.elementAddition source]
    | .letter | .logic => [.elementAdditionTarget elem]
  | .compound _ =>
    if elem ≠ .number then [.elementArithmeticTarget op]
    else if source ≠ .number then [.elementArithmetic op source]
    else []

/-- Checks a use of an array with an index and a value; the last argument judges the type of the
value. -/
def checkElement (scopes : ScopeTree) (name : String) (idx value : Expr)
    (build : Expr → Expr → Action) (found : Primitive → Ty → List Problem) : CheckedAction :=
  match scopes.useArray name with
  | (none, problems) => .unchanged scopes (build idx value) problems
  | (some elem, used) =>
    let i := idx.check scopes none
    let v := value.check scopes none
    let before := used ++ i.problems ++ indexProblems i.ty ++ v.problems
    .unchanged scopes (build i.result v.result) (judge before v.ty (found elem v.ty))

def pushProblems (elem : Primitive) (source : Ty) : List Problem :=
  if (Ty.scalar elem).accepts source then [] else [.pushedType source elem]

/-- What is wrong with setting an element to a value of a type. -/
def setProblems (elem : Primitive) (source : Ty) : List Problem :=
  if (Ty.scalar elem).accepts source then [] else [.setType source elem]

def checkPush (scopes : ScopeTree) (name : String) (value : Expr) : CheckedAction :=
  match scopes.useArray name with
  | (none, problems) => .unchanged scopes (.push name value) problems
  | (some elem, used) =>
    let v := value.check scopes none
    .unchanged scopes (.push name v.result)
      (judge (used ++ v.problems) v.ty (pushProblems elem v.ty))

def checkInputElement (scopes : ScopeTree) (name : String) (idx : Expr) : CheckedAction :=
  match scopes.useArray name with
  | (none, problems) => .unchanged scopes (.inputElement name idx) problems
  | (some _, used) =>
    let i := idx.check scopes none
    .unchanged scopes (.inputElement name i.result) (used ++ i.problems ++ indexProblems i.ty)

/-! ## Actions -/

def Action.check (scopes : ScopeTree) : Action → CheckedAction
  | .declare ty name init => checkDeclare scopes ty name init
  | .assign name op value => checkAssign scopes name op value
  | .display none newline => .unchanged scopes (.display none newline) [.emptyDisplay .single]
  | .display (some item) newline =>
    let (item, problems) := item.check scopes .single
    .unchanged scopes (.display (some item) newline) problems
  | .displayAll items newline =>
    let checked := items.map (·.check scopes .multi)
    .unchanged scopes (.displayAll (checked.map (·.1)) newline)
      ((if items.isEmpty then [.emptyDisplay .multi] else []) ++ checked.flatMap (·.2))
  | .input name =>
    .ifClean scopes (.input name) (inputProblems scopes name) (·.markSet name)
  | .declareArray elem name init => checkDeclareArray scopes elem name init
  | .assignArray name value => checkAssignArray scopes name value
  | .assignElement name idx op value =>
    checkElement scopes name idx value (fun i v => .assignElement name i op v)
      (fun elem ty => elementProblems elem op ty)
  | .inputElement name idx => checkInputElement scopes name idx
  | .push name value => checkPush scopes name value
  | .set name idx value => checkElement scopes name idx value (.set name) setProblems
  | .evaluate e =>
    let c := e.check scopes none
    .unchanged scopes (.evaluate c.result) c.problems

end Primer
