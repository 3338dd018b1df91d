import Primer.Ty

/-!
# Scopes

The names that are visible at one point of a check. Scopes nest; leaving one forgets its names,
while the names of the whole program stay registered. A declaration enters the innermost scope, and
a look-up finds the innermost declaration.
-/

namespace Primer

/-- The block that a scope belongs to. -/
inductive ScopeKind where
  | global
  | ifBody
  | elseIfBody
  | elseBody
  | loop
  | switch
  | caseBody
  | defaultBody
deriving DecidableEq

/-- What is known of a declared name. -/
structure Declaration where
  ty : Ty
  initialized : Bool
deriving DecidableEq

/-! ## A single scope -/

structure Scope where
  kind : ScopeKind
  names : List (String × Declaration)
deriving DecidableEq

namespace Scope

def empty (kind : ScopeKind) : Scope := ⟨kind, []⟩

def find? (s : Scope) (name : String) : Option Declaration := s.names.lookup name

def declares (s : Scope) (name : String) : Bool := (s.find? name).isSome

/-- Adds a name that the scope does not declare yet. -/
def insert (s : Scope) (name : String) (d : Declaration) : Scope :=
  { s with names := (name, d) :: s.names }

def markSet (s : Scope) (name : String) : Scope :=
  { s with names := s.names.map fun e =>
      if e.1 == name then (e.1, { e.2 with initialized := true }) else e }

end Scope

/-! ## Nested scopes -/

/-- The live scopes, the innermost apart, and every name declared so far. -/
structure ScopeTree where
  current : Scope
  /-- The enclosing scopes, from the inside out. -/
  outer : List Scope
  /-- The names declared anywhere so far, also in scopes that were left. -/
  registry : List String
deriving DecidableEq

namespace ScopeTree

/-- The global scope alone, without names. -/
def start : ScopeTree := ⟨.empty .global, [], []⟩

/-- The live scopes, from the inside out. -/
def live (t : ScopeTree) : List Scope := t.current :: t.outer

def depth (t : ScopeTree) : Nat := t.live.length

def kind (t : ScopeTree) : ScopeKind := t.current.kind

def enter (t : ScopeTree) (kind : ScopeKind) : ScopeTree :=
  { t with current := .empty kind, outer := t.current :: t.outer }

/-- Leaves the innermost scope; the global one is never left. -/
def exit (t : ScopeTree) : ScopeTree :=
  match t.outer with
  | [] => t
  | s :: rest => { t with current := s, outer := rest }

def find? (t : ScopeTree) (name : String) : Option Declaration :=
  t.live.findSome? (·.find? name)

def lookup? (t : ScopeTree) (name : String) : Option Ty := (t.find? name).map (·.ty)

def isDeclared (t : ScopeTree) (name : String) : Bool := (t.find? name).isSome

def isDeclaredHere (t : ScopeTree) (name : String) : Bool := t.current.declares name

/-- Whether the name was declared anywhere so far. -/
def isRegistered (t : ScopeTree) (name : String) : Bool := t.registry.contains name

/-- Whether the innermost declaration of the name has a value. -/
def isInitialized (t : ScopeTree) (name : String) : Bool :=
  match t.find? name with
  | some d => d.initialized
  | none => false

def encloses (t : ScopeTree) (kind : ScopeKind) : Bool := t.live.any (·.kind == kind)

/-- Whether control is in the body of a loop. -/
def inLoop (t : ScopeTree) : Bool := t.encloses .loop

/-- Whether control is in a switch. -/
def inSwitch (t : ScopeTree) : Bool := t.encloses .switch

/-- Declares a name in the innermost scope. A name that is declared there stays as it is. -/
def declare (t : ScopeTree) (name : String) (ty : Ty) (initialized : Bool) : ScopeTree :=
  if t.isDeclaredHere name then t
  else { t with
    current := t.current.insert name ⟨ty, initialized⟩
    registry := name :: t.registry }

/-- Marks the name as initialized in the first of the scopes that declares it. -/
def markSetIn (name : String) : List Scope → List Scope
  | [] => []
  | s :: rest =>
    if s.declares name then s.markSet name :: rest else s :: markSetIn name rest

/-- Marks the innermost declaration of a name as initialized. -/
def markSet (t : ScopeTree) (name : String) : ScopeTree :=
  if t.isDeclaredHere name then { t with current := t.current.markSet name }
  else { t with outer := markSetIn name t.outer }

end ScopeTree

end Primer
