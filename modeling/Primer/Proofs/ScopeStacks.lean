import Mathlib.Data.List.ModifyLast
import Mathlib.Logic.Function.Basic
import Primer.Proofs.Retention

/-!
# Scopes as a stack of tables

The live scopes can be kept as a stack, the global scope first, in which each scope has a table of the
types of its names and another one of their marks. A declaration writes to both tables of the last
scope, and a mark to one table of the last scope that has the name. The operations on this stack are
those on nested scopes.
-/

namespace Primer

/-! ## Operations -/

/-- The operations on nested scopes. -/
inductive ScopeOp where
  | enter (kind : ScopeKind)
  | exit
  | declare (name : String) (ty : Ty) (initialized : Bool)
  | mark (name : String)

namespace ScopeTree

def step (t : ScopeTree) : ScopeOp → ScopeTree
  | .enter kind => t.enter kind
  | .exit => t.exit
  | .declare name ty initialized => t.declare name ty initialized
  | .mark name => t.markSet name

/-- The scopes after operations, performed in order. -/
def run (t : ScopeTree) (ops : List ScopeOp) : ScopeTree := ops.foldl step t

theorem run_append (t : ScopeTree) (ops ops' : List ScopeOp) :
    t.run (ops ++ ops') = (t.run ops).run ops' := List.foldl_append

end ScopeTree

/-! ## A scope in two tables -/

structure ScopeTables where
  kind : ScopeKind
  types : String → Option Ty
  initialized : String → Option Bool

namespace ScopeTables

def empty (kind : ScopeKind) : ScopeTables := ⟨kind, fun _ => none, fun _ => none⟩

def declares (s : ScopeTables) (name : String) : Bool := (s.types name).isSome

def insert (s : ScopeTables) (name : String) (ty : Ty) (initialized : Bool) : ScopeTables :=
  { s with
    types := Function.update s.types name (some ty)
    initialized := Function.update s.initialized name (some initialized) }

def markSet (s : ScopeTables) (name : String) : ScopeTables :=
  { s with initialized := Function.update s.initialized name (some true) }

/-- Marks the name in the first of the scopes that has it. -/
def markFirst (name : String) : List ScopeTables → List ScopeTables
  | [] => []
  | s :: rest => if s.declares name then s.markSet name :: rest else s :: markFirst name rest

end ScopeTables

namespace Scope

def tables (s : Scope) : ScopeTables where
  kind := s.kind
  types n := (s.find? n).map (·.ty)
  initialized n := (s.find? n).map (·.initialized)

theorem tables_empty (kind : ScopeKind) : (empty kind).tables = .empty kind := rfl

theorem tables_declares (s : Scope) (n : String) : s.tables.declares n = s.declares n := by
  rw [ScopeTables.declares, tables, Option.isSome_map, declares]

theorem tables_insert (s : Scope) (n : String) (ty : Ty) (initialized : Bool) :
    (s.insert n ⟨ty, initialized⟩).tables = s.tables.insert n ty initialized := by
  simp only [tables, ScopeTables.insert, ScopeTables.mk.injEq]
  refine ⟨rfl, ?_, ?_⟩
  all_goals
    funext m
    rw [find?_insert, Function.update_apply]
    by_cases hm : m = n <;> simp [hm]

/-- The table of types stays, and the other one has a mark more if the name is there. -/
theorem tables_markSet {s : Scope} {n : String} (h : s.declares n = true) :
    (s.markSet n).tables = s.tables.markSet n := by
  obtain ⟨d, hd⟩ := Option.isSome_iff_exists.mp h
  simp only [tables, ScopeTables.markSet, ScopeTables.mk.injEq]
  refine ⟨rfl, ?_, ?_⟩
  · funext m
    rw [find?_markSet, Option.map_map]
    congr 1
    funext d
    simp only [Function.comp]
    split <;> rfl
  · funext m
    rw [find?_markSet, Function.update_apply]
    by_cases hm : m = n
    · simp [hm, hd]
    · simp [hm]

/-- A name that is in one of the tables is in the other one. -/
theorem tables_keys (s : Scope) (n : String) :
    (s.tables.types n).isSome = (s.tables.initialized n).isSome := by
  simp only [tables, Option.isSome_map]

end Scope

/-! ## The stack -/

structure ScopeStack where
  /-- The live scopes, from the outside in. -/
  scopes : List ScopeTables
  /-- The names declared so far, also in scopes that were left. -/
  registry : List String

namespace ScopeStack

def start : ScopeStack := ⟨[.empty .global], []⟩

def enter (s : ScopeStack) (kind : ScopeKind) : ScopeStack :=
  { s with scopes := s.scopes ++ [.empty kind] }

def exit (s : ScopeStack) : ScopeStack :=
  if 1 < s.scopes.length then { s with scopes := s.scopes.dropLast } else s

def isDeclaredHere (s : ScopeStack) (name : String) : Bool :=
  s.scopes.getLast?.any (·.declares name)

def declare (s : ScopeStack) (name : String) (ty : Ty) (initialized : Bool) : ScopeStack :=
  if s.isDeclaredHere name then s
  else {
    scopes := s.scopes.modifyLast (·.insert name ty initialized)
    registry := name :: s.registry }

def markSet (s : ScopeStack) (name : String) : ScopeStack :=
  { s with scopes := (ScopeTables.markFirst name s.scopes.reverse).reverse }

/-- The innermost scope that has the name. -/
def owner? (s : ScopeStack) (name : String) : Option ScopeTables :=
  s.scopes.reverse.find? (·.declares name)

def lookup? (s : ScopeStack) (name : String) : Option Ty := (s.owner? name).bind (·.types name)

def isInitialized (s : ScopeStack) (name : String) : Bool :=
  ((s.owner? name).bind (·.initialized name)).getD false

def step (s : ScopeStack) : ScopeOp → ScopeStack
  | .enter kind => s.enter kind
  | .exit => s.exit
  | .declare name ty initialized => s.declare name ty initialized
  | .mark name => s.markSet name

def run (s : ScopeStack) (ops : List ScopeOp) : ScopeStack := ops.foldl step s

end ScopeStack

/-! ## The stack of nested scopes -/

namespace ScopeTree

def stack (t : ScopeTree) : ScopeStack := ⟨(t.live.map Scope.tables).reverse, t.registry⟩

theorem stack_scopes (t : ScopeTree) :
    t.stack.scopes = (t.outer.map Scope.tables).reverse ++ [t.current.tables] := by
  rw [stack, live, List.map_cons, List.reverse_cons]

theorem stack_start : start.stack = .start := rfl

theorem stack_enter (t : ScopeTree) (kind : ScopeKind) :
    (t.enter kind).stack = t.stack.enter kind := by
  simp only [stack, ScopeStack.enter, live, enter, List.map_cons, List.reverse_cons,
    Scope.tables_empty]

theorem stack_exit (t : ScopeTree) : t.exit.stack = t.stack.exit := by
  rw [ScopeStack.exit, stack_scopes]
  unfold exit
  split
  · next houter => simp [houter]
  · next s rest houter => simp [houter, stack, live]

theorem stack_isDeclaredHere (t : ScopeTree) (n : String) :
    t.stack.isDeclaredHere n = t.isDeclaredHere n := by
  rw [ScopeStack.isDeclaredHere, stack_scopes, List.getLast?_concat, Option.any_some,
    Scope.tables_declares, isDeclaredHere]

theorem stack_declare (t : ScopeTree) (n : String) (ty : Ty) (initialized : Bool) :
    (t.declare n ty initialized).stack = t.stack.declare n ty initialized := by
  rw [ScopeStack.declare, stack_isDeclaredHere, declare]
  split
  · rfl
  · rw [stack_scopes, List.modifyLast_concat, ← Scope.tables_insert]
    simp only [stack, live, List.map_cons, List.reverse_cons]

theorem markFirst_tables (n : String) (scopes : List Scope) :
    ScopeTables.markFirst n (scopes.map Scope.tables) = (markSetIn n scopes).map Scope.tables := by
  induction scopes with
  | nil => rfl
  | cons s rest ih =>
    rw [List.map_cons, ScopeTables.markFirst, markSetIn, Scope.tables_declares]
    split
    · next h => rw [List.map_cons, Scope.tables_markSet h]
    · rw [List.map_cons, ih]

theorem live_markSet (t : ScopeTree) (n : String) : (t.markSet n).live = markSetIn n t.live := by
  unfold markSet isDeclaredHere
  rw [live, live, markSetIn]
  split <;> rfl

theorem stack_markSet (t : ScopeTree) (n : String) : (t.markSet n).stack = t.stack.markSet n := by
  rw [stack, ScopeStack.markSet, live_markSet, markSet_registry, stack, List.reverse_reverse,
    markFirst_tables]

theorem step_stack (t : ScopeTree) (op : ScopeOp) : (t.step op).stack = t.stack.step op := by
  cases op with
  | enter kind => exact t.stack_enter kind
  | exit => exact t.stack_exit
  | declare name ty initialized => exact t.stack_declare name ty initialized
  | mark name => exact t.stack_markSet name

theorem run_stack (t : ScopeTree) (ops : List ScopeOp) : (t.run ops).stack = t.stack.run ops := by
  induction ops generalizing t with
  | nil => rfl
  | cons op ops ih =>
    rw [run, List.foldl_cons, ScopeStack.run, List.foldl_cons, ← step_stack]
    exact ih (t.step op)

/-! Look-ups find the same in both. -/

theorem owner?_stack (t : ScopeTree) (n : String) :
    t.stack.owner? n = (t.live.find? (·.declares n)).map Scope.tables := by
  rw [ScopeStack.owner?, stack, List.reverse_reverse, List.find?_map]
  congr 2
  funext s
  exact Scope.tables_declares s n

theorem find?_owner (t : ScopeTree) (n : String) :
    t.find? n = (t.live.find? (·.declares n)).bind (·.find? n) := by
  rw [find?]
  induction t.live with
  | nil => rfl
  | cons s rest ih =>
    rw [List.findSome?_cons, List.find?_cons, Scope.declares]
    cases hs : s.find? n with
    | none => exact ih
    | some d => simp [hs]

theorem lookup?_stack (t : ScopeTree) (n : String) : t.stack.lookup? n = t.lookup? n := by
  rw [ScopeStack.lookup?, owner?_stack, lookup?, find?_owner]
  cases t.live.find? (·.declares n) <;> rfl

theorem isInitialized_stack (t : ScopeTree) (n : String) :
    t.stack.isInitialized n = t.isInitialized n := by
  rw [ScopeStack.isInitialized, owner?_stack, isInitialized, find?_owner]
  cases t.live.find? (·.declares n) with
  | none => rfl
  | some s =>
    simp only [Option.map_some, Option.bind_some, Scope.tables]
    cases s.find? n <;> rfl

end ScopeTree

end Primer
