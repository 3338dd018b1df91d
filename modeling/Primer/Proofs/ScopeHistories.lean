import Mathlib.Data.List.Basic
import Mathlib.Data.List.Induction
import Primer.Proofs.Annotations
import Primer.Proofs.ScopeLevels
import Primer.Proofs.ScopeStacks

/-!
# Histories of scopes

What the scopes hold after any operations, exits without an enter included, is known from the history
of the operations. A declaration stands if it was accepted and its scope was not left since, and a
look-up finds the innermost one that stands. A block that is entered and left leaves every look-up as
it was, and nothing but marks on the names around it.
-/

namespace Primer

open ScopeTree (start)

/-! ## Declarations by their level -/

namespace ScopeTree

variable {t t' : ScopeTree} {n : String} {ty : Ty} {l : Nat}

/-- What an operation makes of the declarations: those of a scope that is left are gone, and an
accepted declaration is new. -/
theorem step_typeAt (t : ScopeTree) (op : ScopeOp) : (t.step op).typeAt l n = some ty ↔
    t.typeAt l n = some ty ∧ l ≤ (t.step op).level ∨
      l = t.level ∧ ∃ initialized, op = .declare n ty initialized ∧ t.isDeclaredHere n = false := by
  cases op with
  | enter kind =>
    simp only [step, typeAt_enter, reduceCtorEq, false_and, exists_const, and_false, or_false]
    exact ⟨fun h => ⟨h, (typeAt_level_le h).trans (Nat.le_succ _)⟩, And.left⟩
  | exit =>
    simp only [step, typeAt_exit, reduceCtorEq, false_and, exists_const, and_false, or_false]
    split
    · next h => simp [h]
    · next h => simp [h]
  | mark name =>
    simp only [step, typeAt_markSet, level_markSet, reduceCtorEq, false_and, exists_const, and_false,
      or_false]
    exact ⟨fun h => ⟨h, typeAt_level_le h⟩, And.left⟩
  | declare name ty' initialized =>
    simp only [step, typeAt_declare, level_declare, ScopeOp.declare.injEq]
    split
    · next h =>
      obtain ⟨rfl, rfl, hhere⟩ := h
      -- the name is new in the innermost scope
      have hnone : t.typeAt t.level n = none := by
        rw [typeAt_current, Option.map_eq_none_iff]
        exact Option.isSome_eq_false_iff.mp hhere |> Option.isNone_iff_eq_none.mp
      simp [hnone, hhere, eq_comm]
    · next h =>
      constructor
      · exact fun hty => .inl ⟨hty, typeAt_level_le hty⟩
      · rintro (⟨hty, -⟩ | ⟨hl, _, ⟨rfl, rfl, -⟩, hhere⟩)
        · exact hty
        · exact absurd ⟨rfl, hl, hhere⟩ h

end ScopeTree

/-! ## Standing declarations -/

namespace ScopeOp

variable {ops : List ScopeOp} {op : ScopeOp} {n : String} {ty : Ty} {l : Nat}

/-- Among the operations there is an accepted declaration of the name whose scope, at the given level,
was not left since. -/
def Stands (ops : List ScopeOp) (name : String) (ty : Ty) (level : Nat) : Prop :=
  ∃ before initialized after, ops = before ++ declare name ty initialized :: after ∧
    (start.run before).isDeclaredHere name = false ∧ (start.run before).level = level ∧
    ∀ during, during <+: after →
      level ≤ (start.run (before ++ declare name ty initialized :: during)).level

theorem run_concat (t : ScopeTree) (ops : List ScopeOp) (op : ScopeOp) :
    t.run (ops ++ [op]) = (t.run ops).step op := t.run_append ops [op]

theorem not_stands_nil : ¬Stands [] n ty l := by
  rintro ⟨before, _, after, hops, -⟩
  simp at hops

theorem stands_concat : Stands (ops ++ [op]) n ty l ↔
    Stands ops n ty l ∧ l ≤ (start.run (ops ++ [op])).level ∨
      l = (start.run ops).level ∧
        ∃ initialized, op = declare n ty initialized ∧ (start.run ops).isDeclaredHere n = false := by
  constructor
  · rintro ⟨before, initialized, after, hops, hnew, hlevel, hstays⟩
    rcases List.eq_nil_or_concat' after with rfl | ⟨after, last, rfl⟩
    · obtain ⟨rfl, hop⟩ := List.append_inj' hops rfl
      exact .inr ⟨hlevel.symm, initialized, List.singleton_inj.mp hop, hnew⟩
    · have hlast := hstays (after ++ [last]) (List.prefix_refl _)
      rw [← hops] at hlast
      rw [← List.cons_append, ← List.append_assoc] at hops
      obtain ⟨rfl, -⟩ := List.append_inj' hops rfl
      exact .inl ⟨⟨before, initialized, after, rfl, hnew, hlevel,
        fun during hd => hstays during (hd.trans (List.prefix_append _ _))⟩, hlast⟩
  · rintro (⟨⟨before, initialized, after, rfl, hnew, hlevel, hstays⟩, hlast⟩ |
      ⟨hlevel, initialized, rfl, hnew⟩)
    · refine ⟨before, initialized, after ++ [op], by simp, hnew, hlevel, fun during hd => ?_⟩
      rcases List.prefix_concat_iff.mp hd with rfl | hd
      · simpa using hlast
      · exact hstays during hd
    · refine ⟨ops, initialized, [], rfl, hnew, hlevel.symm, fun during hd => ?_⟩
      rw [List.prefix_nil.mp hd, run_concat, ScopeTree.step, ScopeTree.level_declare, hlevel]

theorem typeAt_run (ops : List ScopeOp) :
    (start.run ops).typeAt l n = some ty ↔ Stands ops n ty l := by
  induction ops using List.reverseRecOn with
  | nil => simp [ScopeTree.run, ScopeTree.typeAt_start, not_stands_nil]
  | append_singleton ops op ih => rw [stands_concat, ← ih, run_concat, ScopeTree.step_typeAt]

/-- The declaration stands, and no other one of the name stands further inside. -/
def Innermost (ops : List ScopeOp) (name : String) (ty : Ty) : Prop :=
  ∃ level, Stands ops name ty level ∧
    ∀ ty' level', Stands ops name ty' level' → level' ≤ level

end ScopeOp

namespace ScopeTree

variable {n : String} {ty : Ty}

theorem lookup?_run (ops : List ScopeOp) :
    (start.run ops).lookup? n = some ty ↔ ScopeOp.Innermost ops n ty := by
  simp only [lookup?_resolves, Resolves, ScopeOp.typeAt_run, ScopeOp.Innermost]

/-! ## What every history keeps -/

theorem Extends.kinds {t t' : ScopeTree} {added : List (String × Ty)} (h : Extends added t t') :
    t'.live.map Scope.kind = t.live.map Scope.kind := by
  obtain ⟨new, -, hlive⟩ := h.live
  have hkinds := congrArg (List.map Prod.fst) hlive
  simp only [List.map_cons, List.map_map] at hkinds
  exact hkinds

theorem step_outermost (t : ScopeTree) (op : ScopeOp) :
    ((t.step op).live.map Scope.kind).getLast? = (t.live.map Scope.kind).getLast? := by
  cases op with
  | enter kind => simp [step, enter, live, List.getLast?_cons_cons]
  | exit =>
    rw [step, exit]
    split
    · rfl
    · next s rest houter => simp [live, houter, List.getLast?_cons_cons]
  | declare name ty initialized => rw [step, (declare_extends t name ty initialized).kinds]
  | mark name => rw [step, (markSet_extends t name).kinds]

theorem run_outermost (t : ScopeTree) (ops : List ScopeOp) :
    ((t.run ops).live.map Scope.kind).getLast? = (t.live.map Scope.kind).getLast? := by
  induction ops generalizing t with
  | nil => rfl
  | cons op ops ih => exact (ih (t.step op)).trans (t.step_outermost op)

/-- Scopes whose names are all in the registry. -/
def Registered (t : ScopeTree) : Prop := ∀ e ∈ t.declared, e.1 ∈ t.registry

theorem Registered.step {t : ScopeTree} (h : t.Registered) (op : ScopeOp) :
    (t.step op).Registered := by
  cases op with
  | enter kind =>
    intro e he
    exact h e (declared_enter ▸ he)
  | exit =>
    intro e he
    have hmem := h e (declared_exit he)
    rwa [← t.exit_registry] at hmem
  | declare name ty initialized =>
    intro e he
    have hextends := declare_extends t name ty initialized
    rw [ScopeTree.step] at he ⊢
    unfold declare at he hextends ⊢
    split
    · next hhere =>
      rw [if_pos hhere] at he
      exact h e he
    · next hhere =>
      rw [if_neg hhere] at he hextends
      rcases hextends.mem he with hnew | hold
      · rw [List.mem_singleton.mp hnew]
        exact List.mem_cons_self
      · exact List.mem_cons_of_mem _ (h e hold)
  | mark name =>
    intro e he
    rcases (markSet_extends t name).mem he with hnew | hold
    · cases hnew
    · have hmem := h e hold
      rwa [← t.markSet_registry name] at hmem

theorem Registered.run {t : ScopeTree} (h : t.Registered) (ops : List ScopeOp) :
    (t.run ops).Registered := by
  induction ops generalizing t with
  | nil => exact h
  | cons op ops ih => exact ih (h.step op)

theorem start_registered : start.Registered := nofun

end ScopeTree

/-! ## Blocks -/

/-- Operations in which every scope that is entered is left, and no other one. -/
inductive ScopeOp.Balanced : List ScopeOp → Prop where
  | nil : Balanced []
  | declare {name : String} {ty : Ty} {initialized : Bool} {rest : List ScopeOp} :
      Balanced rest → Balanced (.declare name ty initialized :: rest)
  | mark {name : String} {rest : List ScopeOp} : Balanced rest → Balanced (.mark name :: rest)
  | block {kind : ScopeKind} {body rest : List ScopeOp} :
      Balanced body → Balanced rest → Balanced (.enter kind :: (body ++ .exit :: rest))

namespace ScopeTree

/-- The same scopes with the same names and types, in which names may have got a value. -/
structure Restored (t t' : ScopeTree) : Prop where
  lookup : ∀ n, t'.lookup? n = t.lookup? n
  scopes : t'.live.map Scope.shape = t.live.map Scope.shape
  marks : t.Retains t'

variable {body : List ScopeOp}

theorem run_balanced (h : ScopeOp.Balanced body) (t : ScopeTree) :
    (∃ added, Extends added t (t.run body)) ∧ t.Retains (t.run body) := by
  induction h generalizing t with
  | nil => exact ⟨⟨[], .refl t⟩, .refl t⟩
  | @declare name ty initialized rest _ ih =>
    obtain ⟨⟨added, hextends⟩, hretains⟩ := ih (t.declare name ty initialized)
    have hfirst := declare_extends t name ty initialized
    exact ⟨⟨(name, ty) :: added, (hfirst.mono fun e he => by simp_all).trans
      (hextends.mono fun e he => List.mem_cons_of_mem _ he)⟩,
      (declare_retains t name ty initialized).trans hretains⟩
  | @mark name rest _ ih =>
    obtain ⟨⟨added, hextends⟩, hretains⟩ := ih (t.markSet name)
    exact ⟨⟨added, ((markSet_extends t name).mono nofun).trans hextends⟩,
      (markSet_retains t name).trans hretains⟩
  | @block kind body rest _ _ ihbody ihrest =>
    obtain ⟨⟨_, hbody⟩, hbodyRetains⟩ := ihbody (t.enter kind)
    obtain ⟨⟨added, hextends⟩, hretains⟩ := ihrest ((t.enter kind).run body).exit
    have hrun : t.run (.enter kind :: (body ++ .exit :: rest)) =
        ((t.enter kind).run body).exit.run rest := run_append (t.enter kind) body (.exit :: rest)
    rw [hrun]
    exact ⟨⟨added, (hbody.exit.mono nofun).trans hextends⟩, hbodyRetains.exit.trans hretains⟩

theorem run_block (h : ScopeOp.Balanced body) (t : ScopeTree) (kind : ScopeKind) :
    t.Restored (t.run (.enter kind :: (body ++ [.exit]))) := by
  obtain ⟨⟨_, hextends⟩, hretains⟩ := run_balanced h (t.enter kind)
  have hrun : t.run (.enter kind :: (body ++ [.exit])) = ((t.enter kind).run body).exit :=
    run_append (t.enter kind) body [.exit]
  rw [hrun]
  refine ⟨fun n => congrFun hextends.exit.lookup? n, ?_, hretains.exit⟩
  obtain ⟨new, hnew, hlive⟩ := hextends.exit.live
  obtain rfl := List.eq_nil_iff_forall_not_mem.mpr fun e he => nomatch hnew e he
  exact hlive

end ScopeTree

/-! ## Histories -/

/-- The scopes after operations, kept as a stack of tables. -/
structure ScopeOp.Representation (ops : List ScopeOp) (t : ScopeTree) (s : ScopeStack) : Prop where
  /-- Each look-up, and each question for a mark or for the registry, finds the same in both. -/
  lookup : ∀ n, s.lookup? n = t.lookup? n
  initialized : ∀ n, s.isInitialized n = t.isInitialized n
  registry : s.registry = t.registry
  depth : s.scopes.length = t.depth
  /-- There is a scope, and the outermost one is the global one. -/
  outermost : ∃ g inner, s.scopes = g :: inner ∧ g.kind = .global
  /-- The two tables of a scope have the same names. -/
  keys : ∀ tables ∈ s.scopes, ∀ n, (tables.types n).isSome = (tables.initialized n).isSome
  registered : ∀ tables ∈ s.scopes, ∀ n, tables.declares n = true → n ∈ s.registry
  innermost : ∀ n ty, t.lookup? n = some ty ↔ Innermost ops n ty

namespace ScopeTree

theorem run_representation (ops : List ScopeOp) :
    ScopeOp.Representation ops (start.run ops) (ScopeStack.start.run ops) := by
  have hstack : (start.run ops).stack = ScopeStack.start.run ops := by rw [run_stack, stack_start]
  have hmem {tables : ScopeTables} (h : tables ∈ (start.run ops).stack.scopes) :
      ∃ s ∈ (start.run ops).live, s.tables = tables :=
    List.mem_map.mp (List.mem_reverse.mp h)
  rw [← hstack]
  refine ⟨lookup?_stack _, isInitialized_stack _, rfl, by simp [stack, depth], ?_, ?_, ?_, ?_⟩
  · have hkinds := run_outermost start ops
    rw [List.getLast?_map] at hkinds
    obtain ⟨g, hg, hglobal⟩ := Option.map_eq_some_iff.mp hkinds
    obtain ⟨inner, hlive⟩ := List.getLast?_eq_some_iff.mp hg
    exact ⟨g.tables, (inner.map Scope.tables).reverse, by simp [stack, hlive], hglobal⟩
  · intro tables h n
    obtain ⟨s, -, rfl⟩ := hmem h
    exact s.tables_keys n
  · intro tables h n hn
    obtain ⟨s, hs, rfl⟩ := hmem h
    rw [Scope.tables_declares] at hn
    obtain ⟨d, hd⟩ := Option.isSome_iff_exists.mp hn
    exact start_registered.run ops (n, d.ty) (List.mem_flatMap.mpr ⟨s, hs, Scope.mem_entries hd⟩)
  · exact fun n ty => lookup?_run ops

/-- After any operations the scopes are a stack of tables in order, whose look-ups find the innermost
declarations that stand, and a block changes nothing but marks on them. -/
theorem history_represented (ops : List ScopeOp) :
    ScopeOp.Representation ops (start.run ops) (ScopeStack.start.run ops) ∧
    ∀ kind body, ScopeOp.Balanced body →
      (start.run ops).Restored ((start.run ops).run (.enter kind :: (body ++ [.exit]))) :=
  ⟨run_representation ops, fun kind _ h => run_block h (start.run ops) kind⟩

/-- A name of the program is declared again in a loop, after an exit that leaves nothing. -/
def shadowingOps : List ScopeOp :=
  [.declare "x" .number false, .exit, .enter .loop, .declare "x" (.scalar .sentence) false]

/-- A declaration that is gone with its block, and a mark that stays. -/
def markingBody : List ScopeOp := [.declare "y" .logic true, .mark "x"]

theorem shadowing_represented :
    let t := start.run shadowingOps
    let t' := t.run (.enter .ifBody :: (markingBody ++ [.exit]))
    ScopeOp.Balanced markingBody ∧ ScopeOp.Innermost shadowingOps "x" (.scalar .sentence) ∧
    t.Restored t' ∧ t'.lookup? "y" = none ∧
    t.isInitialized "x" = false ∧ t'.isInitialized "x" = true := by
  obtain ⟨hrepresented, hblock⟩ := history_represented shadowingOps
  have hbody : ScopeOp.Balanced markingBody := .declare (.mark .nil)
  have hrestored := hblock .ifBody markingBody hbody
  exact ⟨hbody, (hrepresented.innermost "x" _).mp (by decide), hrestored, hrestored.lookup "y",
    by decide, by decide⟩

end ScopeTree

end Primer
