import Primer.Proofs.Checking

/-!
# What a check does to the scopes

A statement adds names to the scope around it only if it is a declaration, or a loop with a
declaration before or after its rounds. It leaves the enclosing scopes as they are, marks apart, and
a body leaves nothing behind.
-/

namespace Primer

/-! ## Names of live scopes -/

/-- The names of a scope with their types. -/
def Scope.entries (s : Scope) : List (String × Ty) := s.names.map fun e => (e.1, e.2.ty)

/-- The kind of a scope and its names, without the marks of those that have a value. -/
def Scope.shape (s : Scope) : ScopeKind × List (String × Ty) := (s.kind, s.entries)

/-- The names of the live scopes with their types, from the inside out. -/
def ScopeTree.declared (t : ScopeTree) : List (String × Ty) := t.live.flatMap Scope.entries

namespace Scope

theorem mem_entries {s : Scope} {n : String} {d : Declaration} (h : s.find? n = some d) :
    (n, d.ty) ∈ s.entries := by
  obtain ⟨l₁, l₂, hl, _⟩ := List.lookup_eq_some_iff.mp h
  simp [entries, hl]

theorem lookup_entries (s : Scope) (n : String) : s.entries.lookup n = (s.find? n).map (·.ty) := by
  rw [entries, find?]
  induction s.names with
  | nil => rfl
  | cons e rest ih =>
    rw [List.map_cons, List.lookup_cons, List.lookup_cons, ih]
    cases n == e.1 <;> rfl

@[simp] theorem markSet_shape (s : Scope) (n : String) : (s.markSet n).shape = s.shape := by
  simp only [shape, entries, markSet, List.map_map]
  congr 2
  funext e
  simp only [Function.comp]
  split <;> rfl

end Scope

namespace ScopeTree

variable {t t' t'' : ScopeTree} {n : String} {ty : Ty} {kind : ScopeKind} {e : String × Ty}

theorem mem_declared (h : t.lookup? n = some ty) : (n, ty) ∈ t.declared := by
  obtain ⟨d, hd, rfl⟩ := Option.map_eq_some_iff.mp h
  obtain ⟨s, hs, hfind⟩ := List.exists_of_findSome?_eq_some hd
  exact List.mem_flatMap.mpr ⟨s, hs, Scope.mem_entries hfind⟩

@[simp] theorem declared_enter : (t.enter kind).declared = t.declared := by
  simp [declared, live, enter, Scope.empty, Scope.entries]

theorem declared_exit (h : e ∈ t.exit.declared) : e ∈ t.declared := by
  unfold exit at h
  split at h
  · exact h
  · next s rest houter =>
    have hlive : ({ t with current := s, outer := rest } : ScopeTree).live = t.outer := houter.symm
    rw [declared, hlive] at h
    rw [declared, live, List.flatMap_cons]
    exact List.mem_append_right _ h

theorem declared_eq : t.declared = (t.live.map Scope.shape).flatMap Prod.snd := by
  simp [declared, List.flatMap_map, Scope.shape]

theorem lookup?_declared (t : ScopeTree) (n : String) : t.lookup? n = t.declared.lookup n := by
  rw [lookup?, find?, declared]
  induction t.live with
  | nil => rfl
  | cons s rest ih =>
    rw [List.findSome?_cons, List.flatMap_cons, List.lookup_append, ← ih, Scope.lookup_entries]
    cases s.find? n <;> rfl

/-! ## Extensions -/

/-- The second scopes are the first with some of the added names in the innermost one. -/
structure Extends (added : List (String × Ty)) (t t' : ScopeTree) : Prop where
  current : ∃ new, (∀ e ∈ new, e ∈ added) ∧
    t'.current.shape = (t.current.kind, new ++ t.current.entries)
  outer : t'.outer.map Scope.shape = t.outer.map Scope.shape

namespace Extends

variable {added added' : List (String × Ty)}

theorem refl (t : ScopeTree) : Extends added t t := ⟨⟨[], by simp, rfl⟩, rfl⟩

theorem trans (h : Extends added t t') (h' : Extends added t' t'') : Extends added t t'' := by
  obtain ⟨new, hnew, hcur⟩ := h.current
  obtain ⟨new', hnew', hcur'⟩ := h'.current
  have hkind : t'.current.kind = t.current.kind := congrArg Prod.fst hcur
  have hentries : t'.current.entries = new ++ t.current.entries := congrArg Prod.snd hcur
  refine ⟨⟨new' ++ new, ?_, ?_⟩, h'.outer.trans h.outer⟩
  · intro e he
    rcases List.mem_append.mp he with he | he
    · exact hnew' e he
    · exact hnew e he
  · rw [hcur', hkind, hentries, List.append_assoc]

theorem mono (h : Extends added t t') (hs : ∀ e ∈ added, e ∈ added') : Extends added' t t' := by
  obtain ⟨new, hnew, hcur⟩ := h.current
  exact ⟨⟨new, fun e he => hs e (hnew e he), hcur⟩, h.outer⟩

theorem live (h : Extends added t t') : ∃ new, (∀ e ∈ new, e ∈ added) ∧
    t'.live.map Scope.shape =
      (t.current.kind, new ++ t.current.entries) :: t.outer.map Scope.shape := by
  obtain ⟨new, hnew, hcur⟩ := h.current
  exact ⟨new, hnew, by rw [ScopeTree.live, List.map_cons, hcur, h.outer]⟩

theorem mem (h : Extends added t t') (he : e ∈ t'.declared) : e ∈ added ∨ e ∈ t.declared := by
  obtain ⟨new, hnew, hlive⟩ := h.live
  rw [declared_eq, hlive] at he
  rw [declared_eq]
  simp only [List.flatMap_cons, List.append_assoc, List.mem_append] at he
  rcases he with he | he | he
  · exact .inl (hnew e he)
  · exact .inr (by simp [ScopeTree.live, Scope.shape, he])
  · exact .inr (by simp only [ScopeTree.live, List.map_cons, List.flatMap_cons, List.mem_append, he,
      or_true])

theorem declared (h : Extends added t t') (he : e ∈ t.declared) : e ∈ t'.declared := by
  obtain ⟨new, -, hlive⟩ := h.live
  rw [declared_eq, ScopeTree.live, List.map_cons, List.flatMap_cons, List.mem_append] at he
  rw [declared_eq, hlive, List.flatMap_cons, List.append_assoc, List.mem_append, List.mem_append]
  exact .inr he

theorem inLoop (h : Extends added t t') : t'.inLoop = t.inLoop := by
  obtain ⟨new, -, hlive⟩ := h.live
  have kinds : ∀ u : ScopeTree, u.inLoop = (u.live.map Scope.shape).any (·.1 == .loop) :=
    fun u => by simp [ScopeTree.inLoop, encloses, List.any_map, Function.comp_def, Scope.shape]
  rw [kinds, hlive, kinds]
  rfl

theorem lookup? (h : Extends [] t t') : t'.lookup? = t.lookup? := by
  obtain ⟨new, hnew, hlive⟩ := h.live
  obtain rfl := List.eq_nil_iff_forall_not_mem.mpr fun e he => nomatch hnew e he
  funext n
  rw [lookup?_declared, lookup?_declared, declared_eq, hlive, declared_eq]
  rfl

theorem exit (h : Extends added (t.enter kind) t') : Extends [] t t'.exit := by
  obtain ⟨-, outer⟩ := h
  obtain ⟨cur', out', reg'⟩ := t'
  cases out' with
  | nil => simp [enter] at outer
  | cons s rest =>
    simp only [enter, List.map_cons, List.cons.injEq] at outer
    exact ⟨⟨[], by simp, outer.1⟩, outer.2⟩

end Extends

theorem declare_extends (t : ScopeTree) (n : String) (ty : Ty) (set : Bool) :
    Extends [(n, ty)] t (t.declare n ty set) := by
  unfold declare
  split
  · exact .refl t
  · exact ⟨⟨[(n, ty)], by simp, rfl⟩, rfl⟩

theorem markSetIn_shape (n : String) (scopes : List Scope) :
    (markSetIn n scopes).map Scope.shape = scopes.map Scope.shape := by
  induction scopes with
  | nil => rfl
  | cons s rest ih =>
    unfold markSetIn
    split <;> simp [ih]

theorem markSet_extends (t : ScopeTree) (n : String) : Extends [] t (t.markSet n) := by
  unfold markSet
  split
  · exact ⟨⟨[], by simp, Scope.markSet_shape t.current n⟩, rfl⟩
  · exact ⟨⟨[], by simp, rfl⟩, markSetIn_shape n t.outer⟩

/-! No name is struck from the registry when it gets a value or when its scope is left. -/

@[simp] theorem markSet_registry (t : ScopeTree) (n : String) :
    (t.markSet n).registry = t.registry := by
  unfold markSet
  split <;> rfl

@[simp] theorem exit_registry (t : ScopeTree) : t.exit.registry = t.registry := by
  unfold exit
  split <;> rfl

end ScopeTree

open ScopeTree

/-! ## Actions -/

/-- The names that an action adds to its scope, with their types. -/
def Action.adds : Action → List (String × Ty)
  | .declare ty name _ => (Primitive.ofName? ty).toList.map fun p => (name, .scalar p)
  | .declareArray elem name _ => (Primitive.ofName? elem).toList.map fun p => (name, .array p)
  | _ => []

/-- What the check of an action leaves: the scopes as they are, with a mark more, or with a name that
the action adds. -/
inductive Action.Leaves (a : Action) (t : ScopeTree) : ScopeTree → Prop where
  | same : Leaves a t t
  | marked (n : String) : Leaves a t (t.markSet n)
  | declared {n : String} {ty : Ty} (set : Bool) (h : (n, ty) ∈ a.adds) :
    Leaves a t (t.declare n ty set)

theorem Action.Leaves.ifClean {a b : Action} {t : ScopeTree} {problems : List Problem}
    {change : ScopeTree → ScopeTree} (h : a.Leaves t (change t)) :
    a.Leaves t (CheckedAction.ifClean t b problems change).scopes := by
  unfold CheckedAction.ifClean
  split
  · exact h
  · exact .same

theorem Action.check_leaves (t : ScopeTree) (a : Action) : a.Leaves t (a.check t).scopes := by
  cases a with
  | declare ty name init =>
    simp only [check, checkDeclare]
    cases hp : Primitive.ofName? ty with
    | none => exact .same
    | some p => cases init <;> exact .ifClean (.declared _ (by simp [adds, hp]))
  | declareArray elem name init =>
    simp only [check, checkDeclareArray]
    cases hp : Primitive.ofName? elem with
    | none => exact .same
    | some p => cases init <;> exact .ifClean (.declared _ (by simp [adds, hp]))
  | assign name op value =>
    simp only [check, checkAssign]
    split
    · exact .same
    · exact .ifClean (.marked name)
  | assignArray name value =>
    simp only [check, checkAssignArray]
    repeat' split
    · exact .same
    · exact .same
    · exact .ifClean (.marked name)
  | input name => exact .ifClean (.marked name)
  | display item _ => cases item <;> exact .same
  | assignElement | set =>
    simp only [check, checkElement]
    split <;> exact .same
  | push =>
    simp only [check, checkPush]
    split <;> exact .same
  | inputElement =>
    simp only [check, checkInputElement]
    split <;> exact .same
  | displayAll | evaluate => exact .same

theorem Action.check_extends (t : ScopeTree) (a : Action) : Extends a.adds t (a.check t).scopes := by
  have h := a.check_leaves t
  generalize (a.check t).scopes = t' at h
  cases h with
  | same => exact .refl t
  | marked n => exact (markSet_extends t n).mono nofun
  | @declared n ty set h => exact (declare_extends t n ty set).mono (by simpa using h)

/-! ## Statements -/

namespace Stmt

open Check

mutual
/-- The names that a statement adds to the scope around it, with their types. -/
def adds : Stmt → List (String × Ty)
  | action _ a => a.adds
  | loop _ init _ update _ => addsOf init ++ addsOf update
  | _ => []

/-- The names that a statement adds that may be missing. -/
def addsOf : Option Stmt → List (String × Ty)
  | none => []
  | some s => adds s
end

theorem inScope_extends {α : Type} {x : Check α} {kind : ScopeKind} {t : ScopeTree}
    {added : List (String × Ty)} (h : Extends added (t.enter kind) (after x (t.enter kind))) :
    Extends [] t (after (inScope kind x) t) := h.exit

mutual
theorem check_extends : (s : Stmt) → (t : ScopeTree) → Extends s.adds t (after s.check t)
  | .action _ a, t => by
      simpa [check, adds] using a.check_extends t
  | .jump _ _, t => by
      simpa [check, adds] using .refl t
  | .branch _ _ body elseIfs otherwise, t => by
      simp only [check, adds, after_onLine, after_bind, after_condition, after_pure]
      have hbody := checkAll_extends body (t.enter .ifBody)
      exact (inScope_extends hbody).trans
        ((checkElseIfs_extends elseIfs _).trans (checkBody_extends .elseBody otherwise _))
  | .loop _ init _ update body, t => by
      simp only [check, adds, after_onLine, after_bind, after_condition, after_pure]
      have hbody := checkAll_extends body
        ((after (checkOption update) (after (checkOption init) t)).enter .loop)
      have hinit := (checkOption_extends init t).mono fun e he => List.mem_append_left (addsOf update) he
      have hupdate := (checkOption_extends update (after (checkOption init) t)).mono
        fun e he => List.mem_append_right (addsOf init) he
      exact hinit.trans (hupdate.trans ((inScope_extends hbody).mono (by simp)))
  | .doWhile _ body _, t => by
      simp only [check, adds, after_onLine, after_bind, after_condition, after_pure]
      have hbody := checkAll_extends body (t.enter .loop)
      exact inScope_extends hbody
  | .switch _ scrutinee cases fallback, t => by
      simp only [check_switch, adds, after_onLine, after_bind, after_expr, after_report]
      have hcases := checkCases_extends (output (Check.expr scrutinee) t).ty cases (t.enter .switch)
      refine inScope_extends (hcases.trans ?_)
      simp only [after_bind, after_pure]
      exact checkBody_extends .defaultBody fallback _

theorem checkOption_extends :
    (s : Option Stmt) → (t : ScopeTree) → Extends (addsOf s) t (after (checkOption s) t)
  | none, t => .refl t
  | some s, t => by
      simpa [checkOption, addsOf] using check_extends s t

theorem checkAll_extends : (body : List Stmt) → (t : ScopeTree) →
    Extends (body.flatMap adds) t (after (checkAll body) t)
  | [], t => .refl t
  | s :: rest, t => by
      simp only [checkAll, after_bind, after_pure, List.flatMap_cons]
      have hs := (check_extends s t).mono fun e he => List.mem_append_left (rest.flatMap adds) he
      have hrest := checkAll_extends rest (after s.check t)
      exact hs.trans (hrest.mono fun e he => List.mem_append_right s.adds he)

theorem checkElseIfs_extends : (arms : List (Expr × List Stmt)) → (t : ScopeTree) →
    Extends [] t (after (checkElseIfs arms) t)
  | [], t => .refl t
  | (_, body) :: rest, t => by
      simp only [checkElseIfs, after_bind, after_condition, after_pure]
      have hbody := checkAll_extends body (t.enter .elseIfBody)
      exact (inScope_extends hbody).trans (checkElseIfs_extends rest _)

theorem checkCases_extends (switched : Ty) : (cases : List (Expr × List Stmt)) →
    (t : ScopeTree) → Extends [] t (after (checkCases switched cases) t)
  | [], t => .refl t
  | (_, body) :: rest, t => by
      simp only [checkCases, after_bind, after_expr, after_report, after_pure]
      have hbody := checkAll_extends body (t.enter .caseBody)
      exact (inScope_extends hbody).trans (checkCases_extends switched rest _)

theorem checkBody_extends (kind : ScopeKind) : (body : Option (List Stmt)) → (t : ScopeTree) →
    Extends [] t (after (checkBody kind body) t)
  | none, t => .refl t
  | some body, t => by
      simp only [checkBody, after_bind, after_pure]
      have hbody := checkAll_extends body (t.enter kind)
      exact inScope_extends hbody
end

end Stmt

end Primer
