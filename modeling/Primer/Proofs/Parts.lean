import Primer.Proofs.Scoping

/-!
# The parts of a program

The statements of a program at any depth, with the actions among them, the statements that loops have
after their rounds, and the names that all of them declare.
-/

namespace Primer

namespace Stmt

mutual
/-- A statement and all statements inside it. -/
def everywhere : Stmt → List Stmt
  | action line a => [action line a]
  | jump line j => [jump line j]
  | branch line cond body elseIfs otherwise =>
    branch line cond body elseIfs otherwise ::
      (everywhereAll body ++ everywhereArms elseIfs ++ everywhereBody otherwise)
  | loop line init cond update body =>
    loop line init cond update body ::
      (everywhereOf init ++ everywhereOf update ++ everywhereAll body)
  | doWhile line body cond => doWhile line body cond :: everywhereAll body
  | switch line scrutinee cases fallback =>
    switch line scrutinee cases fallback :: (everywhereArms cases ++ everywhereBody fallback)

/-- The statements inside a statement that may be missing. -/
def everywhereOf : Option Stmt → List Stmt
  | none => []
  | some s => everywhere s

def everywhereAll : List Stmt → List Stmt
  | [] => []
  | s :: rest => everywhere s ++ everywhereAll rest

def everywhereArms : List (Expr × List Stmt) → List Stmt
  | [] => []
  | (_, body) :: rest => everywhereAll body ++ everywhereArms rest

def everywhereBody : Option (List Stmt) → List Stmt
  | none => []
  | some body => everywhereAll body
end

/-- The action that a statement is, if it is one. -/
def action? : Stmt → Option Action
  | action _ a => some a
  | _ => none

/-- The statement that a loop has after its rounds. -/
def update? : Stmt → Option Stmt
  | loop _ _ _ update _ => update
  | _ => none

/-- The condition of a loop and the statement that it has after its rounds, if it has one. -/
def turn? : Stmt → Option (Expr × Stmt)
  | loop _ _ cond (some update) _ => some (cond, update)
  | _ => none

variable {x y : Stmt} {e : String × Ty}

theorem mem_everywhere (s : Stmt) : s ∈ s.everywhere := by
  cases s <;> simp [everywhere]

/-! A part of a part is a part. -/

mutual
theorem everywhere_trans : (s : Stmt) → x ∈ s.everywhere → y ∈ x.everywhere → y ∈ s.everywhere
  | .action _ _, hx, hy => by
      rw [everywhere, List.mem_singleton] at hx
      exact hx ▸ hy
  | .jump _ _, hx, hy => by
      rw [everywhere, List.mem_singleton] at hx
      exact hx ▸ hy
  | .branch _ _ body elseIfs otherwise, hx, hy => by
      simp only [everywhere, List.mem_cons, List.mem_append] at hx ⊢
      rcases hx with rfl | (hx | hx) | hx
      · simpa only [everywhere, List.mem_cons, List.mem_append] using hy
      · exact .inr (.inl (.inl (everywhereAll_trans body hx hy)))
      · exact .inr (.inl (.inr (everywhereArms_trans elseIfs hx hy)))
      · exact .inr (.inr (everywhereBody_trans otherwise hx hy))
  | .loop _ init _ update body, hx, hy => by
      simp only [everywhere, List.mem_cons, List.mem_append] at hx ⊢
      rcases hx with rfl | (hx | hx) | hx
      · simpa only [everywhere, List.mem_cons, List.mem_append] using hy
      · exact .inr (.inl (.inl (everywhereOf_trans init hx hy)))
      · exact .inr (.inl (.inr (everywhereOf_trans update hx hy)))
      · exact .inr (.inr (everywhereAll_trans body hx hy))
  | .doWhile _ body _, hx, hy => by
      simp only [everywhere, List.mem_cons] at hx ⊢
      rcases hx with rfl | hx
      · simpa only [everywhere, List.mem_cons] using hy
      · exact .inr (everywhereAll_trans body hx hy)
  | .switch _ _ cases fallback, hx, hy => by
      simp only [everywhere, List.mem_cons, List.mem_append] at hx ⊢
      rcases hx with rfl | hx | hx
      · simpa only [everywhere, List.mem_cons, List.mem_append] using hy
      · exact .inr (.inl (everywhereArms_trans cases hx hy))
      · exact .inr (.inr (everywhereBody_trans fallback hx hy))

theorem everywhereOf_trans :
    (s : Option Stmt) → x ∈ everywhereOf s → y ∈ x.everywhere → y ∈ everywhereOf s
  | none, hx, _ => nomatch hx
  | some s, hx, hy => everywhere_trans s hx hy

theorem everywhereAll_trans :
    (body : List Stmt) → x ∈ everywhereAll body → y ∈ x.everywhere → y ∈ everywhereAll body
  | [], hx, _ => nomatch hx
  | s :: rest, hx, hy => by
      rw [everywhereAll, List.mem_append] at hx ⊢
      rcases hx with hx | hx
      · exact .inl (everywhere_trans s hx hy)
      · exact .inr (everywhereAll_trans rest hx hy)

theorem everywhereArms_trans : (arms : List (Expr × List Stmt)) → x ∈ everywhereArms arms →
    y ∈ x.everywhere → y ∈ everywhereArms arms
  | [], hx, _ => nomatch hx
  | (_, body) :: rest, hx, hy => by
      rw [everywhereArms, List.mem_append] at hx ⊢
      rcases hx with hx | hx
      · exact .inl (everywhereAll_trans body hx hy)
      · exact .inr (everywhereArms_trans rest hx hy)

theorem everywhereBody_trans :
    (body : Option (List Stmt)) → x ∈ everywhereBody body → y ∈ x.everywhere → y ∈ everywhereBody body
  | none, hx, _ => nomatch hx
  | some body, hx, hy => everywhereAll_trans body hx hy
end

/-! A name that a statement adds is one that an action in it adds. -/

mutual
theorem adds_everywhere : (s : Stmt) → e ∈ s.adds →
    ∃ x ∈ s.everywhere, ∃ a, x.action? = some a ∧ e ∈ a.adds
  | .action line a, h => ⟨action line a, mem_everywhere _, a, rfl, h⟩
  | .loop _ init _ update body, h => by
      rw [adds, List.mem_append] at h
      simp only [everywhere, List.mem_cons, List.mem_append]
      rcases h with h | h
      · obtain ⟨x, hx, hadds⟩ := addsOf_everywhere init h
        exact ⟨x, .inr (.inl (.inl hx)), hadds⟩
      · obtain ⟨x, hx, hadds⟩ := addsOf_everywhere update h
        exact ⟨x, .inr (.inl (.inr hx)), hadds⟩
  | .jump _ _, h | .branch _ _ _ _ _, h | .doWhile _ _ _, h | .switch _ _ _ _, h => nomatch h

theorem addsOf_everywhere : (s : Option Stmt) → e ∈ addsOf s →
    ∃ x ∈ everywhereOf s, ∃ a, x.action? = some a ∧ e ∈ a.adds
  | some s, h => adds_everywhere s h
end

end Stmt

/-- A type that a name is declared with is one of values. -/
theorem Action.adds_known {a : Action} {e : String × Ty} (h : e ∈ a.adds) : e.2 ≠ .unknown := by
  cases a with
  | declare | declareArray =>
    obtain ⟨p, -, rfl⟩ := List.mem_map.mp h
    exact nofun
  | _ => cases h

namespace Program

/-- The actions of a program, at any depth. -/
def actions (p : Program) : List Action := (Stmt.everywhereAll p.stmts).filterMap Stmt.action?

/-- The statements that the loops of a program have after their rounds, at any depth. -/
def updates (p : Program) : List Stmt := (Stmt.everywhereAll p.stmts).filterMap Stmt.update?

/-- The conditions of the loops of a program with the statements after their rounds, at any depth. -/
def turns (p : Program) : List (Expr × Stmt) := (Stmt.everywhereAll p.stmts).filterMap Stmt.turn?

/-- The names that a program declares with their types, as often as it declares them. -/
def declarations (p : Program) : List (String × Ty) := p.actions.flatMap Action.adds

variable {p : Program} {e : String × Ty} {a : Action} {u : Stmt}

theorem action_adds (ha : a ∈ p.actions) (he : e ∈ a.adds) : e ∈ p.declarations :=
  List.mem_flatMap.mpr ⟨a, ha, he⟩

theorem update_adds (hu : u ∈ p.updates) (he : e ∈ u.adds) : e ∈ p.declarations := by
  obtain ⟨l, hl, hlu⟩ := List.mem_filterMap.mp hu
  have hul : u ∈ l.everywhere := by
    cases l with
    | loop line init cond update body =>
      cases hlu
      simp [Stmt.everywhere, Stmt.everywhereOf, Stmt.mem_everywhere]
    | _ => cases hlu
  obtain ⟨x, hx, a, hxa, hea⟩ := u.adds_everywhere he
  have hall : x ∈ Stmt.everywhereAll p.stmts :=
    Stmt.everywhereAll_trans p.stmts (Stmt.everywhereAll_trans p.stmts hl hul) hx
  exact action_adds (List.mem_filterMap.mpr ⟨x, hall, hxa⟩) hea

theorem turn_update {turn : Expr × Stmt} (h : turn ∈ p.turns) : turn.2 ∈ p.updates := by
  obtain ⟨l, hl, hturn⟩ := List.mem_filterMap.mp h
  refine List.mem_filterMap.mpr ⟨l, hl, ?_⟩
  cases l with
  | loop line init cond update body =>
    cases update with
    | none => cases hturn
    | some u =>
      cases hturn
      rfl
  | _ => cases hturn

theorem declarations_known (he : e ∈ p.declarations) : e.2 ≠ .unknown := by
  obtain ⟨a, -, ha⟩ := List.mem_flatMap.mp he
  exact Action.adds_known ha

theorem lookup_known {t : ScopeTree} {n : String} {ty : Ty}
    (h : ∀ e ∈ t.declared, e ∈ p.declarations) (hn : t.lookup? n = some ty) : ty ≠ .unknown :=
  declarations_known (h (n, ty) (ScopeTree.mem_declared hn))

end Program

end Primer
