import Primer.Proofs.Retention

/-!
# The levels of scopes

A live scope has a level, counted from the outside, and the scope at a level has a type for each of
its names. A look-up finds the name at the innermost level that has it. A check adds names at the
level around it only, and lets those that stand keep their types.
-/

namespace Primer

open ScopeTree (start)

/-! ## Types by level -/

namespace ScopeTree

variable {t t' : ScopeTree} {n : String} {ty : Ty} {l : Nat}

/-- The number of scopes around the innermost one. -/
def level (t : ScopeTree) : Nat := t.outer.length

/-- The type that the scope of a level, counted from the outside, has for a name. -/
def typeAt (t : ScopeTree) (level : Nat) (name : String) : Option Ty :=
  t.live.reverse[level]?.bind fun s => (s.find? name).map (·.ty)

theorem typeAt_level_le (h : t.typeAt l n = some ty) : l ≤ t.level := by
  obtain ⟨s, hs, -⟩ := Option.bind_eq_some_iff.mp h
  obtain ⟨hlt, -⟩ := List.getElem?_eq_some_iff.mp hs
  simp only [live, List.length_reverse, List.length_cons] at hlt
  exact Nat.le_of_lt_succ hlt

theorem typeAt_shape (t : ScopeTree) (l : Nat) (n : String) :
    t.typeAt l n = (t.live.map Scope.shape).reverse[l]?.bind fun s => s.2.lookup n := by
  rw [typeAt, ← List.map_reverse, List.getElem?_map, Option.bind_map]
  congr 1
  funext s
  exact (s.lookup_entries n).symm

theorem typeAt_current (t : ScopeTree) (n : String) :
    t.typeAt t.level n = (t.current.find? n).map (·.ty) := by
  simp [typeAt, live, level]

theorem typeAt_outer (h : l < t.level) :
    t.typeAt l n = t.outer.reverse[l]?.bind fun s => (s.find? n).map (·.ty) := by
  have hlt : l < t.outer.reverse.length := by simpa [level] using h
  rw [typeAt, live, List.reverse_cons, List.getElem?_append_left hlt]

theorem typeAt_none (h : t.level < l) : t.typeAt l n = none := by
  cases hty : t.typeAt l n with
  | none => rfl
  | some ty => exact absurd (typeAt_level_le hty) (Nat.not_le.mpr h)

theorem typeAt_start (l : Nat) (n : String) : start.typeAt l n = none := by
  cases l with
  | zero => rfl
  | succ l => exact typeAt_none l.succ_pos

theorem typeAt_enter (t : ScopeTree) (kind : ScopeKind) (l : Nat) (n : String) :
    (t.enter kind).typeAt l n = t.typeAt l n := by
  rcases Nat.lt_or_ge l (t.enter kind).level with h | h
  · rw [typeAt_outer h]
    rfl
  · have htl : t.level < l := h
    rw [typeAt_none htl]
    rcases Nat.eq_or_lt_of_le h with rfl | h
    · exact typeAt_current (t.enter kind) n
    · exact typeAt_none h

theorem typeAt_exit (t : ScopeTree) (l : Nat) (n : String) :
    t.exit.typeAt l n = if l ≤ t.exit.level then t.typeAt l n else none := by
  have hnone : ¬l ≤ t.exit.level → t.exit.typeAt l n = none :=
    fun h => typeAt_none (Nat.not_le.mp h)
  split
  · next h =>
    clear hnone
    unfold exit at h ⊢
    split
    · rfl
    · next s rest houter =>
      simp only [houter] at h
      have hlt : l < t.level := by
        rw [level, houter, List.length_cons]
        exact Nat.lt_succ_of_le h
      rw [typeAt_outer hlt, houter]
      rfl
  · next h => exact hnone h

theorem Extends.typeAt_eq (h : Extends [] t t') (l : Nat) (n : String) :
    t'.typeAt l n = t.typeAt l n := by
  obtain ⟨new, hnew, hlive⟩ := h.live
  obtain rfl := List.eq_nil_iff_forall_not_mem.mpr fun e he => nomatch hnew e he
  rw [typeAt_shape, hlive, typeAt_shape]
  rfl

theorem typeAt_markSet (t : ScopeTree) (name : String) (l : Nat) (n : String) :
    (t.markSet name).typeAt l n = t.typeAt l n :=
  (markSet_extends t name).typeAt_eq l n

theorem Extends.level_eq {added : List (String × Ty)} (h : Extends added t t') :
    t'.level = t.level := by
  simpa [level] using congrArg List.length h.outer

theorem level_declare (t : ScopeTree) (name : String) (ty : Ty) (initialized : Bool) :
    (t.declare name ty initialized).level = t.level :=
  (declare_extends t name ty initialized).level_eq

theorem level_markSet (t : ScopeTree) (name : String) : (t.markSet name).level = t.level :=
  (markSet_extends t name).level_eq

/-- An accepted declaration adds its type to the innermost scope, and a rejected one nothing. -/
theorem typeAt_declare (t : ScopeTree) (name : String) (ty : Ty) (initialized : Bool) (l : Nat)
    (n : String) : (t.declare name ty initialized).typeAt l n =
      if n = name ∧ l = t.level ∧ t.isDeclaredHere name = false then some ty else t.typeAt l n := by
  have hlevel := level_declare t name ty initialized
  cases hhere : t.isDeclaredHere name with
  | true => simp [declare, hhere]
  | false =>
    rw [declare, hhere] at hlevel ⊢
    simp only [Bool.false_eq_true, if_false, and_true] at hlevel ⊢
    rcases Nat.lt_trichotomy l t.level with h | rfl | h
    · have hne : ¬(n = name ∧ l = t.level) := fun hl => Nat.ne_of_lt h hl.2
      rw [if_neg hne, typeAt_outer h, typeAt_outer (hlevel.symm ▸ h)]
    · have hcurrent := typeAt_current { t with
        current := t.current.insert name ⟨ty, initialized⟩
        registry := name :: t.registry } n
      rw [hlevel] at hcurrent
      rw [hcurrent, Scope.find?_insert, typeAt_current]
      by_cases hn : n = name <;> simp [hn]
    · have hne : ¬(n = name ∧ l = t.level) := fun hl => Nat.ne_of_gt h hl.2
      rw [if_neg hne, typeAt_none h, typeAt_none (hlevel.symm ▸ h)]

/-! ## Look-ups -/

/-- The first item with a value is the last such item of the reversed list. -/
theorem findSome?_reverse {α β : Type} (f : α → Option β) (b : β) (xs : List α) :
    xs.findSome? f = some b ↔ ∃ i : Nat, xs.reverse[i]?.bind f = some b ∧
      ∀ b' (j : Nat), xs.reverse[j]?.bind f = some b' → j ≤ i := by
  have hlt {xs : List α} {b' : β} {j : Nat} (h : xs[j]?.bind f = some b') : j < xs.length := by
    obtain ⟨x, hx, -⟩ := Option.bind_eq_some_iff.mp h
    exact (List.getElem?_eq_some_iff.mp hx).1
  induction xs with
  | nil => simp
  | cons x xs ih =>
    have hlast : (x :: xs).reverse[xs.length]?.bind f = f x := by simp
    rw [List.findSome?_cons]
    cases hx : f x with
    | some b₀ =>
      rw [hx] at hlast
      constructor
      · rintro ⟨⟩
        refine ⟨xs.length, hlast, fun b' j hj => ?_⟩
        have := hlt hj
        simp only [List.length_reverse, List.length_cons] at this
        omega
      · rintro ⟨i, hi, hmax⟩
        have hle := hmax b₀ xs.length hlast
        have := hlt hi
        simp only [List.length_reverse, List.length_cons] at this
        obtain rfl : i = xs.length := by omega
        exact hlast.symm.trans hi
    | none =>
      have hrest (j : Nat) : (x :: xs).reverse[j]?.bind f = xs.reverse[j]?.bind f := by
        rw [List.reverse_cons, List.getElem?_append]
        split
        · rfl
        · next h =>
          rw [List.getElem?_eq_none (Nat.not_lt.mp h)]
          cases j - xs.reverse.length <;> simp [hx]
      simp only [hrest]
      exact ih

/-- The scope at the level has the type for the name, and no scope further inside has the name. -/
def Resolves (t : ScopeTree) (name : String) (level : Nat) (ty : Ty) : Prop :=
  t.typeAt level name = some ty ∧ ∀ ty' level', t.typeAt level' name = some ty' → level' ≤ level

theorem lookup?_resolves (t : ScopeTree) : t.lookup? n = some ty ↔ ∃ level, t.Resolves n level ty := by
  rw [lookup?, find?, List.map_findSome?]
  exact findSome?_reverse _ ty t.live

theorem isDeclared_of_typeAt (h : t.typeAt l n = some ty) : t.isDeclared n = true := by
  obtain ⟨s, hs, hty⟩ := Option.bind_eq_some_iff.mp h
  obtain ⟨d, hd, -⟩ := Option.map_eq_some_iff.mp hty
  have hlive : s ∈ t.live := List.mem_reverse.mp (List.mem_of_getElem? hs)
  rw [isDeclared, find?, List.findSome?_isSome_iff]
  exact ⟨s, hlive, by rw [hd, Option.isSome_some]⟩

theorem isDeclaredHere_typeAt (t : ScopeTree) (n : String) :
    t.isDeclaredHere n = (t.typeAt t.level n).isSome := by
  rw [typeAt_current, Option.isSome_map]
  rfl

/-! ## Scopes that hold what others do -/

/-- The first scopes hold whatever the second ones do. -/
structure Covers (t t' : ScopeTree) : Prop where
  declared : ∀ e ∈ t'.declared, e ∈ t.declared
  typeAt : ∀ {l n ty}, t'.typeAt l n = some ty → t.typeAt l n = some ty

theorem covers_enter (t : ScopeTree) (kind : ScopeKind) : t.Covers (t.enter kind) :=
  ⟨fun _ he => declared_enter ▸ he, fun h => typeAt_enter t kind _ _ ▸ h⟩

theorem enter_covers (t : ScopeTree) (kind : ScopeKind) : (t.enter kind).Covers t :=
  ⟨fun _ he => declared_enter.symm ▸ he, fun h => (typeAt_enter t kind _ _).symm ▸ h⟩

theorem covers_exit (t : ScopeTree) : t.Covers t.exit := by
  refine ⟨fun _ he => declared_exit he, fun hty => ?_⟩
  have hle := typeAt_level_le hty
  rwa [typeAt_exit, if_pos hle] at hty

theorem Extends.covers (h : Extends [] t t') : t.Covers t' :=
  ⟨fun _ he => (h.mem he).resolve_left nofun, fun hty => h.typeAt_eq _ _ ▸ hty⟩

theorem Extends.covered (h : Extends [] t t') : t'.Covers t :=
  ⟨fun _ he => h.declared he, fun hty => (h.typeAt_eq _ _).symm ▸ hty⟩

/-- The names that an extension adds are at the innermost level. -/
theorem Extends.typeAt {added : List (String × Ty)} (h : Extends added t t')
    (hty : t'.typeAt l n = some ty) : t.typeAt l n = some ty ∨ l = t.level ∧ (n, ty) ∈ added := by
  obtain ⟨new, hnew, hlive⟩ := h.live
  rw [typeAt_shape, hlive, List.reverse_cons] at hty
  rw [typeAt_shape, ScopeTree.live, List.map_cons, List.reverse_cons]
  have hlength : (t.outer.map Scope.shape).reverse.length = t.level := by simp [level]
  rcases Nat.lt_trichotomy l t.level with hl | rfl | hl
  · rw [List.getElem?_append_left (hlength ▸ hl)] at hty ⊢
    exact .inl hty
  · rw [← hlength, List.getElem?_concat_length] at hty ⊢
    rw [Option.bind_some, List.lookup_append] at hty
    rcases Option.or_eq_some_iff.mp hty with hmem | ⟨-, hold⟩
    · obtain ⟨l₁, l₂, hsplit, -⟩ := List.lookup_eq_some_iff.mp hmem
      exact .inr ⟨rfl, hnew _ (by simp [hsplit])⟩
    · exact .inl hold
  · have hnone : (t.outer.map Scope.shape).reverse.length < l := hlength ▸ hl
    rw [List.getElem?_eq_none (by simpa [Nat.succ_le_iff] using hnone)] at hty
    cases hty

end ScopeTree

end Primer
