import Primer.Proofs.Encoding

/-!
# What is read can be written

Whatever a program is read from, its own JSON value nests no deeper: a record takes one level as an
object and as an array, and a name may take one more where it is read than where it is written.
-/

namespace Primer

theorem mapM_some_forall {α β : Type} {f : α → Option β} {P : β → Prop} {l : List α} {bs : List β}
    (hf : ∀ a b, f a = some b → P b) (h : l.mapM f = some bs) : ∀ b ∈ bs, P b := by
  induction l generalizing bs with
  | nil =>
    cases h
    simp
  | cons a rest ih =>
    simp only [List.mapM_cons, Option.bind_eq_bind, Option.bind_eq_some_iff, Option.pure_def,
      Option.some.injEq] at h
    obtain ⟨b, hb, bs', hbs, rfl⟩ := h
    simp only [List.forall_mem_cons]
    exact ⟨hf a b hb, ih hbs⟩

theorem Json.option?_some {α : Type} {read : Json → Option α} {j : Json} {a : α}
    (h : j.option? read = some (some a)) : read j = some a := by
  cases j with
  | null => cases h
  | _ => simpa [Json.option?] using h

theorem Json.option?_fits {α : Type} {read : Json → Option α} {write : α → Json} {f : α → α}
    {d : Nat} {j : Json} {o : Option α} (h : j.option? read = some o)
    (hread : ∀ a, read j = some a → (write a).nesting ≤ d ∧ f a = a) :
    (ofOption write o).nesting ≤ d ∧ o.map f = o := by
  cases o with
  | none => exact ⟨Nat.zero_le d, rfl⟩
  | some a =>
    obtain ⟨ha, ha'⟩ := hread a (option?_some h)
    exact ⟨ha, by rw [Option.map_some, ha']⟩

/-! ## Expressions -/

namespace Expr

/-- An expression without types whose JSON value nests no deeper than the given depth. -/
structure Fits (d : Nat) (e : Expr) : Prop where
  nesting : e.toJson.nesting ≤ d
  bare : e.erase = e

theorem fits_all {d : Nat} {es : List Expr} (h : ∀ e ∈ es, e.Fits d) :
    Json.nestingAll (toJsonAll es) ≤ d ∧ eraseAll es = es := by
  induction es with
  | nil => exact ⟨Nat.zero_le d, rfl⟩
  | cons e rest ih =>
    simp only [List.forall_mem_cons] at h
    have hrest := ih h.2
    refine ⟨?_, by rw [eraseAll, h.1.bare, hrest.2]⟩
    simp only [toJsonAll, Json.nestingAll]
    have := h.1.nesting
    omega

theorem ofJson?_fits {d : Nat} {j : Json} {e : Expr} (h : ofJson? d j = some e) : e.Fits d := by
  induction d using Nat.strongRecOn generalizing j e with
  | ind d ih =>
    rw [ofJson?.eq_def] at h
    split at h
    · split at h
      -- a literal, a name, a length and the last element
      iterate 4
        · cases h
          exact ⟨by simp [toJson, Json.nesting, Json.nestingMembers], rfl⟩
      · next depth =>
        obtain ⟨es, hes, rfl⟩ := Option.map_eq_some_iff.mp h
        have hall := fits_all (mapM_some_forall (fun _ _ => ih depth (by omega)) hes)
        refine ⟨?_, by rw [erase, hall.2]⟩
        simp only [toJson, Json.nesting_variant, Json.nesting]
        omega
      · next depth =>
        split at h
        · simp only [Option.bind_eq_bind, Option.bind_eq_some_iff, Option.some.injEq] at h
          obtain ⟨op, -, left, hl, right, hr, rfl⟩ := h
          obtain ⟨hleft, hleft'⟩ := ih depth (by omega) hl
          obtain ⟨hright, hright'⟩ := ih depth (by omega) hr
          refine ⟨?_, by rw [erase, hleft', hright']⟩
          simp only [toJson, Json.nesting_variantOf, Json.nestingMembers, Json.nesting]
          omega
        · cases h
      · next depth =>
        split at h
        · simp only [Option.bind_eq_bind, Option.bind_eq_some_iff, Option.some.injEq] at h
          obtain ⟨op, -, operand, ho, rfl⟩ := h
          obtain ⟨hoperand, hoperand'⟩ := ih depth (by omega) ho
          refine ⟨?_, by rw [erase, hoperand']⟩
          simp only [toJson, Json.nesting_variantOf, Json.nestingMembers, Json.nesting]
          omega
        · cases h
      · next depth =>
        split at h
        · simp only [Option.bind_eq_bind, Option.bind_eq_some_iff, Option.some.injEq] at h
          obtain ⟨name, -, op, -, fixity, -, rfl⟩ := h
          refine ⟨?_, rfl⟩
          simp only [toJson, Json.nesting_variantOf, Json.nestingMembers, Json.nesting]
          omega
        · cases h
      · next depth =>
        split at h
        · simp only [Option.bind_eq_bind, Option.bind_eq_some_iff, Option.some.injEq] at h
          obtain ⟨elem, -, size, hs, rfl⟩ := h
          obtain ⟨hsize, hsize'⟩ := ih depth (by omega) hs
          refine ⟨?_, by rw [erase, hsize']⟩
          simp only [toJson, Json.nesting_variantOf, Json.nestingMembers, Json.nesting]
          omega
        · cases h
      · next depth =>
        split at h
        · simp only [Option.bind_eq_bind, Option.bind_eq_some_iff, Option.some.injEq] at h
          obtain ⟨name, -, idx, hi, rfl⟩ := h
          obtain ⟨hidx, hidx'⟩ := ih depth (by omega) hi
          refine ⟨?_, by rw [erase, hidx']⟩
          simp only [toJson, Json.nesting_variantOf, Json.nestingMembers, Json.nesting]
          omega
        · cases h
      · cases h
    · cases h

theorem option?_fits {d : Nat} {j : Json} {e : Option Expr} (h : j.option? (ofJson? d) = some e) :
    (Json.ofOption toJson e).nesting ≤ d ∧ e.map erase = e := by
  refine Json.option?_fits h fun e he => ?_
  obtain ⟨hnesting, hbare⟩ := ofJson?_fits he
  exact ⟨hnesting, hbare⟩

end Expr

/-! ## Actions -/

theorem DisplayItem.ofJson?_fits {d : Nat} {j : Json} {i : DisplayItem}
    (h : DisplayItem.ofJson? d j = some i) : i.toJson.nesting ≤ d ∧ i.erase = i := by
  rw [DisplayItem.ofJson?.eq_def] at h
  split at h
  · split at h
    · obtain ⟨e, he, rfl⟩ := Option.map_eq_some_iff.mp h
      obtain ⟨he, he'⟩ := Expr.ofJson?_fits he
      refine ⟨?_, by rw [erase, he']⟩
      simp only [toJson, Json.nesting_variant]
      omega
    · cases h
      exact ⟨by simp [toJson, Json.nesting, Json.nestingMembers], rfl⟩
    · cases h
      exact ⟨by simp [toJson, Json.nesting, Json.nestingMembers], rfl⟩
    · cases h
  · cases h

theorem DisplayItem.fits_all {d : Nat} {items : List DisplayItem}
    (h : ∀ i ∈ items, i.toJson.nesting ≤ d ∧ i.erase = i) :
    Json.nestingAll (items.map toJson) ≤ d ∧ items.map erase = items := by
  induction items with
  | nil => exact ⟨Nat.zero_le d, rfl⟩
  | cons i rest ih =>
    simp only [List.forall_mem_cons] at h
    obtain ⟨⟨hi, hi'⟩, hrest⟩ := h
    obtain ⟨hr, hr'⟩ := ih hrest
    refine ⟨?_, by rw [List.map_cons, hi', hr']⟩
    simp only [List.map_cons, Json.nestingAll]
    omega

theorem DisplayItem.list?_fits {d : Nat} {j : Json} {items : List DisplayItem}
    (h : j.list? DisplayItem.ofJson? d = some items) :
    Json.nestingAll (items.map toJson) + 1 ≤ d ∧ items.map erase = items := by
  unfold Json.list? at h
  split at h
  · obtain ⟨hitems, hitems'⟩ := fits_all (mapM_some_forall (fun _ _ => ofJson?_fits) h)
    exact ⟨by omega, hitems'⟩
  · cases h

theorem Action.ofRecord?_fits {d : Nat} {tag : String} {j : Json} {a : Action}
    (h : Action.ofRecord? d tag j = some a) : a.toJson.nesting ≤ d + 2 ∧ a.erase = a := by
  rw [ofRecord?.eq_def] at h
  split at h
  · split at h
    · simp only [Option.bind_eq_bind, Option.bind_eq_some_iff, Option.some.injEq] at h
      obtain ⟨ty, -, name, -, init, hi, rfl⟩ := h
      obtain ⟨hinit, hinit'⟩ := Expr.option?_fits hi
      refine ⟨?_, by rw [erase, hinit']⟩
      simp only [toJson, Json.nesting_variantOf, Json.nestingMembers, Json.nesting]
      omega
    · cases h
  · split at h
    · simp only [Option.bind_eq_bind, Option.bind_eq_some_iff, Option.some.injEq] at h
      obtain ⟨name, -, op, -, value, hv, rfl⟩ := h
      obtain ⟨hvalue, hvalue'⟩ := Expr.ofJson?_fits hv
      refine ⟨?_, by rw [erase, hvalue']⟩
      simp only [toJson, Json.nesting_variantOf, Json.nestingMembers, Json.nesting]
      omega
    · cases h
  · split at h
    · simp only [Option.bind_eq_bind, Option.bind_eq_some_iff, Option.some.injEq] at h
      obtain ⟨item, hi, newline, -, rfl⟩ := h
      obtain ⟨hitem, hitem'⟩ := Json.option?_fits hi fun _ => DisplayItem.ofJson?_fits
      refine ⟨?_, by rw [erase, hitem']⟩
      simp only [toJson, Json.nesting_variantOf, Json.nestingMembers, Json.nesting]
      omega
    · cases h
  · split at h
    · simp only [Option.bind_eq_bind, Option.bind_eq_some_iff, Option.some.injEq] at h
      obtain ⟨items, hi, newline, -, rfl⟩ := h
      obtain ⟨hitems, hitems'⟩ := DisplayItem.list?_fits hi
      refine ⟨?_, by rw [erase, hitems']⟩
      simp only [toJson, Json.nesting_variantOf, Json.nestingMembers, Json.nesting]
      omega
    · cases h
  · split at h
    · simp only [Option.bind_eq_bind, Option.bind_eq_some_iff, Option.some.injEq] at h
      obtain ⟨name, -, rfl⟩ := h
      refine ⟨?_, rfl⟩
      simp only [toJson, Json.nesting_variantOf, Json.nestingMembers, Json.nesting]
      omega
    · cases h
  · split at h
    · simp only [Option.bind_eq_bind, Option.bind_eq_some_iff, Option.some.injEq] at h
      obtain ⟨elem, -, name, -, init, hi, rfl⟩ := h
      obtain ⟨hinit, hinit'⟩ := Expr.option?_fits hi
      refine ⟨?_, by rw [erase, hinit']⟩
      simp only [toJson, Json.nesting_variantOf, Json.nestingMembers, Json.nesting]
      omega
    · cases h
  · split at h
    · simp only [Option.bind_eq_bind, Option.bind_eq_some_iff, Option.some.injEq] at h
      obtain ⟨name, -, value, hv, rfl⟩ := h
      obtain ⟨hvalue, hvalue'⟩ := Expr.ofJson?_fits hv
      refine ⟨?_, by rw [erase, hvalue']⟩
      simp only [toJson, Json.nesting_variantOf, Json.nestingMembers, Json.nesting]
      omega
    · cases h
  · split at h
    · simp only [Option.bind_eq_bind, Option.bind_eq_some_iff, Option.some.injEq] at h
      obtain ⟨name, -, idx, hi, op, -, value, hv, rfl⟩ := h
      obtain ⟨hidx, hidx'⟩ := Expr.ofJson?_fits hi
      obtain ⟨hvalue, hvalue'⟩ := Expr.ofJson?_fits hv
      refine ⟨?_, by rw [erase, hidx', hvalue']⟩
      simp only [toJson, Json.nesting_variantOf, Json.nestingMembers, Json.nesting]
      omega
    · cases h
  · split at h
    · simp only [Option.bind_eq_bind, Option.bind_eq_some_iff, Option.some.injEq] at h
      obtain ⟨name, -, idx, hi, rfl⟩ := h
      obtain ⟨hidx, hidx'⟩ := Expr.ofJson?_fits hi
      refine ⟨?_, by rw [erase, hidx']⟩
      simp only [toJson, Json.nesting_variantOf, Json.nestingMembers, Json.nesting]
      omega
    · cases h
  · split at h
    · simp only [Option.bind_eq_bind, Option.bind_eq_some_iff, Option.some.injEq] at h
      obtain ⟨name, -, value, hv, rfl⟩ := h
      obtain ⟨hvalue, hvalue'⟩ := Expr.ofJson?_fits hv
      refine ⟨?_, by rw [erase, hvalue']⟩
      simp only [toJson, Json.nesting_variantOf, Json.nestingMembers, Json.nesting]
      omega
    · cases h
  · split at h
    · simp only [Option.bind_eq_bind, Option.bind_eq_some_iff, Option.some.injEq] at h
      obtain ⟨name, -, idx, hi, value, hv, rfl⟩ := h
      obtain ⟨hidx, hidx'⟩ := Expr.ofJson?_fits hi
      obtain ⟨hvalue, hvalue'⟩ := Expr.ofJson?_fits hv
      refine ⟨?_, by rw [erase, hidx', hvalue']⟩
      simp only [toJson, Json.nesting_variantOf, Json.nestingMembers, Json.nesting]
      omega
    · cases h
  · cases h

theorem Action.ofContent?_fits {d : Nat} {tag : String} {j : Json} {a : Action}
    (h : Action.ofContent? d tag j = some a) : a.toJson.nesting ≤ d + 1 ∧ a.erase = a := by
  unfold ofContent? at h
  split at h
  · obtain ⟨e, he, rfl⟩ := Option.map_eq_some_iff.mp h
    obtain ⟨he, he'⟩ := Expr.ofJson?_fits he
    refine ⟨?_, by rw [erase, he']⟩
    simp only [toJson, Json.nesting_variant]
    omega
  · exact ofRecord?_fits h
  · cases h

/-! ## Statements -/

namespace Stmt

/-- A statement without types whose JSON value nests no deeper than the given depth. -/
structure Fits (d : Nat) (s : Stmt) : Prop where
  nesting : s.toJson.nesting ≤ d
  bare : s.erase = s

variable {d : Nat} {j : Json} {line : Option Line}

theorem fits_all {body : List Stmt} (h : ∀ s ∈ body, s.Fits d) :
    Json.nestingAll (toJsonAll body) ≤ d ∧ eraseAll body = body := by
  induction body with
  | nil => exact ⟨Nat.zero_le d, rfl⟩
  | cons s rest ih =>
    simp only [List.forall_mem_cons] at h
    obtain ⟨⟨hs, hs'⟩, hrest⟩ := h
    obtain ⟨hr, hr'⟩ := ih hrest
    refine ⟨?_, by rw [eraseAll, hs', hr']⟩
    simp only [toJsonAll, Json.nestingAll]
    omega

theorem fits_allArms {key : String} {arms : List (Expr × List Stmt)}
    (h : ∀ arm ∈ arms, Json.nestingAll (toJsonArms key [arm]) ≤ d ∧ eraseArms [arm] = [arm]) :
    Json.nestingAll (toJsonArms key arms) ≤ d ∧ eraseArms arms = arms := by
  induction arms with
  | nil => exact ⟨Nat.zero_le d, rfl⟩
  | cons arm rest ih =>
    simp only [List.forall_mem_cons] at h
    obtain ⟨⟨harm, harm'⟩, hrest⟩ := h
    obtain ⟨hr, hr'⟩ := ih hrest
    simp only [toJsonArms, eraseArms, Json.nestingAll, List.cons.injEq, and_true] at harm harm' ⊢
    exact ⟨by omega, harm', hr'⟩

section

variable {n : Nat} (ih : ∀ k < n, ∀ j s, ofJson? k j = some s → s.Fits k) (hd : d < n)
include ih hd

theorem option?_fits {s : Option Stmt} (h : j.option? (ofJson? d) = some s) :
    (toJsonOf s).nesting ≤ d ∧ eraseOf s = s := by
  cases s with
  | none => exact ⟨Nat.zero_le d, rfl⟩
  | some s =>
    obtain ⟨hs, hs'⟩ := ih d hd j s (Json.option?_some h)
    exact ⟨hs, by rw [eraseOf, hs']⟩

theorem body?_fits {body : List Stmt} (h : body? d j = some body) :
    (Json.arr (toJsonAll body)).nesting ≤ d ∧ eraseAll body = body := by
  rw [body?.eq_def] at h
  split at h
  · next depth _ =>
    obtain ⟨hbody, hbody'⟩ := fits_all (mapM_some_forall (ih depth (by omega)) h)
    exact ⟨by rw [Json.nesting]; omega, hbody'⟩
  · cases h

theorem optionBody?_fits {body : Option (List Stmt)} (h : j.option? (body? d) = some body) :
    (toJsonBody body).nesting ≤ d ∧ eraseBody body = body := by
  cases body with
  | none => exact ⟨Nat.zero_le d, rfl⟩
  | some body =>
    obtain ⟨hbody, hbody'⟩ := body?_fits ih hd (Json.option?_some h)
    exact ⟨hbody, by rw [eraseBody, hbody']⟩

theorem arm?_fits {key : String} {arm : Expr × List Stmt} (h : arm? key d j = some arm) :
    Json.nestingAll (toJsonArms key [arm]) ≤ d ∧ eraseArms [arm] = [arm] := by
  rw [arm?.eq_def] at h
  split at h
  · next depth _ =>
    split at h
    · simp only [Option.bind_eq_bind, Option.bind_eq_some_iff, Option.some.injEq] at h
      obtain ⟨e, he, body, hb, rfl⟩ := h
      obtain ⟨he, he'⟩ := Expr.ofJson?_fits he
      obtain ⟨hbody, hbody'⟩ := body?_fits ih (by omega) hb
      refine ⟨?_, by simp only [eraseArms, he', hbody']⟩
      rw [toJsonArms, toJsonArms, Json.nestingAll, Json.nestingAll, Json.nesting]
      simp only [Json.nestingMembers]
      omega
    · cases h
  · cases h

theorem arms?_fits {key : String} {arms : List (Expr × List Stmt)} (h : arms? key d j = some arms) :
    (Json.arr (toJsonArms key arms)).nesting ≤ d ∧ eraseArms arms = arms := by
  rw [arms?.eq_def] at h
  split at h
  · next depth _ =>
    have hall := mapM_some_forall (fun _ _ => arm?_fits ih (d := depth) (by omega)) h
    obtain ⟨harms, harms'⟩ := fits_allArms hall
    exact ⟨by rw [Json.nesting]; omega, harms'⟩
  · cases h

theorem ofKind?_fits {s : Stmt} (h : ofKind? line d j = some s) : s.Fits (d + 1) := by
  rw [ofKind?.eq_def] at h
  split at h
  · obtain ⟨name, -, rfl⟩ := Option.map_eq_some_iff.mp h
    refine ⟨?_, rfl⟩
    simp only [toJson, Json.nesting_statement, Json.nesting]
    omega
  · next depth tag content =>
    split at h
    · cases h
      refine ⟨?_, rfl⟩
      simp only [toJson, Json.nesting_statement, Json.nesting]
      omega
    · cases h
    · split at h
      · next depth =>
        split at h
        · simp only [Option.bind_eq_bind, Option.bind_eq_some_iff, Option.some.injEq] at h
          obtain ⟨cond, hc, body, hb, elseIfs, he, otherwise, ho, rfl⟩ := h
          obtain ⟨hcond, hcond'⟩ := Expr.ofJson?_fits hc
          obtain ⟨hbody, hbody'⟩ := body?_fits ih (by omega) hb
          obtain ⟨helse, helse'⟩ := arms?_fits ih (by omega) he
          obtain ⟨hother, hother'⟩ := optionBody?_fits ih (by omega) ho
          refine ⟨?_, by rw [erase, hcond', hbody', helse', hother']⟩
          simp only [toJson, Json.nesting_statement, Json.nesting_variantOf, Json.nestingMembers]
          omega
        · cases h
      · next depth =>
        split at h
        · simp only [Option.bind_eq_bind, Option.bind_eq_some_iff, Option.some.injEq] at h
          obtain ⟨init, hi, cond, hc, update, hu, body, hb, rfl⟩ := h
          obtain ⟨hinit, hinit'⟩ := option?_fits ih (by omega) hi
          obtain ⟨hcond, hcond'⟩ := Expr.ofJson?_fits hc
          obtain ⟨hupdate, hupdate'⟩ := option?_fits ih (by omega) hu
          obtain ⟨hbody, hbody'⟩ := body?_fits ih (by omega) hb
          refine ⟨?_, by rw [erase, hinit', hcond', hupdate', hbody']⟩
          simp only [toJson, Json.nesting_statement, Json.nesting_variantOf, Json.nestingMembers]
          omega
        · cases h
      · next depth =>
        split at h
        · simp only [Option.bind_eq_bind, Option.bind_eq_some_iff, Option.some.injEq] at h
          obtain ⟨body, hb, cond, hc, rfl⟩ := h
          obtain ⟨hbody, hbody'⟩ := body?_fits ih (by omega) hb
          obtain ⟨hcond, hcond'⟩ := Expr.ofJson?_fits hc
          refine ⟨?_, by rw [erase, hbody', hcond']⟩
          simp only [toJson, Json.nesting_statement, Json.nesting_variantOf, Json.nestingMembers]
          omega
        · cases h
      · next depth =>
        split at h
        · simp only [Option.bind_eq_bind, Option.bind_eq_some_iff, Option.some.injEq] at h
          obtain ⟨scrutinee, hs, cases, hc, fallback, hf, rfl⟩ := h
          obtain ⟨hscrutinee, hscrutinee'⟩ := Expr.ofJson?_fits hs
          obtain ⟨hcases, hcases'⟩ := arms?_fits ih (by omega) hc
          obtain ⟨hfallback, hfallback'⟩ := optionBody?_fits ih (by omega) hf
          refine ⟨?_, by rw [erase, hscrutinee', hcases', hfallback']⟩
          simp only [toJson, Json.nesting_statement, Json.nesting_variantOf, Json.nestingMembers]
          omega
        · cases h
      · obtain ⟨a, ha, rfl⟩ := Option.map_eq_some_iff.mp h
        obtain ⟨ha, ha'⟩ := Action.ofContent?_fits ha
        refine ⟨?_, by rw [erase, ha']⟩
        simp only [toJson, Json.nesting_statement]
        omega
  · cases h

end

theorem ofJson?_fits {s : Stmt} (h : ofJson? d j = some s) : s.Fits d := by
  induction d using Nat.strongRecOn generalizing j s with
  | ind d ih =>
    rw [ofJson?.eq_def] at h
    split at h
    · simp only [Option.bind_eq_bind, Option.bind_eq_some_iff] at h
      obtain ⟨⟨kind, line⟩, -, hkind⟩ := h
      exact ofKind?_fits (fun k hk _ _ => ih k hk) (by omega) hkind
    · cases h

end Stmt

theorem Program.ofJson?_fits {j : Json} {p : Program} (h : Program.ofJson? j = some p) :
    p.toJson.nesting ≤ maxNesting ∧ p.erased = p := by
  rw [ofJson?, ofJsonWithin?.eq_def] at h
  split at h
  · next _ depth hdepth =>
    split at h
    · obtain ⟨body, hb, rfl⟩ := Option.map_eq_some_iff.mp h
      have ih : ∀ k < depth + 1, ∀ j s, Stmt.ofJson? k j = some s → s.Fits k :=
        fun k _ _ _ => Stmt.ofJson?_fits
      obtain ⟨hbody, hbody'⟩ := Stmt.body?_fits ih (by omega) hb
      refine ⟨?_, by rw [erased, hbody']⟩
      rw [toJson, Json.nesting]
      simp only [Json.nestingMembers]
      omega
    · cases h
  · cases h

/-- A program that can be read at all is read back from what is written of it. -/
theorem Program.parse?_fits {s : String} {p : Program} (h : Program.parse? s = some p) :
    p.toJson.nesting ≤ maxNesting ∧ p.erased = p := by
  obtain ⟨j, -, hj⟩ := Option.bind_eq_some_iff.mp h
  exact ofJson?_fits hj

namespace Program

/-- A program that nests no deeper than allowed is read back from its own text, without its types;
and from whatever text a program is read, its own text is read back as the same program. -/
theorem interchange :
    (∀ p : Program, p.toJson.nesting ≤ maxNesting → parse? p.render = some p.erased) ∧
    ∀ (s : String) (p : Program), parse? s = some p → parse? p.render = some p := by
  refine ⟨fun p h => parse?_render h, fun s p h => ?_⟩
  obtain ⟨hnesting, hbare⟩ := parse?_fits h
  rw [parse?_render hnesting, hbare]

/-- A loop with a type on its condition, a quoted text in its body, and a line. -/
def quotedLoop : Program where
  stmts := [.loop (some 3) none (.lit (.scalar .logic) "true") none
    [.action none (.display (some (.literal "\"a\\b\n\"")) true), .jump (some 4) .breakLoop]]

/-- A program as arrays of fields, with a jump as an object, a member too many and lines missing. -/
def positional : Json :=
  .arr [.arr [.arr [.obj [("Break", .null)], .ofNat 7], .arr [.str "Continue"],
    .obj [("note", .arr [.arr []]),
      ("kind", .obj [("Push", .arr [.str "xs", .obj [("Literal", .str "1")]])])]]]

/-- The program that these arrays hold. -/
def positionalRead : Program where
  stmts := [.jump (some 7) .breakLoop, .jump none .continueLoop,
    .action none (.push "xs" (.lit .unknown "1"))]

theorem interchange_quoted :
    (quotedLoop.toJson.nesting = 10 ∧ parse? quotedLoop.render = some quotedLoop.erased) ∧
    parse? positional.render = some positionalRead ∧
    parse? positionalRead.render = some positionalRead := by
  have hnesting : quotedLoop.toJson.nesting = 10 := by decide
  have hwritten : positional.Written := by
    simp only [positional, Json.ofNat, Json.Written, Json.WrittenAll, Json.WrittenMembers, and_true,
      true_and]
    exact ⟨7, rfl⟩
  have hread : parse? positional.render = some positionalRead := by
    rw [parse?, Json.parse?_render hwritten]
    rfl
  refine ⟨⟨hnesting, interchange.1 quotedLoop ?_⟩, hread,
    interchange.2 positional.render positionalRead hread⟩
  rw [hnesting]
  decide

end Program

end Primer
