import Primer.Proofs.Discipline
import Primer.Proofs.Events
import Primer.Proofs.ActionNames

/-!
# The names of a run

The scopes of the check and the one store of the run name different things: a name stands in the scopes
at a level, from the visit that declared it there for as long as its scope is live, while the store has
a name as the visit declared it that came last. The two go together along a run, with two exceptions.
An array may be declared in an inner scope under a name that stands, and the update of a loop is
assumed from the first condition of the loop on.
-/

namespace Primer

open ScopeTree

/-! ## What the visits declared -/

/-- The type that a visit declares a name with, if it performs a declaration of the name. -/
def Visit.declares? (v : Visit) (n : String) : Option Ty :=
  match v.piece with
  | .action a => a.adds.lookup n
  | .value _ | .condition _ => none

/-- The type that the last of the visits to declare a name declares it with. -/
def lastDeclared? (past : List Visit) (n : String) : Option Ty :=
  past.reverse.findSome? (·.declares? n)

/-- A visit whose declarations are new: in the innermost scope, and for a variable in the scopes around
it too. -/
structure Visit.Proper (v : Visit) : Prop where
  layered : v.scopes.Layered
  new : ∀ {n ty}, v.declares? n = some ty → v.scopes.typeAt v.scopes.level n = none
  free : ∀ {n ty l ty'}, v.declares? n = some ty → v.scopes.typeAt l n = some ty' → ty.isArray = true

theorem Visit.declares?_check (t : ScopeTree) (a : Action) (m : Machine) (n : String) :
    Visit.declares? ⟨t, .action (a.check t).result, m⟩ n = a.adds.lookup n := by
  show (a.check t).result.adds.lookup n = _
  rw [Action.check_adds]

theorem Visit.Proper.of_check {t : ScopeTree} {a : Action} {m : Machine} (h : t.Layered)
    (ha : (a.check t).problems = []) : Visit.Proper ⟨t, .action (a.check t).result, m⟩ where
  layered := h
  new {n ty} hn := by
    rw [declares?_check, Action.adds_lookup] at hn
    have hnew := (Action.check_new ha hn).1
    rwa [isDeclaredHere_typeAt, Option.isSome_eq_false_iff, Option.isNone_iff_eq_none] at hnew
  free {n ty l ty'} hn hty := by
    rw [declares?_check, Action.adds_lookup] at hn
    refine Bool.of_not_eq_false fun harray => ?_
    have hfree := (Action.check_new ha hn).2 harray
    rw [isDeclared_of_typeAt hty] at hfree
    cases hfree

theorem Visit.Proper.of_undeclared {v : Visit} (h : v.scopes.Layered)
    (hv : ∀ n, v.declares? n = none) : v.Proper where
  layered := h
  new {n ty} hn := by
    rw [hv] at hn
    cases hn
  free {n ty l ty'} hn := by
    rw [hv] at hn
    cases hn

section
variable {past : List Visit} {v w x : Visit} {since rest : List Visit} {n : String} {l : Nat}
  {ty found : Ty}

theorem lastDeclared?_concat (past : List Visit) (v : Visit) (n : String) :
    lastDeclared? (past ++ [v]) n = (v.declares? n).or (lastDeclared? past n) := by
  rw [lastDeclared?, List.reverse_append, List.reverse_singleton, List.singleton_append,
    List.findSome?_cons]
  cases v.declares? n <;> rfl

theorem lastDeclared?_of_suffix (h : (w :: since) <:+ past) (hw : w.declares? n = some found)
    (hsince : ∀ x ∈ since, x.declares? n = none) : lastDeclared? past n = some found := by
  obtain ⟨before, rfl⟩ := h
  have hnone : since.reverse.findSome? (·.declares? n) = none := by simpa using hsince
  rw [lastDeclared?, List.reverse_append, List.reverse_cons, List.findSome?_append,
    List.findSome?_append, hnone, List.findSome?_singleton, hw]
  rfl

/-- Among visits either none declares a name, or one is the last to do so. -/
theorem declares_last (visits : List Visit) (n : String) :
    (∀ x ∈ visits, x.declares? n = none) ∨ ∃ w since found, (w :: since) <:+ visits ∧
      w.declares? n = some found ∧ ∀ x ∈ since, x.declares? n = none := by
  induction visits with
  | nil => exact .inl (List.forall_mem_nil _)
  | cons v rest ih =>
    rcases ih with hrest | ⟨w, since, found, hsuffix, hw⟩
    · cases hv : v.declares? n with
      | none => exact .inl (List.forall_mem_cons.mpr ⟨hv, hrest⟩)
      | some found => exact .inr ⟨v, rest, found, List.suffix_refl _, hv, hrest⟩
    · exact .inr ⟨w, since, found, hsuffix.trans (List.suffix_cons v rest), hw⟩

/-- A visit with no declaration of a name since comes after each that declares it. -/
theorem mem_since (h : (w :: since) <:+ past) (hw : w.declares? n = some found)
    (hx : (x :: rest) <:+ past) (hrest : ∀ y ∈ x :: rest, y.declares? n = none) : x ∈ since := by
  have hne : ∀ y ∈ x :: rest, y ≠ w := by
    rintro y hy rfl
    rw [hrest y hy] at hw
    cases hw
  rcases List.suffix_or_suffix_of_suffix h hx with h | h
  · exact absurd rfl (hne w (h.subset List.mem_cons_self))
  rcases List.suffix_cons_iff.mp h with h | h
  · exact absurd (List.cons.inj h).1 (hne x List.mem_cons_self)
  · exact h.subset List.mem_cons_self

end

namespace Program

/-! ## How a visit sees a name -/

/-- The visit is to the condition of a loop whose update declares the name. -/
def Awaits (p : Program) (v : Visit) (n : String) (ty : Ty) : Prop :=
  ∃ x ∈ p.turns, v.piece = .condition (x.1.check v.scopes none).result ∧ (n, ty) ∈ x.2.adds

/-- The declaration that a visit resolves a name to is one of the update of a loop, and no declaration
of the name was executed since the loop asked for its condition. -/
def Late (p : Program) (past : List Visit) (v : Visit) (n : String) : Prop :=
  ∃ l ty c since, v.scopes.Resolves n l ty ∧ (c :: since) <:+ past ∧
    (c.scopes.level = l ∧ c.scopes.typeAt l n = none ∧ p.Awaits c n ty) ∧
    ∀ x ∈ since, x.scopes.typeAt l n = some ty ∧ x.declares? n = none

/-- From the visit on a name stands at a level: it was declared there, or its declaration is awaited. -/
structure Begins (p : Program) (v : Visit) (l : Nat) (n : String) (ty : Ty) : Prop where
  level : v.scopes.level = l
  new : v.scopes.typeAt l n = none
  cause : v.declares? n = some ty ∨ p.Awaits v n ty

/-- The scopes of a check, the visits so far and the store of a run at one point of a program. -/
structure Names (p : Program) (t : ScopeTree) (past : List Visit) (s : Store) : Prop where
  proper : ∀ v ∈ past, v.Proper
  layered : t.Layered
  /-- What stands in the scopes began with a visit and stood ever since. -/
  origin : ∀ {l n ty}, t.typeAt l n = some ty → ∃ w since, (w :: since) <:+ past ∧
    p.Begins w l n ty ∧ ∀ x ∈ since, x.scopes.typeAt l n = some ty
  /-- The store has the types that were declared last. -/
  types : ∀ n, (s.find? n).map (·.ty) = lastDeclared? past n
  /-- A binding fits but for a value that was stored where the name was a variable's. -/
  fits : ∀ {n b}, s.find? n = some b → b.Fits ∨ ∃ x rest, (x :: rest) <:+ past ∧
    (∀ y ∈ x :: rest, y.declares? n = none) ∧ ∃ q, x.scopes.lookup? n = some (.scalar q)

/-- The names that a fault of a visit may blame. -/
def MayBlame (p : Program) (past : List Visit) (v : Visit) : Fault → Prop
  | .undefinedVariable n | .notAnArray n => p.Late past v n
  | _ => True

variable {p : Program} {t t' : ScopeTree} {past : List Visit} {v : Visit} {s s' : Store} {n : String}
  {l : Nat} {ty : Ty}

/-- Where no update of a loop declares a name, none is late. -/
theorem not_late (hu : ∀ u ∈ p.updates, u.adds = []) : ¬p.Late past v n := by
  rintro ⟨l, ty, c, since, -, -, ⟨-, -, x, hx, -, hadds⟩, -⟩
  rw [hu x.2 (turn_update hx)] at hadds
  cases hadds

theorem Begins.known (h : p.Begins v l n ty) : ty ≠ .unknown := by
  rcases h.cause with h | ⟨x, hx, -, hadds⟩
  · obtain ⟨t, piece, m⟩ := v
    cases piece with
    | action a => exact Action.adds_known (Action.adds_lookup.mp h)
    | value | condition => cases h
  · exact declarations_known (update_adds (turn_update hx) hadds)

namespace Names

theorem start : p.Names .start [] .empty where
  proper := List.forall_mem_nil _
  layered := .start
  origin h := by
    rw [typeAt_start] at h
    cases h
  types _ := rfl
  fits := nofun

theorem known (h : p.Names t past s) : t.Known := by
  intro n ty hn
  obtain ⟨l, hty, -⟩ := t.lookup?_resolves.mp hn
  obtain ⟨w, since, -, hbegins, -⟩ := h.origin hty
  exact hbegins.known

theorem narrow (h : p.Names t past s) (ht : t.Covers t') : p.Names t' past s where
  proper := h.proper
  layered := h.layered.covered ht
  origin hty := h.origin (ht.typeAt hty)
  types := h.types
  fits := h.fits

/-- What the store has of a name that a visit resolves: it is as it was declared where it stands, or as
an array in an inner scope was declared since, or nothing was declared since a loop awaits the name. -/
theorem latest (h : p.Names v.scopes past s) (hres : v.scopes.Resolves n l ty) :
    (∃ w since found, ((w :: since) <:+ past ∧ w.declares? n = some found ∧
      ∀ x ∈ since, x.scopes.typeAt l n = some ty ∧ x.declares? n = none) ∧
      lastDeclared? past n = some found ∧
      (found = ty ∨ found.isArray = true ∧ l < w.scopes.level ∧ w.scopes.typeAt l n = some ty)) ∨
    p.Late past v n := by
  obtain ⟨w₀, since₀, hsuffix₀, hbegins, hstands⟩ := h.origin hres.1
  rcases declares_last since₀ n with hnone | ⟨w, since, found, hsuffix, hw, hsince⟩
  · have hsince : ∀ x ∈ since₀, x.scopes.typeAt l n = some ty ∧ x.declares? n = none :=
      fun x hx => ⟨hstands x hx, hnone x hx⟩
    rcases hbegins.cause with hw | hawaits
    · have hlast := lastDeclared?_of_suffix hsuffix₀ hw hnone
      exact .inl ⟨w₀, since₀, ty, ⟨hsuffix₀, hw, hsince⟩, hlast, .inl rfl⟩
    · exact .inr ⟨l, ty, w₀, since₀, hres, hsuffix₀, ⟨hbegins.level, hbegins.new, hawaits⟩, hsince⟩
  · have hpast := hsuffix.trans ((List.suffix_cons w₀ since₀).trans hsuffix₀)
    have hproper := h.proper w (hpast.subset List.mem_cons_self)
    have hstood := hstands w (hsuffix.subset List.mem_cons_self)
    have hstill : ∀ x ∈ since, x.scopes.typeAt l n = some ty ∧ x.declares? n = none :=
      fun x hx => ⟨hstands x (hsuffix.subset (List.mem_cons_of_mem w hx)), hsince x hx⟩
    refine .inl ⟨w, since, found, ⟨hpast, hw, hstill⟩, lastDeclared?_of_suffix hpast hw hsince,
      .inr ⟨hproper.free hw hstood, ?_, hstood⟩⟩
    -- the name is new in the innermost scope, so it stands further out
    refine Nat.lt_of_le_of_ne (typeAt_level_le hstood) ?_
    rintro rfl
    rw [hproper.new hw] at hstood
    cases hstood

/-- A name that stands is bound, unless its declaration is awaited. -/
theorem bound (h : p.Names v.scopes past s) (hn : v.scopes.lookup? n = some ty) :
    s.contains n = true ∨ p.Late past v n := by
  obtain ⟨l, hres⟩ := v.scopes.lookup?_resolves.mp hn
  refine (h.latest hres).imp_left fun ⟨_, _, _, _, hlast, _⟩ => ?_
  obtain ⟨b, hb, -⟩ := Option.map_eq_some_iff.mp ((h.types n).trans hlast)
  rw [Store.contains, hb, Option.isSome_some]

/-- What a visit resolves to an array is bound to one, unless its declaration is awaited. -/
theorem array {q : Primitive} {b : Binding} (h : p.Names v.scopes past s)
    (hn : v.scopes.lookup? n = some (.array q)) (hb : s.find? n = some b) :
    (b.ty.isArray = true ∧ b.value.ty.isArray = true) ∨ p.Late past v n := by
  obtain ⟨l, hres⟩ := v.scopes.lookup?_resolves.mp hn
  refine (h.latest hres).imp_left fun ⟨w, since, found, ⟨hsuffix, hw, hsince⟩, hlast, hinner⟩ => ?_
  have htypes := (h.types n).trans hlast
  rw [hb, Option.map_some, Option.some.injEq] at htypes
  have harray : b.ty.isArray = true := by
    rw [htypes]
    rcases hinner with rfl | ⟨harray, -⟩
    · rfl
    · exact harray
  rcases h.fits hb with hfits | ⟨x, rest, hx, hrest, r, hr⟩
  · exact ⟨harray, hfits ▸ harray⟩
  -- A visit since that resolves the name to a variable would find the variable inside the array.
  obtain ⟨l', hscalar, hinnermost⟩ := x.scopes.lookup?_resolves.mp hr
  have hstood := (hsince x (mem_since hsuffix hw hx hrest)).1
  rcases Nat.eq_or_lt_of_le (hinnermost _ _ hstood) with rfl | hlt
  · rw [hscalar] at hstood
    cases hstood
  · have hlayered := (h.proper x (hx.subset List.mem_cons_self)).layered
    cases hlayered n l l' _ _ hlt hstood hscalar

theorem mayBlame {f : Fault} (h : p.Names v.scopes past s) (hf : f.Blames v.scopes.lookup? s) :
    p.MayBlame past v f := by
  cases f with
  | undefinedVariable n =>
    obtain ⟨⟨ty, hn⟩, hc⟩ := hf
    exact (h.bound hn).resolve_left (by simp [hc])
  | notAnArray n =>
    obtain ⟨⟨q, hn⟩, b, hb, hnot⟩ := hf
    exact (h.array hn hb).resolve_left hnot
  | _ => trivial

/-- A visit takes the names on: what the scopes have more it declares, and the store grows by just
that. -/
theorem visit {added : List (String × Ty)} (h : p.Names v.scopes past s) (hv : v.Proper)
    (hstays : v.scopes.Stays t') (ht : Extends added v.scopes t')
    (hadded : ∀ n ty, added.lookup n = some ty ↔ (n, ty) ∈ added)
    (hdeclares : ∀ n, v.declares? n = added.lookup n) (hg : s.Grows v.scopes.lookup? added s') :
    p.Names t' (past ++ [v]) s' where
  proper := List.forall_mem_append.mpr ⟨h.proper, List.forall_mem_singleton.mpr hv⟩
  layered := hstays.layered h.layered
  origin {l n ty} hty := by
    rcases hstays.entries ht hty with hold | ⟨⟨hl, hnew⟩, hmem⟩
    · obtain ⟨w, since, hsuffix, hbegins, hstands⟩ := h.origin hold
      refine ⟨w, since ++ [v], List.suffix_append_self_iff.mpr hsuffix, hbegins, ?_⟩
      exact List.forall_mem_append.mpr ⟨hstands, List.forall_mem_singleton.mpr hold⟩
    · refine ⟨v, [], List.suffix_append past [v], ⟨hl.symm, hnew, .inl ?_⟩, List.forall_mem_nil _⟩
      rw [hdeclares, (hadded n ty).mpr hmem]
  types n := by rw [hg.types hadded, lastDeclared?_concat, hdeclares, h.types]
  fits {n b'} hb' := by
    cases hl : added.lookup n with
    | some ty =>
      obtain ⟨b, hb, -, hfits⟩ := hg.adds _ ((hadded n ty).mp hl)
      rw [hb'] at hb
      cases hb
      exact .inl hfits
    | none =>
      have hnone : v.declares? n = none := (hdeclares n).trans hl
      rcases hg.origin n b' hb' with ⟨-, hfits⟩ | ⟨b, hb, -, hfits⟩
      · exact .inl hfits
      rcases h.fits hb with hb | ⟨x, rest, hx, hrest, hscalar⟩
      · refine (hfits hb).imp_right fun hclash => ?_
        exact ⟨v, [], List.suffix_append past [v], List.forall_mem_singleton.mpr hnone, hclash.1⟩
      · refine .inr ⟨x, rest ++ [v], List.suffix_append_self_iff.mpr hx, ?_, hscalar⟩
        exact List.forall_mem_append.mpr ⟨hrest, List.forall_mem_singleton.mpr hnone⟩

/-- The names of the update of a loop stand from the condition on. -/
theorem widen {x : Expr × Stmt} {m : Machine} (hx : x ∈ p.turns)
    (h : p.Names t (past ++ [⟨t, .condition (x.1.check t none).result, m⟩]) s) :
    p.Names (Check.after x.2.check t) (past ++ [⟨t, .condition (x.1.check t none).result, m⟩]) s where
  proper := h.proper
  layered := (x.2.check_stays t).layered h.layered
  origin {l n ty} hty := by
    rcases (x.2.check_stays t).entries (x.2.check_extends t) hty with hold | ⟨⟨hl, hnew⟩, hmem⟩
    · exact h.origin hold
    · refine ⟨_, [], List.suffix_append past _, ⟨hl.symm, hnew, .inr ⟨x, hx, rfl, hmem⟩⟩, ?_⟩
      exact List.forall_mem_nil _
  types := h.types
  fits := h.fits

end Names

/-! ## Names as a discipline -/

/-- What a visit shows of its names: the scopes, the visits before it and the store go together, and
whatever it evaluates or uses is known in its scopes, in a store with the types declared last. -/
structure NamesSeen (p : Program) (past : List Visit) (v : Visit) : Prop where
  names : p.Names v.scopes past v.machine.store
  events : ∀ ev ∈ v.events, ev.Sound v.scopes.lookup? fun s =>
    ∀ n, (s.find? n).map (·.ty) = lastDeclared? past n

namespace Names

theorem seen (h : p.Names v.scopes past v.machine.store) (hv : v.piece.Typed v.scopes.lookup?) :
    p.NamesSeen past v := by
  refine ⟨h, v.events_sound (.of_grows fun s s' hg hs n => ?_) hv h.types⟩
  rw [hg.types (by simp), List.lookup_nil, Option.none_or, hs]

theorem keeps {α : Type} {x : Act α} {added : List (String × Ty)}
    (h : p.Names v.scopes past v.machine.store)
    (hx : Act.Keeps (v.machine.store.Grows v.scopes.lookup? added)
      (Fault.Blames v.scopes.lookup? v.machine.store) x v.machine)
    (hv : v.Proper) (hstays : v.scopes.Stays t') (ht : Extends added v.scopes t')
    (hadded : ∀ n ty, added.lookup n = some ty ↔ (n, ty) ∈ added)
    (hdeclares : ∀ n, v.declares? n = added.lookup n) :
    Act.Keeps (p.Names t' (past ++ [v])) (p.MayBlame past v) x v.machine :=
  hx.mono (fun _ _ hg => ⟨hg.1, h.visit hv hstays ht hadded hdeclares hg.2⟩)
    fun _ _ hf => h.mayBlame hf

/-- An evaluation declares nothing. -/
theorem evaluates {α : Type} {x : Act α} (h : p.Names v.scopes past v.machine.store)
    (hv : ∀ n, v.declares? n = none) (hx : Act.Grows v.scopes.lookup? v.machine.store x v.machine) :
    Act.Keeps (p.Names v.scopes (past ++ [v])) (p.MayBlame past v) x v.machine :=
  h.keeps hx (.of_undeclared h.layered hv) (stays_respected.refl _) (.refl _) (by simp) hv

end Names

/-- The names of a program as a discipline. -/
def namesDiscipline (p : Program) (settings : Settings) : Discipline settings where
  holds := p.Names
  fault := p.MayBlame
  sees := p.NamesSeen
  action _ := True
  turn x := x ∈ p.turns
  narrow ht h := h.narrow ht
  widen hx h := h.widen hx
  performs {t a past m} h _ hm := by
    have htyped := Action.check_typed hm.known h
    have hgrows := Action.perform_grows (m := m) settings htyped
    rw [Action.check_adds] at hgrows
    have hv : p.Names (Visit.scopes ⟨t, .action (a.check t).result, m⟩) past m.store := hm
    exact ⟨hv.keeps hgrows (.of_check hm.layered h) (a.check_stays t) (a.check_extends t)
      (fun _ _ => Action.adds_lookup) (Visit.declares?_check t a m), hv.seen htyped⟩
  evaluates {t e past m} h hm := by
    have htyped := Expr.check_typed hm.known none e h
    have hv : p.Names (Visit.scopes ⟨t, .value (e.check t none).result, m⟩) past m.store := hm
    exact ⟨hv.evaluates (fun _ => rfl) (.eval (Expr.eval_grows _ htyped m.store) (.refl _)),
      hv.seen htyped⟩
  decides {t e past m} h hty hm := by
    have htyped := Expr.check_typed hm.known none e h
    have hv : p.Names (Visit.scopes ⟨t, .condition (e.check t none).result, m⟩) past m.store := hm
    exact ⟨hv.evaluates (fun _ => rfl) (.eval (Expr.evalLogic_grows htyped m.store) (.refl _)),
      hv.seen ⟨htyped, hty⟩⟩

section
variable {settings : Settings} {limit : Nat} {console : Console}

/-- The name that a fault of an accepted program blames. -/
theorem run_mayBlame (h : p.diagnostics = []) {f : Failure}
    (hf : (p.run settings limit console).1 = .failed f) :
    ∃ past v, p.visits settings limit console = past ++ [v] ∧ p.MayBlame past v f.fault :=
  run_fault (D := p.namesDiscipline settings) h (fun _ _ => trivial) (fun _ hx => hx) .start hf

end

end Program

end Primer
