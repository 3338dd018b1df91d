import Primer.Proofs.Discipline
import Primer.Proofs.Events
import Primer.Proofs.Actions

/-!
# The types of a run

In a program that declares no name twice, every name has one type. Where the check accepts such a
program, each piece of a run is typed in the context of these types, and the store agrees with it.
-/

namespace Primer

namespace Program

/-- The types of the names of a program; the first declaration of a name decides. -/
def context (p : Program) : Context := fun n => p.declarations.lookup n

/-- No name of a program is declared twice. -/
def Distinct (p : Program) : Prop := (p.declarations.map Prod.fst).Nodup

instance (p : Program) : Decidable p.Distinct :=
  inferInstanceAs (Decidable (p.declarations.map Prod.fst).Nodup)

/-- The scopes of a check and the store of a run at one point of a program. -/
structure Types (p : Program) (t : ScopeTree) (s : Store) : Prop where
  declared : ∀ e ∈ t.declared, e ∈ p.declarations
  agrees : s.Agrees p.context

variable {p : Program} {t t' : ScopeTree} {s s' : Store} {n : String} {ty : Ty}

theorem mem_of_context (h : p.context n = some ty) : (n, ty) ∈ p.declarations := by
  obtain ⟨l₁, l₂, hl, -⟩ := List.lookup_eq_some_iff.mp h
  simp [hl]

theorem context_of_mem (hp : p.Distinct) (h : (n, ty) ∈ p.declarations) : p.context n = some ty := by
  obtain ⟨l₁, l₂, hl⟩ := List.append_of_mem h
  refine List.lookup_eq_some_iff.mpr ⟨l₁, l₂, hl, fun e he => ?_⟩
  rw [Distinct, hl, List.map_append, List.map_cons] at hp
  have hne := (List.nodup_append.mp hp).2.2 e.1 (List.mem_map_of_mem he) n (by simp)
  simpa using Ne.symm hne

namespace Types

theorem start : p.Types .start .empty where
  declared := nofun
  agrees := .empty

theorem known (h : p.Types t s) : t.Known := fun _ _ => lookup_known h.declared

theorem context (h : p.Types t s) (hp : p.Distinct) (n : String) (ty : Ty)
    (hn : t.lookup? n = some ty) : p.context n = some ty :=
  context_of_mem hp (h.declared (n, ty) (ScopeTree.mem_declared hn))

theorem keeps {α : Type} {x : Act α} {m : Machine} {E : Fault → Prop}
    (hx : Act.Keeps (Store.Agrees p.context) E x m) (ht : ∀ e ∈ t'.declared, e ∈ p.declarations) :
    Act.Keeps (p.Types t') E x m :=
  hx.mono (fun _ _ h => ⟨h.1, ht, h.2⟩) fun _ _ hf => hf

theorem typed_action (h : p.Types t s) (hp : p.Distinct) {a : Action}
    (ha : (a.check t).problems = []) : (a.check t).result.Typed p.context :=
  (Action.check_typed h.known ha).mono (h.context hp)

theorem typed_expr (h : p.Types t s) (hp : p.Distinct) {e : Expr}
    (he : (e.check t none).problems = []) : (e.check t none).result.Typed p.context :=
  (Expr.check_typed h.known none e he).mono (h.context hp)

theorem declared_after (h : p.Types t s) {a : Action} (ha : a ∈ p.actions) :
    ∀ e ∈ (a.check t).scopes.declared, e ∈ p.declarations :=
  fun e he => ((a.check_extends t).mem he).elim (action_adds ha) (h.declared e)

theorem declared_turn (h : p.Types t s) {x : Expr × Stmt} (hx : x ∈ p.turns) :
    ∀ e ∈ (Check.after x.2.check t).declared, e ∈ p.declarations :=
  fun e he => ((x.2.check_extends t).mem he).elim (update_adds (turn_update hx)) (h.declared e)

end Types

/-- The actions of the program add names with the types that these have. -/
theorem action_extends (hp : p.Distinct) {a : Action} (ha : a ∈ p.actions) (t : ScopeTree) :
    (a.check t).result.Extends p.context := by
  intro e he known hn
  rw [Action.check_adds] at he
  rw [context_of_mem hp (action_adds ha he)] at hn
  exact (Option.some.inj hn).symm

/-- What a visit shows of its types. -/
def TypesSeen (p : Program) (v : Visit) : Prop :=
  ∀ ev ∈ v.events, ev.Sound p.context (Store.Agrees p.context)

theorem Types.seen {v : Visit} (h : p.Types v.scopes v.machine.store)
    (hv : v.piece.Typed p.context) : p.TypesSeen v :=
  v.events_sound Store.Agrees.kept hv h.agrees

/-- The types of a program as a discipline. -/
def typesDiscipline (p : Program) (hp : p.Distinct) (settings : Settings) : Discipline settings where
  holds t _ := p.Types t
  fault _ _ := Fault.Sound
  sees _ := p.TypesSeen
  action a := a ∈ p.actions ∧ ¬a.AssignsArray p.context
  turn x := x ∈ p.turns
  narrow ht h := ⟨fun e he => h.declared e (ht.declared e he), h.agrees⟩
  widen hx h := ⟨h.declared_turn hx, h.agrees⟩
  performs {t a _ m} h ha hm := by
    have htyped := hm.typed_action hp h
    refine ⟨Types.keeps ?_ (hm.declared_after ha.1), hm.seen htyped⟩
    refine (Action.perform_typed htyped (action_extends hp ha.1 t) hm.agrees).mono (fun _ _ h => h) ?_
    refine fun f _ hf => hf.resolve_right fun harray => ha.2 ?_
    rw [← Action.check_assignsArray t]
    exact harray.1
  evaluates {t e _ m} h hm := by
    have htyped := hm.typed_expr hp h
    refine ⟨Types.keeps (.eval ?_) hm.declared, hm.seen htyped⟩
    exact (Expr.eval_typed _ htyped hm.agrees).mono (fun _ _ h => h.1) fun _ _ hf => hf
  decides {t e _ m} h hty hm := by
    have htyped := hm.typed_expr hp h
    refine ⟨Types.keeps (.eval ?_) hm.declared, hm.seen ⟨htyped, hty⟩⟩
    exact (Expr.evalLogic_typed htyped hty hm.agrees).mono (fun _ _ h => h) fun _ _ hf => hf

end Program

end Primer
