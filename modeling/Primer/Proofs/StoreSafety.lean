import Primer.Proofs.Storing
import Primer.Proofs.Paths

/-!
# The safety of the store

In a run of any program, checked or not, every store is well typed: the stores between the parts of
the run, those inside a part and the one that the run leaves, also if it fails. From a store to a
later one no name is lost, and the type of a name changes only if it was declared between them.
-/

namespace Primer

open Store

/-! ## Stores inside a piece -/

def Event.store : Event → Store
  | .evaluates _ s => s
  | .uses _ s => s

section
variable {α : Type} {Q : α → Prop} {s s₀ : Store}

theorem Eval.Settles.next {x : Eval α} (h : x.Settles Q s) (hs : s₀.Follows [] s)
    {events : α → Store → List Event}
    (hevents : ∀ a s, s₀.Follows [] s → ∀ ev ∈ events a s, s₀.Follows [] ev.store) :
    ∀ ev ∈ x.next s events, s₀.Follows [] ev.store :=
  Eval.next_forall (h.mono (fun _ _ h => hs.trans h.2) fun _ _ _ => trivial) hevents

theorem Eval.next_read {look : Store → Except Fault α} {events : α → Store → List Event}
    (hevents : ∀ a, ∀ ev ∈ events a s, s₀.Follows [] ev.store) :
    ∀ ev ∈ (Eval.read look).next s events, s₀.Follows [] ev.store :=
  Eval.next_forall (I := (· = s)) (Eval.read_ends ⟨fun _ => rfl, fun _ => trivial⟩)
    fun a _ h => h ▸ hevents a

namespace Expr

mutual
theorem events_follow : (e : Expr) → ∀ {s : Store}, s₀.Follows [] s →
    ∀ ev ∈ e.events s, s₀.Follows [] ev.store
  | .lit ty raw => by
      intro hs
      simpa [events, Event.store] using hs
  | .var ty name | .step ty name _ _ | .length ty name | .pop ty name => by
      intro hs
      simpa [events, Event.store] using hs
  | .binary ty op left right => by
      intro hs
      rw [events, List.forall_mem_cons, List.forall_mem_append]
      refine ⟨hs, events_follow left hs, ?_⟩
      exact (left.eval_settles hs.wellTyped).next hs fun _ _ hs => events_follow right hs
  | .unary ty op operand => by
      intro hs
      rw [events, List.forall_mem_cons]
      exact ⟨hs, events_follow operand hs⟩
  | .arrayOf ty elems => by
      intro hs
      rw [events, List.forall_mem_cons]
      exact ⟨hs, eventsAll_follow elems hs⟩
  | .newArray ty elem size => by
      intro hs
      rw [events, List.forall_mem_cons]
      refine ⟨hs, ?_⟩
      split
      · exact events_follow size hs
      · exact nofun
  | .index ty name idx => by
      intro hs
      rw [events, List.forall_mem_cons, List.forall_mem_append]
      refine ⟨hs, events_follow idx hs, ?_⟩
      refine (idx.evalNumber_settles hs.wellTyped).next hs fun _ _ hs => ?_
      simpa [Event.store] using hs

theorem eventsAll_follow : (es : List Expr) → ∀ {s : Store}, s₀.Follows [] s →
    ∀ ev ∈ eventsAll s es, s₀.Follows [] ev.store
  | [] => fun _ => nofun
  | e :: rest => by
      intro hs
      rw [eventsAll, List.forall_mem_append]
      refine ⟨events_follow e hs, ?_⟩
      exact (e.eval_settles hs.wellTyped).next hs fun _ _ hs => eventsAll_follow rest hs
end

theorem eventsThenUse_follow (e : Expr) (name : String) (hs : s₀.Follows [] s) :
    ∀ ev ∈ e.eventsThenUse s name, s₀.Follows [] ev.store := by
  rw [eventsThenUse, List.forall_mem_append]
  refine ⟨e.events_follow hs, (e.eval_settles hs.wellTyped).next hs fun _ _ hs => ?_⟩
  simpa [Event.store] using hs

end Expr

theorem DisplayItem.eventsAll_follow (items : List DisplayItem) (hs : s₀.Follows [] s) :
    ∀ ev ∈ DisplayItem.eventsAll s items, s₀.Follows [] ev.store := by
  induction items generalizing s with
  | nil => exact nofun
  | cons item rest ih =>
    cases item with
    | expr e =>
      rw [eventsAll, List.forall_mem_append]
      exact ⟨e.events_follow hs, (e.eval_settles hs.wellTyped).next hs fun _ _ hs => ih hs⟩
    | named name =>
      rw [eventsAll, List.forall_mem_cons]
      exact ⟨hs, Eval.next_read fun _ => ih hs⟩
    | literal raw =>
      rw [eventsAll]
      exact ih hs

theorem Action.events_follow (a : Action) (hs : s₀.Follows [] s) :
    ∀ ev ∈ a.events s, s₀.Follows [] ev.store := by
  cases a with
  | declare ty name init | declareArray elem name init => exact Expr.eventsAll_follow _ hs
  | assign name op value | push name value => exact value.eventsThenUse_follow name hs
  | display item newline => exact DisplayItem.eventsAll_follow _ hs
  | displayAll items newline => exact DisplayItem.eventsAll_follow _ hs
  | input name => simpa [events, Event.store] using hs
  | assignArray name value =>
    rw [events, List.forall_mem_cons]
    refine ⟨hs, Eval.next_read fun b => ?_⟩
    split
    · exact value.eventsThenUse_follow name hs
    · exact nofun
  | assignElement name idx op value | set name idx value =>
    rw [events, List.forall_mem_append]
    refine ⟨idx.events_follow hs, (idx.evalNumber_settles hs.wellTyped).next hs fun _ _ hs => ?_⟩
    exact value.eventsThenUse_follow name hs
  | inputElement name idx =>
    rw [events, List.forall_mem_append]
    refine ⟨idx.events_follow hs, (idx.evalNumber_settles hs.wellTyped).next hs fun _ _ hs => ?_⟩
    simpa [Event.store] using hs
  | evaluate e => exact e.events_follow hs

end

/-! ## Pieces -/

namespace Piece

variable {settings : Settings} {m : Machine}

def events (s : Store) : Piece → List Event
  | action a => a.events s
  | value e | condition e => e.events s

def adds : Piece → List (String × Ty)
  | action a => a.adds
  | _ => []

theorem events_follow (p : Piece) {s : Store} (hs : s.WellTyped) :
    ∀ ev ∈ p.events s, s.Follows [] ev.store := by
  cases p with
  | action a => exact a.events_follow (.refl hs)
  | value e | condition e => exact e.events_follow (.refl hs)

theorem act_settles (p : Piece) (hs : m.store.WellTyped) :
    (p.act settings).Settles p.adds (fun _ => True) m := by
  cases p with
  | action a => exact Action.perform_settles hs settings a
  | value e =>
    exact (Act.Settles.eval (e.eval_settles hs)).bind fun _ _ _ h => .pure h.wellTyped trivial
  | condition e =>
    exact (Act.Settles.eval (e.evalLogic_settles hs)).bind fun _ _ _ h => .pure h.wellTyped trivial

theorem leaves_follow (p : Piece) {w : World} (hw : w.store.WellTyped) :
    w.store.Follows p.adds (p.leaves settings w).store := by
  have h : (p.act settings).Settles p.adds (fun _ => True) w.machine := p.act_settles hw
  unfold leaves
  cases hr : p.act settings w.machine with
  | ok _ m => exact (h.ok hr).2
  | error _ m => exact (h.error hr).2.mono (List.nil_subset _)

end Piece

/-! ## Runs -/

/-- What a part declares by itself. -/
def Part.adds : Part → List (String × Ty)
  | .piece p => p.adds
  | _ => []

/-- The store in front of a call and those inside it, unless they are inside other calls. -/
def Call.stores (c : Call) : List Store :=
  c.machine.store :: match c.part with
    | .piece p => (p.events c.machine.store).map Event.store
    | _ => []

/-- The declarations that were executed in a list of calls. -/
def declared (calls : List Call) : List (String × Ty) := calls.flatMap (·.part.adds)

theorem Part.leaves_follow (settings : Settings) (part : Part) {w : World}
    (hw : w.store.WellTyped) : w.store.Follows part.adds (part.leaves settings w).store := by
  cases part with
  | stmt | block => exact .refl hw
  | piece p => exact p.leaves_follow hw

theorem Path.follows {settings : Settings} {w w' : World} {calls : List Call}
    (h : Path settings w calls w') (hw : w.store.WellTyped) :
    w.store.Follows (declared calls) w'.store := by
  induction h with
  | nil => exact .refl hw
  | @cons part m _ _ _ _ ih =>
    have hpart := part.leaves_follow settings (w := m.world) hw
    exact hpart.trans (ih hpart.wellTyped)

theorem Call.stores_follow {c : Call} (hc : c.machine.store.WellTyped) :
    ∀ s ∈ c.stores, c.machine.store.Follows [] s := by
  obtain ⟨part, m, path⟩ := c
  unfold stores
  rw [List.forall_mem_cons]
  refine ⟨.refl hc, ?_⟩
  cases part with
  | stmt | block => exact nofun
  | piece p => simpa using p.events_follow hc

/-- From a store of a call to a store that a path from the call leads to. -/
theorem Call.retains {c : Call} (hc : c.machine.store.WellTyped) {s s' : Store} {calls : List Call}
    (hs : s ∈ c.stores) (h : c.machine.store.Retains (declared calls) s') :
    s.Retains (declared calls) s' :=
  (c.stores_follow hc s hs).retains.symm.trans h

namespace Program

variable {settings : Settings} {limit : Nat} {p : Program} {m : Machine}

/-- A run goes on from each of its calls, whose store is well typed, to the end. -/
theorem path_from {before after : List Call} {c : Call}
    (h : p.calls settings limit m = before ++ c :: after) : c.machine.store.WellTyped ∧
      Path settings c.machine.world (c :: after) (stateOf (p.exec settings limit m)).world := by
  have hpath := p.path settings limit m
  rw [h] at hpath
  obtain ⟨w, hbefore, hafter⟩ := hpath.split before
  have hw : w.store.WellTyped := (hbefore.follows .empty).wellTyped
  rw [← hafter.head] at hw hafter
  exact ⟨hw, hafter⟩

theorem call_wellTyped {c : Call} (hc : c ∈ p.calls settings limit m) :
    c.machine.store.WellTyped := by
  obtain ⟨before, after, h⟩ := List.append_of_mem hc
  exact (path_from h).1

/-- Every store of a run is well typed, and so is the one that it leaves. From one of these stores to
a later one all names stay bound, with their types but for those of the declarations between. -/
theorem store_safe (settings : Settings) (limit : Nat) (p : Program) (m : Machine) :
    ((∀ c ∈ p.calls settings limit m, ∀ s ∈ c.stores, s.WellTyped) ∧
      (stateOf (p.exec settings limit m)).store.WellTyped) ∧
    (∀ before c between d after,
      p.calls settings limit m = before ++ c :: (between ++ d :: after) →
      ∀ s ∈ c.stores, ∀ s' ∈ d.stores, s.Retains (declared (c :: between)) s') ∧
    ∀ before c after, p.calls settings limit m = before ++ c :: after →
      ∀ s ∈ c.stores, s.Retains (declared (c :: after)) (stateOf (p.exec settings limit m)).store := by
  refine ⟨⟨fun c hc s hs => ?_, ?_⟩, ?_, ?_⟩
  · exact (c.stores_follow (call_wellTyped hc) s hs).wellTyped
  · exact ((p.path settings limit m).follows .empty).wellTyped
  · intro before c between d after h s hs s' hs'
    obtain ⟨hc, hcalls⟩ := path_from h
    have hmem : d ∈ p.calls settings limit m := by simp [h]
    have hd := call_wellTyped hmem
    obtain ⟨w, hbetween, hafter⟩ := Path.split (c :: between) hcalls
    rw [← hafter.head] at hbetween
    -- from the store in front of `c` along the path to `d`, and on to the store inside `d`
    have hretains := (hbetween.follows hc).retains.trans (d.stores_follow hd s' hs').retains
    rw [List.append_nil] at hretains
    exact c.retains hc hs hretains
  · intro before c after h s hs
    obtain ⟨hc, hcalls⟩ := path_from h
    exact c.retains hc hs (hcalls.follows hc).retains

/-- An array into which a line is read. -/
def readArray : Program where
  stmts := [.action none (.declareArray "NUMBER" "xs" none), .action none (.input "xs")]

theorem readArray_store_safe :
    let m : Machine := .start (.scripted ["a"])
    let left := (stateOf (readArray.exec .default 10 m)).store
    (left.find? "xs" = some ⟨.array .number, .sentence "a"⟩ ∧ left.WellTyped) ∧
    ∃ before c d after, readArray.calls .default 10 m = before ++ c :: ([] ++ d :: after) ∧
      ∃ s ∈ c.stores, ∃ s' ∈ d.stores, s.contains "xs" = false ∧ s'.contains "xs" = true ∧
        s.WellTyped ∧ s.Retains (declared [c]) s' ∧ s.Retains (declared (c :: d :: after)) left := by
  have hsafe := store_safe .default 10 readArray (.start (.scripted ["a"]))
  refine ⟨⟨rfl, hsafe.1.2⟩, [_], _, _, [_], rfl, _, List.mem_cons_self, _, List.mem_cons_self,
    rfl, rfl, ?_, ?_, ?_⟩
  · exact hsafe.1.1 _ (List.mem_of_getElem? (i := 1) rfl) _ List.mem_cons_self
  · exact hsafe.2.1 [_] _ [] _ [_] rfl _ List.mem_cons_self _ List.mem_cons_self
  · exact hsafe.2.2 [_] _ _ rfl _ List.mem_cons_self

end Program

end Primer
