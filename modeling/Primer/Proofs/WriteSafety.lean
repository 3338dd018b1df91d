import Primer.Proofs.ActionNames

/-!
# The safety of writes

An accepted write whose operands have values stores what it should, or fails in the arithmetic, in
an index or in converting an operand. Only an assignment to an array as to a variable is different:
the check accepts it for an array of the same type, and the run refuses it.
-/

namespace Primer

/-- Every name that the context knows is bound. -/
def Store.Covers (Γ : Context) (s : Store) : Prop := ∀ n ty, Γ n = some ty → s.contains n = true

theorem Store.Agrees.known {t : ScopeTree} {s : Store} (hs : s.Agrees t.lookup?)
    (hc : s.Covers t.lookup?) : t.Known := by
  intro n ty hn hty
  obtain ⟨b, hb⟩ := contains_iff.mp (hc n ty hn)
  have hholds := (hs n ty b hn hb).2
  rw [hty] at hholds
  exact hholds

theorem Store.Covers.defined {Γ : Context} {s : Store} {f : Fault} (hc : s.Covers Γ)
    (hf : f.Blames Γ s) (n : String) : f ≠ .undefinedVariable n := by
  rintro rfl
  obtain ⟨⟨ty, hn⟩, hfree⟩ := hf
  exact Bool.eq_false_iff.mp hfree (hc n ty hn)

namespace Action

variable {t : ScopeTree} {a : Action} {settings : Settings} {m : Machine} {vs : List Value}
  {s : Store}

theorem write_stores (h : (a.check t).problems = []) (hw : a.isWrite = true)
    (hs : m.store.Agrees t.lookup?) (hc : m.store.Covers t.lookup?)
    (ho : Expr.evalAll (a.check t).result.operands m.store = .ok vs s)
    (hscalar : ¬a.AssignsArray t.lookup?) :
    (∃ n ty v, Stores s (a.check t).result vs n ty v ∧
      (a.check t).result.perform settings m = .ok () { m with store := s.declare n ty v }) ∨
    ∃ f, WriteFault vs f ∧ (a.check t).result.perform settings m = .error f { m with store := s } := by
  have htyped := check_typed (hs.known hc) h
  have hgrows := perform_grows (m := m) settings htyped
  rw [← check_isWrite t] at hw
  rw [← check_assignsArray t] at hscalar
  have hends := perform_writes settings hw htyped hscalar hs
  cases hr : (a.check t).result.perform settings m with
  | ok u m' =>
    obtain ⟨vs', s', n, ty, v, ho', hstores, rfl⟩ := hends.ok hr
    rw [ho] at ho'
    cases ho'
    exact .inl ⟨n, ty, v, hstores, rfl⟩
  | error f m' =>
    cases hends.error hr with
    | operand ho' =>
      rw [ho] at ho'
      cases ho'
    | unbound hf => exact absurd hf (hc.defined (hgrows.error hr) _)
    | store ho' hf =>
      rw [ho] at ho'
      cases ho'
      exact .inr ⟨f, hf, rfl⟩

theorem write_refused (h : (a.check t).problems = []) (hs : m.store.Agrees t.lookup?)
    (hc : m.store.Covers t.lookup?)
    (ho : Expr.evalAll (a.check t).result.operands m.store = .ok vs s)
    (harray : a.AssignsArray t.lookup?) :
    ∃ p, (a.check t).result.perform settings m =
      .error (.typeMismatch "scalar variable" (Ty.array p).text) { m with store := s } := by
  have htyped := check_typed (hs.known hc) h
  have hgrows := perform_grows (m := m) settings htyped
  rw [← check_assignsArray t] at harray
  generalize (a.check t).result = a' at *
  cases a' with
  | assign n op value =>
    obtain ⟨p, hn⟩ := harray
    rw [perform] at hgrows ⊢
    have hends := performAssign_array htyped hn hs
    cases hr : performAssign n op value m with
    | ok u m' => exact (hends.ok hr).elim
    | error f m' =>
      rcases hends.error hr with ⟨s', ho', -⟩ | ⟨n', hf⟩ | ⟨vs', s', ho', rfl, rfl⟩
      · rw [operands, ho'] at ho
        cases ho
      · exact absurd hf (hc.defined (hgrows.error hr) n')
      · rw [operands, ho'] at ho
        cases ho
        exact ⟨p, rfl⟩
  | _ => exact harray.elim

/-- An accepted write whose operands have values is refused if it assigns to an array as to a variable;
otherwise it stores its value, or fails in the arithmetic, in an index or in converting an operand. -/
theorem accepted_write (h : (a.check t).problems = []) (hw : a.isWrite = true)
    (hs : m.store.Agrees t.lookup?) (hc : m.store.Covers t.lookup?)
    (ho : Expr.evalAll (a.check t).result.operands m.store = .ok vs s) (settings : Settings) :
    (a.AssignsArray t.lookup? → ∃ p, (a.check t).result.perform settings m =
      .error (.typeMismatch "scalar variable" (Ty.array p).text) { m with store := s }) ∧
    (¬a.AssignsArray t.lookup? →
      (∃ n ty v, Stores s (a.check t).result vs n ty v ∧
        (a.check t).result.perform settings m = .ok () { m with store := s.declare n ty v }) ∨
      ∃ f, WriteFault vs f ∧
        (a.check t).result.perform settings m = .error f { m with store := s }) :=
  ⟨write_refused h hs hc ho, write_stores h hw hs hc ho⟩

/-- The scopes in front of an assignment between two arrays. -/
def arrayScopes : ScopeTree :=
  (ScopeTree.start.declare "xs" (.array .number) true).declare "ys" (.array .number) true

def arrayMachine : Machine where
  store := (Store.empty.declare "xs" (.array .number) (.array (.empty .number))).declare "ys"
    (.array .number) (.array (.empty .number))
  frames := []
  console := .silent

theorem array_assignment_refused :
    ((assign "ys" .plain (.var .unknown "xs")).check arrayScopes).problems = [] ∧
    ∃ p, ((assign "ys" .plain (.var .unknown "xs")).check arrayScopes).result.perform .default
      arrayMachine = .error (.typeMismatch "scalar variable" (Ty.array p).text) arrayMachine := by
  have hs : arrayMachine.store.Agrees arrayScopes.lookup? := by
    have hempty : (Ty.array .number).Holds (.array (.empty .number)) := ArrayValue.of_empty .number
    refine (Store.Agrees.empty.declare (fun known hn => ?_) hempty).declare (fun known hn => ?_) hempty
    · exact (Option.some.inj hn).symm
    · exact (Option.some.inj hn).symm
  have hc : arrayMachine.store.Covers arrayScopes.lookup? := by
    intro n ty hn
    have hmem : (n, ty) ∈ [("ys", Ty.array .number), ("xs", .array .number)] :=
      ScopeTree.mem_declared hn
    rcases List.mem_cons.mp hmem with h | h
    · cases h
      rfl
    · cases List.mem_singleton.mp h
      rfl
  exact ⟨rfl, (accepted_write rfl rfl hs hc rfl .default).1 ⟨.number, rfl⟩⟩

end Action

end Primer
