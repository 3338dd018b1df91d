import Mathlib.Data.List.Forall2
import Primer.Proofs.Contents
import Primer.Proofs.Footprints

/-!
# Arrays as typed lists

The operations on an array act as on a list whose elements all have the element type. Each of them
either has its effect on the list, or fails and leaves it. The size grows by the pushes and shrinks
by the pops that succeed, and by nothing else.
-/

namespace Primer

/-- A traversal that succeeds relates the items one by one, in order. -/
theorem Yields.forall₂_of_mapM {α β ε : Type} {f : α → Except ε β} {xs : List α} {ys : List β}
    (h : xs.mapM f = .ok ys) : List.Forall₂ (fun x y => f x = .ok y) xs ys := by
  induction xs generalizing ys with
  | nil =>
    cases h
    exact .nil
  | cons x xs ih =>
    rw [List.mapM_cons] at h
    obtain ⟨y, hy, h⟩ := Yields.ok_of_bind h
    obtain ⟨rest, hrest, h⟩ := Yields.ok_of_bind h
    cases h
    exact .cons hy (ih hrest)

theorem Yields.exists_of_mapM {α β ε : Type} {f : α → Except ε β} {xs : List α} {fault : ε}
    (h : xs.mapM f = .error fault) : ∃ x ∈ xs, f x = .error fault :=
  (Yields.mapM (R := fun _ => True) (E := fun fault => ∃ x ∈ xs, f x = .error fault)
    fun x hx => ⟨fun _ => trivial, fun hf => ⟨x, hx, hf⟩⟩).error h

/-! ## Operations -/

/-- The operations on an array. -/
inductive ArrayOp where
  | push (v : Value)
  | pop
  | get (index : Float)
  | set (index : Float) (v : Value)
  | retype (elem : Primitive)

/-- How an operation ends: with the element that it returns, if it returns one, or with a fault. -/
abbrev ArrayOp.Outcome := Except Fault (Option Scalar)

namespace ArrayOp

/-- Performs an operation on an array in its place. -/
def run : ArrayOp → ArrayValue.Edit (Option Scalar)
  | push v => do
    ArrayValue.push v
    return none
  | pop => do return some (← ArrayValue.pop)
  | get index => do
    let a ← getThe ArrayValue
    return some (← MonadExcept.ofExcept (a.get index))
  | set index v => do
    ArrayValue.set index v
    return none
  | retype elem => do
    let a ← getThe ArrayValue
    let b ← MonadExcept.ofExcept (a.retype elem)
    modify fun _ => b
    return none

def outcome : EStateM.Result Fault ArrayValue (Option Scalar) → Outcome
  | .ok w _ => .ok w
  | .error f _ => .error f

/-- Performs operations in order, with how each of them ends. What an operation leaves is there for the
next one, also if it failed. -/
def runAll : List ArrayOp → ArrayValue → List (ArrayOp × Outcome) × ArrayValue
  | [], a => ([], a)
  | op :: ops, a =>
    let r := op.run a
    let (log, b) := runAll ops (stateOf r)
    ((op, outcome r) :: log, b)

/-! ## Effects on a list -/

/-- The faults of the operations, each with its reason. -/
inductive Fails (a : ArrayValue) : ArrayOp → Fault → Prop where
  | push {v f} : v.coerceElement a.elem = .error f → Fails a (.push v) f
  | pop : a.items.toList = [] → Fails a .pop .emptyArray
  | get {index f} : a.position index = .error f → Fails a (.get index) f
  | place {index v f} : a.position index = .error f → Fails a (.set index v) f
  | set {index v k f} : a.position index = .ok k → v.coerceElement a.elem = .error f →
      Fails a (.set index v) f
  | retype {elem w f} : w ∈ a.items.toList → (Value.scalar w).coerceElement elem = .error f →
      Fails a (.retype elem) f

/-- What an operation may do to the elements of an array, as a list. -/
inductive Effect (a : ArrayValue) : ArrayOp → Outcome → ArrayValue → Prop where
  | push {v w b} : v.coerceElement a.elem = .ok w → b.elem = a.elem →
      b.items.toList = a.items.toList ++ [w] → Effect a (.push v) (.ok none) b
  | pop {w b} : b.elem = a.elem → a.items.toList = b.items.toList ++ [w] →
      Effect a .pop (.ok (some w)) b
  | get {index k w} : a.position index = .ok k → a.items.toList[k]? = some w →
      Effect a (.get index) (.ok (some w)) a
  | set {index k v w b} : a.position index = .ok k → k < a.size → v.coerceElement a.elem = .ok w →
      b.elem = a.elem → b.items.toList = a.items.toList.set k w →
      Effect a (.set index v) (.ok none) b
  | retype {elem b} : b.elem = elem →
      List.Forall₂ (fun w w' => (Value.scalar w).coerceElement elem = .ok w')
        a.items.toList b.items.toList →
      Effect a (.retype elem) (.ok none) b
  | failed {op f} : Fails a op f → Effect a op (.error f) a

/-- A run of operations, each with its effect. -/
inductive Effects : ArrayValue → List (ArrayOp × Outcome) → ArrayValue → Prop where
  | nil {a} : Effects a [] a
  | cons {a b c op outcome log} : Effect a op outcome b → Effects b log c →
      Effects a ((op, outcome) :: log) c

/-! ## What every effect keeps -/

section

variable {a b : ArrayValue} {op : ArrayOp} {outcome : Outcome} {log : List (ArrayOp × Outcome)}

theorem primitive_of_coerced {elem : Primitive} {xs ys : List Scalar}
    (h : List.Forall₂ (fun w w' => (Value.scalar w).coerceElement elem = .ok w') xs ys) :
    ∀ w ∈ ys, w.primitive = elem := by
  induction h with
  | nil => nofun
  | cons hw _ ih =>
    exact List.forall_mem_cons.mpr ⟨(Value.coerceElement_gives elem _).ok hw, ih⟩

/-- The elements stay elements of the element type. -/
theorem Effect.of (h : Effect a op outcome b) (ha : a.Of a.elem) : b.Of b.elem := by
  refine ⟨rfl, fun x hx => ?_⟩
  rw [← Array.mem_toList_iff] at hx
  have hitems : ∀ w ∈ a.items.toList, w.primitive = a.elem := by simpa using ha.2
  cases h with
  | push hw helem hb =>
    rw [hb, List.mem_append, List.mem_singleton] at hx
    rcases hx with hx | rfl
    · exact helem ▸ hitems x hx
    · exact helem ▸ (Value.coerceElement_gives _ _).ok hw
  | pop helem hb =>
    rw [hb] at hitems
    exact helem ▸ hitems x (List.mem_append_left _ hx)
  | get => exact hitems x hx
  | set _ _ hw helem hb =>
    rw [hb] at hx
    rcases List.mem_or_eq_of_mem_set hx with hx | rfl
    · exact helem ▸ hitems x hx
    · exact helem ▸ (Value.coerceElement_gives _ _).ok hw
  | retype helem hb => exact helem ▸ primitive_of_coerced hb x hx
  | failed => exact hitems x hx

/-- A push that succeeded. -/
def pushed : ArrayOp × Outcome → Bool
  | (push _, .ok _) => true
  | _ => false

/-- A pop that succeeded. -/
def popped : ArrayOp × Outcome → Bool
  | (pop, .ok _) => true
  | _ => false

/-- The size follows the pushes and the pops that succeed. -/
theorem Effect.size (h : Effect a op outcome b) :
    b.size + [(op, outcome)].countP popped = a.size + [(op, outcome)].countP pushed := by
  simp only [ArrayValue.size, ← Array.length_toList]
  cases h with
  | push _ _ hb => rw [hb]; simp [pushed, popped]
  | pop _ hb => rw [hb]; simp [pushed, popped]
  | get => rfl
  | set _ _ _ _ hb => rw [hb, List.length_set]; rfl
  | retype _ hb => rw [hb.length_eq]; rfl
  | failed => simp [pushed, popped]

theorem Effects.of (h : Effects a log b) (ha : a.Of a.elem) : b.Of b.elem := by
  induction h with
  | nil => exact ha
  | cons heffect _ ih => exact ih (heffect.of ha)

theorem Effects.size (h : Effects a log b) :
    b.size + log.countP popped = a.size + log.countP pushed := by
  induction h with
  | nil => rfl
  | cons heffect _ ih =>
    have hstep := heffect.size
    rw [← List.singleton_append, List.countP_append, List.countP_append]
    omega

end

/-! ## Every operation has its effect -/

variable {a b : ArrayValue}

/-- What an operation makes of an array is an effect, and its fault has a reason. -/
abbrev Acts (a : ArrayValue) (op : ArrayOp) : Prop :=
  op.run.Makes a (fun w b => Effect a op (.ok w) b) (Fails a op)

theorem acts_push (a : ArrayValue) (v : Value) : Acts a (push v) :=
  .andThen (.push ⟨fun hw => .push hw rfl Array.toList_push, .push⟩)

theorem acts_pop (a : ArrayValue) : Acts a pop := by
  refine .andThen (a.pop_last.mono (fun w b h => ?_) fun f h => ?_)
  · exact .pop h.1 (by rw [h.2, Array.toList_push])
  · obtain ⟨rfl, hempty⟩ := h
    exact .pop (by rw [hempty])

theorem acts_get (a : ArrayValue) (index : Float) : Acts a (get index) := by
  refine .get (.check ?_ fun w hw => .pure hw)
  unfold ArrayValue.get
  cases hk : a.position index with
  | error f => exact .fault (.get hk)
  | ok k =>
    have hsize : k < a.items.size := (a.position_yields index).ok hk
    simp only [Array.getElem?_eq_getElem hsize]
    exact .value (.get hk (by simp [hsize]))

theorem acts_set (a : ArrayValue) (index : Float) (v : Value) : Acts a (set index v) := by
  refine .andThen (.set ⟨fun {k} hk => ?_, .place⟩)
  have hsize : k < a.size := (a.position_yields index).ok hk
  exact ⟨fun hw => .set hk hsize hw rfl Array.toList_setIfInBounds, .set hk⟩

/-- Elements of the element type are coerced to themselves. -/
theorem forall₂_coerce_self {items : List Scalar} {elem : Primitive}
    (h : ∀ w ∈ items, w.primitive = elem) :
    List.Forall₂ (fun w w' => (Value.scalar w).coerceElement elem = .ok w') items items := by
  refine List.forall₂_same.mpr fun w hw => ?_
  rw [← h w hw, Value.coerceElement_self]

theorem acts_retype (ha : a.Of a.elem) (elem : Primitive) : Acts a (retype elem) := by
  refine .get (.check ?_ fun b hb => .andThen (.write hb))
  unfold ArrayValue.retype
  split_ifs with helem
  -- an array of the type already is left as it is, which is what coercing each element makes of it
  · exact .value (.retype helem.symm (forall₂_coerce_self (by simpa [helem] using ha.2)))
  · refine .map ⟨fun h => .retype rfl ?_, fun h => ?_⟩
    · simpa using Yields.forall₂_of_mapM h
    · obtain ⟨_, hmem, hf⟩ := Yields.exists_of_mapM h
      obtain ⟨w, hw, rfl⟩ := List.mem_map.mp hmem
      exact .retype hw hf

theorem acts (ha : a.Of a.elem) : ∀ op, Acts a op
  | push v => acts_push a v
  | pop => acts_pop a
  | get index => acts_get a index
  | set index v => acts_set a index v
  | retype elem => acts_retype ha elem

theorem run_effect (ha : a.Of a.elem) (op : ArrayOp) :
    Effect a op (outcome (op.run a)) (stateOf (op.run a)) := by
  have h := acts ha op
  cases hrun : op.run a with
  | ok w b => exact h.ok hrun
  | error f b =>
    obtain ⟨rfl, hf⟩ := h.error hrun
    exact .failed hf

theorem runAll_effects (ha : a.Of a.elem) (ops : List ArrayOp) :
    Effects a (runAll ops a).1 (runAll ops a).2 := by
  induction ops generalizing a with
  | nil => exact .nil
  | cons op ops ih => exact .cons (run_effect ha op) (ih ((run_effect ha op).of ha))

/-- A pop takes what a push has appended. -/
theorem pop_push {v : Value} (h : (push v).run a = .ok none b) :
    ∃ w, v.coerceElement a.elem = .ok w ∧ pop.run b = .ok (some w) a := by
  cases (acts_push a v).ok h with
  | @push _ w _ hw helem hpushed =>
    refine ⟨w, hw, ?_⟩
    cases hpop : pop.run b with
    | error f c =>
      cases ((acts_pop b).error hpop).2 with
      | pop hempty => simp [hempty] at hpushed
    | ok r c =>
      cases (acts_pop b).ok hpop with
      | pop helem' hpopped =>
        obtain ⟨hitems, hlast⟩ := List.append_inj' (hpopped.symm.trans hpushed) rfl
        cases hlast
        obtain ⟨elem, items⟩ := a
        obtain ⟨elem', items'⟩ := c
        obtain rfl := helem'.trans helem
        obtain rfl := Array.toList_inj.mp hitems
        rfl

end ArrayOp

/-! ## Arrays -/

/-- The ways to make an array. -/
inductive ArrayValue.Made : ArrayValue → Prop where
  | empty (elem : Primitive) : Made (.empty elem)
  | ofSize {elem size a} : ArrayValue.ofSize elem size = .ok a → Made a
  | ofValues {elem values a} : ArrayValue.ofValues elem values = .ok a → Made a

theorem ArrayValue.Made.of {a : ArrayValue} (h : a.Made) : a.Of a.elem := by
  cases h with
  | empty elem => exact of_empty elem
  | @ofSize elem size _ h =>
    have ha := (ofSize_gives elem size).ok h
    exact ha.1 ▸ ha
  | @ofValues elem values _ h =>
    have ha := (ofValues_gives elem values).ok h
    exact ha.1 ▸ ha

/-- A run of operations as a run on a typed list, from an array with the outcomes of the log to
another one. -/
structure ArrayOp.ListRun (a : ArrayValue) (log : List (ArrayOp × Outcome)) (b : ArrayValue) :
    Prop where
  /-- Each operation of the run has its effect. -/
  effects : Effects a log b
  typed : ∀ w ∈ b.items, w.primitive = b.elem
  /-- An operation that fails next leaves the array. -/
  unchanged : ∀ op f c, run op b = .error f c → c = b
  /-- A push and a pop after it leave the array, and the pop returns what was pushed. -/
  restored : ∀ v c, (push v).run b = .ok none c →
    ∃ w, v.coerceElement b.elem = .ok w ∧ pop.run c = .ok (some w) b
  size : b.size + log.countP popped = a.size + log.countP pushed

/-- However an array is made, and whatever operations follow, it acts as a typed list. -/
theorem ArrayValue.Made.runs_as_list {a b : ArrayValue} {ops : List ArrayOp}
    {log : List (ArrayOp × ArrayOp.Outcome)} (ha : a.Made)
    (hrun : ArrayOp.runAll ops a = (log, b)) : ArrayOp.ListRun a log b := by
  have heffects := ArrayOp.runAll_effects ha.of ops
  rw [hrun] at heffects
  exact {
    effects := heffects
    typed := (heffects.of ha.of).2
    unchanged := fun op _ _ h => ((ArrayOp.acts (heffects.of ha.of) op).error h).1
    restored := fun _ _ => ArrayOp.pop_push
    size := heffects.size }

/-- Two pushes and two pops. -/
def ArrayOp.letterOps : List ArrayOp := [.push (.sentence "a"), .push (.sentence "bc"), .pop, .pop]

/-- A text of one letter is pushed as the letter, a longer one is not, and nothing is left for the
second pop. -/
def ArrayOp.letterLog : List (ArrayOp × Outcome) :=
  [(.push (.sentence "a"), .ok none),
    (.push (.sentence "bc"), .error (.badElement .letter "bc")),
    (.pop, .ok (some (.letter 'a'))),
    (.pop, .error .emptyArray)]

theorem ArrayValue.Made.letters_run_as_list :
    (ArrayValue.empty .letter).Made ∧
      ArrayOp.runAll ArrayOp.letterOps (.empty .letter) = (ArrayOp.letterLog, .empty .letter) ∧
      ArrayOp.ListRun (.empty .letter) ArrayOp.letterLog (.empty .letter) := by
  have hrun : ArrayOp.runAll ArrayOp.letterOps (.empty .letter) =
      (ArrayOp.letterLog, .empty .letter) := rfl
  exact ⟨.empty .letter, hrun, runs_as_list (.empty .letter) hrun⟩

end Primer
