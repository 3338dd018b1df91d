import Primer.Run.Action

/-!
# Relations of acts

Actions are made of few acts: evaluations, output, and the reading and reporting of lines. A relation of
acts under two settings that holds of these and goes along with composition holds of every action, so
that what two runs have in common need not be shown for each action anew.
-/

namespace Primer

/-- Whether the action reads a line. -/
def Action.isInput : Action → Bool
  | .input _ | .inputElement _ _ => true
  | _ => false

/-- A relation of acts that holds of evaluations and of output and goes along with composition. -/
structure Act.Congruence where
  rel : {α : Type} → Act α → Act α → Prop
  pure : ∀ {α : Type} (a : α), rel (Pure.pure a) (Pure.pure a)
  throw : ∀ {α : Type} (f : Fault), rel (MonadExcept.throw f : Act α) (MonadExcept.throw f)
  bind : ∀ {α β : Type} {x y : Act α} {f g : α → Act β}, rel x y → (∀ a, rel (f a) (g a)) →
    rel (x >>= f) (y >>= g)
  eval : ∀ {α : Type} (e : Eval α), rel (Act.eval e) (Act.eval e)
  print : ∀ text, rel (Act.write (·.print text)) (Act.write (·.print text))

/-- A relation of acts under two settings that holds of the reading and reporting of lines, too. -/
structure Act.Reading (settings settings' : Settings) extends Act.Congruence where
  input : ∀ prompt, rel (Act.input settings prompt) (Act.input settings' prompt)
  warn : ∀ message, rel (Act.warn settings message) (Act.warn settings' message)

section
variable (L : Act.Congruence) (name : String) (e idx : Expr) (op : AssignOp)

namespace Act.Congruence

theorem lift {α : Type} (x : Except Fault α) : L.rel (Act.lift x) (Act.lift x) := by
  cases x with
  | ok a => exact L.pure a
  | error f => exact L.throw f

theorem read {α : Type} (look : Store → Except Fault α) : L.rel (Act.read look) (Act.read look) :=
  L.eval _

theorem change (update : Store → Except Fault Store) :
    L.rel (Act.change update) (Act.change update) :=
  L.eval _

end Act.Congruence

theorem performDeclare_related (ty : String) (init : Option Expr) :
    L.rel (performDeclare ty name init) (performDeclare ty name init) := by
  unfold performDeclare
  cases Primitive.ofName? ty with
  | none => exact L.throw _
  | some p =>
    cases init with
    | none => exact L.bind (L.pure _) fun _ => L.change _
    | some e => exact L.bind (L.eval _) fun v => L.bind (L.lift _) fun w => L.change _

theorem performDeclareArray_related (elem : String) (init : Option Expr) :
    L.rel (performDeclareArray elem name init) (performDeclareArray elem name init) := by
  unfold performDeclareArray
  cases Primitive.ofName? elem with
  | none => exact L.throw _
  | some p =>
    cases init with
    | none => exact L.bind (L.pure _) fun _ => L.change _
    | some e => exact L.bind (L.eval _) fun v => L.bind (L.lift _) fun a => L.change _

theorem assignedValue_related (v : Value) :
    L.rel (assignedValue name op v) (assignedValue name op v) := by
  cases op with
  | plain => exact L.pure v
  | compound op =>
    refine L.bind (L.read _) fun current => L.bind (L.lift _) fun a => ?_
    exact L.bind (L.lift _) fun b => L.bind (L.lift _) fun n => L.pure _

theorem performAssign_related : L.rel (performAssign name op e) (performAssign name op e) :=
  L.bind (L.eval _) fun v => L.bind (assignedValue_related L name op v) fun _ => L.change _

theorem performAssignArray_related :
    L.rel (performAssignArray name e) (performAssignArray name e) := by
  refine L.bind (L.read _) fun b => ?_
  cases b.ty.element? with
  | none => exact L.throw _
  | some elem => exact L.bind (L.eval _) fun v => L.bind (L.lift _) fun a => L.change _

theorem assignedElement_related (i : Float) (v : Value) :
    L.rel (assignedElement name i op v) (assignedElement name i op v) := by
  cases op with
  | plain => exact L.pure v
  | compound op =>
    refine L.bind (L.read _) fun a => L.bind (L.lift _) fun current => ?_
    split
    · exact L.pure _
    · refine L.bind (L.lift _) fun x => L.bind (L.lift _) fun y => ?_
      exact L.bind (L.lift _) fun n => L.pure _

theorem performAssignElement_related :
    L.rel (performAssignElement name idx op e) (performAssignElement name idx op e) := by
  refine L.bind (L.eval _) fun i => L.bind (L.eval _) fun v => ?_
  exact L.bind (assignedElement_related L name op i v) fun _ => L.eval _

theorem performSet_related : L.rel (performSet name idx e) (performSet name idx e) :=
  L.bind (L.eval _) fun _ => L.bind (L.eval _) fun _ => L.eval _

theorem performPush_related : L.rel (performPush name e) (performPush name e) :=
  L.bind (L.eval _) fun _ => L.eval _

theorem DisplayItem.shown_related (item : DisplayItem) : L.rel item.shown item.shown := by
  cases item with
  | expr e => exact L.bind (L.eval _) fun v => L.pure _
  | named n => exact L.bind (L.read _) fun v => L.pure _
  | literal raw => exact L.pure _

theorem shownAll_related (items : List DisplayItem) : L.rel (shownAll items) (shownAll items) := by
  induction items with
  | nil => exact L.pure []
  | cons item rest ih => exact L.bind (item.shown_related L) fun s => L.bind ih fun texts => L.pure _

theorem performDisplay_related (items : List DisplayItem) (newline : Bool) :
    L.rel (performDisplay items newline) (performDisplay items newline) := by
  refine L.bind (shownAll_related L items) fun texts => ?_
  cases newline with
  | true => exact L.print _
  | false => exact L.print _

/-- An action that reads no line does not depend on the settings. -/
theorem Action.perform_related {a : Action} (h : a.isInput = false) (settings settings' : Settings) :
    L.rel (a.perform settings) (a.perform settings') := by
  cases a with
  | declare ty name init => exact performDeclare_related L name ty init
  | assign name op value => exact performAssign_related L name value op
  | display item newline => exact performDisplay_related L _ newline
  | displayAll items newline => exact performDisplay_related L items newline
  | declareArray elem name init => exact performDeclareArray_related L name elem init
  | assignArray name value => exact performAssignArray_related L name value
  | assignElement name idx op value => exact performAssignElement_related L name value idx op
  | push name value => exact performPush_related L name value
  | set name idx value => exact performSet_related L name value idx
  | evaluate e => exact L.bind (L.eval _) fun _ => L.pure _
  | input | inputElement => cases h

end

namespace Act.Reading

variable {settings settings' : Settings} (L : Act.Reading settings settings')

theorem performInput (name : String) :
    L.rel (performInput settings name) (performInput settings' name) := by
  refine L.bind (L.read _) fun current => L.bind (L.input _) fun line => ?_
  split
  · split
    · exact L.change _
    · exact L.warn _
  · split
    · exact L.change _
    · exact L.warn _
  · exact L.change _

theorem performInputElement (name : String) (idx : Expr) :
    L.rel (performInputElement settings name idx) (performInputElement settings' name idx) := by
  refine L.bind (L.eval _) fun i => L.bind (L.read _) fun a => L.bind (L.lift _) fun _ => ?_
  exact L.bind (L.input _) fun line => L.bind (L.lift _) fun v => L.eval _

theorem perform (a : Action) : L.rel (a.perform settings) (a.perform settings') := by
  cases hinput : a.isInput with
  | false => exact a.perform_related L.toCongruence hinput settings settings'
  | true =>
    cases a with
    | input name => exact L.performInput name
    | inputElement name idx => exact L.performInputElement name idx
    | _ => cases hinput

end Act.Reading

end Primer
