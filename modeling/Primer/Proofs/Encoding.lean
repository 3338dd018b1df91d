import Primer.Proofs.Erasure
import Primer.Proofs.JsonText
import Primer.Proofs.LiteralValues
import Primer.Syntax.Decode
import Primer.Syntax.Encode

/-!
# Reading back programs

The JSON value that writes a program holds the whole program but its types, so that it is read back
as the program without types, as far as it may nest.
-/

namespace Primer

/-! ## Nesting -/

namespace Json

mutual
/-- How many arrays and objects stand inside one another. -/
def nesting : Json → Nat
  | .arr items => nestingAll items + 1
  | .obj members => nestingMembers members + 1
  | .null | .bool _ | .num _ | .str _ | .garbled => 0

def nestingAll : List Json → Nat
  | [] => 0
  | j :: rest => max (nesting j) (nestingAll rest)

def nestingMembers : List (String × Json) → Nat
  | [] => 0
  | (_, j) :: rest => max (nesting j) (nestingMembers rest)
end

theorem nesting_variant (name : String) (content : Json) :
    (variant name content).nesting = content.nesting + 1 := by
  simp [variant, nesting, nestingMembers]

theorem nesting_variantOf (name : String) (fields : List (String × Json)) :
    (variantOf name fields).nesting = nestingMembers fields + 2 := by
  rw [variantOf, nesting_variant, nesting]

end Json

theorem Json.option?_eq {α : Type} {read : Json → Option α} {j : Json} (h : j ≠ .null) :
    j.option? read = (read j).map some := by
  cases j <;> first | rfl | exact absurd rfl h

theorem Json.option?_ofOption {α : Type} {write : α → Json} {read : Json → Option α} {f : α → α}
    {o : Option α} (hne : ∀ a, write a ≠ .null) (h : ∀ a ∈ o, read (write a) = some (f a)) :
    (ofOption write o).option? read = some (o.map f) := by
  cases o with
  | none => rfl
  | some a =>
    rw [ofOption, option?_eq (hne a), h a rfl]
    rfl

/-! The records that a program is written with are found by computation. -/

attribute [simp] Json.variant Json.variantOf Json.record? Json.membersOf Json.named? Json.string?
  Json.bool? Field.of? Field.required Field.maybe

/-! ## Names and lines -/

@[simp] theorem BinaryOp.ofName?_name (op : BinaryOp) : ofName? op.name = some op := by
  cases op with
  | arith op => cases op <;> rfl
  | order op => cases op <;> rfl
  | logic op => cases op <;> rfl
  | equal | notEqual => rfl

@[simp] theorem UnaryOp.ofName?_name (op : UnaryOp) : ofName? op.name = some op := by
  cases op <;> rfl

@[simp] theorem AssignOp.ofName?_name (op : AssignOp) : ofName? op.name = some op := by
  cases op with
  | plain => rfl
  | compound op => cases op <;> rfl

@[simp] theorem StepOp.ofName?_name (op : StepOp) : ofName? op.name = some op := by
  cases op <;> rfl

@[simp] theorem Fixity.ofName?_name (f : Fixity) : ofName? f.name = some f := by
  cases f <;> rfl

theorem Jump.ofName?_name (j : Jump) : ofName? j.name = some j := by
  cases j <;> rfl

theorem Line.ofJson?_toJson (line : Line) : Line.ofJson? (Line.toJson line) = some line := by
  have hdigits : (Nat.toDigits 10 line.toNat).all Char.isDigit = true :=
    List.all_eq_true.mpr fun c hc => Nat.isDigit_of_mem_toDigits (by decide) (by decide) hc
  have hlt : line.toNat < Nat.pow 2 32 := line.toNat_lt
  simp only [Line.toJson, Json.ofNat, Line.ofJson?, Numeric.digitsValue_toDigits, hdigits, hlt, decide_true,
    Bool.and_self, if_true, UInt32.ofNat_toNat]

/-! ## Expressions -/

namespace Expr

mutual
theorem ofJson?_toJson : (e : Expr) → (d : Nat) → e.toJson.nesting ≤ d →
    ofJson? d e.toJson = some e.erase
  | .lit _ _, d, h | .var _ _, d, h | .length _ _, d, h | .pop _ _, d, h => by
      simp only [toJson, Json.nesting_variant] at h
      obtain ⟨d, rfl⟩ : ∃ k, d = k + 1 := ⟨d - 1, by omega⟩
      rfl
  | .binary _ op left right, d, h => by
      simp only [toJson, Json.nesting_variantOf, Json.nestingMembers] at h
      obtain ⟨d, rfl⟩ : ∃ k, d = k + 2 := ⟨d - 2, by omega⟩
      have hl := ofJson?_toJson left d (by omega)
      have hr := ofJson?_toJson right d (by omega)
      simp [toJson, ofJson?, hl, hr, erase]
  | .unary _ op operand, d, h => by
      simp only [toJson, Json.nesting_variantOf, Json.nestingMembers] at h
      obtain ⟨d, rfl⟩ : ∃ k, d = k + 2 := ⟨d - 2, by omega⟩
      have ho := ofJson?_toJson operand d (by omega)
      simp [toJson, ofJson?, ho, erase]
  | .step _ name op fixity, d, h => by
      simp only [toJson, Json.nesting_variantOf] at h
      obtain ⟨d, rfl⟩ : ∃ k, d = k + 2 := ⟨d - 2, by omega⟩
      simp [toJson, ofJson?, erase]
  | .arrayOf _ elems, d, h => by
      simp only [toJson, Json.nesting_variant, Json.nesting] at h
      obtain ⟨d, rfl⟩ : ∃ k, d = k + 2 := ⟨d - 2, by omega⟩
      have helems := ofJson?_toJsonAll elems d (by omega)
      simp [toJson, ofJson?, helems, erase]
  | .newArray _ elem size, d, h => by
      simp only [toJson, Json.nesting_variantOf, Json.nestingMembers] at h
      obtain ⟨d, rfl⟩ : ∃ k, d = k + 2 := ⟨d - 2, by omega⟩
      have hs := ofJson?_toJson size d (by omega)
      simp [toJson, ofJson?, hs, erase]
  | .index _ name idx, d, h => by
      simp only [toJson, Json.nesting_variantOf, Json.nestingMembers] at h
      obtain ⟨d, rfl⟩ : ∃ k, d = k + 2 := ⟨d - 2, by omega⟩
      have hi := ofJson?_toJson idx d (by omega)
      simp [toJson, ofJson?, hi, erase]

theorem ofJson?_toJsonAll : (es : List Expr) → (d : Nat) → Json.nestingAll (toJsonAll es) ≤ d →
    (toJsonAll es).mapM (ofJson? d) = some (eraseAll es)
  | [], _, _ => rfl
  | e :: rest, d, h => by
      simp only [toJsonAll, Json.nestingAll] at h
      have he := ofJson?_toJson e d (by omega)
      have hrest := ofJson?_toJsonAll rest d (by omega)
      simp only [toJsonAll, List.mapM_cons, he, hrest, eraseAll]
      rfl
end

theorem option?_ofOption {e : Option Expr} {d : Nat} (h : (Json.ofOption toJson e).nesting ≤ d) :
    (Json.ofOption toJson e).option? (ofJson? d) = some (e.map erase) := by
  refine Json.option?_ofOption (fun e => ?_) fun e he => ?_
  · cases e <;> simp [toJson]
  · cases he
    exact e.ofJson?_toJson d h

end Expr

/-! ## Actions -/

theorem DisplayItem.ofJson?_toJson {i : DisplayItem} {d : Nat} (h : i.toJson.nesting ≤ d) :
    DisplayItem.ofJson? d i.toJson = some i.erase := by
  cases i with
  | expr e =>
    simp only [toJson, Json.nesting_variant] at h
    obtain ⟨d, rfl⟩ : ∃ k, d = k + 1 := ⟨d - 1, by omega⟩
    have he := e.ofJson?_toJson d (by omega)
    simp [toJson, ofJson?, he, erase]
  | named | literal =>
    simp only [toJson, Json.nesting_variant] at h
    obtain ⟨d, rfl⟩ : ∃ k, d = k + 1 := ⟨d - 1, by omega⟩
    rfl

theorem DisplayItem.option?_ofOption {i : Option DisplayItem} {d : Nat}
    (h : (Json.ofOption toJson i).nesting ≤ d) :
    (Json.ofOption toJson i).option? (ofJson? d) = some (i.map erase) := by
  refine Json.option?_ofOption (fun i => ?_) fun i hi => ?_
  · cases i <;> simp [toJson]
  · cases hi
    exact ofJson?_toJson h

theorem DisplayItem.list?_toJson (items : List DisplayItem) {d : Nat}
    (h : (Json.arr (items.map toJson)).nesting ≤ d) :
    (Json.arr (items.map toJson)).list? ofJson? d = some (items.map erase) := by
  rw [Json.nesting] at h
  obtain ⟨d, rfl⟩ : ∃ k, d = k + 1 := ⟨d - 1, by omega⟩
  rw [Json.list?]
  induction items with
  | nil => rfl
  | cons i rest ih =>
    simp only [List.map_cons, Json.nestingAll] at h
    have hi := ofJson?_toJson (i := i) (d := d) (by omega)
    simp only [List.map_cons, List.mapM_cons, hi, ih (by omega)]
    rfl

/-- Every action but the evaluation of an expression is read from its record. -/
theorem Stmt.ofKind?_record (line : Option Line) (d : Nat) {tag : String} (j : Json)
    (h : tag ∉ ["Break", "Continue", "If", "Loop", "DoWhile", "Switch", "Expr"]) :
    Stmt.ofKind? line (d + 2) (.variant tag j) = (Action.ofRecord? d tag j).map (.action line) := by
  simp only [List.mem_cons, List.not_mem_nil, or_false, not_or] at h
  obtain ⟨hbreak, hcontinue, hif, hloop, hdo, hswitch, hexpr⟩ := h
  have hjump : Jump.ofName? tag = none := by
    simp [Jump.ofName?, Jump.name, Ne.symm hbreak, Ne.symm hcontinue]
  rw [Json.variant, ofKind?.eq_8 line (d + 1) tag j hjump (fun _ h _ => hif h)
    (fun _ h _ => hloop h) (fun _ h _ => hdo h) (fun _ h _ => hswitch h), Action.ofContent?]
  exact hexpr

theorem Action.ofKind?_toJson {a : Action} {d : Nat} (line : Option Line)
    (h : a.toJson.nesting ≤ d) : Stmt.ofKind? line d a.toJson = some (.action line a.erase) := by
  cases a with
  | evaluate e =>
    simp only [toJson, Json.nesting_variant] at h
    obtain ⟨d, rfl⟩ : ∃ k, d = k + 1 := ⟨d - 1, by omega⟩
    have he := e.ofJson?_toJson d (by omega)
    simp [toJson, Stmt.ofKind?, Jump.ofName?, Jump.name, ofContent?, he, erase]
  | declare ty name init | declareArray elem name init =>
    simp only [toJson, Json.nesting_variantOf, Json.nestingMembers] at h
    obtain ⟨d, rfl⟩ : ∃ k, d = k + 2 := ⟨d - 2, by omega⟩
    have hi := Expr.option?_ofOption (e := init) (d := d) (by omega)
    rw [toJson, Json.variantOf, Stmt.ofKind?_record _ _ _ (by decide)]
    simp [ofRecord?, hi, erase]
  | assign name op value | assignArray name value | push name value =>
    simp only [toJson, Json.nesting_variantOf, Json.nestingMembers] at h
    obtain ⟨d, rfl⟩ : ∃ k, d = k + 2 := ⟨d - 2, by omega⟩
    have hv := value.ofJson?_toJson d (by omega)
    rw [toJson, Json.variantOf, Stmt.ofKind?_record _ _ _ (by decide)]
    simp [ofRecord?, hv, erase]
  | display item newline =>
    simp only [toJson, Json.nesting_variantOf, Json.nestingMembers] at h
    obtain ⟨d, rfl⟩ : ∃ k, d = k + 2 := ⟨d - 2, by omega⟩
    have hi := DisplayItem.option?_ofOption (i := item) (d := d) (by omega)
    rw [toJson, Json.variantOf, Stmt.ofKind?_record _ _ _ (by decide)]
    simp [ofRecord?, hi, erase]
  | displayAll items newline =>
    simp only [toJson, Json.nesting_variantOf, Json.nestingMembers] at h
    obtain ⟨d, rfl⟩ : ∃ k, d = k + 2 := ⟨d - 2, by omega⟩
    have hi := DisplayItem.list?_toJson items (d := d) (by omega)
    rw [toJson, Json.variantOf, Stmt.ofKind?_record _ _ _ (by decide)]
    simp [ofRecord?, hi, erase]
  | input name =>
    simp only [toJson, Json.nesting_variantOf] at h
    obtain ⟨d, rfl⟩ : ∃ k, d = k + 2 := ⟨d - 2, by omega⟩
    rw [toJson, Json.variantOf, Stmt.ofKind?_record _ _ _ (by decide)]
    simp [ofRecord?, erase]
  | assignElement name idx op value | set name idx value =>
    simp only [toJson, Json.nesting_variantOf, Json.nestingMembers] at h
    obtain ⟨d, rfl⟩ : ∃ k, d = k + 2 := ⟨d - 2, by omega⟩
    have hi := idx.ofJson?_toJson d (by omega)
    have hv := value.ofJson?_toJson d (by omega)
    rw [toJson, Json.variantOf, Stmt.ofKind?_record _ _ _ (by decide)]
    simp [ofRecord?, hi, hv, erase]
  | inputElement name idx =>
    simp only [toJson, Json.nesting_variantOf, Json.nestingMembers] at h
    obtain ⟨d, rfl⟩ : ∃ k, d = k + 2 := ⟨d - 2, by omega⟩
    have hi := idx.ofJson?_toJson d (by omega)
    rw [toJson, Json.variantOf, Stmt.ofKind?_record _ _ _ (by decide)]
    simp [ofRecord?, hi, erase]

/-! ## Statements -/

theorem Json.nesting_statement (kind : Json) (line : Option Line) :
    (Json.statement kind line).nesting = kind.nesting + 1 := by
  cases line <;> simp [statement, ofOption, Line.toJson, ofNat, nesting, nestingMembers]

namespace Stmt

theorem ofJson?_statement (d : Nat) (kind : Json) (line : Option Line) :
    ofJson? (d + 1) (Json.statement kind line) = ofKind? line d kind := by
  have hline : (Json.ofOption Line.toJson line).option? Line.ofJson? = some (line.map id) :=
    Json.option?_ofOption (fun _ => nofun) fun line _ => line.ofJson?_toJson
  rw [Option.map_id] at hline
  simp [ofJson?, Json.statement, Json.statement?, hline]

theorem toJson_ne_null (s : Stmt) : s.toJson ≠ .null := by
  cases s <;> simp [toJson, Json.statement]

mutual
theorem ofJson?_toJson : (s : Stmt) → (d : Nat) → s.toJson.nesting ≤ d →
    ofJson? d s.toJson = some s.erase
  | .action line a, d, h => by
      simp only [toJson, Json.nesting_statement] at h
      obtain ⟨d, rfl⟩ : ∃ k, d = k + 1 := ⟨d - 1, by omega⟩
      rw [toJson, ofJson?_statement, a.ofKind?_toJson line (by omega), erase]
  | .jump line j, d, h => by
      simp only [toJson, Json.nesting_statement] at h
      obtain ⟨d, rfl⟩ : ∃ k, d = k + 1 := ⟨d - 1, by omega⟩
      rw [toJson, ofJson?_statement, ofKind?, Jump.ofName?_name, erase]
      rfl
  | .branch line cond body elseIfs otherwise, d, h => by
      simp only [toJson, Json.nesting_statement, Json.nesting_variantOf, Json.nestingMembers] at h
      obtain ⟨d, rfl⟩ : ∃ k, d = k + 3 := ⟨d - 3, by omega⟩
      have hc := cond.ofJson?_toJson d (by omega)
      have hb := body?_toJson body d (by omega)
      have he := arms?_toJson "cond" (by decide) elseIfs d (by omega)
      have ho := option?_toJsonBody otherwise d (by omega)
      rw [toJson, ofJson?_statement]
      simp [ofKind?, Jump.ofName?, Jump.name, hc, hb, he, ho, erase]
  | .loop line init cond update body, d, h => by
      simp only [toJson, Json.nesting_statement, Json.nesting_variantOf, Json.nestingMembers] at h
      obtain ⟨d, rfl⟩ : ∃ k, d = k + 3 := ⟨d - 3, by omega⟩
      have hi := option?_toJsonOf init d (by omega)
      have hc := cond.ofJson?_toJson d (by omega)
      have hu := option?_toJsonOf update d (by omega)
      have hb := body?_toJson body d (by omega)
      rw [toJson, ofJson?_statement]
      simp [ofKind?, Jump.ofName?, Jump.name, hi, hc, hu, hb, erase]
  | .doWhile line body cond, d, h => by
      simp only [toJson, Json.nesting_statement, Json.nesting_variantOf, Json.nestingMembers] at h
      obtain ⟨d, rfl⟩ : ∃ k, d = k + 3 := ⟨d - 3, by omega⟩
      have hb := body?_toJson body d (by omega)
      have hc := cond.ofJson?_toJson d (by omega)
      rw [toJson, ofJson?_statement]
      simp [ofKind?, Jump.ofName?, Jump.name, hb, hc, erase]
  | .switch line scrutinee cases fallback, d, h => by
      simp only [toJson, Json.nesting_statement, Json.nesting_variantOf, Json.nestingMembers] at h
      obtain ⟨d, rfl⟩ : ∃ k, d = k + 3 := ⟨d - 3, by omega⟩
      have hs := scrutinee.ofJson?_toJson d (by omega)
      have hc := arms?_toJson "value" (by decide) cases d (by omega)
      have hf := option?_toJsonBody fallback d (by omega)
      rw [toJson, ofJson?_statement]
      simp [ofKind?, Jump.ofName?, Jump.name, hs, hc, hf, erase]

theorem option?_toJsonOf : (s : Option Stmt) → (d : Nat) → (toJsonOf s).nesting ≤ d →
    (toJsonOf s).option? (ofJson? d) = some (eraseOf s)
  | none, _, _ => rfl
  | some s, d, h => by
      rw [toJsonOf, Json.option?_eq s.toJson_ne_null, ofJson?_toJson s d h]
      rfl

theorem mapM_toJsonAll : (body : List Stmt) → (d : Nat) → Json.nestingAll (toJsonAll body) ≤ d →
    (toJsonAll body).mapM (ofJson? d) = some (eraseAll body)
  | [], _, _ => rfl
  | s :: rest, d, h => by
      simp only [toJsonAll, Json.nestingAll] at h
      have hs := ofJson?_toJson s d (by omega)
      have hrest := mapM_toJsonAll rest d (by omega)
      simp only [toJsonAll, List.mapM_cons, hs, hrest, eraseAll]
      rfl

theorem body?_toJson : (body : List Stmt) → (d : Nat) →
    (Json.arr (toJsonAll body)).nesting ≤ d →
    body? d (.arr (toJsonAll body)) = some (eraseAll body)
  | body, d, h => by
      rw [Json.nesting] at h
      obtain ⟨d, rfl⟩ : ∃ k, d = k + 1 := ⟨d - 1, by omega⟩
      rw [body?, mapM_toJsonAll body d (by omega)]

theorem option?_toJsonBody : (body : Option (List Stmt)) → (d : Nat) →
    (toJsonBody body).nesting ≤ d → (toJsonBody body).option? (body? d) = some (eraseBody body)
  | none, _, _ => rfl
  | some body, d, h => by
      have hbody := body?_toJson body d h
      rw [toJsonBody, Json.option?_eq (by simp), hbody]
      rfl

theorem mapM_toJsonArms (key : String) (hkey : key ≠ "body") : (arms : List (Expr × List Stmt)) →
    (d : Nat) → Json.nestingAll (toJsonArms key arms) ≤ d →
    (toJsonArms key arms).mapM (arm? key d) = some (eraseArms arms)
  | [], _, _ => rfl
  | (e, body) :: rest, d, h => by
      simp only [toJsonArms, Json.nestingAll] at h
      have hrest := mapM_toJsonArms key hkey rest d (by omega)
      simp only [Json.nesting, Json.nestingMembers] at h
      obtain ⟨d, rfl⟩ : ∃ k, d = k + 1 := ⟨d - 1, by omega⟩
      have he := e.ofJson?_toJson d (by omega)
      have hb := body?_toJson body d (by rw [Json.nesting]; omega)
      have harm : arm? key (d + 1) (.obj [(key, e.toJson), ("body", .arr (toJsonAll body))]) =
          some (e.erase, eraseAll body) := by
        simp [arm?, hkey, Ne.symm hkey, he, hb]
      simp only [toJsonArms, List.mapM_cons, harm, hrest, eraseArms]
      rfl

theorem arms?_toJson (key : String) (hkey : key ≠ "body") : (arms : List (Expr × List Stmt)) →
    (d : Nat) → (Json.arr (toJsonArms key arms)).nesting ≤ d →
    arms? key d (.arr (toJsonArms key arms)) = some (eraseArms arms)
  | arms, d, h => by
      rw [Json.nesting] at h
      obtain ⟨d, rfl⟩ : ∃ k, d = k + 1 := ⟨d - 1, by omega⟩
      rw [arms?, mapM_toJsonArms key hkey arms d (by omega)]
end

end Stmt

theorem Program.ofJson?_toJson {p : Program} (h : p.toJson.nesting ≤ maxNesting) :
    Program.ofJson? p.toJson = some p.erased := by
  simp only [toJson, Json.nesting, Json.nestingMembers, maxNesting] at h
  have hb := Stmt.body?_toJson p.stmts 126 (by rw [Json.nesting]; omega)
  simp [Program.ofJson?, maxNesting, ofJsonWithin?, toJson, hb, erased]

/-! ## Text -/

namespace Expr

mutual
theorem toJson_written : (e : Expr) → e.toJson.Written
  | .lit _ _ | .var _ _ | .step _ _ _ _ | .length _ _ | .pop _ _ => by
      simp [toJson, Json.Written, Json.WrittenMembers]
  | .binary _ _ left right => by
      simp [toJson, Json.Written, Json.WrittenMembers, toJson_written left, toJson_written right]
  | .unary _ _ e | .newArray _ _ e | .index _ _ e => by
      simp [toJson, Json.Written, Json.WrittenMembers, toJson_written e]
  | .arrayOf _ elems => by
      simp [toJson, Json.Written, Json.WrittenMembers, toJsonAll_written elems]

theorem toJsonAll_written : (es : List Expr) → Json.WrittenAll (toJsonAll es)
  | [] => trivial
  | e :: rest => ⟨toJson_written e, toJsonAll_written rest⟩
end

end Expr

theorem Json.ofOption_written {α : Type} {write : α → Json} (h : ∀ a, (write a).Written)
    (o : Option α) : (Json.ofOption write o).Written := by
  cases o with
  | none => trivial
  | some a => exact h a

theorem DisplayItem.toJson_written (i : DisplayItem) : i.toJson.Written := by
  cases i <;> simp [toJson, Json.Written, Json.WrittenMembers, Expr.toJson_written]

theorem Action.toJson_written (a : Action) : a.toJson.Written := by
  have hexpr := Json.ofOption_written Expr.toJson_written
  have hitem := Json.ofOption_written DisplayItem.toJson_written
  have hitems : ∀ items : List DisplayItem, Json.WrittenAll (items.map DisplayItem.toJson) := by
    intro items
    induction items with
    | nil => trivial
    | cons i rest ih => exact ⟨i.toJson_written, ih⟩
  cases a <;>
    simp [toJson, Json.Written, Json.WrittenMembers, Expr.toJson_written, hexpr, hitem, hitems]

theorem Json.statement_written {kind : Json} (h : kind.Written) (line : Option Line) :
    (Json.statement kind line).Written := by
  have hline : ∀ line : Line, (Line.toJson line).Written := fun line => ⟨line.toNat, rfl⟩
  exact ⟨h, ofOption_written hline line, trivial⟩

namespace Stmt

mutual
theorem toJson_written : (s : Stmt) → s.toJson.Written
  | .action line a => Json.statement_written a.toJson_written line
  | .jump line j => by
      have hname : (Json.str j.name).Written := trivial
      exact Json.statement_written hname line
  | .branch line cond body elseIfs otherwise => by
      rw [toJson]
      refine Json.statement_written ?_ line
      simp [Json.Written, Json.WrittenMembers, cond.toJson_written, toJsonAll_written body,
        toJsonArms_written "cond" elseIfs, toJsonBody_written otherwise]
  | .loop line init cond update body => by
      rw [toJson]
      refine Json.statement_written ?_ line
      simp [Json.Written, Json.WrittenMembers, toJsonOf_written init, cond.toJson_written,
        toJsonOf_written update, toJsonAll_written body]
  | .doWhile line body cond => by
      rw [toJson]
      refine Json.statement_written ?_ line
      simp [Json.Written, Json.WrittenMembers, toJsonAll_written body, cond.toJson_written]
  | .switch line scrutinee cases fallback => by
      rw [toJson]
      refine Json.statement_written ?_ line
      simp [Json.Written, Json.WrittenMembers, scrutinee.toJson_written,
        toJsonArms_written "value" cases, toJsonBody_written fallback]

theorem toJsonOf_written : (s : Option Stmt) → (toJsonOf s).Written
  | none => trivial
  | some s => toJson_written s

theorem toJsonAll_written : (body : List Stmt) → Json.WrittenAll (toJsonAll body)
  | [] => trivial
  | s :: rest => ⟨toJson_written s, toJsonAll_written rest⟩

theorem toJsonArms_written (key : String) :
    (arms : List (Expr × List Stmt)) → Json.WrittenAll (toJsonArms key arms)
  | [] => trivial
  | (e, body) :: rest =>
      ⟨⟨e.toJson_written, toJsonAll_written body, trivial⟩, toJsonArms_written key rest⟩

theorem toJsonBody_written : (body : Option (List Stmt)) → (toJsonBody body).Written
  | none => trivial
  | some body => toJsonAll_written body
end

end Stmt

theorem Program.toJson_written (p : Program) : p.toJson.Written :=
  ⟨Stmt.toJsonAll_written p.stmts, trivial⟩

theorem Program.parse?_render {p : Program} (h : p.toJson.nesting ≤ maxNesting) :
    Program.parse? p.render = some p.erased := by
  rw [parse?, render, Json.parse?_render p.toJson_written, Option.bind_some, ofJson?_toJson h]

end Primer
