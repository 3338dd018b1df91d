import Primer.Proofs.Inspections

/-!
# The safety of declarations

A variable whose name was declared before, wherever that was, is reported where it is declared again.
So the variables of an accepted program have different names, and none has that of an array that was
checked before it. An array may share its name with a variable or an array of another block only.
-/

namespace Primer

open Check

/-! ## Declarations of a block -/

namespace Stmt

mutual
/-- The actions of a statement that belong to the block around it. -/
def own : Stmt → List Action
  | action _ a => [a]
  | loop _ init _ update _ => ownOf init ++ ownOf update
  | _ => []

def ownOf : Option Stmt → List Action
  | none => []
  | some s => own s
end

mutual
/-- The blocks of a statement at any depth. -/
def blocks : Stmt → List (List Stmt)
  | action _ _ | jump _ _ => []
  | branch _ _ body elseIfs otherwise =>
    body :: (blocksAll body ++ blocksArms elseIfs ++ blocksBody otherwise)
  | loop _ init _ update body => blocksOf init ++ blocksOf update ++ body :: blocksAll body
  | doWhile _ body _ => body :: blocksAll body
  | switch _ _ cases fallback => blocksArms cases ++ blocksBody fallback

def blocksOf : Option Stmt → List (List Stmt)
  | none => []
  | some s => blocks s

def blocksAll : List Stmt → List (List Stmt)
  | [] => []
  | s :: rest => blocks s ++ blocksAll rest

def blocksArms : List (Expr × List Stmt) → List (List Stmt)
  | [] => []
  | (_, body) :: rest => body :: (blocksAll body ++ blocksArms rest)

def blocksBody : Option (List Stmt) → List (List Stmt)
  | none => []
  | some body => body :: blocksAll body
end

end Stmt

/-- The blocks of a program at any depth, itself included. -/
def Program.blocks (p : Program) : List (List Stmt) := p.stmts :: Stmt.blocksAll p.stmts

/-- The names that a block declares, as often as it declares them. -/
def blockNames (body : List Stmt) : List String :=
  (body.flatMap Stmt.own).filterMap Action.declared?

/-- Names that are declared between the scopes: different ones, which the innermost scope did not
have before. -/
structure ScopeTree.Enters (names : List String) (t t' : ScopeTree) : Prop where
  nodup : names.Nodup
  new : ∀ n ∈ names, t.isDeclaredHere n = false
  kept : ∀ n, t.isDeclaredHere n = true → t'.isDeclaredHere n = true
  here : ∀ n ∈ names, t'.isDeclaredHere n = true

namespace ScopeTree

variable {t t' t'' : ScopeTree} {names more : List String}

theorem Retains.here (h : t.Retains t') {n : String} (hn : t.isDeclaredHere n = true) :
    t'.isDeclaredHere n = true := by
  obtain ⟨d, hd⟩ := Option.isSome_iff_exists.mp hn
  obtain ⟨s, hs, hkeeps⟩ := h.live 0 t.current rfl
  obtain rfl := Option.some.inj hs
  obtain ⟨d', hd', -⟩ := hkeeps n d hd
  exact Option.isSome_iff_exists.mpr ⟨d', hd'⟩

namespace Enters

theorem of_retains (h : t.Retains t') : Enters [] t t' :=
  ⟨List.nodup_nil, nofun, fun _ => h.here, nofun⟩

theorem trans (h : Enters names t t') (h' : Enters more t' t'') : Enters (names ++ more) t t'' where
  nodup := by
    rw [List.nodup_append]
    refine ⟨h.nodup, h'.nodup, ?_⟩
    rintro n hn _ hn' rfl
    exact Bool.eq_false_iff.mp (h'.new n hn') (h.here n hn)
  new n hn := by
    rcases List.mem_append.mp hn with hn | hn
    · exact h.new n hn
    · refine Bool.eq_false_iff.mpr fun hhere => ?_
      exact Bool.eq_false_iff.mp (h'.new n hn) (h.kept n hhere)
  kept n hn := h'.kept n (h.kept n hn)
  here n hn := by
    rcases List.mem_append.mp hn with hn | hn
    · exact h'.kept n (h.here n hn)
    · exact h'.here n hn

end Enters

theorem declare_here (t : ScopeTree) (n : String) (ty : Ty) (set : Bool) :
    (t.declare n ty set).isDeclaredHere n = true := by
  unfold declare
  split
  · assumption
  · rw [isDeclaredHere, Scope.declares, Scope.find?_insert, if_pos BEq.rfl]
    rfl

end ScopeTree

open ScopeTree

theorem Action.check_enters {a : Action} {t : ScopeTree} (h : (a.check t).problems = []) :
    Enters ([a].filterMap declared?) t (a.check t).scopes := by
  have hretains := a.check_retains t
  cases a.check_settled t with
  | @declared n ty set hn _ hnew _ hclean hc =>
    rw [hc] at hretains ⊢
    rw [List.filterMap_cons_some hn]
    refine ⟨by simp, ?_, fun _ => hretains.here, ?_⟩
    · exact List.forall_mem_singleton.mpr hnew
    · exact List.forall_mem_singleton.mpr (declare_here t n ty set)
  | marked n hn hc =>
    rw [List.filterMap_cons_none hn]
    exact .of_retains hretains
  | same hsame hc =>
    rw [List.filterMap_cons_none (hsame.resolve_right (not_not_intro h))]
    exact .of_retains hretains

namespace Stmt

mutual
theorem check_enters : (s : Stmt) → (t : ScopeTree) → Accepts s.check t →
    Enters (s.own.filterMap Action.declared?) t (after s.check t)
  | .action _ a, t, h => by
      simp only [check, accepts_onLine, accepts_bind, accepts_action, accepts_pure, and_true] at h
      simpa only [check, after_onLine, after_bind, after_action, after_pure, own] using
        a.check_enters h
  | .loop line init cond update body, t, h => by
      simp only [check, accepts_onLine, accepts_bind, accepts_condition, accepts_inScope,
        after_condition, accepts_pure, and_true] at h
      obtain ⟨hinit, -, hupdate, -⟩ := h
      have hbody := Stmt.inScope_respects retains_respected
        (checkAll_respects retains_respected body
          ((after (checkOption update) (after (checkOption init) t)).enter .loop))
      simp only [check, after_onLine, after_bind, after_condition, after_pure, own,
        List.filterMap_append]
      -- the two clauses declare in the scope around the loop, and the body in a scope of its own
      have henters := (checkOption_enters init t hinit).trans
        ((checkOption_enters update _ hupdate).trans (.of_retains hbody))
      rwa [List.append_nil] at henters
  | .jump line j, t, _ => .of_retains (check_respects retains_respected (.jump line j) t)
  | .branch line cond body elseIfs otherwise, t, _ =>
      .of_retains (check_respects retains_respected (.branch line cond body elseIfs otherwise) t)
  | .doWhile line body cond, t, _ =>
      .of_retains (check_respects retains_respected (.doWhile line body cond) t)
  | .switch line scrutinee cases fallback, t, _ =>
      .of_retains (check_respects retains_respected (.switch line scrutinee cases fallback) t)

theorem checkOption_enters : (s : Option Stmt) → (t : ScopeTree) → Accepts (checkOption s) t →
    Enters ((ownOf s).filterMap Action.declared?) t (after (checkOption s) t)
  | none, t, _ => .of_retains (.refl t)
  | some s, t, h => by
      simp only [checkOption, accepts_bind, accepts_pure, and_true] at h
      simpa only [checkOption, after_bind, after_pure, ownOf] using check_enters s t h
end

theorem checkAll_enters (body : List Stmt) (t : ScopeTree) (h : Accepts (checkAll body) t) :
    Enters (blockNames body) t (after (checkAll body) t) := by
  induction body generalizing t with
  | nil => exact .of_retains (.refl t)
  | cons s rest ih =>
    simp only [checkAll, accepts_bind, accepts_pure, and_true] at h
    simp only [blockNames, List.flatMap_cons, List.filterMap_append, checkAll, after_bind, after_pure]
    exact (check_enters s t h.1).trans (ih _ h.2)

/-- A block that is accepted somewhere. -/
def AcceptedBlock (body : List Stmt) : Prop := ∃ t, Accepts (checkAll body) t

theorem AcceptedBlock.names_nodup {body : List Stmt} (h : AcceptedBlock body) :
    (blockNames body).Nodup := by
  obtain ⟨t, ht⟩ := h
  exact (checkAll_enters body t ht).nodup

mutual
/-- The blocks of an accepted statement are accepted. -/
theorem accepts_blocks : (s : Stmt) → {t : ScopeTree} → Accepts s.check t →
    ∀ body ∈ s.blocks, AcceptedBlock body
  | .action _ _, _, _ => nofun
  | .jump _ _, _, _ => nofun
  | .branch _ cond body elseIfs otherwise, t, h => by
      simp only [check, accepts_onLine, accepts_bind, accepts_condition, accepts_inScope,
        accepts_pure, and_true] at h
      obtain ⟨-, hbody, helseIfs, hotherwise⟩ := h
      rw [blocks, List.forall_mem_cons, List.forall_mem_append, List.forall_mem_append]
      exact ⟨⟨_, hbody⟩, ⟨accepts_blocksAll body hbody, accepts_blocksElseIfs elseIfs helseIfs⟩,
        accepts_blocksBody .elseBody otherwise hotherwise⟩
  | .loop _ init cond update body, t, h => by
      simp only [check, accepts_onLine, accepts_bind, accepts_condition, accepts_inScope,
        accepts_pure, and_true] at h
      obtain ⟨hinit, -, hupdate, hbody⟩ := h
      rw [blocks, List.forall_mem_append, List.forall_mem_append, List.forall_mem_cons]
      exact ⟨⟨accepts_blocksOf init hinit, accepts_blocksOf update hupdate⟩, ⟨_, hbody⟩,
        accepts_blocksAll body hbody⟩
  | .doWhile _ body cond, t, h => by
      simp only [check, accepts_onLine, accepts_bind, accepts_inScope] at h
      rw [blocks, List.forall_mem_cons]
      exact ⟨⟨_, h.1⟩, accepts_blocksAll body h.1⟩
  | .switch _ scrutinee cases fallback, t, h => by
      simp only [check_switch, accepts_onLine, accepts_bind, accepts_expr, accepts_report,
        accepts_inScope, accepts_pure, and_true] at h
      obtain ⟨-, -, hcases, hfallback⟩ := h
      rw [blocks, List.forall_mem_append]
      exact ⟨accepts_blocksCases _ cases hcases, accepts_blocksBody .defaultBody fallback hfallback⟩

theorem accepts_blocksOf : (s : Option Stmt) → {t : ScopeTree} → Accepts (checkOption s) t →
    ∀ body ∈ blocksOf s, AcceptedBlock body
  | none, _, _ => nofun
  | some s, t, h => by
      simp only [checkOption, accepts_bind, accepts_pure, and_true] at h
      exact accepts_blocks s h

theorem accepts_blocksAll : (stmts : List Stmt) → {t : ScopeTree} → Accepts (checkAll stmts) t →
    ∀ body ∈ blocksAll stmts, AcceptedBlock body
  | [], _, _ => nofun
  | s :: rest, t, h => by
      simp only [checkAll, accepts_bind, accepts_pure, and_true] at h
      rw [blocksAll, List.forall_mem_append]
      exact ⟨accepts_blocks s h.1, accepts_blocksAll rest h.2⟩

theorem accepts_blocksElseIfs : (arms : List (Expr × List Stmt)) → {t : ScopeTree} →
    Accepts (checkElseIfs arms) t → ∀ body ∈ blocksArms arms, AcceptedBlock body
  | [], _, _ => nofun
  | (cond, body) :: rest, t, h => by
      simp only [checkElseIfs, accepts_bind, accepts_inScope, accepts_pure, and_true] at h
      obtain ⟨-, hbody, hrest⟩ := h
      rw [blocksArms, List.forall_mem_cons, List.forall_mem_append]
      exact ⟨⟨_, hbody⟩, accepts_blocksAll body hbody, accepts_blocksElseIfs rest hrest⟩

theorem accepts_blocksCases (switched : Ty) : (cases : List (Expr × List Stmt)) →
    {t : ScopeTree} → Accepts (checkCases switched cases) t →
    ∀ body ∈ blocksArms cases, AcceptedBlock body
  | [], _, _ => nofun
  | (value, body) :: rest, t, h => by
      simp only [checkCases, accepts_bind, accepts_inScope, accepts_pure, and_true] at h
      obtain ⟨-, -, hbody, hrest⟩ := h
      rw [blocksArms, List.forall_mem_cons, List.forall_mem_append]
      exact ⟨⟨_, hbody⟩, accepts_blocksAll body hbody, accepts_blocksCases switched rest hrest⟩

theorem accepts_blocksBody (kind : ScopeKind) : (body : Option (List Stmt)) → {t : ScopeTree} →
    Accepts (checkBody kind body) t → ∀ block ∈ blocksBody body, AcceptedBlock block
  | none, _, _ => nofun
  | some body, t, h => by
      simp only [checkBody, accepts_bind, accepts_inScope, accepts_pure, and_true] at h
      rw [blocksBody, List.forall_mem_cons]
      exact ⟨⟨_, h⟩, accepts_blocksAll body h⟩
end

end Stmt

/-! ## Repeated names -/

theorem checkDeclare_repeated {t : ScopeTree} {n : String} (h : n ∈ t.registry) (ty : String)
    (init : Option Expr) : ∃ p ∈ (checkDeclare t ty n init).problems, p.code = .declaration := by
  cases hp : Primitive.ofName? ty with
  | none =>
    simp only [checkDeclare, hp]
    exact ⟨.invalidType ty, List.mem_cons_self, rfl⟩
  | some p =>
    refine ⟨.duplicateVariable n, named_subset_checkDeclare t ty n init hp ?_, rfl⟩
    simp [variableNameProblems, isRegistered, h]

namespace Inspection

variable {i : Inspection} {n : String}

theorem diagnostics_repeated (hi : i.action.variable? = some n) (hn : n ∈ i.scopes.registry) :
    ∃ d ∈ i.diagnostics, d.code = .declaration ∧ d.line = Diagnostic.knownLine i.line := by
  obtain ⟨line, t, a⟩ := i
  cases a with
  | declare ty name init =>
    obtain rfl := Option.some.inj hi
    obtain ⟨p, hp, hcode⟩ := checkDeclare_repeated hn ty init
    exact ⟨p.diagnostic line, List.mem_map_of_mem hp, hcode, rfl⟩
  | _ => cases hi

theorem mem_named_iff (h : i.scopes.Reachable) :
    Problem.duplicateVariable n ∈ variableNameProblems i.scopes n ↔ n ∈ i.scopes.registry := by
  have hlive : i.scopes.isDeclared n = true ∨ n ∈ i.scopes.registry ↔ n ∈ i.scopes.registry :=
    ⟨fun hn => hn.elim h.isRegistered id, .inr⟩
  simp [variableNameProblems, isRegistered, hlive]

theorem registered?_clean (h : i.diagnostics = []) : i.registered? = i.action.declared? := by
  rw [registered?, List.map_eq_nil_iff.mp h, List.isEmpty_nil, if_pos rfl]

end Inspection

namespace Program

variable {p : Program} {before after : List Inspection} {i : Inspection} {n : String}

theorem mem_registry (h : p.inspections = before ++ i :: after) :
    n ∈ i.scopes.registry ↔ ∃ j ∈ before, j.registered? = some n := by
  rw [registry_eq h, List.mem_reverse, List.mem_filterMap]

theorem inspections_clean (h : p.diagnostics = []) : ∀ i ∈ p.inspections, i.diagnostics = [] := by
  have hreported := p.inspections_reported
  rw [h, List.sublist_nil, List.flatMap_eq_nil_iff] at hreported
  exact hreported

/-- In an accepted program no variable has the name of an earlier declaration. -/
theorem actions_distinct (h : p.diagnostics = []) :
    p.actions.Pairwise fun a b => ∀ n, b.variable? = some n → a.declared? ≠ some n := by
  rw [← p.inspections_actions, List.pairwise_map, List.pairwise_iff_getElem]
  intro k l hk hl hkl n hi hj
  -- a clean check registers each declaration, so the later one would have been reported
  have hat : p.inspections = p.inspections.take l ++ p.inspections[l] :: p.inspections.drop (l + 1) := by
    rw [← List.drop_eq_getElem_cons hl, List.take_append_drop]
  have hearlier : p.inspections[k] ∈ p.inspections.take l :=
    List.mem_take_iff_getElem.mpr ⟨k, by omega, rfl⟩
  have hregistered : p.inspections[k].registered? = some n := by
    rw [Inspection.registered?_clean (inspections_clean h _ (List.getElem_mem hk)), hj]
  obtain ⟨d, hd, -⟩ := Inspection.diagnostics_repeated hi
    ((mem_registry hat).mpr ⟨_, hearlier, hregistered⟩)
  rw [inspections_clean h _ (List.getElem_mem hl)] at hd
  cases hd

theorem variables_nodup (h : p.diagnostics = []) : (p.actions.filterMap Action.variable?).Nodup := by
  rw [List.Nodup, List.pairwise_filterMap]
  refine (actions_distinct h).imp fun {a b} hab n hn m hm hnm => ?_
  have hdeclared : a.declared? = some n := by
    cases a with
    | declare => exact hn
    | _ => cases hn
  exact hab m hm (hnm ▸ hdeclared)

/-- The check of a program comes to all its actions in their order, and reports on each. A variable is
a duplicate if an earlier declaration of its name was accepted, be it that of an array and in a scope
that is gone, and then the declaration of the variable is reported. So in an accepted program the
variables have different names, none has the name of an array that is declared before it, and no block
declares a name twice. -/
theorem duplicates_reported (p : Program) :
    p.inspections.map Inspection.action = p.actions ∧
    (p.inspections.flatMap Inspection.diagnostics).Sublist p.diagnostics ∧
    (∀ before i after n, p.inspections = before ++ i :: after → i.action.variable? = some n →
      (.duplicateVariable n ∈ variableNameProblems i.scopes n ↔
        ∃ j ∈ before, j.registered? = some n) ∧
      ((∃ j ∈ before, j.registered? = some n) →
        ∃ d ∈ i.diagnostics, d.code = .declaration ∧ d.line = Diagnostic.knownLine i.line)) ∧
    (p.diagnostics = [] →
      (p.actions.filterMap Action.variable?).Nodup ∧
      (p.actions.Pairwise fun a b => ∀ n, b.variable? = some n → a.declared? ≠ some n) ∧
      ∀ body ∈ p.blocks, (blockNames body).Nodup) := by
  refine ⟨p.inspections_actions, p.inspections_reported, fun before i after n h hi => ?_, fun h => ?_⟩
  · have hi' : i ∈ p.inspections := by simp [h]
    rw [Inspection.mem_named_iff (p.inspections_reachable i hi'), mem_registry h]
    exact ⟨Iff.rfl, fun hj => Inspection.diagnostics_repeated hi ((mem_registry h).mpr hj)⟩
  · have haccepts := p.accepts_iff.mp h
    refine ⟨variables_nodup h, actions_distinct h, fun body hbody => ?_⟩
    rcases List.mem_cons.mp hbody with rfl | hbody
    · exact Stmt.AcceptedBlock.names_nodup ⟨_, haccepts⟩
    · exact (Stmt.accepts_blocksAll p.stmts haccepts body hbody).names_nodup

/-- A variable with the name of an array in a body that is left before. -/
def repeatedName : Program where
  stmts := [
    .branch (some 1) (.lit .unknown "true") [.action (some 2) (.declareArray "NUMBER" "xs" none)] []
      none,
    .action (some 4) (.declare "LETTER" "xs" none)]

/-- Arrays that share a name with an array and with a variable of other blocks. -/
def sharedNames : Program where
  stmts := [
    .action none (.declare "NUMBER" "n" none),
    .doWhile none [.action none (.declareArray "NUMBER" "xs" none)] (.lit .unknown "false"),
    .loop none (some (.action none (.declareArray "NUMBER" "xs" none))) (.lit .unknown "false")
      (some (.action none (.declare "NUMBER" "i" none)))
      [.action none (.declareArray "NUMBER" "n" none)]]

theorem repeatedName_reported :
    (∃ d ∈ repeatedName.diagnostics, d.code = .declaration ∧ d.line = some 4) ∧
    sharedNames.diagnostics = [] ∧
    sharedNames.actions.filterMap Action.variable? = ["n", "i"] ∧ ["n", "i"].Nodup ∧
    blockNames sharedNames.stmts = ["n", "xs", "i"] ∧ ["n", "xs", "i"].Nodup := by
  obtain ⟨-, hreported, hrepeated, -⟩ := duplicates_reported repeatedName
  obtain ⟨-, -, -, hshared⟩ := duplicates_reported sharedNames
  have hclean : sharedNames.diagnostics = [] := by decide +kernel
  obtain ⟨hvariables, -, hblocks⟩ := hshared hclean
  refine ⟨?_, hclean, rfl, hvariables, rfl, hblocks _ List.mem_cons_self⟩
  let array : Inspection := ⟨some 2, .enter .start .ifBody, .declareArray "NUMBER" "xs" none⟩
  let again : Inspection := ⟨some 4, ⟨.empty .global, [], ["xs"]⟩, .declare "LETTER" "xs" none⟩
  have hboth : repeatedName.inspections = [array] ++ again :: [] := rfl
  obtain ⟨d, hd, hcode, hline⟩ :=
    (hrepeated [array] again [] "xs" hboth rfl).2 ⟨array, List.mem_cons_self, rfl⟩
  refine ⟨d, hreported.subset ?_, hcode, hline⟩
  rw [hboth]
  exact List.mem_flatMap.mpr ⟨again, by simp, hd⟩

end Program

end Primer
