import Script.Proofs.Parsing.Loops

set_option autoImplicit false

/- Phrases inside other phrases. Every rule of the grammar asks for them behind its first token, so
levels that are enough do not matter, and every phrase inside another one is read as it is at the
outermost level. -/
namespace Script.Parser

open Token (Kind)

/-- The parsers for phrases inside other phrases run alike. -/
structure AgreeNested (limit : Nat) (nested' nested : Nested) : Prop where
  expr : Agree limit nested'.expr nested.expr
  assignment : Agree limit nested'.assignment nested.assignment
  unary : Agree limit nested'.unary nested.unary
  body : Agree limit nested'.body nested.body

/- A rule runs alike for one token more than the phrases inside it do. -/
namespace Agree

section Phrases

variable {limit : Nat} {nested' nested : Nested} (agree : AgreeNested limit nested' nested)
  (steady : Closed.OfNested Steady nested)
include agree steady

theorem primary : Agree (limit + 1) (primary nested') (primary nested) := by
  intro start below
  have seen : current.run start = ⟨.ok start.tape.current, start, []⟩ := rfl
  unfold Parser.primary
  rw [Traced.run_bind_ok seen, Traced.run_bind_ok seen, Run.behind_nil, Run.behind_nil]
  split
  · rfl
  · rfl
  · rfl
  · rfl
  · rfl
  · rfl
  · next is =>
    refine of_advance (by simp [is]) below fun _ => ?_
    exact bind agree.expr steady.expr fun _ => refl _
  · rfl

theorem arguments (allowed : Nat) :
    Agree limit (arguments nested' allowed) (arguments nested allowed) := by
  induction allowed with
  | zero => exact refl _
  | succ allowed ih =>
    refine bind agree.expr steady.expr fun first => after (closed_steady.advanceIf _) fun more => ?_
    exact ite more (bind ih (closed_steady.arguments steady allowed) fun _ => refl _) (refl _)

theorem finishCall (callee : Expr) :
    Agree limit (finishCall nested' callee) (finishCall nested callee) := by
  refine after (closed_steady.sees _) fun bare => ite bare (refl _) ?_
  exact bind (arguments agree steady _) (closed_steady.arguments steady _) fun _ => refl _

theorem suffixesWithin (bound : Nat) (expr : Expr) :
    Agree (limit + 1) (suffixesWithin nested' bound expr) (suffixesWithin nested bound expr) := by
  induction bound generalizing expr with
  | zero => exact refl _
  | succ bound ih =>
    refine advanceIf_branch (by decide) ?_ (advanceIf_branch (by decide) ?_ (refl _))
    · refine bind (finishCall agree steady expr) (closed_steady.finishCall steady expr) ?_
      exact fun call => (ih call).mono (Nat.le_succ limit)
    · refine after (closed_steady.expect _ _) fun member => ?_
      exact (ih _).mono (Nat.le_succ limit)

theorem call : Agree (limit + 1) (call nested') (call nested) := by
  refine bind (primary agree steady) (closed_steady.primary steady) fun expr => ?_
  exact after (closed_steady.gets _) fun bound => suffixesWithin agree steady bound expr

theorem unary : Agree (limit + 1) (unary nested') (unary nested) := by
  refine seesOneOf_branch (by decide) (fun operator => ?_) (call agree steady)
  exact bind agree.unary steady.unary fun _ => refl _

omit agree steady in
theorem operationsWithin (operators : List Kind) {operand' operand : Parser Expr}
    (each : Agree limit operand' operand) (steady : Steady operand) (bound : Nat) (expr : Expr) :
    Agree limit (operationsWithin operators operand' bound expr)
      (operationsWithin operators operand bound expr) := by
  induction bound generalizing expr with
  | zero => exact refl _
  | succ bound ih =>
    refine after (closed_steady.seesOneOf _) fun more => ite more ?_ (refl _)
    exact after closed_steady.advance fun operator => bind each steady fun right => ih _

omit agree steady in
theorem operations (operators : List Kind) {operand' operand : Parser Expr}
    (each : Agree limit operand' operand) (steady : Steady operand) :
    Agree limit (operations operators operand') (operations operators operand) := by
  refine bind each steady fun first => after (closed_steady.gets _) fun bound => ?_
  exact operationsWithin operators each steady bound first

theorem equality : Agree (limit + 1) (equality nested') (equality nested) := by
  have signed := unary agree steady
  have products := operations [.symbol .star, .symbol .slash] signed (closed_steady.unary steady)
  have sums := operations [.symbol .plus, .symbol .dash] products
    (closed_steady.multiplication steady)
  exact operations _ (operations _ sums (closed_steady.addition steady))
    (closed_steady.comparison steady)

omit steady in
theorem elseBranch : Agree limit (elseBranch nested') (elseBranch nested) := by
  refine after (closed_steady.advanceIf _) fun present => ite present ?_ (refl _)
  exact after (closed_steady.expect _ _) fun _ => agree.body

theorem expression : Agree (limit + 1) (expression nested') (expression nested) := by
  refine advanceIf_branch (by decide) ?_ (equality agree steady)
  refine after (closed_steady.expect _ _) fun _ => bind agree.expr steady.expr fun condition => ?_
  refine after (closed_steady.expect _ _) fun _ => after (closed_steady.expect _ _) fun _ => ?_
  refine bind agree.body steady.body fun thenBranch => ?_
  exact bind (elseBranch agree) (closed_steady.elseBranch steady) fun _ => refl _

theorem assignmentOrExpression :
    Agree (limit + 1) (assignmentOrExpression nested') (assignmentOrExpression nested) := by
  refine pair_branch (by decide) (fun target => ?_) (expression agree steady)
  refine after closed_steady.advance fun _ => ?_
  exact bind agree.assignment steady.assignment fun _ => refl _

theorem variableDecl (name : Token) (specifiers : List TypeExpr) (mutable : Bool) :
    Agree (limit + 1) (variableDecl nested' name specifiers mutable)
      (variableDecl nested name specifiers mutable) := by
  have initialized (wrap : Expr → Stmt) :
      Agree (limit + 1) (do return wrap (← Parser.expression nested'))
        (do return wrap (← Parser.expression nested)) :=
    bind (expression agree steady) (closed_steady.expression steady) fun _ => refl _
  refine after (closed_steady.sees _) fun untyped => ite _ (refl _) ?_
  refine after (closed_steady.advanceIf _) fun inferred => ite inferred (initialized _) ?_
  refine after (closed_steady.expect _ _) fun _ => after (closed_steady.typeExpr _) fun type => ?_
  exact after (closed_steady.expect _ _) fun _ => initialized _

theorem functionBody : Agree limit (functionBody nested') (functionBody nested) := by
  refine after (closed_steady.advanceIf _) fun present => ite present ?_ (refl _)
  exact after (closed_steady.expect _ _) fun _ => bind agree.body steady.body fun _ => refl _

theorem functionDecl (name : Token) (specifierTypes : List TypeExpr) :
    Agree (limit + 1) (functionDecl nested' name specifierTypes)
      (functionDecl nested name specifierTypes) := by
  refine after closed_steady.parameters fun found => after (closed_steady.specifiers _) ?_
  refine fun effects => behind_token (.expect _ (by decide)) fun _ => ?_
  refine after robust_steady.commit fun _ => after (closed_steady.typeExpr _) fun returns => ?_
  exact bind (functionBody agree steady) (closed_steady.functionBody steady) fun _ => refl _

theorem namedDeclaration :
    Agree (limit + 1) (namedDeclaration nested') (namedDeclaration nested) := by
  refine after (closed_steady.expect _ _) fun name => after (closed_steady.specifiers _) ?_
  refine fun found => after (closed_steady.seesOneOf _) fun defined => ite defined ?_ ?_
  · exact after robust_steady.commit fun _ => variableDecl agree steady name found false
  · refine after (closed_steady.sees _) fun called => ite called ?_ (refl _)
    exact functionDecl agree steady name found

theorem blockOrExpression :
    Agree (limit + 1) (blockOrExpression nested') (blockOrExpression nested) := by
  refine pair_branch (by decide) (fun _ => ?_) ?_
  · refine after closed_steady.advance fun _ => ?_
    exact bind agree.body steady.body fun _ => refl _
  · exact bind (assignmentOrExpression agree steady)
      (closed_steady.assignmentOrExpression steady) fun _ => refl _

/-- What is tried runs alike, and a failed trial goes back to where it began. -/
theorem speculate : Agree (limit + 1)
    (speculate (Parser.namedDeclaration nested') (Parser.blockOrExpression nested'))
    (speculate (Parser.namedDeclaration nested) (Parser.blockOrExpression nested)) := by
  intro start below
  cases free : start.mark with
  | some place => rw [run_speculate_kept free, run_speculate_kept free]
  | none =>
    have tried := namedDeclaration agree steady start.marked below
    cases ran : (Parser.namedDeclaration nested).run start.marked with
    | mk outcome stop trace =>
      rw [ran] at tried
      cases outcome with
      | ok stmt => rw [run_speculate_ok free tried, run_speculate_ok free ran]
      | error error =>
        cases kept : stop.mark with
        | none => rw [run_speculate_error free tried kept, run_speculate_error free ran kept]
        | some tape =>
          have back : tape = start.tape := by
            have left := (robust_steady.namedDeclaration steady start.marked).kept
            rw [ran] at left
            simpa [kept, Cursor.marked] using left
          subst back
          rw [run_speculate_restored free tried kept, run_speculate_restored free ran kept,
            blockOrExpression agree steady ⟨start.tape, none⟩ below]

theorem declarationOrStatement :
    Agree (limit + 1) (declarationOrStatement nested') (declarationOrStatement nested) := by
  have looks : Steady looksLikeDeclaration :=
    closed_steady.bind (closed_steady.sees _) fun _ =>
      closed_steady.bind (closed_steady.gets _) fun _ => closed_steady.pure _
  rw [declarationOrStatement_eq, declarationOrStatement_eq]
  refine after (closed_steady.advanceIf _) fun mutable => ite mutable ?_ ?_
  · refine after (closed_steady.expect _ _) fun name => ?_
    exact after (closed_steady.specifiers _) fun found => variableDecl agree steady name found true
  · refine after looks fun declares => ite declares (speculate agree steady) ?_
    exact blockOrExpression agree steady

omit agree steady in
/-- Recovery goes on no earlier than it begins. -/
theorem recovering {α β : Type} (inBlock : Bool) {phrase' phrase : Parser α}
    {next' next : α → Parser β} {behind' behind : Parser β} (first : Agree limit phrase' phrase)
    (steady : Steady phrase) (second : ∀ value, Agree limit (next' value) (next value))
    (other : Agree limit behind' behind) :
    Agree limit (recovering inBlock phrase' next' behind')
      (recovering inBlock phrase next behind) := by
  intro start below
  have same := first start below
  cases ran : phrase.run start with
  | mk outcome stop trace =>
    rw [ran] at same
    have left := steady.length_le (⟨trace, ran, .inl trivial⟩ : Ends True phrase start _ stop)
    cases outcome with
    | ok value =>
      rw [run_recovering_ok same, run_recovering_ok ran, second value stop (by omega)]
    | error error =>
      have later : (stop.tape.recovered inBlock).ahead.length ≤ stop.tape.ahead.length := by
        obtain ⟨count, moved⟩ := stop.tape.recovered_eq_move inBlock
        rw [moved, Tape.ahead_move, List.length_drop]
        exact Nat.sub_le _ _
      have gone := other ⟨stop.tape.recovered inBlock, none⟩
        (Nat.lt_of_le_of_lt later (Nat.lt_of_le_of_lt left below))
      rw [run_recovering_error same, run_recovering_error ran, gone]

theorem statementsWithin (inBlock : Bool) (bound : Nat) :
    Agree (limit + 1) (statementsWithin nested' inBlock bound)
      (statementsWithin nested inBlock bound) := by
  induction bound with
  | zero => exact refl _
  | succ bound ih =>
    have going (stmt : Stmt) : Agree (limit + 1)
        (do return stmt :: (← Parser.statementsWithin nested' inBlock bound))
        (do return stmt :: (← Parser.statementsWithin nested inBlock bound)) :=
      bind ih (robust_steady.statementsWithin steady inBlock bound) fun _ => refl _
    rw [statementsWithin_succ, statementsWithin_succ]
    refine after robust_steady.eatBlankLines fun ended => ite ended (refl _) ?_
    refine after (closed_steady.sees _) fun closing => ite _ (refl _) ?_
    refine recovering inBlock (declarationOrStatement agree steady)
      (robust_steady.declarationOrStatement steady) (fun stmt => ?_) ih
    refine after robust_steady.parsedStatement fun _ => ?_
    exact recovering inBlock (refl _) closed_steady.statementEnd (fun _ => going stmt) (going stmt)

theorem statements (inBlock : Bool) :
    Agree (limit + 1) (statements nested' inBlock) (statements nested inBlock) :=
  after (closed_steady.gets _) fun bound => statementsWithin agree steady inBlock bound

theorem body : Agree (limit + 1) (body nested') (body nested) := by
  refine bind (statements agree steady true) (robust_steady.statements steady true) ?_
  exact fun _ => refl _

end Phrases

end Agree

/-- The phrases that stand inside others. -/
inductive Part where
  | expr
  | assignment
  | unary
  | body

abbrev Part.Result : Part → Type
  | .expr | .assignment | .unary => Expr
  | .body => List Stmt

namespace Nested

def rule (nested : Nested) : ∀ part : Part, Parser part.Result
  | .expr => nested.expr
  | .assignment => nested.assignment
  | .unary => nested.unary
  | .body => nested.body

/-- A parser for each kind of phrase. -/
def ofRules (rules : ∀ part : Part, Parser part.Result) : Nested :=
  ⟨rules .expr, rules .assignment, rules .unary, rules .body⟩

end Nested

/-- The rules of the grammar, with other parsers for the phrases inside them. -/
def unfoldRules (again : ∀ part : Part, Parser part.Result) : ∀ part : Part, Parser part.Result
  | .expr => expression (.ofRules again)
  | .assignment => assignmentOrExpression (.ofRules again)
  | .unary => unary (.ofRules again)
  | .body => body (.ofRules again)

/-- Every phrase, as it is read at the outermost level. -/
def unbounded : Nested where
  expr := expr
  assignment := assignment
  unary := do unary (nested (← left))
  body := blockBody

theorem descends_rules : Descends unfoldRules := by
  intro limit again' again steady agree part
  have inner : Closed.OfNested Steady (.ofRules again) :=
    ⟨steady .expr, steady .assignment, steady .unary, steady .body⟩
  have agree : AgreeNested limit (.ofRules again') (.ofRules again) :=
    ⟨agree .expr, agree .assignment, agree .unary, agree .body⟩
  cases part with
  | expr => exact Agree.expression agree inner
  | assignment => exact Agree.assignmentOrExpression agree inner
  | unary => exact Agree.unary agree inner
  | body => exact Agree.body agree inner

/-- A level more is one more unfolding. -/
theorem rule_nested_succ (bound : Nat) :
    (nested (bound + 1)).rule = unfoldRules (nested bound).rule := by
  funext part
  cases part <;> rfl

theorem steady_rule {nested : Nested} (inner : Closed.OfNested Steady nested) (part : Part) :
    Steady (nested.rule part) := by
  cases part with
  | expr => exact inner.expr
  | assignment => exact inner.assignment
  | unary => exact inner.unary
  | body => exact inner.body

theorem rule_unbounded :
    unbounded.rule = fun part => left >>= fun bound => (nested (bound + 1)).rule part := by
  funext part
  cases part <;> rfl

section Levels

theorem steady_level (bound : Nat) (part : Part) : Steady ((nested (bound + 1)).rule part) :=
  steady_rule (robust_steady.ofNested (bound + 1)) part

/-- Without tokens ahead no level is ever asked for the one below it. -/
theorem agree_first_level (part : Part) :
    Agree 1 ((nested 1).rule part) ((nested 2).rule part) := by
  rw [rule_nested_succ 0, rule_nested_succ 1]
  refine descends_rules (steady_level 0) (fun _ _ below => ?_) part
  exact absurd below (Nat.not_lt_zero _)

/-- The rules of the grammar end, however deep phrases stand inside others. -/
theorem rules_terminate : Terminates unfoldRules unbounded.rule := by
  rw [rule_unbounded]
  exact descends_rules.terminates_within steady_level (fun bound => rule_nested_succ (bound + 1))
    agree_first_level

/-- As many levels as there are tokens ahead are no bound. -/
theorem agree_unbounded (bound : Nat) : AgreeNested bound (nested bound) unbounded := by
  have agree (part : Part) : Agree bound ((nested bound).rule part) (unbounded.rule part) := by
    cases bound with
    | zero => exact fun _ below => absurd below (Nat.not_lt_zero _)
    | succ bound =>
      rw [rule_unbounded]
      exact (descends_rules.agree_within steady_level (fun bound => rule_nested_succ (bound + 1))
        agree_first_level bound part).symm
  exact ⟨agree .expr, agree .assignment, agree .unary, agree .body⟩

theorem steady_unbounded : Closed.OfNested Steady unbounded := by
  have steady (part : Part) : Steady (unbounded.rule part) := by
    rw [rule_unbounded]
    exact closed_steady.bind (closed_steady.gets _) fun bound => steady_level bound part
  exact ⟨steady .expr, steady .assignment, steady .unary, steady .body⟩

/-- A parser with as many levels as there are tokens ahead is one with the unbounded phrases. -/
theorem sized_eq {α : Type} {phrase : Nested → Parser α}
    (each : ∀ {limit : Nat} {nested' nested : Nested}, AgreeNested limit nested' nested →
      Closed.OfNested Steady nested → Agree (limit + 1) (phrase nested') (phrase nested)) :
    (left >>= fun bound => phrase (nested bound)) = phrase unbounded := by
  funext start
  have same := each (agree_unbounded start.tape.ahead.length) steady_unbounded start
    (Nat.lt_succ_self _)
  exact (run_left_bind _ start).trans same

theorem statement_eq : statement = blockOrExpression unbounded :=
  sized_eq fun agree steady => Agree.blockOrExpression agree steady

theorem declaration_eq : declaration = declarationOrStatement unbounded :=
  sized_eq fun agree steady => Agree.declarationOrStatement agree steady

theorem statementList_eq (inBlock : Bool) : statementList inBlock = statements unbounded inBlock :=
  sized_eq fun agree steady => Agree.statements agree steady inBlock

end Levels

end Script.Parser
