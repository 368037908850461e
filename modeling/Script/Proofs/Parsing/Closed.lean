import Script.Proofs.Parsing.Steps

set_option autoImplicit false

/- Properties that hold of all rules of the grammar because they hold of the steps that the rules
are made of. One case for every kind of step gives the property for every phrase. -/
namespace Script.Parser

open Token (Kind)

/-- A property that the steps within a phrase have, and that sequences of steps keep. -/
structure Closed (holds : ∀ {α : Type}, Parser α → Prop) : Prop where
  pure : ∀ {α : Type} (value : α), holds (pure value : Parser α)
  bind : ∀ {α β : Type} {first : Parser α} {next : α → Parser β},
    holds first → (∀ value, holds (next value)) → holds (first >>= next)
  gets : ∀ {α : Type} (view : Cursor → α), holds (Traced.gets view)
  failWith : ∀ {α : Type} (template : String), holds (failWith template : Parser α)
  failOf : ∀ {α : Type} {cause : Error.Cause}, cause.category = .ofSyntax →
    holds (failOf cause : Parser α)
  move : holds (Traced.modify Cursor.advance)

namespace Closed

variable {holds : ∀ {α : Type}, Parser α → Prop} {α : Type}

theorem ite (test : Bool) {first second : Parser α} (yes : holds first) (no : holds second) :
    holds (if test = true then first else second) := by
  cases test
  · exact no
  · exact yes

variable (closed : Closed holds)
include closed

theorem sees (kind : Kind) : holds (sees kind) :=
  closed.bind (closed.gets _) fun _ => closed.pure _

theorem seesOneOf (kinds : List Kind) : holds (seesOneOf kinds) :=
  closed.bind (closed.gets _) fun _ => closed.pure _

theorem advance : holds advance :=
  closed.bind (closed.gets _) fun _ => closed.bind closed.move fun _ => closed.pure _

theorem advanceIf (kinds : List Kind) : holds (advanceIf kinds) := by
  refine closed.bind (closed.seesOneOf kinds) fun seen => ite seen ?_ (closed.pure _)
  exact closed.bind closed.move fun _ => closed.pure _

theorem expect (kind : Kind) (context : String) : holds (expect kind context) :=
  closed.bind (closed.sees kind) fun seen => ite seen closed.advance (closed.failWith _)

theorem separatedWithin {item : Parser α} (each : holds item) (bound : Nat) :
    holds (separatedWithin item bound) := by
  induction bound with
  | zero => exact closed.bind each fun _ => closed.pure _
  | succ bound ih =>
    refine closed.bind each fun _ => closed.bind (closed.advanceIf _) fun more => ?_
    exact ite more (closed.bind ih fun _ => closed.pure _) (closed.pure _)

theorem separated {item : Parser α} (each : holds item) : holds (separated item) :=
  closed.bind (closed.gets _) fun bound => closed.separatedWithin each bound

theorem typeName (context : String) : holds (typeName context) := by
  refine closed.bind (closed.expect _ _) fun _ => ?_
  exact closed.bind (closed.advanceIf _) fun _ => closed.pure _

theorem typeWithin (bound : Nat) (context : String) : holds (typeWithin bound context) := by
  induction bound generalizing context with
  | zero => exact closed.bind (closed.typeName _) fun _ => closed.pure _
  | succ bound ih =>
    refine closed.bind (closed.advanceIf _) fun bracketed => ite bracketed ?_ ?_
    · refine closed.bind (closed.sees _) fun closing => ite closing ?_ ?_
      · refine closed.bind (closed.expect _ _) fun _ => ?_
        exact closed.bind (closed.typeName _) fun _ => closed.pure _
      · refine closed.bind (ih _) fun _ => closed.bind (closed.expect _ _) fun _ => ?_
        exact closed.bind (closed.typeName _) fun _ => closed.pure _
    · exact closed.bind (closed.typeName _) fun _ => closed.pure _

theorem typeExpr (context : String) : holds (typeExpr context) :=
  closed.bind (closed.gets _) fun bound => closed.typeWithin bound context

theorem specifiersWithin (context : String) (bound : Nat) :
    holds (specifiersWithin context bound) := by
  induction bound with
  | zero => exact closed.pure _
  | succ bound ih =>
    refine closed.bind (closed.advanceIf _) fun opened => ite opened ?_ (closed.pure _)
    refine closed.bind (closed.separated (closed.typeExpr context)) fun _ => ?_
    exact closed.bind (closed.expect _ _) fun _ => closed.bind ih fun _ => closed.pure _

theorem specifiers (context : String) : holds (specifiers context) :=
  closed.bind (closed.gets _) fun bound => closed.specifiersWithin context bound

theorem parameter : holds parameter := by
  refine closed.bind (closed.expect _ _) fun _ => closed.bind (closed.expect _ _) fun _ => ?_
  exact closed.bind (closed.typeExpr _) fun _ => closed.pure _

theorem parameters : holds parameters := by
  have closing (found : List Parameter) : holds (do
      let _ ← Parser.expect (.symbol .closeParen) "in function declaration"
      return found) :=
    closed.bind (closed.expect _ _) fun _ => closed.pure _
  refine closed.bind (closed.expect _ _) fun _ => closed.bind (closed.sees _) fun bare => ?_
  refine ite bare (closed.bind (closed.pure _) closing) ?_
  exact closed.bind (closed.separated closed.parameter) closing

theorem statementEnd : holds statementEnd := by
  refine closed.bind (closed.sees _) fun closing => ite closing (closed.pure _) ?_
  refine closed.bind (closed.advanceIf _) fun ended => ite ended (closed.pure _) ?_
  exact closed.failWith _

/-- The property holds of the parsers for phrases inside other phrases. -/
structure OfNested (holds : ∀ {α : Type}, Parser α → Prop) (nested : Nested) : Prop where
  expr : holds nested.expr
  assignment : holds nested.assignment
  unary : holds nested.unary
  body : holds nested.body

variable {nested : Nested} (inner : OfNested holds nested)
include inner

theorem primary : holds (primary nested) := by
  refine closed.bind (closed.gets _) fun token => ?_
  split
  · exact closed.bind closed.advance fun _ => closed.pure _
  · exact closed.bind closed.advance fun _ => closed.pure _
  · split
    · exact closed.bind closed.advance fun _ => closed.pure _
    · exact closed.failWith _
  · split
    · exact closed.bind closed.advance fun _ => closed.pure _
    · exact closed.failWith _
  · split
    · exact closed.bind closed.advance fun _ => closed.pure _
    · exact closed.failWith _
  · exact closed.bind closed.advance fun _ => closed.pure _
  · refine closed.bind closed.advance fun _ => closed.bind inner.expr fun _ => ?_
    exact closed.bind (closed.expect _ _) fun _ => closed.pure _
  · exact closed.failWith _

theorem arguments (allowed : Nat) : holds (arguments nested allowed) := by
  induction allowed with
  | zero => exact closed.failOf rfl
  | succ allowed ih =>
    refine closed.bind inner.expr fun _ => closed.bind (closed.advanceIf _) fun more => ?_
    exact ite more (closed.bind ih fun _ => closed.pure _) (closed.pure _)

theorem finishCall (callee : Expr) : holds (finishCall nested callee) := by
  have closing (found : List Expr) : holds (do
      let _ ← Parser.expect (.symbol .closeParen) "after function arguments"
      return Expr.call callee found) :=
    closed.bind (closed.expect _ _) fun _ => closed.pure _
  refine closed.bind (closed.sees _) fun bare => ?_
  refine ite bare (closed.bind (closed.pure _) closing) ?_
  exact closed.bind (closed.arguments inner _) closing

theorem suffixesWithin (bound : Nat) (expr : Expr) :
    holds (suffixesWithin nested bound expr) := by
  induction bound generalizing expr with
  | zero => exact closed.pure _
  | succ bound ih =>
    refine closed.bind (closed.advanceIf _) fun called => ite called ?_ ?_
    · exact closed.bind (closed.finishCall inner expr) fun call => ih call
    · refine closed.bind (closed.advanceIf _) fun dotted => ite dotted ?_ (closed.pure _)
      exact closed.bind (closed.expect _ _) fun member => ih _

theorem call : holds (call nested) := by
  refine closed.bind (closed.primary inner) fun expr => closed.bind (closed.gets _) fun bound => ?_
  exact closed.suffixesWithin inner bound expr

theorem unary : holds (unary nested) := by
  refine closed.bind (closed.seesOneOf _) fun signed => ite signed ?_ (closed.call inner)
  exact closed.bind closed.advance fun _ => closed.bind inner.unary fun _ => closed.pure _

omit inner in
theorem operationsWithin (operators : List Kind) {operand : Parser Expr} (each : holds operand)
    (bound : Nat) (expr : Expr) : holds (operationsWithin operators operand bound expr) := by
  induction bound generalizing expr with
  | zero => exact closed.pure _
  | succ bound ih =>
    refine closed.bind (closed.seesOneOf _) fun more => ite more ?_ (closed.pure _)
    exact closed.bind closed.advance fun _ => closed.bind each fun _ => ih _

omit inner in
theorem operations (operators : List Kind) {operand : Parser Expr} (each : holds operand) :
    holds (operations operators operand) := by
  refine closed.bind each fun first => closed.bind (closed.gets _) fun bound => ?_
  exact closed.operationsWithin operators each bound first

theorem multiplication : holds (multiplication nested) :=
  closed.operations _ (closed.unary inner)

theorem addition : holds (addition nested) := closed.operations _ (closed.multiplication inner)

theorem comparison : holds (comparison nested) := closed.operations _ (closed.addition inner)

theorem equality : holds (equality nested) := closed.operations _ (closed.comparison inner)

theorem elseBranch : holds (elseBranch nested) := by
  refine closed.bind (closed.advanceIf _) fun present => ite present ?_ (closed.pure _)
  exact closed.bind (closed.expect _ _) fun _ => inner.body

theorem expression : holds (expression nested) := by
  refine closed.bind (closed.advanceIf _) fun conditional => ite conditional ?_ ?_
  · refine closed.bind (closed.expect _ _) fun _ => closed.bind inner.expr fun _ => ?_
    refine closed.bind (closed.expect _ _) fun _ => closed.bind (closed.expect _ _) fun _ => ?_
    refine closed.bind inner.body fun _ => ?_
    exact closed.bind (closed.elseBranch inner) fun _ => closed.pure _
  · exact closed.equality inner

theorem assignmentOrExpression : holds (assignmentOrExpression nested) := by
  refine closed.bind (closed.sees _) fun named => closed.bind (closed.gets _) fun next => ?_
  refine ite _ ?_ (closed.expression inner)
  refine closed.bind closed.advance fun _ => closed.bind closed.advance fun _ => ?_
  exact closed.bind inner.assignment fun _ => closed.pure _

theorem variableDecl (name : Token) (specifiers : List TypeExpr) (mutable : Bool) :
    holds (variableDecl nested name specifiers mutable) := by
  refine closed.bind (closed.sees _) fun untyped => ite _ (closed.failOf rfl) ?_
  refine closed.bind (closed.advanceIf _) fun inferred => ite inferred ?_ ?_
  · exact closed.bind (closed.expression inner) fun _ => closed.pure _
  · refine closed.bind (closed.expect _ _) fun _ => closed.bind (closed.typeExpr _) fun _ => ?_
    refine closed.bind (closed.expect _ _) fun _ => ?_
    exact closed.bind (closed.expression inner) fun _ => closed.pure _

theorem functionBody : holds (functionBody nested) := by
  refine closed.bind (closed.advanceIf _) fun present => ite present ?_ (closed.pure _)
  exact closed.bind (closed.expect _ _) fun _ => closed.bind inner.body fun _ => closed.pure _

theorem blockOrExpression : holds (blockOrExpression nested) := by
  refine closed.bind (closed.sees _) fun named => closed.bind (closed.gets _) fun next => ?_
  refine ite _ ?_ ?_
  · refine closed.bind closed.advance fun _ => closed.bind closed.advance fun _ => ?_
    exact closed.bind inner.body fun _ => closed.pure _
  · exact closed.bind (closed.assignmentOrExpression inner) fun _ => closed.pure _

/-- Trying a declaration is the one step of a statement that is no step of a phrase. -/
theorem declarationOrStatement
    (tried : holds (speculate (namedDeclaration nested) (Parser.blockOrExpression nested))) :
    holds (declarationOrStatement nested) := by
  rw [declarationOrStatement_eq]
  refine closed.bind (closed.advanceIf _) fun mutable => ite mutable ?_ ?_
  · refine closed.bind (closed.expect _ _) fun name => ?_
    exact closed.bind (closed.specifiers _) fun found => closed.variableDecl inner name found true
  · refine closed.bind ?_ fun declares => ite declares tried (closed.blockOrExpression inner)
    refine closed.bind (closed.sees _) fun named => ?_
    exact closed.bind (closed.gets _) fun next => closed.pure _

end Closed

/-- No run of a parser decides anything: it leaves the kept place alone and traces nothing. -/
def Silent {α : Type} (parser : Parser α) : Prop :=
  ∀ start, (parser.run start).state.mark = start.mark ∧ (parser.run start).trace = []

/-- As long as no place is given up and no error recorded, phrases are silent. -/
theorem closed_silent : Closed Silent where
  pure _ _ := ⟨rfl, rfl⟩
  bind {_ _ first next} before behind start := by
    have silent := before start
    cases ran : first.run start with
    | mk outcome stop trace =>
      rw [ran] at silent
      obtain ⟨kept, rfl⟩ := silent
      cases outcome with
      | error error => exact Traced.run_bind_error ran ▸ ⟨kept, rfl⟩
      | ok value =>
        rw [Traced.run_bind_ok ran, Run.behind_nil]
        exact ⟨(behind value stop).1.trans kept, (behind value stop).2⟩
  gets _ _ := ⟨rfl, rfl⟩
  failWith _ _ := ⟨rfl, rfl⟩
  failOf _ _ := ⟨rfl, rfl⟩
  move _ := ⟨rfl, rfl⟩

/-- A property that trying, failing and recovering keep too, and so all rules have. -/
structure Robust (holds : ∀ {α : Type}, Parser α → Prop) : Prop extends Closed holds where
  commit : holds commit
  eatBlankLines : holds eatBlankLines
  parsedStatement : holds (Traced.emit .parsedStatement)
  speculate : ∀ {nested : Nested}, Closed.OfNested holds nested →
    holds (namedDeclaration nested) → holds (blockOrExpression nested) →
      holds (speculate (namedDeclaration nested) (blockOrExpression nested))
  recovering : ∀ {α β : Type} (inBlock : Bool) {phrase : Parser α} {next : α → Parser β}
    {behind : Parser β}, holds phrase → (∀ value, holds (next value)) → holds behind →
      holds (recovering inBlock phrase next behind)

namespace Robust

variable {holds : ∀ {α : Type}, Parser α → Prop} (robust : Robust holds)
include robust

variable {nested : Nested} (inner : Closed.OfNested holds nested)
include inner

theorem functionDecl (name : Token) (specifierTypes : List TypeExpr) :
    holds (functionDecl nested name specifierTypes) := by
  refine robust.bind robust.parameters fun _ => robust.bind (robust.specifiers _) fun _ => ?_
  refine robust.bind (robust.expect _ _) fun _ => robust.bind robust.commit fun _ => ?_
  refine robust.bind (robust.typeExpr _) fun _ => ?_
  exact robust.bind (robust.functionBody inner) fun _ => robust.pure _

theorem namedDeclaration : holds (namedDeclaration nested) := by
  refine robust.bind (robust.expect _ _) fun name => ?_
  refine robust.bind (robust.specifiers _) fun found => ?_
  refine robust.bind (robust.seesOneOf _) fun defined => Closed.ite defined ?_ ?_
  · exact robust.bind robust.commit fun _ => robust.variableDecl inner name found false
  · refine robust.bind (robust.sees _) fun called => Closed.ite called ?_ (robust.failWith _)
    exact robust.functionDecl inner name found

theorem declarationOrStatement : holds (declarationOrStatement nested) :=
  robust.toClosed.declarationOrStatement inner
    (robust.speculate inner (robust.namedDeclaration inner) (robust.blockOrExpression inner))

theorem statementsWithin (inBlock : Bool) (bound : Nat) :
    holds (statementsWithin nested inBlock bound) := by
  induction bound with
  | zero => exact robust.pure _
  | succ bound ih =>
    have going (stmt : Stmt) : holds (do
        return stmt :: (← Parser.statementsWithin nested inBlock bound)) :=
      robust.bind ih fun _ => robust.pure _
    rw [statementsWithin_succ]
    refine robust.bind robust.eatBlankLines fun ended => Closed.ite ended (robust.pure _) ?_
    refine robust.bind (robust.sees _) fun closing => Closed.ite _ (robust.pure _) ?_
    refine robust.recovering inBlock (robust.declarationOrStatement inner) (fun stmt => ?_) ih
    refine robust.bind robust.parsedStatement fun _ => ?_
    exact robust.recovering inBlock robust.statementEnd (fun _ => going stmt) (going stmt)

theorem statements (inBlock : Bool) : holds (statements nested inBlock) :=
  robust.bind (robust.gets _) fun bound => robust.statementsWithin inner inBlock bound

theorem body : holds (body nested) := by
  refine robust.bind (robust.statements inner true) fun _ => ?_
  exact robust.bind (robust.expect _ _) fun _ => robust.pure _

omit inner in
/-- The property holds of the parsers of every level. -/
theorem ofNested (bound : Nat) : Closed.OfNested holds (Parser.nested bound) := by
  induction bound with
  | zero =>
    refine ⟨robust.failWith _, robust.failWith _, robust.failWith _, ?_⟩
    exact robust.bind (robust.expect _ _) fun _ => robust.pure _
  | succ bound ih =>
    exact ⟨robust.expression ih, robust.assignmentOrExpression ih, robust.unary ih,
      robust.body ih⟩

omit inner in
theorem statementList (inBlock : Bool) : holds (statementList inBlock) :=
  robust.bind (robust.gets _) fun bound => robust.statements (robust.ofNested bound) inBlock

end Robust
end Script.Parser
