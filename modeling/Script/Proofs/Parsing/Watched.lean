import Script.Proofs.Parsing.Steady

set_option autoImplicit false

/- Statements inside other statements are read with no place kept. To say so, an alarm is put where
such statements are entered while a place is kept, at every depth. Whatever the alarm does, no run
that begins with no place kept can tell that it is there. -/
namespace Script.Parser

open Token (Kind)

/-- Reads statements, or raises an alarm if a place is kept. -/
def entering (alarm entered : Parser (List Stmt)) : Parser (List Stmt) := do
  if ← hasCheckpoint then alarm else entered

/-- Parsers for phrases with at most the given number of tokens ahead, with an alarm where they
enter the statements of a block. -/
def watched (alarm : Parser (List Stmt)) : Nat → Nested
  | 0 => { noneLeft with body := entering alarm noneLeft.body }
  | bound + 1 => {
      expr := fun cursor => expression (watched alarm bound) cursor
      assignment := fun cursor => assignmentOrExpression (watched alarm bound) cursor
      unary := fun cursor => unary (watched alarm bound) cursor
      body := entering alarm (body (watched alarm bound)) }

/-- A statement, read with an alarm where the statements of a block are entered. -/
def watchedDeclaration (alarm : Parser (List Stmt)) : Parser Stmt := do
  declarationOrStatement (watched alarm (← left))

/-- Where no place is kept, the first parser runs as the second one does, and none is kept then. -/
def SameFree {α : Type} (parser' parser : Parser α) : Prop :=
  ∀ start, start.mark = none →
    parser'.run start = parser.run start ∧ (parser.run start).state.mark = none

namespace SameFree

variable {α β : Type}

theorem of_steady {parser : Parser α} (steady : Steady parser) : SameFree parser parser :=
  fun _ free => ⟨rfl, steady.mark_none rfl free⟩

theorem bind {first' first : Parser α} {next' next : α → Parser β}
    (before : SameFree first' first) (behind : ∀ value, SameFree (next' value) (next value)) :
    SameFree (first' >>= next') (first >>= next) := by
  intro start free
  obtain ⟨same, lost⟩ := before start free
  cases ran : first.run start with
  | mk outcome stop trace =>
    rw [ran] at same lost
    cases outcome with
    | error error =>
      rw [Traced.run_bind_error same, Traced.run_bind_error ran]
      exact ⟨rfl, lost⟩
    | ok value =>
      obtain ⟨same', lost'⟩ := behind value stop lost
      rw [Traced.run_bind_ok same, Traced.run_bind_ok ran, same']
      exact ⟨rfl, lost'⟩

/-- A sequence that begins with the same step. -/
theorem after {first : Parser α} {next' next : α → Parser β} (steady : Steady first)
    (behind : ∀ value, SameFree (next' value) (next value)) :
    SameFree (first >>= next') (first >>= next) :=
  bind (of_steady steady) behind

theorem pure (value : α) : SameFree (pure value : Parser α) (pure value) :=
  of_steady (closed_steady.pure value)

theorem ite (test : Bool) {yes' no' yes no : Parser α} (chosen : SameFree yes' yes)
    (other : SameFree no' no) :
    SameFree (if test = true then yes' else no') (if test = true then yes else no) := by
  cases test
  · exact other
  · exact chosen

theorem entering (alarm : Parser (List Stmt)) {entered' entered : Parser (List Stmt)}
    (same : SameFree entered' entered) : SameFree (entering alarm entered') entered := by
  intro start free
  have none : hasCheckpoint.run start = ⟨.ok false, start, []⟩ := by simp [hasCheckpoint, free]
  rw [Parser.entering, Traced.run_bind_ok none, Run.behind_nil]
  exact same start free

/-- Behind the point where the kept place is given up, none is kept. -/
theorem commit_bind {next' next : Unit → Parser β} (behind : SameFree (next' ()) (next ())) :
    commit >>= next' = commit >>= next := by
  funext start
  obtain ⟨trace, ran, -⟩ := run_commit start
  change (commit >>= next').run start = (commit >>= next).run start
  rw [Traced.run_bind_ok ran, Traced.run_bind_ok ran, (behind _ rfl).1]

theorem recovering (inBlock : Bool) {phrase' phrase : Parser α} {next' next : α → Parser β}
    {behind' behind : Parser β} (first : SameFree phrase' phrase)
    (second : ∀ value, SameFree (next' value) (next value)) (other : SameFree behind' behind) :
    SameFree (recovering inBlock phrase' next' behind')
      (recovering inBlock phrase next behind) := by
  intro start free
  obtain ⟨same, lost⟩ := first start free
  cases ran : phrase.run start with
  | mk outcome stop trace =>
    rw [ran] at same lost
    cases outcome with
    | error error =>
      obtain ⟨same', lost'⟩ := other ⟨stop.tape.recovered inBlock, none⟩ rfl
      rw [run_recovering_error same, run_recovering_error ran, same']
      exact ⟨rfl, lost'⟩
    | ok value =>
      obtain ⟨same', lost'⟩ := second value stop lost
      rw [run_recovering_ok same, run_recovering_ok ran, same']
      exact ⟨rfl, lost'⟩

/-- The parsers for phrases inside other phrases run alike where no place is kept. -/
structure OfNested (nested' nested : Nested) : Prop where
  expr : SameFree nested'.expr nested.expr
  assignment : SameFree nested'.assignment nested.assignment
  unary : SameFree nested'.unary nested.unary
  body : SameFree nested'.body nested.body

section Phrases

variable {nested' nested : Nested} (inner : OfNested nested' nested)
include inner

theorem primary : SameFree (primary nested') (primary nested) := by
  refine after (closed_steady.gets _) fun token => ?_
  split
  · exact after closed_steady.advance fun _ => .pure _
  · exact after closed_steady.advance fun _ => .pure _
  · split
    · exact after closed_steady.advance fun _ => .pure _
    · exact of_steady (closed_steady.failWith _)
  · split
    · exact after closed_steady.advance fun _ => .pure _
    · exact of_steady (closed_steady.failWith _)
  · split
    · exact after closed_steady.advance fun _ => .pure _
    · exact of_steady (closed_steady.failWith _)
  · exact after closed_steady.advance fun _ => .pure _
  · refine after closed_steady.advance fun _ => bind inner.expr fun held => ?_
    exact after (closed_steady.expect _ _) fun _ => .pure _
  · exact of_steady (closed_steady.failWith _)

theorem arguments (allowed : Nat) :
    SameFree (arguments nested' allowed) (arguments nested allowed) := by
  induction allowed with
  | zero => exact of_steady (closed_steady.failOf rfl)
  | succ allowed ih =>
    refine bind inner.expr fun _ => after (closed_steady.advanceIf _) fun more => ?_
    exact ite more (bind ih fun _ => .pure _) (.pure _)

theorem finishCall (callee : Expr) :
    SameFree (finishCall nested' callee) (finishCall nested callee) := by
  have closing (found : List Expr) : Steady (do
      let _ ← Parser.expect (.symbol .closeParen) "after function arguments"
      return Expr.call callee found) :=
    closed_steady.bind (closed_steady.expect _ _) fun _ => closed_steady.pure _
  refine after (closed_steady.sees _) fun bare => ite bare ?_ ?_
  · exact bind (.pure []) fun found => of_steady (closing found)
  · exact bind (arguments inner _) fun found => of_steady (closing found)

theorem suffixesWithin (bound : Nat) (expr : Expr) :
    SameFree (suffixesWithin nested' bound expr) (suffixesWithin nested bound expr) := by
  induction bound generalizing expr with
  | zero => exact .pure _
  | succ bound ih =>
    refine after (closed_steady.advanceIf _) fun called => ite called ?_ ?_
    · exact bind (finishCall inner expr) fun call => ih call
    · refine after (closed_steady.advanceIf _) fun dotted => ite dotted ?_ (.pure _)
      exact after (closed_steady.expect _ _) fun member => ih _

theorem call : SameFree (call nested') (call nested) := by
  refine bind (primary inner) fun expr => after (closed_steady.gets _) fun bound => ?_
  exact suffixesWithin inner bound expr

theorem unary : SameFree (unary nested') (unary nested) := by
  refine after (closed_steady.seesOneOf _) fun signed => ite signed ?_ (call inner)
  exact after closed_steady.advance fun _ => bind inner.unary fun _ => .pure _

omit inner in
theorem operationsWithin (operators : List Kind) {operand' operand : Parser Expr}
    (each : SameFree operand' operand) (bound : Nat) (expr : Expr) :
    SameFree (operationsWithin operators operand' bound expr)
      (operationsWithin operators operand bound expr) := by
  induction bound generalizing expr with
  | zero => exact .pure _
  | succ bound ih =>
    refine after (closed_steady.seesOneOf _) fun more => ite more ?_ (.pure _)
    exact after closed_steady.advance fun _ => bind each fun _ => ih _

omit inner in
theorem operations (operators : List Kind) {operand' operand : Parser Expr}
    (each : SameFree operand' operand) :
    SameFree (operations operators operand') (operations operators operand) := by
  refine bind each fun first => after (closed_steady.gets _) fun bound => ?_
  exact operationsWithin operators each bound first

theorem equality : SameFree (equality nested') (equality nested) :=
  operations _ <| operations _ <| operations _ <| operations _ <| unary inner

theorem elseBranch : SameFree (elseBranch nested') (elseBranch nested) := by
  refine after (closed_steady.advanceIf _) fun present => ite present ?_ (.pure _)
  exact after (closed_steady.expect _ _) fun _ => inner.body

theorem expression : SameFree (expression nested') (expression nested) := by
  refine after (closed_steady.advanceIf _) fun conditional => ite conditional ?_ (equality inner)
  refine after (closed_steady.expect _ _) fun _ => bind inner.expr fun _ => ?_
  refine after (closed_steady.expect _ _) fun _ => after (closed_steady.expect _ _) fun _ => ?_
  exact bind inner.body fun _ => bind (elseBranch inner) fun _ => .pure _

theorem assignmentOrExpression :
    SameFree (assignmentOrExpression nested') (assignmentOrExpression nested) := by
  refine after (closed_steady.sees _) fun named => after (closed_steady.gets _) fun next => ?_
  refine ite _ ?_ (expression inner)
  refine after closed_steady.advance fun _ => after closed_steady.advance fun _ => ?_
  exact bind inner.assignment fun _ => .pure _

theorem variableDecl (name : Token) (specifiers : List TypeExpr) (mutable : Bool) :
    SameFree (variableDecl nested' name specifiers mutable)
      (variableDecl nested name specifiers mutable) := by
  refine after (closed_steady.sees _) fun untyped =>
    ite _ (of_steady (closed_steady.failOf rfl)) ?_
  refine after (closed_steady.advanceIf _) fun inferred => ite inferred ?_ ?_
  · exact bind (expression inner) fun _ => .pure _
  · refine after (closed_steady.expect _ _) fun _ => after (closed_steady.typeExpr _) fun _ => ?_
    exact after (closed_steady.expect _ _) fun _ => bind (expression inner) fun _ => .pure _

theorem functionBody : SameFree (functionBody nested') (functionBody nested) := by
  refine after (closed_steady.advanceIf _) fun present => ite present ?_ (.pure _)
  exact after (closed_steady.expect _ _) fun _ => bind inner.body fun _ => .pure _

/-- What a declaration consists of is read only where its kept place is given up. -/
theorem namedDeclaration : namedDeclaration nested' = namedDeclaration nested := by
  have decided (name : Token) (found : List TypeExpr) :
      functionDecl nested' name found = functionDecl nested name found := by
    refine bind_congr fun _ => bind_congr fun _ => bind_congr fun _ => commit_bind ?_
    exact after (closed_steady.typeExpr _) fun _ => bind (functionBody inner) fun _ => .pure _
  refine bind_congr fun name => bind_congr fun found => bind_congr fun defined => ?_
  refine ite_congr rfl (fun _ => commit_bind (variableDecl inner name found false)) fun _ => ?_
  exact bind_congr fun called => ite_congr rfl (fun _ => decided name found) fun _ => rfl

theorem blockOrExpression : SameFree (blockOrExpression nested') (blockOrExpression nested) := by
  refine after (closed_steady.sees _) fun named => after (closed_steady.gets _) fun next => ?_
  refine ite _ ?_ (bind (assignmentOrExpression inner) fun _ => .pure _)
  refine after closed_steady.advance fun _ => after closed_steady.advance fun _ => ?_
  exact bind inner.body fun _ => .pure _

variable (steady : Closed.OfNested Steady nested)
include steady

/-- A trial goes back to where no place was kept, or has given up the place that it kept. -/
theorem speculate :
    SameFree (speculate (Parser.namedDeclaration nested') (Parser.blockOrExpression nested'))
      (speculate (Parser.namedDeclaration nested) (Parser.blockOrExpression nested)) := by
  rw [namedDeclaration inner]
  intro start free
  cases ran : (Parser.namedDeclaration nested).run start.marked with
  | mk outcome stop trace =>
    cases outcome with
    | ok stmt =>
      rw [run_speculate_ok free ran, run_speculate_ok free ran]
      exact ⟨rfl, namedDeclaration_gives_up steady ran⟩
    | error error =>
      cases kept : stop.mark with
      | none =>
        rw [run_speculate_error free ran kept, run_speculate_error free ran kept]
        exact ⟨rfl, kept⟩
      | some tape =>
        obtain ⟨same, lost⟩ := blockOrExpression inner ⟨tape, none⟩ rfl
        rw [run_speculate_restored free ran kept, run_speculate_restored free ran kept, same]
        exact ⟨rfl, lost⟩

theorem declarationOrStatement :
    SameFree (declarationOrStatement nested') (declarationOrStatement nested) := by
  rw [declarationOrStatement_eq, declarationOrStatement_eq]
  refine after (closed_steady.advanceIf _) fun mutable => ite mutable ?_ ?_
  · refine after (closed_steady.expect _ _) fun name => ?_
    exact after (closed_steady.specifiers _) fun found => variableDecl inner name found true
  · have looks : Steady looksLikeDeclaration :=
      closed_steady.bind (closed_steady.sees _) fun _ =>
        closed_steady.bind (closed_steady.gets _) fun _ => closed_steady.pure _
    refine after looks fun declares => ite declares ?_ (blockOrExpression inner)
    exact speculate inner steady

theorem statementsWithin (inBlock : Bool) (bound : Nat) :
    SameFree (statementsWithin nested' inBlock bound) (statementsWithin nested inBlock bound) := by
  induction bound with
  | zero => exact .pure _
  | succ bound ih =>
    have going (stmt : Stmt) :
        SameFree (do return stmt :: (← Parser.statementsWithin nested' inBlock bound))
          (do return stmt :: (← Parser.statementsWithin nested inBlock bound)) :=
      bind ih fun _ => .pure _
    rw [statementsWithin_succ, statementsWithin_succ]
    refine after robust_steady.eatBlankLines fun ended => ite ended (.pure _) ?_
    refine after (closed_steady.sees _) fun closing => ite _ (.pure _) ?_
    refine recovering inBlock (declarationOrStatement inner steady) (fun stmt => ?_) ih
    refine after robust_steady.parsedStatement fun _ => ?_
    exact recovering inBlock (of_steady closed_steady.statementEnd) (fun _ => going stmt)
      (going stmt)

theorem body : SameFree (body nested') (body nested) := by
  have held : SameFree (statements nested' true) (statements nested true) :=
    after (closed_steady.gets _) fun bound => statementsWithin inner steady true bound
  exact bind held fun _ => after (closed_steady.expect _ _) fun _ => .pure _

end Phrases

theorem ofWatched (alarm : Parser (List Stmt)) (bound : Nat) :
    OfNested (watched alarm bound) (nested bound) := by
  induction bound with
  | zero =>
    have none : Closed.OfNested Steady noneLeft := robust_steady.ofNested 0
    exact ⟨of_steady none.expr, of_steady none.assignment, of_steady none.unary,
      entering alarm (of_steady none.body)⟩
  | succ bound ih =>
    exact ⟨expression ih, assignmentOrExpression ih, unary ih,
      entering alarm (body ih (robust_steady.ofNested bound))⟩

end SameFree

/-- No alarm is ever raised. -/
theorem watchedDeclaration_same (alarm : Parser (List Stmt)) :
    SameFree (watchedDeclaration alarm) declaration :=
  .after (closed_steady.gets _) fun bound =>
    .declarationOrStatement (SameFree.ofWatched alarm bound) (robust_steady.ofNested bound)

end Script.Parser
