import Script.Proofs.Parsing.Nesting
import Script.Proofs.Parsing.Orderly

set_option autoImplicit false

/- Parsing makes progress and ends. A phrase that is read takes a token, from wherever it is read;
so does an iteration of reading statements, unless it is the last one. Hence every loop and every
recursion of the parser ends, and a program is read to its end. -/
namespace Script

open Token (Kind)

/-- The second place is reached from the first over one or more tokens. -/
structure Tape.Before (start stop : Tape) : Prop where
  moves : ∃ count, stop = start.move count
  further : start.index < stop.index

/-- Where fewer tokens are ahead, more are passed. -/
theorem Tape.Before.of_shorter {start stop : Tape} (moves : ∃ count, stop = start.move count)
    (shorter : stop.ahead.length < start.ahead.length) : start.Before stop := by
  refine ⟨moves, ?_⟩
  obtain ⟨count, rfl⟩ := moves
  rw [ahead_move, List.length_drop] at shorter
  rw [index_move]
  omega

namespace Parser

/-- Whenever a parser succeeds, it has moved on. -/
def MovesOn {α : Type} (parser : Parser α) : Prop :=
  ∀ ⦃start stop value trace⦄, parser.run start = ⟨.ok value, stop, trace⟩ →
    start.tape.Before stop.tape

theorem Progresses.movesOn {α : Type} {parser : Parser α} (progresses : Progresses parser)
    (steady : Steady parser) : MovesOn parser := by
  intro start stop value trace ran
  have forward := (steady start).forward
  rw [ran] at forward
  exact .of_shorter forward (progresses ⟨trace, ran, .inl trivial⟩)

/-- Where reading statements stops: at the end, or in a block in front of a closing brace. -/
def StopsAt (inBlock : Bool) (tape : Tape) : Prop :=
  tape.ahead = [] ∨ inBlock = true ∧ tape.current.kind = .symbol .closeCurly

/-- What an iteration of reading statements does. It never fails. It is the last one and reading
stops, or it moves on, behind a statement that is read or over one that is not. -/
def Iterates (nested : Nested) (inBlock : Bool) (start : Cursor) : Prop :=
  ∃ result stop trace, (iteration nested inBlock).run start = ⟨.ok result, stop, trace⟩ ∧
    (result = .done ∧ (statements nested inBlock).run start = ⟨.ok [], stop, trace⟩ ∧
        StopsAt inBlock stop.tape ∨
      result ≠ .done ∧ start.tape.Before stop.tape)

section Statements

variable {nested : Nested} (steady : Closed.OfNested Steady nested) (inBlock : Bool)
include steady

/-- Reading statements is an iteration and what follows it. -/
theorem statements_eq_iteration :
    statements nested inBlock =
      iteration nested inBlock >>= Iteration.followed (statements nested inBlock) :=
  (congrFun (statements_terminates steady inBlock).unfolds ()).symm

theorem iterates (start : Cursor) : Iterates nested inBlock start := by
  obtain ⟨result, stop, trace, ran, last | ⟨more, shorter⟩⟩ := run_iteration steady inBlock start
  · refine ⟨result, stop, trace, ran, .inl ⟨last.1, ?_, last.2⟩⟩
    rw [statements_eq_iteration steady, Traced.run_bind_ok ran, last.1]
    simp [Iteration.followed]
  · have forward := (Steady.iteration steady inBlock start).forward
    rw [ran] at forward
    exact ⟨result, stop, trace, ran, .inr ⟨more, .of_shorter forward shorter⟩⟩

/-- Reading statements gets to where it stops, by induction on the tokens ahead. -/
theorem statements_stop (start : Cursor) :
    ∃ stmts stop trace, (statements nested inBlock).run start = ⟨.ok stmts, stop, trace⟩ ∧
      StopsAt inBlock stop.tape := by
  induction ahead : start.tape.ahead.length using Nat.strong_induction_on generalizing start with
  | _ count ih =>
    obtain ⟨result, middle, early, ran, last | ⟨more, shorter⟩⟩ :=
      run_iteration steady inBlock start
    · rw [statements_eq_iteration steady, Traced.run_bind_ok ran, last.1]
      exact ⟨[], middle, early ++ [], rfl, last.2⟩
    · obtain ⟨stmts, stop, late, behind, stops⟩ := ih _ (ahead ▸ shorter) middle rfl
      rw [statements_eq_iteration steady, Traced.run_bind_ok ran]
      cases result with
      | done => exact absurd rfl more
      | skipped =>
        refine ⟨stmts, stop, early ++ late, ?_, stops⟩
        rw [Iteration.followed, behind]
        rfl
      | read stmt =>
        refine ⟨stmt :: stmts, stop, early ++ (late ++ []), ?_, stops⟩
        rw [Iteration.followed, Traced.run_bind_ok behind]
        rfl

end Statements

/-- The levels of operators, the tightest first. -/
inductive Level where
  | multiplication
  | addition
  | comparison
  | equality

namespace Level

def operators : Level → List Kind
  | multiplication => [.symbol .star, .symbol .slash]
  | addition => [.symbol .plus, .symbol .dash]
  | comparison => [.symbol .greater, .symbol .greaterEquals, .symbol .less, .symbol .lessEquals]
  | equality => [.symbol .equals]

/-- The phrases of a level. -/
def phrase (nested : Nested) : Level → Parser Expr
  | multiplication => Parser.multiplication nested
  | addition => Parser.addition nested
  | comparison => Parser.comparison nested
  | equality => Parser.equality nested

/-- What stands between the operators of a level. -/
def operand (nested : Nested) : Level → Parser Expr
  | multiplication => unary nested
  | addition => phrase nested multiplication
  | comparison => phrase nested addition
  | equality => phrase nested comparison

theorem phrase_eq (nested : Nested) (level : Level) :
    level.phrase nested = level.operand nested >>=
      operationsBehind level.operators (level.operand nested) := by
  cases level <;> rfl

theorem others (level : Level) : ∀ kind ∈ level.operators, kind ∉ statementEnds := by
  cases level <;> decide

theorem steady_operand {nested : Nested} (steady : Closed.OfNested Steady nested)
    (level : Level) : Steady (level.operand nested) := by
  cases level with
  | multiplication => exact closed_steady.unary steady
  | addition => exact closed_steady.multiplication steady
  | comparison => exact closed_steady.addition steady
  | equality => exact closed_steady.comparison steady

end Level

/-- Every loop and every recursion of the parser ends, and the bounds on them are never reached. -/
structure RecursionsEnd : Prop where
  types : Terminates unfoldType typeExpr
  typeLists : ∀ context,
    Terminates (unfoldSeparated (typeExpr context)) fun _ => separated (typeExpr context)
  parameters : Terminates (unfoldSeparated parameter) fun _ => separated parameter
  specifiers : ∀ context, Terminates (unfoldSpecifiers context) fun _ => specifiers context
  calls : call unbounded = primary unbounded >>= suffixes unbounded
  suffixes : Terminates (unfoldSuffixes unbounded) (suffixes unbounded)
  levels : ∀ level : Level, level.phrase unbounded =
    level.operand unbounded >>= operationsBehind level.operators (level.operand unbounded)
  operations : ∀ level : Level,
    Terminates (unfoldOperations level.operators (level.operand unbounded))
      (operationsBehind level.operators (level.operand unbounded))
  statements : ∀ inBlock,
    Terminates (unfoldStatements unbounded inBlock) fun _ => statementList inBlock
  phrases : Terminates unfoldRules unbounded.rule
  outermost : statement = blockOrExpression unbounded ∧
    declaration = declarationOrStatement unbounded

theorem recursions_end : RecursionsEnd where
  types := typeExpr_terminates
  typeLists context := separated_terminates (closed_steady.typeExpr context)
  parameters := separated_terminates closed_steady.parameter
  specifiers := specifiers_terminates
  calls := rfl
  suffixes := suffixes_terminates steady_unbounded
  levels := Level.phrase_eq unbounded
  operations level :=
    operations_terminates level.others (level.steady_operand steady_unbounded)
  statements inBlock := by
    rw [statementList_eq]
    exact statements_terminates steady_unbounded inBlock
  phrases := rules_terminate
  outermost := ⟨statement_eq, declaration_eq⟩

/-- A phrase with as many levels as there are tokens ahead is steady if it is with any. -/
theorem Steady.sized {α : Type} {phrase : Nested → Parser α}
    (each : ∀ {nested : Nested}, Closed.OfNested Steady nested → Steady (phrase nested)) :
    Steady (left >>= fun bound => phrase (nested bound)) :=
  closed_steady.bind (closed_steady.gets _) fun bound => each (robust_steady.ofNested bound)

/-- Types, expressions, assignments, statements and declarations that are read move on. An
iteration of reading statements moves on too, unless it is the last one. All loops and recursions of
the parser end, reading statements stops where it has to, and a program is read to its end. -/
theorem parsing_moves_on_and_ends :
    ((∀ context, MovesOn (typeExpr context)) ∧ MovesOn expr ∧ MovesOn assignment ∧
      MovesOn statement ∧ MovesOn declaration) ∧
    (∀ inBlock start, Iterates unbounded inBlock start) ∧
    RecursionsEnd ∧
    (∀ inBlock start, ∃ stmts stop trace,
      (statementList inBlock).run start = ⟨.ok stmts, stop, trace⟩ ∧ StopsAt inBlock stop.tape) ∧
    ∀ tokens, ∃ stop trace,
      (statementList false).run (.ofTokens tokens) = ⟨.ok (parse tokens).statements, stop, trace⟩ ∧
        stop.tape.ahead = [] := by
  have stops (inBlock : Bool) (start : Cursor) : ∃ stmts stop trace,
      (statementList inBlock).run start = ⟨.ok stmts, stop, trace⟩ ∧
        StopsAt inBlock stop.tape := by
    rw [statementList_eq]
    exact statements_stop steady_unbounded inBlock start
  refine ⟨⟨fun context => ?_, ?_, ?_, ?_, ?_⟩, iterates steady_unbounded, recursions_end, stops,
    fun tokens => ?_⟩
  · exact (Progresses.typeExpr context).movesOn (closed_steady.typeExpr context)
  · exact (Progresses.sized Progresses.expression).movesOn (.sized closed_steady.expression)
  · exact (Progresses.sized Progresses.assignmentOrExpression).movesOn
      (.sized closed_steady.assignmentOrExpression)
  · exact (Progresses.sized Progresses.blockOrExpression).movesOn
      (.sized closed_steady.blockOrExpression)
  · exact (Progresses.sized Progresses.declarationOrStatement).movesOn
      (.sized robust_steady.declarationOrStatement)
  · obtain ⟨stmts, stop, trace, ran, stopped⟩ := stops false (.ofTokens tokens)
    obtain ⟨stop', trace', ran', -⟩ := run_parse tokens
    obtain ⟨⟨⟩, rfl, rfl⟩ := Run.mk.inj (ran.symm.trans ran')
    exact ⟨stop, trace, ran', stopped.resolve_right fun inside => nomatch inside.1⟩

end Parser
end Script
