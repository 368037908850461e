import Script.Proofs.Parsing.Steps
import Script.Proofs.Traced.Erasing
import Script.Proofs.Tree.Moving

set_option autoImplicit false

/- Parsing of tokens in other places. No step of a parser looks at where a token stands, so tokens
that are moved are read as they were before; what is read, and what is reported, is moved with them.
-/
namespace Script

def Error.unplaced (error : Error) : Error := { error with position := .null }

def Error.moved (shift : Position → Position) (error : Error) : Error :=
  { error with position := shift error.position }

variable {shift : Position → Position}

namespace Token

@[simp] theorem kind_moved (token : Token) : (token.moved shift).kind = token.kind := rfl

@[simp] theorem describe_moved (token : Token) :
    (token.moved shift).describe = token.describe := rfl

end Token

namespace Tape

def moved (shift : Position → Position) (tape : Tape) : Tape where
  passed := tape.passed.map (Token.moved shift)
  ahead := tape.ahead.map (Token.moved shift)
  finish := tape.finish.moved shift
  beyond := tape.beyond.map (Token.moved shift)
  ahead_open := fun token member => by
    obtain ⟨token, held, rfl⟩ := List.mem_map.mp member
    exact tape.ahead_open token held
  finish_end := tape.finish_end

variable (tape : Tape)

@[simp] theorem current_moved : (tape.moved shift).current = tape.current.moved shift := by
  simp only [current, moved]
  cases tape.ahead <;> rfl

@[simp] theorem next?_moved : (tape.moved shift).next? = tape.next?.map (Token.moved shift) := by
  simp only [next?, moved]
  rcases tape.ahead with _ | ⟨token, _ | ⟨token', rest⟩⟩
  · simp
  · rfl
  · rfl

@[simp] theorem previous?_moved :
    (tape.moved shift).previous? = tape.previous?.map (Token.moved shift) := by
  simp [previous?, moved]

@[simp] theorem index_moved : (tape.moved shift).index = tape.index := by
  simp [index, moved]

@[simp] theorem atEnd_moved : (tape.moved shift).atEnd = tape.atEnd := by
  simp [atEnd, moved]

@[simp] theorem length_ahead_moved : (tape.moved shift).ahead.length = tape.ahead.length := by
  simp [moved]

theorem move_moved (count : Nat) :
    (tape.moved shift).move count = (tape.move count).moved shift := by
  simp [move, moved, List.map_take, List.map_drop]

theorem advance_moved : (tape.moved shift).advance = tape.advance.moved shift := tape.move_moved 1

/-- A test that does not look at places. -/
theorem advanceWhile_moved {test : Token → Bool}
    (same : ∀ token : Token, test (token.moved shift) = test token) :
    (tape.moved shift).advanceWhile test = (tape.advanceWhile test).moved shift := by
  have count : ((tape.moved shift).ahead.takeWhile test).length =
      (tape.ahead.takeWhile test).length := by
    rw [moved, List.takeWhile_map, List.length_map, show test ∘ Token.moved shift = test from
      funext same]
  rw [advanceWhile, count, move_moved, advanceWhile]

theorem recovered_moved (inBlock : Bool) :
    (tape.moved shift).recovered inBlock = (tape.recovered inBlock).moved shift := by
  have stretch (tape : Tape) : (tape.moved shift).advanceWhile continuesStatement =
      (tape.advanceWhile continuesStatement).moved shift := advanceWhile_moved _ fun _ => rfl
  simp only [recovered, advance_moved, stretch, current_moved, Token.kind_moved]
  split
  · rfl
  split
  · rfl
  split <;> rfl

/-- An end of file that is added is where the last token is, or in no place. -/
theorem ofTokens_moved (nowhere : shift .null = .null) (tokens : List Token) :
    ofTokens (tokens.map (Token.moved shift)) = (ofTokens tokens).moved shift := by
  have opened : isOpen ∘ Token.moved shift = isOpen := rfl
  have ended : (fun token : Token => token.kind == .endOfFile) ∘ Token.moved shift =
      fun token => token.kind == .endOfFile := rfl
  have last : lastPosition (tokens.map (Token.moved shift)) = shift (lastPosition tokens) := by
    rw [lastPosition, List.getLast?_map, lastPosition]
    cases tokens.getLast? with
    | none => exact nowhere.symm
    | some token => rfl
  have whole : terminated (tokens.map (Token.moved shift)) =
      (terminated tokens).map (Token.moved shift) := by
    simp only [terminated, List.getLast?_map, Option.any_map, Token.kind_moved, last,
      apply_ite (List.map (Token.moved shift)), List.map_append]
    rfl
  have finish : finishOf (tokens.map (Token.moved shift)) = (finishOf tokens).moved shift := by
    rw [finishOf, List.find?_map, ended, last, finishOf]
    cases tokens.find? fun token => token.kind == .endOfFile <;> rfl
  simp only [ofTokens, moved, finish, whole, List.takeWhile_map, List.dropWhile_map, opened,
    List.map_tail, List.map_nil]

end Tape

namespace Cursor

def moved (shift : Position → Position) (cursor : Cursor) : Cursor :=
  ⟨cursor.tape.moved shift, cursor.mark.map (Tape.moved shift)⟩

theorem advance_moved (cursor : Cursor) :
    (cursor.moved shift).advance = cursor.advance.moved shift := by
  simp only [advance, moved, Tape.advance_moved]

theorem errorOf_moved (cursor : Cursor) (cause : Error.Cause) :
    (cursor.moved shift).errorOf cause = (cursor.errorOf cause).moved shift := by
  simp only [errorOf, moved, Tape.current_moved]
  rfl

/-- A message does not say where its tokens stand. -/
theorem message_moved (cursor : Cursor) (template : String) :
    (cursor.moved shift).message template = cursor.message template := by
  simp only [message, moved, Tape.current_moved, Tape.next?_moved, Tape.previous?_moved,
    Option.map_map, Token.describe_moved]
  rfl

theorem error_moved (cursor : Cursor) (template : String) :
    (cursor.moved shift).error template = (cursor.error template).moved shift := by
  rw [error, message_moved, errorOf_moved, error]

end Cursor

namespace Parser

def Event.moved (shift : Position → Position) : Event → Event
  | notDeclaration error => notDeclaration (error.moved shift)
  | recovered error => recovered (error.moved shift)
  | event => event

theorem Event.recorded?_moved (event : Event) :
    (event.moved shift).recorded? = event.recorded?.map (Error.moved shift) := by
  cases event <;> rfl

/-- The places in runs of parsers. -/
def places (shift : Position → Position) : Erasure Cursor Event Error :=
  ⟨Cursor.moved shift, Event.moved shift, Error.moved shift⟩

/-- The first parser reads in other places what the second one reads. -/
abbrev Blind {α : Type} (shift : Position → Position) (erase : α → α) (parser' parser : Parser α) :
    Prop := Traced.Blind (places shift) erase parser' parser

namespace Blind

open Token (Kind)
open Traced.Blind

variable {α : Type} {erase : α → α}

theorem failWith (template : String) :
    Blind shift erase (failWith template : Parser α) (Parser.failWith template) := by
  intro cursor
  rw [run_failWith, run_failWith]
  change (⟨.error ((cursor.moved shift).error template), _, _⟩ : Run _ _ _ _) = _
  rw [Cursor.error_moved]
  rfl

theorem failOf (cause : Error.Cause) :
    Blind shift erase (failOf cause : Parser α) (Parser.failOf cause) := by
  intro cursor
  rw [run_failOf, run_failOf]
  change (⟨.error ((cursor.moved shift).errorOf cause), _, _⟩ : Run _ _ _ _) = _
  rw [Cursor.errorOf_moved]
  rfl

theorem current : Blind shift (Token.moved shift) current current :=
  gets fun cursor => cursor.tape.current_moved

theorem nextKind? : Blind shift id nextKind? nextKind? := by
  refine gets fun cursor => ?_
  change (cursor.tape.moved shift).next?.map Token.kind = _
  rw [Tape.next?_moved, Option.map_map]
  rfl

theorem seesOneOf (kinds : List Kind) : Blind shift id (seesOneOf kinds) (seesOneOf kinds) :=
  current.bind fun _ => .pure _

theorem sees (kind : Kind) : Blind shift id (sees kind) (sees kind) :=
  current.bind fun _ => .pure _

theorem left : Blind shift id left left := gets fun cursor => cursor.tape.length_ahead_moved

theorem move : Blind shift id (Traced.modify Cursor.advance) (Traced.modify Cursor.advance) :=
  modify Cursor.advance_moved

theorem advance : Blind shift (Token.moved shift) advance advance :=
  current.bind fun token => move.bind fun _ => .pure token

theorem advanceIf (kinds : List Kind) : Blind shift id (advanceIf kinds) (advanceIf kinds) :=
  (seesOneOf kinds).bind fun seen => .ite seen (move.bind fun _ => .pure _) (.pure _)

theorem expect (kind : Kind) (context : String) :
    Blind shift (Token.moved shift) (expect kind context) (expect kind context) :=
  (sees kind).bind fun seen => .ite seen advance (failWith _)

theorem eatBlankLines : Blind shift id eatBlankLines eatBlankLines := by
  refine (modify fun cursor => ?_).bind fun _ => gets fun cursor => cursor.tape.atEnd_moved
  change (⟨(cursor.tape.moved shift).advanceWhile _, _⟩ : Cursor) = _
  rw [Tape.advanceWhile_moved _ fun _ => rfl]
  rfl

theorem commit : Blind shift id commit commit := by
  rintro ⟨tape, mark⟩
  cases mark with
  | none => rfl
  | some kept =>
    change (⟨.ok (), ⟨tape.moved shift, none⟩, [.committed (tape.moved shift).index]⟩ :
      Run Cursor Event Error Unit) = _
    rw [Tape.index_moved]
    rfl

theorem checkpoint : Blind shift id checkpoint checkpoint := by
  rintro ⟨tape, mark⟩
  cases mark with
  | none =>
    change (⟨.ok (), ⟨tape.moved shift, some (tape.moved shift)⟩,
      [.marked (tape.moved shift).index]⟩ : Run Cursor Event Error Unit) = _
    rw [Tape.index_moved]
    rfl
  | some kept =>
    change (⟨.error ((((Cursor.mk tape (some kept)).moved shift).errorOf
      .nestedCheckpoint).withContext (tape.moved shift).current.describe), _, _⟩ :
        Run Cursor Event Error Unit) = _
    rw [Cursor.errorOf_moved, Tape.current_moved]
    rfl

theorem restore : Blind shift id restore restore := by
  rintro ⟨tape, mark⟩
  cases mark with
  | none => rfl
  | some kept =>
    change (⟨.ok (), ⟨kept.moved shift, none⟩, [.backtracked (tape.moved shift).index
      (kept.moved shift).index]⟩ : Run Cursor Event Error Unit) = _
    rw [Tape.index_moved, Tape.index_moved]
    rfl

theorem hasCheckpoint : Blind shift id hasCheckpoint hasCheckpoint :=
  gets fun _ => Option.isSome_map

theorem note (event : Event) :
    Blind shift id (Traced.emit (event.moved shift)) (Traced.emit event) := emit event

theorem recover (error : Error) (inBlock : Bool) :
    Blind shift id (recover (error.moved shift) inBlock) (Parser.recover error inBlock) := by
  intro cursor
  rw [run_recover, run_recover]
  change (⟨_, ⟨(cursor.tape.moved shift).recovered inBlock, none⟩, _⟩ :
    Run Cursor Event Error Unit) = _
  rw [Tape.recovered_moved]
  rfl

/-- A trial does not mind where tokens are if neither of its readings does. -/
theorem speculate {tried otherwise : Parser Stmt}
    (first : Blind shift (Stmt.moved shift) tried tried)
    (second : Blind shift (Stmt.moved shift) otherwise otherwise) :
    Blind shift (Stmt.moved shift) (speculate tried otherwise) (speculate tried otherwise) := by
  refine checkpoint.bind fun _ => (attempt first).bind fun outcome => ?_
  cases outcome with
  | ok stmt => exact .pure stmt
  | error error =>
    refine hasCheckpoint.bind fun kept => .ite kept ?_ (fail error)
    exact (note (.notDeclaration error)).bind fun _ => restore.bind fun _ => second

theorem recovering {β : Type} {erase' : β → β} (inBlock : Bool) {phrase : Parser α}
    {next' next : α → Parser β} {behind' behind : Parser β}
    (first : Blind shift erase phrase phrase)
    (second : ∀ value, Blind shift erase' (next' (erase value)) (next value))
    (other : Blind shift erase' behind' behind) :
    Blind shift erase' (recovering inBlock phrase next' behind')
      (Parser.recovering inBlock phrase next behind) := by
  refine (attempt first).bind fun outcome => ?_
  cases outcome with
  | ok value => exact second value
  | error error => exact (recover error inBlock).bind fun _ => other

section Types

theorem separatedWithin {item : Parser α} (each : Blind shift erase item item) (bound : Nat) :
    Blind shift (List.map erase) (separatedWithin item bound) (separatedWithin item bound) := by
  induction bound with
  | zero => exact each.bind fun first => .pure [first]
  | succ bound ih =>
    refine each.bind fun first => (advanceIf _).bind fun more => .ite more ?_ (.pure [first])
    exact ih.bind fun rest => .pure (first :: rest)

theorem separated {item : Parser α} (each : Blind shift erase item item) :
    Blind shift (List.map erase) (separated item) (separated item) :=
  left.bind fun bound => separatedWithin each bound

theorem typeName (context : String) :
    Blind shift (Prod.map (Token.moved shift) id) (typeName context) (typeName context) :=
  (expect _ _).bind fun name => (advanceIf _).bind fun optional => .pure (name, optional)

theorem typeWithin (bound : Nat) (context : String) :
    Blind shift (TypeExpr.moved shift) (typeWithin bound context) (typeWithin bound context) := by
  induction bound generalizing context with
  | zero =>
    exact (typeName context).bind fun (name, optional) => .pure (TypeExpr.named name optional)
  | succ bound ih =>
    refine (advanceIf _).bind fun bracketed => .ite bracketed ?_ ?_
    · refine (sees _).bind fun closing => .ite closing ?_ ?_
      · refine (expect _ _).bind fun _ => (typeName context).bind fun (name, optional) => ?_
        exact .pure (TypeExpr.array name optional)
      · refine (ih _).bind fun key => (expect _ _).bind fun _ => ?_
        refine (typeName context).bind fun (name, optional) => ?_
        exact .pure (TypeExpr.map key name optional)
    · exact (typeName context).bind fun (name, optional) => .pure (TypeExpr.named name optional)

theorem typeExpr (context : String) :
    Blind shift (TypeExpr.moved shift) (typeExpr context) (typeExpr context) :=
  left.bind fun bound => typeWithin bound context

theorem specifiersWithin (context : String) (bound : Nat) :
    Blind shift (List.map (TypeExpr.moved shift)) (specifiersWithin context bound)
      (specifiersWithin context bound) := by
  induction bound with
  | zero => exact .pure []
  | succ bound ih =>
    refine (advanceIf _).bind fun opened => .ite opened ?_ (.pure [])
    refine (separated (typeExpr context)).bind fun types => (expect _ _).bind fun _ => ?_
    refine ih.bind fun rest => ?_
    rw [← List.map_append]
    exact .pure (types ++ rest)

theorem specifiers (context : String) :
    Blind shift (List.map (TypeExpr.moved shift)) (specifiers context) (specifiers context) :=
  left.bind fun bound => specifiersWithin context bound

theorem parameter : Blind shift (Parameter.moved shift) parameter parameter := by
  refine (expect _ _).bind fun name => (expect _ _).bind fun _ => ?_
  exact (typeExpr _).bind fun type => .pure (Parameter.mk name (some type))

theorem parameters : Blind shift (List.map (Parameter.moved shift)) parameters parameters := by
  have closing (found : List Parameter) : Blind shift (List.map (Parameter.moved shift))
      (do
        let _ ← Parser.expect (.symbol .closeParen) "in function declaration"
        return found.map (Parameter.moved shift))
      (do
        let _ ← Parser.expect (.symbol .closeParen) "in function declaration"
        return found) :=
    (expect _ _).bind fun _ => .pure found
  refine (expect _ _).bind fun _ => (sees _).bind fun bare => .ite bare ?_ ?_
  · exact bind (.pure []) closing
  · exact (separated parameter).bind closing

end Types

theorem statementEnd : Blind shift id statementEnd statementEnd := by
  refine (sees _).bind fun closing => .ite closing (.pure _) ?_
  exact (advanceIf _).bind fun ended => .ite ended (.pure _) (failWith _)

/-- The parsers for phrases inside other phrases do not mind where tokens are. -/
structure OfNested (shift : Position → Position) (nested : Nested) : Prop where
  expr : Blind shift (Expr.moved shift) nested.expr nested.expr
  assignment : Blind shift (Expr.moved shift) nested.assignment nested.assignment
  unary : Blind shift (Expr.moved shift) nested.unary nested.unary
  body : Blind shift (stmtsMoved shift) nested.body nested.body

section Phrases

variable {nested : Nested} (inner : OfNested shift nested)
include inner

theorem primary : Blind shift (Expr.moved shift) (primary nested) (primary nested) := by
  refine current.bind fun token => ?_
  obtain ⟨kind, lexeme, literal, position⟩ := token
  dsimp only [Token.moved]
  split
  · exact advance.bind fun _ => .pure (Expr.literal (.bool true) position)
  · exact advance.bind fun _ => .pure (Expr.literal (.bool false) position)
  · cases literal with
    | none => exact failWith _
    | some value => exact advance.bind fun _ => .pure (Expr.literal value position)
  · cases literal with
    | none => exact failWith _
    | some value => exact advance.bind fun _ => .pure (Expr.literal value position)
  · cases literal with
    | none => exact failWith _
    | some value => exact advance.bind fun _ => .pure (Expr.literal value position)
  · exact advance.bind fun _ => .pure (Expr.name ⟨.identifier, lexeme, literal, position⟩)
  · refine advance.bind fun _ => inner.expr.bind fun held => ?_
    exact (expect _ _).bind fun _ => .pure (Expr.grouping held)
  · exact failWith _

theorem arguments (allowed : Nat) :
    Blind shift (exprsMoved shift) (arguments nested allowed) (arguments nested allowed) := by
  induction allowed with
  | zero => exact failOf _
  | succ allowed ih =>
    refine inner.expr.bind fun first => (advanceIf _).bind fun more => .ite more ?_ (.pure [first])
    exact ih.bind fun rest => .pure (first :: rest)

theorem finishCall (callee : Expr) :
    Blind shift (Expr.moved shift) (finishCall nested (callee.moved shift))
      (finishCall nested callee) := by
  have closing (found : List Expr) : Blind shift (Expr.moved shift)
      (do
        let _ ← Parser.expect (.symbol .closeParen) "after function arguments"
        return Expr.call (callee.moved shift) (exprsMoved shift found))
      (do
        let _ ← Parser.expect (.symbol .closeParen) "after function arguments"
        return Expr.call callee found) :=
    (expect _ _).bind fun _ => .pure (Expr.call callee found)
  refine (sees _).bind fun bare => .ite bare ?_ ?_
  · exact bind (.pure []) closing
  · exact (arguments inner _).bind closing

theorem suffixesWithin (bound : Nat) (expr : Expr) :
    Blind shift (Expr.moved shift) (suffixesWithin nested bound (expr.moved shift))
      (suffixesWithin nested bound expr) := by
  induction bound generalizing expr with
  | zero => exact .pure expr
  | succ bound ih =>
    refine (advanceIf _).bind fun called => .ite called ?_ ?_
    · exact (finishCall inner expr).bind fun call => ih call
    · refine (advanceIf _).bind fun dotted => .ite dotted ?_ (.pure expr)
      exact (expect _ _).bind fun member => ih (.member expr member)

theorem call : Blind shift (Expr.moved shift) (call nested) (call nested) := by
  refine (primary inner).bind fun expr => left.bind fun bound => ?_
  exact suffixesWithin inner bound expr

theorem unary : Blind shift (Expr.moved shift) (unary nested) (unary nested) := by
  refine (seesOneOf _).bind fun signed => .ite signed ?_ (call inner)
  refine advance.bind fun operator => inner.unary.bind fun operand => ?_
  exact .pure (Expr.unary operator operand)

omit inner in
theorem operationsWithin (operators : List Kind) {operand : Parser Expr}
    (each : Blind shift (Expr.moved shift) operand operand) (bound : Nat) (expr : Expr) :
    Blind shift (Expr.moved shift) (operationsWithin operators operand bound (expr.moved shift))
      (operationsWithin operators operand bound expr) := by
  induction bound generalizing expr with
  | zero => exact .pure expr
  | succ bound ih =>
    refine (seesOneOf _).bind fun more => .ite more ?_ (.pure expr)
    exact advance.bind fun operator => each.bind fun right => ih (.binary expr operator right)

omit inner in
theorem operations (operators : List Kind) {operand : Parser Expr}
    (each : Blind shift (Expr.moved shift) operand operand) :
    Blind shift (Expr.moved shift) (operations operators operand) (operations operators operand) :=
  each.bind fun first => left.bind fun bound => operationsWithin operators each bound first

theorem equality : Blind shift (Expr.moved shift) (equality nested) (equality nested) :=
  operations _ (operations _ (operations _ (operations _ (unary inner))))

theorem elseBranch : Blind shift (stmtsMoved shift) (elseBranch nested) (elseBranch nested) := by
  refine (advanceIf _).bind fun present => .ite present ?_ (.pure [])
  exact (expect _ _).bind fun _ => inner.body

theorem expression : Blind shift (Expr.moved shift) (expression nested) (expression nested) := by
  refine (advanceIf _).bind fun conditional => .ite conditional ?_ (equality inner)
  refine (expect _ _).bind fun _ => inner.expr.bind fun condition => ?_
  refine (expect _ _).bind fun _ => (expect _ _).bind fun _ => ?_
  refine inner.body.bind fun thenBranch => (elseBranch inner).bind fun elseBranch => ?_
  exact .pure (Expr.conditional condition thenBranch elseBranch)

theorem assignmentOrExpression :
    Blind shift (Expr.moved shift) (assignmentOrExpression nested)
      (assignmentOrExpression nested) := by
  refine (sees _).bind fun named => nextKind?.bind fun next => .ite _ ?_ (expression inner)
  refine advance.bind fun target => advance.bind fun _ => ?_
  exact inner.assignment.bind fun value => .pure (Expr.assign target value)

theorem variableDecl (name : Token) (found : List TypeExpr) (mutable : Bool) :
    Blind shift (Stmt.moved shift)
      (variableDecl nested (name.moved shift) (found.map (TypeExpr.moved shift)) mutable)
      (variableDecl nested name found mutable) := by
  refine (sees _).bind fun untyped => .ite _ (failOf _) ?_
  refine (advanceIf _).bind fun inferred => .ite inferred ?_ ?_
  · refine (expression inner).bind fun initializer => ?_
    exact .pure (Stmt.variableDecl ⟨name, found, none, mutable⟩ initializer)
  · refine (expect _ _).bind fun _ => (typeExpr _).bind fun type => ?_
    refine (expect _ _).bind fun _ => (expression inner).bind fun initializer => ?_
    exact .pure (Stmt.variableDecl ⟨name, found, some type, mutable⟩ initializer)

theorem functionBody :
    Blind shift (Option.map (stmtsMoved shift)) (functionBody nested) (functionBody nested) := by
  refine (advanceIf _).bind fun present => .ite present ?_ (.pure none)
  exact (expect _ _).bind fun _ => inner.body.bind fun body => .pure (some body)

theorem functionDecl (name : Token) (found : List TypeExpr) :
    Blind shift (Stmt.moved shift)
      (functionDecl nested (name.moved shift) (found.map (TypeExpr.moved shift)))
      (functionDecl nested name found) := by
  refine parameters.bind fun parameters => (specifiers _).bind fun effects => ?_
  refine (expect _ _).bind fun _ => commit.bind fun _ => (typeExpr _).bind fun returns => ?_
  refine (functionBody inner).bind fun body => ?_
  cases body with
  | none => exact .pure (Stmt.functionDecl ⟨name, found, parameters, effects, returns⟩ none)
  | some body =>
    exact .pure (Stmt.functionDecl ⟨name, found, parameters, effects, returns⟩ (some body))

theorem namedDeclaration :
    Blind shift (Stmt.moved shift) (namedDeclaration nested) (namedDeclaration nested) := by
  refine (expect _ _).bind fun name => (specifiers _).bind fun found => ?_
  refine (seesOneOf _).bind fun defined => .ite defined ?_ ?_
  · exact commit.bind fun _ => variableDecl inner name found false
  · refine (sees _).bind fun called => .ite called ?_ (failWith _)
    exact functionDecl inner name found

theorem blockOrExpression :
    Blind shift (Stmt.moved shift) (blockOrExpression nested) (blockOrExpression nested) := by
  refine (sees _).bind fun named => nextKind?.bind fun next => .ite _ ?_ ?_
  · refine advance.bind fun _ => advance.bind fun _ => ?_
    exact inner.body.bind fun body => .pure (Stmt.block body)
  · exact (assignmentOrExpression inner).bind fun expr => .pure (Stmt.expression expr)

theorem declarationOrStatement :
    Blind shift (Stmt.moved shift) (declarationOrStatement nested)
      (declarationOrStatement nested) := by
  rw [declarationOrStatement_eq]
  refine (advanceIf _).bind fun mutable => .ite mutable ?_ ?_
  · refine (expect _ _).bind fun name => (specifiers _).bind fun found => ?_
    exact variableDecl inner name found true
  · have looks : Blind shift id looksLikeDeclaration looksLikeDeclaration :=
      (sees _).bind fun named => nextKind?.bind fun next => .pure _
    refine looks.bind fun declares => .ite declares ?_ (blockOrExpression inner)
    exact speculate (namedDeclaration inner) (blockOrExpression inner)

theorem statementsWithin (inBlock : Bool) (bound : Nat) :
    Blind shift (stmtsMoved shift) (statementsWithin nested inBlock bound)
      (statementsWithin nested inBlock bound) := by
  induction bound with
  | zero => exact .pure []
  | succ bound ih =>
    have going (stmt : Stmt) : Blind shift (stmtsMoved shift)
        (do return stmt.moved shift :: (← Parser.statementsWithin nested inBlock bound))
        (do return stmt :: (← Parser.statementsWithin nested inBlock bound)) :=
      ih.bind fun rest => .pure (stmt :: rest)
    rw [statementsWithin_succ]
    refine eatBlankLines.bind fun ended => .ite ended (.pure []) ?_
    refine (sees _).bind fun closing => .ite _ (.pure []) ?_
    refine recovering inBlock (declarationOrStatement inner) (fun stmt => ?_) ih
    refine (note .parsedStatement).bind fun _ => ?_
    exact recovering inBlock statementEnd (fun _ => going stmt) (going stmt)

theorem statements (inBlock : Bool) :
    Blind shift (stmtsMoved shift) (statements nested inBlock) (statements nested inBlock) :=
  left.bind fun bound => statementsWithin inner inBlock bound

theorem body : Blind shift (stmtsMoved shift) (body nested) (body nested) := by
  refine (statements inner true).bind fun found => (expect _ _).bind fun _ => .pure found

omit inner in
theorem ofNested (bound : Nat) : OfNested shift (Parser.nested bound) := by
  induction bound with
  | zero =>
    refine ⟨failWith _, failWith _, failWith _, ?_⟩
    exact (expect _ _).bind fun _ => .pure []
  | succ bound ih => exact ⟨expression ih, assignmentOrExpression ih, unary ih, body ih⟩

omit inner in
theorem statementList (inBlock : Bool) :
    Blind shift (stmtsMoved shift) (statementList inBlock) (statementList inBlock) :=
  left.bind fun bound => statements (ofNested bound) inBlock

end Phrases
end Blind
end Parser

/-- Tokens in other places are parsed as they were before, and what is read and reported is moved
with them. -/
theorem parse_moved (nowhere : shift .null = .null) (tokens : List Token) :
    parse (tokens.map (Token.moved shift)) =
      ⟨stmtsMoved shift (parse tokens).statements,
        (parse tokens).errors.map (Error.moved shift)⟩ := by
  have start : Cursor.ofTokens (tokens.map (Token.moved shift)) =
      (Parser.places shift).state (.ofTokens tokens) := by
    rw [Cursor.ofTokens, Tape.ofTokens_moved nowhere]
    rfl
  have recorded : Parser.Event.recorded? ∘ (Parser.places shift).event =
      fun event => event.recorded?.map (Error.moved shift) :=
    funext Parser.Event.recorded?_moved
  simp only [parse, traceParse, start, Parser.Blind.statementList false _, Erasure.run,
    List.filterMap_map, recorded, List.map_filterMap]
  congr 1
  cases ((Parser.statementList false).run (.ofTokens tokens)).outcome <;> rfl

/-- Tokens in no place are parsed as they are in their places, apart from places. -/
theorem parse_unplaced (tokens : List Token) :
    parse (tokens.map Token.unplaced) =
      ⟨stmtsUnplaced (parse tokens).statements, (parse tokens).errors.map Error.unplaced⟩ := by
  have moved : parse (tokens.map (Token.moved fun _ => .null)) = _ := parse_moved rfl tokens
  rw [stmtsMoved_null] at moved
  exact moved

end Script
