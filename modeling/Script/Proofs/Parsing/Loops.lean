import Script.Proofs.Parsing.Descent

set_option autoImplicit false

/- The loops of the parsers. Each is written down as what it does once, and solved by the parser
that counts its repetitions: a loop goes on behind a token, so the bound is never reached. -/
namespace Script.Parser

open Token (Kind)

/-- At the end none of the tokens that a loop goes on with is there. -/
theorem run_advanceIf_end {α : Type} {kinds : List Kind} {yes no : Parser α} {cursor : Cursor}
    (others : ∀ kind ∈ kinds, kind ∉ statementEnds) (below : cursor.tape.ahead.length < 1) :
    (advanceIf kinds >>= fun taken => if taken = true then yes else no).run cursor =
      no.run cursor := by
  have ended : cursor.tape.ahead = [] := List.length_eq_zero_iff.mp (Nat.lt_one_iff.mp below)
  apply run_advanceIf_ended others
  rw [Tape.current_kind_eq_endOfFile.mpr ended]
  decide

section Loops

variable {α : Type}

/-- A type, with another parser for the key of a map. -/
def unfoldType (again : String → Parser TypeExpr) (context : String) : Parser TypeExpr := do
  if ← advanceIf [.symbol .openBracket] then
    if ← sees (.symbol .closeBracket) then
      let _ ← expect (.symbol .closeBracket) "in type declaration"
      let (name, optional) ← typeName context
      return .array name optional
    else
      let key ← again "in map key type"
      let _ ← expect (.symbol .closeBracket) "in type declaration"
      let (name, optional) ← typeName context
      return .map key name optional
  else
    let (name, optional) ← typeName context
    return .named name optional

theorem typeExpr_terminates : Terminates unfoldType typeExpr := by
  have descends : Descends unfoldType := by
    intro limit again' again steady agree context
    refine Agree.advanceIf_branch (by decide) ?_ (.refl _)
    refine Agree.after (closed_steady.sees _) fun closing => Agree.ite closing (.refl _) ?_
    exact Agree.bind (agree _) (steady _) fun _ => .refl _
  refine descends.terminates_within (fun bound => closed_steady.typeWithin bound) (fun _ => rfl) ?_
  exact fun context start below => (run_advanceIf_end (by decide) below).symm

/-- Items with commas between them, with another parser for what stands behind the first comma. -/
def unfoldSeparated (item : Parser α) (again : Unit → Parser (List α)) (_ : Unit) :
    Parser (List α) := do
  let first ← item
  if ← advanceIf [.symbol .comma] then
    return first :: (← again ())
  else
    return [first]

theorem separated_terminates {item : Parser α} (steady : Steady item) :
    Terminates (unfoldSeparated item) fun _ => separated item := by
  have descends : Descends (unfoldSeparated item) := by
    intro limit again' again steady' agree _
    refine Agree.after steady fun first => Agree.advanceIf_branch (by decide) ?_ (.refl _)
    exact Agree.bind (agree ()) (steady' ()) fun _ => .refl _
  refine descends.terminates_within (fun bound _ => closed_steady.separatedWithin steady bound)
    (fun _ => rfl) ?_
  refine fun _ => Agree.after steady fun first start below => ?_
  exact (run_advanceIf_end (by decide) below).symm

/-- Lists in angle brackets, with another parser for what stands behind the first one. -/
def unfoldSpecifiers (context : String) (again : Unit → Parser (List TypeExpr)) (_ : Unit) :
    Parser (List TypeExpr) := do
  if ← advanceIf [.symbol .less] then
    let types ← separated (typeExpr context)
    let _ ← expect (.symbol .greater) "after specifier type"
    return types ++ (← again ())
  else
    return []

theorem specifiers_terminates (context : String) :
    Terminates (unfoldSpecifiers context) fun _ => specifiers context := by
  have descends : Descends (unfoldSpecifiers context) := by
    intro limit again' again steady agree _
    refine Agree.advanceIf_branch (by decide) ?_ (.refl _)
    refine Agree.after (closed_steady.separated (closed_steady.typeExpr _)) fun types => ?_
    refine Agree.after (closed_steady.expect _ _) fun _ => ?_
    exact Agree.bind (agree ()) (steady ()) fun _ => .refl _
  refine descends.terminates_within (fun bound _ => closed_steady.specifiersWithin context bound)
    (fun _ => rfl) ?_
  exact fun _ start below => (run_advanceIf_end (by decide) below).symm

/-- Calls and member accesses behind an expression. -/
def suffixes (nested : Nested) (expr : Expr) : Parser Expr := do
  suffixesWithin nested (← left) expr

/-- Calls and member accesses, with another parser for what stands behind the first one. -/
def unfoldSuffixes (nested : Nested) (again : Expr → Parser Expr) (expr : Expr) : Parser Expr := do
  if ← advanceIf [.symbol .openParen] then
    again (← finishCall nested expr)
  else if ← advanceIf [.symbol .dot] then
    let member ← expect .identifier "after `.`"
    again (.member expr member)
  else
    return expr

theorem suffixes_terminates {nested : Nested} (inner : Closed.OfNested Steady nested) :
    Terminates (unfoldSuffixes nested) (suffixes nested) := by
  have descends : Descends (unfoldSuffixes nested) := by
    intro limit again' again steady agree expr
    refine Agree.advanceIf_branch (by decide) ?_ (Agree.advanceIf_branch (by decide) ?_ (.refl _))
    · exact Agree.after (closed_steady.finishCall inner expr) agree
    · exact Agree.after (closed_steady.expect _ _) fun member => agree _
  refine descends.terminates_within (fun bound => closed_steady.suffixesWithin inner bound)
    (fun _ => rfl) fun expr start below => ?_
  exact ((run_advanceIf_end (by decide) below).trans (run_advanceIf_end (by decide) below)).symm

/-- Operators and operands behind an expression. -/
def operationsBehind (operators : List Kind) (operand : Parser Expr) (expr : Expr) :
    Parser Expr := do
  operationsWithin operators operand (← left) expr

/-- Operators and operands, with another parser for what stands behind the first ones. -/
def unfoldOperations (operators : List Kind) (operand : Parser Expr) (again : Expr → Parser Expr)
    (expr : Expr) : Parser Expr := do
  if ← seesOneOf operators then
    let operator ← advance
    let right ← operand
    again (.binary expr operator right)
  else
    return expr

theorem operations_terminates {operators : List Kind} {operand : Parser Expr}
    (others : ∀ kind ∈ operators, kind ∉ statementEnds) (each : Steady operand) :
    Terminates (unfoldOperations operators operand) (operationsBehind operators operand) := by
  have opened : .endOfFile ∉ operators := fun member => others _ member (by decide)
  have descends : Descends (unfoldOperations operators operand) := by
    intro limit again' again steady agree expr
    refine Agree.seesOneOf_branch opened (fun operator => ?_) (.refl _)
    exact Agree.after each fun right => agree _
  refine descends.terminates_within
    (fun bound => closed_steady.operationsWithin operators each bound) (fun _ => rfl)
    fun expr start below => ?_
  have ended : start.tape.ahead = [] := List.length_eq_zero_iff.mp (Nat.lt_one_iff.mp below)
  refine (run_seesOneOf_ended others ?_).symm
  rw [Tape.current_kind_eq_endOfFile.mpr ended]
  decide

/-- Statements, with another parser for what stands behind the first iteration. -/
def unfoldStatements (nested : Nested) (inBlock : Bool) (again : Unit → Parser (List Stmt))
    (_ : Unit) : Parser (List Stmt) :=
  iteration nested inBlock >>= Iteration.followed (again ())

theorem statements_terminates {nested : Nested} (inner : Closed.OfNested Steady nested)
    (inBlock : Bool) :
    Terminates (unfoldStatements nested inBlock) fun _ => statements nested inBlock := by
  have descends : Descends (unfoldStatements nested inBlock) := by
    intro limit again' again steady agree _ start below
    obtain ⟨result, stop, trace, ran, last | ⟨-, shorter⟩⟩ := run_iteration inner inBlock start
    · rw [unfoldStatements, unfoldStatements, Traced.run_bind_ok ran, Traced.run_bind_ok ran,
        last.1]
      rfl
    · have left : stop.tape.ahead.length < limit := by omega
      rw [unfoldStatements, unfoldStatements, Traced.run_bind_ok ran, Traced.run_bind_ok ran]
      congr 1
      cases result with
      | done => rfl
      | skipped => exact agree () stop left
      | read stmt => exact Agree.bind (agree ()) (steady ()) (fun _ => .refl _) stop left
  refine descends.terminates_within
    (fun bound _ => robust_steady.statementsWithin inner inBlock bound) (fun bound => ?_) ?_
  · funext _
    exact statementsWithin_eq_iteration nested inBlock bound
  · intro _ start below
    have ended : start.tape.ahead = [] := List.length_eq_zero_iff.mp (Nat.lt_one_iff.mp below)
    rw [run_statementsWithin_end ended, run_statementsWithin_end ended]

end Loops

end Script.Parser
