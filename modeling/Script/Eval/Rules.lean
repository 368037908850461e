import Script.Eval.Basic
import Script.Operator
import Script.Tree.Printer

set_option autoImplicit false

/- Running a program. A phrase yields a value or none, and an error names the innermost phrase
that it arose in. -/
namespace Script

/-- Names an expression in the errors of a run that name no phrase yet. -/
def Expr.blame {α : Type} (expr : Expr) (action : Eval α) : Eval α :=
  action.mapError fun error => error.withContext expr.print

/-- Names a statement in the errors of a run that name no phrase yet. -/
def Stmt.blame {α : Type} (stmt : Stmt) (action : Eval α) : Eval α :=
  action.mapError fun error => error.withContext stmt.print

/-- The value of an expression that has to have one, from its run. -/
def Expr.demand (expr : Expr) (action : Eval (Option Value)) : Eval Value := do
  match ← expr.blame action with
  | some value => return value
  | none =>
      Traced.fail
        { cause := .expectedValue, position := expr.position, context := some expr.print }

mutual

/-- The rule of an expression: its run, before the expression itself is named in errors. -/
def Expr.rule (context : Context) : Expr → Eval (Option Value)
  | .conditional condition thenBranch elseBranch => do
      let test ← condition.demand (condition.rule context)
      if test.isTruthy then
        Eval.inNewScope (executeAll context none thenBranch)
      else
        Eval.inNewScope (executeAll context none elseBranch)
  | .assign target value => do
      let result ← value.demand (value.rule context)
      Eval.update target.position (Environment.assign target.lexeme result)
      return some result
  | .binary left operator right => do
      let first ← left.demand (left.rule context)
      let second ← right.demand (right.rule context)
      some <$> Eval.lift operator.position (Operator.binary operator first second)
  | .unary operator operand => do
      let value ← operand.demand (operand.rule context)
      some <$> Eval.lift operator.position (Operator.unary operator value)
  | .grouping inner => inner.blame (inner.rule context)
  | .literal value _ => return some value
  | .name token => Eval.nameValue context.program token
  | .call callee arguments => do
      let signature ← Eval.resolveCallee context.program callee
      let values ← evaluateAll context arguments
      Eval.callNative context.natives signature.name.lexeme values callee.position
  | .member target member => do
      let value ← target.demand (target.rule context)
      some <$> Eval.lift member.position (Operator.member value member.lexeme)

/-- The rule of a statement: its run, before the statement itself is named in errors. -/
def Stmt.rule (context : Context) : Stmt → Eval (Option Value)
  | .functionDecl _ _ => return none
  | .variableDecl head initializer => do
      let value ← initializer.demand (initializer.rule context)
      Eval.update head.name.position fun environment =>
        environment.declare head.name.lexeme value head.mutable
      return none
  | .block body => do
      let _ ← Eval.inNewScope (executeAll context none body)
      return none
  | .expression expr => expr.blame (expr.rule context)

/-- Runs statements in order and yields what the last one does, or `last` if there are none. -/
def executeAll (context : Context) (last : Option Value) : List Stmt → Eval (Option Value)
  | [] => return last
  | stmt :: rest => do
      let value ← stmt.blame (stmt.rule context)
      executeAll context value rest

/-- The values of arguments in order, for the host. -/
def evaluateAll (context : Context) : List Expr → Eval (List NativeValue)
  | [] => return []
  | expr :: rest => do
      let value ← expr.demand (expr.rule context)
      return .ofValue value :: (← evaluateAll context rest)

end

def Stmt.execute (context : Context) (stmt : Stmt) : Eval (Option Value) :=
  stmt.blame (stmt.rule context)

/-- The value of an expression that has to have one. -/
def Expr.evaluate (context : Context) (expr : Expr) : Eval Value :=
  expr.demand (expr.rule context)

/-- Runs statements of the program in order, up to the first error. -/
def executeEach (context : Context) : List Stmt → Eval Unit
  | [] => pure ()
  | stmt :: rest => do
      Traced.emit (.executing stmt)
      let _ ← stmt.execute context
      executeEach context rest

def interpret (context : Context) : Eval Unit := do
  Traced.emit (.starting context.program.length)
  executeEach context context.program
  Traced.emit .finished

/-- The line that an event prints. -/
def Eval.Event.line? : Eval.Event → Option String
  | printed line => some line
  | _ => none

/-- What the events of a run print, each line ended by a line feed. -/
def outputOf (trace : List Eval.Event) : String :=
  String.join ((trace.filterMap Eval.Event.line?).map (· ++ "\n"))

end Script
