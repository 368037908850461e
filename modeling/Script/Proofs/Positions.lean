import Mathlib.Data.List.Forall2
import Script.Proofs.Evaluation
import Script.Proofs.Parsing.Moved

set_option autoImplicit false

/- Positions are inert. Neither the text of a tree nor a run of it depends on where its tokens
stand; so if tokens are moved, a program reads and runs as before, and only the positions in its
errors move with them. -/
namespace Script

section Printing

@[simp] theorem TypeExpr.print_unplaced (type : TypeExpr) : type.unplaced.print = type.print := by
  induction type with
  | named | array => rfl
  | map key name optional ih => rw [TypeExpr.unplaced, TypeExpr.print, ih, TypeExpr.print]; rfl

theorem Parameter.print_unplaced (parameter : Parameter) :
    parameter.unplaced.print = parameter.print := by
  obtain ⟨name, type⟩ := parameter
  cases type with
  | none => rfl
  | some type => simp [Parameter.print, Parameter.unplaced, Token.unplaced]

theorem printSpecifiers_unplaced (specifiers : List TypeExpr) :
    printSpecifiers (specifiers.map TypeExpr.unplaced) = printSpecifiers specifiers := by
  simp [printSpecifiers, Function.comp_def]

theorem Signature.print_unplaced (signature : Signature) :
    signature.unplaced.print = signature.print := by
  simp [Signature.print, Signature.unplaced, Token.unplaced, printSpecifiers_unplaced,
    Function.comp_def, Parameter.print_unplaced]

theorem VariableHead.print_unplaced (head : VariableHead) : head.unplaced.print = head.print := by
  obtain ⟨name, specifiers, type, mutable⟩ := head
  cases mutable <;> cases type <;>
    simp [VariableHead.print, VariableHead.unplaced, Token.unplaced, printSpecifiers_unplaced]

theorem length_stmtsUnplaced (stmts : List Stmt) :
    (stmtsUnplaced stmts).length = stmts.length := by
  induction stmts with
  | nil => rfl
  | cons stmt rest ih => rw [stmtsUnplaced, List.length_cons, ih, List.length_cons]

theorem isEmpty_stmtsUnplaced (stmts : List Stmt) :
    (stmtsUnplaced stmts).isEmpty = stmts.isEmpty := by
  cases stmts <;> rfl

mutual

/-- The text of an expression does not say where it stands. -/
theorem Expr.print_unplaced : ∀ expr : Expr, expr.unplaced.print = expr.print
  | .conditional condition thenBranch elseBranch => by
    simp only [Expr.unplaced, Expr.print, condition.print_unplaced,
      printLines_unplaced thenBranch, printLines_unplaced elseBranch, isEmpty_stmtsUnplaced]
  | .assign target value => by
    simp only [Expr.unplaced, Expr.print, value.print_unplaced, Token.unplaced]
  | .binary left operator right => by
    simp only [Expr.unplaced, Expr.print, left.print_unplaced, right.print_unplaced,
      Token.unplaced]
  | .unary operator operand => by
    simp only [Expr.unplaced, Expr.print, operand.print_unplaced, Token.unplaced]
  | .grouping inner => by simp only [Expr.unplaced, Expr.print, inner.print_unplaced]
  | .literal value _ => by simp only [Expr.unplaced, Expr.print]
  | .name token => by simp only [Expr.unplaced, Expr.print, Token.unplaced]
  | .call callee arguments => by
    simp only [Expr.unplaced, Expr.print, callee.print_unplaced, printEach_unplaced arguments]
  | .member target member => by
    simp only [Expr.unplaced, Expr.print, target.print_unplaced, Token.unplaced]

theorem Stmt.print_unplaced : ∀ stmt : Stmt, stmt.unplaced.print = stmt.print
  | .functionDecl signature none => by
    simp only [Stmt.unplaced, Stmt.print, signature.print_unplaced]
  | .functionDecl signature (some body) => by
    simp only [Stmt.unplaced, Stmt.print, signature.print_unplaced, printLines_unplaced body]
  | .variableDecl head initializer => by
    simp only [Stmt.unplaced, Stmt.print, head.print_unplaced, initializer.print_unplaced]
  | .block body => by simp only [Stmt.unplaced, Stmt.print, printLines_unplaced body]
  | .expression expr => by simp only [Stmt.unplaced, Stmt.print, expr.print_unplaced]

theorem printLines_unplaced : ∀ stmts : List Stmt, printLines (stmtsUnplaced stmts) =
    printLines stmts
  | [] => rfl
  | stmt :: rest => by
    simp only [stmtsUnplaced, printLines, stmt.print_unplaced, printLines_unplaced rest]

theorem printEach_unplaced : ∀ exprs : List Expr, printEach (exprsUnplaced exprs) =
    printEach exprs
  | [] => rfl
  | expr :: rest => by
    simp only [exprsUnplaced, printEach, expr.print_unplaced, printEach_unplaced rest]

end

end Printing

/-- An expression in no place is nowhere. -/
theorem Expr.position_unplaced : ∀ expr : Expr, expr.unplaced.position = .null
  | .conditional condition _ _ => by
    simp only [Expr.unplaced, Expr.position, condition.position_unplaced]
  | .assign _ _ | .unary _ _ | .literal _ _ | .name _ => by
    simp only [Expr.unplaced, Expr.position, Token.unplaced]
  | .binary left _ _ => by simp only [Expr.unplaced, Expr.position, left.position_unplaced]
  | .grouping inner => by simp only [Expr.unplaced, Expr.position, inner.position_unplaced]
  | .call callee _ => by simp only [Expr.unplaced, Expr.position, callee.position_unplaced]
  | .member target _ => by simp only [Expr.unplaced, Expr.position, target.position_unplaced]

/-- Functions are found by their names. -/
theorem findFunction_unplaced (stmts : List Stmt) (name : String) :
    findFunction (stmtsUnplaced stmts) name = (findFunction stmts name).map Signature.unplaced := by
  have declares (stmt : Stmt) :
      stmt.unplaced.declares? name = (stmt.declares? name).map Signature.unplaced := by
    cases stmt with
    | functionDecl signature body =>
      have same : (signature.unplaced.name.lexeme == name) = (signature.name.lexeme == name) := rfl
      cases body <;> simp only [Stmt.unplaced, Stmt.declares?, same] <;> split <;> rfl
    | _ => rfl
  induction stmts with
  | nil => rfl
  | cons stmt rest ih =>
    unfold findFunction at ih ⊢
    simp only [stmtsUnplaced, List.findSome?_cons, declares, ih]
    cases stmt.declares? name <;> rfl

theorem Signature.hasSpecifier_unplaced (signature : Signature) (specifier : String) :
    signature.unplaced.hasSpecifier specifier = signature.hasSpecifier specifier := by
  have named (type : TypeExpr) : type.unplaced.name.lexeme = type.name.lexeme := by
    cases type <;> rfl
  simp [Signature.hasSpecifier, Signature.unplaced, Function.comp_def, named]

namespace Eval

def Event.unplaced : Event → Event
  | executing stmt => executing stmt.unplaced
  | event => event

/-- The places in runs. Values and variables have none. -/
def places : Erasure Environment Event Error := ⟨id, Event.unplaced, Error.unplaced⟩

/-- The first run does in no place what the second one does in its place. -/
abbrev Blind {α : Type} (erase : α → α) (action' action : Eval α) : Prop :=
  Traced.Blind places erase action' action

namespace Blind

open Traced.Blind

variable {α β : Type}

theorem raise {erase : α → α} (position : Position) (cause : Error.Cause) :
    Blind erase (raise .null cause : Eval α) (Eval.raise position cause) :=
  fun _ => rfl

theorem lift (position : Position) (outcome : Except Error.Cause α) :
    Blind id (lift .null outcome) (Eval.lift position outcome) := by
  intro environment
  cases outcome <;> rfl

theorem map {action' action : Eval α} (make : α → β) (blind : Blind id action' action) :
    Blind id (make <$> action') (make <$> action) := by
  rw [map_eq_pure_bind, map_eq_pure_bind]
  exact blind.bind fun value => .pure (make value)

theorem inNewScope {action' action : Eval α} (blind : Blind id action' action) :
    Blind id (inNewScope action') (Eval.inNewScope action) := by
  intro environment
  have inside : action'.run environment.enter = _ := blind environment.enter
  change (⟨(action'.run environment.enter).outcome, (action'.run environment.enter).state.leave,
    (action'.run environment.enter).trace⟩ : Run Environment Event Error α) = _
  rw [inside]
  rfl

theorem update (position : Position) (change : Environment → Except Error.Cause Environment) :
    Blind id (update .null change) (Eval.update position change) := by
  refine (gets fun _ => rfl : Blind id Traced.get Traced.get).bind fun before => ?_
  exact (lift position _).bind fun after => modify fun _ => rfl

theorem heldBy? (name : String) : Blind id (heldBy? name) (Eval.heldBy? name) := gets fun _ => rfl

theorem printAll (lines : List String) : Blind id (printAll lines) (Eval.printAll lines) := by
  induction lines with
  | nil => exact .pure ()
  | cons line rest ih => exact (emit (Event.printed line)).bind fun _ => ih

theorem callNative (natives : Registry) (name : String) (arguments : List NativeValue)
    (position : Position) :
    Blind id (callNative natives name arguments .null)
      (Eval.callNative natives name arguments position) := by
  rw [callNative_eq, callNative_eq]
  generalize natives.call name arguments = invocation
  have told : Blind id
      (if invocation.started then Traced.emit (Event.calling name arguments.length) else pure ())
      (if invocation.started then Traced.emit (Event.calling name arguments.length) else pure ()) :=
    .ite invocation.started (emit (Event.calling name arguments.length)) (.pure ())
  refine told.bind fun _ => (printAll _).bind fun _ => (lift _ _).bind fun result => ?_
  exact lift _ result.toValue

theorem nameValue (program : List Stmt) (token : Token) :
    Blind id (nameValue (stmtsUnplaced program) token.unplaced)
      (Eval.nameValue program token) := by
  refine (heldBy? token.lexeme).bind fun held => ?_
  cases held with
  | some value => exact .pure (some value)
  | none =>
    have found : (findFunction (stmtsUnplaced program) token.lexeme).isSome =
        (findFunction program token.lexeme).isSome := by
      rw [findFunction_unplaced, Option.isSome_map]
    change Blind id (if (findFunction (stmtsUnplaced program) token.lexeme).isSome = true then _
      else _) _
    rw [found]
    exact .ite _ (.pure (some (Value.function token.lexeme))) (raise token.position _)

theorem calleeName (token : Token) :
    Blind id (calleeName token.unplaced) (Eval.calleeName token) := by
  refine (heldBy? token.lexeme).bind fun held => ?_
  cases held with
  | none => exact .pure token.lexeme
  | some value =>
    cases value with
    | function function => exact .pure function
    | bool | string | number => exact raise token.position .notCallable

/-- The function of a name is looked up by the name alone. -/
theorem nativeNamed (program : List Stmt) (position : Position) (function : String) :
    Blind Signature.unplaced (nativeNamed (stmtsUnplaced program) .null function)
      (Eval.nativeNamed program position function) := by
  unfold Eval.nativeNamed
  rw [findFunction_unplaced]
  cases findFunction program function with
  | none => exact raise position _
  | some signature =>
    simp only [Option.map_some, Signature.hasSpecifier_unplaced]
    exact .ite _ (.pure signature) (raise position _)

theorem refuse (callee : Expr) :
    Blind Signature.unplaced (Eval.raise callee.unplaced.position .notCallable)
      (Eval.raise callee.position .notCallable) := by
  rw [callee.position_unplaced]
  exact raise callee.position .notCallable

theorem resolveCallee (program : List Stmt) (callee : Expr) :
    Blind Signature.unplaced (resolveCallee (stmtsUnplaced program) callee.unplaced)
      (Eval.resolveCallee program callee) := by
  cases callee with
  | name token =>
    rw [Expr.unplaced, resolveCallee_name, resolveCallee_name]
    exact (calleeName token).bind fun function => nativeNamed program token.position function
  | conditional => exact refuse (.conditional ..)
  | assign => exact refuse (.assign ..)
  | binary => exact refuse (.binary ..)
  | unary => exact refuse (.unary ..)
  | grouping => exact refuse (.grouping ..)
  | literal => exact refuse (.literal ..)
  | call => exact refuse (.call ..)
  | member => exact refuse (.member ..)

theorem blame {erase : α → α} (expr : Expr) {action' action : Eval α}
    (blind : Blind erase action' action) :
    Blind erase (expr.unplaced.blame action') (expr.blame action) := by
  rw [Expr.blame, expr.print_unplaced]
  exact mapError (fun _ => rfl) blind

theorem blame_stmt {erase : α → α} (stmt : Stmt) {action' action : Eval α}
    (blind : Blind erase action' action) :
    Blind erase (stmt.unplaced.blame action') (stmt.blame action) := by
  rw [Stmt.blame, stmt.print_unplaced]
  exact mapError (fun _ => rfl) blind

theorem demand (expr : Expr) {action' action : Eval (Option Value)}
    (blind : Blind id action' action) :
    Blind id (expr.unplaced.demand action') (expr.demand action) := by
  refine (blame expr blind).bind fun found => ?_
  cases found with
  | some value => exact .pure value
  | none =>
    simp only [id_eq, expr.position_unplaced, expr.print_unplaced]
    exact fun _ => rfl

end Blind
end Eval

section Rules

variable (context : Context)

/-- The host functions stay, and the program is in no place. -/
def Context.unplaced (context : Context) : Context :=
  { context with program := stmtsUnplaced context.program }

open Eval

mutual

/-- The rule of an expression does not depend on where it stands. -/
theorem Expr.rule_unplaced : ∀ expr : Expr,
    Blind id (expr.unplaced.rule context.unplaced) (expr.rule context)
  | .conditional condition thenBranch elseBranch => by
    rw [Expr.unplaced, Expr.rule, Expr.rule]
    refine (Blind.demand condition condition.rule_unplaced).bind fun test => ?_
    refine .ite test.isTruthy ?_ ?_
    · exact (executeAll_unplaced none thenBranch).inNewScope
    · exact (executeAll_unplaced none elseBranch).inNewScope
  | .assign target value => by
    rw [Expr.unplaced, Expr.rule, Expr.rule]
    refine (Blind.demand value value.rule_unplaced).bind fun result => ?_
    exact (Blind.update target.position _).bind fun _ => .pure (some result)
  | .binary left operator right => by
    rw [Expr.unplaced, Expr.rule, Expr.rule]
    refine (Blind.demand left left.rule_unplaced).bind fun first => ?_
    refine (Blind.demand right right.rule_unplaced).bind fun second => ?_
    exact Blind.map some (.lift operator.position _)
  | .unary operator operand => by
    rw [Expr.unplaced, Expr.rule, Expr.rule]
    refine (Blind.demand operand operand.rule_unplaced).bind fun value => ?_
    exact Blind.map some (.lift operator.position _)
  | .grouping inner => by
    rw [Expr.unplaced, Expr.rule, Expr.rule]
    exact .blame inner inner.rule_unplaced
  | .literal value _ => by
    rw [Expr.unplaced, Expr.rule, Expr.rule]
    exact .pure (some value)
  | .name token => by
    rw [Expr.unplaced, Expr.rule, Expr.rule]
    exact .nameValue context.program token
  | .call callee arguments => by
    rw [Expr.unplaced, Expr.rule, Expr.rule, callee.position_unplaced]
    refine (Blind.resolveCallee context.program callee).bind fun signature => ?_
    refine (evaluateAll_unplaced arguments).bind fun values => ?_
    exact Blind.callNative context.natives _ values callee.position
  | .member target member => by
    rw [Expr.unplaced, Expr.rule, Expr.rule]
    refine (Blind.demand target target.rule_unplaced).bind fun value => ?_
    exact Blind.map some (.lift member.position _)

theorem Stmt.rule_unplaced : ∀ stmt : Stmt,
    Blind id (stmt.unplaced.rule context.unplaced) (stmt.rule context)
  | .functionDecl signature none | .functionDecl signature (some body) => by
    rw [Stmt.unplaced, Stmt.rule, Stmt.rule]
    exact .pure none
  | .variableDecl head initializer => by
    rw [Stmt.unplaced, Stmt.rule, Stmt.rule]
    refine (Blind.demand initializer initializer.rule_unplaced).bind fun value => ?_
    exact (Blind.update head.name.position _).bind fun _ => .pure none
  | .block body => by
    rw [Stmt.unplaced, Stmt.rule, Stmt.rule]
    exact (executeAll_unplaced none body).inNewScope.bind fun _ => .pure none
  | .expression expr => by
    rw [Stmt.unplaced, Stmt.rule, Stmt.rule]
    exact .blame expr expr.rule_unplaced

theorem executeAll_unplaced : ∀ (last : Option Value) (stmts : List Stmt),
    Blind id (executeAll context.unplaced last (stmtsUnplaced stmts))
      (executeAll context last stmts)
  | last, [] => by
    rw [stmtsUnplaced, executeAll, executeAll]
    exact .pure last
  | last, stmt :: rest => by
    rw [stmtsUnplaced, executeAll, executeAll]
    refine (Blind.blame_stmt stmt stmt.rule_unplaced).bind fun value => ?_
    exact executeAll_unplaced value rest

theorem evaluateAll_unplaced : ∀ exprs : List Expr,
    Blind id (evaluateAll context.unplaced (exprsUnplaced exprs)) (evaluateAll context exprs)
  | [] => by
    rw [exprsUnplaced, evaluateAll, evaluateAll]
    exact .pure []
  | expr :: rest => by
    rw [exprsUnplaced, evaluateAll, evaluateAll]
    refine (Blind.demand expr expr.rule_unplaced).bind fun value => ?_
    exact (evaluateAll_unplaced rest).bind fun values => .pure (NativeValue.ofValue value :: values)

end

theorem executeEach_unplaced (stmts : List Stmt) :
    Blind id (executeEach context.unplaced (stmtsUnplaced stmts)) (executeEach context stmts) := by
  induction stmts with
  | nil => exact .pure ()
  | cons stmt rest ih =>
    have begun : Blind id (Traced.emit (.executing stmt.unplaced))
        (Traced.emit (.executing stmt)) := Traced.Blind.emit (Event.executing stmt)
    refine begun.bind fun _ => ?_
    exact (Blind.blame_stmt stmt (stmt.rule_unplaced context)).bind fun _ => ih

theorem interpret_unplaced : Blind id (interpret context.unplaced) (interpret context) := by
  have begun : Blind id (Traced.emit (.starting context.unplaced.program.length))
      (Traced.emit (.starting context.program.length)) := by
    rw [Context.unplaced, length_stmtsUnplaced]
    exact Traced.Blind.emit (Event.starting context.program.length)
  refine begun.bind fun _ => (executeEach_unplaced context context.program).bind fun _ => ?_
  exact Traced.Blind.emit Event.finished

end Rules

/-- Events print what they print, wherever their statements stand. -/
theorem outputOf_unplaced (trace : List Eval.Event) :
    outputOf (trace.map Eval.Event.unplaced) = outputOf trace := by
  have same : Eval.Event.line? ∘ Eval.Event.unplaced = Eval.Event.line? := by
    funext event
    cases event <;> rfl
  rw [outputOf, List.filterMap_map, same, outputOf]

/-- Runs that print the same, leave the same variables behind, and end alike: both without an error,
or both with one of the same cause in the same phrase. -/
def SameRun {α : Type} (first second : Run Environment Eval.Event Error α) : Prop :=
  outputOf first.trace = outputOf second.trace ∧ first.state = second.state ∧
    first.outcome.mapError Error.unplaced = second.outcome.mapError Error.unplaced

/-- A run shows what is left of it without places. -/
theorem sameRun_of_places {first second : Run Environment Eval.Event Error Unit}
    (same : Eval.places.run id first = Eval.places.run id second) : SameRun first second := by
  obtain ⟨outcome, state, trace⟩ := first
  obtain ⟨outcome', state', trace'⟩ := second
  simp only [Erasure.run, Run.mk.injEq] at same
  obtain ⟨outcomes, states, traces⟩ := same
  refine ⟨?_, states, ?_⟩
  · rw [← outputOf_unplaced trace, ← outputOf_unplaced trace']
    exact congrArg outputOf traces
  · have erased (outcome : Except Error Unit) :
        outcome.mapError Error.unplaced = Eval.places.outcome id outcome := by
      cases outcome <;> rfl
    rw [erased, erased]
    exact outcomes

/-- Programs that differ in places only run alike. -/
theorem interpret_inert {program program' : List Stmt}
    (same : stmtsUnplaced program = stmtsUnplaced program') (natives : Registry)
    (before : Environment) :
    SameRun ((interpret { program, natives }).run before)
      ((interpret { program := program', natives }).run before) := by
  have contexts : Context.unplaced { program, natives } =
      Context.unplaced { program := program', natives } := by
    simp only [Context.unplaced, same]
  have first := interpret_unplaced { program, natives } before
  rw [contexts, interpret_unplaced { program := program', natives } before] at first
  exact sameRun_of_places first.symm

/-- Tokens that differ at most in where they stand. -/
def Token.SameWord (first second : Token) : Prop :=
  first.kind = second.kind ∧ first.lexeme = second.lexeme ∧ first.literal = second.literal

theorem Token.SameWord.unplaced_eq {first second : Token} (same : first.SameWord second) :
    first.unplaced = second.unplaced := by
  obtain ⟨kinds, lexemes, literals⟩ := same
  simp only [Token.unplaced, kinds, lexemes, literals]

/-- Tokens may be moved to any places: the same is read and reported apart from places, and what is
read runs alike, whatever the host functions are and whatever is declared before. -/
theorem positions_are_inert {tokens tokens' : List Token}
    (same : List.Forall₂ Token.SameWord tokens tokens') :
    stmtsUnplaced (parse tokens).statements = stmtsUnplaced (parse tokens').statements ∧
      (parse tokens).errors.map Error.unplaced = (parse tokens').errors.map Error.unplaced ∧
      ∀ (natives : Registry) (before : Environment),
        SameRun ((interpret { program := (parse tokens).statements, natives }).run before)
          ((interpret { program := (parse tokens').statements, natives }).run before) := by
  have erased : tokens.map Token.unplaced = tokens'.map Token.unplaced := by
    induction same with
    | nil => rfl
    | cons first _ ih => rw [List.map_cons, List.map_cons, first.unplaced_eq, ih]
  have read := parse_unplaced tokens
  rw [erased, parse_unplaced tokens', Parsed.mk.injEq] at read
  exact ⟨read.1.symm, read.2.symm, fun natives before => interpret_inert read.1.symm natives before⟩

/-- The tokens of `x`, which nothing declares, in two places. -/
theorem positions_are_inert_undeclared :
    SameRun
      ((interpret { program := (parse [⟨.identifier, "x", none, ⟨1, 1⟩⟩]).statements }).run .empty)
      ((interpret { program := (parse [⟨.identifier, "x", none, ⟨7, 3⟩⟩]).statements }).run
        .empty) := by
  have same : List.Forall₂ Token.SameWord [⟨.identifier, "x", none, ⟨1, 1⟩⟩]
      [⟨.identifier, "x", none, ⟨7, 3⟩⟩] := .cons ⟨rfl, rfl, rfl⟩ .nil
  exact (positions_are_inert same).2.2 .standard .empty

end Script
