import Script.Proofs.Origins

set_option autoImplicit false

/- Parentheses that do nothing but group are redundant. A grouping gives what it holds, does what
that does, and is placed where that is placed; only the phrase that an error names tells whether
there was one. A callee in parentheses is another matter, since only a bare name can be called. -/
namespace Script

/-- An expression, in parentheses if another one stands in parentheses. -/
def Expr.enclosedAs (expr : Expr) : Expr → Expr
  | .grouping _ => .grouping expr
  | _ => expr

mutual

/-- An expression in which every grouping is replaced by what it holds, unless it is called. -/
def Expr.unwrapped : Expr → Expr
  | .conditional condition thenBranch elseBranch =>
      .conditional condition.unwrapped (stmtsUnwrapped thenBranch) (stmtsUnwrapped elseBranch)
  | .assign target value => .assign target value.unwrapped
  | .binary left operator right => .binary left.unwrapped operator right.unwrapped
  | .unary operator operand => .unary operator operand.unwrapped
  | .grouping inner => inner.unwrapped
  | .literal value position => .literal value position
  | .name token => .name token
  | .call callee arguments => .call (callee.unwrapped.enclosedAs callee) (exprsUnwrapped arguments)
  | .member target member => .member target.unwrapped member

/-- A statement in which every grouping is replaced by what it holds, unless it is called. -/
def Stmt.unwrapped : Stmt → Stmt
  | .functionDecl signature none => .functionDecl signature none
  | .functionDecl signature (some body) => .functionDecl signature (some (stmtsUnwrapped body))
  | .variableDecl head initializer => .variableDecl head initializer.unwrapped
  | .block body => .block (stmtsUnwrapped body)
  | .expression expr => .expression expr.unwrapped

def stmtsUnwrapped : List Stmt → List Stmt
  | [] => []
  | stmt :: rest => stmt.unwrapped :: stmtsUnwrapped rest

def exprsUnwrapped : List Expr → List Expr
  | [] => []
  | expr :: rest => expr.unwrapped :: exprsUnwrapped rest

end

/-- Of the parentheses in `((f))((x))` one pair stays, that of the callee. -/
example (f x : Token) :
    (Expr.call (.grouping (.grouping (.name f))) [.grouping (.grouping (.name x))]).unwrapped =
      .call (.grouping (.name f)) [.name x] := rfl

theorem Expr.position_enclosedAs (expr other : Expr) :
    (expr.enclosedAs other).position = expr.position := by
  cases other <;> simp only [Expr.enclosedAs, Expr.position]

/-- An expression is placed where it is without its groupings. -/
theorem Expr.position_unwrapped : ∀ expr : Expr, expr.unwrapped.position = expr.position
  | .conditional condition _ _ => by
    simp only [Expr.unwrapped, Expr.position, condition.position_unwrapped]
  | .assign _ _ | .unary _ _ | .literal _ _ | .name _ => by
    simp only [Expr.unwrapped, Expr.position]
  | .binary left _ _ => by simp only [Expr.unwrapped, Expr.position, left.position_unwrapped]
  | .grouping inner => by simp only [Expr.unwrapped, Expr.position, inner.position_unwrapped]
  | .call callee _ => by
    simp only [Expr.unwrapped, Expr.position, Expr.position_enclosedAs, callee.position_unwrapped]
  | .member target _ => by simp only [Expr.unwrapped, Expr.position, target.position_unwrapped]

/-- What an error says apart from the phrase it arose in. -/
def Error.fault (error : Error) : Error.Cause × Position := (error.cause, error.position)

namespace Eval

variable {α β : Type}

/-- Runs that leave the same environment and trace, and end with the same value or with the same
fault. -/
def Alike (first second : Eval α) : Prop := first.reword Error.fault = second.reword Error.fault

namespace Alike

variable {first first' : Eval α}

theorem refl (action : Eval α) : Alike action action := rfl

theorem bind {next next' : α → Eval β} (same : Alike first first')
    (behind : ∀ value, Alike (next value) (next' value)) :
    Alike (first >>= next) (first' >>= next') := by
  unfold Alike
  rw [Traced.reword_bind, Traced.reword_bind, same]
  exact bind_congr behind

theorem inNewScope (same : Alike first first') :
    Alike (inNewScope first) (Eval.inNewScope first') := by
  suffices each : ∀ before, (Eval.inNewScope first).reword Error.fault before =
      (Eval.inNewScope first').reword Error.fault before from funext each
  intro before
  have inside := congrFun same before.enter
  simp only [Traced.reword, Run.mk.injEq] at inside
  obtain ⟨outcomes, states, traces⟩ := inside
  change Run.mk _ _ _ = Run.mk _ _ _
  rw [Run.mk.injEq]
  exact ⟨outcomes, congrArg Environment.leave states, traces⟩

/-- The phrase that an error names is no part of its fault. -/
theorem nameless (context : String) (action : Eval α) :
    Alike (action.mapError fun error => error.withContext context) action := by
  funext before
  simp only [Traced.reword, Traced.run_mapError]
  cases (action.run before).outcome <;> rfl

theorem withContext (context context' : String) (same : Alike first first') :
    Alike (first.mapError fun error => error.withContext context)
      (first'.mapError fun error => error.withContext context') :=
  ((nameless context first).trans same).trans (nameless context' first').symm

theorem demand {expr expr' : Expr} {action action' : Eval (Option Value)}
    (placed : expr.position = expr'.position) (same : Alike action action') :
    Alike (expr.demand action) (expr'.demand action') := by
  refine (withContext expr.print expr'.print same).bind fun found => ?_
  cases found with
  | some value => exact refl _
  | none =>
    rw [placed]
    rfl

/-- A callee is called as it is without the groupings inside it. -/
theorem resolveCallee (program : List Stmt) (callee : Expr) :
    Eval.resolveCallee program (callee.unwrapped.enclosedAs callee) =
      Eval.resolveCallee program callee := by
  have placed := (Expr.position_enclosedAs callee.unwrapped callee).trans
    callee.position_unwrapped
  cases callee with
  | name token => rfl
  | _ =>
    simp only [Expr.unwrapped, Expr.enclosedAs] at placed
    simp only [Expr.unwrapped, Expr.enclosedAs, Eval.resolveCallee, placed]

end Alike
end Eval

section Rules

variable (context : Context)

open Eval

mutual

/-- Without its groupings an expression gives and does the same. -/
theorem Expr.rule_unwrapped : ∀ expr : Expr,
    Alike (expr.unwrapped.rule context) (expr.rule context)
  | .conditional condition thenBranch elseBranch => by
    rw [Expr.unwrapped, Expr.rule, Expr.rule]
    refine (condition.rule_unwrapped.demand condition.position_unwrapped).bind fun test => ?_
    split
    · exact (executeAll_unwrapped none thenBranch).inNewScope
    · exact (executeAll_unwrapped none elseBranch).inNewScope
  | .assign target value => by
    rw [Expr.unwrapped, Expr.rule, Expr.rule]
    exact (value.rule_unwrapped.demand value.position_unwrapped).bind fun _ => .refl _
  | .binary left operator right => by
    rw [Expr.unwrapped, Expr.rule, Expr.rule]
    refine (left.rule_unwrapped.demand left.position_unwrapped).bind fun first => ?_
    exact (right.rule_unwrapped.demand right.position_unwrapped).bind fun _ => .refl _
  | .unary operator operand => by
    rw [Expr.unwrapped, Expr.rule, Expr.rule]
    exact (operand.rule_unwrapped.demand operand.position_unwrapped).bind fun _ => .refl _
  | .grouping inner => by
    rw [Expr.unwrapped, Expr.rule]
    exact inner.rule_unwrapped.trans (Alike.nameless inner.print _).symm
  | .literal value position => by
    rw [Expr.unwrapped]
    exact .refl _
  | .name token => by
    rw [Expr.unwrapped]
    exact .refl _
  | .call callee arguments => by
    rw [Expr.unwrapped, Expr.rule, Expr.rule, Alike.resolveCallee, Expr.position_enclosedAs,
      callee.position_unwrapped]
    refine (Alike.refl _).bind fun signature => ?_
    exact (evaluateAll_unwrapped arguments).bind fun _ => .refl _
  | .member target member => by
    rw [Expr.unwrapped, Expr.rule, Expr.rule]
    exact (target.rule_unwrapped.demand target.position_unwrapped).bind fun _ => .refl _

theorem Stmt.rule_unwrapped : ∀ stmt : Stmt,
    Alike (stmt.unwrapped.rule context) (stmt.rule context)
  | .functionDecl signature none | .functionDecl signature (some body) => by
    simp only [Stmt.unwrapped, Stmt.rule]
    exact .refl _
  | .variableDecl head initializer => by
    rw [Stmt.unwrapped, Stmt.rule, Stmt.rule]
    exact (initializer.rule_unwrapped.demand initializer.position_unwrapped).bind fun _ => .refl _
  | .block body => by
    rw [Stmt.unwrapped, Stmt.rule, Stmt.rule]
    exact (executeAll_unwrapped none body).inNewScope.bind fun _ => .refl _
  | .expression expr => by
    rw [Stmt.unwrapped, Stmt.rule, Stmt.rule]
    exact expr.rule_unwrapped.withContext expr.unwrapped.print expr.print

theorem executeAll_unwrapped : ∀ (last : Option Value) (stmts : List Stmt),
    Alike (executeAll context last (stmtsUnwrapped stmts)) (executeAll context last stmts)
  | last, [] => by
    rw [stmtsUnwrapped]
    exact .refl _
  | last, stmt :: rest => by
    rw [stmtsUnwrapped, executeAll, executeAll]
    exact (stmt.rule_unwrapped.withContext stmt.unwrapped.print stmt.print).bind fun value =>
      executeAll_unwrapped value rest

theorem evaluateAll_unwrapped : ∀ exprs : List Expr,
    Alike (evaluateAll context (exprsUnwrapped exprs)) (evaluateAll context exprs)
  | [] => by
    rw [exprsUnwrapped]
    exact .refl _
  | expr :: rest => by
    rw [exprsUnwrapped, evaluateAll, evaluateAll]
    refine (expr.rule_unwrapped.demand expr.position_unwrapped).bind fun value => ?_
    exact (evaluateAll_unwrapped rest).bind fun _ => .refl _

end

/-- Without the groupings in it that are not called, at any depth, a statement leaves the same
environment, calls and prints the same, and ends alike: with the same value, without one, or with an
error of the same cause at the same place. -/
theorem groupings_are_redundant (stmt : Stmt) (before : Environment) :
    let done := (stmt.execute context).run before
    let done' := (stmt.unwrapped.execute context).run before
    done'.state = done.state ∧ done'.trace = done.trace ∧
      outputOf done'.trace = outputOf done.trace ∧
      done'.outcome.mapError Error.fault = done.outcome.mapError Error.fault := by
  have same : Alike (stmt.unwrapped.execute context) (stmt.execute context) :=
    (stmt.rule_unwrapped context).withContext stmt.unwrapped.print stmt.print
  have runs := congrFun same before
  simp only [Traced.reword, Run.mk.injEq] at runs
  obtain ⟨outcomes, states, traces⟩ := runs
  exact ⟨states, traces, congrArg outputOf traces, outcomes⟩

end Rules

end Script
