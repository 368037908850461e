import Script.Proofs.Evaluation

set_option autoImplicit false

/- Where the errors of a run are. Every error stands at a place of the tree that is run: at an
operator, a name or a member, or where an expression begins. -/
namespace Script

section Places

variable (within : Position → Prop)

mutual

/-- The places that a run of an expression can name satisfy a condition. -/
def Expr.Placed : Expr → Prop
  | .conditional condition thenBranch elseBranch =>
      condition.Placed ∧ stmtsPlaced thenBranch ∧ stmtsPlaced elseBranch
  | .assign target value => within target.position ∧ value.Placed
  | .binary left operator right => left.Placed ∧ within operator.position ∧ right.Placed
  | .unary operator operand => within operator.position ∧ operand.Placed
  | .grouping inner => inner.Placed
  | .literal _ position => within position
  | .name token => within token.position
  | .call callee arguments => callee.Placed ∧ exprsPlaced arguments
  | .member target member => target.Placed ∧ within member.position

/-- The places that a run of a statement can name satisfy a condition. The body of a function is
not run. -/
def Stmt.Placed : Stmt → Prop
  | .functionDecl _ _ => True
  | .variableDecl head initializer => within head.name.position ∧ initializer.Placed
  | .block body => stmtsPlaced body
  | .expression expr => expr.Placed

def stmtsPlaced : List Stmt → Prop
  | [] => True
  | stmt :: rest => stmt.Placed ∧ stmtsPlaced rest

def exprsPlaced : List Expr → Prop
  | [] => True
  | expr :: rest => expr.Placed ∧ exprsPlaced rest

end

/-- An expression begins at one of its places. -/
theorem Expr.Placed.position : ∀ {expr : Expr}, expr.Placed within → within expr.position
  | .conditional _ _ _, placed => by
    rw [Expr.Placed] at placed
    exact placed.1.position
  | .assign _ _, placed => by
    rw [Expr.Placed] at placed
    exact placed.1
  | .binary _ _ _, placed => by
    rw [Expr.Placed] at placed
    exact placed.1.position
  | .unary _ _, placed => by
    rw [Expr.Placed] at placed
    exact placed.1
  | .grouping _, placed => by
    rw [Expr.Placed] at placed
    exact placed.position
  | .literal _ _, placed => by
    rw [Expr.Placed] at placed
    exact placed
  | .name _, placed => by
    rw [Expr.Placed] at placed
    exact placed
  | .call _ _, placed => by
    rw [Expr.Placed] at placed
    exact placed.1.position
  | .member _ _, placed => by
    rw [Expr.Placed] at placed
    exact placed.1.position

end Places

namespace Traced.Fails

variable {α : Type} {fine : Error → Prop}

/-- What is known of an action in each environment is enough. -/
theorem of_ensures {action : Eval α} {good : Environment → α → Prop}
    {bad : Environment → Error → Prop}
    (each : ∀ before, action.Ensures (· = before) (good before) (bad before))
    (raised : ∀ before error, bad before error → fine error) : Fails fine action :=
  ⟨fun before error failed => raised before error ((each before).error before rfl error failed)⟩

theorem lift {position : Position} (outcome : Except Error.Cause α)
    (raised : ∀ cause, fine { cause, position }) : Fails fine (Eval.lift position outcome) := by
  cases outcome with
  | ok value => exact pure value
  | error cause => exact fail (raised cause)

theorem inNewScope {action : Eval α} (first : Fails fine action) :
    Fails fine (Eval.inNewScope action) :=
  ⟨fun before error failed => first.error before.enter error failed⟩

theorem update {position : Position} (change : Environment → Except Error.Cause Environment)
    (raised : ∀ cause, fine { cause, position }) : Fails fine (Eval.update position change) := by
  have ensures : (Eval.update position change).Ensures (fun _ => True) (fun _ => True) fine :=
    Eval.update_ensures (fun _ _ _ _ => trivial) fun _ cause _ _ => raised cause
  exact ⟨fun before => ensures.error before trivial⟩

theorem callNative (natives : Registry) (name : String) (arguments : List NativeValue)
    {position : Position} (raised : ∀ cause, fine { cause, position }) :
    Fails fine (Eval.callNative natives name arguments position) := by
  refine of_ensures (fun _ => Eval.callNative_ensures natives name arguments position) ?_
  intro before error failed
  cases failed <;> exact raised _

theorem resolveCallee (program : List Stmt) {callee : Expr}
    (raised : ∀ cause, fine { cause, position := callee.position }) :
    Fails fine (Eval.resolveCallee program callee) := by
  refine of_ensures (fun before => Eval.resolveCallee_ensures program before callee) ?_
  intro before error failed
  cases failed <;> exact raised _

theorem nameValue (program : List Stmt) {token : Token}
    (raised : ∀ cause, fine { cause, position := token.position }) :
    Fails fine (Eval.nameValue program token) := by
  refine of_ensures (fun before => Eval.nameValue_ensures program before token) ?_
  rintro before error ⟨-, -, rfl⟩
  exact raised _

end Traced.Fails

namespace Eval

variable {α : Type} {within : Position → Prop}

/-- Whenever a run of an action fails, it fails at a place that satisfies a condition. -/
abbrev FailsWithin (within : Position → Prop) (action : Eval α) : Prop :=
  action.Fails fun error => within error.position

namespace FailsWithin

/-- The phrase that an error names does not move it. -/
theorem withContext {action : Eval α} (context : String) (first : FailsWithin within action) :
    FailsWithin within (action.mapError fun error => error.withContext context) := by
  refine ⟨fun before error failed => ?_⟩
  rw [Traced.run_mapError] at failed
  cases outcome : (action.run before).outcome with
  | ok value =>
    rw [outcome] at failed
    cases failed
  | error error' =>
    rw [outcome] at failed
    cases failed
    exact first.error before error' outcome

theorem demand {expr : Expr} {action : Eval (Option Value)} (placed : expr.Placed within)
    (first : FailsWithin within action) : FailsWithin within (expr.demand action) := by
  apply (first.withContext expr.print).bind
  intro found
  cases found with
  | none => exact .fail placed.position
  | some value => exact .pure value

end FailsWithin
end Eval

section Rules

variable {within : Position → Prop} (context : Context)

open Eval

mutual

theorem Expr.Placed.rule : ∀ {expr : Expr}, expr.Placed within →
    FailsWithin within (expr.rule context)
  | .conditional condition thenBranch elseBranch, placed => by
    rw [Expr.Placed] at placed
    rw [Expr.rule]
    apply (placed.1.rule.demand placed.1).bind
    intro test
    split
    · exact (executeAll_fails none placed.2.1).inNewScope
    · exact (executeAll_fails none placed.2.2).inNewScope
  | .assign target value, placed => by
    rw [Expr.Placed] at placed
    rw [Expr.rule]
    apply (placed.2.rule.demand placed.2).bind
    intro result
    exact (Traced.Fails.update _ fun _ => placed.1).bind fun _ => .pure _
  | .binary left operator right, placed => by
    rw [Expr.Placed] at placed
    rw [Expr.rule]
    apply (placed.1.rule.demand placed.1).bind
    intro first
    apply (placed.2.2.rule.demand placed.2.2).bind
    intro second
    exact .map _ (.lift _ fun _ => placed.2.1)
  | .unary operator operand, placed => by
    rw [Expr.Placed] at placed
    rw [Expr.rule]
    apply (placed.2.rule.demand placed.2).bind
    intro value
    exact .map _ (.lift _ fun _ => placed.1)
  | .grouping inner, placed => by
    rw [Expr.Placed] at placed
    rw [Expr.rule]
    exact placed.rule.withContext _
  | .literal value position, placed => by
    rw [Expr.rule]
    exact .pure _
  | .name token, placed => by
    rw [Expr.rule]
    exact .nameValue _ fun _ => placed.position
  | .call callee arguments, placed => by
    rw [Expr.Placed] at placed
    rw [Expr.rule]
    apply (Traced.Fails.resolveCallee _ fun _ => placed.1.position).bind
    intro signature
    apply (evaluateAll_fails placed.2).bind
    intro values
    exact .callNative _ _ _ fun _ => placed.1.position
  | .member target member, placed => by
    rw [Expr.Placed] at placed
    rw [Expr.rule]
    apply (placed.1.rule.demand placed.1).bind
    intro value
    exact .map _ (.lift _ fun _ => placed.2)

theorem Stmt.Placed.rule : ∀ {stmt : Stmt}, stmt.Placed within →
    FailsWithin within (stmt.rule context)
  | .functionDecl _ _, _ => by
    rw [Stmt.rule]
    exact .pure _
  | .variableDecl head initializer, placed => by
    rw [Stmt.Placed] at placed
    rw [Stmt.rule]
    apply (placed.2.rule.demand placed.2).bind
    intro value
    exact (Traced.Fails.update _ fun _ => placed.1).bind fun _ => .pure _
  | .block body, placed => by
    rw [Stmt.Placed] at placed
    rw [Stmt.rule]
    exact (executeAll_fails none placed).inNewScope.bind fun _ => .pure _
  | .expression expr, placed => by
    rw [Stmt.Placed] at placed
    rw [Stmt.rule]
    exact placed.rule.withContext _

theorem executeAll_fails (last : Option Value) : ∀ {stmts : List Stmt}, stmtsPlaced within stmts →
    FailsWithin within (executeAll context last stmts)
  | [], _ => by
    rw [executeAll]
    exact .pure last
  | stmt :: rest, placed => by
    rw [stmtsPlaced] at placed
    rw [executeAll]
    apply (placed.1.rule.withContext _).bind
    intro value
    exact executeAll_fails value placed.2

theorem evaluateAll_fails : ∀ {exprs : List Expr}, exprsPlaced within exprs →
    FailsWithin within (evaluateAll context exprs)
  | [], _ => by
    rw [evaluateAll]
    exact .pure []
  | expr :: rest, placed => by
    rw [exprsPlaced] at placed
    rw [evaluateAll]
    apply (placed.1.rule.demand placed.1).bind
    intro value
    exact (evaluateAll_fails placed.2).bind fun values => .pure _

end

/-- A program that fails does so at one of its places. -/
theorem interpret_fails (placed : stmtsPlaced within context.program) :
    FailsWithin within (interpret context) := by
  have each {stmts : List Stmt} (placed : stmtsPlaced within stmts) :
      FailsWithin within (executeEach context stmts) := by
    induction stmts with
    | nil => exact .pure ()
    | cons stmt rest ih =>
      rw [stmtsPlaced] at placed
      rw [executeEach]
      apply (Traced.Fails.of_ok fun _ => ⟨(), rfl⟩).bind
      intro _
      apply ((Stmt.Placed.rule context placed.1).withContext _).bind
      intro _
      exact ih placed.2
  apply (Traced.Fails.of_ok fun _ => ⟨(), rfl⟩).bind
  intro _
  apply (each placed).bind
  intro _
  exact .of_ok fun _ => ⟨(), rfl⟩

end Rules
end Script
