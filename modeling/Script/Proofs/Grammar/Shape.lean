import Script.Proofs.Causes
import Script.Proofs.Grammar

set_option autoImplicit false

/- The shape of trees that tokens spell, whatever the tokens are: operators of known kinds,
assignments only at the head of a statement, calls with few arguments, and a type behind every
mutable variable. -/
namespace Script

namespace TypeExpr

def isMap : TypeExpr → Bool
  | map _ _ _ => true
  | _ => false

/-- A type is an array, a map or neither, and has a key if and only if it is a map. Keys are types
as well. All types are so by the three forms they can have; which form is read from which tokens is
`Parser.typeExpr_form`. -/
inductive Regular : TypeExpr → Prop where
  | intro {type : TypeExpr} (apart : ¬ (type.isArray = true ∧ type.isMap = true))
      (keyed : type.key?.isSome = type.isMap) (keys : ∀ key ∈ type.key?, Regular key) :
      Regular type

theorem regular : ∀ type : TypeExpr, type.Regular
  | named _ _ => .intro (by simp [isArray]) rfl nofun
  | array _ _ => .intro (by simp [isMap]) rfl nofun
  | map key _ _ => .intro (by simp [isArray]) rfl fun key' member => by
      cases member
      exact regular key

end TypeExpr

def Signature.types (signature : Signature) : List TypeExpr :=
  signature.specifiers ++ signature.parameters.filterMap Parameter.type ++ signature.effects ++
    [signature.returns]

def VariableHead.types (head : VariableHead) : List TypeExpr :=
  head.specifiers ++ head.type.toList

mutual

/-- The shape of an expression; `assigns` tells whether an assignment may stand in its place. -/
def Expr.Regular (assigns : Bool) : Expr → Prop
  | .conditional condition thenBranch elseBranch =>
      condition.Regular false ∧ stmtsRegular thenBranch ∧ stmtsRegular elseBranch
  | .assign _ value => assigns = true ∧ value.Regular true
  | .binary left operator right =>
      operator.kind ∈ Operator.binaryKinds ∧ left.Regular false ∧ right.Regular false
  | .unary operator operand => operator.kind ∈ Operator.unaryKinds ∧ operand.Regular false
  | .grouping inner => inner.Regular false
  | .literal _ _ => True
  | .name _ => True
  | .call callee arguments =>
      callee.Regular false ∧ arguments.length ≤ 255 ∧ exprsRegular arguments
  | .member target _ => target.Regular false

def Stmt.Regular : Stmt → Prop
  | .functionDecl signature none => ∀ type ∈ signature.types, type.Regular
  | .functionDecl signature (some body) =>
      (∀ type ∈ signature.types, type.Regular) ∧ stmtsRegular body
  | .variableDecl head initializer =>
      (head.mutable = true → head.type.isSome = true) ∧ (∀ type ∈ head.types, type.Regular) ∧
        initializer.Regular false
  | .block body => stmtsRegular body
  | .expression expr => expr.Regular true

def stmtsRegular : List Stmt → Prop
  | [] => True
  | stmt :: rest => stmt.Regular ∧ stmtsRegular rest

def exprsRegular : List Expr → Prop
  | [] => True
  | expr :: rest => expr.Regular false ∧ exprsRegular rest

end

theorem stmtsRegular_iff {stmts : List Stmt} :
    stmtsRegular stmts ↔ ∀ stmt ∈ stmts, stmt.Regular := by
  induction stmts with
  | nil => simp [stmtsRegular]
  | cons stmt rest ih => rw [stmtsRegular, List.forall_mem_cons, ih]

/-- Where nothing may be assigned, an expression has the shape of any place. -/
theorem Expr.Regular.anywhere {expr : Expr} {assigns : Bool} (regular : expr.Regular false) :
    expr.Regular assigns := by
  cases expr with
  | assign target value =>
    rw [Expr.Regular] at regular
    exact absurd regular.1 (by decide)
  | _ =>
    rw [Expr.Regular] at regular ⊢
    exact regular

namespace Grammar

open Token (Kind)

variable {mode : Mode}

mutual

theorem Primary.regular {tokens : List Token} {expr : Expr} :
    Primary mode tokens expr → expr.Regular false
  | .trueWord _ => by rw [Expr.Regular]; trivial
  | .falseWord _ => by rw [Expr.Regular]; trivial
  | .literal _ _ => by rw [Expr.Regular]; trivial
  | .name _ => by rw [Expr.Regular]; trivial
  | .grouping _ held _ => by
    rw [Expr.Regular]
    exact held.regular

theorem Suffixes.regular {tokens : List Token} {expr result : Expr} :
    Suffixes mode expr tokens result → expr.Regular false → result.Regular false
  | .none, before => before
  | .bare _ _ behind, before => by
    apply behind.regular
    rw [Expr.Regular, exprsRegular]
    exact ⟨before, Nat.zero_le _, trivial⟩
  | .call _ listed few _ behind, before => by
    apply behind.regular
    rw [Expr.Regular]
    exact ⟨before, few, listed.regular⟩
  | .member _ _ behind, before => by
    apply behind.regular
    rw [Expr.Regular]
    exact before

theorem Arguments.regular {tokens : List Token} {exprs : List Expr} :
    Arguments mode tokens exprs → exprsRegular exprs
  | .one only => by
    rw [exprsRegular, exprsRegular]
    exact ⟨only.regular, trivial⟩
  | .more head _ tail => by
    rw [exprsRegular]
    exact ⟨head.regular, tail.regular⟩

theorem Unary.regular {tokens : List Token} {expr : Expr} :
    Unary mode tokens expr → expr.Regular false
  | .sign signs signed => by
    rw [Expr.Regular]
    exact ⟨signs, signed.regular⟩
  | .call head behind => behind.regular head.regular

theorem Operation.regular {levels : List (List Kind)} {tokens : List Token} {expr : Expr}
    (known : ∀ kind ∈ levels.flatten, kind ∈ Operator.binaryKinds) :
    Operation mode levels tokens expr → expr.Regular false
  | .tightest only => only.regular
  | .level head behind => by
    apply behind.regular known
    exact head.regular fun kind member => known kind (List.mem_append_right _ member)

theorem Chain.regular {operators : List Kind} {tighter : List (List Kind)} {tokens : List Token}
    {expr result : Expr}
    (known : ∀ kind ∈ (operators :: tighter).flatten, kind ∈ Operator.binaryKinds) :
    Chain mode operators tighter expr tokens result → expr.Regular false → result.Regular false
  | .none, before => before
  | .more joins operand behind, before => by
    apply behind.regular known
    rw [Expr.Regular]
    refine ⟨known _ (List.mem_append_left _ joins), before, ?_⟩
    exact operand.regular fun kind member => known kind (List.mem_append_right _ member)

theorem Expression.regular {tokens : List Token} {expr : Expr} :
    Expression mode tokens expr → expr.Regular false
  | .conditional _ _ tested _ body other => by
    rw [Expr.Regular]
    exact ⟨tested.regular, body.regular, other.regular⟩
  | .operation only => only.regular (by decide)

theorem ElseBranch.regular {tokens : List Token} {branch : List Stmt} :
    ElseBranch mode tokens branch → stmtsRegular branch
  | .none => by rw [stmtsRegular]; trivial
  | .some _ body => body.regular

theorem Assignment.regular {tokens : List Token} {expr : Expr} :
    Assignment mode tokens expr → expr.Regular true
  | .assign _ _ assigned => by
    rw [Expr.Regular]
    exact ⟨rfl, assigned.regular⟩
  | .value only _ => only.regular.anywhere

theorem Statement.regular {tokens : List Token} {stmt : Stmt} :
    Statement mode tokens stmt → stmt.Regular
  | .mutable _ _ _ _ _ _ initialized => by
    rw [Stmt.Regular]
    exact ⟨fun _ => rfl, fun type _ => type.regular, initialized.regular⟩
  | .typed _ _ _ _ _ initialized => by
    rw [Stmt.Regular]
    exact ⟨fun _ => rfl, fun type _ => type.regular, initialized.regular⟩
  | .inferred _ _ _ initialized => by
    rw [Stmt.Regular]
    exact ⟨nofun, fun type _ => type.regular, initialized.regular⟩
  | .function _ _ _ _ _ _ _ _ .none => by
    rw [Stmt.Regular]
    exact fun type _ => type.regular
  | .function _ _ _ _ _ _ _ _ (.some _ braced) => by
    rw [Stmt.Regular]
    exact ⟨fun type _ => type.regular, braced.regular⟩
  | .block _ braced => by
    rw [Stmt.Regular]
    exact braced.regular
  | .expression only => by
    rw [Stmt.Regular]
    exact only.regular

theorem Block.regular {tokens : List Token} {body : List Stmt} :
    Block mode tokens body → stmtsRegular body
  | .braces _ held _ => held.regular

theorem Statements.regular {tokens : List Token} {stmts : List Stmt} :
    Statements mode tokens stmts → stmtsRegular stmts
  | .none => by rw [stmtsRegular]; trivial
  | .blank _ behind => behind.regular
  | .last only => by
    rw [stmtsRegular, stmtsRegular]
    exact ⟨only.regular, trivial⟩
  | .ended head _ behind => by
    rw [stmtsRegular]
    exact ⟨head.regular, behind.regular⟩
  | .skipped _ behind => behind.regular
  | .unended _ head behind => by
    rw [stmtsRegular]
    exact ⟨head.regular, behind.regular⟩

end

end Grammar
end Script
