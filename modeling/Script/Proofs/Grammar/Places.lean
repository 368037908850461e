import Script.Proofs.Faults
import Script.Proofs.Grammar

set_option autoImplicit false

/- Trees stand where the tokens stand that spell them. -/
namespace Script.Grammar

open Token (Kind)

def Within (within : Position → Prop) (tokens : List Token) : Prop :=
  ∀ token ∈ tokens, within token.position

@[simp] theorem within_cons {within : Position → Prop} {token : Token} {tokens : List Token} :
    Within within (token :: tokens) ↔ within token.position ∧ Within within tokens :=
  List.forall_mem_cons

@[simp] theorem within_append {within : Position → Prop} {first second : List Token} :
    Within within (first ++ second) ↔ Within within first ∧ Within within second :=
  List.forall_mem_append

variable {mode : Mode} {within : Position → Prop}

mutual

theorem Primary.placed {tokens : List Token} {expr : Expr} :
    Primary mode tokens expr → Within within tokens → expr.Placed within
  | .trueWord _, all => by
    rw [Expr.Placed]
    exact (within_cons.mp all).1
  | .falseWord _, all => by
    rw [Expr.Placed]
    exact (within_cons.mp all).1
  | .literal _ _, all => by
    rw [Expr.Placed]
    exact (within_cons.mp all).1
  | .name _, all => by
    rw [Expr.Placed]
    exact (within_cons.mp all).1
  | .grouping _ held _, all => by
    simp only [within_cons, within_append] at all
    rw [Expr.Placed]
    exact held.placed all.2.1

theorem Suffixes.placed {tokens : List Token} {expr result : Expr} :
    Suffixes mode expr tokens result → expr.Placed within → Within within tokens →
      result.Placed within
  | .none, placed, _ => placed
  | .bare _ _ behind, placed, all => by
    simp only [within_cons] at all
    apply behind.placed _ all.2.2
    rw [Expr.Placed, exprsPlaced]
    exact ⟨placed, trivial⟩
  | .call _ listed _ _ behind, placed, all => by
    simp only [within_cons, within_append] at all
    apply behind.placed _ all.2.2.2
    rw [Expr.Placed]
    exact ⟨placed, listed.placed all.2.1⟩
  | .member _ _ behind, placed, all => by
    simp only [within_cons] at all
    apply behind.placed _ all.2.2
    rw [Expr.Placed]
    exact ⟨placed, all.2.1⟩

theorem Arguments.placed {tokens : List Token} {exprs : List Expr} :
    Arguments mode tokens exprs → Within within tokens → exprsPlaced within exprs
  | .one only, all => by
    rw [exprsPlaced, exprsPlaced]
    exact ⟨only.placed all, trivial⟩
  | .more head _ tail, all => by
    simp only [within_cons, within_append] at all
    rw [exprsPlaced]
    exact ⟨head.placed all.1, tail.placed all.2.2⟩

theorem Unary.placed {tokens : List Token} {expr : Expr} :
    Unary mode tokens expr → Within within tokens → expr.Placed within
  | .sign _ signed, all => by
    simp only [within_cons] at all
    rw [Expr.Placed]
    exact ⟨all.1, signed.placed all.2⟩
  | .call head behind, all => by
    simp only [within_append] at all
    exact behind.placed (head.placed all.1) all.2

theorem Operation.placed {levels : List (List Kind)} {tokens : List Token} {expr : Expr} :
    Operation mode levels tokens expr → Within within tokens → expr.Placed within
  | .tightest only, all => only.placed all
  | .level head behind, all => by
    simp only [within_append] at all
    exact behind.placed (head.placed all.1) all.2

theorem Chain.placed {operators : List Kind} {tighter : List (List Kind)} {tokens : List Token}
    {expr result : Expr} : Chain mode operators tighter expr tokens result →
      expr.Placed within → Within within tokens → result.Placed within
  | .none, placed, _ => placed
  | .more _ operand behind, placed, all => by
    simp only [within_cons, within_append] at all
    apply behind.placed _ all.2.2
    rw [Expr.Placed]
    exact ⟨placed, all.1, operand.placed all.2.1⟩

theorem Expression.placed {tokens : List Token} {expr : Expr} :
    Expression mode tokens expr → Within within tokens → expr.Placed within
  | .conditional _ _ tested _ body other, all => by
    simp only [within_cons, within_append] at all
    rw [Expr.Placed]
    exact ⟨tested.placed all.2.2.1, body.placed all.2.2.2.2.1, other.placed all.2.2.2.2.2⟩
  | .operation only, all => only.placed all

theorem ElseBranch.placed {tokens : List Token} {branch : List Stmt} :
    ElseBranch mode tokens branch → Within within tokens → stmtsPlaced within branch
  | .none, _ => by
    rw [stmtsPlaced]
    exact trivial
  | .some _ body, all => body.placed (within_cons.mp all).2

theorem Assignment.placed {tokens : List Token} {expr : Expr} :
    Assignment mode tokens expr → Within within tokens → expr.Placed within
  | .assign _ _ assigned, all => by
    simp only [within_cons] at all
    rw [Expr.Placed]
    exact ⟨all.1, assigned.placed all.2.2⟩
  | .value only _, all => only.placed all

theorem Statement.placed {tokens : List Token} {stmt : Stmt} :
    Statement mode tokens stmt → Within within tokens → stmt.Placed within
  | .mutable _ _ _ _ _ _ initialized, all => by
    simp only [within_cons, within_append] at all
    rw [Stmt.Placed]
    exact ⟨all.2.1, initialized.placed all.2.2.2.2.2.2⟩
  | .typed _ _ _ _ _ initialized, all => by
    simp only [within_cons, within_append] at all
    rw [Stmt.Placed]
    exact ⟨all.1, initialized.placed all.2.2.2.2.2⟩
  | .inferred _ _ _ initialized, all => by
    simp only [within_cons, within_append] at all
    rw [Stmt.Placed]
    exact ⟨all.1, initialized.placed all.2.2.2⟩
  | .function _ _ _ _ _ _ _ _ _, _ => by
    rw [Stmt.Placed]
    exact trivial
  | .block _ braced, all => by
    rw [Stmt.Placed]
    exact braced.placed (within_cons.mp all).2
  | .expression only, all => by
    rw [Stmt.Placed]
    exact only.placed all

theorem Block.placed {tokens : List Token} {body : List Stmt} :
    Block mode tokens body → Within within tokens → stmtsPlaced within body
  | .braces _ held _, all => by
    simp only [within_cons, within_append] at all
    exact held.placed all.2.1

theorem Statements.placed {tokens : List Token} {stmts : List Stmt} :
    Statements mode tokens stmts → Within within tokens → stmtsPlaced within stmts
  | .none, _ => by
    rw [stmtsPlaced]
    exact trivial
  | .blank _ behind, all => behind.placed (within_cons.mp all).2
  | .last only, all => by
    rw [stmtsPlaced, stmtsPlaced]
    exact ⟨only.placed all, trivial⟩
  | .ended head _ behind, all => by
    simp only [within_cons, within_append] at all
    rw [stmtsPlaced]
    exact ⟨head.placed all.1, behind.placed all.2.2⟩
  | .skipped _ behind, all => behind.placed (within_append.mp all).2
  | .unended _ head behind, all => by
    simp only [within_append] at all
    rw [stmtsPlaced]
    exact ⟨head.placed all.1, behind.placed all.2⟩

end
end Script.Grammar
