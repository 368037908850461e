import Script.Proofs.Grammar
import Script.Proofs.Tree.Leaves

set_option autoImplicit false

/- Trees keep words only: names, operators and literals. Line breaks end statements and are kept in
none. -/
namespace Script

/-- A leaf that is not kept of a line break. -/
def Leaf.IsWord : Leaf → Prop
  | token kept => kept.kind ≠ .newline
  | literal _ _ => True

namespace Grammar

open Token (Kind)

theorem TypeName.identifier {tokens : List Token} {name : Token} {optional : Bool}
    (phrase : TypeName tokens name optional) : name.kind = .identifier := by
  cases phrase with
  | plain named => exact named
  | optional named marked => exact named

theorem TypePhrase.identifiers {tokens : List Token} {type : TypeExpr}
    (phrase : TypePhrase tokens type) : ∀ token ∈ type.tokens, token.kind = .identifier := by
  induction phrase with
  | named rest | array opens closes rest => exact List.forall_mem_singleton.mpr rest.identifier
  | map opens keyed closes rest ih =>
    rw [TypeExpr.tokens, List.forall_mem_append]
    exact ⟨ih, List.forall_mem_singleton.mpr rest.identifier⟩

theorem Separated.identifiers {α : Type} {item : List Token → α → Prop} {kept : α → List Token}
    (each : ∀ {tokens : List Token} {value : α}, item tokens value →
      ∀ token ∈ kept value, token.kind = .identifier)
    {tokens : List Token} {values : List α} (phrase : Separated item tokens values) :
    ∀ token ∈ values.flatMap kept, token.kind = .identifier := by
  induction phrase with
  | one only =>
    rw [List.flatMap_singleton]
    exact each only
  | more head parts tail ih =>
    rw [List.flatMap_cons, List.forall_mem_append]
    exact ⟨each head, ih⟩

theorem Specifiers.identifiers {tokens : List Token} {types : List TypeExpr}
    (phrase : Specifiers tokens types) :
    ∀ token ∈ types.flatMap TypeExpr.tokens, token.kind = .identifier := by
  induction phrase with
  | none => exact List.forall_mem_nil _
  | more opens listed closes behind ih =>
    rw [List.flatMap_append, List.forall_mem_append]
    exact ⟨listed.identifiers fun item => item.identifiers, ih⟩

theorem ParameterPhrase.identifiers {tokens : List Token} {parameter : Parameter}
    (phrase : ParameterPhrase tokens parameter) :
    ∀ token ∈ parameter.tokens, token.kind = .identifier := by
  cases phrase with
  | typed named sign annotated =>
    simp only [Parameter.tokens, Option.toList_some, List.flatMap_singleton, List.forall_mem_cons]
    exact ⟨named, annotated.identifiers⟩

theorem Parameters.identifiers {tokens : List Token} {parameters : List Parameter}
    (phrase : Parameters tokens parameters) :
    ∀ token ∈ parameters.flatMap Parameter.tokens, token.kind = .identifier := by
  cases phrase with
  | none => exact List.forall_mem_nil _
  | some listed => exact listed.identifiers fun item => item.identifiers

/-- Names are words. -/
theorem isWord_of_identifiers {tokens : List Token}
    (named : ∀ token ∈ tokens, token.kind = .identifier) :
    ∀ leaf ∈ tokens.map Leaf.token, leaf.IsWord := by
  simp only [List.forall_mem_map]
  intro token held
  rw [Leaf.IsWord, named token held]
  nofun

/-- The head of a variable declaration is made of names. -/
theorem Specifiers.head_words {specified : List Token} {specifiers : List TypeExpr}
    (specifies : Specifiers specified specifiers) {name : Token} (named : name.kind = .identifier)
    {type : Option TypeExpr}
    (typed : ∀ token ∈ type.toList.flatMap TypeExpr.tokens, token.kind = .identifier)
    (mutable : Bool) :
    ∀ leaf ∈ (VariableHead.mk name specifiers type mutable).tokens.map Leaf.token, leaf.IsWord := by
  apply isWord_of_identifiers
  simp only [VariableHead.tokens, List.forall_mem_cons, List.forall_mem_append]
  exact ⟨named, specifies.identifiers, typed⟩

variable {mode : Mode}

mutual

theorem Primary.words {tokens : List Token} {expr : Expr} :
    Primary mode tokens expr → ∀ leaf ∈ expr.leaves, leaf.IsWord
  | .trueWord _ | .falseWord _ | .literal _ _ => by
    rw [Expr.leaves, List.forall_mem_singleton]
    trivial
  | .name named => by
    rw [Expr.leaves]
    exact isWord_of_identifiers (List.forall_mem_singleton.mpr named)
  | .grouping _ held _ => by
    rw [Expr.leaves]
    exact held.words

theorem Suffixes.words {tokens : List Token} {expr result : Expr} :
    Suffixes mode expr tokens result → (∀ leaf ∈ expr.leaves, leaf.IsWord) →
      ∀ leaf ∈ result.leaves, leaf.IsWord
  | .none, before => before
  | .bare _ _ behind, before => by
    apply behind.words
    rw [Expr.leaves, exprsLeaves, List.append_nil]
    exact before
  | .call _ listed _ _ behind, before => by
    apply behind.words
    rw [Expr.leaves, List.forall_mem_append]
    exact ⟨before, listed.words⟩
  | .member _ named behind, before => by
    apply behind.words
    rw [Expr.leaves, List.forall_mem_append]
    exact ⟨before, isWord_of_identifiers (List.forall_mem_singleton.mpr named)⟩

theorem Arguments.words {tokens : List Token} {exprs : List Expr} :
    Arguments mode tokens exprs → ∀ leaf ∈ exprsLeaves exprs, leaf.IsWord
  | .one only => by
    rw [exprsLeaves, exprsLeaves, List.append_nil]
    exact only.words
  | .more head _ tail => by
    rw [exprsLeaves, List.forall_mem_append]
    exact ⟨head.words, tail.words⟩

theorem Unary.words {tokens : List Token} {expr : Expr} :
    Unary mode tokens expr → ∀ leaf ∈ expr.leaves, leaf.IsWord
  | .sign signs signed => by
    rw [Expr.leaves, List.forall_mem_cons, Leaf.IsWord]
    refine ⟨fun breaks => ?_, signed.words⟩
    rw [breaks] at signs
    exact absurd signs (by decide)
  | .call head behind => behind.words head.words

theorem Operation.words {operators : List (List Kind)} {tokens : List Token} {expr : Expr}
    (known : ∀ kind ∈ operators.flatten, kind ∈ levels.flatten) :
    Operation mode operators tokens expr → ∀ leaf ∈ expr.leaves, leaf.IsWord
  | .tightest only => only.words
  | .level head behind =>
    behind.words known (head.words fun kind member => known kind (List.mem_append_right _ member))

theorem Chain.words {operators : List Kind} {tighter : List (List Kind)} {tokens : List Token}
    {expr result : Expr}
    (known : ∀ kind ∈ (operators :: tighter).flatten, kind ∈ levels.flatten) :
    Chain mode operators tighter expr tokens result → (∀ leaf ∈ expr.leaves, leaf.IsWord) →
      ∀ leaf ∈ result.leaves, leaf.IsWord
  | .none, before => before
  | .more joins operand behind, before => by
    apply behind.words known
    rw [Expr.leaves, List.forall_mem_append, List.forall_mem_cons, Leaf.IsWord]
    refine ⟨before, fun breaks => ?_,
      operand.words fun kind member => known kind (List.mem_append_right _ member)⟩
    have listed := known _ (List.mem_append_left _ joins)
    rw [breaks] at listed
    exact absurd listed (by decide)

theorem Expression.words {tokens : List Token} {expr : Expr} :
    Expression mode tokens expr → ∀ leaf ∈ expr.leaves, leaf.IsWord
  | .conditional _ _ tested _ body other => by
    rw [Expr.leaves, List.forall_mem_append, List.forall_mem_append]
    exact ⟨tested.words, body.words, other.words⟩
  | .operation only => only.words fun _ member => member

theorem ElseBranch.words {tokens : List Token} {branch : List Stmt} :
    ElseBranch mode tokens branch → ∀ leaf ∈ stmtsLeaves branch, leaf.IsWord
  | .none => List.forall_mem_nil _
  | .some _ body => body.words

theorem Assignment.words {tokens : List Token} {expr : Expr} :
    Assignment mode tokens expr → ∀ leaf ∈ expr.leaves, leaf.IsWord
  | .assign named _ assigned => by
    rw [Expr.leaves, List.forall_mem_cons, Leaf.IsWord, named]
    exact ⟨nofun, assigned.words⟩
  | .value only _ => only.words

theorem Statement.words {tokens : List Token} {stmt : Stmt} :
    Statement mode tokens stmt → ∀ leaf ∈ stmt.leaves, leaf.IsWord
  | .mutable _ named specifies _ annotated _ initialized
  | .typed named specifies _ annotated _ initialized => by
    rw [Stmt.leaves, List.forall_mem_append]
    refine ⟨specifies.head_words named ?_ _, initialized.words⟩
    rw [Option.toList_some, List.flatMap_singleton]
    exact annotated.identifiers
  | .inferred named specifies _ initialized => by
    rw [Stmt.leaves, List.forall_mem_append]
    exact ⟨specifies.head_words named (List.forall_mem_nil _) _, initialized.words⟩
  | .function named specifies _ takes _ affects _ annotated bodied => by
    rw [Stmt.functionDecl_leaves, List.forall_mem_append]
    refine ⟨isWord_of_identifiers ?_, bodied.words⟩
    simp only [Signature.tokens, List.forall_mem_cons, List.forall_mem_append]
    exact ⟨named, specifies.identifiers, takes.identifiers, affects.identifiers,
      annotated.identifiers⟩
  | .block _ braced => by
    rw [Stmt.leaves]
    exact braced.words
  | .expression only => by
    rw [Stmt.leaves]
    exact only.words

theorem FunctionBody.words {tokens : List Token} {body : Option (List Stmt)} :
    FunctionBody mode tokens body → ∀ leaf ∈ stmtsLeaves (body.getD []), leaf.IsWord
  | .none => List.forall_mem_nil _
  | .some _ braced => braced.words

theorem Block.words {tokens : List Token} {body : List Stmt} :
    Block mode tokens body → ∀ leaf ∈ stmtsLeaves body, leaf.IsWord
  | .braces _ held _ => held.words

theorem Statements.words {tokens : List Token} {stmts : List Stmt} :
    Statements mode tokens stmts → ∀ leaf ∈ stmtsLeaves stmts, leaf.IsWord
  | .none => List.forall_mem_nil _
  | .blank _ behind | .skipped _ behind => behind.words
  | .last only => by
    rw [stmtsLeaves, stmtsLeaves, List.append_nil]
    exact only.words
  | .ended head _ behind | .unended _ head behind => by
    rw [stmtsLeaves, List.forall_mem_append]
    exact ⟨head.words, behind.words⟩

end

end Grammar
end Script
