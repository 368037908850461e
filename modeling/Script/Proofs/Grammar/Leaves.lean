import Mathlib.Data.List.Nodup
import Script.Proofs.Grammar.Soundness
import Script.Proofs.Tree.Leaves

set_option autoImplicit false

/- Trees are made of the tokens that spell them, in the order of the tokens. Where tokens are passed
over, less is kept of them, and never anything twice. -/
namespace Script.Grammar

open Token (Kind)

theorem TypeName.sublist {tokens : List Token} {name : Token} {optional : Bool}
    (phrase : TypeName tokens name optional) : [name].Sublist tokens := by
  cases phrase with
  | plain named => exact .refl _
  | optional named marked => exact List.singleton_sublist.mpr List.mem_cons_self

theorem TypePhrase.sublist {tokens : List Token} {type : TypeExpr}
    (phrase : TypePhrase tokens type) : type.tokens.Sublist tokens := by
  induction phrase with
  | named rest => exact rest.sublist
  | array opens closes rest => exact (rest.sublist.cons _).cons _
  | map opens keyed closes rest ih => exact (ih.append (rest.sublist.cons _)).cons _

theorem Separated.sublist {α : Type} {item : List Token → α → Prop} {kept : α → List Token}
    (each : ∀ {tokens : List Token} {value : α}, item tokens value → (kept value).Sublist tokens)
    {tokens : List Token} {values : List α} (phrase : Separated item tokens values) :
    (values.flatMap kept).Sublist tokens := by
  induction phrase with
  | one only =>
    rw [List.flatMap_singleton]
    exact each only
  | more head parts tail ih => exact (each head).append (ih.cons _)

theorem Specifiers.sublist {tokens : List Token} {types : List TypeExpr}
    (phrase : Specifiers tokens types) : (types.flatMap TypeExpr.tokens).Sublist tokens := by
  induction phrase with
  | none => exact .refl _
  | more opens listed closes behind ih =>
    rw [List.flatMap_append]
    exact ((listed.sublist fun item => item.sublist).append (ih.cons _)).cons _

theorem ParameterPhrase.sublist {tokens : List Token} {parameter : Parameter}
    (phrase : ParameterPhrase tokens parameter) : parameter.tokens.Sublist tokens := by
  cases phrase with
  | typed named sign annotated =>
    simp only [Parameter.tokens, Option.toList_some, List.flatMap_singleton]
    exact (annotated.sublist.cons _).cons_cons _

theorem Parameters.sublist {tokens : List Token} {parameters : List Parameter}
    (phrase : Parameters tokens parameters) :
    (parameters.flatMap Parameter.tokens).Sublist tokens := by
  cases phrase with
  | none => exact .refl _
  | some listed => exact listed.sublist fun item => item.sublist

/-- A type that a declaration gives. -/
theorem TypePhrase.given {tokens : List Token} {type : TypeExpr}
    (phrase : TypePhrase tokens type) :
    ((some type).toList.flatMap TypeExpr.tokens).Sublist tokens := by
  rw [Option.toList_some, List.flatMap_singleton]
  exact phrase.sublist

/-- A variable declaration keeps its head before what defines the variable. -/
theorem Specifiers.declares {specified tokens : List Token} {name : Token}
    {specifiers : List TypeExpr} {type : Option TypeExpr} {mutable : Bool} {initializer : Expr}
    (specifies : Specifiers specified specifiers)
    (defined : Gathered
      ((type.toList.flatMap TypeExpr.tokens).map .token ++ initializer.leaves) tokens) :
    Gathered (Stmt.variableDecl ⟨name, specifiers, type, mutable⟩ initializer).leaves
      (name :: (specified ++ tokens)) := by
  simp only [Stmt.leaves, VariableHead.tokens, List.map_cons, List.map_append, List.cons_append,
    List.append_assoc]
  exact .cons rfl ((Gathered.of_sublist specifies.sublist).append defined)

variable {mode : Mode}

mutual

theorem Primary.gathered {tokens : List Token} {expr : Expr} :
    Primary mode tokens expr → Gathered expr.leaves tokens
  | .trueWord spelled => by
    rw [Expr.leaves]
    exact .cons ⟨by simp [Token.denoted?, spelled], rfl⟩ .nil
  | .falseWord spelled => by
    rw [Expr.leaves]
    exact .cons ⟨by simp [Token.denoted?, spelled], rfl⟩ .nil
  | .literal sort carries => by
    rw [Expr.leaves]
    refine .cons ⟨?_, rfl⟩ .nil
    rcases sort with is | is | is <;> simp [Token.denoted?, is, carries]
  | .name _ => by
    rw [Expr.leaves]
    exact .cons rfl .nil
  | .grouping _ held _ => by
    rw [Expr.leaves]
    exact .cons_right (held.gathered.before _)

/-- What stands before the suffixes is kept before them. -/
theorem Suffixes.gathered {tokens : List Token} {expr result : Expr} :
    Suffixes mode expr tokens result → ∀ {before : List Token}, Gathered expr.leaves before →
      Gathered result.leaves (before ++ tokens)
  | .none, _, kept => by
    rw [List.append_nil]
    exact kept
  | .bare _ _ behind, _, kept => by
    rw [List.append_cons, List.append_cons]
    apply behind.gathered
    rw [Expr.leaves, exprsLeaves, List.append_nil]
    exact (kept.before _).before _
  | .call _ listed _ _ behind, _, kept => by
    rw [List.append_cons, ← List.append_assoc, List.append_cons]
    apply behind.gathered
    rw [Expr.leaves]
    exact ((kept.before _).append listed.gathered).before _
  | .member _ _ behind, _, kept => by
    rw [List.append_cons, List.append_cons]
    apply behind.gathered
    rw [Expr.leaves]
    exact (kept.before _).append (.cons rfl .nil)

theorem Arguments.gathered {tokens : List Token} {exprs : List Expr} :
    Arguments mode tokens exprs → Gathered (exprsLeaves exprs) tokens
  | .one only => by
    rw [exprsLeaves, exprsLeaves, List.append_nil]
    exact only.gathered
  | .more head _ tail => by
    rw [exprsLeaves]
    exact head.gathered.append (.cons_right tail.gathered)

theorem Unary.gathered {tokens : List Token} {expr : Expr} :
    Unary mode tokens expr → Gathered expr.leaves tokens
  | .sign _ signed => by
    rw [Expr.leaves]
    exact .cons rfl signed.gathered
  | .call head behind => behind.gathered head.gathered

theorem Operation.gathered {levels : List (List Kind)} {tokens : List Token} {expr : Expr} :
    Operation mode levels tokens expr → Gathered expr.leaves tokens
  | .tightest only => only.gathered
  | .level head behind => behind.gathered head.gathered

theorem Chain.gathered {operators : List Kind} {tighter : List (List Kind)} {tokens : List Token}
    {expr result : Expr} : Chain mode operators tighter expr tokens result →
      ∀ {before : List Token}, Gathered expr.leaves before →
        Gathered result.leaves (before ++ tokens)
  | .none, _, kept => by
    rw [List.append_nil]
    exact kept
  | .more _ operand behind, _, kept => by
    rw [← List.cons_append, ← List.append_assoc]
    apply behind.gathered
    rw [Expr.leaves]
    exact kept.append (.cons rfl operand.gathered)

theorem Expression.gathered {tokens : List Token} {expr : Expr} :
    Expression mode tokens expr → Gathered expr.leaves tokens
  | .conditional _ _ tested _ body other => by
    rw [Expr.leaves]
    have branches := body.gathered.append other.gathered
    exact .cons_right (.cons_right (tested.gathered.append (.cons_right branches)))
  | .operation only => only.gathered

theorem ElseBranch.gathered {tokens : List Token} {branch : List Stmt} :
    ElseBranch mode tokens branch → Gathered (stmtsLeaves branch) tokens
  | .none => by
    rw [stmtsLeaves]
    exact .nil
  | .some _ body => .cons_right body.gathered

theorem Assignment.gathered {tokens : List Token} {expr : Expr} :
    Assignment mode tokens expr → Gathered expr.leaves tokens
  | .assign _ _ assigned => by
    rw [Expr.leaves]
    exact .cons rfl (.cons_right assigned.gathered)
  | .value only _ => only.gathered

theorem Statement.gathered {tokens : List Token} {stmt : Stmt} :
    Statement mode tokens stmt → Gathered stmt.leaves tokens
  | .mutable _ _ specifies _ annotated _ initialized => by
    apply List.SublistForall₂.cons_right
    apply specifies.declares
    apply List.SublistForall₂.cons_right
    exact (Gathered.of_sublist annotated.given).append (.cons_right initialized.gathered)
  | .typed _ specifies _ annotated _ initialized => by
    apply specifies.declares
    apply List.SublistForall₂.cons_right
    exact (Gathered.of_sublist annotated.given).append (.cons_right initialized.gathered)
  | .inferred _ specifies _ initialized => by
    apply specifies.declares
    exact .cons_right initialized.gathered
  | .function _ specifies _ takes _ affects _ annotated bodied => by
    rw [Stmt.functionDecl_leaves, Signature.tokens]
    simp only [List.map_cons, List.map_append, List.cons_append, List.append_assoc]
    refine .cons rfl ((Gathered.of_sublist specifies.sublist).append (.cons_right ?_))
    refine (Gathered.of_sublist takes.sublist).append (.cons_right ?_)
    refine (Gathered.of_sublist affects.sublist).append (.cons_right ?_)
    exact (Gathered.of_sublist annotated.sublist).append bodied.gathered
  | .block _ braced => by
    rw [Stmt.leaves]
    exact .cons_right braced.gathered
  | .expression only => by
    rw [Stmt.leaves]
    exact only.gathered

theorem FunctionBody.gathered {tokens : List Token} {body : Option (List Stmt)} :
    FunctionBody mode tokens body → Gathered (stmtsLeaves (body.getD [])) tokens
  | .none => by
    rw [Option.getD_none, stmtsLeaves]
    exact .nil
  | .some _ braced => .cons_right braced.gathered

theorem Block.gathered {tokens : List Token} {body : List Stmt} :
    Block mode tokens body → Gathered (stmtsLeaves body) tokens
  | .braces _ held _ => .cons_right (held.gathered.before _)

theorem Statements.gathered {tokens : List Token} {stmts : List Stmt} :
    Statements mode tokens stmts → Gathered (stmtsLeaves stmts) tokens
  | .none => by
    rw [stmtsLeaves]
    exact .nil
  | .blank _ behind => .cons_right behind.gathered
  | .last only => by
    rw [stmtsLeaves, stmtsLeaves, List.append_nil]
    exact only.gathered
  | .ended head _ behind => by
    rw [stmtsLeaves]
    exact head.gathered.append (.cons_right behind.gathered)
  | .skipped _ behind => behind.gathered.behind _
  | .unended _ head behind => by
    rw [stmtsLeaves]
    exact head.gathered.append behind.gathered

end
end Script.Grammar

namespace Script.Parser

/-- Every leaf of what is read is kept of one of the tokens. -/
theorem exists_source (tokens : List Token) {leaf : Leaf}
    (inside : leaf ∈ stmtsLeaves (parse tokens).statements) :
    ∃ token ∈ tokens, leaf.KeptOf token := by
  obtain ⟨token, held, kept⟩ := (parse_lenient tokens).gathered.source inside
  exact ⟨token, (List.takeWhile_sublist _).mem held, kept⟩

/-- Whatever the tokens are, the statements read from them are made of their tokens in their order:
every statement of a part of its own, and the parts one behind the other are a subsequence of the
tokens. Where no token stands twice, so no token is in two statements or twice in one. -/
theorem parse_keeps_order (tokens : List Token) :
    ∃ parts : List (List Token),
      List.Forall₂ (fun stmt part => List.Forall₂ Leaf.KeptOf stmt.leaves part)
        (parse tokens).statements parts ∧
      parts.flatten.Sublist tokens ∧
      (tokens.Nodup → parts.Pairwise List.Disjoint ∧ ∀ part ∈ parts, part.Nodup) := by
  obtain ⟨stop, trace, ran, -⟩ := run_parse tokens
  have read : Grammar.Statements .lenient (Tape.ofTokens tokens).ahead _ :=
    statementList_sound rfl ⟨trace, ran, .inl trivial⟩
  obtain ⟨parts, within, each⟩ := read.gathered.parts
  have whole : parts.flatten.Sublist tokens := within.trans (List.takeWhile_sublist _)
  refine ⟨parts, each, whole, fun distinct => ?_⟩
  obtain ⟨single, apart⟩ := List.nodup_flatten.mp (whole.nodup distinct)
  exact ⟨apart, single⟩

end Script.Parser
