import Script.Proofs.Grammar.Phrases

set_option autoImplicit false

/- Phrases of the grammar, as long as no token is passed over, hold no end of file. -/
namespace Script.Grammar

open Token (Kind)

def Opened (tokens : List Token) : Prop := ∀ token ∈ tokens, token.kind ≠ .endOfFile

namespace Opened

variable {token : Token} {tokens rest : List Token}

theorem nil : Opened [] := nofun

theorem cons (opened : token.kind ≠ .endOfFile) (behind : Opened tokens) :
    Opened (token :: tokens) :=
  List.forall_mem_cons.mpr ⟨opened, behind⟩

theorem append (first : Opened tokens) (second : Opened rest) : Opened (tokens ++ rest) :=
  List.forall_mem_append.mpr ⟨first, second⟩

/-- What stands in the head of a declaration. -/
theorem of_head (kinds : ∀ {token : Token}, token ∈ tokens → token.kind ∈ headKinds) :
    Opened tokens := by
  intro token member ended
  have inside := kinds member
  rw [ended] at inside
  revert inside
  decide

end Opened

theorem TypePhrase.opened {tokens : List Token} {type : TypeExpr}
    (phrase : TypePhrase tokens type) : Opened tokens :=
  .of_head phrase.kinds

theorem Specifiers.opened {tokens : List Token} {types : List TypeExpr}
    (phrase : Specifiers tokens types) : Opened tokens :=
  .of_head phrase.kinds

theorem Parameters.opened {tokens : List Token} {parameters : List Parameter}
    (phrase : Parameters tokens parameters) : Opened tokens :=
  .of_head phrase.kinds

mutual

theorem Primary.opened {tokens : List Token} {expr : Expr} :
    Primary .preferred tokens expr → Opened tokens
  | .trueWord spelled => .cons (by simp [spelled]) .nil
  | .falseWord spelled => .cons (by simp [spelled]) .nil
  | .literal sort _ => .cons (by rcases sort with is | is | is <;> simp [is]) .nil
  | .name named => .cons (by simp [named]) .nil
  | .grouping opens held closes =>
    .cons (by simp [opens]) (held.opened.append (.cons (by simp [closes]) .nil))

theorem Suffixes.opened {tokens : List Token} {expr result : Expr} :
    Suffixes .preferred expr tokens result → Opened tokens
  | .none => .nil
  | .bare opens closes behind =>
    .cons (by simp [opens]) (.cons (by simp [closes]) behind.opened)
  | .call opens listed _ closes behind =>
    .cons (by simp [opens]) (listed.opened.append (.cons (by simp [closes]) behind.opened))
  | .member sign named behind =>
    .cons (by simp [sign]) (.cons (by simp [named]) behind.opened)

theorem Arguments.opened {tokens : List Token} {exprs : List Expr} :
    Arguments .preferred tokens exprs → Opened tokens
  | .one only => only.opened
  | .more head parts tail => head.opened.append (.cons (by simp [parts]) tail.opened)

theorem Unary.opened {tokens : List Token} {expr : Expr} :
    Unary .preferred tokens expr → Opened tokens
  | .sign signs signed => .cons (fun ended => by simp [ended] at signs) signed.opened
  | .call head behind => head.opened.append behind.opened

theorem Operation.opened {levels : List (List Kind)} {tokens : List Token} {expr : Expr} :
    Operation .preferred levels tokens expr → (∀ level ∈ levels, Kind.endOfFile ∉ level) →
      Opened tokens
  | .tightest only, _ => only.opened
  | .level head behind, signs =>
    (head.opened (List.forall_mem_cons.mp signs).2).append (behind.opened signs)

theorem Chain.opened {operators : List Kind} {tighter : List (List Kind)} {tokens : List Token}
    {expr result : Expr} : Chain .preferred operators tighter expr tokens result →
      (∀ level ∈ operators :: tighter, Kind.endOfFile ∉ level) → Opened tokens
  | .none, _ => .nil
  | .more joins operand behind, signs =>
    have ⟨sign, tighter⟩ := List.forall_mem_cons.mp signs
    .cons (fun ended => sign (ended ▸ joins))
      ((operand.opened tighter).append (behind.opened signs))

theorem Expression.opened {tokens : List Token} {expr : Expr} :
    Expression .preferred tokens expr → Opened tokens
  | .conditional begins opens tested closes body other =>
    .cons (by simp [begins]) (.cons (by simp [opens]) (tested.opened.append
      (.cons (by simp [closes]) (body.opened.append other.opened))))
  | .operation only => only.opened (by decide)

theorem ElseBranch.opened {tokens : List Token} {branch : List Stmt} :
    ElseBranch .preferred tokens branch → Opened tokens
  | .none => .nil
  | .some begins body => .cons (by simp [begins]) body.opened

theorem Assignment.opened {tokens : List Token} {expr : Expr} :
    Assignment .preferred tokens expr → Opened tokens
  | .assign named assigns assigned =>
    .cons (by simp [named]) (.cons (by simp [assigns]) assigned.opened)
  | .value only _ => only.opened

theorem Statement.opened {tokens : List Token} {stmt : Stmt} :
    Statement .preferred tokens stmt → Opened tokens
  | .mutable begins named specifies parts annotated defines initialized =>
    .cons (by simp [begins]) (.cons (by simp [named]) (specifies.opened.append
      (.cons (by simp [parts]) (annotated.opened.append
        (.cons (by simp [defines]) initialized.opened)))))
  | .typed named specifies parts annotated defines initialized =>
    .cons (by simp [named]) (specifies.opened.append (.cons (by simp [parts])
      (annotated.opened.append (.cons (by simp [defines]) initialized.opened))))
  | .inferred named specifies defines initialized =>
    .cons (by simp [named]) (specifies.opened.append
      (.cons (by simp [defines]) initialized.opened))
  | .function named specifies opens takes closes affects parts annotated bodied =>
    .cons (by simp [named]) (specifies.opened.append (.cons (by simp [opens])
      (takes.opened.append (.cons (by simp [closes]) (affects.opened.append
        (.cons (by simp [parts]) (annotated.opened.append bodied.opened)))))))
  | .block begins braced => .cons (by simp [begins]) braced.opened
  | .expression only => only.opened

theorem FunctionBody.opened {tokens : List Token} {body : Option (List Stmt)} :
    FunctionBody .preferred tokens body → Opened tokens
  | .none => .nil
  | .some defines braced => .cons (by simp [defines]) braced.opened

theorem Block.opened {tokens : List Token} {body : List Stmt} :
    Block .preferred tokens body → Opened tokens
  | .braces opens held closes =>
    .cons (by simp [opens]) (held.opened.append (.cons (by simp [closes]) .nil))

theorem Statements.opened {tokens : List Token} {stmts : List Stmt} :
    Statements .preferred tokens stmts → Opened tokens
  | .none => .nil
  | .blank breaks behind => .cons (by simp [breaks]) behind.opened
  | .last only => only.opened
  | .ended head ends behind =>
    head.opened.append (.cons (fun ended => by simp [ended] at ends) behind.opened)
  | .skipped allowed _ => allowed.elim
  | .unended allowed _ _ => allowed.elim

end
end Script.Grammar
