import Script.Proofs.Tree.Erasure
import Script.Proofs.Tree.Leaves

set_option autoImplicit false

/- Trees whose tokens and literals stand elsewhere. A place goes where a given function leads; a
tree does not change if the places of its leaves stay. -/
namespace Script

section Moving

variable (shift : Position → Position)

def Token.moved (token : Token) : Token := { token with position := shift token.position }

def TypeExpr.moved : TypeExpr → TypeExpr
  | named name optional => named (name.moved shift) optional
  | array name optional => array (name.moved shift) optional
  | map key name optional => map key.moved (name.moved shift) optional

def Parameter.moved (parameter : Parameter) : Parameter :=
  ⟨parameter.name.moved shift, parameter.type.map (TypeExpr.moved shift)⟩

def Signature.moved (signature : Signature) : Signature where
  name := signature.name.moved shift
  specifiers := signature.specifiers.map (TypeExpr.moved shift)
  parameters := signature.parameters.map (Parameter.moved shift)
  effects := signature.effects.map (TypeExpr.moved shift)
  returns := signature.returns.moved shift

def VariableHead.moved (head : VariableHead) : VariableHead where
  name := head.name.moved shift
  specifiers := head.specifiers.map (TypeExpr.moved shift)
  type := head.type.map (TypeExpr.moved shift)
  mutable := head.mutable

mutual

/-- An expression whose tokens and literals are in other places. -/
def Expr.moved : Expr → Expr
  | .conditional condition thenBranch elseBranch =>
      .conditional condition.moved (stmtsMoved thenBranch) (stmtsMoved elseBranch)
  | .assign target value => .assign (target.moved shift) value.moved
  | .binary left operator right => .binary left.moved (operator.moved shift) right.moved
  | .unary operator operand => .unary (operator.moved shift) operand.moved
  | .grouping inner => .grouping inner.moved
  | .literal value position => .literal value (shift position)
  | .name token => .name (token.moved shift)
  | .call callee arguments => .call callee.moved (exprsMoved arguments)
  | .member target member => .member target.moved (member.moved shift)

def Stmt.moved : Stmt → Stmt
  | .functionDecl signature none => .functionDecl (signature.moved shift) none
  | .functionDecl signature (some body) =>
      .functionDecl (signature.moved shift) (some (stmtsMoved body))
  | .variableDecl head initializer => .variableDecl (head.moved shift) initializer.moved
  | .block body => .block (stmtsMoved body)
  | .expression expr => .expression expr.moved

def stmtsMoved : List Stmt → List Stmt
  | [] => []
  | stmt :: rest => stmt.moved :: stmtsMoved rest

def exprsMoved : List Expr → List Expr
  | [] => []
  | expr :: rest => expr.moved :: exprsMoved rest

end

end Moving

section Nowhere

/-- Nothing is in a place where every place leads out of the text. -/
theorem TypeExpr.moved_null (type : TypeExpr) : type.moved (fun _ => .null) = type.unplaced := by
  induction type with
  | named | array => rfl
  | map key name optional ih => rw [moved, ih, unplaced]; rfl

theorem typesMoved_null : TypeExpr.moved (fun _ => .null) = TypeExpr.unplaced :=
  funext TypeExpr.moved_null

theorem Parameter.moved_null : Parameter.moved (fun _ => .null) = Parameter.unplaced := by
  funext parameter
  rw [moved, typesMoved_null]
  rfl

theorem Signature.moved_null (signature : Signature) :
    signature.moved (fun _ => .null) = signature.unplaced := by
  rw [moved, typesMoved_null, Parameter.moved_null]
  rfl

theorem VariableHead.moved_null (head : VariableHead) :
    head.moved (fun _ => .null) = head.unplaced := by
  rw [moved, typesMoved_null]
  rfl

mutual

theorem Expr.moved_null : ∀ expr : Expr, expr.moved (fun _ => .null) = expr.unplaced
  | .conditional condition thenBranch elseBranch => by
    rw [Expr.moved, Expr.unplaced, condition.moved_null, stmtsMoved_null thenBranch,
      stmtsMoved_null elseBranch]
  | .assign target value => by
    rw [Expr.moved, Expr.unplaced, value.moved_null]
    rfl
  | .binary left operator right => by
    rw [Expr.moved, Expr.unplaced, left.moved_null, right.moved_null]
    rfl
  | .unary operator operand => by
    rw [Expr.moved, Expr.unplaced, operand.moved_null]
    rfl
  | .grouping inner => by rw [Expr.moved, Expr.unplaced, inner.moved_null]
  | .literal value position => by rw [Expr.moved, Expr.unplaced]
  | .name token => by
    rw [Expr.moved, Expr.unplaced]
    rfl
  | .call callee arguments => by
    rw [Expr.moved, Expr.unplaced, callee.moved_null, exprsMoved_null arguments]
  | .member target member => by
    rw [Expr.moved, Expr.unplaced, target.moved_null]
    rfl

theorem Stmt.moved_null : ∀ stmt : Stmt, stmt.moved (fun _ => .null) = stmt.unplaced
  | .functionDecl signature none => by
    rw [Stmt.moved, Stmt.unplaced, signature.moved_null]
  | .functionDecl signature (some body) => by
    rw [Stmt.moved, Stmt.unplaced, signature.moved_null, stmtsMoved_null body]
  | .variableDecl head initializer => by
    rw [Stmt.moved, Stmt.unplaced, head.moved_null, initializer.moved_null]
  | .block body => by rw [Stmt.moved, Stmt.unplaced, stmtsMoved_null body]
  | .expression expr => by rw [Stmt.moved, Stmt.unplaced, expr.moved_null]

theorem stmtsMoved_null : ∀ stmts : List Stmt,
    stmtsMoved (fun _ => .null) stmts = stmtsUnplaced stmts
  | [] => by rw [stmtsMoved, stmtsUnplaced]
  | stmt :: rest => by rw [stmtsMoved, stmtsUnplaced, stmt.moved_null, stmtsMoved_null rest]

theorem exprsMoved_null : ∀ exprs : List Expr,
    exprsMoved (fun _ => .null) exprs = exprsUnplaced exprs
  | [] => by rw [exprsMoved, exprsUnplaced]
  | expr :: rest => by rw [exprsMoved, exprsUnplaced, expr.moved_null, exprsMoved_null rest]

end

end Nowhere

section Staying

def Token.Stays (shift : Position → Position) (token : Token) : Prop :=
  shift token.position = token.position

def Leaf.Stays (shift : Position → Position) : Leaf → Prop
  | token kept => kept.Stays shift
  | literal _ position => shift position = position

variable {shift : Position → Position}

theorem Token.Stays.moved {token : Token} (stays : token.Stays shift) :
    token.moved shift = token := by
  rw [Token.moved, stays]

theorem TypeExpr.moved_of_stays {type : TypeExpr}
    (stay : ∀ token ∈ type.tokens, token.Stays shift) : type.moved shift = type := by
  induction type with
  | named name | array name => rw [moved, (stay name List.mem_cons_self).moved]
  | map key name optional ih =>
    simp only [tokens, List.forall_mem_append] at stay
    rw [moved, ih stay.1, (stay.2 name List.mem_cons_self).moved]

/-- Nothing changes in a list if nothing changes in its items. -/
theorem map_of_stays {α : Type} {tokens : α → List Token} {move : α → α}
    (each : ∀ value, (∀ token ∈ tokens value, token.Stays shift) → move value = value)
    {values : List α} (stay : ∀ token ∈ values.flatMap tokens, token.Stays shift) :
    values.map move = values := by
  refine (List.map_congr_left fun value member => each value fun token held => ?_).trans
    (List.map_id' values)
  exact stay token (List.mem_flatMap.mpr ⟨value, member, held⟩)

theorem annotation_of_stays {type : Option TypeExpr}
    (stay : ∀ token ∈ type.toList.flatMap TypeExpr.tokens, token.Stays shift) :
    type.map (TypeExpr.moved shift) = type := by
  cases type with
  | none => rfl
  | some type =>
    rw [Option.toList_some, List.flatMap_singleton] at stay
    rw [Option.map_some, TypeExpr.moved_of_stays stay]

theorem Parameter.moved_of_stays {parameter : Parameter}
    (stay : ∀ token ∈ parameter.tokens, token.Stays shift) :
    parameter.moved shift = parameter := by
  obtain ⟨named, typed⟩ := List.forall_mem_cons.mp stay
  rw [moved, named.moved, annotation_of_stays typed]

theorem Signature.moved_of_stays {signature : Signature}
    (stay : ∀ token ∈ signature.tokens, token.Stays shift) :
    signature.moved shift = signature := by
  simp only [tokens, List.forall_mem_cons, List.forall_mem_append] at stay
  obtain ⟨named, specified, taken, affected, returned⟩ := stay
  rw [moved, Token.Stays.moved named, map_of_stays (fun _ => TypeExpr.moved_of_stays) specified,
    map_of_stays (fun _ => Parameter.moved_of_stays) taken,
    map_of_stays (fun _ => TypeExpr.moved_of_stays) affected, TypeExpr.moved_of_stays returned]

theorem VariableHead.moved_of_stays {head : VariableHead}
    (stay : ∀ token ∈ head.tokens, token.Stays shift) : head.moved shift = head := by
  simp only [tokens, List.forall_mem_cons, List.forall_mem_append] at stay
  obtain ⟨named, specified, typed⟩ := stay
  rw [moved, Token.Stays.moved named, map_of_stays (fun _ => TypeExpr.moved_of_stays) specified,
    annotation_of_stays typed]

mutual

/-- A tree whose leaves stay does not change. -/
theorem Expr.moved_of_stays : ∀ expr : Expr, (∀ leaf ∈ expr.leaves, leaf.Stays shift) →
    expr.moved shift = expr
  | .conditional condition thenBranch elseBranch, stay => by
    simp only [Expr.leaves, List.forall_mem_append] at stay
    rw [Expr.moved, condition.moved_of_stays stay.1, stmtsMoved_of_stays thenBranch stay.2.1,
      stmtsMoved_of_stays elseBranch stay.2.2]
  | .assign target value, stay => by
    simp only [Expr.leaves, List.forall_mem_cons] at stay
    rw [Expr.moved, Token.Stays.moved stay.1, value.moved_of_stays stay.2]
  | .binary left operator right, stay => by
    simp only [Expr.leaves, List.forall_mem_append, List.forall_mem_cons] at stay
    rw [Expr.moved, left.moved_of_stays stay.1, Token.Stays.moved stay.2.1,
      right.moved_of_stays stay.2.2]
  | .unary operator operand, stay => by
    simp only [Expr.leaves, List.forall_mem_cons] at stay
    rw [Expr.moved, Token.Stays.moved stay.1, operand.moved_of_stays stay.2]
  | .grouping inner, stay => by
    rw [Expr.leaves] at stay
    rw [Expr.moved, inner.moved_of_stays stay]
  | .literal value position, stay => by
    rw [Expr.leaves] at stay
    have fixed : shift position = position := stay _ List.mem_cons_self
    rw [Expr.moved, fixed]
  | .name token, stay => by
    rw [Expr.leaves] at stay
    rw [Expr.moved, Token.Stays.moved (stay _ List.mem_cons_self)]
  | .call callee arguments, stay => by
    simp only [Expr.leaves, List.forall_mem_append] at stay
    rw [Expr.moved, callee.moved_of_stays stay.1, exprsMoved_of_stays arguments stay.2]
  | .member target member, stay => by
    simp only [Expr.leaves, List.forall_mem_append, List.forall_mem_singleton] at stay
    rw [Expr.moved, target.moved_of_stays stay.1, Token.Stays.moved stay.2]

theorem Stmt.moved_of_stays : ∀ stmt : Stmt, (∀ leaf ∈ stmt.leaves, leaf.Stays shift) →
    stmt.moved shift = stmt
  | .functionDecl signature none, stay => by
    simp only [Stmt.leaves, List.forall_mem_map] at stay
    rw [Stmt.moved, Signature.moved_of_stays stay]
  | .functionDecl signature (some body), stay => by
    simp only [Stmt.leaves, List.forall_mem_append, List.forall_mem_map] at stay
    rw [Stmt.moved, Signature.moved_of_stays stay.1, stmtsMoved_of_stays body stay.2]
  | .variableDecl head initializer, stay => by
    simp only [Stmt.leaves, List.forall_mem_append, List.forall_mem_map] at stay
    rw [Stmt.moved, VariableHead.moved_of_stays stay.1, initializer.moved_of_stays stay.2]
  | .block body, stay => by
    rw [Stmt.leaves] at stay
    rw [Stmt.moved, stmtsMoved_of_stays body stay]
  | .expression expr, stay => by
    rw [Stmt.leaves] at stay
    rw [Stmt.moved, expr.moved_of_stays stay]

theorem stmtsMoved_of_stays : ∀ stmts : List Stmt, (∀ leaf ∈ stmtsLeaves stmts, leaf.Stays shift) →
    stmtsMoved shift stmts = stmts
  | [], _ => by rw [stmtsMoved]
  | stmt :: rest, stay => by
    simp only [stmtsLeaves, List.forall_mem_append] at stay
    rw [stmtsMoved, stmt.moved_of_stays stay.1, stmtsMoved_of_stays rest stay.2]

theorem exprsMoved_of_stays : ∀ exprs : List Expr, (∀ leaf ∈ exprsLeaves exprs, leaf.Stays shift) →
    exprsMoved shift exprs = exprs
  | [], _ => by rw [exprsMoved]
  | expr :: rest, stay => by
    simp only [exprsLeaves, List.forall_mem_append] at stay
    rw [exprsMoved, expr.moved_of_stays stay.1, exprsMoved_of_stays rest stay.2]

end

end Staying

end Script
