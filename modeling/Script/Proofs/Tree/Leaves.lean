import Mathlib.Data.List.Forall2
import Script.Tree

set_option autoImplicit false

/- What a tree keeps of the tokens it was read from, in the order in which it was read. -/
namespace Script

/-- What is kept of one token: the token itself, or of a literal its value and its place. -/
inductive Leaf where
  | token (token : Token)
  | literal (value : Value) (position : Position)

/-- The value that a token stands for where an expression is read. -/
def Token.denoted? (token : Token) : Option Value :=
  match token.kind with
  | .keyword .trueWord => some (.bool true)
  | .keyword .falseWord => some (.bool false)
  | .int | .float | .string => token.literal
  | _ => none

/-- The token of which a leaf was kept. -/
def Leaf.KeptOf : Leaf → Token → Prop
  | .token kept, source => kept = source
  | .literal value position, source =>
      source.denoted? = some value ∧ source.position = position

/-- The tokens of a type, that of a key before the name. -/
def TypeExpr.tokens : TypeExpr → List Token
  | named name _ | array name _ => [name]
  | map key name _ => key.tokens ++ [name]

def Parameter.tokens (parameter : Parameter) : List Token :=
  parameter.name :: parameter.type.toList.flatMap TypeExpr.tokens

def Signature.tokens (signature : Signature) : List Token :=
  signature.name :: (signature.specifiers.flatMap TypeExpr.tokens ++
    (signature.parameters.flatMap Parameter.tokens ++
      (signature.effects.flatMap TypeExpr.tokens ++ signature.returns.tokens)))

def VariableHead.tokens (head : VariableHead) : List Token :=
  head.name :: (head.specifiers.flatMap TypeExpr.tokens ++
    head.type.toList.flatMap TypeExpr.tokens)

mutual

/-- The leaves of an expression; an operator stands between its operands. -/
def Expr.leaves : Expr → List Leaf
  | .conditional condition thenBranch elseBranch =>
      condition.leaves ++ (stmtsLeaves thenBranch ++ stmtsLeaves elseBranch)
  | .assign target value => .token target :: value.leaves
  | .binary left operator right => left.leaves ++ .token operator :: right.leaves
  | .unary operator operand => .token operator :: operand.leaves
  | .grouping inner => inner.leaves
  | .literal value position => [.literal value position]
  | .name token => [.token token]
  | .call callee arguments => callee.leaves ++ exprsLeaves arguments
  | .member target member => target.leaves ++ [.token member]

/-- The leaves of a statement; what a declaration says of a name stands behind the name. -/
def Stmt.leaves : Stmt → List Leaf
  | .functionDecl signature none => signature.tokens.map .token
  | .functionDecl signature (some body) => signature.tokens.map .token ++ stmtsLeaves body
  | .variableDecl head initializer => head.tokens.map .token ++ initializer.leaves
  | .block body => stmtsLeaves body
  | .expression expr => expr.leaves

def stmtsLeaves : List Stmt → List Leaf
  | [] => []
  | stmt :: rest => stmt.leaves ++ stmtsLeaves rest

def exprsLeaves : List Expr → List Leaf
  | [] => []
  | expr :: rest => expr.leaves ++ exprsLeaves rest

end

/-- A function without a body keeps what one with an empty body does. -/
theorem Stmt.functionDecl_leaves (signature : Signature) (body : Option (List Stmt)) :
    (Stmt.functionDecl signature body).leaves =
      signature.tokens.map .token ++ stmtsLeaves (body.getD []) := by
  cases body with
  | none => rw [Stmt.leaves, Option.getD_none, stmtsLeaves, List.append_nil]
  | some body => rw [Stmt.leaves, Option.getD_some]

/-- Leaves kept of tokens in the order of the tokens, each of another one. -/
abbrev Gathered (leaves : List Leaf) (tokens : List Token) : Prop :=
  List.SublistForall₂ Leaf.KeptOf leaves tokens

namespace Gathered

variable {leaves more : List Leaf} {tokens others : List Token}

theorem append (first : Gathered leaves tokens) (second : Gathered more others) :
    Gathered (leaves ++ more) (tokens ++ others) := by
  obtain ⟨read, kept, within⟩ := List.sublistForall₂_iff.mp first
  obtain ⟨read', kept', within'⟩ := List.sublistForall₂_iff.mp second
  exact List.sublistForall₂_iff.mpr
    ⟨read ++ read', List.rel_append kept kept', within.append within'⟩

/-- Tokens that nothing is kept of. -/
theorem behind (passed : List Token) (gathered : Gathered leaves tokens) :
    Gathered leaves (passed ++ tokens) := append .nil gathered

theorem before (gathered : Gathered leaves tokens) (passed : List Token) :
    Gathered leaves (tokens ++ passed) := by
  have whole := gathered.append (.nil : Gathered [] passed)
  rwa [List.append_nil] at whole

/-- Tokens that are kept whole. -/
theorem of_sublist {read : List Token} (within : read.Sublist tokens) :
    Gathered (read.map .token) tokens := by
  refine List.sublistForall₂_iff.mpr ⟨read, ?_, within⟩
  rw [List.forall₂_map_left_iff]
  exact List.forall₂_same.mpr fun _ _ => rfl

/-- Every leaf is kept of one of the tokens. -/
theorem source (gathered : Gathered leaves tokens) {leaf : Leaf} (member : leaf ∈ leaves) :
    ∃ token ∈ tokens, leaf.KeptOf token := by
  induction gathered with
  | nil => cases member
  | cons kept _ ih =>
    rcases List.mem_cons.mp member with rfl | behind
    · exact ⟨_, List.mem_cons_self, kept⟩
    · obtain ⟨token, held, kept⟩ := ih behind
      exact ⟨token, List.mem_cons_of_mem _ held, kept⟩
  | cons_right _ ih =>
    obtain ⟨token, held, kept⟩ := ih member
    exact ⟨token, List.mem_cons_of_mem _ held, kept⟩

/-- The leaves of statements are kept of as many stretches of tokens. -/
theorem parts {stmts : List Stmt} (gathered : Gathered (stmtsLeaves stmts) tokens) :
    ∃ parts : List (List Token), parts.flatten.Sublist tokens ∧
      List.Forall₂ (fun stmt part => List.Forall₂ Leaf.KeptOf stmt.leaves part) stmts parts := by
  obtain ⟨read, kept, within⟩ := List.sublistForall₂_iff.mp gathered
  suffices cut : ∃ parts : List (List Token), parts.flatten = read ∧
      List.Forall₂ (fun stmt part => List.Forall₂ Leaf.KeptOf stmt.leaves part) stmts parts by
    obtain ⟨parts, rfl, each⟩ := cut
    exact ⟨parts, within, each⟩
  clear within gathered
  induction stmts generalizing read with
  | nil =>
    rw [stmtsLeaves] at kept
    cases kept
    exact ⟨[], rfl, .nil⟩
  | cons stmt rest ih =>
    rw [stmtsLeaves] at kept
    have first := List.forall₂_take stmt.leaves.length kept
    have second := List.forall₂_drop stmt.leaves.length kept
    rw [List.take_left] at first
    rw [List.drop_left] at second
    obtain ⟨parts, whole, each⟩ := ih _ second
    exact ⟨_ :: parts, by rw [List.flatten_cons, whole, List.take_append_drop], .cons first each⟩

end Gathered
end Script
