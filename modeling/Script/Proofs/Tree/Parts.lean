import Mathlib.Logic.Relation
import Script.Proofs.Origins

set_option autoImplicit false

/- What phrases are made of. -/
namespace Script.Phrase

/-- The phrases that a phrase is made of, without those that they are made of. -/
def parts : Phrase → List Phrase
  | expr (.conditional condition thenBranch elseBranch) =>
      expr condition :: (thenBranch ++ elseBranch).map stmt
  | expr (.assign _ value) => [expr value]
  | expr (.binary left _ right) => [expr left, expr right]
  | expr (.unary _ operand) => [expr operand]
  | expr (.grouping inner) => [expr inner]
  | expr (.literal _ _) | expr (.name _) => []
  | expr (.call callee arguments) => expr callee :: arguments.map expr
  | expr (.member target _) => [expr target]
  | stmt (.functionDecl _ body) => (body.getD []).map stmt
  | stmt (.variableDecl _ initializer) => [expr initializer]
  | stmt (.block body) => body.map stmt
  | stmt (.expression inner) => [expr inner]

/-- A phrase is a part of another one, at any depth, or is that one. -/
def Inside : Phrase → Phrase → Prop := Relation.ReflTransGen fun part whole => part ∈ whole.parts

end Script.Phrase
