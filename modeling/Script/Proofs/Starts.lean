import Script.Proofs.Grammar.Parts

set_option autoImplicit false

/- Where expressions start. An expression is placed at the first of its tokens that is neither an
opening parenthesis nor `if`, however many of those come before it. It is placed at its first token
unless that is one of them. -/
namespace Script

open Token (Kind)

/-- A token that says how what follows is read and is not itself a place: `(` or `if`. -/
def Token.leads (token : Token) : Bool :=
  token.kind == .symbol .openParen || token.kind == .keyword .ifWord

namespace Grammar

/-- The place of the first token that does not lead others. -/
def foremost? (tokens : List Token) : Option Position :=
  (tokens.find? fun token => !token.leads).map Token.position

section Foremost

variable {token : Token} {tokens : List Token} {position : Position}

theorem foremost?_cons_of_leads (leads : token.leads = true) :
    foremost? (token :: tokens) = foremost? tokens := by
  simp [foremost?, leads]

theorem foremost?_cons (leads : token.leads = false) :
    foremost? (token :: tokens) = some token.position := by
  simp [foremost?, leads]

/-- Nothing behind the tokens takes their place. -/
theorem foremost?_append (found : foremost? tokens = some position) (behind : List Token) :
    foremost? (tokens ++ behind) = some position := by
  obtain ⟨token, first, rfl⟩ := Option.map_eq_some_iff.mp found
  rw [foremost?, List.find?_append, first]
  rfl

theorem leads_of_kind {kind : Kind} (is : token.kind = kind)
    (leads : kind ∈ [.symbol .openParen, .keyword .ifWord]) : token.leads = true := by
  simpa [Token.leads, is] using leads

theorem not_leads_of_kind {kind : Kind} (is : token.kind = kind)
    (other : kind ∉ [.symbol .openParen, .keyword .ifWord]) : token.leads = false := by
  simpa [Token.leads, is] using other

/-- Of tokens of which each has a place of its own, one that leads is not at the place of one
behind it. -/
theorem foremost?_ne (apart : ((token :: tokens).map Token.position).Nodup)
    (leads : token.leads = true) (found : foremost? (token :: tokens) = some position) :
    position ≠ token.position := by
  rw [foremost?_cons_of_leads leads] at found
  obtain ⟨first, held, rfl⟩ := Option.map_eq_some_iff.mp found
  rw [List.map_cons, List.nodup_cons] at apart
  intro same
  exact apart.1 (same ▸ List.mem_map_of_mem (List.mem_of_find?_eq_some held))

end Foremost

variable {mode : Mode}

mutual

theorem Suffixes.position {tokens : List Token} {expr result : Expr} :
    Suffixes mode expr tokens result → result.position = expr.position
  | .none => rfl
  | .bare _ _ behind => behind.position
  | .call _ _ _ _ behind => behind.position
  | .member _ _ behind => behind.position

theorem Chain.position {operators : List Kind} {tighter : List (List Kind)} {tokens : List Token}
    {expr result : Expr} :
    Chain mode operators tighter expr tokens result → result.position = expr.position
  | .none => rfl
  | .more _ _ behind => behind.position

theorem Primary.foremost {tokens : List Token} {expr : Expr} :
    Primary mode tokens expr → foremost? tokens = some expr.position
  | .trueWord spelled => foremost?_cons (not_leads_of_kind spelled (by decide))
  | .falseWord spelled => foremost?_cons (not_leads_of_kind spelled (by decide))
  | .literal sort _ => by
    rcases sort with is | is | is <;> exact foremost?_cons (not_leads_of_kind is (by decide))
  | .name named => foremost?_cons (not_leads_of_kind named (by decide))
  | .grouping opens held _ => by
    rw [foremost?_cons_of_leads (leads_of_kind opens (by decide))]
    exact foremost?_append held.foremost _

theorem Unary.foremost {tokens : List Token} {expr : Expr} :
    Unary mode tokens expr → foremost? tokens = some expr.position
  | .sign signs _ => by
    simp only [List.mem_cons, List.not_mem_nil, or_false] at signs
    rcases signs with is | is <;> exact foremost?_cons (not_leads_of_kind is (by decide))
  | .call head behind => by
    rw [behind.position]
    exact foremost?_append head.foremost _

theorem Operation.foremost {levels : List (List Kind)} {tokens : List Token} {expr : Expr} :
    Operation mode levels tokens expr → foremost? tokens = some expr.position
  | .tightest only => only.foremost
  | .level head behind => by
    rw [behind.position]
    exact foremost?_append head.foremost _

theorem Expression.foremost {tokens : List Token} {expr : Expr} :
    Expression mode tokens expr → foremost? tokens = some expr.position
  | .conditional begins opens tested _ _ _ => by
    rw [foremost?_cons_of_leads (leads_of_kind begins (by decide)),
      foremost?_cons_of_leads (leads_of_kind opens (by decide))]
    exact foremost?_append tested.foremost _
  | .operation only => only.foremost

end

theorem Assignment.foremost {tokens : List Token} {expr : Expr}
    (phrase : Assignment mode tokens expr) : foremost? tokens = some expr.position := by
  cases phrase with
  | assign named _ _ => exact foremost?_cons (not_leads_of_kind named (by decide))
  | value only _ => exact only.foremost

theorem Spelled.foremost {tokens : List Token} {expr : Expr}
    (spelled : Spelled mode tokens (.expr expr)) : foremost? tokens = some expr.position := by
  rcases spelled with phrase | phrase
  · exact phrase.foremost
  · exact phrase.foremost

end Grammar

namespace Parser

open Grammar

/-- Every expression that is read, at any depth, is spelled by a stretch of the tokens and placed at
the first of them that is neither `(` nor `if`. That is the place of the first of them if it is
neither, and if every token has a place of its own, only then. -/
theorem expression_position (tokens : List Token) {stmt : Stmt} {expr : Expr}
    (read : stmt ∈ (parse tokens).statements) (inside : (Phrase.expr expr).Inside (.stmt stmt)) :
    ∃ start rest, start :: rest <:+: tokens ∧ Spelled .lenient (start :: rest) (.expr expr) ∧
      foremost? (start :: rest) = some expr.position ∧
      (start.leads = false → expr.position = start.position) ∧
      ((tokens.map Token.position).Nodup → start.leads = true →
        expr.position ≠ start.position) := by
  obtain ⟨span, within, spelled⟩ := parse_holds read inside
  have found := spelled.foremost
  cases span with
  | nil => cases found
  | cons start rest =>
    refine ⟨start, rest, within, spelled, found, fun stands => ?_, fun apart leads => ?_⟩
    · rw [foremost?_cons stands] at found
      exact (Option.some.inj found).symm
    · have apart := (within.map Token.position).sublist.nodup apart
      exact foremost?_ne apart leads found

/-- The tokens of `(a)`. -/
def enclosedName : List Token :=
  [⟨.symbol .openParen, "(", none, ⟨1, 1⟩⟩, ⟨.identifier, "a", none, ⟨1, 2⟩⟩,
    ⟨.symbol .closeParen, ")", none, ⟨1, 3⟩⟩]

def enclosedExpr : Expr := .grouping (.name ⟨.identifier, "a", none, ⟨1, 2⟩⟩)

theorem parse_enclosedName : (parse enclosedName).statements = [.expression enclosedExpr] := by
  rfl

theorem inside_enclosedExpr :
    (Phrase.expr enclosedExpr).Inside (.stmt (.expression enclosedExpr)) :=
  Relation.ReflTransGen.single List.mem_cons_self

theorem expression_position_enclosed :
    Stmt.expression enclosedExpr ∈ (parse enclosedName).statements ∧
      ∃ start rest, start :: rest <:+: enclosedName ∧
        foremost? (start :: rest) = some enclosedExpr.position ∧
        (start.leads = true → enclosedExpr.position ≠ start.position) := by
  have read : Stmt.expression enclosedExpr ∈ (parse enclosedName).statements := by
    rw [parse_enclosedName]
    exact List.mem_singleton_self _
  obtain ⟨start, rest, within, -, found, -, apart⟩ :=
    expression_position enclosedName read inside_enclosedExpr
  exact ⟨read, start, rest, within, found, apart (by decide)⟩

/-- All tokens of `(a)` spell one expression. It is not placed at the first of them. -/
theorem expression_position_not_first :
    (parse enclosedName).statements = [.expression enclosedExpr] ∧
      Spelled .lenient enclosedName (.expr enclosedExpr) ∧
      enclosedExpr.position = ⟨1, 2⟩ ∧ enclosedName.head?.map Token.position = some ⟨1, 1⟩ := by
  have name : Called .lenient [⟨.identifier, "a", none, ⟨1, 2⟩⟩]
      (.name ⟨.identifier, "a", none, ⟨1, 2⟩⟩) := .intro (.name rfl) .none
  have held : Expression .lenient _ _ := .operation (name.unary.operation levels)
  have whole : Called .lenient enclosedName enclosedExpr := .intro (.grouping rfl held rfl) .none
  exact ⟨parse_enclosedName, .inl (.operation (whole.unary.operation levels)), rfl, rfl⟩

end Parser
end Script
