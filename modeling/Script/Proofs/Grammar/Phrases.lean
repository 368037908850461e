import Script.Proofs.Grammar

set_option autoImplicit false

/- How phrases of the grammar begin, and what tells declarations from expressions. Every phrase but
a list has a first token, and its kind tells which phrase it can be; where both can begin alike, a
declaration comes to a colon before any brace, and an expression does not. -/
namespace Script.Grammar

open Token (Kind)

/-- Tokens that begin with a token of one of the given kinds. -/
def Begins (kinds : List Kind) (tokens : List Token) : Prop :=
  ∃ token rest, tokens = token :: rest ∧ token.kind ∈ kinds

namespace Begins

variable {kinds more : List Kind} {tokens rest : List Token}

theorem ne_nil (begins : Begins kinds tokens) : tokens ≠ [] := by
  obtain ⟨token, rest, rfl, -⟩ := begins
  exact List.cons_ne_nil token rest

theorem append (begins : Begins kinds tokens) (rest : List Token) :
    Begins kinds (tokens ++ rest) := by
  obtain ⟨token, behind, rfl, member⟩ := begins
  exact ⟨token, behind ++ rest, rfl, member⟩

theorem mono (begins : Begins kinds tokens) (within : kinds ⊆ more) : Begins more tokens := by
  obtain ⟨token, behind, rfl, member⟩ := begins
  exact ⟨token, behind, rfl, within member⟩

end Begins

def primaryStarts : List Kind :=
  [.keyword .trueWord, .keyword .falseWord, .int, .float, .string, .identifier,
    .symbol .openParen]

def operationStarts : List Kind := [.symbol .dash, .keyword .notWord] ++ primaryStarts

def expressionStarts : List Kind := .keyword .ifWord :: operationStarts

def statementStarts : List Kind := [.keyword .varWord, .keyword .blockWord] ++ expressionStarts

variable {mode : Mode} {tokens : List Token}

theorem TypeName.begins {name : Token} {optional : Bool} (phrase : TypeName tokens name optional) :
    Begins [.identifier] tokens := by
  cases phrase with
  | plain named => exact ⟨_, _, rfl, by simp [named]⟩
  | optional named _ => exact ⟨_, _, rfl, by simp [named]⟩

theorem TypePhrase.begins {type : TypeExpr} (phrase : TypePhrase tokens type) :
    Begins [.identifier, .symbol .openBracket] tokens := by
  cases phrase with
  | named rest => exact rest.begins.mono (by simp)
  | array opens _ _ => exact ⟨_, _, rfl, by simp [opens]⟩
  | map opens _ _ _ => exact ⟨_, _, rfl, by simp [opens]⟩

theorem ParameterPhrase.begins {parameter : Parameter}
    (phrase : ParameterPhrase tokens parameter) : Begins [.identifier] tokens := by
  cases phrase with
  | typed named _ _ => exact ⟨_, _, rfl, by simp [named]⟩

namespace Separated

variable {α : Type} {item : List Token → α → Prop} {values : List α}

theorem begins {kinds : List Kind} (list : Separated item tokens values)
    (each : ∀ {tokens : List Token} {value : α}, item tokens value → Begins kinds tokens) :
    Begins kinds tokens := by
  cases list with
  | one only => exact each only
  | more head _ _ => exact (each head).append _

theorem length_pos (list : Separated item tokens values) : 0 < values.length := by
  cases list <;> simp

/-- There is a comma between any two items. -/
theorem length_le (list : Separated item tokens values) : values.length ≤ tokens.length + 1 := by
  induction list with
  | one _ => simp
  | more _ _ _ ih =>
    simp only [List.length_cons, List.length_append]
    omega

end Separated

theorem Primary.begins {expr : Expr} (phrase : Primary mode tokens expr) :
    Begins primaryStarts tokens := by
  cases phrase with
  | trueWord spelled => exact ⟨_, _, rfl, by simp [spelled, primaryStarts]⟩
  | falseWord spelled => exact ⟨_, _, rfl, by simp [spelled, primaryStarts]⟩
  | literal sort _ =>
    rcases sort with is | is | is <;> exact ⟨_, _, rfl, by simp [is, primaryStarts]⟩
  | name named => exact ⟨_, _, rfl, by simp [named, primaryStarts]⟩
  | grouping opens _ _ => exact ⟨_, _, rfl, by simp [opens, primaryStarts]⟩

theorem Unary.begins {expr : Expr} (phrase : Unary mode tokens expr) :
    Begins operationStarts tokens := by
  cases phrase with
  | sign signs _ => exact ⟨_, _, rfl, List.mem_append_left _ signs⟩
  | call head _ => exact (head.begins.append _).mono (List.subset_append_right _ _)

theorem Operation.begins {levels : List (List Kind)} {tokens : List Token} {expr : Expr} :
    Operation mode levels tokens expr → Begins operationStarts tokens
  | .tightest only => only.begins
  | .level head _ => head.begins.append _

theorem Expression.begins {expr : Expr} (phrase : Expression mode tokens expr) :
    Begins expressionStarts tokens := by
  cases phrase with
  | conditional begins _ _ _ _ _ => exact ⟨_, _, rfl, by simp [begins, expressionStarts]⟩
  | operation only => exact only.begins.mono (List.subset_cons_self _ _)

theorem Arguments.begins {exprs : List Expr} (phrase : Arguments mode tokens exprs) :
    Begins expressionStarts tokens := by
  cases phrase with
  | one only => exact only.begins
  | more head _ _ => exact head.begins.append _

theorem Assignment.begins {expr : Expr} (phrase : Assignment mode tokens expr) :
    Begins expressionStarts tokens := by
  cases phrase with
  | assign named _ _ =>
    exact ⟨_, _, rfl, by simp [named, expressionStarts, operationStarts, primaryStarts]⟩
  | value only _ => exact only.begins

theorem Statement.begins {stmt : Stmt} (phrase : Statement mode tokens stmt) :
    Begins statementStarts tokens := by
  have named {name : Token} (is : name.kind = .identifier) : name.kind ∈ statementStarts := by
    simp [is, statementStarts, expressionStarts, operationStarts, primaryStarts]
  cases phrase with
  | mutable begins _ _ _ _ _ _ => exact ⟨_, _, rfl, by simp [begins, statementStarts]⟩
  | typed is _ _ _ _ _ => exact ⟨_, _, rfl, named is⟩
  | inferred is _ _ _ => exact ⟨_, _, rfl, named is⟩
  | function is _ _ _ _ _ _ _ _ => exact ⟨_, _, rfl, named is⟩
  | block begins _ => exact ⟨_, _, rfl, by simp [begins, statementStarts]⟩
  | expression only => exact only.begins.mono (List.subset_append_right _ _)

/-- Where no token is passed over, statements begin with a statement or a blank line. -/
theorem Statements.begins {stmts : List Stmt} (strict : ¬ mode.skips)
    (phrase : Statements mode tokens stmts) :
    tokens = [] ∨ Begins (.newline :: statementStarts) tokens := by
  cases phrase with
  | none => exact .inl rfl
  | blank breaks _ => exact .inr ⟨_, _, rfl, by simp [breaks]⟩
  | last only => exact .inr (only.begins.mono (List.subset_cons_self _ _))
  | ended head _ _ => exact .inr ((head.begins.mono (List.subset_cons_self _ _)).append _)
  | skipped allowed _ => exact absurd allowed strict
  | unended allowed _ _ => exact absurd allowed strict

theorem Statements.eq_nil {stmts : List Stmt} (strict : ¬ mode.skips)
    (phrase : Statements mode [] stmts) : stmts = [] := by
  generalize empty : ([] : List Token) = tokens at phrase
  cases phrase with
  | none => rfl
  | blank _ _ => cases empty
  | last only => exact absurd empty.symm only.begins.ne_nil
  | ended head _ _ => exact absurd empty.symm (head.begins.append _).ne_nil
  | skipped allowed _ => exact absurd allowed strict
  | unended allowed _ _ => exact absurd allowed strict

/-- Blank lines may stand before statements. -/
theorem Statements.blanks {stmts : List Stmt} {blanks : List Token}
    (breaks : ∀ token ∈ blanks, token.kind = .newline) (phrase : Statements mode tokens stmts) :
    Statements mode (blanks ++ tokens) stmts := by
  induction blanks with
  | nil => exact phrase
  | cons token blanks ih =>
    rw [List.forall_mem_cons] at breaks
    exact .blank breaks.1 (ih breaks.2)

/-- The signs that no expression holds outside of braces. -/
def definers : List Kind := [.symbol .colon, .symbol .inferred]

/-- The tokens in the heads of declarations. -/
def headKinds : List Kind :=
  [.identifier, .symbol .colon, .symbol .inferred, .symbol .comma, .symbol .question,
    .symbol .less, .symbol .greater, .symbol .openParen, .symbol .closeParen,
    .symbol .openBracket, .symbol .closeBracket]

section Heads

variable {token : Token}

theorem TypeName.kinds {name : Token} {optional : Bool} (phrase : TypeName tokens name optional)
    (member : token ∈ tokens) : token.kind ∈ headKinds := by
  cases phrase with
  | plain named => simp_all [headKinds]
  | optional named marked =>
    simp only [List.mem_cons, List.not_mem_nil, or_false] at member
    rcases member with rfl | rfl
    · simp [named, headKinds]
    · simp [marked, headKinds]

theorem TypePhrase.kinds {type : TypeExpr} (phrase : TypePhrase tokens type)
    (member : token ∈ tokens) : token.kind ∈ headKinds := by
  induction phrase with
  | named rest => exact rest.kinds member
  | array opens closes rest =>
    simp only [List.mem_cons] at member
    rcases member with rfl | rfl | inside
    · simp [opens, headKinds]
    · simp [closes, headKinds]
    · exact rest.kinds inside
  | map opens _ closes rest ih =>
    simp only [List.mem_cons, List.mem_append] at member
    rcases member with rfl | inside | rfl | behind
    · simp [opens, headKinds]
    · exact ih inside
    · simp [closes, headKinds]
    · exact rest.kinds behind

theorem Separated.kinds {α : Type} {item : List Token → α → Prop} {values : List α}
    (list : Separated item tokens values)
    (each : ∀ {tokens : List Token} {value : α}, item tokens value → token ∈ tokens →
      token.kind ∈ headKinds) (member : token ∈ tokens) : token.kind ∈ headKinds := by
  induction list with
  | one only => exact each only member
  | more head parts _ ih =>
    simp only [List.mem_cons, List.mem_append] at member
    rcases member with early | rfl | late
    · exact each head early
    · simp [parts, headKinds]
    · exact ih late

theorem Specifiers.kinds {types : List TypeExpr} (phrase : Specifiers tokens types)
    (member : token ∈ tokens) : token.kind ∈ headKinds := by
  induction phrase with
  | none => cases member
  | more opens listed closes _ ih =>
    simp only [List.mem_cons, List.mem_append] at member
    rcases member with rfl | inside | rfl | behind
    · simp [opens, headKinds]
    · exact listed.kinds TypePhrase.kinds inside
    · simp [closes, headKinds]
    · exact ih behind

theorem ParameterPhrase.kinds {parameter : Parameter} (phrase : ParameterPhrase tokens parameter)
    (member : token ∈ tokens) : token.kind ∈ headKinds := by
  cases phrase with
  | typed named sign annotated =>
    simp only [List.mem_cons] at member
    rcases member with rfl | rfl | inside
    · simp [named, headKinds]
    · simp [sign, headKinds]
    · exact annotated.kinds inside

theorem Parameters.kinds {parameters : List Parameter} (phrase : Parameters tokens parameters)
    (member : token ∈ tokens) : token.kind ∈ headKinds := by
  cases phrase with
  | none => cases member
  | some listed => exact listed.kinds ParameterPhrase.kinds member

end Heads

def Guarded (tokens : List Token) : Prop :=
  ∀ token ∈ tokens.takeWhile (·.kind != .symbol .openCurly), token.kind ∉ definers

namespace Guarded

variable {first rest : List Token} {token : Token}

theorem nil : Guarded [] := by simp [Guarded]

theorem append (before : Guarded first) (behind : Guarded rest) : Guarded (first ++ rest) := by
  intro token member
  rw [List.takeWhile_append] at member
  split at member
  · next all =>
    rcases List.mem_append.mp member with early | late
    · rw [← List.IsPrefix.eq_of_length (List.takeWhile_prefix _) all] at early
      exact before token early
    · exact behind token late
  · exact before token member

theorem cons (harmless : token.kind ∉ definers) (behind : Guarded rest) :
    Guarded (token :: rest) := by
  have alone : Guarded [token] := by
    intro found member
    rw [List.mem_singleton.mp (List.takeWhile_subset _ member)]
    exact harmless
  exact alone.append behind

theorem brace (opens : token.kind = .symbol .openCurly) : Guarded (token :: rest) := by
  simp [Guarded, opens]

end Guarded

mutual

theorem Primary.guarded {tokens : List Token} {expr : Expr} :
    Primary mode tokens expr → Guarded tokens
  | .trueWord spelled => .cons (by simp [spelled, definers]) .nil
  | .falseWord spelled => .cons (by simp [spelled, definers]) .nil
  | .literal sort _ => by
    refine .cons ?_ .nil
    rcases sort with is | is | is <;> simp [is, definers]
  | .name named => .cons (by simp [named, definers]) .nil
  | .grouping opens held closes => by
    refine .cons (by simp [opens, definers]) (held.guarded.append ?_)
    exact .cons (by simp [closes, definers]) .nil

theorem Suffixes.guarded {tokens : List Token} {expr result : Expr} :
    Suffixes mode expr tokens result → Guarded tokens
  | .none => .nil
  | .bare opens closes behind =>
    .cons (by simp [opens, definers]) (.cons (by simp [closes, definers]) behind.guarded)
  | .call opens listed _ closes behind => by
    refine .cons (by simp [opens, definers]) (listed.guarded.append ?_)
    exact .cons (by simp [closes, definers]) behind.guarded
  | .member dots named behind =>
    .cons (by simp [dots, definers]) (.cons (by simp [named, definers]) behind.guarded)

theorem Arguments.guarded {tokens : List Token} {exprs : List Expr} :
    Arguments mode tokens exprs → Guarded tokens
  | .one only => only.guarded
  | .more head parts tail =>
    head.guarded.append (.cons (by simp [parts, definers]) tail.guarded)

theorem Unary.guarded {tokens : List Token} {expr : Expr} :
    Unary mode tokens expr → Guarded tokens
  | .sign signs signed => by
    refine .cons (fun defines => ?_) signed.guarded
    simp only [List.mem_cons, List.not_mem_nil, or_false] at signs
    rcases signs with is | is <;> simp [is, definers] at defines
  | .call head behind => head.guarded.append behind.guarded

theorem Operation.guarded {levels : List (List Kind)} {tokens : List Token} {expr : Expr}
    (harmless : ∀ kind ∈ levels.flatten, kind ∉ definers) :
    Operation mode levels tokens expr → Guarded tokens
  | .tightest only => only.guarded
  | .level head behind => by
    refine (head.guarded fun kind member => harmless kind ?_).append (behind.guarded harmless)
    exact List.mem_append_right _ member

theorem Chain.guarded {operators : List Kind} {tighter : List (List Kind)} {tokens : List Token}
    {expr result : Expr} (harmless : ∀ kind ∈ (operators :: tighter).flatten, kind ∉ definers) :
    Chain mode operators tighter expr tokens result → Guarded tokens
  | .none => .nil
  | .more joins operand behind => by
    refine .cons (harmless _ (List.mem_append_left _ joins)) ?_
    refine (operand.guarded fun kind member => harmless kind ?_).append (behind.guarded harmless)
    exact List.mem_append_right _ member

theorem Expression.guarded {tokens : List Token} {expr : Expr} :
    Expression mode tokens expr → Guarded tokens
  | .conditional begins opens tested closes (.braces braced _ _) _ => by
    refine .cons (by simp [begins, definers]) (.cons (by simp [opens, definers]) ?_)
    refine tested.guarded.append (.cons (by simp [closes, definers]) ?_)
    exact .brace braced
  | .operation only => only.guarded (by decide)

end

theorem Assignment.guarded {tokens : List Token} {expr : Expr} :
    Assignment mode tokens expr → Guarded tokens
  | .assign named assigns assigned => by
    refine .cons (by simp [named, definers]) (.cons (by simp [assigns, definers]) ?_)
    exact assigned.guarded
  | .value only _ => only.guarded

end Script.Grammar
