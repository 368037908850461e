import Script.Proofs.Grammar.Phrases

set_option autoImplicit false

/- `IDENT = Expr` can be read as an assignment or as a comparison. Wherever both readings are
allowed, what the comparison spells is an assignment too, so preferring assignments loses no
phrase. -/
namespace Script.Grammar

open Token (Kind)

variable {mode : Mode} {name sign : Token} {tokens tail rest : List Token}

/-- Tokens that go on with an operation of the given levels. -/
def continues (levels : List (List Kind)) : List Kind :=
  levels.flatten ++ [.symbol .openParen, .symbol .dot]

theorem mem_continues_cons {kind : Kind} {operators : List Kind} {tighter : List (List Kind)} :
    kind ∈ continues (operators :: tighter) ↔ kind ∈ operators ∨ kind ∈ continues tighter := by
  simp only [continues, List.flatten_cons, List.mem_append, or_assoc]

/-- A chain stands as well behind another operand. -/
theorem Chain.reroot {operators : List Kind} {tighter : List (List Kind)} {tokens : List Token}
    {left result : Expr} : Chain mode operators tighter left tokens result →
      ∀ left', ∃ result', Chain mode operators tighter left' tokens result'
  | .none, left' => ⟨left', .none⟩
  | .more joins operand behind, left' => by
    obtain ⟨result', behind⟩ := behind.reroot (.binary left' _ _)
    exact ⟨result', .more joins operand behind⟩

section Names

variable (named : name.kind = .identifier)
include named

theorem Primary.eq_name {expr : Expr} (phrase : Primary mode tokens expr)
    (shape : tokens ++ tail = name :: rest) : tokens = [name] := by
  cases phrase with
  | grouping opens _ _ =>
    obtain ⟨rfl, -⟩ := List.cons.inj shape
    rw [opens] at named
    cases named
  | _ =>
    obtain ⟨rfl, -⟩ := List.cons.inj shape
    rfl

omit named in
theorem Suffixes.eq_nil {expr result : Expr} (phrase : Suffixes mode expr tokens result)
    (apart : sign.kind ∉ continues []) (shape : tokens ++ tail = sign :: rest) : tokens = [] := by
  cases phrase with
  | none => rfl
  | member dots _ _ =>
    obtain ⟨rfl, -⟩ := List.cons.inj shape
    exact absurd (by simp [dots, continues]) apart
  | bare opens _ _ =>
    obtain ⟨rfl, -⟩ := List.cons.inj shape
    exact absurd (by simp [opens, continues]) apart
  | call opens _ _ _ _ =>
    obtain ⟨rfl, -⟩ := List.cons.inj shape
    exact absurd (by simp [opens, continues]) apart

omit named in
theorem Chain.eq_nil {operators : List Kind} {tighter : List (List Kind)} {expr result : Expr}
    (phrase : Chain mode operators tighter expr tokens result) (apart : sign.kind ∉ operators)
    (shape : tokens ++ tail = sign :: rest) : tokens = [] := by
  cases phrase with
  | none => rfl
  | more joins _ _ =>
    obtain ⟨rfl, -⟩ := List.cons.inj shape
    exact absurd joins apart

theorem Unary.eq_name {expr : Expr} (phrase : Unary mode tokens expr)
    (apart : sign.kind ∉ continues []) (shape : tokens ++ tail = name :: sign :: rest) :
    tokens = [name] := by
  cases phrase with
  | sign signs _ =>
    obtain ⟨rfl, -⟩ := List.cons.inj shape
    simp [named] at signs
  | call head suffixes =>
    rw [List.append_assoc] at shape
    obtain rfl := head.eq_name named shape
    obtain rfl := suffixes.eq_nil apart (List.cons.inj shape).2
    rfl

/-- An operation that begins with a name is that name alone, if what follows goes on with none of
its levels. -/
theorem Operation.eq_name {levels : List (List Kind)} {tokens tail : List Token} {expr : Expr}
    (apart : sign.kind ∉ continues levels) (shape : tokens ++ tail = name :: sign :: rest) :
    Operation mode levels tokens expr → tokens = [name]
  | .tightest only => only.eq_name named apart shape
  | .level head chain => by
    rw [mem_continues_cons, not_or] at apart
    obtain ⟨strange, outside⟩ := apart
    rw [List.append_assoc] at shape
    obtain rfl := Operation.eq_name outside shape head
    obtain rfl := chain.eq_nil strange (List.cons.inj shape).2
    rfl

/-- What is compared with a name is an operation of the same level. -/
theorem Operation.behind_name {operators : List Kind} {tighter : List (List Kind)} {expr : Expr}
    (apart : sign.kind ∉ continues tighter)
    (phrase : Operation mode (operators :: tighter) (name :: sign :: rest) expr) :
    ∃ result, Operation mode (operators :: tighter) rest result := by
  generalize shape : name :: sign :: rest = tokens at phrase
  cases phrase with
  | level head chain =>
    obtain rfl := head.eq_name named apart shape.symm
    obtain ⟨-, shape⟩ := List.cons.inj shape
    cases chain with
    | none => cases shape
    | more joins operand behind =>
      obtain ⟨-, rfl⟩ := List.cons.inj shape
      obtain ⟨result, behind⟩ := behind.reroot _
      exact ⟨result, .level operand behind⟩

end Names

/-- Every expression is an assignment, or begins with some. -/
theorem Expression.assignment {tokens : List Token} {expr : Expr}
    (phrase : Expression mode tokens expr) : ∃ result, Assignment mode tokens result := by
  by_cases begins : BeginsAssignment tokens
  · obtain ⟨name, sign, rest, rfl, named, equals⟩ := begins
    cases phrase with
    | conditional word _ _ _ _ _ =>
      rw [word] at named
      cases named
    | operation only =>
      obtain ⟨result, only⟩ := only.behind_name named (by rw [equals]; decide)
      obtain ⟨result, assigned⟩ := (Expression.operation only).assignment
      exact ⟨_, .assign named equals assigned⟩
  · exact ⟨expr, .value phrase fun assigns => absurd assigns begins⟩
termination_by tokens.length

mutual

theorem Primary.prefer {tokens : List Token} {expr : Expr} :
    Primary .plain tokens expr → ∃ result, Primary .preferred tokens result
  | .trueWord spelled => ⟨_, .trueWord spelled⟩
  | .falseWord spelled => ⟨_, .falseWord spelled⟩
  | .literal sort carries => ⟨_, .literal sort carries⟩
  | .name named => ⟨_, .name named⟩
  | .grouping opens held closes => by
    obtain ⟨_, held⟩ := held.prefer
    exact ⟨_, .grouping opens held closes⟩

theorem Suffixes.prefer {tokens : List Token} {expr result : Expr} :
    Suffixes .plain expr tokens result →
      ∀ expr', ∃ result', Suffixes .preferred expr' tokens result'
  | .none, expr' => ⟨expr', .none⟩
  | .bare opens closes behind, expr' => by
    obtain ⟨result', behind⟩ := behind.prefer (.call expr' [])
    exact ⟨result', .bare opens closes behind⟩
  | .call opens listed few closes behind, expr' => by
    obtain ⟨arguments, listed, same⟩ := listed.prefer
    obtain ⟨result', behind⟩ := behind.prefer (.call expr' arguments)
    exact ⟨result', .call opens listed (same ▸ few) closes behind⟩
  | .member dots named behind, expr' => by
    obtain ⟨result', behind⟩ := behind.prefer (.member expr' _)
    exact ⟨result', .member dots named behind⟩

theorem Arguments.prefer {tokens : List Token} {exprs : List Expr} :
    Arguments .plain tokens exprs →
      ∃ results, Arguments .preferred tokens results ∧ exprs.length = results.length
  | .one only => by
    obtain ⟨_, only⟩ := only.prefer
    exact ⟨_, .one only, rfl⟩
  | .more head parts tail => by
    obtain ⟨_, head⟩ := head.prefer
    obtain ⟨_, tail, same⟩ := tail.prefer
    exact ⟨_, .more head parts tail, congrArg (· + 1) same⟩

theorem Unary.prefer {tokens : List Token} {expr : Expr} :
    Unary .plain tokens expr → ∃ result, Unary .preferred tokens result
  | .sign signs signed => by
    obtain ⟨_, signed⟩ := signed.prefer
    exact ⟨_, .sign signs signed⟩
  | .call head behind => by
    obtain ⟨_, head⟩ := head.prefer
    obtain ⟨_, behind⟩ := behind.prefer _
    exact ⟨_, .call head behind⟩

theorem Operation.prefer {levels : List (List Kind)} {tokens : List Token} {expr : Expr} :
    Operation .plain levels tokens expr → ∃ result, Operation .preferred levels tokens result
  | .tightest only => by
    obtain ⟨_, only⟩ := only.prefer
    exact ⟨_, .tightest only⟩
  | .level head behind => by
    obtain ⟨_, head⟩ := head.prefer
    obtain ⟨_, behind⟩ := behind.prefer _
    exact ⟨_, .level head behind⟩

theorem Chain.prefer {operators : List Kind} {tighter : List (List Kind)} {tokens : List Token}
    {expr result : Expr} : Chain .plain operators tighter expr tokens result →
      ∀ expr', ∃ result', Chain .preferred operators tighter expr' tokens result'
  | .none, expr' => ⟨expr', .none⟩
  | .more joins operand behind, expr' => by
    obtain ⟨right, operand⟩ := operand.prefer
    obtain ⟨result', behind⟩ := behind.prefer (.binary expr' _ right)
    exact ⟨result', .more joins operand behind⟩

theorem Expression.prefer {tokens : List Token} {expr : Expr} :
    Expression .plain tokens expr → ∃ result, Expression .preferred tokens result
  | .conditional begins opens tested closes body other => by
    obtain ⟨_, tested⟩ := tested.prefer
    obtain ⟨_, body⟩ := body.prefer
    obtain ⟨_, other⟩ := other.prefer
    exact ⟨_, .conditional begins opens tested closes body other⟩
  | .operation only => by
    obtain ⟨_, only⟩ := only.prefer
    exact ⟨_, .operation only⟩

theorem ElseBranch.prefer {tokens : List Token} {branch : List Stmt} :
    ElseBranch .plain tokens branch → ∃ result, ElseBranch .preferred tokens result
  | .none => ⟨_, .none⟩
  | .some begins body => by
    obtain ⟨_, body⟩ := body.prefer
    exact ⟨_, .some begins body⟩

/-- A comparison that could be an assignment becomes one. -/
theorem Assignment.prefer {tokens : List Token} {expr : Expr} :
    Assignment .plain tokens expr → ∃ result, Assignment .preferred tokens result
  | .assign named assigns assigned => by
    obtain ⟨_, assigned⟩ := assigned.prefer
    exact ⟨_, .assign named assigns assigned⟩
  | .value only _ => by
    obtain ⟨_, only⟩ := only.prefer
    exact only.assignment

theorem Statement.prefer {tokens : List Token} {stmt : Stmt} :
    Statement .plain tokens stmt → ∃ result, Statement .preferred tokens result
  | .mutable begins named specifies parts annotated defines initialized => by
    obtain ⟨_, initialized⟩ := initialized.prefer
    exact ⟨_, .mutable begins named specifies parts annotated defines initialized⟩
  | .typed named specifies parts annotated defines initialized => by
    obtain ⟨_, initialized⟩ := initialized.prefer
    exact ⟨_, .typed named specifies parts annotated defines initialized⟩
  | .inferred named specifies defines initialized => by
    obtain ⟨_, initialized⟩ := initialized.prefer
    exact ⟨_, .inferred named specifies defines initialized⟩
  | .function named specifies opens takes closes affects parts annotated bodied => by
    obtain ⟨_, bodied⟩ := bodied.prefer
    exact ⟨_, .function named specifies opens takes closes affects parts annotated bodied⟩
  | .block begins braced => by
    obtain ⟨_, braced⟩ := braced.prefer
    exact ⟨_, .block begins braced⟩
  | .expression only => by
    obtain ⟨_, only⟩ := only.prefer
    exact ⟨_, .expression only⟩

theorem FunctionBody.prefer {tokens : List Token} {body : Option (List Stmt)} :
    FunctionBody .plain tokens body → ∃ result, FunctionBody .preferred tokens result
  | .none => ⟨_, .none⟩
  | .some defines braced => by
    obtain ⟨_, braced⟩ := braced.prefer
    exact ⟨_, .some defines braced⟩

theorem Block.prefer {tokens : List Token} {body : List Stmt} :
    Block .plain tokens body → ∃ result, Block .preferred tokens result
  | .braces opens held closes => by
    obtain ⟨_, held⟩ := held.prefer
    exact ⟨_, .braces opens held closes⟩

theorem Statements.prefer {tokens : List Token} {stmts : List Stmt} :
    Statements .plain tokens stmts → ∃ result, Statements .preferred tokens result
  | .none => ⟨_, .none⟩
  | .blank breaks behind => by
    obtain ⟨_, behind⟩ := behind.prefer
    exact ⟨_, .blank breaks behind⟩
  | .last only => by
    obtain ⟨_, only⟩ := only.prefer
    exact ⟨_, .last only⟩
  | .ended head ends behind => by
    obtain ⟨_, head⟩ := head.prefer
    obtain ⟨_, behind⟩ := behind.prefer
    exact ⟨_, .ended head ends behind⟩
  | .skipped allowed _ => False.elim allowed
  | .unended allowed _ _ => False.elim allowed

end

end Script.Grammar
