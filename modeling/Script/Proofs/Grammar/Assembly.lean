import Script.Proofs.Grammar

set_option autoImplicit false

/- Phrases put together from one of their beginnings and what stands behind it. A call goes on with
suffixes, an operation with an operator and an operand, and what binds tightly is an operation of
every looser level. -/
namespace Script.Grammar

open Token (Kind)

variable {mode : Mode} {tokens rest : List Token} {expr result : Expr}

/-- A primary expression with its calls and member accesses. -/
inductive Called (mode : Mode) : List Token → Expr → Prop where
  | intro {first rest : List Token} {expr result : Expr} (head : Primary mode first expr)
      (behind : Suffixes mode expr rest result) : Called mode (first ++ rest) result

theorem Suffixes.trans {tokens : List Token} {expr middle : Expr} :
    Suffixes mode expr tokens middle → Suffixes mode middle rest result →
      Suffixes mode expr (tokens ++ rest) result
  | .none, behind => behind
  | .bare opens closes more, behind => .bare opens closes (more.trans behind)
  | .call opens listed few closes more, behind => by
    have whole := Suffixes.call opens listed few closes (more.trans behind)
    simpa using whole
  | .member sign named more, behind => .member sign named (more.trans behind)

theorem Called.suffixed (called : Called mode tokens expr)
    (behind : Suffixes mode expr rest result) : Called mode (tokens ++ rest) result := by
  obtain ⟨head, suffixes⟩ := called
  rw [List.append_assoc]
  exact ⟨head, suffixes.trans behind⟩

theorem Called.unary (called : Called mode tokens expr) : Unary mode tokens expr := by
  obtain ⟨head, suffixes⟩ := called
  exact .call head suffixes

theorem Operation.looser {tighter : List (List Kind)} (only : Operation mode tighter tokens expr)
    (operators : List Kind) : Operation mode (operators :: tighter) tokens expr := by
  have whole := Operation.level only (@Chain.none mode operators tighter expr)
  rwa [List.append_nil] at whole

/-- An operation of the tighter ones of some levels is one of all of them. -/
theorem Operation.loosened {tighter levels : List (List Kind)}
    (only : Operation mode tighter tokens expr) (inner : tighter <:+ levels) :
    Operation mode levels tokens expr := by
  obtain ⟨looser, rfl⟩ := inner
  induction looser with
  | nil => exact only
  | cons operators looser ih => exact ih.looser operators

/-- What binds tightest is an operation of any level. -/
theorem Unary.operation (unary : Unary mode tokens expr) (levels : List (List Kind)) :
    Operation mode levels tokens expr :=
  (Operation.tightest unary).loosened List.nil_suffix

section Joining

variable {operators : List Kind} {tighter : List (List Kind)} {operator : Token} {right : Expr}

theorem Chain.joined {tokens : List Token} {expr left : Expr} (joins : operator.kind ∈ operators)
    (operand : Operation mode tighter rest right) :
    Chain mode operators tighter expr tokens left →
      Chain mode operators tighter expr (tokens ++ operator :: rest) (.binary left operator right)
  | .none => by
    have whole := Chain.more joins operand
      (@Chain.none mode operators tighter (.binary expr operator right))
    rwa [List.append_nil] at whole
  | .more joins' operand' behind => by
    have whole := Chain.more joins' operand' (behind.joined joins operand)
    simpa using whole

/-- An operation goes on with an operator of its loosest level. -/
theorem Operation.joined (left : Operation mode (operators :: tighter) tokens expr)
    (joins : operator.kind ∈ operators) (operand : Operation mode tighter rest right) :
    Operation mode (operators :: tighter) (tokens ++ operator :: rest)
      (.binary expr operator right) := by
  cases left with
  | level head behind =>
    rw [List.append_assoc]
    exact .level head (behind.joined joins operand)

/-- Two operands and an operator of one of the levels. -/
theorem Unary.joined (first : Unary mode tokens expr) (second : Unary mode rest right)
    {levels : List (List Kind)} (joins : operator.kind ∈ levels.flatten) :
    Operation mode levels (tokens ++ operator :: rest) (.binary expr operator right) := by
  induction levels with
  | nil => cases joins
  | cons operators tighter ih =>
    rw [List.flatten_cons, List.mem_append] at joins
    rcases joins with here | deeper
    · exact (first.operation _).joined here (second.operation tighter)
    · exact (ih deeper).looser operators

end Joining
end Script.Grammar
