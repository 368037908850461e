import Mathlib.Data.Int.ModEq
import Script.Eval.Rules

set_option autoImplicit false

/- Integers wrap around. Sums, differences, products and negations are computed modulo 2^32 at every
node of a tree, so the tree comes to what it is over all integers, wrapped once; a quotient is that
of the wrapped operands. -/
namespace Script

/-- An expression of integers, sums, differences, products, negations and groupings, with its value
over all integers. -/
inductive Expr.Integral : Expr → Int → Prop where
  | literal (value : Int32) (position : Position) :
      Expr.Integral (.literal (.number (.int value)) position) value.toInt
  | sum {left right : Expr} {operator : Token} {a b : Int} (plus : operator.kind = .symbol .plus)
      (first : left.Integral a) (second : right.Integral b) :
      Expr.Integral (.binary left operator right) (a + b)
  | difference {left right : Expr} {operator : Token} {a b : Int}
      (dash : operator.kind = .symbol .dash) (first : left.Integral a)
      (second : right.Integral b) : Expr.Integral (.binary left operator right) (a - b)
  | product {left right : Expr} {operator : Token} {a b : Int}
      (star : operator.kind = .symbol .star) (first : left.Integral a)
      (second : right.Integral b) : Expr.Integral (.binary left operator right) (a * b)
  | negation {operand : Expr} {operator : Token} {a : Int} (dash : operator.kind = .symbol .dash)
      (inner : operand.Integral a) : Expr.Integral (.unary operator operand) (-a)
  | grouping {inner : Expr} {a : Int} (inside : inner.Integral a) :
      Expr.Integral (.grouping inner) a

/-- A word is the only integer of 32 bits with a sign that is congruent to a value. -/
def Wraps (value : Int) (word : Int32) : Prop :=
  ∀ other : Int, other = word.toInt ↔
    -2 ^ 31 ≤ other ∧ other < 2 ^ 31 ∧ other ≡ value [ZMOD 2 ^ 32]

theorem wraps_of_bmod {value : Int} {word : Int32} (is : word.toInt = value.bmod (2 ^ 32)) :
    Wraps value word := by
  intro other
  rw [is, Int.ModEq, Int.bmod_def]
  constructor
  · rintro rfl
    split <;> omega
  · rintro ⟨lower, upper, congruent⟩
    split <;> omega

section Rules

variable (context : Context)

/-- What an expression gives without doing anything is what is demanded of it. -/
theorem Expr.demand_pure (expr : Expr) (value : Value) :
    expr.demand (pure (some value)) = pure value := rfl

namespace Expr.Integral

/-- The rule of an integral expression gives its value, wrapped, and does nothing else. -/
theorem rule {expr : Expr} {value : Int} (integral : expr.Integral value) :
    expr.rule context = pure (some (.number (.int (.ofInt value)))) := by
  induction integral with
  | literal value position => rw [Expr.rule, Int32.ofInt_toInt]
  | sum plus _ _ ih ih' =>
    rw [Expr.rule, ih, ih', Expr.demand_pure, Expr.demand_pure, pure_bind, pure_bind,
      Operator.binary, plus, Int32.ofInt_add]
    rfl
  | difference dash _ _ ih ih' =>
    rw [Expr.rule, ih, ih', Expr.demand_pure, Expr.demand_pure, pure_bind, pure_bind,
      Operator.binary, dash, Int32.ofInt_sub]
    rfl
  | product star _ _ ih ih' =>
    rw [Expr.rule, ih, ih', Expr.demand_pure, Expr.demand_pure, pure_bind, pure_bind,
      Operator.binary, star, Int32.ofInt_mul]
    rfl
  | negation dash _ ih =>
    rw [Expr.rule, ih, Expr.demand_pure, pure_bind, Operator.unary, dash, Int32.ofInt_neg]
    rfl
  | grouping _ ih =>
    rw [Expr.rule, ih]
    rfl

theorem evaluate {expr : Expr} {value : Int} (integral : expr.Integral value) :
    expr.evaluate context = pure (.number (.int (.ofInt value))) := by
  rw [Expr.evaluate, integral.rule, Expr.demand_pure]

/-- A quotient is that of the wrapped operands. -/
theorem evaluate_quotient {left right : Expr} {a b : Int} (first : left.Integral a)
    (second : right.Integral b) {operator : Token} (slash : operator.kind = .symbol .slash) :
    (Expr.binary left operator right).evaluate context =
      (Expr.binary left operator right).demand (some <$> Eval.lift operator.position
        ((Number.divide (.int (.ofInt a)) (.int (.ofInt b))).map .number)) := by
  rw [Expr.evaluate, Expr.rule, first.rule, second.rule, Expr.demand_pure, Expr.demand_pure,
    pure_bind, pure_bind, Operator.binary, slash]
  rfl

end Expr.Integral

end Rules

/-- Integer expressions come to what they are over all integers, wrapped into 32 bits, whatever is
wrapped on the way, and do nothing else. A quotient of two of them fails for a zero divisor if and
only if the second one comes to zero; otherwise it is that of what they come to, without its
fraction, and wrapped. -/
theorem integers_wrap (context : Context) :
    (∀ expr value, Expr.Integral expr value → ∃ word, Wraps value word ∧ ∀ before,
        (expr.evaluate context).run before = ⟨.ok (.number (.int word)), before, []⟩) ∧
      ∀ left right operator a b, operator.kind = .symbol .slash → Expr.Integral left a →
        Expr.Integral right b → ∀ before,
          let done := ((Expr.binary left operator right).evaluate context).run before
          ((∃ error, done.outcome = .error error ∧ error.cause = .divisionByZero) ↔
              ((right.evaluate context).run before).outcome = .ok (.number (.int 0))) ∧
            ∀ dividend divisor,
              ((left.evaluate context).run before).outcome = .ok (.number (.int dividend)) →
              ((right.evaluate context).run before).outcome = .ok (.number (.int divisor)) →
              divisor ≠ 0 → ∃ word, Wraps (dividend.toInt.tdiv divisor.toInt) word ∧
                done = ⟨.ok (.number (.int word)), before, []⟩ := by
  refine ⟨fun expr value integral => ⟨.ofInt value, wraps_of_bmod Int32.toInt_ofInt,
    fun before => ?_⟩, ?_⟩
  · rw [integral.evaluate]
    rfl
  intro left right operator a b slash first second before
  dsimp only
  rw [first.evaluate_quotient context second slash, first.evaluate, second.evaluate]
  generalize Int32.ofInt a = dividend
  generalize Int32.ofInt b = divisor
  by_cases zero : divisor = 0
  · subst zero
    refine ⟨⟨fun _ => rfl, fun _ => ⟨_, rfl, rfl⟩⟩, fun _ _ _ is apart => ?_⟩
    cases is
    exact absurd rfl apart
  · have divided : Number.divide (.int dividend) (.int divisor) =
        .ok (.int (dividend / divisor)) := by
      rw [Number.divide, if_neg zero]
    rw [divided]
    refine ⟨⟨?_, fun is => ?_⟩, fun _ _ is is' _ => ?_⟩
    · rintro ⟨error, failed, -⟩
      cases failed
    · cases is
      exact absurd rfl zero
    · cases is
      cases is'
      exact ⟨_, wraps_of_bmod (Int32.toInt_div dividend divisor), rfl⟩

/-- An operator in no place. -/
def Symbol.nowhere (symbol : Symbol) : Token := ⟨.symbol symbol, symbol.spelling, none, .null⟩

/-- `2147483647 + 1`, which is the least integer. -/
def overflowing : Expr :=
  .binary (.literal (.number (.int 2147483647)) .null) (Symbol.nowhere .plus)
    (.literal (.number (.int 1)) .null)

def minusOne : Expr := .unary (Symbol.nowhere .dash) (.literal (.number (.int 1)) .null)

/-- The least integer comes of an overflow, and stays the same when it is divided by `-1`. -/
theorem integers_wrap_least :
    overflowing.Integral 2147483648 ∧ minusOne.Integral (-1) ∧
      ((overflowing.evaluate { program := [] }).run .empty).outcome =
        .ok (.number (.int (-2147483648))) ∧
      (((Expr.binary overflowing (Symbol.nowhere .slash) minusOne).evaluate { program := [] }).run
        .empty).outcome = .ok (.number (.int (-2147483648))) := by
  have first : overflowing.Integral 2147483648 := .sum rfl (.literal _ _) (.literal _ _)
  have second : minusOne.Integral (-1) := .negation rfl (.literal _ _)
  obtain ⟨sums, quotients⟩ := integers_wrap { program := [] }
  have least {value : Int} {word : Int32} (wraps : Wraps value word)
      (congruent : -2147483648 ≡ value [ZMOD 2 ^ 32]) : word = -2147483648 :=
    Int32.toInt_inj.mp ((wraps (-2147483648)).mpr ⟨by decide, by decide, congruent⟩).symm
  obtain ⟨word, wraps, evaluates⟩ := sums overflowing 2147483648 first
  obtain ⟨divisor, wraps', evaluates'⟩ := sums minusOne (-1) second
  obtain rfl := least wraps (by decide)
  obtain ⟨-, quotient⟩ := quotients _ _ (Symbol.nowhere .slash) _ _ rfl first second .empty
  have one : divisor = -1 :=
    Int32.toInt_inj.mp ((wraps' (-1)).mpr ⟨by decide, by decide, rfl⟩).symm
  subst one
  obtain ⟨word, wraps, divided⟩ := quotient (-2147483648) (-1)
    (congrArg Run.outcome (evaluates .empty)) (congrArg Run.outcome (evaluates' .empty)) (by decide)
  obtain rfl := least wraps (by decide)
  exact ⟨first, second, congrArg Run.outcome (evaluates .empty), congrArg Run.outcome divided⟩

end Script
