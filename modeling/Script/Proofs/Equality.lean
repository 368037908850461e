import Mathlib.Algebra.Order.Ring.Int
import Mathlib.Algebra.Order.Ring.Unbundled.Basic
import Mathlib.Data.Rat.Lemmas
import Mathlib.Tactic.Positivity
import Mathlib.Tactic.Ring
import Script.Proofs.Widening
import Script.Value

set_option autoImplicit false

/- Equality compares exact values, and agrees with the order. Numbers of both kinds are widened to
be compared, which changes none of them; so equality is that of exact values, and what is ordered
within one kind is ordered by them as well. -/
namespace Script

namespace Binary32.Denotation

/-- Values are equal if they are the same and there is one. -/
theorem equals_iff {a b : Binary32.Denotation} : a.equals b = true ↔ a = b ∧ a ≠ .nan := by
  unfold equals
  rw [beq_iff_eq]
  fun_cases compare a b <;> grind [Std.LawfulEqOrd.compare_eq_iff_eq]

/-- Only what is not a number is in no order. -/
theorem compare_eq_none {a b : Binary32.Denotation} :
    a.compare b = none ↔ a = .nan ∨ b = .nan := by
  fun_cases compare a b <;> grind

/-- The order the other way around is the converse one. -/
theorem compare_swap (a b : Binary32.Denotation) :
    b.compare a = (a.compare b).map Ordering.swap := by
  fun_cases compare a b
  case case9 units units' => simp [compare, Std.OrientedOrd.eq_swap (a := units')]
  all_goals grind [compare, Ordering.swap]

theorem refined_injective (places : Nat) : Function.Injective (refined places) := by
  intro a b same
  have positive : (Nat.pow 2 places : Int) ≠ 0 := by
    rw [Nat.pow_eq]
    exact_mod_cast (Nat.two_pow_pos places).ne'
  cases a <;> cases b <;> simp_all [refined]

theorem refined_eq_nan {places : Nat} {a : Binary32.Denotation} :
    a.refined places = .nan ↔ a = .nan := by
  cases a <;> simp [refined]

end Binary32.Denotation

/-- The exact value of a finite number: a fraction of 23 binary places behind a one, or for the
least exponent behind a zero, times a power of two. -/
def Binary32.exact (x : Binary32) : ℚ :=
  let exponent := x.magnitude / 0x800000
  let fraction : ℚ := (x.magnitude % 0x800000 : Nat) / 2 ^ 23
  let size := if exponent = 0 then fraction * 2 ^ (-126 : ℤ)
    else (1 + fraction) * 2 ^ ((exponent : ℤ) - 127)
  if x.negative then -size else size

/-- Units count the exact value. -/
theorem Binary32.exact_eq (x : Binary32) : x.exact = x.signedUnits / 2 ^ 149 := by
  have size : (x.units : ℚ) / 2 ^ 149 = if x.magnitude / 0x800000 = 0 then
      ((x.magnitude % 0x800000 : Nat) : ℚ) / 2 ^ 23 * 2 ^ (-126 : ℤ)
      else (1 + ((x.magnitude % 0x800000 : Nat) : ℚ) / 2 ^ 23) *
        2 ^ (((x.magnitude / 0x800000 : Nat) : ℤ) - 127) := by
    unfold units unitsOf
    dsimp only
    split
    · norm_num
      ring
    · next later =>
      obtain ⟨exponent, is⟩ := Nat.exists_eq_succ_of_ne_zero later
      have places : ((exponent.succ : ℤ) - 127) = exponent - 126 := by
        rw [Nat.succ_eq_add_one, Nat.cast_add_one]
        ring
      rw [is, Nat.pow_eq, Nat.succ_sub_one, places, zpow_sub₀ (by decide), zpow_natCast]
      push_cast
      norm_num
      ring
  unfold exact signedUnits
  dsimp only
  rw [← size]
  cases x.negative
  · simp
  · simp [neg_div]

namespace Number

open Error (Cause)

/-- The exact value, in units of single precision for both kinds. -/
def denotation : Number → Binary32.Denotation
  | int value => .finite (value.toInt * Binary32.one)
  | float value => value.denotation

/-- Widening changes no value. -/
theorem denotation_widened (number : Number) :
    number.widened.denotation = number.denotation.refined Binary64.further := by
  cases number with
  | int value => exact Binary64.denotation_ofInt32 value
  | float value => exact Binary64.denotation_ofBinary32 value

/-- Numbers are equal if their exact values are the same and there is one. -/
theorem equals_iff {a b : Number} :
    a.equals b = true ↔ a.denotation = b.denotation ∧ a.denotation ≠ .nan := by
  unfold equals Binary64.equals
  rw [Binary32.Denotation.equals_iff, denotation_widened, denotation_widened,
    (Binary32.Denotation.refined_injective _).eq_iff, ne_eq, Binary32.Denotation.refined_eq_nan]

def isNaN : Number → Bool
  | int _ => false
  | float value => value.isNaN

theorem denotation_eq_nan {number : Number} : number.denotation = .nan ↔ number.isNaN = true := by
  cases number with
  | int value => simp [isNaN, denotation]
  | float value =>
    change value.denotation = .nan ↔ value.isNaN = true
    unfold Binary32.denotation
    split
    · next unordered => simp [unordered]
    · next ordered => split <;> simp [ordered]

def SameKind : Number → Number → Prop
  | int _, int _ | float _, float _ => True
  | _, _ => False

/-- Numbers of one kind are ordered by their exact values. -/
theorem compare_of_sameKind {a b : Number} (same : a.SameKind b) :
    a.compare b = .ok (a.denotation.compare b.denotation) := by
  cases a with
  | int value =>
    cases b with
    | int value' =>
      have positive : (0 : Int) < Binary32.one := by decide
      have scaled : Ord.compare (value.toInt * Binary32.one) (value'.toInt * Binary32.one) =
          Ord.compare value.toInt value'.toInt := by
        rw [← cmp_eq_compare, cmp_mul_pos_right positive, cmp_eq_compare]
      simp only [compare, denotation, Binary32.Denotation.compare, scaled]
    | float value' => cases same
  | float value =>
    cases b with
    | int value' => cases same
    | float value' => rfl

/-- Numbers are equal if their exact values are in the order of what is equal. -/
theorem equals_iff_compare {a b : Number} :
    a.equals b = true ↔ a.denotation.compare b.denotation = some .eq := by
  rw [equals_iff, ← Binary32.Denotation.equals_iff]
  exact beq_iff_eq

/-- Numbers that are not in order are so for want of a number. -/
theorem unordered_iff {a b : Number} :
    a.denotation.compare b.denotation = none ↔ a.isNaN = true ∨ b.isNaN = true := by
  rw [Binary32.Denotation.compare_eq_none, denotation_eq_nan, denotation_eq_nan]

/-- A relational operator holds between two numbers. -/
def Holds (operator : Symbol) (a b : Number) : Prop :=
  relational (.symbol operator) a b = .ok true

def relations : List Symbol := [.less, .lessEquals, .greater, .greaterEquals]

section Ordered

variable {a b : Number} (same : a.SameKind b)
include same

theorem SameKind.symm : b.SameKind a := by
  cases a <;> cases b <;> exact same

/-- Numbers of one kind that are in no order stand in no relation. -/
theorem relational_of_unordered (unordered : a.denotation.compare b.denotation = none)
    (operator : Token.Kind) : relational operator a b = .ok false := by
  unfold relational
  rw [compare_of_sameKind same, unordered]

/-- Numbers of one kind that are in an order stand in the relations that it satisfies. -/
theorem holds_of_ordered {order : Ordering}
    (ordered : a.denotation.compare b.denotation = some order) (operator : Symbol) :
    Holds operator a b ↔ orderHolds? (.symbol operator) order = some true := by
  unfold Holds relational
  rw [compare_of_sameKind same, ordered]
  dsimp only
  cases orderHolds? (.symbol operator) order <;> simp

/-- The order agrees with equality. -/
theorem compare_eq_iff : a.compare b = .ok (some .eq) ↔ a.equals b = true := by
  rw [compare_of_sameKind same, equals_iff_compare, Except.ok.injEq]

/-- What is not greater is less or equal. -/
theorem holds_lessEquals : Holds .lessEquals a b ↔ Holds .less a b ∨ a.equals b = true := by
  rw [equals_iff_compare]
  cases ordered : a.denotation.compare b.denotation with
  | none => simp [Holds, relational_of_unordered same ordered]
  | some order =>
    simp only [holds_of_ordered same ordered]
    cases order <;> decide

/-- What is greater is what the other one is less than. -/
theorem holds_greater : Holds .greater a b ↔ Holds .less b a := by
  have converse := Binary32.Denotation.compare_swap a.denotation b.denotation
  cases ordered : a.denotation.compare b.denotation with
  | none =>
    rw [ordered] at converse
    simp [Holds, relational_of_unordered same ordered, relational_of_unordered same.symm converse]
  | some order =>
    rw [ordered] at converse
    rw [holds_of_ordered same ordered, holds_of_ordered same.symm converse]
    cases order <;> decide

/-- Exactly one of less, equal and greater holds between numbers of one kind. -/
theorem trichotomy (number : a.isNaN = false) (number' : b.isNaN = false) :
    Holds .less a b ∧ a.equals b = false ∧ ¬ Holds .greater a b ∨
      ¬ Holds .less a b ∧ a.equals b = true ∧ ¬ Holds .greater a b ∨
      ¬ Holds .less a b ∧ a.equals b = false ∧ Holds .greater a b := by
  rw [← Bool.not_eq_true (a.equals b), equals_iff_compare]
  cases ordered : a.denotation.compare b.denotation with
  | none =>
    have unordered := unordered_iff.mp ordered
    rw [number, number'] at unordered
    simp at unordered
  | some order =>
    simp only [holds_of_ordered same ordered]
    cases order <;> decide

end Ordered

/-- Without an order nothing can be done with two numbers. -/
theorem mismatched {a b : Number} (apart : ¬ a.SameKind b) :
    a.add b = .error .mismatchedNumberTypes ∧
      a.subtract b = .error .mismatchedNumberTypes ∧
      a.multiply b = .error .mismatchedNumberTypes ∧
      a.divide b = .error .mismatchedNumberTypes ∧
      a.compare b = .error .mismatchedNumberTypes ∧
      ∀ operator, relational operator a b = .error .mismatchedNumberTypes := by
  cases a <;> cases b
  case int.int => exact absurd trivial apart
  case float.float => exact absurd trivial apart
  all_goals exact ⟨rfl, rfl, rfl, rfl, rfl, fun _ => rfl⟩

/-- An integer equals the floats whose exact value it is. -/
theorem int_equals_float (value : Int32) (x : Binary32) :
    (int value).equals (float x) = true ↔
      x.isNaN = false ∧ x.isInfinite = false ∧ x.exact = value.toInt := by
  have counted : x.signedUnits = value.toInt * Binary32.one ↔ x.exact = value.toInt := by
    have one : ((Binary32.one : Int) : ℚ) = 2 ^ 149 := by norm_num [Binary32.one]
    rw [Binary32.exact_eq, div_eq_iff (by positivity), ← one]
    exact_mod_cast Iff.rfl
  rw [equals_iff, ← counted]
  change Binary32.Denotation.finite (value.toInt * Binary32.one) = x.denotation ∧ _ ↔ _
  unfold Binary32.denotation
  cases x.isNaN with
  | true => simp
  | false => cases x.isInfinite <;> simp [eq_comm, denotation]

end Number

namespace Value

def SameVariant : Value → Value → Prop
  | bool _, bool _ | string _, string _ | number _, number _ | function _, function _ => True
  | _, _ => False

/-- Values are equal if they are equal numbers, or the same and no numbers. -/
theorem equals_iff {a b : Value} : a.equals b = true ↔
    (∃ m n, a = number m ∧ b = number n ∧ m.equals n = true) ∨ a = b ∧ ∀ n, a ≠ number n := by
  cases a <;> cases b <;> simp [equals]

theorem equals_symm {a b : Value} (same : a.equals b = true) : b.equals a = true := by
  rcases equals_iff.mp same with ⟨m, n, rfl, rfl, numbers⟩ | ⟨rfl, -⟩
  · obtain ⟨exact, ordered⟩ := Number.equals_iff.mp numbers
    exact Number.equals_iff.mpr ⟨exact.symm, exact ▸ ordered⟩
  · exact same

theorem equals_trans {a b c : Value} (first : a.equals b = true) (second : b.equals c = true) :
    a.equals c = true := by
  rcases equals_iff.mp first with ⟨m, n, rfl, rfl, numbers⟩ | ⟨rfl, -⟩
  · rcases equals_iff.mp second with ⟨n', l, is, rfl, numbers'⟩ | ⟨-, other⟩
    · cases is
      obtain ⟨exact, ordered⟩ := Number.equals_iff.mp numbers
      exact Number.equals_iff.mpr ⟨exact.trans (Number.equals_iff.mp numbers').1, ordered⟩
    · exact absurd rfl (other n)
  · exact second

/-- Only what is not a number differs from itself. -/
theorem equals_self {a : Value} :
    a.equals a = false ↔ ∃ x, a = number (.float x) ∧ x.isNaN = true := by
  cases a with
  | number value =>
    have itself : value.equals value = false ↔ value.isNaN = true := by
      rw [← Bool.not_eq_true, Number.equals_iff, ← Number.denotation_eq_nan]
      simp
    change value.equals value = false ↔ _
    rw [itself]
    cases value <;> simp [Number.isNaN]
  | _ => simp [equals]

theorem equals_of_variants {a b : Value} (apart : ¬ a.SameVariant b) : a.equals b = false := by
  cases a <;> cases b <;> first | rfl | exact absurd trivial apart

end Value

/-- Equality is exact and agrees with the order. It is symmetric and transitive, across kinds as
well, and only a float that is not a number differs from itself. An integer equals a float if and
only if that one is finite and has the integer as its exact value; values of different variants
differ. Numbers of one kind are equal if and only if they compare as equal; less or equal is less or
equal indeed, and greater is the converse of less. If both are numbers exactly one of less, equal
and greater holds; if one is not, no relation does. Across kinds there is neither order nor
arithmetic, not even between equal numbers. -/
theorem equality_coherent :
    (∀ a b : Value, a.equals b = true → b.equals a = true) ∧
      (∀ a b c : Value, a.equals b = true → b.equals c = true → a.equals c = true) ∧
      (∀ a : Value, a.equals a = false ↔ ∃ x, a = .number (.float x) ∧ x.isNaN = true) ∧
      (∀ (value : Int32) (x : Binary32),
        Value.equals (.number (.int value)) (.number (.float x)) = true ↔
          x.isNaN = false ∧ x.isInfinite = false ∧ x.exact = value.toInt) ∧
      (∀ a b : Value, ¬ a.SameVariant b → a.equals b = false) ∧
      (∀ a b : Number, a.SameKind b →
        (a.compare b = .ok (some .eq) ↔ a.equals b = true) ∧
          (Number.Holds .lessEquals a b ↔ Number.Holds .less a b ∨ a.equals b = true) ∧
          (Number.Holds .greater a b ↔ Number.Holds .less b a) ∧
          (a.isNaN = false → b.isNaN = false →
            Number.Holds .less a b ∧ a.equals b = false ∧ ¬ Number.Holds .greater a b ∨
              ¬ Number.Holds .less a b ∧ a.equals b = true ∧ ¬ Number.Holds .greater a b ∨
              ¬ Number.Holds .less a b ∧ a.equals b = false ∧ Number.Holds .greater a b) ∧
          (a.isNaN = true ∨ b.isNaN = true → ∀ operator ∈ Number.relations,
            Number.relational (.symbol operator) a b = .ok false)) ∧
      ∀ a b : Number, ¬ a.SameKind b →
        a.add b = .error .mismatchedNumberTypes ∧
          a.subtract b = .error .mismatchedNumberTypes ∧
          a.multiply b = .error .mismatchedNumberTypes ∧
          a.divide b = .error .mismatchedNumberTypes ∧
          a.compare b = .error .mismatchedNumberTypes ∧
          ∀ operator, Number.relational operator a b = .error .mismatchedNumberTypes := by
  refine ⟨fun _ _ => Value.equals_symm, fun _ _ _ => Value.equals_trans, fun _ => Value.equals_self,
    Number.int_equals_float, fun _ _ => Value.equals_of_variants, fun a b same => ?_,
    fun a b apart => ?_⟩
  · refine ⟨Number.compare_eq_iff same, Number.holds_lessEquals same, Number.holds_greater same,
      Number.trichotomy same, fun unordered operator _ => ?_⟩
    exact Number.relational_of_unordered same (Number.unordered_iff.mpr unordered) _
  · exact Number.mismatched apart

/-- The largest integers around a float that stands for one of them, the zeros, a number and none,
and equal numbers that cannot be added. -/
theorem equality_coherent_corners :
    (Value.number (.int 16777216)).equals (.number (.float ⟨0x4b800000⟩)) = true ∧
      (Value.number (.int 16777217)).equals (.number (.float ⟨0x4b800000⟩)) = false ∧
      Value.equals (.number (.float ⟨0x80000000⟩)) (.number (.int 0)) = true ∧
      Value.equals (.number (.int 0)) (.number (.float ⟨0⟩)) = true ∧
      Value.equals (.number (.float ⟨0x80000000⟩)) (.number (.float ⟨0⟩)) = true ∧
      (Value.bool true).equals (.string "true") = false ∧
      ¬ Number.Holds .less (.float ⟨0x80000000⟩) (.float ⟨0⟩) ∧
      Number.relational (.symbol .lessEquals) (.float .nan) (.float .nan) = .ok false ∧
      (Number.int 5).equals (.float ⟨0x40a00000⟩) = true ∧
      (Number.int 5).add (.float ⟨0x40a00000⟩) = .error .mismatchedNumberTypes := by
  obtain ⟨symm, trans, -, -, variants, kinds, mismatched⟩ := equality_coherent
  have left : Value.equals (.number (.float ⟨0x80000000⟩)) (.number (.int 0)) = true := by
    decide +kernel
  have right : Value.equals (.number (.int 0)) (.number (.float ⟨0⟩)) = true := by decide +kernel
  have zeros := trans _ _ _ left right
  obtain ⟨-, -, -, three, -⟩ := kinds (.float ⟨0x80000000⟩) (.float ⟨0⟩) trivial
  obtain ⟨-, -, -, -, none⟩ := kinds (.float .nan) (.float .nan) trivial
  refine ⟨symm (.number (.float ⟨0x4b800000⟩)) _ (by decide +kernel), by decide +kernel, left,
    right, zeros, variants _ _ id, ?_, none (.inl (by decide)) _ (by decide), by decide +kernel,
    (mismatched (.int 5) (.float ⟨0x40a00000⟩) id).1⟩
  rcases three (by decide) (by decide) with ⟨-, apart, -⟩ | ⟨less, -⟩ | ⟨less, -⟩
  · exact absurd (zeros.symm.trans apart) (by decide)
  · exact less
  · exact less

end Script
