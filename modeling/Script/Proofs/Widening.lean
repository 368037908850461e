import Mathlib.Algebra.Order.Ring.Int
import Mathlib.Tactic.Ring
import Script.Number

set_option autoImplicit false

/- Widening is exact. A whole number of units that has at most 53 binary digits in front of its
zeros is a double, so rounding leaves it alone; and every integer and every single precision number
is one. Numbers are therefore equal if and only if their exact values are. -/
namespace Script

namespace Binary64

/-- A significand in the spacing of a binade. It fills the binade, unless that is the first one. -/
structure Fills (significand binade : Nat) : Prop where
  small : significand < 0x20000000000000
  full : 0x10000000000000 ≤ significand ∨ binade = 0
  finite : binade ≤ 2045

namespace Fills

variable {significand binade : Nat}

/-- A pattern counts the steps of the binades before its own and those in its own. -/
theorem unitsOf (fills : Fills significand binade) :
    Binary64.unitsOf (binade * 0x10000000000000 + significand) = significand * 2 ^ binade := by
  have small := fills.small
  unfold Binary64.unitsOf
  rcases Nat.lt_or_ge significand 0x10000000000000 with below | full
  · obtain rfl : binade = 0 := fills.full.resolve_left (by omega)
    have exponent : (0 * 0x10000000000000 + significand) / 0x10000000000000 = 0 := by omega
    have fraction : (0 * 0x10000000000000 + significand) % 0x10000000000000 = significand := by
      omega
    simp only [exponent, fraction, ↓reduceIte, pow_zero, Nat.mul_one]
  · have exponent :
        (binade * 0x10000000000000 + significand) / 0x10000000000000 = binade + 1 := by omega
    have fraction :
        0x10000000000000 + (binade * 0x10000000000000 + significand) % 0x10000000000000 =
          significand := by omega
    simp only [exponent, fraction, Nat.add_one_ne_zero, ↓reduceIte, Nat.add_sub_cancel]
    rfl

theorem finite_bits (fills : Fills significand binade) :
    binade * 0x10000000000000 + significand < infinityBits := by
  have small := fills.small
  have finite := fills.finite
  unfold infinityBits
  omega

end Fills

/-- A whole number of units that a significand in some spacing amounts to. -/
def Representable (units : Nat) : Prop :=
  ∃ significand spacing, significand < 0x20000000000000 ∧ spacing ≤ 2000 ∧
    units = significand * 2 ^ spacing

/-- Zeros behind a significand only move it. -/
theorem representable_shiftLeft {significand spacing places : Nat}
    (few : significand < 0x20000000000000) (near : spacing + places ≤ 2000) :
    Representable ((significand * Nat.pow 2 spacing) <<< places) := by
  refine ⟨significand, spacing + places, few, near, ?_⟩
  rw [Nat.shiftLeft_eq, Nat.pow_eq, Nat.pow_add, Nat.mul_assoc]

/-- The binade of a representable number measures it exactly. -/
theorem Representable.measured {units : Nat} (representable : Representable units) :
    ∃ significand, units = significand * 2 ^ (units.log2 - 52) ∧
      Fills significand (units.log2 - 52) := by
  obtain ⟨digits, spacing, few, near, is⟩ := representable
  rcases Nat.eq_zero_or_pos units with rfl | positive
  · exact ⟨0, by simp, by decide, .inr (by simp), by simp⟩
  have least : 2 ^ units.log2 ≤ units := Nat.log2_self_le positive.ne'
  have most : units < 2 ^ (units.log2 + 1) := Nat.lt_log2_self
  have apart : units.log2 < 53 + spacing := by
    have below : units < 2 ^ (53 + spacing) := by
      rw [is, Nat.pow_add]
      exact Nat.mul_lt_mul_of_pos_right few (Nat.two_pow_pos spacing)
    exact (Nat.pow_lt_pow_iff_right (by decide)).mp (Nat.lt_of_le_of_lt least below)
  have divides : 2 ^ (units.log2 - 52) ∣ units := by
    refine Nat.dvd_trans (Nat.pow_dvd_pow 2 (by omega)) (?_ : 2 ^ spacing ∣ units)
    rw [is]
    exact Nat.dvd_mul_left _ _
  have whole : units = units / 2 ^ (units.log2 - 52) * 2 ^ (units.log2 - 52) :=
    (Nat.div_mul_cancel divides).symm
  refine ⟨units / 2 ^ (units.log2 - 52), whole, ?_, ?_, by omega⟩
  · apply (Nat.div_lt_iff_lt_mul (Nat.two_pow_pos _)).mpr
    refine Nat.lt_of_lt_of_le most ?_
    have factored : (0x20000000000000 : Nat) = 2 ^ 53 := by decide
    rw [factored, ← Nat.pow_add]
    exact Nat.pow_le_pow_right (by decide) (by omega)
  · rcases Nat.lt_or_ge units.log2 52 with first | later
    · exact .inr (by omega)
    · refine .inl ((Nat.le_div_iff_mul_le (Nat.two_pow_pos _)).mpr ?_)
      have factored : (0x10000000000000 : Nat) = 2 ^ 52 := by decide
      rw [factored, ← Nat.pow_add]
      exact Nat.le_trans (Nat.pow_le_pow_right (by decide) (by omega)) least

/-- A quotient without a remainder is not rounded. -/
theorem roundHalfEven_exact (quotient : Nat) {divisor : Nat} (positive : 0 < divisor) :
    Binary32.roundHalfEven (quotient * divisor) divisor = quotient := by
  unfold Binary32.roundHalfEven
  simp only [Nat.mul_mod_left, Nat.mul_div_cancel _ positive, Nat.mul_zero, positive, ↓reduceIte]

/-- Rounding leaves a representable number alone, and it is finite. -/
theorem Representable.unitsOf_nearest {units : Nat} (representable : Representable units) :
    unitsOf (nearest units) = units ∧ nearest units < infinityBits := by
  obtain ⟨significand, is, fills⟩ := representable.measured
  have rounded : nearest units = (units.log2 - 52) * 0x10000000000000 + significand := by
    have exact := roundHalfEven_exact significand (Nat.two_pow_pos (units.log2 - 52))
    rw [← is] at exact
    unfold nearest
    dsimp only
    rw [Nat.pow_eq, exact, Nat.min_eq_right fills.finite_bits.le]
  rw [rounded]
  exact ⟨fills.unitsOf.trans is.symm, fills.finite_bits⟩

section Parts

variable (negative : Bool) {magnitude : Nat} (below : magnitude < 0x8000000000000000)
include below

theorem magnitude_ofParts : (ofParts negative magnitude).magnitude = magnitude := by
  unfold ofParts Binary64.magnitude
  cases negative <;> simp only [UInt64.toNat_ofNat', Bool.false_eq_true, ↓reduceIte] <;> omega

theorem negative_ofParts : (ofParts negative magnitude).negative = negative := by
  unfold ofParts Binary64.negative
  cases negative <;>
    simp only [UInt64.toNat_ofNat', Bool.false_eq_true, ↓reduceIte, decide_eq_true_eq,
      decide_eq_false_iff_not] <;> omega

end Parts

/-- Infinity of either sign is no number of units. -/
theorem denotation_infinity (negative : Bool) :
    denotation (infinity negative) = .infinite negative := by
  have below : infinityBits < 0x8000000000000000 := by decide
  unfold infinity denotation
  rw [magnitude_ofParts negative below, negative_ofParts negative below,
    if_neg (Nat.lt_irrefl _), if_pos rfl]

end Binary64

/-- What is denoted in units that stand so many more binary places behind the point. -/
def Binary32.Denotation.refined (places : Nat) : Binary32.Denotation → Binary32.Denotation
  | .finite units => .finite (units * Nat.pow 2 places)
  | denoted => denoted

theorem Binary32.Denotation.refined_signed (places : Nat) (negative : Bool) (units : Nat) :
    refined places (.finite (if negative then -(units : Int) else units)) =
      .finite (if negative then -((units <<< places : Nat) : Int)
        else (units <<< places : Nat)) := by
  rw [Nat.shiftLeft_eq, Nat.cast_mul, refined, Nat.pow_eq]
  cases negative <;> simp only [Bool.false_eq_true, ↓reduceIte, Int.neg_mul]

namespace Binary64

/-- Units of single precision that are representable as units of double precision denote
themselves. -/
theorem denotation_ofUnits (negative : Bool) {units : Nat}
    (representable : Representable (units <<< further)) :
    denotation (ofUnits negative units) = Binary32.Denotation.refined further
      (.finite (if negative then -(units : Int) else units)) := by
  obtain ⟨exact, finite⟩ := representable.unitsOf_nearest
  have below : nearest (units <<< further) < 0x8000000000000000 := by
    unfold infinityBits at finite
    omega
  unfold ofUnits denotation
  rw [magnitude_ofParts negative below, negative_ofParts negative below, exact,
    if_neg finite.not_gt, if_neg finite.ne, Binary32.Denotation.refined_signed]

/-- An integer is a double. -/
theorem denotation_ofInt32 (value : Int32) :
    denotation (ofInt32 value) =
      Binary32.Denotation.refined further (.finite (value.toInt * Binary32.one)) := by
  have lower := value.le_toInt
  have upper := value.toInt_lt
  have representable : Representable ((value.toInt.natAbs * Binary32.one) <<< further) :=
    representable_shiftLeft (by omega) (by decide)
  unfold ofInt32
  rw [denotation_ofUnits _ representable, Nat.cast_mul]
  by_cases negative : value.toInt < 0
  · rw [decide_eq_true negative, if_pos rfl, ← Int.neg_mul, Int.ofNat_natAbs_of_nonpos negative.le,
      Int.neg_neg]
  · rw [decide_eq_false negative, if_neg Bool.false_ne_true, Int.natAbs_of_nonneg (by omega)]

/-- The units of a finite single precision number are representable. -/
theorem representable_units {x : Binary32} (finite : x.magnitude < Binary32.infinityBits) :
    Representable (x.units <<< further) := by
  unfold Binary32.infinityBits at finite
  unfold Binary32.units Binary32.unitsOf
  dsimp only
  split
  · have alone := representable_shiftLeft (by omega : x.magnitude % 0x800000 < 0x20000000000000)
      (by decide : 0 + further ≤ 2000)
    rwa [Nat.pow_eq, Nat.pow_zero, Nat.mul_one] at alone
  · have near : x.magnitude / 0x800000 - 1 + further ≤ 2000 := by
      unfold further
      omega
    exact representable_shiftLeft (by omega) near

/-- A single precision number is a double. -/
theorem denotation_ofBinary32 (x : Binary32) :
    denotation (ofBinary32 x) = x.denotation.refined further := by
  unfold ofBinary32 Binary32.denotation
  by_cases unordered : x.isNaN
  · rw [if_pos unordered, if_pos unordered]
    decide
  rw [if_neg unordered, if_neg unordered]
  by_cases unbounded : x.isInfinite
  · rw [if_pos unbounded, if_pos unbounded, denotation_infinity]
    rfl
  rw [if_neg unbounded, if_neg unbounded]
  have finite : x.magnitude < Binary32.infinityBits := by
    unfold Binary32.isNaN at unordered
    unfold Binary32.isInfinite at unbounded
    simp only [decide_eq_true_eq, beq_iff_eq] at unordered unbounded
    omega
  rw [denotation_ofUnits _ (representable_units finite)]
  rfl

end Binary64
end Script
