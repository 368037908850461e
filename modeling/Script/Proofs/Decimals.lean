import Script.Proofs.Scanning.Pieces
import Script.Proofs.Widening

set_option autoImplicit false

/- The text of a number is read as that number. A multiple of the units of a finite magnitude is
rounded back to the magnitude, so a whole number reads as itself, and so does the value of any
other number, which has at most 149 places. Among fewer places the text takes only what reads as
the same magnitude, too. The scanner finds one decimal in the text, from its first digit to its
last. -/
namespace Script

namespace Binary32

variable {magnitude : Nat}

/-- The binade in which a number of units is measured is the one of its magnitude, and a magnitude
counts the steps of the binades before its own and those in its own. -/
theorem unitsOf_measured (magnitude : Nat) :
    ∃ significand, magnitude = ((unitsOf magnitude).log2 - 23) * 0x800000 + significand ∧
      unitsOf magnitude = significand * 2 ^ ((unitsOf magnitude).log2 - 23) := by
  by_cases first : magnitude / 0x800000 = 0
  · have alone : unitsOf magnitude = magnitude := by
      simp only [unitsOf, first, ↓reduceIte]
      omega
    have binade : magnitude.log2 - 23 = 0 := by
      rcases Nat.eq_zero_or_pos magnitude with rfl | positive
      · rfl
      · have below := (Nat.log2_lt positive.ne').mpr (by omega : magnitude < 2 ^ 23)
        omega
    rw [alone, binade]
    exact ⟨magnitude, by omega, by omega⟩
  · have spread : unitsOf magnitude =
        (0x800000 + magnitude % 0x800000) * 2 ^ (magnitude / 0x800000 - 1) := by
      simp only [unitsOf, first, ↓reduceIte]
      rfl
    have binade : (unitsOf magnitude).log2 = 23 + (magnitude / 0x800000 - 1) := by
      have positive := Nat.two_pow_pos (magnitude / 0x800000 - 1)
      rw [spread, Nat.log2_eq_iff (Nat.mul_ne_zero (by omega) positive.ne')]
      rw [Nat.pow_add, Nat.add_right_comm, Nat.pow_add]
      exact ⟨Nat.mul_le_mul_right _ (by omega), Nat.mul_lt_mul_of_pos_right (by omega) positive⟩
    rw [binade, Nat.add_sub_cancel_left]
    exact ⟨0x800000 + magnitude % 0x800000, by omega, spread⟩

/-- Whatever the scale, the units of a finite magnitude are rounded to the magnitude. -/
theorem nearest_units (finite : magnitude < infinityBits) {scale : Nat} (positive : 0 < scale) :
    nearest (unitsOf magnitude * scale) scale = magnitude := by
  obtain ⟨significand, is, units⟩ := unitsOf_measured magnitude
  unfold nearest
  rw [Nat.mul_div_cancel _ positive]
  generalize (unitsOf magnitude).log2 - 23 = binade at is units
  have spaced : unitsOf magnitude * scale = significand * (scale * Nat.pow 2 binade) := by
    rw [units, Nat.pow_eq]
    ring
  have wide : 0 < scale * Nat.pow 2 binade := Nat.mul_pos positive (Nat.two_pow_pos binade)
  dsimp only
  rw [spaced, Binary64.roundHalfEven_exact significand wide, ← is, Nat.min_eq_right finite.le]

theorem ofParts_magnitude {x : Binary32} (positive : x.negative = false) :
    ofParts false x.magnitude = x := by
  have small : x.bits.toNat < 0x80000000 := by simpa [negative] using positive
  simp [ofParts, magnitude, Nat.mod_eq_of_lt small]

theorem magnitude_lt {x : Binary32} (number : x.isNaN = false) (bounded : x.isInfinite = false) :
    x.magnitude < infinityBits := by
  simp only [isNaN, decide_eq_false_iff_not, isInfinite, beq_eq_false_iff_ne] at number bounded
  omega

/-- What is found reads as the magnitude, and something is found if the lower neighbour does. -/
theorem decimalAt?_reads (magnitude places : Nat) :
    (∀ digits, decimalAt? magnitude places = some digits →
      readsAs magnitude places digits = true) ∧
    (readsAs magnitude places (unitsOf magnitude * Nat.pow 10 places / one) = true →
      (decimalAt? magnitude places).isSome = true) := by
  -- The test multiplies by 2^149 and must not be evaluated when the cases are split. So the body
  -- is taken as a whole, and the test in it is made a variable first.
  have body : decimalAt? = decimalAt? := rfl
  conv_rhs at body => delta decimalAt?
  rw [congrFun (congrFun body magnitude) places]
  generalize readsAs magnitude places = reads
  dsimp only
  generalize unitsOf magnitude * Nat.pow 10 places / one = low
  split
  · next first second =>
    refine ⟨fun digits found => ?_, fun _ => rfl⟩
    cases found
    split
    · exact first
    · exact second
  · next first _ =>
    refine ⟨fun digits found => ?_, fun _ => rfl⟩
    cases found
    exact first
  · next _ second =>
    refine ⟨fun digits found => ?_, fun _ => rfl⟩
    cases found
    exact second
  · next first _ => exact ⟨nofun, fun passed => absurd (first.symm.trans passed) Bool.false_ne_true⟩

theorem two_pow_dvd (places units : Nat) : Nat.pow 2 places ∣ units * Nat.pow 10 places := by
  have factored : Nat.pow 10 places = 2 ^ places * 5 ^ places := Nat.mul_pow 2 5 places
  rw [factored]
  exact ⟨units * 5 ^ places, by rw [Nat.pow_eq]; ring⟩

/-- If the value has no more places than there are, then it is found. -/
theorem decimalAt?_isSome {places : Nat} (finite : magnitude < infinityBits)
    (whole : one ∣ unitsOf magnitude * Nat.pow 10 places) :
    (decimalAt? magnitude places).isSome = true := by
  have low : readsAs magnitude places (unitsOf magnitude * Nat.pow 10 places / one) = true := by
    unfold readsAs
    rw [Nat.div_mul_cancel whole, beq_iff_eq]
    exact nearest_units finite (Nat.pow_pos (by decide))
  exact (decimalAt?_reads magnitude places).2 low

/-- The shortest decimal of a finite magnitude has a place behind the point and reads as the
magnitude. -/
theorem shortestDecimal_reads (finite : magnitude < infinityBits) :
    0 < (shortestDecimal magnitude).1 ∧
      readsAs magnitude (shortestDecimal magnitude).1 (shortestDecimal magnitude).2 = true := by
  have present : ((List.range 149).findSome? fun index =>
      (decimalAt? magnitude (index + 1)).map fun digits => (index + 1, digits)).isSome = true := by
    rw [List.findSome?_isSome_iff]
    refine ⟨148, List.mem_range.mpr (by decide), ?_⟩
    rw [Option.isSome_map]
    exact decimalAt?_isSome finite (two_pow_dvd 149 _)
  obtain ⟨shortest, found⟩ := Option.isSome_iff_exists.mp present
  obtain ⟨index, -, held⟩ := List.exists_of_findSome?_eq_some found
  obtain ⟨digits, read, rfl⟩ := Option.map_eq_some_iff.mp held
  have is : shortestDecimal magnitude = (index + 1, digits) := by
    rw [shortestDecimal, found, Option.getD_some]
  rw [is]
  exact ⟨Nat.succ_pos index, (decimalAt?_reads ..).1 _ read⟩

end Binary32

open Piece (Digits)

theorem digits_toDigits (number : Nat) : Digits (Nat.toDigits 10 number) :=
  ⟨Nat.toDigits_ne_nil, fun _ member => Nat.isDigit_of_mem_toDigits (by decide) (by decide) member⟩

/-- A text of digits, a point and more digits, from which a magnitude is read. -/
structure Decimal (magnitude : Nat) (whole fraction : List Char) : Prop where
  ahead : Digits whole
  behind : Digits fraction
  reads : Binary32.ofDecimal whole fraction = Binary32.ofParts false magnitude

namespace Binary32

variable {magnitude : Nat}

/-- The digits behind the point are filled up, so they are as many as there are places. -/
theorem exists_decimalText {places : Nat} (behind : 0 < places) (digits : Nat) :
    ∃ whole fraction, Digits whole ∧ Digits fraction ∧
      decimalText places digits = whole ++ '.' :: fraction ∧ fraction.length = places ∧
        Nat.ofDigitChars 10 (whole ++ fraction) 0 = digits := by
  have remainder : digits % 10 ^ places < 10 ^ places := Nat.mod_lt _ (Nat.pow_pos (by decide))
  have fits : (Nat.toDigits 10 (digits % 10 ^ places)).length ≤ places :=
    (Nat.length_toDigits_le_iff (by decide) behind).mpr remainder
  refine ⟨_, _, digits_toDigits _, ⟨?_, fun char member => ?_⟩, rfl, ?_, ?_⟩
  · exact List.append_ne_nil_of_right_ne_nil _ Nat.toDigits_ne_nil
  · rcases List.mem_append.mp member with zero | digit
    · rw [List.eq_of_mem_replicate zero]
      decide
    · exact (digits_toDigits _).2 char digit
  · rw [List.length_append, List.length_replicate]
    exact Nat.sub_add_cancel fits
  · rw [Nat.pow_eq, Nat.ofDigitChars_append, Nat.ofDigitChars_ten_toDigits,
      Nat.ofDigitChars_append, Nat.ofDigitChars_replicate_zero,
      Nat.ofDigitChars_eq_ofDigitChars_zero, Nat.ofDigitChars_ten_toDigits, ← Nat.mul_assoc,
      ← Nat.pow_add, Nat.add_sub_cancel' fits]
    exact Nat.div_add_mod digits (10 ^ places)

/-- The digits of a text that reads as a magnitude give the magnitude. -/
theorem ofDecimal_of_readsAs {whole fraction : List Char}
    (reads : readsAs magnitude fraction.length (Nat.ofDigitChars 10 (whole ++ fraction) 0) = true) :
    ofDecimal whole fraction = ofParts false magnitude := by
  unfold readsAs at reads
  rw [ofDecimal, ofQuotient, eq_of_beq reads]

/-- The text of a finite magnitude is a decimal that reads as it. A whole number is written with a
place behind the point. -/
theorem magnitudeText_decimal (finite : magnitude < infinityBits) :
    ∃ whole fraction, magnitudeText magnitude = whole ++ '.' :: fraction ∧
      Decimal magnitude whole fraction := by
  unfold magnitudeText
  dsimp only
  split
  · next exact =>
    have point : Digits ['0'] := ⟨List.cons_ne_nil _ _, List.forall_mem_singleton.mpr rfl⟩
    refine ⟨_, ['0'], rfl, digits_toDigits _, point, ofDecimal_of_readsAs ?_⟩
    have value : Nat.ofDigitChars 10 (Nat.toDigits 10 (unitsOf magnitude / one) ++ ['0']) 0 * one =
        unitsOf magnitude * 10 := by
      rw [Nat.ofDigitChars_append, Nat.ofDigitChars_ten_toDigits, Nat.ofDigitChars_cons,
        Nat.ofDigitChars_nil, Nat.sub_self, Nat.add_zero, Nat.mul_assoc,
        Nat.div_mul_cancel (Nat.dvd_of_mod_eq_zero exact), Nat.mul_comm]
    unfold readsAs
    rw [value, beq_iff_eq]
    exact nearest_units finite (by decide)
  · obtain ⟨behind, reads⟩ := shortestDecimal_reads finite
    obtain ⟨whole, fraction, ahead, filled, text, places, value⟩ :=
      exists_decimalText behind (shortestDecimal magnitude).2
    refine ⟨whole, fraction, text, ahead, filled, ofDecimal_of_readsAs ?_⟩
    rw [places, value]
    exact reads

end Binary32

/-- A decimal is scanned as one token, and nothing else is found in it. -/
theorem tokenize_decimal {magnitude : Nat} {whole fraction : List Char}
    (decimal : Decimal magnitude whole fraction) :
    tokenize (String.ofList (whole ++ '.' :: fraction)) =
      ⟨[⟨.float, String.ofList (whole ++ '.' :: fraction),
          some (.number (.float (.ofParts false magnitude))), .start⟩,
        .endOfFile (Position.start.after (whole ++ '.' :: fraction))], []⟩ := by
  have valid : (Piece.decimal whole fraction).Valid := ⟨decimal.ahead, decimal.behind⟩
  have pieces : Piece.segment (whole ++ '.' :: fraction) = [.decimal whole fraction] := by
    have cut := Piece.segment_append valid (Piece.apart_nil _)
    rw [List.append_nil] at cut
    rw [Piece.spelling] at cut
    simpa [Piece.segment] using cut
  unfold tokenize
  rw [String.toList_ofList, pieces, ← decimal.reads]
  rfl

/-- A finite number is the text of its magnitude, behind a minus sign if its sign bit is set. -/
theorem Number.display_finite {x : Binary32} (number : x.isNaN = false)
    (bounded : x.isInfinite = false) :
    (Number.float x).display =
      String.ofList ((if x.negative then ['-'] else []) ++ Binary32.magnitudeText x.magnitude) := by
  rw [Number.display, Binary32.display, number, bounded]
  generalize Binary32.magnitudeText x.magnitude = text
  cases x.negative <;>
    simp only [Bool.false_eq_true, ↓reduceIte, List.nil_append, List.cons_append]

/-- A finite number is written as a decimal, behind a minus sign if its sign bit is set. The text of
one without the sign bit is scanned as one token, which holds that very number. -/
theorem Number.display_scans_back {x : Binary32} (number : x.isNaN = false)
    (bounded : x.isInfinite = false) :
    (∃ whole fraction, Digits whole ∧ Digits fraction ∧ (Number.float x).display =
      String.ofList ((if x.negative then ['-'] else []) ++ (whole ++ '.' :: fraction))) ∧
    (x.negative = false → tokenize (Number.float x).display =
      ⟨[⟨.float, (Number.float x).display, some (.number (.float x)), .start⟩,
        .endOfFile (Position.start.after (Number.float x).display.toList)], []⟩) := by
  obtain ⟨whole, fraction, text, decimal⟩ :=
    Binary32.magnitudeText_decimal (Binary32.magnitude_lt number bounded)
  have display := display_finite number bounded
  rw [text] at display
  refine ⟨⟨whole, fraction, decimal.ahead, decimal.behind, display⟩, fun positive => ?_⟩
  rw [positive, if_neg Bool.false_ne_true, List.nil_append] at display
  have scanned := tokenize_decimal decimal
  rw [Binary32.ofParts_magnitude positive] at scanned
  rw [display, String.toList_ofList]
  exact scanned

/-- The smallest number above zero: its text has 45 places. -/
theorem Number.display_scans_back_smallest :
    Binary32.isNaN ⟨1⟩ = false ∧ Binary32.isInfinite ⟨1⟩ = false ∧
      Binary32.negative ⟨1⟩ = false ∧
      (Number.float ⟨1⟩).display = "0.000000000000000000000000000000000000000000001" ∧
      tokenize "0.000000000000000000000000000000000000000000001" =
        ⟨[⟨.float, "0.000000000000000000000000000000000000000000001",
            some (.number (.float ⟨1⟩)), .start⟩,
          .endOfFile (Position.start.after
            "0.000000000000000000000000000000000000000000001".toList)], []⟩ := by
  have display : (Number.float ⟨1⟩).display =
      "0.000000000000000000000000000000000000000000001" := by decide +kernel
  have scanned := (Number.display_scans_back (by decide : Binary32.isNaN ⟨1⟩ = false)
    (by decide)).2 (by decide)
  rw [display] at scanned
  exact ⟨by decide, by decide, by decide, display, scanned⟩

end Script
