import Mathlib.Data.List.Basic
import Script.Diagnostic
import Script.Proofs.Scanning.Pieces

set_option autoImplicit false

/- Places in a text and the lines of the text. The line and the column that are counted over the
text before a place say on which line the place is, and how much of the line stands before it. What
is shown of a line stands between its indentation and the white space at its end. -/
namespace Script

open Piece (Ends takeWhile_of_ends dropWhile_of_ends)

/-- What stands before the first line feed of a text is its first line. -/
theorem splitLines_eq_cons (text : List Char) :
    ∃ lines, splitLines text = text.takeWhile (· ≠ '\n') :: lines := by
  induction text with
  | nil => exact ⟨[], rfl⟩
  | cons char rest ih =>
    obtain ⟨lines, shape⟩ := ih
    by_cases breaks : char = '\n'
    · exact ⟨splitLines rest, by simp [splitLines, breaks]⟩
    · exact ⟨lines, by simp [splitLines, breaks, shape]⟩

/-- A text without a line feed is one line. -/
theorem splitLines_of_not_mem {text : List Char} (single : '\n' ∉ text) :
    splitLines text = [text] := by
  induction text with
  | nil => rfl
  | cons char rest ih =>
    have solid : char ≠ '\n' := fun breaks => single (breaks ▸ List.mem_cons_self)
    have behind : '\n' ∉ rest := fun member => single (List.mem_cons_of_mem char member)
    simp [splitLines, solid, ih behind]

/-- A place counted from a position: so many lines further on stands a line that begins with as
many characters as the column tells, and goes on with what stands behind the place. -/
theorem splitLines_after (position : Position) (before behind : List Char) :
    ∃ count front, (position.after before).line = position.line + count ∧
      (splitLines (before ++ behind))[count]? = some (front ++ behind.takeWhile (· ≠ '\n')) ∧
      (position.after before).column =
        (if count = 0 then position.column else 1) + front.length := by
  induction before generalizing position with
  | nil =>
    obtain ⟨lines, shape⟩ := splitLines_eq_cons behind
    exact ⟨0, [], by simp, by simp [shape], by simp⟩
  | cons char rest ih =>
    obtain ⟨count, front, line, found, column⟩ := ih (position.next char)
    obtain ⟨lines, shape⟩ := splitLines_eq_cons (rest ++ behind)
    by_cases breaks : char = '\n'
    · have next : position.next char = ⟨position.line + 1, 1⟩ := by simp [Position.next, breaks]
      rw [next] at line column
      refine ⟨count + 1, front, ?_, ?_, ?_⟩
      · rw [Position.after_cons, next, line]
        show position.line + 1 + count = position.line + (count + 1)
        omega
      · simpa [splitLines, breaks] using found
      · rw [Position.after_cons, next, column]
        simp
    · have next : position.next char = ⟨position.line, position.column + 1⟩ := by
        simp [Position.next, breaks]
      have split : splitLines (char :: (rest ++ behind)) =
          (char :: (rest ++ behind).takeWhile (· ≠ '\n')) :: lines := by
        simp [splitLines, breaks, shape]
      rw [next] at line column
      cases count with
      | zero =>
        refine ⟨0, char :: front, ?_, ?_, ?_⟩
        · rw [Position.after_cons, next, line]
        · rw [shape] at found
          simp only [List.getElem?_cons_zero, Option.some.injEq] at found
          rw [List.cons_append, split, List.getElem?_cons_zero, found, List.cons_append]
        · rw [Position.after_cons, next, column, List.length_cons]
          simp only [↓reduceIte]
          omega
      | succ count =>
        refine ⟨count + 1, front, ?_, ?_, ?_⟩
        · rw [Position.after_cons, next, line]
        · rw [List.cons_append, split, List.getElem?_cons_succ]
          rw [shape, List.getElem?_cons_succ] at found
          exact found
        · rw [Position.after_cons, next, column]
          simp

/-- A place in a text at which the text ends or goes on with something other than indentation. -/
def Pointed (text : List Char) (position : Position) : Prop :=
  ∃ before behind, text = before ++ behind ∧ position = Position.start.after before ∧
    ∀ char ∈ behind.head?, Diagnostic.isIndent char = false

/-- How many blanks and tabs a line begins with. -/
def indentation (line : List Char) : Nat := (line.takeWhile Diagnostic.isIndent).length

/-- Indentation ends at a character that is none. -/
theorem indentation_append {front rest : List Char} (ends : Ends Diagnostic.isIndent rest) :
    indentation (front ++ rest) ≤ front.length := by
  have none : rest.takeWhile Diagnostic.isIndent = [] :=
    takeWhile_of_ends (List.forall_mem_nil _) ends
  unfold indentation
  rw [List.takeWhile_append, none, List.append_nil]
  split
  · exact Nat.le_refl _
  · exact (List.takeWhile_prefix _).length_le

theorem stripReturn_parts (line : List Char) :
    ∃ ending, line = stripReturn line ++ ending ∧ ∀ char ∈ ending, char = '\r' := by
  unfold stripReturn
  split
  · next returns =>
    exact ⟨['\r'], (List.dropLast_append_getLast? _ returns).symm, by simp⟩
  · exact ⟨[], (List.append_nil line).symm, List.forall_mem_nil _⟩

/-- A line begins with no less indentation than its front. -/
theorem indentation_stripReturn (line : List Char) :
    indentation (stripReturn line) ≤ indentation line := by
  obtain ⟨rest, whole, -⟩ := stripReturn_parts line
  unfold indentation
  conv => rhs; rw [whole, List.takeWhile_append]
  split
  · next all => rw [List.length_append]; omega
  · exact Nat.le_refl _

namespace Pointed

variable {text : List Char} {position : Position}

/-- The line of a place in a text: the column tells how much of it stands before the place. -/
theorem line (pointed : Pointed text position) :
    1 ≤ position.line ∧ ∃ raw, (splitLines text)[position.line - 1]? = some raw ∧
      position.column ≤ raw.length + 1 ∧ indentation (stripReturn raw) < position.column := by
  obtain ⟨before, behind, rfl, rfl, ends⟩ := pointed
  obtain ⟨count, front, line, found, column⟩ := splitLines_after .start before behind
  have first : Position.start.line = 1 := rfl
  have counted : (Position.start.after before).line - 1 = count := by omega
  have solid : ∀ char ∈ (behind.takeWhile (· ≠ '\n')).head?, Diagnostic.isIndent char = false := by
    intro char member
    cases behind with
    | nil => cases member
    | cons next rest =>
      by_cases breaks : next = '\n'
      · simp [breaks] at member
      · simp only [ne_eq, breaks, not_false_eq_true, decide_true, List.takeWhile_cons_of_pos,
          List.head?_cons, Option.mem_some_iff] at member
        exact ends char (by simp [member])
  have width : (Position.start.after before).column = front.length + 1 := by
    rw [column, Nat.add_comm]
    split <;> rfl
  refine ⟨by omega, _, counted ▸ found, ?_, ?_⟩
  · rw [List.length_append]
    omega
  · have indented : indentation (front ++ behind.takeWhile (· ≠ '\n')) ≤ front.length :=
      indentation_append solid
    have stripped := indentation_stripReturn (front ++ behind.takeWhile (· ≠ '\n'))
    omega

end Pointed

theorem Text.trimEnd_parts (text : List Char) :
    ∃ spaces, text = trimEnd text ++ spaces ∧ (∀ char ∈ spaces, isSpace char = true) ∧
      ∀ char ∈ (trimEnd text).getLast?, isSpace char = false := by
  refine ⟨(text.reverse.takeWhile isSpace).reverse, ?_, ?_, ?_⟩
  · rw [trimEnd, ← List.reverse_append, List.takeWhile_append_dropWhile, List.reverse_reverse]
  · exact fun char member => List.mem_takeWhile_imp (List.mem_reverse.mp member)
  · intro char member
    rw [trimEnd, List.getLast?_reverse, Option.mem_def] at member
    have solid := List.head?_dropWhile_not isSpace text.reverse
    simpa [member] using solid

/-- A line falls into its indentation, what is shown of it, and white space. -/
inductive Trims : List Char → List Char → List Char → Prop where
  | intro {indent shown spaces : List Char}
      (indented : ∀ char ∈ indent, char = ' ' ∨ char = '\t')
      (begins : ∀ char ∈ (shown ++ spaces).head?, char ≠ ' ' ∧ char ≠ '\t')
      (ends : ∀ char ∈ shown.getLast?, Text.isSpace char = false)
      (white : ∀ char ∈ spaces, Text.isSpace char = true) :
      Trims (indent ++ (shown ++ spaces)) indent shown

namespace Trims

theorem isIndent_iff {char : Char} :
    Diagnostic.isIndent char = true ↔ char = ' ' ∨ char = '\t' := by
  simp [Diagnostic.isIndent]

theorem ends_isIndent {text : List Char}
    (begins : ∀ char ∈ text.head?, char ≠ ' ' ∧ char ≠ '\t') : Ends Diagnostic.isIndent text := by
  intro char member
  simpa [Diagnostic.isIndent] using begins char member

/-- A carriage return that is left out of a line is white space at its end. -/
theorem of_stripReturn (raw : List Char) :
    Trims raw ((stripReturn raw).takeWhile Diagnostic.isIndent)
      (Text.trimEnd ((stripReturn raw).dropWhile Diagnostic.isIndent)) := by
  obtain ⟨ending, whole, returned⟩ := stripReturn_parts raw
  generalize stripReturn raw = line at whole ⊢
  obtain ⟨spaces, cut, white, ends⟩ := Text.trimEnd_parts (line.dropWhile Diagnostic.isIndent)
  have parts : raw = line.takeWhile Diagnostic.isIndent ++
      (Text.trimEnd (line.dropWhile Diagnostic.isIndent) ++ (spaces ++ ending)) := by
    rw [← List.append_assoc (Text.trimEnd _), ← cut, ← List.append_assoc,
      List.takeWhile_append_dropWhile, whole]
  rw [parts]
  refine .intro (fun char member => isIndent_iff.mp (List.mem_takeWhile_imp member)) ?_ ends ?_
  · rw [← List.append_assoc, ← cut]
    intro char member
    cases behind : line.dropWhile Diagnostic.isIndent with
    | nil =>
      rw [behind, List.nil_append] at member
      cases returned char (List.mem_of_mem_head? member)
      decide
    | cons first rest =>
      have solid := List.head?_dropWhile_not Diagnostic.isIndent line
      rw [behind] at member solid
      cases member
      simpa [Diagnostic.isIndent] using solid
  · intro char member
    rcases List.mem_append.mp member with inside | last
    · exact white char inside
    · cases returned char last
      decide

variable {raw indent shown : List Char}

theorem indent_eq (trims : Trims raw indent shown) :
    indent = raw.takeWhile Diagnostic.isIndent := by
  cases trims with
  | intro indented begins =>
    have all : ∀ char ∈ indent, Diagnostic.isIndent char = true :=
      fun char member => isIndent_iff.mpr (indented char member)
    exact (takeWhile_of_ends all (ends_isIndent begins)).symm

theorem shown_eq (trims : Trims raw indent shown) :
    shown = Text.trimEnd (raw.dropWhile Diagnostic.isIndent) := by
  cases trims with
  | @intro indent shown spaces indented begins ends white =>
    have first : ∀ char ∈ indent, Diagnostic.isIndent char = true :=
      fun char member => isIndent_iff.mpr (indented char member)
    have front : Ends Text.isSpace shown.reverse := by
      rw [Ends, List.head?_reverse]
      exact ends
    have last : ∀ char ∈ spaces.reverse, Text.isSpace char = true :=
      fun char member => white char (List.mem_reverse.mp member)
    rw [dropWhile_of_ends first (ends_isIndent begins), Text.trimEnd, List.reverse_append,
      dropWhile_of_ends last front, List.reverse_reverse]

/-- What is shown of a line stands in it behind the indentation. -/
theorem getElem? (trims : Trims raw indent shown) {index : Nat} {char : Char}
    (found : shown[index]? = some char) : raw[indent.length + index]? = some char := by
  cases trims with
  | intro =>
    rw [List.getElem?_append_right (Nat.le_add_right ..), Nat.add_sub_cancel_left,
      List.getElem?_append_left (List.getElem?_eq_some_iff.mp found).1]
    exact found

end Trims
end Script
