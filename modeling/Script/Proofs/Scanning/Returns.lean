import Script.Proofs.Reporting
import Script.Proofs.Scanning.Pieces
import Script.Text.Replace

set_option autoImplicit false

/- Carriage returns in front of line feeds. Without them a text is cut into the same words; only its
line breaks stand on other columns, since a carriage return is a character like any other to the
counting of columns. -/
namespace Script

/-- A text without the carriage returns in front of its line feeds. -/
def dropReturns : List Char → List Char
  | '\r' :: '\n' :: rest => '\n' :: dropReturns rest
  | char :: rest => char :: dropReturns rest
  | [] => []

section Dropping

variable {char : Char} {text behind : List Char}

theorem exists_of_dropped (dropped : ¬ (char ≠ '\r' ∨ behind.head? ≠ some '\n')) :
    ∃ rest, char = '\r' ∧ behind = '\n' :: rest := by
  obtain ⟨returns, breaks⟩ := not_or.mp dropped
  obtain ⟨rest, is⟩ := List.head?_eq_some_iff.mp (not_not.mp breaks)
  exact ⟨rest, not_not.mp returns, is⟩

theorem dropReturns_cons (kept : char ≠ '\r' ∨ behind.head? ≠ some '\n') :
    dropReturns (char :: behind) = char :: dropReturns behind := by
  rw [dropReturns]
  rintro rest rfl rfl
  simp at kept

/-- What has no carriage return in it is kept, whatever stands behind it. -/
theorem dropReturns_append (none : '\r' ∉ text) :
    dropReturns (text ++ behind) = text ++ dropReturns behind := by
  induction text with
  | nil => rfl
  | cons char rest ih =>
    obtain ⟨other, further⟩ := not_or.mp (List.mem_cons.not.mp none)
    rw [List.cons_append, dropReturns_cons (.inl (Ne.symm other)), ih further, List.cons_append]

/-- Of a line less may be left, and its line feed stays. -/
theorem dropReturns_line (single : '\n' ∉ text) :
    ∃ line, '\n' ∉ line ∧
      dropReturns (text ++ '\n' :: behind) = line ++ '\n' :: dropReturns behind := by
  induction text with
  | nil => exact ⟨[], List.not_mem_nil, dropReturns_cons (.inl (by decide))⟩
  | cons char rest ih =>
    obtain ⟨other, further⟩ := not_or.mp (List.mem_cons.not.mp single)
    obtain ⟨line, single', dropped⟩ := ih further
    by_cases kept : char ≠ '\r' ∨ (rest ++ '\n' :: behind).head? ≠ some '\n'
    · refine ⟨char :: line, ?_, ?_⟩
      · exact List.mem_cons.not.mpr (not_or.mpr ⟨other, single'⟩)
      · rw [List.cons_append, dropReturns_cons kept, dropped, List.cons_append]
    · -- The line ends with this carriage return.
      obtain ⟨more, rfl, feed⟩ := exists_of_dropped kept
      cases rest with
      | nil => exact ⟨[], List.not_mem_nil, rfl⟩
      | cons next rest =>
        obtain ⟨rfl, -⟩ := List.cons.inj feed
        exact absurd List.mem_cons_self further

theorem dropReturns_of_not_mem (single : '\n' ∉ text) : dropReturns text = text := by
  induction text with
  | nil => rfl
  | cons char rest ih =>
    obtain ⟨other, further⟩ := not_or.mp (List.mem_cons.not.mp single)
    have kept : rest.head? ≠ some '\n' := fun begins => further (List.mem_of_mem_head? begins)
    rw [dropReturns_cons (.inr kept), ih further]

/-- These are the texts in which every pair of a carriage return and a line feed is replaced. -/
theorem toList_replaceAll (source : String) :
    (Text.replaceAll source "\r\n" "\n").toList = dropReturns source.toList := by
  have pattern : "\r\n".toList = ['\r', '\n'] := rfl
  have replacement : "\n".toList = ['\n'] := rfl
  rw [Text.replaceAll, String.toList_ofList, pattern, replacement]
  generalize source.toList = text
  fun_induction dropReturns text with
  | case1 rest ih => simp [Text.replaceFrom, ih]
  | case2 char rest other ih =>
    have no : ['\r', '\n'].isPrefixOf (char :: rest) = false := by
      rw [Bool.eq_false_iff]
      intro begins
      obtain ⟨behind, whole⟩ := List.isPrefixOf_iff_prefix.mp begins
      obtain ⟨rfl, rfl⟩ := List.cons.inj whole
      exact other behind rfl rfl
    rw [Text.replaceFrom, no, if_neg (by decide), ih]
  | case3 => rfl

/-- Counting ends in the same place. -/
theorem after_dropReturns (text : List Char) (position : Position) :
    position.after (dropReturns text) = position.after text := by
  fun_induction dropReturns text generalizing position with
  | case1 rest ih => exact ih _
  | case2 char rest other ih => exact ih _
  | case3 => rfl

/-- What does not go on with a character does not do so without returns either. -/
theorem ends_dropReturns {kind : Char → Bool} (feed : kind '\n' = false)
    (ends : Piece.Ends kind behind) : Piece.Ends kind (dropReturns behind) := by
  cases behind with
  | nil => exact .nil
  | cons char rest =>
    by_cases kept : char ≠ '\r' ∨ rest.head? ≠ some '\n'
    · rw [dropReturns_cons kept]
      exact Piece.ends_cons.mpr (Piece.ends_cons.mp ends)
    · obtain ⟨more, rfl, rfl⟩ := exists_of_dropped kept
      exact Piece.ends_cons.mpr feed

end Dropping

theorem Position.after_line {text : List Char} (single : '\n' ∉ text) (position : Position) :
    (position.after text).line = position.line := by
  induction text generalizing position with
  | nil => rfl
  | cons char rest ih =>
    obtain ⟨other, further⟩ := not_or.mp (List.mem_cons.not.mp single)
    rw [Position.after_cons, ih further, Position.next, if_neg (Ne.symm other)]

namespace Piece

/-- A token or an error has no carriage return in it, save in quotation marks. -/
theorem not_mem_spelling {piece : Piece} (valid : piece.Valid) (solid : piece.isSkipped = false)
    (unquoted : '"' ∉ piece.spelling) : '\r' ∉ piece.spelling := by
  have digits {text : List Char} (valid : Digits text) : '\r' ∉ text := fun member =>
    absurd (valid.2 _ member) (by decide)
  cases piece with
  | blank | comment => cases solid
  | quoted | unclosed => exact absurd List.mem_cons_self unquoted
  | newline => decide
  | whole text => exact digits valid
  | decimal text fraction =>
    simp only [spelling, List.mem_append, List.mem_cons, not_or]
    exact ⟨digits valid.1, by decide, digits valid.2⟩
  | word letters =>
    intro member
    obtain ⟨starts, goes⟩ := valid
    rcases List.mem_cons.mp member with rfl | member
    · exact absurd starts (by decide)
    · exact absurd (goes _ member) (by decide)
  | symbol sign => cases sign <;> decide
  | stray char =>
    intro member
    obtain rfl := List.mem_singleton.mp member
    cases valid.1

/-- A piece goes on behind it as it did before. -/
theorem Apart.dropReturns {piece : Piece} {behind : List Char} (apart : piece.Apart behind) :
    piece.Apart (Script.dropReturns behind) := by
  refine apart.imp (fun body is => ?_) ends_dropReturns fun rest' begins => ?_
  · subst is
    rw [show behind = [] from apart]
    rfl
  · cases behind with
    | nil => cases begins
    | cons char rest =>
      by_cases kept : char ≠ '\r' ∨ rest.head? ≠ some '\n'
      · rw [dropReturns_cons kept] at begins
        obtain ⟨rfl, rfl⟩ := List.cons.inj begins
        exact ⟨rest, rfl, ends_dropReturns⟩
      · obtain ⟨_, rfl, rfl⟩ := exists_of_dropped kept
        cases begins

section Scan

variable {α : Type}

/-- What is made of the pieces of a text in their places. -/
def scan (make : Position → Piece → Option α) (position : Position) (text : List Char) : List α :=
  (located position (segment text)).filterMap fun (position, piece) => make position piece

/-- What is made of blanks and comments is nothing, and what is made of line breaks is related if
they stand on one line. -/
structure Linewise (related : α → α → Prop) (make : Position → Piece → Option α) : Prop where
  blank : ∀ position run, make position (.blank run) = none
  comment : ∀ position body, make position (.comment body) = none
  same : ∀ position piece, ∀ made ∈ make position piece, related made made
  newline : ∀ position position' : Position, position.line = position'.line →
    List.Forall₂ related (make position .newline).toList (make position' .newline).toList

variable {make : Position → Piece → Option α} {position : Position} {behind : List Char}

theorem scan_append {piece : Piece} (valid : piece.Valid) (apart : piece.Apart behind) :
    scan make position (piece.spelling ++ behind) =
      (make position piece).toList ++ scan make (position.after piece.spelling) behind := by
  rw [scan, segment_append valid apart, located, List.filterMap_cons]
  dsimp only
  cases make position piece <;> rfl

theorem scan_newline :
    scan make position ('\n' :: behind) =
      (make position .newline).toList ++ scan make ⟨position.line + 1, 1⟩ behind :=
  scan_append (show Piece.newline.Valid from trivial) trivial

variable {related : α → α → Prop} (linewise : Linewise related make)
include linewise

/-- Blanks are passed over one by one. -/
theorem scan_blank {char : Char} (blank : isBlank char = true) :
    scan make position (char :: behind) = scan make (position.next char) behind := by
  have run {run rest : List Char} {position : Position}
      (all : ∀ char ∈ run, isBlank char = true) (ends : Ends isBlank rest) :
      scan make position (run ++ rest) = scan make (position.after run) rest := by
    cases run with
    | nil => rfl
    | cons char run =>
      have valid : (Piece.blank (char :: run)).Valid := ⟨List.cons_ne_nil _ _, all⟩
      have passed : scan make position (char :: run ++ rest) = _ := scan_append valid ends
      rwa [linewise.blank] at passed
  have whole := List.takeWhile_append_dropWhile (p := isBlank) (l := behind)
  have ends : Ends isBlank (behind.dropWhile isBlank) :=
    ends_of_takeWhile whole
  have blanks : ∀ char ∈ behind.takeWhile isBlank, isBlank char = true :=
    fun _ member => List.mem_takeWhile_imp member
  rw [← whole, run blanks ends, ← List.cons_append,
    run (List.forall_mem_cons.mpr ⟨blank, blanks⟩) ends, Position.after_cons]

/-- Comments are passed over. -/
theorem scan_comment {body : List Char} (valid : (comment body).Valid)
    (apart : (comment body).Apart behind) :
    scan make position ('#' :: (body ++ behind)) =
      scan make (position.after ('#' :: body)) behind := by
  have cut : scan make position ((comment body).spelling ++ behind) = _ := scan_append valid apart
  rwa [linewise.comment] at cut

theorem Linewise.refl (position : Position) (text : List Char) :
    List.Forall₂ related (scan make position text) (scan make position text) := by
  refine List.forall₂_same.mpr fun made member => ?_
  obtain ⟨⟨position, piece⟩, -, found⟩ := List.mem_filterMap.mp member
  exact linewise.same position piece made found

/-- Without the returns in front of line feeds, the same is made of a text, save that line breaks
stand elsewhere on their lines. -/
theorem scan_dropReturns {text : List Char} (unquoted : '"' ∉ text) (position : Position) :
    List.Forall₂ related (scan make position text) (scan make position (dropReturns text)) := by
  induction size : text.length using Nat.strong_induction_on generalizing text position with
  | _ size ih =>
  subst size
  -- Lines behind line breaks on one line begin in the same place.
  have further {more : List Char} (shorter : more.length < text.length) (unquoted : '"' ∉ more)
      {first second : Position} (line : first.line = second.line) :
      List.Forall₂ related (scan make first ('\n' :: more))
        (scan make second ('\n' :: dropReturns more)) := by
    rw [scan_newline, scan_newline, line]
    exact List.rel_append (linewise.newline _ _ line) (ih _ shorter unquoted _ rfl)
  cases text with
  | nil =>
    rw [dropReturns, scan, segment]
    exact .nil
  | cons char rest =>
    obtain ⟨-, unquoted'⟩ := not_or.mp (List.mem_cons.not.mp unquoted)
    by_cases blank : isBlank char = true
    · by_cases kept : char ≠ '\r' ∨ rest.head? ≠ some '\n'
      · rw [dropReturns_cons kept, scan_blank linewise blank, scan_blank linewise blank]
        exact ih rest.length (Nat.lt_succ_self _) unquoted' _ rfl
      · obtain ⟨more, rfl, rfl⟩ := exists_of_dropped kept
        rw [dropReturns, scan_blank linewise blank]
        have shorter : more.length < ('\r' :: '\n' :: more).length := by
          simp only [List.length_cons]
          omega
        exact further shorter (List.not_mem_of_not_mem_cons unquoted') rfl
    · have whole := spelling_append_drop char rest
      have valid := first_valid char rest
      have apart := first_apart whole
      have filled := spelling_first_ne_nil char rest
      generalize first char rest = piece at whole valid apart filled
      generalize rest.drop (piece.spelling.length - 1) = behind at whole apart
      rw [← whole] at unquoted further ⊢
      obtain ⟨unquoted, unquoted'⟩ := not_or.mp (List.mem_append.not.mp unquoted)
      have shorter : behind.length < (char :: rest).length := by
        rw [← whole, List.length_append]
        have := List.length_pos_iff.mpr filled
        omega
      by_cases solid : piece.isSkipped = false
      · have none : '\r' ∉ piece.spelling := not_mem_spelling valid solid unquoted
        rw [dropReturns_append none, scan_append valid apart, scan_append valid apart.dropReturns]
        refine List.rel_append ?_ (ih _ shorter unquoted' _ rfl)
        exact List.forall₂_same.mpr fun made member =>
          linewise.same _ piece made (Option.mem_toList.mp member)
      · cases piece with
        | blank run =>
          obtain ⟨head, run, rfl⟩ := List.exists_cons_of_ne_nil valid.1
          obtain ⟨rfl, -⟩ := List.cons.inj whole
          exact absurd (valid.2 _ List.mem_cons_self) blank
        | comment body =>
          rw [spelling, List.cons_append, dropReturns_cons (.inl (by decide))]
          cases behind with
          | nil =>
            rw [List.append_nil, dropReturns_of_not_mem valid]
            exact linewise.refl _ _
          | cons next more =>
            obtain rfl : next = '\n' := by simpa [Apart, ends_cons] using apart
            obtain ⟨body', valid', dropped⟩ := dropReturns_line valid
            have apart' : (comment body').Apart ('\n' :: dropReturns more) := apart
            rw [dropped, scan_comment linewise valid apart, scan_comment linewise valid' apart']
            have line {body : List Char} (valid : '\n' ∉ body) :
                (position.after ('#' :: body)).line = position.line :=
              Position.after_line (List.mem_cons.not.mpr (not_or.mpr ⟨by decide, valid⟩)) position
            refine further ?_ (List.not_mem_of_not_mem_cons unquoted')
              ((line valid).trans (line valid').symm)
            simp only [spelling, List.length_append, List.length_cons]
            omega
        | _ => exact absurd rfl solid

end Scan

end Piece

end Script
