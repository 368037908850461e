import Mathlib.Data.Nat.Digits.Defs
import Script.Program
import Script.Proofs.Grammar.Places
import Script.Proofs.Grammar.Soundness
import Script.Proofs.Scanning
import Script.Proofs.Scanning.Pieces

set_option autoImplicit false

/- Diagnostics point at the right place. Every error of a text or of its run stands at a place that
the text has. Its diagnostic shows the line of that place, with a caret below the character there,
unless the place is so far to the right that the caret would need too wide a field. -/
namespace Script

open Grammar (Within)

/-- What a tape of tokens comes to is one of the tokens, if they have an end. -/
theorem Tape.current_move_mem {tokens : List Token}
    (ends : ∃ token ∈ tokens, token.kind = .endOfFile) (count : Nat) :
    ((Tape.ofTokens tokens).move count).current ∈ tokens := by
  cases shape : ((Tape.ofTokens tokens).move count).ahead with
  | cons token rest =>
    rw [Tape.current_of_cons shape]
    have member : token ∈ (Tape.ofTokens tokens).ahead := by
      apply List.mem_of_mem_drop (i := count)
      rw [← Tape.ahead_move, shape]
      exact List.mem_cons_self
    exact List.takeWhile_subset _ member
  | nil =>
    rw [Tape.current_of_nil shape]
    show Tape.finishOf tokens ∈ tokens
    obtain ⟨token, member, ended⟩ := ends
    unfold Tape.finishOf
    cases found : tokens.find? fun token => token.kind == .endOfFile with
    | some first => exact List.mem_of_find?_eq_some found
    | none => simpa [ended] using List.find?_eq_none.mp found token member

namespace Parser

variable {tokens : List Token}

/-- The errors of parsing stand at tokens. -/
theorem parse_errors_placed (ends : ∃ token ∈ tokens, token.kind = .endOfFile) {error : Error}
    (member : error ∈ (parse tokens).errors) :
    ∃ token ∈ tokens, token.position = error.position := by
  obtain ⟨stop, trace, ran, errors⟩ := run_parse tokens
  have steady := robust_steady.statementList false (.ofTokens tokens)
  rw [ran] at steady
  rw [errors] at member
  obtain ⟨event, traced, recorded⟩ := List.mem_filterMap.mp member
  have is : event = .recovered error := by
    cases event with
    | recovered error' => cases recorded; rfl
    | _ => cases recorded
  obtain ⟨count, placed⟩ := steady.placed error (.inr (is ▸ traced))
  exact ⟨_, Tape.current_move_mem ends count, placed.symm⟩

/-- What is read stands at tokens. -/
theorem parse_statements_placed {within : Position → Prop} (all : Within within tokens) :
    stmtsPlaced within (parse tokens).statements := by
  apply (parse_lenient tokens).placed
  intro token member
  exact all token (List.takeWhile_subset _ member)

end Parser

/-- An error that reading a text reports, or that running its program ends with, whatever the host
functions are and whatever is declared before. -/
inductive Reported (source : String) (error : Error) : Prop where
  | read {errors : List Error} (refused : parseSource source = .error errors)
      (member : error ∈ errors)
  | run {program : List Stmt} {natives : Registry} {before after : Environment}
      {trace : List Eval.Event} (accepted : parseSource source = .ok program)
      (failed : (interpret { program, natives }).run before = ⟨.error error, after, trace⟩)

/-- Errors stand at places that the text has. -/
theorem Reported.pointed {source : String} {error : Error} (reported : Reported source error) :
    Pointed source.toList error.position := by
  have all : Within (Pointed source.toList) (tokenize source).tokens :=
    fun token member => tokens_pointed member
  have ends : ∃ token ∈ (tokenize source).tokens, token.kind = .endOfFile :=
    ⟨_, List.mem_append_right _ List.mem_cons_self, rfl⟩
  cases reported with
  | read refused member =>
    unfold parseSource at refused
    dsimp only at refused
    split at refused
    · cases refused
    · cases refused
      rcases List.mem_append.mp member with scanned | parsed
      · exact scan_errors_pointed scanned
      · obtain ⟨token, member, placed⟩ := Parser.parse_errors_placed ends parsed
        exact placed ▸ all token member
  | @run program natives before after trace accepted failed =>
    have placed : stmtsPlaced (Pointed source.toList) program := by
      unfold parseSource at accepted
      dsimp only at accepted
      split at accepted
      · cases accepted
        exact Parser.parse_statements_placed all
      · cases accepted
    exact (interpret_fails { program, natives } placed).error before error
      (congrArg Run.outcome failed)

namespace Diagnostic

/-- What is left out of a line is its indentation. -/
theorem length_sub_dropWhile (line : List Char) :
    line.length - (line.dropWhile isIndent).length = (line.takeWhile isIndent).length := by
  have lengths := congrArg List.length (List.takeWhile_append_dropWhile (p := isIndent) (l := line))
  rw [List.length_append] at lengths
  omega

theorem alignRight?_eq_none {fill : Char} {width : Nat} {text : String}
    (wide : maxWidth < width) : alignRight? fill width text = none :=
  if_neg (Nat.not_le_of_lt wide)

/-- A single character at the right end of a field. -/
theorem alignRight?_char {fill char : Char} {width : Nat} {text : String}
    (single : text.toList = [char]) (fits : width + 1 ≤ maxWidth) :
    ∃ field, alignRight? fill (width + 1) text = some field ∧
      field.toList = List.replicate width fill ++ [char] := by
  have length : text.length = 1 := by rw [← String.length_toList, single, List.length_singleton]
  refine ⟨_, if_pos fits, ?_⟩
  rw [length, String.toList_append, String.toList_ofList, single, Nat.add_sub_cancel]

def title (error : Error) : List Char :=
  "Error: ".toList ++ error.cause.name.toList ++
    match error.cause.tip? with
    | none => []
    | some tip => " (".toList ++ tip.toList ++ [')']

/-- What stands before the line of a fault: its number and a bar. -/
def gutter (number : Nat) : List Char := (toString number).toList ++ [' ', '|', ' ']

/-- What stands above the line: nothing but the bar. -/
def bar (number : Nat) : List Char := List.replicate ((toString number).length + 1) ' ' ++ ['|']

/-- What stands before the caret. -/
def margin (number width : Nat) : List Char := bar number ++ ' ' :: List.replicate width '-'

/-- The lines of a diagnostic that shows a line without its indentation. -/
def excerptLines (error : Error) (file : String) (indent shown : List Char) : List (List Char) :=
  [title error, "-> ".toList ++ file.toList, bar error.position.line,
    gutter error.position.line ++ shown,
    margin error.position.line (error.position.column - 1 - indent.length) ++ ['^']]

/-- A text of lines, each with a line feed behind it. -/
def written (lines : List (List Char)) : List Char := lines.flatMap (· ++ ['\n'])

/-- The number of the line and the caret need no wider fields than there are. -/
structure Fits (position : Position) (indent : List Char) : Prop where
  number : (toString position.line).length + 2 ≤ 65535
  caret : position.column - indent.length ≤ 65535

theorem length_margin (number width : Nat) :
    (margin number width).length = (gutter number).length + width := by
  simp only [margin, bar, gutter, List.length_append, List.length_cons, List.length_replicate,
    List.length_nil, String.length_toList]
  omega

/-- The bar of a line, as it is aligned. -/
theorem alignRight?_bar {number : Nat} (fits : (toString number).length + 2 ≤ 65535) :
    ∃ field, alignRight? ' ' ((toString number).length + 2) "|" = some field ∧
      field.toList = bar number :=
  alignRight?_char rfl fits

theorem alignRight?_caret {width : Nat} (fits : width + 1 ≤ maxWidth) :
    ∃ text, alignRight? '-' (width + 1) "^" = some text ∧
      text.toList = List.replicate width '-' ++ ['^'] :=
  alignRight?_char rfl fits

theorem toList_heading (error : Error) : (heading error).toList = title error ++ ['\n'] := by
  unfold heading title
  cases error.cause.tip? with
  | none => simp
  | some tip => simp

section Excerpt

variable {position : Position} {line : List Char}

/-- The column lies behind the indentation, so the caret asks for a field that has room for it. -/
theorem excerpt?_of_fits (behind : (line.takeWhile isIndent).length < position.column)
    (fits : Fits position (line.takeWhile isIndent)) :
    ∃ text, excerpt? position line = some text ∧ text.toList = written [bar position.line,
      gutter position.line ++ Text.trimEnd (line.dropWhile isIndent),
      margin position.line (position.column - 1 - (line.takeWhile isIndent).length) ++ ['^']] := by
  obtain ⟨number, caret⟩ := fits
  have width : max (position.column - (line.takeWhile isIndent).length) 1 =
      (position.column - 1 - (line.takeWhile isIndent).length) + 1 := by omega
  have near : position.column - 1 - (line.takeWhile isIndent).length + 1 ≤ maxWidth := by
    rw [maxWidth]
    omega
  obtain ⟨above, aligned, barred⟩ := alignRight?_bar number
  obtain ⟨below, aligned', pointed⟩ := alignRight?_caret near
  refine ⟨above ++ "\n" ++ toString position.line ++ " | " ++
    String.ofList (Text.trimEnd (line.dropWhile isIndent)) ++ "\n" ++
    above ++ " " ++ below ++ "\n", ?_, ?_⟩
  · unfold excerpt?
    dsimp only
    rw [length_sub_dropWhile, width, aligned, aligned']
    rfl
  · simp [barred, pointed, written, gutter, margin]

theorem excerpt?_of_not_fits (wide : ¬ Fits position (line.takeWhile isIndent)) :
    excerpt? position line = none := by
  unfold excerpt?
  dsimp only
  rw [length_sub_dropWhile]
  by_cases number : (toString position.line).length + 2 ≤ 65535
  · obtain ⟨above, aligned, -⟩ := alignRight?_bar number
    have far : ¬ position.column - (line.takeWhile isIndent).length ≤ 65535 :=
      fun caret => wide ⟨number, caret⟩
    have caret : maxWidth < max (position.column - (line.takeWhile isIndent).length) 1 := by
      rw [maxWidth]
      omega
    rw [aligned, alignRight?_eq_none caret]
    rfl
  · have numbered : maxWidth < (toString position.line).length + 2 := by
      rw [maxWidth]
      omega
    rw [alignRight?_eq_none numbered]
    rfl

end Excerpt

section Render

variable {error : Error} {source : String} {line : List Char}
  (found : lineAt? source error.position.line = some line)
include found

theorem render?_eq (file : String) :
    render? error source file =
      (excerpt? error.position line).map (heading error ++ "-> " ++ file ++ "\n" ++ ·) := by
  rw [render?, found]

theorem render?_of_fits (behind : (line.takeWhile isIndent).length < error.position.column)
    (fits : Fits error.position (line.takeWhile isIndent)) (file : String) :
    ∃ text, render? error source file = some text ∧
      text.toList = written (excerptLines error file (line.takeWhile isIndent)
        (Text.trimEnd (line.dropWhile isIndent))) := by
  obtain ⟨shown, is, spelled⟩ := excerpt?_of_fits behind fits
  refine ⟨heading error ++ "-> " ++ file ++ "\n" ++ shown, ?_, ?_⟩
  · rw [render?_eq found, is, Option.map_some]
  · simp [toList_heading, spelled, written, excerptLines]

theorem render?_of_not_fits (wide : ¬ Fits error.position (line.takeWhile isIndent))
    (file : String) : render? error source file = none := by
  rw [render?_eq found, excerpt?_of_not_fits wide, Option.map_none]

end Render

/-- A line whose number is small enough needs no more than ten digits for it. -/
theorem fits_iff {position : Position} {indent : List Char} (few : position.line ≤ 2 ^ 32) :
    Fits position indent ↔ position.column ≤ indent.length + 65535 := by
  have digits : (toString position.line).length ≤ 10 := by
    rw [Nat.toString_eq_repr]
    exact Nat.repr_length _ 10 (by decide) (by omega)
  exact ⟨fun fits => by have := fits.caret; omega, fun near => ⟨by omega, by omega⟩⟩

end Diagnostic

theorem length_le_of_getElem? {α : Type} {items : List α} {index : Nat} {item : α}
    (found : items[index]? = some item) : index + 1 ≤ items.length :=
  (List.getElem?_eq_some_iff.mp found).1

/-- The line that an error is reported on, as a diagnostic looks it up. -/
theorem Reported.line {source : String} {error : Error} (reported : Reported source error) :
    1 ≤ error.position.line ∧
      ∃ raw, (splitLines source.toList)[error.position.line - 1]? = some raw ∧
        lineAt? source error.position.line = some (stripReturn raw) ∧
        error.position.column ≤ raw.length + 1 ∧
        ((stripReturn raw).takeWhile Diagnostic.isIndent).length < error.position.column := by
  obtain ⟨first, raw, found, most, behind⟩ := reported.pointed.line
  refine ⟨first, raw, found, ?_, most, behind⟩
  rw [lineAt?, if_neg (by omega), found, Option.map_some]

/-- Every error that is reported for a text stands on a line of the text, within it or right behind
it, and behind its indentation. Up to 65535 characters behind the indentation its diagnostic shows
the line with a caret below it. The caret stands as far behind the beginning of what is shown as the
place of the error stands behind the indentation, and below the character at that place wherever
that is shown. Further to the right an error has no diagnostic. -/
theorem diagnostics_point {source : String} {error : Error} (reported : Reported source error)
    (few : (splitLines source.toList).length < 2 ^ 32) (file : String) :
    1 ≤ error.position.line ∧
      ∃ raw indent shown, (splitLines source.toList)[error.position.line - 1]? = some raw ∧
        Trims raw indent shown ∧
        error.position.column ≤ raw.length + 1 ∧
        indent.length < error.position.column ∧
        (error.position.column ≤ indent.length + 65535 →
          ∃ text, Diagnostic.render? error source file = some text ∧
            text.toList = Diagnostic.written (Diagnostic.excerptLines error file indent shown) ∧
            ∃ top gutter margin,
              Diagnostic.excerptLines error file indent shown =
                top ++ [gutter ++ shown, margin ++ ['^']] ∧
              '^' ∉ margin ∧
              margin.length = gutter.length + (error.position.column - 1 - indent.length) ∧
              ∀ char, (gutter ++ shown)[margin.length]? = some char →
                raw[error.position.column - 1]? = some char) ∧
        (indent.length + 65535 < error.position.column →
          Diagnostic.render? error source file = none) := by
  obtain ⟨first, raw, found, line, most, behind⟩ := reported.line
  have trims := Trims.of_stripReturn raw
  have numbered : error.position.line ≤ 2 ^ 32 := by
    have inside := length_le_of_getElem? found
    omega
  refine ⟨first, raw, _, _, found, trims, most, behind, fun near => ?_, fun far => ?_⟩
  · obtain ⟨text, rendered, spelled⟩ :=
      Diagnostic.render?_of_fits line behind ((Diagnostic.fits_iff numbered).mpr near) file
    generalize (stripReturn raw).takeWhile Diagnostic.isIndent = indent at *
    have width :=
      Diagnostic.length_margin error.position.line (error.position.column - 1 - indent.length)
    refine ⟨text, rendered, spelled, [_, _, _], _, _, rfl,
      by simp [Diagnostic.margin, Diagnostic.bar], width, ?_⟩
    intro char shown
    rw [width, List.getElem?_append_right (Nat.le_add_right ..), Nat.add_sub_cancel_left] at shown
    have placed : indent.length + (error.position.column - 1 - indent.length) =
        error.position.column - 1 := by omega
    exact placed ▸ trims.getElem? shown
  · refine Diagnostic.render?_of_not_fits line (fun fits => ?_) file
    have near := (Diagnostic.fits_iff numbered).mp fits
    omega

/-- A text with a character that begins nothing, behind two blanks. -/
def strayText : String := "  @"

def strayError : Error := { cause := .unexpectedCharacter '@', position := ⟨1, 3⟩ }

theorem diagnostics_point_sample :
    Reported strayText strayError ∧ (splitLines strayText.toList).length < 2 ^ 32 ∧
      ∃ text, Diagnostic.render? strayError strayText "notes" = some text ∧
        text.toList = "Error: UnexpectedCharacter\n-> notes\n  |\n1 | @\n  | ^\n".toList := by
  have first : Piece.first ' ' [' ', '@'] = .blank [' ', ' '] := by decide
  have second : Piece.first '@' [] = .stray '@' := by decide
  have pieces : Piece.segment strayText.toList = [.blank [' ', ' '], .stray '@'] := by
    show Piece.segment [' ', ' ', '@'] = _
    rw [Piece.segment]
    simp [first, second, Piece.spelling, Piece.segment]
  have scanned : (tokenize strayText).errors = [strayError] := by
    simp only [tokenize, pieces]
    rfl
  have reported : Reported strayText strayError := by
    apply Reported.read
    · unfold parseSource
      dsimp only
      rw [scanned]
      rfl
    · exact List.mem_cons_self
  have few : (splitLines strayText.toList).length < 2 ^ 32 := by decide
  obtain ⟨-, raw, indent, shown, found, trims, -, -, excerpted, -⟩ :=
    diagnostics_point reported few "notes"
  have whole : raw = [' ', ' ', '@'] := by
    have only : (splitLines strayText.toList)[0]? = some [' ', ' ', '@'] := by decide
    exact Option.some.inj (found.symm.trans only)
  subst whole
  obtain ⟨rfl, rfl⟩ : indent = [' ', ' '] ∧ shown = ['@'] := ⟨trims.indent_eq, trims.shown_eq⟩
  obtain ⟨text, rendered, spelled, -⟩ := excerpted (by decide)
  exact ⟨reported, few, text, rendered, spelled.trans (by decide +kernel)⟩

/-- A bracket that nothing closes, and blanks behind it. -/
def openText (blanks : Nat) : String := String.ofList ('(' :: List.replicate blanks ' ')

theorem after_blanks (position : Position) (count : Nat) :
    position.after (List.replicate count ' ') = ⟨position.line, position.column + count⟩ := by
  induction count generalizing position with
  | zero => rfl
  | succ count ih =>
    have blank : position.next ' ' = ⟨position.line, position.column + 1⟩ := rfl
    rw [List.replicate_succ, Position.after_cons, blank, ih, Nat.add_right_comm, Nat.add_assoc]

theorem tokenize_openText (blanks : Nat) :
    tokenize (openText (blanks + 1)) =
      ⟨[⟨.symbol .openParen, "(", none, ⟨1, 1⟩⟩, .endOfFile ⟨1, blanks + 3⟩], []⟩ := by
  have all : ∀ char ∈ List.replicate (blanks + 1) ' ', Piece.isBlank char = true := by
    intro char member
    rw [List.eq_of_mem_replicate member]
    rfl
  have blank : (Piece.blank (List.replicate (blanks + 1) ' ')).Valid := ⟨by simp, all⟩
  have last := Piece.segment_append blank (Piece.apart_nil _)
  rw [Piece.spelling, List.append_nil, Piece.segment] at last
  have pieces : Piece.segment ('(' :: List.replicate (blanks + 1) ' ') =
      [.symbol .openParen, .blank (List.replicate (blanks + 1) ' ')] := by
    have bracket : (Piece.symbol .openParen).Valid := trivial
    have apart : (Piece.symbol .openParen).Apart (List.replicate (blanks + 1) ' ') :=
      fun front => absurd front (by decide)
    exact (Piece.segment_append bracket apart).trans (congrArg _ last)
  have finish : Position.start.after ('(' :: List.replicate (blanks + 1) ' ') =
      ⟨1, blanks + 3⟩ := by
    rw [Position.after_cons, after_blanks]
    simp [Position.next, Position.start]
    omega
  unfold tokenize openText
  rw [String.toList_ofList, pieces, finish]
  rfl

theorem splitLines_openText (blanks : Nat) :
    splitLines (openText blanks).toList = ['(' :: List.replicate blanks ' '] := by
  unfold openText
  rw [String.toList_ofList]
  exact splitLines_of_not_mem (by simp)

theorem stripReturn_openText (blanks : Nat) :
    stripReturn ('(' :: List.replicate blanks ' ') = '(' :: List.replicate blanks ' ' := by
  refine if_neg fun returns => ?_
  have member := List.mem_of_getLast? returns
  simp at member

/-- The bracket at the beginning of a line of 65535 characters. -/
def wideText : String := openText 65534

def wideError : Error :=
  { cause := .unexpectedToken "Expected expression, instead got end of file"
    position := ⟨1, 65536⟩ }

theorem parseSource_wideText : parseSource wideText = .error [wideError] := by
  have parsed : (parse [⟨.symbol .openParen, "(", none, ⟨1, 1⟩⟩, .endOfFile ⟨1, 65536⟩]).errors =
      [wideError] := by decide +kernel
  unfold parseSource wideText
  dsimp only
  rw [tokenize_openText 65533, parsed]
  rfl

theorem render?_wideText (file : String) : Diagnostic.render? wideError wideText file = none := by
  have lines : splitLines wideText.toList = _ := splitLines_openText 65534
  have found : lineAt? wideText wideError.position.line =
      some ('(' :: List.replicate 65534 ' ') := by
    rw [lineAt?, lines, if_neg (by decide)]
    exact congrArg some (stripReturn_openText 65534)
  have flush : (('(' :: List.replicate 65534 ' ').takeWhile Diagnostic.isIndent).length = 0 := rfl
  refine Diagnostic.render?_of_not_fits found (fun fits => ?_) file
  have caret := fits.caret
  rw [flush] at caret
  exact absurd caret (by decide)

/-- Behind a line of 65535 characters an error has no diagnostic. -/
theorem diagnostics_point_not_behind :
    Reported wideText wideError ∧ (splitLines wideText.toList).length < 2 ^ 32 ∧
      (∀ line ∈ splitLines wideText.toList, line.length ≤ 65535) ∧
      Diagnostic.render? wideError wideText "notes" = none := by
  have lines : splitLines wideText.toList = _ := splitLines_openText 65534
  refine ⟨.read parseSource_wideText List.mem_cons_self, by rw [lines]; decide, ?_,
    render?_wideText "notes"⟩
  rw [lines, List.forall_mem_singleton, List.length_cons, List.length_replicate]

end Script
