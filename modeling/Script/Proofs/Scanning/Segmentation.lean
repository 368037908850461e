import Mathlib.Data.List.Forall2
import Script.Proofs.Scanning
import Script.Proofs.Scanning.Patterns

set_option autoImplicit false

/- Reading a text loses nothing of it. The text falls into pieces, each as long as a pattern can
make it; the tokens are the pieces that spell one, the errors those that spell none and are neither
blank nor a comment, and all of them stand where their pieces do. -/
namespace Script

open Error (Cause)

namespace Position

/-- The place behind a text: its lines are counted by their feeds, and its column since the last
of them. -/
def behind (text : List Char) : Position :=
  ⟨1 + text.count '\n', 1 + (text.reverse.takeWhile (· != '\n')).length⟩

/-- Counting along the text gives the same place. -/
theorem start_after (text : List Char) : start.after text = behind text := by
  induction text using List.reverseRecOn with
  | nil => rfl
  | append_singleton text char ih =>
    rw [after_append, ih, after_cons, after_nil]
    by_cases feed : char = '\n'
    · subst feed
      simp [next, behind, Nat.add_assoc]
    · simp [next, behind, feed, Nat.add_assoc]

end Position

/-- The texts of tokens, with the kind of the token and the value that it carries. -/
inductive Spells : List Char → Token.Kind → Option Value → Prop where
  | newline : Spells ['\n'] .newline none
  | quoted {body : List Char} (closed : '"' :: (body ++ ['"']) ∈ Pattern.quoted) :
      Spells ('"' :: (body ++ ['"'])) .string (some (.string (String.ofList body)))
  | int {digits : List Char} (all : digits ∈ Pattern.digits) (value : Int32)
      (denotes : value.toInt = Nat.ofDigitChars 10 digits 0) :
      Spells digits .int (some (.number (.int value)))
  | float {digits fraction : List Char} (all : digits ∈ Pattern.digits)
      (behind : fraction ∈ Pattern.digits) :
      Spells (digits ++ '.' :: fraction) .float
        (some (.number (.float (Binary32.ofDecimal digits fraction))))
  | keyword (word : Keyword) : Spells word.spelling.toList (.keyword word) none
  | identifier {letters : List Char} (word : letters ∈ Pattern.word)
      (free : ∀ reserved : Keyword, reserved.spelling.toList ≠ letters) :
      Spells letters .identifier none
  | symbol (sign : Symbol) : Spells sign.spelling.toList (.symbol sign) none

/-- A piece of a text with what stands before it and behind it. -/
structure Excerpt where
  before : List Char
  piece : List Char
  behind : List Char

/-- Pieces one behind the other, with what stands around each of them. -/
def excerpts (before : List Char) : List (List Char) → List Excerpt
  | [] => []
  | piece :: rest => ⟨before, piece, rest.flatten⟩ :: excerpts (before ++ piece) rest

namespace Excerpt

/-- The longest front of what is left of the text that a pattern matches. -/
def Longest (excerpt : Excerpt) : Prop :=
  (∃ pattern ∈ Pattern.table, excerpt.piece ∈ pattern) ∧
    ∀ pattern ∈ Pattern.table, ∀ front ∈ pattern, front <+: excerpt.piece ++ excerpt.behind →
      front.length ≤ excerpt.piece.length

/-- One character at which no pattern matches. -/
def Unmatched (excerpt : Excerpt) : Prop :=
  (∃ char, excerpt.piece = [char]) ∧
    ∀ pattern ∈ Pattern.table, ∀ front ∈ pattern, ¬ front <+: excerpt.piece ++ excerpt.behind

def IsToken (excerpt : Excerpt) : Prop := ∃ kind literal, Spells excerpt.piece kind literal

def IsSkipped (excerpt : Excerpt) : Prop :=
  excerpt.piece ∈ Pattern.blanks ∨ excerpt.piece ∈ Pattern.comment

/-- The token that an excerpt spells, in its place. -/
structure Yields (excerpt : Excerpt) (token : Token) : Prop where
  spelled : Spells excerpt.piece token.kind token.literal
  lexeme : token.lexeme = String.ofList excerpt.piece
  position : token.position = .behind excerpt.before

/-- What is wrong with an excerpt. A quote that nothing closes reaches to the end of the text. -/
inductive Faulty : Excerpt → Cause → Prop where
  | unmatched {before behind : List Char} {char : Char}
      (none : Unmatched ⟨before, [char], behind⟩) :
      Faulty ⟨before, [char], behind⟩ (.unexpectedCharacter char)
  | large {before behind digits : List Char} (all : digits ∈ Pattern.digits)
      (above : 2147483647 < Nat.ofDigitChars 10 digits 0) :
      Faulty ⟨before, digits, behind⟩ (.numberParse (String.ofList digits))
  | unclosed {before text : List Char} (opened : text ∈ Pattern.unclosed) :
      Faulty ⟨before, text, []⟩ .unterminatedString

/-- The error about an excerpt, in its place. -/
def Fails (excerpt : Excerpt) (error : Error) : Prop :=
  ∃ cause, excerpt.Faulty cause ∧ error = { cause, position := .behind excerpt.before }

end Excerpt

namespace Piece

/-- A piece is determined by its spelling. -/
theorem eq_of_spelling {first second : Piece} (valid : first.Valid) (valid' : second.Valid)
    (same : first.spelling = second.spelling) : first = second := by
  obtain ⟨char, rest, spelled⟩ := List.exists_cons_of_ne_nil valid.spelling_ne_nil
  have cut : Piece.first char rest = first :=
    first_of_apart valid first.apart_nil (by rw [spelled, List.append_nil])
  have cut' : Piece.first char rest = second :=
    first_of_apart valid' second.apart_nil (by rw [← same, spelled, List.append_nil])
  exact cut.symm.trans cut'

variable {piece : Piece} {position : Position}

/-- The token of a piece is the one that its text spells. -/
theorem spells_of_token? {token : Token} (valid : piece.Valid)
    (found : piece.token? position = some token) :
    Spells piece.spelling token.kind token.literal ∧
      token.lexeme = String.ofList piece.spelling := by
  cases piece with
  | newline =>
    cases found
    exact ⟨.newline, rfl⟩
  | quoted body =>
    cases found
    exact ⟨.quoted (Pattern.mem_quoted.mpr ⟨body, valid, rfl⟩), rfl⟩
  | whole digits =>
    simp only [token?, Option.ite_none_right_eq_some, Option.some.injEq] at found
    obtain ⟨small, rfl⟩ := found
    refine ⟨.int (Pattern.mem_digits.mpr valid) _ ?_, rfl⟩
    exact Int32.toInt_ofNat_of_lt (Nat.lt_of_le_of_lt small (by decide))
  | decimal digits fraction =>
    cases found
    exact ⟨.float (Pattern.mem_digits.mpr valid.1) (Pattern.mem_digits.mpr valid.2), rfl⟩
  | word letters =>
    cases found
    refine ⟨?_, rfl⟩
    dsimp only [makeToken, spelling]
    split
    · next keyword reserved =>
      have spelled := Keyword.spelling_of_ofSpelling? reserved
      rw [← String.toList_ofList (l := letters), ← spelled]
      exact .keyword keyword
    · next free =>
      refine .identifier (Pattern.mem_word.mpr valid) fun keyword is => ?_
      rw [← is, String.ofList_toList, Keyword.ofSpelling?_spelling] at free
      cases free
  | symbol sign =>
    cases found
    exact ⟨.symbol sign, rfl⟩
  | _ => cases found

/-- The text of a token is a piece that becomes this token. -/
theorem Spells.exists_piece {text : List Char} {kind : Token.Kind} {literal : Option Value}
    (spelled : Spells text kind literal) :
    ∃ piece : Piece, piece.Valid ∧ piece.spelling = text ∧
      ∀ position, piece.token? position = some ⟨kind, String.ofList text, literal, position⟩ := by
  cases spelled with
  | newline => exact ⟨.newline, trivial, rfl, fun _ => rfl⟩
  | @quoted body closed =>
    obtain ⟨body', solid, is⟩ := Pattern.mem_quoted.mp closed
    obtain rfl : body = body' := by simpa using is
    exact ⟨.quoted body, solid, rfl, fun _ => rfl⟩
  | int all value denotes =>
    refine ⟨.whole text, Pattern.mem_digits.mp all, rfl, fun position => ?_⟩
    have small : Nat.ofDigitChars 10 text 0 ≤ maxInteger := by
      have bound := value.toInt_lt
      rw [denotes] at bound
      unfold maxInteger
      omega
    have is : Int32.ofNat (Nat.ofDigitChars 10 text 0) = value := by
      apply Int32.toInt_inj.mp
      rw [denotes]
      exact Int32.toInt_ofNat_of_lt (Nat.lt_of_le_of_lt small (by decide))
    rw [token?, if_pos small, is]
    rfl
  | @float digits fraction all behind =>
    exact ⟨.decimal digits fraction, ⟨Pattern.mem_digits.mp all, Pattern.mem_digits.mp behind⟩, rfl,
      fun _ => rfl⟩
  | keyword word =>
    refine ⟨.word word.spelling.toList, letters_keyword word, rfl, fun position => ?_⟩
    rw [token?, String.ofList_toList, Keyword.ofSpelling?_spelling]
    simp [makeToken, spelling]
  | identifier word free =>
    refine ⟨.word text, Pattern.mem_word.mp word, rfl, fun position => ?_⟩
    have none : Keyword.ofSpelling? (String.ofList text) = none := by
      rw [Option.eq_none_iff_forall_not_mem]
      intro keyword found
      apply free keyword
      rw [Keyword.spelling_of_ofSpelling? found, String.toList_ofList]
    rw [token?, none]
    rfl
  | symbol sign => exact ⟨.symbol sign, trivial, rfl, fun _ => rfl⟩

/-- The excerpt of a piece that the text from there on begins with. -/
inductive Cut : Excerpt → Position × Piece → Prop where
  | intro {before behind rest : List Char} {char : Char}
      (whole : (first char rest).spelling ++ behind = char :: rest) :
      Cut ⟨before, (first char rest).spelling, behind⟩ (.behind before, first char rest)

/-- Every piece of a text is the first one of what is left. -/
theorem cut_segment (text : List Char) : ∀ before,
    List.Forall₂ Cut (excerpts before ((segment text).map spelling))
      (located (.behind before) (segment text)) := by
  fun_induction segment text with
  | case1 => exact fun before => .nil
  | case2 char rest piece ih =>
    intro before
    have left : ((segment (rest.drop (piece.spelling.length - 1))).map spelling).flatten =
        rest.drop (piece.spelling.length - 1) := by
      rw [← List.flatMap_def, segment_spelling]
    have place : (Position.behind before).after piece.spelling =
        .behind (before ++ piece.spelling) := by
      rw [← Position.start_after, ← Position.after_append, Position.start_after]
    rw [List.map_cons, excerpts, located, place]
    refine .cons (.intro ?_) (ih _)
    rw [left]
    exact spelling_append_drop char rest

namespace Cut

variable {excerpt : Excerpt} (cut : Cut excerpt (position, piece))
include cut

theorem filled : excerpt.piece ≠ [] := by
  cases cut with
  | intro whole => exact spelling_first_ne_nil _ _

theorem isToken : excerpt.IsToken ↔ (piece.token? position).isSome = true := by
  cases cut with
  | intro whole =>
    constructor
    · rintro ⟨kind, literal, spelled⟩
      obtain ⟨piece', valid, same, found⟩ := Spells.exists_piece spelled
      rw [← eq_of_spelling valid (first_valid _ _) same, found]
      rfl
    · intro found
      obtain ⟨token, found⟩ := Option.isSome_iff_exists.mp found
      exact ⟨_, _, (spells_of_token? (first_valid _ _) found).1⟩

theorem isSkipped : excerpt.IsSkipped ↔ piece.isSkipped = true := by
  cases cut with
  | @intro before behind rest char whole =>
    have valid := first_valid char rest
    constructor
    · rintro (blanks | commented)
      · have is : first char rest = blank (first char rest).spelling :=
          eq_of_spelling valid (Pattern.mem_blanks.mp blanks) rfl
        rw [is, Piece.isSkipped]
      · obtain ⟨body, solid, same⟩ := Pattern.mem_comment.mp commented
        have is : first char rest = comment body := eq_of_spelling valid solid same
        rw [is, Piece.isSkipped]
    · intro skipped
      unfold Excerpt.IsSkipped
      cases is : first char rest with
      | blank run =>
        rw [is] at valid
        exact .inl (Pattern.mem_blanks.mpr valid)
      | comment body =>
        rw [is] at valid
        exact .inr (Pattern.mem_comment.mpr ⟨body, valid, rfl⟩)
      | _ =>
        rw [is] at skipped
        cases skipped

theorem longest : excerpt.Longest ∨ excerpt.Unmatched := by
  cases cut with
  | @intro before behind rest char whole =>
    have front {pattern : Language Char} {text : List Char} (tried : pattern ∈ Pattern.table)
        (matched : text ∈ pattern) (begins : text <+: (first char rest).spelling ++ behind) :
        text.length ≤ (first char rest).spelling.length ∧
          (first char rest).isStray = false := by
      obtain ⟨index, tried⟩ := List.mem_iff_getElem?.mp tried
      obtain ⟨piece, valid, read, rfl, -⟩ := exists_piece tried matched
      obtain ⟨further, spelled⟩ := begins
      obtain ⟨longer, sooner⟩ := first_foremost valid read (spelled.trans whole)
      exact ⟨longer, isStray_of_turn_le read sooner⟩
    cases read : (first char rest).isStray with
    | false =>
      left
      obtain ⟨pattern, tried, matched⟩ := exists_pattern (first_valid char rest) read
      refine ⟨⟨pattern, List.mem_of_getElem? tried, matched⟩, ?_⟩
      exact fun pattern tried text matched begins => (front tried matched begins).1
    | true =>
      right
      refine ⟨?_, fun pattern tried text matched begins => ?_⟩
      · cases is : first char rest with
        | stray char' => exact ⟨char', rfl⟩
        | _ =>
          rw [is] at read
          cases read
      · rw [(front tried matched begins).2] at read
        cases read

theorem yields {token : Token} (found : piece.token? position = some token) :
    excerpt.Yields token := by
  cases cut with
  | intro whole =>
    obtain ⟨spelled, lexeme⟩ := spells_of_token? (first_valid _ _) found
    exact ⟨spelled, lexeme, token?_position found⟩

theorem fails {error : Error} (found : piece.error? position = some error) :
    excerpt.Fails error := by
  have longest := cut.longest
  cases cut with
  | @intro before behind rest char whole =>
    have valid := first_valid char rest
    cases is : first char rest with
    | stray char' =>
      rw [is] at found valid longest
      cases found
      refine ⟨_, .unmatched (longest.resolve_left ?_), rfl⟩
      rintro ⟨⟨pattern, tried, matched⟩, -⟩
      obtain ⟨index, tried⟩ := List.mem_iff_getElem?.mp tried
      obtain ⟨piece, valid', read, same, -⟩ := exists_piece tried matched
      rw [eq_of_spelling valid' valid same] at read
      cases read
    | whole digits =>
      rw [is] at found valid
      simp only [error?, Option.ite_none_left_eq_some, Option.some.injEq] at found
      obtain ⟨large, rfl⟩ := found
      exact ⟨_, .large (Pattern.mem_digits.mpr valid) (Nat.lt_of_not_le large), rfl⟩
    | unclosed body =>
      rw [is] at found valid whole
      cases found
      obtain ⟨rfl, rfl⟩ := List.cons.inj whole
      -- A quote that closes nothing takes all the text that is left.
      rw [first_eq_quotedAt, quotedAt] at is
      split at is
      · cases is
      · obtain rfl : behind = [] := by simpa using is
        exact ⟨_, .unclosed (Pattern.mem_unclosed.mpr ⟨body, valid, rfl⟩), rfl⟩
    | _ =>
      rw [is] at found
      cases found

end Cut

end Piece

/-- Related lists stay related where one is filtered and the other is mapped in part. -/
theorem forall₂_filter_filterMap {α β γ : Type} {related : α → β → Prop} {keep : α → Prop}
    [DecidablePred keep] {change : β → Option γ} {related' : α → γ → Prop}
    (kept : ∀ first second, related first second → (keep first ↔ (change second).isSome = true))
    (changed : ∀ first second third, related first second → change second = some third →
      related' first third) {first : List α} {second : List β}
    (all : List.Forall₂ related first second) :
    List.Forall₂ related' (first.filter keep) (second.filterMap change) := by
  rw [← List.filterMap_eq_filter]
  refine List.rel_filterMap (fun left right is => ?_) all
  have same := kept left right is
  cases found : change right with
  | none =>
    rw [found] at same
    rw [Option.guard_eq_none_iff.mpr (by simpa using same)]
    exact .none
  | some third =>
    rw [found] at same
    rw [Option.guard_eq_some_iff.mpr ⟨rfl, by simpa using same⟩]
    exact .some (changed left right third is found)

open Classical in
/-- A text falls into pieces without a gap. Each is the longest front of what is left that a
pattern matches, or one character where none does. The tokens before the end of file are the pieces
that spell one, and the errors the others that are neither blank nor a comment, all in order and in
their places. -/
theorem tokenize_segments (source : String) :
    ∃ pieces : List (List Char), pieces.flatten = source.toList ∧
      (∀ excerpt ∈ excerpts [] pieces,
        excerpt.piece ≠ [] ∧ (excerpt.Longest ∨ excerpt.Unmatched)) ∧
      ∃ tokens, (tokenize source).tokens = tokens ++ [.endOfFile (.behind source.toList)] ∧
        List.Forall₂ Excerpt.Yields ((excerpts [] pieces).filter (·.IsToken)) tokens ∧
        List.Forall₂ Excerpt.Fails
          ((excerpts [] pieces).filter fun excerpt => ¬ excerpt.IsToken ∧ ¬ excerpt.IsSkipped)
          (tokenize source).errors := by
  have cuts := Piece.cut_segment source.toList []
  refine ⟨(Piece.segment source.toList).map Piece.spelling, ?_, ?_,
    (Piece.located .start (Piece.segment source.toList)).filterMap
      (fun located => located.2.token? located.1), ?_, ?_, ?_⟩
  · rw [← List.flatMap_def, Piece.segment_spelling]
  · have each := cuts.imp fun excerpt _ cut => And.intro (And.intro cut.filled cut.longest) cut
    exact ((List.forall₂_and_left _ _).mp each).1
  · rw [tokenize, Position.start_after]
  · refine forall₂_filter_filterMap ?_ ?_ cuts
    · rintro excerpt ⟨position, piece⟩ cut
      exact cut.isToken
    · rintro excerpt ⟨position, piece⟩ token cut found
      exact cut.yields found
  · refine forall₂_filter_filterMap ?_ ?_ cuts
    · rintro excerpt ⟨position, piece⟩ cut
      rw [Piece.error?_isSome, cut.isToken, cut.isSkipped]
      simp
    · rintro excerpt ⟨position, piece⟩ error cut found
      exact cut.fails found

end Script
