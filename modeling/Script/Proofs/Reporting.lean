import Mathlib.Data.List.Forall2
import Script.Proofs.Parsing.Orderly
import Script.Proofs.Scanning

set_option autoImplicit false

/- Errors of phrases are reported in the order of the text, at most one for a token. -/
namespace Script

namespace Position

/-- The order in which a text is read. -/
def Before (first second : Position) : Prop :=
  first.line < second.line ∨ first.line = second.line ∧ first.column < second.column

theorem Before.trans {first second third : Position} (early : first.Before second)
    (late : second.Before third) : first.Before third := by
  unfold Before at *
  omega

theorem before_next (position : Position) (char : Char) : position.Before (position.next char) := by
  unfold Before next
  split
  · exact .inl (Nat.lt_succ_self _)
  · exact .inr ⟨rfl, Nat.lt_succ_self _⟩

/-- A text leads on to a later place. -/
theorem before_after (position : Position) (char : Char) (text : List Char) :
    position.Before (position.after (char :: text)) := by
  induction text generalizing position char with
  | nil => exact position.before_next char
  | cons char' text ih => exact (position.before_next char).trans (ih _ char')

end Position

namespace Piece

/-- Pieces stand one behind the other. -/
theorem located_ordered (text : List Char) : ∀ start,
    (located start (segment text)).Pairwise fun first second => first.1.Before second.1 := by
  fun_induction segment text with
  | case1 => exact fun _ => .nil
  | case2 char rest piece ih =>
    intro start
    refine .cons ?_ (ih _)
    rintro ⟨position, piece'⟩ member
    obtain ⟨before, _, _, -, rfl, -⟩ := mem_located _ _ member
    -- The piece in between is not empty, so what stands behind it begins later.
    have filled := spelling_first_ne_nil char rest
    change start.Before ((start.after piece.spelling).after before)
    rw [← Position.after_append]
    cases spelled : piece.spelling with
    | nil => exact absurd spelled filled
    | cons head tail => exact start.before_after head (tail ++ before)

/-- Every piece stands before the end of its text. -/
theorem located_before_end {text : List Char} {start position : Position} {piece : Piece}
    (member : (position, piece) ∈ located start (segment text)) :
    position.Before (start.after text) := by
  obtain ⟨before, char, rest, rfl, rfl, -⟩ := mem_located text start member
  rw [Position.after_append]
  exact Position.before_after _ char rest

theorem token?_kind {position : Position} {piece : Piece} {token : Token}
    (found : piece.token? position = some token) : token.kind ≠ .endOfFile := by
  cases piece with
  | whole digits =>
    simp only [token?] at found
    split at found <;> cases found
    simp [makeToken]
  | word letters =>
    simp only [token?, Option.some.injEq] at found
    subst found
    simp only [makeToken]
    split <;> simp
  | _ => cases found <;> simp [makeToken]

end Piece

/-- The words of a text are followed by its end of file alone. -/
theorem tokenize_eq (source : String) :
    ∃ body, (tokenize source).tokens = body ++ [.endOfFile (Position.start.after source.toList)] ∧
      ∀ token ∈ body, token.kind ≠ .endOfFile := by
  refine ⟨_, rfl, fun token member => ?_⟩
  obtain ⟨_, -, found⟩ := List.mem_filterMap.mp member
  exact Piece.token?_kind found

/-- The tokens of a text stand one behind the other. -/
theorem tokens_ordered (source : String) :
    (tokenize source).tokens.Pairwise fun first second =>
      first.position.Before second.position := by
  refine List.pairwise_append.mpr ⟨?_, List.pairwise_singleton _ _, ?_⟩
  · refine List.pairwise_filterMap.mpr ((Piece.located_ordered _ _).imp ?_)
    intro first second before token found token' found'
    rwa [Piece.token?_position found, Piece.token?_position found']
  · intro token member finish last
    obtain ⟨⟨position, piece⟩, located, found⟩ := List.mem_filterMap.mp member
    cases List.mem_singleton.mp last
    rw [Piece.token?_position found]
    exact Piece.located_before_end located

namespace Parser

/-- Where the first end of file stands, or where it is added. -/
def finishPlace (tokens : List Token) : Nat := (tokens.takeWhile Tape.isOpen).length

/-- Tokens that come before the first end of file, and that end, are tokens. -/
theorem opened_begins (tokens : List Token) :
    tokens.takeWhile Tape.isOpen ++ [Tape.finishOf tokens] <+:
      tokens ++ [Tape.finishOf tokens] := by
  have whole : tokens.takeWhile Tape.isOpen ++ tokens.dropWhile Tape.isOpen = tokens :=
    List.takeWhile_append_dropWhile
  have first := (Tape.head?_dropWhile_isOpen tokens).symm
  cases rest : tokens.dropWhile Tape.isOpen with
  | nil =>
    rw [rest, List.append_nil] at whole
    exact ⟨[], by rw [List.append_nil, whole]⟩
  | cons token others =>
    rw [rest] at whole first
    rw [Tape.finishOf, first, List.head?_cons, Option.getD_some]
    refine ⟨others ++ [token], ?_⟩
    rw [List.append_assoc, List.singleton_append, ← List.cons_append, ← List.append_assoc, whole]

/-- Up to the first end of file the tokens of a tape are those that it is made of. -/
theorem ofTokens_tokens {tokens : List Token} {place : Nat} (within : place ≤ finishPlace tokens) :
    (Tape.ofTokens tokens).tokens[place]? = (tokens ++ [Tape.finishOf tokens])[place]? := by
  have ahead : tokens.takeWhile Tape.isOpen ++ [Tape.finishOf tokens] <+:
      (Tape.ofTokens tokens).tokens :=
    ⟨(Tape.ofTokens tokens).beyond, by simp [Tape.tokens, Tape.ofTokens]⟩
  have inside : place < (tokens.takeWhile Tape.isOpen ++ [Tape.finishOf tokens]).length := by
    rw [List.length_append, List.length_singleton]
    exact Nat.lt_succ_of_le within
  rw [List.prefix_iff_getElem?.mp ahead place inside,
    List.prefix_iff_getElem?.mp (opened_begins tokens) place inside]

/-- The errors of phrases rise up to the first end of file. -/
theorem parse_rises (tokens : List Token) :
    ∃ high, Rises (tokens ++ [Tape.finishOf tokens]) (finishPlace tokens) 0 (parse tokens).errors
      high := by
  obtain ⟨stop, trace, ran, errors⟩ := run_parse tokens
  have orderly := ordered_statementList false (.ofTokens tokens) rfl
  rw [ran] at orderly
  have rises := orderly.rises
  have ending : (Cursor.ofTokens tokens).tape.ending = finishPlace tokens := Nat.zero_add _
  rw [ending, ← errors] at rises
  exact ⟨_, rises.transfer fun place within => ofTokens_tokens within⟩

section Texts

variable {source : String} {place place' : Nat} {error error' : Error}

/-- A text has its end of file where its last token stands. -/
theorem finishPlace_tokenize (source : String) :
    (tokenize source).tokens[finishPlace (tokenize source).tokens]? =
      some (.endOfFile (Position.start.after source.toList)) := by
  obtain ⟨body, whole, opened⟩ := tokenize_eq source
  have ahead : (body ++ [Token.endOfFile (Position.start.after source.toList)]).takeWhile
      Tape.isOpen = body := by
    rw [List.takeWhile_append_of_pos (by simpa [Tape.isOpen] using opened)]
    simp [Tape.isOpen, Token.endOfFile]
  rw [whole, finishPlace, ahead, List.getElem?_concat_length]

/-- An error up to the end of file stands at a token of the text. -/
theorem ReportedAt.exists_token {tokens : List Token} {finish : Token}
    (reported : ReportedAt (tokens ++ [finish]) place error) (within : place < tokens.length) :
    ∃ token, tokens[place]? = some token ∧ error.position = token.position := by
  have located := reported.located
  rwa [List.getElem?_append_left within] at located

theorem place_lt (within : place ≤ finishPlace (tokenize source).tokens) :
    place < (tokenize source).tokens.length := by
  obtain ⟨inside, -⟩ := List.getElem?_eq_some_iff.mp (finishPlace_tokenize source)
  omega

/-- Errors of a text at places that rise stand in the order of the text. -/
theorem positions_rise {finish : Token}
    (reported : ReportedAt ((tokenize source).tokens ++ [finish]) place error)
    (reported' : ReportedAt ((tokenize source).tokens ++ [finish]) place' error')
    (within : place' ≤ finishPlace (tokenize source).tokens)
    (rises : place < place' ∨ place = finishPlace (tokenize source).tokens ∧
      place' = finishPlace (tokenize source).tokens) :
    error.position.Before error'.position ∨
      error.position = Position.start.after source.toList ∧
        error'.position = Position.start.after source.toList := by
  have inside := place_lt within
  obtain ⟨token, found, stands⟩ := reported.exists_token (by omega)
  obtain ⟨token', found', stands'⟩ := reported'.exists_token inside
  rw [stands, stands']
  rcases rises with rises | ⟨rfl, rfl⟩
  · obtain ⟨_, rfl⟩ := List.getElem?_eq_some_iff.mp found
    obtain ⟨_, rfl⟩ := List.getElem?_eq_some_iff.mp found'
    exact .inl (List.pairwise_iff_getElem.mp (tokens_ordered source) _ _ _ _ rises)
  · rw [finishPlace_tokenize] at found found'
    cases found
    cases found'
    exact .inr ⟨rfl, rfl⟩

end Texts

/-- Each of the errors is an error of the text at a place of its own among the tokens, and these
places rise up to the first end of file, where several errors may stand. -/
def ReportedInOrder (tokens : List Token) (errors : List Error) : Prop :=
  ∃ places : List Nat,
    List.Forall₂ (ReportedAt (tokens ++ [Tape.finishOf tokens])) places errors ∧
      (∀ place ∈ places, place ≤ finishPlace tokens) ∧
      places.Pairwise fun first second =>
        first < second ∨ first = finishPlace tokens ∧ second = finishPlace tokens

theorem reportedInOrder_parse (tokens : List Token) :
    ReportedInOrder tokens (parse tokens).errors := by
  obtain ⟨high, rises⟩ := parse_rises tokens
  obtain ⟨places, all, bounds, ordered⟩ := rises.exists_places
  exact ⟨places, all, fun place member => (bounds place member).2, ordered⟩

/-- Errors of phrases are errors of the text, and they come in its order, at most one at any token
but the end of file. -/
theorem parse_reports_in_order :
    (∀ source : String,
      (∀ error ∈ (parse (tokenize source).tokens).errors, error.cause.category = .ofSyntax) ∧
      (parse (tokenize source).tokens).errors.Pairwise fun first second =>
        first.position.Before second.position ∨
          first.position = Position.start.after source.toList ∧
            second.position = Position.start.after source.toList) ∧
    ∀ tokens : List Token, ReportedInOrder tokens (parse tokens).errors := by
  refine ⟨fun source => ?_, reportedInOrder_parse⟩
  obtain ⟨places, all, bounds, ordered⟩ := reportedInOrder_parse (tokenize source).tokens
  have lengths := all.length_eq
  constructor
  · intro error member
    obtain ⟨index, inside, rfl⟩ := List.getElem_of_mem member
    exact (all.get (by omega) inside).category
  · rw [List.pairwise_iff_getElem] at ordered ⊢
    intro first second inside inside' earlier
    exact positions_rise (all.get (by omega) inside) (all.get (by omega) inside')
      (bounds _ (List.getElem_mem _)) (ordered first second _ _ earlier)

end Parser
end Script
