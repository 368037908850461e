import Script.Proofs.Lines
import Script.Proofs.Tree.Moving
import Script.Token.Scan

set_option autoImplicit false

/- Where tokens and the errors of reading a text stand: at the places where their spelling begins,
which is never with a blank, and the end of file behind everything. -/
namespace Script

namespace Piece

/-- Places are added to pieces, and none is left out. -/
theorem map_snd_located (position : Position) (pieces : List Piece) :
    (located position pieces).map Prod.snd = pieces := by
  induction pieces generalizing position with
  | nil => rfl
  | cons piece rest ih => rw [located, List.map_cons, ih]

/-- Every piece of a text is the first one of what stands behind its place. -/
theorem mem_located {position : Position} {piece : Piece} (text : List Char) :
    ∀ start, (position, piece) ∈ located start (segment text) →
      ∃ before char rest, text = before ++ char :: rest ∧ position = start.after before ∧
        piece = first char rest := by
  fun_induction segment text with
  | case1 => exact fun start member => absurd member List.not_mem_nil
  | case2 char rest piece' ih =>
    intro start member
    have whole : piece'.spelling ++ rest.drop (piece'.spelling.length - 1) = char :: rest :=
      spelling_append_drop char rest
    rcases List.mem_cons.mp member with head | tail
    · obtain ⟨rfl, rfl⟩ := Prod.mk.inj head
      exact ⟨[], char, rest, rfl, rfl, rfl⟩
    · obtain ⟨before, char', rest', split, placed, is⟩ := ih _ tail
      refine ⟨piece'.spelling ++ before, char', rest', ?_, ?_, is⟩
      · rw [← whole, split, List.append_assoc]
      · rw [placed, Position.after_append]

/-- Blanks are neither a token nor an error. -/
theorem first_of_blank {char : Char} (rest : List Char) (position : Position)
    (blank : isBlank char = true) :
    (first char rest).token? position = none ∧ (first char rest).error? position = none := by
  unfold first
  rw [if_pos blank]
  exact ⟨rfl, rfl⟩

/-- The token of a piece is the same everywhere, save its place. -/
theorem token?_moved (shift : Position → Position) (position : Position) (piece : Piece) :
    piece.token? (shift position) = (piece.token? position).map (Token.moved shift) := by
  cases piece with
  | whole digits =>
    simp only [token?]
    split <;> rfl
  | _ => rfl

theorem token?_position {position : Position} {piece : Piece} {token : Token}
    (found : piece.token? position = some token) : token.position = position := by
  have stays := piece.token?_moved (fun _ => position) position
  rw [found] at stays
  exact congrArg Token.position (Option.some.inj stays)

theorem error?_position {position : Position} {piece : Piece} {error : Error}
    (found : piece.error? position = some error) : error.position = position := by
  cases piece with
  | whole digits =>
    simp only [error?] at found
    split at found
    · cases found
    · cases found
      rfl
  | _ => cases found <;> rfl

/-- What becomes a token or an error begins with no blank. -/
theorem pointed_of_located {position : Position} {text : List Char} {piece : Piece}
    (member : (position, piece) ∈ located .start (segment text))
    (said : piece.token? position ≠ none ∨ piece.error? position ≠ none) :
    Pointed text position := by
  obtain ⟨before, char, rest, whole, placed, rfl⟩ := mem_located text _ member
  refine ⟨before, char :: rest, whole, placed, ?_⟩
  intro char' member'
  cases member'
  have solid : isBlank char = false := by
    rw [Bool.eq_false_iff]
    intro blank
    obtain ⟨token, error⟩ := first_of_blank rest position blank
    exact said.elim (absurd token) (absurd error)
  simp only [isBlank, Bool.or_eq_false_iff] at solid
  rw [Diagnostic.isIndent, solid.1.1, solid.1.2, Bool.or_self]

end Piece

/-- Tokens stand at places that the text has. -/
theorem tokens_pointed {source : String} {token : Token}
    (member : token ∈ (tokenize source).tokens) :
    Pointed source.toList token.position := by
  rcases List.mem_append.mp member with inside | last
  · obtain ⟨⟨position, piece⟩, located, found⟩ := List.mem_filterMap.mp inside
    rw [Piece.token?_position found]
    exact Piece.pointed_of_located located (.inl (by simp [found]))
  · cases List.mem_singleton.mp last
    exact ⟨source.toList, [], (List.append_nil _).symm, rfl, nofun⟩

/-- So do the errors of reading it. -/
theorem scan_errors_pointed {source : String} {error : Error}
    (member : error ∈ (tokenize source).errors) : Pointed source.toList error.position := by
  obtain ⟨⟨position, piece⟩, located, found⟩ := List.mem_filterMap.mp member
  rw [Piece.error?_position found]
  exact Piece.pointed_of_located located (.inr (by simp [found]))

end Script
