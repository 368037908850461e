import Script.Proofs.Parsing.Moved
import Script.Proofs.Scanning.Returns
import Script.Proofs.Scanning.Segmentation

set_option autoImplicit false

/- Texts on both sides of a line break. As long as no string is left open in front of it, nothing
reaches over a line break: what stands before it is scanned as if nothing followed, and what stands
behind it as if it were a text of its own, only further down. -/
namespace Script

namespace Position

/-- The same place so many lines further down. -/
def lower (lines : Nat) (position : Position) : Position :=
  ⟨position.line + lines, position.column⟩

theorem next_lower (lines : Nat) (position : Position) (char : Char) :
    (position.lower lines).next char = (position.next char).lower lines := by
  unfold next
  split
  · simp only [lower, Nat.add_right_comm]
  · rfl

/-- A text takes as many lines wherever it begins. -/
theorem after_lower (lines : Nat) (position : Position) (text : List Char) :
    (position.lower lines).after text = (position.after text).lower lines := by
  induction text generalizing position with
  | nil => rfl
  | cons char rest ih => rw [after_cons, next_lower, ih, after_cons]

/-- Behind a line break the next line begins. -/
theorem start_lower (text : List Char) :
    start.lower (1 + text.count '\n') = ⟨(start.after text).line + 1, 1⟩ := by
  rw [start_after]
  simp only [lower, start, behind, mk.injEq, and_true]
  omega

/-- A text below another one ends further down by the lines above it. -/
theorem after_above (text more : List Char) :
    start.after (text ++ '\n' :: more) = (start.after more).lower (1 + text.count '\n') := by
  rw [after_append, after_cons, ← after_lower, start_lower]
  rfl

end Position

namespace Piece

variable {piece : Piece} {behind more : List Char}

/-- A line break goes on with nothing that ended in front of it. -/
theorem Ends.above {kind : Char → Bool} (feed : kind '\n' = false) (ends : Ends kind behind) :
    Ends kind (behind ++ '\n' :: more) := by
  cases behind with
  | nil => exact ends_cons.mpr feed
  | cons char rest => exact ends_cons.mpr (ends_cons.mp ends)

/-- A piece is cut off in front of more lines where it was cut off without them, unless it is a
string left open. -/
theorem Apart.above (apart : piece.Apart behind) (closed : ∀ body, piece ≠ unclosed body) :
    piece.Apart (behind ++ '\n' :: more) := by
  refine apart.imp (fun body is => absurd is (closed body)) Ends.above fun rest' begins => ?_
  cases behind with
  | nil => cases begins
  | cons char rest =>
    obtain ⟨rfl, rfl⟩ := List.cons.inj begins
    exact ⟨rest, rfl, Ends.above⟩

section Scan

variable {α : Type} {make : Position → Piece → Option α}

/-- What is made of two texts with a line break between them. -/
theorem scan_above {text : List Char} (closed : ∀ body, unclosed body ∉ segment text)
    (more : List Char) (position : Position) :
    scan make position (text ++ '\n' :: more) =
      scan make position text ++ ((make (position.after text) .newline).toList ++
        scan make ⟨(position.after text).line + 1, 1⟩ more) := by
  fun_induction segment text generalizing position with
  | case1 =>
    rw [List.nil_append, scan_newline]
    simp [scan, segment, located]
  | case2 char rest piece ih =>
    have whole : piece.spelling ++ rest.drop (piece.spelling.length - 1) = char :: rest :=
      spelling_append_drop char rest
    have valid : piece.Valid := first_valid char rest
    have apart : piece.Apart (rest.drop (piece.spelling.length - 1)) := first_apart whole
    have closed' (body : List Char) : piece ≠ unclosed body := fun is =>
      closed body (is ▸ List.mem_cons_self)
    rw [← whole, List.append_assoc, scan_append valid (apart.above closed'),
      scan_append valid apart, Position.after_append, List.append_assoc]
    rw [ih (fun body member => closed body (List.mem_cons_of_mem _ member))]

/-- What is made of a text in other places, if it takes its places from them. -/
theorem scan_moved {move : α → α} {shift : Position → Position}
    (after : ∀ position text, (shift position).after text = shift (position.after text))
    (moves : ∀ position piece, make (shift position) piece = (make position piece).map move)
    (position : Position) (text : List Char) :
    scan make (shift position) text = (scan make position text).map move := by
  unfold scan
  induction segment text generalizing position with
  | nil => rfl
  | cons piece rest ih =>
    rw [located, located, after, List.filterMap_cons, List.filterMap_cons]
    dsimp only
    rw [moves, ih]
    cases make position piece <;> rfl

/-- What is made of the text below a line break is what is made of it alone, further down. -/
theorem scan_lower {text : List Char} (closed : ∀ body, unclosed body ∉ segment text)
    (more : List Char) {move : α → α}
    (moves : ∀ position piece, make (.lower (1 + text.count '\n') position) piece =
      (make position piece).map move) :
    scan make .start (text ++ '\n' :: more) =
      scan make .start text ++ ((make (Position.start.after text) .newline).toList ++
        (scan make .start more).map move) := by
  rw [scan_above closed, ← Position.start_lower, scan_moved (Position.after_lower _) moves]

end Scan

theorem error?_moved (shift : Position → Position) (position : Position) (piece : Piece) :
    piece.error? (shift position) = (piece.error? position).map (Error.moved shift) := by
  cases piece with
  | whole digits =>
    simp only [error?]
    split <;> rfl
  | _ => rfl

end Piece

/-- Every string left open is reported. -/
theorem closed_of_errors {source : String}
    (closed : ∀ error ∈ (tokenize source).errors, error.cause ≠ .unterminatedString)
    (body : List Char) : .unclosed body ∉ Piece.segment source.toList := by
  intro member
  rw [← Piece.map_snd_located .start (Piece.segment source.toList)] at member
  obtain ⟨⟨position, piece⟩, located, is⟩ := List.mem_map.mp member
  obtain rfl : piece = .unclosed body := is
  exact closed _ (List.mem_filterMap.mpr ⟨_, located, rfl⟩) rfl

/-- Scanning two texts with a line break between them is scanning each of them alone, if no string
is left open in the first one: its tokens without their end of file, a line break where that end
was, and the tokens of the second text, further down by the lines above them. So are the errors. -/
theorem tokenize_above (first second : String)
    (closed : ∀ error ∈ (tokenize first).errors, error.cause ≠ .unterminatedString) :
    let shift := Position.lower (1 + first.toList.count '\n')
    ∃ words finish, (tokenize first).tokens = words ++ [.endOfFile finish] ∧
      (tokenize (first ++ "\n" ++ second)).tokens =
        words ++ ⟨.newline, "\n", none, finish⟩ ::
          (tokenize second).tokens.map (Token.moved shift) ∧
      (tokenize (first ++ "\n" ++ second)).errors =
        (tokenize first).errors ++ (tokenize second).errors.map (Error.moved shift) := by
  intro shift
  have text : (first ++ "\n" ++ second).toList = first.toList ++ '\n' :: second.toList := by
    simp [String.toList_append]
  have tokens := Piece.scan_lower (closed_of_errors closed) second.toList (Piece.token?_moved shift)
  have errors := Piece.scan_lower (closed_of_errors closed) second.toList (Piece.error?_moved shift)
  have finish := Position.after_above first.toList second.toList
  rw [← text] at tokens errors finish
  refine ⟨_, _, rfl, ?_, errors.trans rfl⟩
  calc (tokenize (first ++ "\n" ++ second)).tokens
      = Piece.scan (fun position piece => piece.token? position) .start
            (first ++ "\n" ++ second).toList ++
          [.endOfFile (Position.start.after (first ++ "\n" ++ second).toList)] := rfl
    _ = _ := by
      rw [tokens, finish, List.append_assoc, List.append_assoc, tokenize, List.map_append]
      rfl

/-- A number that is too large stands in front of the line break, and an open string behind it. -/
theorem tokenize_above_sample :
    (∀ error ∈ (tokenize "x # y\n99999999999.").errors, error.cause ≠ .unterminatedString) ∧
      (tokenize ("x # y\n99999999999." ++ "\n" ++ "5 \"z")).errors =
        (tokenize "x # y\n99999999999.").errors ++
          (tokenize "5 \"z").errors.map (Error.moved (Position.lower 2)) := by
  have closed : ∀ error ∈ (tokenize "x # y\n99999999999.").errors,
      error.cause ≠ .unterminatedString := by decide +kernel
  obtain ⟨words, finish, -, -, errors⟩ := tokenize_above _ "5 \"z" closed
  exact ⟨closed, errors⟩

end Script
