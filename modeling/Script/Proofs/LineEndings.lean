import Script.Proofs.Grammar.Leaves
import Script.Proofs.Grammar.Words
import Script.Proofs.Parsing.Moved
import Script.Proofs.Printing.RoundTrip
import Script.Proofs.Scanning.Returns

set_option autoImplicit false

/- Line endings. Whether lines end with line feeds alone or with carriage returns before them makes
no difference to what is read from a text without quotes: only line breaks stand on other columns,
and an error that is reported at a line break goes with it. -/
namespace Script

/-- A text whose lines end with line feeds alone. -/
def feedLines (source : String) : String := Text.replaceAll source "\r\n" "\n"

/-- Tokens are the same, save that line breaks may stand on other columns. -/
def Token.SameButColumn (first second : Token) : Prop :=
  second = first ∨ first.kind = .newline ∧
    ∃ column, second = { first with position := ⟨first.position.line, column⟩ }

/-- Errors are the same, save that one at a line break goes where the line break goes. -/
def Error.SameButColumn (tokens tokens' : List Token) (error error' : Error) : Prop :=
  error' = error ∨ ∃ first second, (first, second) ∈ tokens.zip tokens' ∧ first.kind = .newline ∧
    first.position = error.position ∧ second.position.line = first.position.line ∧
    error' = { error with position := second.position }

section Scanning

theorem Piece.linewise_token? : Linewise Token.SameButColumn fun position piece =>
    piece.token? position where
  blank _ _ := rfl
  comment _ _ := rfl
  same _ _ _ _ := .inl rfl
  newline position position' line := by
    refine .cons (.inr ⟨rfl, position'.column, ?_⟩) .nil
    obtain ⟨row, column⟩ := position'
    cases line
    rfl

theorem Piece.linewise_error? : Linewise Eq fun position piece => piece.error? position where
  blank _ _ := rfl
  comment _ _ := rfl
  same _ _ _ _ := rfl
  newline _ _ _ := .nil

variable {source : String} (unquoted : '"' ∉ source.toList)
include unquoted

/-- The same is read from the words of a text, save the columns of line breaks. -/
theorem tokenize_feedLines :
    List.Forall₂ Token.SameButColumn (tokenize source).tokens (tokenize (feedLines source)).tokens ∧
      (tokenize (feedLines source)).errors = (tokenize source).errors := by
  have tokens := Piece.scan_dropReturns Piece.linewise_token? unquoted .start
  have errors := Piece.scan_dropReturns Piece.linewise_error? unquoted .start
  rw [← toList_replaceAll] at tokens errors
  have finish : Position.start.after (feedLines source).toList =
      Position.start.after source.toList := by
    rw [feedLines, toList_replaceAll, after_dropReturns]
  constructor
  · refine List.rel_append tokens (.cons (.inl ?_) .nil)
    rw [finish]
  · rw [List.forall₂_eq_eq_eq] at errors
    exact errors.symm

end Scanning

section Moving

/-- Where the second token of a pair stands whose first one stands at a place. -/
def counterpart (pairs : List (Token × Token)) (position : Position) : Position :=
  ((pairs.find? fun pair => pair.1.position == position).map fun pair =>
    pair.2.position).getD position

theorem counterpart_of_mem {pairs : List (Token × Token)}
    (apart : (pairs.map fun pair => pair.1.position).Nodup) {pair : Token × Token}
    (member : pair ∈ pairs) : counterpart pairs pair.1.position = pair.2.position := by
  induction pairs with
  | nil => cases member
  | cons head rest ih =>
    rw [List.map_cons, List.nodup_cons] at apart
    rcases List.mem_cons.mp member with rfl | behind
    · simp [counterpart]
    · have other : (head.1.position == pair.1.position) = false := by
        rw [beq_eq_false_iff_ne]
        intro same
        exact apart.1 (same ▸ List.mem_map_of_mem behind)
      have further := ih apart.2 behind
      rwa [counterpart, List.find?_cons, other]

theorem counterpart_cases (pairs : List (Token × Token)) (position : Position) :
    counterpart pairs position = position ∨
      ∃ pair ∈ pairs, pair.1.position = position ∧
        counterpart pairs position = pair.2.position := by
  unfold counterpart
  cases found : pairs.find? fun pair => pair.1.position == position with
  | none => exact .inl rfl
  | some pair =>
    have here : pair.1.position = position := by simpa using List.find?_some found
    exact .inr ⟨pair, List.mem_of_find?_eq_some found, here, rfl⟩

variable {tokens tokens' : List Token} (same : List.Forall₂ Token.SameButColumn tokens tokens')
include same

theorem sameButColumn_of_mem {pair : Token × Token} (member : pair ∈ tokens.zip tokens') :
    pair.1.SameButColumn pair.2 := (List.forall₂_iff_zip.mp same).2 member

/-- Only line breaks move, and they stay on their lines. -/
theorem Error.moved_counterpart (error : Error) :
    error.SameButColumn tokens tokens' (error.moved (counterpart (tokens.zip tokens'))) := by
  rcases counterpart_cases (tokens.zip tokens') error.position with
    fixed | ⟨pair, member, here, goes⟩
  · left
    rw [Error.moved, fixed]
  · rcases sameButColumn_of_mem same member with still | ⟨breaks, column, is⟩
    · left
      rw [Error.moved, goes, still, here]
    · exact .inr ⟨pair.1, pair.2, member, breaks, here, by rw [is], by rw [Error.moved, goes]⟩

variable (apart : (tokens.map Token.position).Nodup)
include apart

theorem counterpart_of_mem_zip {pair : Token × Token} (member : pair ∈ tokens.zip tokens') :
    counterpart (tokens.zip tokens') pair.1.position = pair.2.position := by
  refine counterpart_of_mem ?_ member
  have whole : (tokens.zip tokens').map Prod.fst = tokens :=
    List.map_fst_zip (Nat.le_of_eq same.length_eq)
  rw [← whole, List.map_map] at apart
  exact apart

theorem map_moved_counterpart :
    tokens.map (Token.moved (counterpart (tokens.zip tokens'))) = tokens' := by
  have each : ∀ pair ∈ tokens.zip tokens',
      pair.1.moved (counterpart (tokens.zip tokens')) = pair.2 := by
    intro pair member
    rw [Token.moved, counterpart_of_mem_zip same apart member]
    rcases sameButColumn_of_mem same member with is | ⟨-, column, is⟩ <;> rw [is]
  calc tokens.map (Token.moved (counterpart (tokens.zip tokens')))
    _ = ((tokens.zip tokens').map Prod.fst).map
          (Token.moved (counterpart (tokens.zip tokens'))) := by
      rw [List.map_fst_zip (Nat.le_of_eq same.length_eq)]
    _ = (tokens.zip tokens').map Prod.snd := by
      rw [List.map_map]
      exact List.map_congr_left each
    _ = tokens' := List.map_snd_zip (Nat.le_of_eq same.length_eq.symm)

/-- A word stays. -/
theorem Token.stays_of_word {token : Token} (member : token ∈ tokens)
    (word : token.kind ≠ .newline) : token.Stays (counterpart (tokens.zip tokens')) := by
  obtain ⟨pair, held, rfl⟩ : ∃ pair ∈ tokens.zip tokens', pair.1 = token := by
    rw [← List.mem_map, List.map_fst_zip (Nat.le_of_eq same.length_eq)]
    exact member
  rw [Token.Stays, counterpart_of_mem_zip same apart held]
  rcases sameButColumn_of_mem same held with is | ⟨breaks, -⟩
  · rw [is]
  · exact absurd breaks word

/-- Trees are made of words, so they stay. -/
theorem stmtsMoved_counterpart :
    stmtsMoved (counterpart (tokens.zip tokens')) (parse tokens).statements =
      (parse tokens).statements := by
  refine stmtsMoved_of_stays _ fun leaf inside => ?_
  obtain ⟨token, member, kept⟩ := Parser.exists_source tokens inside
  cases leaf with
  | token kept' =>
    obtain rfl : kept' = token := kept
    exact Token.stays_of_word same apart member ((Parser.parse_lenient tokens).words _ inside)
  | literal value position =>
    obtain ⟨denoted, rfl⟩ := kept
    refine Token.stays_of_word same apart member fun breaks => ?_
    rw [Token.denoted?, breaks] at denoted
    cases denoted

end Moving

theorem Position.Before.ne {first second : Position} (before : first.Before second) :
    first ≠ second := by
  rintro rfl
  unfold Before at before
  omega

/-- Line endings are inert. Where a text has no quotes, carriage returns in front of line feeds make
no difference to its tokens and the errors in its words, save the columns of line breaks; the same
statements are read, and an error among phrases changes its place only if that is a line break, and
then to where the line break is. So both texts are accepted or neither, and as the same program. -/
theorem line_endings_are_inert (source : String) (unquoted : '"' ∉ source.toList) :
    List.Forall₂ Token.SameButColumn (tokenize source).tokens
        (tokenize (feedLines source)).tokens ∧
      (tokenize (feedLines source)).errors = (tokenize source).errors ∧
      (parse (tokenize (feedLines source)).tokens).statements =
        (parse (tokenize source).tokens).statements ∧
      List.Forall₂
        (Error.SameButColumn (tokenize source).tokens (tokenize (feedLines source)).tokens)
        (parse (tokenize source).tokens).errors
        (parse (tokenize (feedLines source)).tokens).errors ∧
      ∀ program,
        parseSource source = .ok program ↔ parseSource (feedLines source) = .ok program := by
  obtain ⟨same, scanned⟩ := tokenize_feedLines unquoted
  have apart : ((tokenize source).tokens.map Token.position).Nodup :=
    List.pairwise_map.mpr ((tokens_ordered source).imp Position.Before.ne)
  have nowhere : counterpart ((tokenize source).tokens.zip (tokenize (feedLines source)).tokens)
      .null = .null := by
    rcases counterpart_cases _ .null with fixed | ⟨pair, member, here, -⟩
    · exact fixed
    · have placed := (tokens_pointed (List.of_mem_zip member).1).line.1
      rw [here] at placed
      cases placed
  have moved := parse_moved nowhere (tokenize source).tokens
  rw [map_moved_counterpart same apart, stmtsMoved_counterpart same apart] at moved
  rw [moved]
  refine ⟨same, scanned, rfl, ?_, fun program => ?_⟩
  · rw [List.forall₂_map_right_iff]
    exact List.forall₂_same.mpr fun error _ => error.moved_counterpart same
  · rw [parseSource_eq_ok, parseSource_eq_ok, moved, scanned, List.map_eq_nil_iff]

/-- A line break behind a blank and a return, and another one where an expression has to begin. -/
def returning : String := "x := 1 \r\ny := \r\n"

/-- The error goes back by one column with its line break, and the words stay. -/
theorem line_endings_are_inert_returning :
    '"' ∉ returning.toList ∧
      (parse (tokenize (feedLines returning)).tokens).statements =
        (parse (tokenize returning).tokens).statements ∧
      (parse (tokenize returning).tokens).errors.map Error.position = [⟨2, 7⟩] ∧
      (parse (tokenize (feedLines returning)).tokens).errors.map Error.position = [⟨2, 6⟩] := by
  have unquoted : '"' ∉ returning.toList := by decide
  exact ⟨unquoted, (line_endings_are_inert returning unquoted).2.2.1, by decide +kernel,
    by decide +kernel⟩

end Script
