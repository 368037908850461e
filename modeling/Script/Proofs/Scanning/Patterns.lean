import Mathlib.Computability.Language
import Script.Proofs.Scanning.Pieces

set_option autoImplicit false

/- The patterns of the words of a program, as regular languages, and how they fit the pieces of a
text. A text is matched by a pattern if and only if a piece is spelled so, and the first piece of a
text is the longest front of it that a pattern matches. -/
namespace Script

open Computability

namespace Pattern

/-- Texts of one character of a kind. -/
def one (kind : Char → Bool) : Language Char := {text | ∃ char, kind char = true ∧ text = [char]}

def exactly (text : String) : Language Char := {text.toList}

def blanks : Language Char := one Piece.isBlank * (one Piece.isBlank)∗

def comment : Language Char := exactly "#" * (one (· != '\n'))∗

def unclosed : Language Char := exactly "\"" * (one (· != '"'))∗

def quoted : Language Char := unclosed * exactly "\""

def digits : Language Char := one Char.isDigit * (one Char.isDigit)∗

def number : Language Char := digits * (1 + exactly "." * digits)

def word : Language Char := one Piece.isWordStart * (one Piece.isWordPart)∗

/-- The symbols, each behind those that it is the front of. -/
def signs : List Symbol :=
  [.openParen, .closeParen, .openCurly, .closeCurly, .openBracket, .closeBracket, .comma, .dot,
    .semicolon, .inferred, .colon, .question, .equals, .plus, .dash, .star, .slash,
    .greaterEquals, .greater, .lessEquals, .less]

/-- The patterns, in the order in which they are tried: the first that matches reads the first piece
of a text (`Piece.first_tried`). -/
def table : List (Language Char) :=
  [blanks, exactly "\n", comment, quoted, unclosed, number, word] ++
    signs.map fun sign => exactly sign.spelling

section Membership

variable {text : List Char} {kind : Char → Bool}

theorem mem_one_kstar : text ∈ (one kind)∗ ↔ ∀ char ∈ text, kind char = true := by
  rw [Language.mem_kstar]
  constructor
  · rintro ⟨parts, rfl, each⟩ char member
    obtain ⟨part, inside, member⟩ := List.mem_flatten.mp member
    obtain ⟨char', is, rfl⟩ := each part inside
    cases List.mem_singleton.mp member
    exact is
  · intro all
    refine ⟨text.map ([·]), ?_, ?_⟩
    · simp [← List.flatMap_def]
    · intro part member
      obtain ⟨char, inside, rfl⟩ := List.mem_map.mp member
      exact ⟨char, all char inside, rfl⟩

theorem mem_one_mul {behind : Language Char} :
    text ∈ one kind * behind ↔
      ∃ head tail, text = head :: tail ∧ kind head = true ∧ tail ∈ behind := by
  rw [Language.mem_mul]
  constructor
  · rintro ⟨_, ⟨head, is, rfl⟩, tail, inside, rfl⟩
    exact ⟨head, tail, rfl, is, inside⟩
  · rintro ⟨head, tail, rfl, is, inside⟩
    exact ⟨[head], ⟨head, is, rfl⟩, tail, inside, rfl⟩

/-- One or more characters of a kind. -/
theorem mem_one_mul_kstar :
    text ∈ one kind * (one kind)∗ ↔ text ≠ [] ∧ ∀ char ∈ text, kind char = true := by
  rw [mem_one_mul]
  constructor
  · rintro ⟨head, tail, rfl, is, inside⟩
    exact ⟨List.cons_ne_nil _ _, List.forall_mem_cons.mpr ⟨is, mem_one_kstar.mp inside⟩⟩
  · rintro ⟨filled, all⟩
    obtain ⟨head, tail, rfl⟩ := List.exists_cons_of_ne_nil filled
    rw [List.forall_mem_cons] at all
    exact ⟨head, tail, rfl, all.1, mem_one_kstar.mpr all.2⟩

theorem mem_exactly_mul {spelled : String} {behind : Language Char} :
    text ∈ exactly spelled * behind ↔ ∃ rest ∈ behind, text = spelled.toList ++ rest := by
  rw [Language.mem_mul]
  constructor
  · rintro ⟨_, rfl, rest, inside, rfl⟩
    exact ⟨rest, inside, rfl⟩
  · rintro ⟨rest, inside, rfl⟩
    exact ⟨_, rfl, rest, inside, rfl⟩

theorem mem_blanks : text ∈ blanks ↔ (Piece.blank text).Valid := mem_one_mul_kstar

theorem mem_comment : text ∈ comment ↔ ∃ body, '\n' ∉ body ∧ text = '#' :: body := by
  rw [comment, mem_exactly_mul]
  refine exists_congr fun body => and_congr_left fun _ => mem_one_kstar.trans ?_
  simp [List.forall_mem_ne']

theorem mem_unclosed : text ∈ unclosed ↔ ∃ body, '"' ∉ body ∧ text = '"' :: body := by
  rw [unclosed, mem_exactly_mul]
  refine exists_congr fun body => and_congr_left fun _ => mem_one_kstar.trans ?_
  simp [List.forall_mem_ne']

theorem mem_quoted : text ∈ quoted ↔ ∃ body, '"' ∉ body ∧ text = '"' :: (body ++ ['"']) := by
  rw [quoted, Language.mem_mul]
  constructor
  · rintro ⟨opened, inside, _, rfl, rfl⟩
    obtain ⟨body, solid, rfl⟩ := mem_unclosed.mp inside
    exact ⟨body, solid, rfl⟩
  · rintro ⟨body, solid, rfl⟩
    exact ⟨'"' :: body, mem_unclosed.mpr ⟨body, solid, rfl⟩, ['"'], rfl, rfl⟩

theorem mem_digits : text ∈ digits ↔ Piece.Digits text := mem_one_mul_kstar

theorem mem_number :
    text ∈ number ↔ Piece.Digits text ∨ ∃ whole fraction, Piece.Digits whole ∧
      Piece.Digits fraction ∧ text = whole ++ '.' :: fraction := by
  rw [number, mul_add, mul_one, Language.mem_add, mem_digits]
  refine or_congr_right ?_
  rw [Language.mem_mul]
  constructor
  · rintro ⟨whole, inside, _, pointed, rfl⟩
    obtain ⟨fraction, inside', rfl⟩ := mem_exactly_mul.mp pointed
    exact ⟨whole, fraction, mem_digits.mp inside, mem_digits.mp inside', rfl⟩
  · rintro ⟨whole, fraction, inside, inside', rfl⟩
    refine ⟨whole, mem_digits.mpr inside, '.' :: fraction, ?_, rfl⟩
    exact mem_exactly_mul.mpr ⟨fraction, mem_digits.mpr inside', rfl⟩

theorem mem_word : text ∈ word ↔ Piece.Letters text := by
  rw [word, mem_one_mul]
  constructor
  · rintro ⟨head, tail, rfl, starts, goes⟩
    exact ⟨starts, mem_one_kstar.mp goes⟩
  · rintro ⟨starts, goes⟩
    exact ⟨_, _, rfl, starts, mem_one_kstar.mpr goes⟩

end Membership

end Pattern

namespace Piece

def isStray : Piece → Bool
  | stray _ => true
  | _ => false

/-- How many patterns are tried before the one that reads a piece. A stray character is left when
all of them have been tried. -/
def turn : Piece → Nat
  | blank _ => 0
  | newline => 1
  | comment _ => 2
  | quoted _ => 3
  | unclosed _ => 4
  | whole _ => 5
  | decimal _ _ => 5
  | word _ => 6
  | symbol sign => 7 + Pattern.signs.idxOf sign
  | stray _ => 7 + Pattern.signs.length

theorem isStray_of_turn_le {first second : Piece} (read : second.isStray = false)
    (before : first.turn ≤ second.turn) : first.isStray = false := by
  cases first with
  | stray char =>
    have within : second.turn < 7 + Pattern.signs.length := by
      cases second with
      | symbol sign => exact Nat.add_lt_add_left (by cases sign <;> decide) 7
      | stray char' => cases read
      | _ => exact Nat.lt_add_right _ (by simp [turn])
    exact absurd before (Nat.not_le_of_lt within)
  | _ => rfl

/-- Every piece but a stray character is matched by the pattern whose turn it is. -/
theorem exists_pattern {piece : Piece} (valid : piece.Valid) (read : piece.isStray = false) :
    ∃ pattern, Pattern.table[piece.turn]? = some pattern ∧ piece.spelling ∈ pattern := by
  cases piece with
  | blank run => exact ⟨_, rfl, Pattern.mem_blanks.mpr valid⟩
  | newline => exact ⟨Pattern.exactly "\n", rfl, rfl⟩
  | comment body => exact ⟨_, rfl, Pattern.mem_comment.mpr ⟨body, valid, rfl⟩⟩
  | quoted body => exact ⟨_, rfl, Pattern.mem_quoted.mpr ⟨body, valid, rfl⟩⟩
  | unclosed body => exact ⟨_, rfl, Pattern.mem_unclosed.mpr ⟨body, valid, rfl⟩⟩
  | whole digits => exact ⟨_, rfl, Pattern.mem_number.mpr (.inl valid)⟩
  | decimal digits fraction =>
    exact ⟨_, rfl, Pattern.mem_number.mpr (.inr ⟨digits, fraction, valid.1, valid.2, rfl⟩)⟩
  | word letters => exact ⟨_, rfl, Pattern.mem_word.mpr valid⟩
  | symbol sign => exact ⟨Pattern.exactly sign.spelling, by cases sign <;> rfl, rfl⟩
  | stray char => cases read

theorem exists_sign {pattern : Language Char} {index : Nat}
    (tried : Pattern.table[index + 7]? = some pattern) :
    ∃ sign : Symbol, pattern = Pattern.exactly sign.spelling ∧
      (symbol sign).turn = index + 7 := by
  have spelled : (Pattern.signs.map fun sign => Pattern.exactly sign.spelling)[index]? =
      some pattern := tried
  rw [List.getElem?_map, Option.map_eq_some_iff] at spelled
  obtain ⟨sign, found, rfl⟩ := spelled
  obtain ⟨within, rfl⟩ := List.getElem?_eq_some_iff.mp found
  have apart : Pattern.signs.Nodup := by decide
  refine ⟨_, rfl, ?_⟩
  rw [turn, apart.idxOf_getElem, Nat.add_comm]

/-- What a pattern matches is a piece whose turn it is. -/
theorem exists_piece {pattern : Language Char} {text : List Char} {index : Nat}
    (tried : Pattern.table[index]? = some pattern) (matched : text ∈ pattern) :
    ∃ piece : Piece, piece.Valid ∧ piece.isStray = false ∧ piece.spelling = text ∧
      piece.turn = index := by
  match index with
  | 0 =>
    have inside : text ∈ Pattern.blanks := Option.some.inj tried ▸ matched
    exact ⟨blank text, Pattern.mem_blanks.mp inside, rfl, rfl, rfl⟩
  | 1 =>
    have inside : text ∈ Pattern.exactly "\n" := Option.some.inj tried ▸ matched
    exact ⟨newline, trivial, rfl, inside.symm, rfl⟩
  | 2 =>
    have inside : text ∈ Pattern.comment := Option.some.inj tried ▸ matched
    obtain ⟨body, solid, rfl⟩ := Pattern.mem_comment.mp inside
    exact ⟨comment body, solid, rfl, rfl, rfl⟩
  | 3 =>
    have inside : text ∈ Pattern.quoted := Option.some.inj tried ▸ matched
    obtain ⟨body, solid, rfl⟩ := Pattern.mem_quoted.mp inside
    exact ⟨quoted body, solid, rfl, rfl, rfl⟩
  | 4 =>
    have inside : text ∈ Pattern.unclosed := Option.some.inj tried ▸ matched
    obtain ⟨body, solid, rfl⟩ := Pattern.mem_unclosed.mp inside
    exact ⟨unclosed body, solid, rfl, rfl, rfl⟩
  | 5 =>
    have inside : text ∈ Pattern.number := Option.some.inj tried ▸ matched
    rcases Pattern.mem_number.mp inside with all | ⟨digits, fraction, front, behind, rfl⟩
    · exact ⟨whole text, all, rfl, rfl, rfl⟩
    · exact ⟨decimal digits fraction, ⟨front, behind⟩, rfl, rfl, rfl⟩
  | 6 =>
    have inside : text ∈ Pattern.word := Option.some.inj tried ▸ matched
    exact ⟨word text, Pattern.mem_word.mp inside, rfl, rfl, rfl⟩
  | index + 7 =>
    obtain ⟨sign, rfl, same⟩ := exists_sign tried
    exact ⟨symbol sign, trivial, rfl, matched.symm, same⟩

section Longest

variable {char : Char} {rest behind : List Char}

theorem length_le_takeWhile {kind : Char → Bool} {run : List Char}
    (all : ∀ char ∈ run, kind char = true) :
    run.length ≤ ((run ++ behind).takeWhile kind).length := by
  rw [List.takeWhile_append_of_pos all, List.length_append]
  exact Nat.le_add_right _ _

/-- A number is at least as long as its digits. -/
theorem length_le_numberAt (text : List Char) :
    (text.takeWhile Char.isDigit).length ≤ (numberAt text).spelling.length ∧
      (numberAt text).turn = 5 := by
  unfold numberAt
  split
  · dsimp only
    split
    · exact ⟨Nat.le_refl _, rfl⟩
    · exact ⟨by simp [spelling], rfl⟩
  · exact ⟨Nat.le_refl _, rfl⟩

/-- A decimal takes all digits that follow its point. -/
theorem numberAt_takes {digits fraction : List Char} (valid : (decimal digits fraction).Valid) :
    numberAt (digits ++ '.' :: (fraction ++ behind)) =
      decimal digits (fraction ++ behind.takeWhile Char.isDigit) := by
  have run : ∀ char ∈ fraction ++ behind.takeWhile Char.isDigit, char.isDigit = true := by
    intro char member
    rcases List.mem_append.mp member with inside | further
    · exact valid.2.2 char inside
    · exact List.mem_takeWhile_imp further
  have longer : (decimal digits (fraction ++ behind.takeWhile Char.isDigit)).Valid :=
    ⟨valid.1, by simp [valid.2.1], run⟩
  have ends : Ends Char.isDigit (behind.dropWhile Char.isDigit) := by
    intro char member
    have := List.head?_dropWhile_not Char.isDigit behind
    simp_all
  have whole := numberAt_decimal longer ends
  rwa [List.append_assoc, List.takeWhile_append_dropWhile] at whole

/-- Where a symbol is the front of another one, the longer one is tried first. -/
theorem symbol_le {sign sign' : Symbol} (front : sign ∈ [.colon, .greater, .less])
    (alike : sign.spelling.toList.head? = sign'.spelling.toList.head?) :
    (symbol sign).spelling.length ≤ (symbol sign').spelling.length ∧
      (symbol sign').turn ≤ (symbol sign).turn := by
  simp only [List.mem_cons, List.not_mem_nil, or_false] at front
  rcases front with rfl | rfl | rfl <;> cases sign' <;> revert alike <;> decide

/-- No piece at the front of a text is longer than the first one, and none has an earlier turn. -/
theorem first_foremost {piece : Piece} (valid : piece.Valid) (read : piece.isStray = false)
    (spelled : piece.spelling ++ behind = char :: rest) :
    piece.spelling.length ≤ (first char rest).spelling.length ∧
      (first char rest).turn ≤ piece.turn := by
  cases piece with
  | blank run =>
    obtain ⟨head, tail, rfl⟩ := List.exists_cons_of_ne_nil valid.1
    obtain ⟨rfl, rfl⟩ := List.cons.inj spelled
    rw [first_eq_blank (valid.2 _ List.mem_cons_self)]
    exact ⟨length_le_takeWhile valid.2, Nat.le_refl _⟩
  | newline =>
    rw [first_of_apart valid trivial spelled]
    exact ⟨Nat.le_refl _, Nat.le_refl _⟩
  | quoted body =>
    rw [first_of_apart valid trivial spelled]
    exact ⟨Nat.le_refl _, Nat.le_refl _⟩
  | comment body =>
    obtain ⟨rfl, rfl⟩ := List.cons.inj spelled
    have inside : ∀ char ∈ body, (char != '\n') = true := fun char member => by
      simpa using ne_of_mem_of_not_mem member valid
    rw [first_eq_comment]
    exact ⟨Nat.succ_le_succ (length_le_takeWhile inside), Nat.le_refl _⟩
  | unclosed body =>
    obtain ⟨rfl, rfl⟩ := List.cons.inj spelled
    have inside : ∀ char ∈ body, (char != '"') = true := fun char member => by
      simpa using ne_of_mem_of_not_mem member valid
    rw [first_eq_quotedAt, quotedAt]
    split
    · have run : body.length ≤ ((body ++ behind).takeWhile (· != '"')).length :=
        length_le_takeWhile inside
      refine ⟨Nat.succ_le_succ (run.trans ?_), Nat.le_succ 3⟩
      rw [List.length_append]
      exact Nat.le_add_right _ _
    · exact ⟨Nat.succ_le_succ (List.prefix_append body behind).length_le, Nat.le_refl _⟩
  | whole digits =>
    obtain ⟨head, tail, rfl⟩ := List.exists_cons_of_ne_nil valid.1
    obtain ⟨rfl, rfl⟩ := List.cons.inj spelled
    rw [first_eq_numberAt (valid.2 _ List.mem_cons_self)]
    obtain ⟨long, same⟩ := length_le_numberAt (head :: (tail ++ behind))
    exact ⟨(length_le_takeWhile valid.2).trans long, same.le⟩
  | decimal digits fraction =>
    obtain ⟨head, tail, rfl⟩ := List.exists_cons_of_ne_nil valid.1.1
    rw [spelling, List.append_assoc, List.cons_append, List.cons_append] at spelled
    obtain ⟨rfl, rfl⟩ := List.cons.inj spelled
    rw [first_eq_numberAt (valid.1.2 _ List.mem_cons_self), ← List.cons_append,
      numberAt_takes valid]
    exact ⟨by simp [spelling], Nat.le_refl _⟩
  | word letters =>
    obtain ⟨starts, goes⟩ := valid
    obtain ⟨rfl, rfl⟩ := List.cons.inj spelled
    rw [first_eq_word starts]
    exact ⟨Nat.succ_le_succ (length_le_takeWhile goes), Nat.le_refl _⟩
  | symbol sign =>
    have begins : sign.spelling.toList.head? = some char := by
      obtain ⟨head, tail, is⟩ := List.exists_cons_of_ne_nil valid.spelling_ne_nil
      rw [is] at spelled
      rw [← (List.cons.inj spelled).1]
      exact congrArg List.head? is
    cases found : symbolAt? (char :: rest) with
    | none => exact absurd begins (symbolAt?_eq_none.mp found sign)
    | some sign' =>
      rw [first_eq_symbol found]
      -- A symbol that is the front of no other one is the one that is found.
      by_cases front : sign ∈ [.colon, .greater, .less]
      · exact symbol_le front (begins.trans (head?_of_symbolAt? found).symm)
      · have alone : symbolAt? (sign.spelling.toList ++ behind) = some sign :=
          symbolAt?_append fun is => absurd is front
        obtain rfl : sign = sign' := by
          rw [spelling] at spelled
          rw [spelled, found] at alone
          exact (Option.some.inj alone).symm
        exact ⟨Nat.le_refl _, Nat.le_refl _⟩
  | stray single => cases read

/-- Of the patterns that match a front of a text, the first in the table reads its first piece, and
as much as it can. -/
theorem first_tried (read : (first char rest).isStray = false) :
    ∃ before pattern behind, Pattern.table = before ++ pattern :: behind ∧
      (first char rest).spelling ∈ pattern ∧
      (∀ front ∈ pattern, front <+: char :: rest →
        front.length ≤ (first char rest).spelling.length) ∧
      ∀ earlier ∈ before, ∀ front ∈ earlier, ¬ front <+: char :: rest := by
  have foremost {pattern : Language Char} {front : List Char} {index : Nat}
      (tried : Pattern.table[index]? = some pattern) (matched : front ∈ pattern)
      (begins : front <+: char :: rest) :
      front.length ≤ (first char rest).spelling.length ∧ (first char rest).turn ≤ index := by
    obtain ⟨piece, valid, read', rfl, rfl⟩ := exists_piece tried matched
    obtain ⟨behind, spelled⟩ := begins
    exact first_foremost valid read' spelled
  obtain ⟨pattern, tried, matched⟩ := exists_pattern (first_valid char rest) read
  obtain ⟨within, is⟩ := List.getElem?_eq_some_iff.mp tried
  refine ⟨Pattern.table.take (first char rest).turn, pattern,
    Pattern.table.drop ((first char rest).turn + 1), ?_, matched, ?_, ?_⟩
  · rw [← is, ← List.drop_eq_getElem_cons within, List.take_append_drop]
  · exact fun front matched' begins => (foremost tried matched' begins).1
  · intro earlier member front matched' begins
    obtain ⟨index, found⟩ := List.mem_iff_getElem?.mp member
    rw [List.getElem?_take] at found
    obtain ⟨sooner, found⟩ := Option.ite_none_right_eq_some.mp found
    exact absurd (foremost found matched' begins).2 (Nat.not_le_of_lt sooner)

end Longest

end Piece
end Script
