import Mathlib.Data.List.TakeWhile
import Script.Token.Scan

set_option autoImplicit false

/- The pieces of a text. What a piece may look like, which one a text begins with, and what must
stand behind a piece for it to be cut off there. -/
namespace Script

namespace Text

/-- Ranges ascend, so nothing below the first one is in any. -/
theorem le_of_inRanges {low high code : Nat} {rest : List (Nat × Nat)}
    (inside : inRanges ((low, high) :: rest) code = true) : low ≤ code := by
  rw [inRanges] at inside
  split at inside
  · cases inside
  · omega

theorem inRanges_first {low high code : Nat} {rest : List (Nat × Nat)} (above : low ≤ code)
    (below : code ≤ high) : inRanges ((low, high) :: rest) code = true := by
  rw [inRanges, if_neg (Nat.not_lt.mpr above), if_pos below]

theorem le_of_isAlphabetic {char : Char} (alphabetic : isAlphabetic char = true) :
    65 ≤ char.toNat := le_of_inRanges alphabetic

end Text

namespace Piece

/-- A text that is empty or begins with a character of another kind. -/
def Ends (kind : Char → Bool) (text : List Char) : Prop := ∀ char ∈ text.head?, kind char = false

theorem Ends.nil {kind : Char → Bool} : Ends kind [] := nofun

theorem ends_cons {kind : Char → Bool} {char : Char} {rest : List Char} :
    Ends kind (char :: rest) ↔ kind char = false := by simp [Ends]

/-- A run of characters goes as far as one of another kind. -/
theorem takeWhile_of_ends {kind : Char → Bool} {run behind : List Char}
    (all : ∀ char ∈ run, kind char = true) (ends : Ends kind behind) :
    (run ++ behind).takeWhile kind = run := by
  rw [List.takeWhile_append_of_pos all]
  cases behind with
  | nil => simp
  | cons char rest => simp [ends_cons.mp ends]

theorem dropWhile_of_ends {kind : Char → Bool} {run behind : List Char}
    (all : ∀ char ∈ run, kind char = true) (ends : Ends kind behind) :
    (run ++ behind).dropWhile kind = behind := by
  rw [List.dropWhile_append_of_pos all]
  cases behind with
  | nil => simp
  | cons char rest => simp [ends_cons.mp ends]

def Digits (text : List Char) : Prop := text ≠ [] ∧ ∀ char ∈ text, char.isDigit = true

/-- A word begins with a letter or an underscore and goes on with these and digits. -/
inductive Letters : List Char → Prop where
  | intro {head : Char} {tail : List Char} (starts : isWordStart head = true)
      (goes : ∀ char ∈ tail, isWordPart char = true) : Letters (head :: tail)

instance (text : List Char) : Decidable (Letters text) :=
  match text with
  | [] => .isFalse nofun
  | head :: tail =>
      decidable_of_iff (isWordStart head = true ∧ tail.all isWordPart = true)
        ⟨fun ⟨starts, goes⟩ => ⟨starts, List.all_eq_true.mp goes⟩,
          fun ⟨starts, goes⟩ => ⟨starts, List.all_eq_true.mpr goes⟩⟩

theorem letters_keyword (word : Keyword) : Letters word.spelling.toList := by
  cases word <;> decide

/-- What a piece may look like. -/
def Valid : Piece → Prop
  | blank run => run ≠ [] ∧ ∀ char ∈ run, isBlank char = true
  | newline => True
  | comment body => '\n' ∉ body
  | quoted body => '"' ∉ body
  | unclosed body => '"' ∉ body
  | whole digits => Digits digits
  | decimal digits fraction => Digits digits ∧ Digits fraction
  | word letters => Letters letters
  | symbol _ => True
  | stray char =>
      isBlank char = false ∧ char ≠ '\n' ∧ char ≠ '#' ∧ char ≠ '"' ∧ char.isDigit = false ∧
        isWordStart char = false ∧ ∀ sign : Symbol, sign.spelling.toList.head? ≠ some char

/-- What stands behind a piece does not make it longer. -/
def Apart : Piece → List Char → Prop
  | blank _, behind => Ends isBlank behind
  | comment _, behind => Ends (· != '\n') behind
  | unclosed _, behind => behind = []
  | whole _, behind =>
      Ends Char.isDigit behind ∧ ∀ rest, behind = '.' :: rest → Ends Char.isDigit rest
  | decimal _ _, behind => Ends Char.isDigit behind
  | word _, behind => Ends isWordPart behind
  | symbol sign, behind => sign ∈ [.colon, .greater, .less] → Ends (· == '=') behind
  | newline, _ | quoted _, _ | stray _, _ => True

theorem apart_nil (piece : Piece) : piece.Apart [] := by
  cases piece with
  | symbol sign => exact fun _ => .nil
  | whole digits => exact ⟨.nil, nofun⟩
  | newline | quoted | stray => trivial
  | unclosed body => rfl
  | _ => exact .nil

/-- A piece is cut off in front of another text too, if no run of characters without line breaks
that ended in front of the first text goes on in the other one, nor behind a point there. -/
theorem Apart.imp {piece : Piece} {behind behind' : List Char} (apart : piece.Apart behind)
    (closed : ∀ body, piece = unclosed body → behind' = [])
    (ends : ∀ {kind : Char → Bool}, kind '\n' = false → Ends kind behind → Ends kind behind')
    (point : ∀ rest', behind' = '.' :: rest' → ∃ rest, behind = '.' :: rest ∧
      ∀ {kind : Char → Bool}, kind '\n' = false → Ends kind rest → Ends kind rest') :
    piece.Apart behind' := by
  cases piece with
  | blank run => exact ends (by decide) apart
  | newline | quoted | stray => trivial
  | comment body => exact ends (by decide) apart
  | unclosed body => exact closed body rfl
  | whole digits =>
    refine ⟨ends (by decide) apart.1, fun rest' begins => ?_⟩
    obtain ⟨rest, began, further⟩ := point rest' begins
    exact further (by decide) (apart.2 rest began)
  | decimal digits fraction => exact ends (by decide) apart
  | word letters => exact ends (by decide) apart
  | symbol sign => exact fun short => ends (by decide) (apart short)

/-- Blanks and comments are no tokens, and faulty pieces are what is left. -/
def isSkipped : Piece → Bool
  | blank _ | comment _ => true
  | _ => false

theorem error?_isSome (piece : Piece) (position : Position) :
    (piece.error? position).isSome = ((piece.token? position).isNone && !piece.isSkipped) := by
  cases piece with
  | whole digits =>
    simp only [error?, token?]
    split <;> rfl
  | _ => rfl

section First

variable {char : Char} {rest : List Char}

theorem first_eq_blank (is : isBlank char = true) :
    first char rest = blank ((char :: rest).takeWhile isBlank) := by
  rw [first, if_pos is]

theorem first_eq_comment : first '#' rest = comment (rest.takeWhile (· != '\n')) := rfl

theorem first_eq_quotedAt : first '"' rest = quotedAt rest := rfl

/-- Blanks, the line feed, the quote and the number sign come before all other characters that
begin a piece. -/
theorem first_eq_of_le (above : 36 ≤ char.toNat) :
    first char rest = if char.isDigit then numberAt (char :: rest)
      else if isWordStart char then word (char :: rest.takeWhile isWordPart)
      else match symbolAt? (char :: rest) with
        | some sign => symbol sign
        | none => stray char := by
  have other {char' : Char} (below : char'.toNat < 36) : (char == char') = false :=
    beq_false_of_ne fun same => by
      subst same
      omega
  rw [first, isBlank, other (by decide), other (by decide), other (by decide), other (by decide),
    other (by decide), other (by decide)]
  rfl

theorem first_eq_numberAt (is : char.isDigit = true) :
    first char rest = numberAt (char :: rest) := by
  rw [first_eq_of_le, if_pos is]
  simp only [Char.isDigit, Bool.and_eq_true, decide_eq_true_eq, UInt32.le_iff_toNat_le] at is
  exact Nat.le_trans (by decide) is.1

theorem le_of_isWordStart (is : isWordStart char = true) : 65 ≤ char.toNat := by
  rcases Bool.or_eq_true_iff.mp is with letter | underscore
  · exact Text.le_of_isAlphabetic letter
  · rw [eq_of_beq underscore]
    decide

theorem isDigit_of_isWordStart (is : isWordStart char = true) : char.isDigit = false := by
  have above := le_of_isWordStart is
  rw [Bool.eq_false_iff]
  intro digit
  simp only [Char.isDigit, Bool.and_eq_true, decide_eq_true_eq, UInt32.le_iff_toNat_le] at digit
  exact absurd (Nat.le_trans above digit.2) (by decide)

theorem first_eq_word (is : isWordStart char = true) :
    first char rest = word (char :: rest.takeWhile isWordPart) := by
  have above := le_of_isWordStart is
  rw [first_eq_of_le (by omega), isDigit_of_isWordStart is, if_neg (by decide), if_pos is]

/-- Symbols begin with neither a digit nor a letter. -/
theorem of_symbolAt? {sign : Symbol} (is : symbolAt? (char :: rest) = some sign) :
    36 ≤ char.toNat ∧ char.isDigit = false ∧ isWordStart char = false := by
  revert is
  generalize whole : char :: rest = text
  intro is
  unfold symbolAt? at is
  split at is <;> cases is <;> cases whole <;> decide

theorem first_eq_symbol {sign : Symbol} (is : symbolAt? (char :: rest) = some sign) :
    first char rest = symbol sign := by
  obtain ⟨above, digit, letter⟩ := of_symbolAt? is
  rw [first_eq_of_le above, digit, if_neg (by decide), letter, if_neg (by decide), is]

/-- A symbol is read where it stands. Three symbols are the front of another one, and only if an
equals sign follows. -/
theorem symbolAt?_append {sign : Symbol} {behind : List Char}
    (apart : sign ∈ [.colon, .greater, .less] → Ends (· == '=') behind) :
    symbolAt? (sign.spelling.toList ++ behind) = some sign := by
  have alone (follows : Ends (· == '=') behind) : ∀ rest, behind = '=' :: rest → False := by
    rintro rest rfl
    cases ends_cons.mp follows
  cases sign with
  | colon => exact symbolAt?.eq_11 behind (alone (apart (by decide)))
  | greater => exact symbolAt?.eq_19 behind (alone (apart (by decide)))
  | less => exact symbolAt?.eq_21 behind (alone (apart (by decide)))
  | _ => rfl

theorem head?_of_symbolAt? {sign : Symbol} (found : symbolAt? (char :: rest) = some sign) :
    sign.spelling.toList.head? = some char := by
  obtain ⟨behind, whole⟩ := symbolAt?_spelling found
  have filled : sign.spelling.toList ≠ [] := by cases sign <;> decide
  obtain ⟨head, tail, spelled⟩ := List.exists_cons_of_ne_nil filled
  rw [spelled] at whole
  rw [spelled, List.head?_cons, (List.cons.inj whole).1]

/-- A symbol is found wherever one begins. -/
theorem symbolAt?_eq_none :
    symbolAt? (char :: rest) = none ↔
      ∀ sign : Symbol, sign.spelling.toList.head? ≠ some char := by
  refine ⟨fun none sign begins => ?_, fun other => ?_⟩
  · by_cases follows : ∃ behind, rest = '=' :: behind
    · obtain ⟨behind, rfl⟩ := follows
      cases sign <;> cases begins <;> cases none
    · have alone : Ends (· == '=') rest := by
        cases rest with
        | nil => exact .nil
        | cons next rest => simpa [ends_cons] using follows
      have single (sign : Symbol) (is : sign.spelling.toList = [char]) : False := by
        have found : symbolAt? (sign.spelling.toList ++ rest) = some sign :=
          symbolAt?_append fun _ => alone
        rw [is, List.singleton_append, none] at found
        cases found
      have lengths : sign.spelling.toList.tail = [] ∨
          sign ∈ [.inferred, .greaterEquals, .lessEquals] := by
        cases sign <;> decide
      rcases lengths with short | long
      · obtain ⟨tail, spelled⟩ := List.head?_eq_some_iff.mp begins
        rw [spelled, List.tail_cons] at short
        exact single sign (by rw [spelled, short])
      · simp only [List.mem_cons, List.not_mem_nil, or_false] at long
        rcases long with rfl | rfl | rfl <;> cases begins
        · exact single .colon rfl
        · exact single .greater rfl
        · exact single .less rfl
  · rw [Option.eq_none_iff_forall_not_mem]
    exact fun sign found => other sign (head?_of_symbolAt? found)

end First

section Cut

theorem numberAt_valid {char : Char} {rest : List Char} (is : char.isDigit = true) :
    (numberAt (char :: rest)).Valid := by
  have run (text : List Char) : ∀ char ∈ text.takeWhile Char.isDigit, char.isDigit = true :=
    fun _ member => List.mem_takeWhile_imp member
  have digits : Digits ((char :: rest).takeWhile Char.isDigit) := ⟨by simp [is], run _⟩
  unfold numberAt
  split
  · dsimp only
    split
    · exact digits
    · next filled => exact ⟨digits, by simpa using filled, run _⟩
  · exact digits

/-- The first piece of a text is as a piece has to be. -/
theorem first_valid (char : Char) (rest : List Char) : (first char rest).Valid := by
  unfold first
  split
  · next is => exact ⟨by simp [is], fun _ member => List.mem_takeWhile_imp member⟩
  split
  · trivial
  split
  · exact fun member => by simpa using List.mem_takeWhile_imp member
  split
  · unfold quotedAt
    split
    · exact fun member => by simpa using List.mem_takeWhile_imp member
    · next none => exact fun member => none (List.contains_iff_mem.mpr member)
  split
  · next is => exact numberAt_valid is
  split
  · next is => exact ⟨is, fun _ member => List.mem_takeWhile_imp member⟩
  split
  · trivial
  · next blank feed sign quote digit letter _ none =>
    exact ⟨by simpa using blank, by simpa using feed, by simpa using sign, by simpa using quote,
      by simpa using digit, by simpa using letter, symbolAt?_eq_none.mp none⟩

theorem numberAt_whole {digits behind : List Char} (valid : (whole digits).Valid)
    (apart : (whole digits).Apart behind) : numberAt (digits ++ behind) = whole digits := by
  unfold numberAt
  rw [takeWhile_of_ends valid.2 apart.1, dropWhile_of_ends valid.2 apart.1]
  split
  · next rest =>
    have none : ([] ++ rest).takeWhile Char.isDigit = [] :=
      takeWhile_of_ends (List.forall_mem_nil _) (apart.2 rest rfl)
    rw [List.nil_append] at none
    simp [none]
  · rfl

theorem numberAt_decimal {digits fraction behind : List Char}
    (valid : (decimal digits fraction).Valid) (apart : (decimal digits fraction).Apart behind) :
    numberAt (digits ++ '.' :: (fraction ++ behind)) = decimal digits fraction := by
  have point : Ends Char.isDigit ('.' :: (fraction ++ behind)) := ends_cons.mpr rfl
  have filled : fraction.isEmpty = false := by simpa using valid.2.1
  unfold numberAt
  rw [takeWhile_of_ends valid.1.2 point, dropWhile_of_ends valid.1.2 point]
  simp [takeWhile_of_ends valid.2.2 apart, filled]

/-- A piece is cut off where what stands behind it does not make it longer. -/
theorem first_of_apart {piece : Piece} {char : Char} {rest behind : List Char}
    (valid : piece.Valid) (apart : piece.Apart behind)
    (spelled : piece.spelling ++ behind = char :: rest) : first char rest = piece := by
  cases piece with
  | blank run =>
    obtain ⟨head, tail, rfl⟩ := List.exists_cons_of_ne_nil valid.1
    obtain ⟨rfl, rfl⟩ := List.cons.inj spelled
    rw [first_eq_blank (valid.2 _ List.mem_cons_self)]
    exact congrArg blank (takeWhile_of_ends valid.2 apart)
  | newline =>
    obtain ⟨rfl, rfl⟩ := List.cons.inj spelled
    rfl
  | comment body =>
    obtain ⟨rfl, rfl⟩ := List.cons.inj spelled
    have inside : ∀ char ∈ body, (char != '\n') = true := fun char member => by
      simpa using ne_of_mem_of_not_mem member valid
    exact congrArg comment (takeWhile_of_ends inside apart)
  | quoted body =>
    rw [spelling, List.cons_append, List.append_assoc] at spelled
    obtain ⟨rfl, rfl⟩ := List.cons.inj spelled
    have inside : ∀ char ∈ body, (char != '"') = true := fun char member => by
      simpa using ne_of_mem_of_not_mem member valid
    rw [first_eq_quotedAt, quotedAt, if_pos (by simp)]
    exact congrArg quoted (takeWhile_of_ends inside (ends_cons.mpr rfl))
  | unclosed body =>
    obtain rfl : behind = [] := apart
    rw [List.append_nil] at spelled
    obtain ⟨rfl, rfl⟩ := List.cons.inj spelled
    rw [first_eq_quotedAt, quotedAt, if_neg fun closed => valid (List.contains_iff_mem.mp closed)]
  | whole digits =>
    obtain ⟨head, tail, rfl⟩ := List.exists_cons_of_ne_nil valid.1
    obtain ⟨rfl, rfl⟩ := List.cons.inj spelled
    rw [first_eq_numberAt (valid.2 _ List.mem_cons_self)]
    exact numberAt_whole valid apart
  | decimal digits fraction =>
    obtain ⟨head, tail, rfl⟩ := List.exists_cons_of_ne_nil valid.1.1
    rw [spelling, List.append_assoc, List.cons_append, List.cons_append] at spelled
    obtain ⟨rfl, rfl⟩ := List.cons.inj spelled
    rw [first_eq_numberAt (valid.1.2 _ List.mem_cons_self)]
    exact numberAt_decimal valid apart
  | word letters =>
    obtain ⟨starts, goes⟩ := valid
    obtain ⟨rfl, rfl⟩ := List.cons.inj spelled
    rw [first_eq_word starts]
    exact congrArg (word <| _ :: ·) (takeWhile_of_ends goes apart)
  | symbol sign =>
    apply first_eq_symbol
    rw [← spelled]
    exact symbolAt?_append apart
  | stray single =>
    obtain ⟨rfl, rfl⟩ := List.cons.inj spelled
    obtain ⟨blank, feed, sign, quote, digit, letter, none⟩ := valid
    unfold first
    rw [blank, digit, letter, symbolAt?_eq_none.mpr none]
    simp [feed, sign, quote]

theorem eq_dropWhile {kind : Char → Bool} {text behind : List Char}
    (whole : text.takeWhile kind ++ behind = text) : behind = text.dropWhile kind :=
  List.append_cancel_left (whole.trans List.takeWhile_append_dropWhile.symm)

/-- What is left behind a run of characters begins with another one. -/
theorem ends_of_takeWhile {kind : Char → Bool} {text behind : List Char}
    (whole : text.takeWhile kind ++ behind = text) : Ends kind behind := by
  have other := List.head?_dropWhile_not kind text
  rw [← eq_dropWhile whole] at other
  cases behind with
  | nil => exact .nil
  | cons char behind => exact ends_cons.mpr other

theorem numberAt_apart {text behind : List Char}
    (whole : (numberAt text).spelling ++ behind = text) : (numberAt text).Apart behind := by
  generalize is : numberAt text = piece at whole ⊢
  unfold numberAt at is
  split at is
  · next rest point =>
    dsimp only at is
    split at is
    · next none =>
      subst is
      refine ⟨ends_of_takeWhile whole, ?_⟩
      rintro rest' rfl
      obtain ⟨-, rfl⟩ := List.cons.inj ((eq_dropWhile whole).trans point)
      apply ends_of_takeWhile
      rw [List.isEmpty_iff.mp none, List.nil_append]
    · subst is
      rw [spelling, List.append_assoc] at whole
      obtain ⟨-, fraction⟩ := List.cons.inj ((eq_dropWhile whole).trans point)
      exact ends_of_takeWhile fraction
  · next other =>
    subst is
    refine ⟨ends_of_takeWhile whole, ?_⟩
    rintro rest rfl
    exact absurd (eq_dropWhile whole).symm (other rest)

/-- A text goes on behind its first piece with what does not make the piece longer. -/
theorem first_apart {char : Char} {rest behind : List Char}
    (whole : (first char rest).spelling ++ behind = char :: rest) :
    (first char rest).Apart behind := by
  generalize is : first char rest = piece at whole ⊢
  unfold first at is
  split at is
  · subst is
    exact ends_of_takeWhile whole
  split at is
  · subst is
    trivial
  split at is
  · subst is
    exact ends_of_takeWhile (List.cons.inj whole).2
  split at is
  · unfold quotedAt at is
    split at is
    · subst is
      trivial
    · subst is
      exact List.append_right_eq_self.mp (List.cons.inj whole).2
  split at is
  · subst is
    exact numberAt_apart whole
  split at is
  · subst is
    exact ends_of_takeWhile (List.cons.inj whole).2
  split at is
  · next sign found =>
    subst is
    intro short
    cases behind with
    | nil => exact .nil
    | cons next behind =>
      rw [ends_cons, beq_eq_false_iff_ne]
      rintro rfl
      -- With an equals sign behind it the symbol would be a longer one.
      rw [← whole] at found
      simp only [List.mem_cons, List.not_mem_nil, or_false] at short
      rcases short with rfl | rfl | rfl <;> cases found
  · subst is
    trivial

theorem Valid.spelling_ne_nil {piece : Piece} (valid : piece.Valid) : piece.spelling ≠ [] := by
  cases piece with
  | blank run => exact valid.1
  | whole digits => exact valid.1
  | decimal digits fraction => simp [spelling]
  | word letters =>
    cases valid
    exact List.cons_ne_nil _ _
  | symbol sign => cases sign <;> decide
  | _ => exact List.cons_ne_nil _ _

/-- Cutting a text goes on behind a piece that is cut off. -/
theorem segment_append {piece : Piece} {behind : List Char} (valid : piece.Valid)
    (apart : piece.Apart behind) :
    segment (piece.spelling ++ behind) = piece :: segment behind := by
  obtain ⟨char, tail, spelled⟩ := List.exists_cons_of_ne_nil valid.spelling_ne_nil
  have front : first char (tail ++ behind) = piece :=
    first_of_apart valid apart (by rw [spelled, List.cons_append])
  rw [spelled, List.cons_append, segment, front, spelled]
  simp

end Cut

end Piece
end Script
