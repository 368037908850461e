import Script.Proofs.Scanning
import Script.Proofs.Scanning.Pieces
import Script.Proofs.Tree.Erasure

set_option autoImplicit false

/- Texts that are put together from words. A text is known to be cut between its words wherever it
stands, as long as what follows does not go on with its last word; then its tokens are known, save
their places. -/
namespace Script

open Piece (Ends)

namespace Piece

/-- Pieces that are cut off one by one in front of a text. -/
def Spaced : List Piece → List Char → Prop
  | [], _ => True
  | piece :: rest, behind =>
      piece.Valid ∧ piece.Apart (rest.flatMap spelling ++ behind) ∧ Spaced rest behind

variable {first second pieces : List Piece} {behind : List Char}

theorem spaced_append :
    Spaced (first ++ second) behind ↔
      Spaced first (second.flatMap spelling ++ behind) ∧ Spaced second behind := by
  induction first with
  | nil => simp [Spaced]
  | cons piece rest ih =>
    simp only [List.cons_append, Spaced, ih, List.flatMap_append, List.append_assoc, and_assoc]

/-- Spaced pieces are the pieces of the text that they spell. -/
theorem segment_of_spaced (spaced : Spaced pieces behind) :
    segment (pieces.flatMap spelling ++ behind) = pieces ++ segment behind := by
  induction pieces with
  | nil => rfl
  | cons piece rest ih =>
    obtain ⟨valid, apart, further⟩ := spaced
    rw [List.flatMap_cons, List.append_assoc, segment_append valid apart, ih further,
      List.cons_append]

/-- A text that goes on with no word, number or operator that stands in front of it. -/
def isStop : List Char → Bool
  | [] => true
  | char :: rest =>
      !isWordPart char && char != '=' && (char != '.' || !rest.head?.any Char.isDigit)

/-- A text that begins with something to read, and not with an equals sign. -/
def isFront : List Char → Bool
  | [] => false
  | char :: _ => !isBlank char && char != '='

theorem isFront_append {text : List Char} (front : isFront text = true) (behind : List Char) :
    isFront (text ++ behind) = true := by
  cases text with
  | nil => cases front
  | cons char rest => exact front

theorem isWordPart_of_isDigit {char : Char} (digit : char.isDigit = true) :
    isWordPart char = true := by
  have inside : Text.isDecimalDigit char = true := by
    simp only [Char.isDigit, Bool.and_eq_true, decide_eq_true_eq, UInt32.le_iff_toNat_le] at digit
    exact Text.inRanges_first digit.1 digit.2
  simp [isWordPart, inside]

/-- A token ends where a text stops it. -/
theorem apart_of_isStop {piece : Piece} {token : Token} {position : Position}
    (found : piece.token? position = some token) (stops : isStop behind = true) :
    piece.Apart behind := by
  cases behind with
  | nil => exact piece.apart_nil
  | cons char rest =>
    simp only [isStop, Bool.and_eq_true, Bool.not_eq_true', bne_iff_ne, ne_eq,
      Bool.or_eq_true] at stops
    obtain ⟨⟨word, sign⟩, point⟩ := stops
    have digit : char.isDigit = false := by
      rw [Bool.eq_false_iff]
      intro digit
      rw [isWordPart_of_isDigit digit] at word
      cases word
    cases piece with
    | newline | quoted => trivial
    | whole digits =>
      refine ⟨ends_cons.mpr digit, ?_⟩
      rintro rest' shape next member
      obtain ⟨rfl, rfl⟩ := List.cons.inj shape
      rw [Option.mem_def.mp member] at point
      simpa using point
    | decimal => exact ends_cons.mpr digit
    | word => exact ends_cons.mpr word
    | symbol => exact fun _ => ends_cons.mpr (beq_false_of_ne sign)
    | _ => cases found

/-- What is a token is no error. -/
theorem error?_of_token? {piece : Piece} {token : Token} {position : Position}
    (found : piece.token? position = some token) : piece.error? position = none := by
  rw [← Option.not_isSome_iff_eq_none, error?_isSome, found]
  exact Bool.false_ne_true

theorem token?_lexeme {piece : Piece} {token : Token} {position : Position}
    (found : piece.token? position = some token) :
    token.lexeme = String.ofList piece.spelling := by
  cases piece with
  | whole digits =>
    simp only [token?] at found
    split at found
    · cases found
      rfl
    · cases found
  | _ => cases found <;> rfl

theorem token?_unplaced (piece : Piece) (position : Position) :
    (piece.token? position).map Token.unplaced = piece.token? .null :=
  (piece.token?_moved (fun _ => .null) position).symm

end Piece

/-- A text between others, in two parts. -/
theorem append_split {first second whole : String} (parts : first ++ second = whole)
    (rest : String) : whole ++ rest = first ++ (second ++ rest) := by
  rw [← parts, String.append_assoc]

theorem append_spaced {word whole : String} (parts : " " ++ word ++ " " = whole) (rest : String) :
    whole ++ rest = " " ++ (word ++ (" " ++ rest)) := by
  rw [← parts, String.append_assoc, String.append_assoc]

/-- A token that a piece of text becomes. -/
def Token.Genuine (token : Token) : Prop :=
  ∃ piece : Piece, piece.Valid ∧ piece.token? token.position = some token

/-- The piece of a token in no place. -/
theorem Token.Genuine.exists_piece {token : Token} (genuine : token.Genuine) :
    ∃ piece : Piece, piece.Valid ∧ piece.token? .null = some token.unplaced ∧
      piece.spelling = token.lexeme.toList := by
  obtain ⟨piece, valid, found⟩ := genuine
  refine ⟨piece, valid, ?_, ?_⟩
  · rw [← Piece.token?_unplaced, found, Option.map_some]
  · rw [Piece.token?_lexeme found, String.toList_ofList]

def Symbol.token (sign : Symbol) : Token := ⟨.symbol sign, sign.spelling, none, .null⟩

def Keyword.token (word : Keyword) : Token := ⟨.keyword word, word.spelling, none, .null⟩

def Token.lineBreak : Token := ⟨.newline, "\n", none, .null⟩

theorem Symbol.genuine (sign : Symbol) : sign.token.Genuine := by
  refine ⟨.symbol sign, trivial, ?_⟩
  simp [Piece.token?, Piece.makeToken, Piece.spelling, Symbol.token]

theorem Keyword.genuine (word : Keyword) : word.token.Genuine := by
  refine ⟨.word word.spelling.toList, Piece.letters_keyword word, ?_⟩
  rw [Piece.token?, String.ofList_toList, Keyword.ofSpelling?_spelling]
  simp [Piece.makeToken, Piece.spelling, Keyword.token]

/-- The one token of a phrase, in whatever place. -/
def Same (token : Token) (tokens : List Token) : Prop :=
  ∃ token', tokens = [token'] ∧ token'.unplaced = token.unplaced

/-- One phrase behind another. -/
def Seq (first second : List Token → Prop) (tokens : List Token) : Prop :=
  ∃ front rest, tokens = front ++ rest ∧ first front ∧ second rest

/-- A text that is cut into pieces in front of everything that stops it, and whose tokens are of a
phrase, wherever they stand. -/
def Reads (phrase : List Token → Prop) (text : String) : Prop :=
  ∃ pieces : List Piece, pieces.flatMap Piece.spelling = text.toList ∧
    (∀ piece ∈ pieces, piece.error? .null = none) ∧
    (∀ behind, Piece.isStop behind = true → Piece.Spaced pieces behind) ∧
    ∀ tokens : List Token, tokens.map Token.unplaced = pieces.filterMap (Piece.token? .null) →
      phrase tokens

/-- A text that can stand behind a blank or an opening sign. -/
structure Printed (phrase : List Token → Prop) (text : String) : Prop where
  front : Piece.isFront text.toList = true
  reads : Reads phrase text

/-- A text that can stand directly behind a word. -/
structure Trailing (phrase : List Token → Prop) (text : String) : Prop where
  stops : ∀ behind, Piece.isStop behind = true → Piece.isStop (text.toList ++ behind) = true
  reads : Reads phrase text

section Combining

variable {phrase phrase' : List Token → Prop} {text text' : String} {token : Token}

theorem Reads.mono (reads : Reads phrase text)
    (weaker : ∀ tokens, phrase tokens → phrase' tokens) : Reads phrase' text := by
  obtain ⟨pieces, spelled, clean, spaced, read⟩ := reads
  exact ⟨pieces, spelled, clean, spaced, fun tokens same => weaker tokens (read tokens same)⟩

theorem Printed.mono (printed : Printed phrase text)
    (weaker : ∀ tokens, phrase tokens → phrase' tokens) : Printed phrase' text :=
  ⟨printed.front, printed.reads.mono weaker⟩

theorem Trailing.mono (trailing : Trailing phrase text)
    (weaker : ∀ tokens, phrase tokens → phrase' tokens) : Trailing phrase' text :=
  ⟨trailing.stops, trailing.reads.mono weaker⟩

theorem Reads.append (first : Reads phrase text) (second : Trailing phrase' text') :
    Reads (Seq phrase phrase') (text ++ text') := by
  obtain ⟨stops, pieces', spelled', clean', spaced', read'⟩ := second
  obtain ⟨pieces, spelled, clean, spaced, read⟩ := first
  refine ⟨pieces ++ pieces', ?_, ?_, fun behind stop => ?_, fun tokens same => ?_⟩
  · rw [List.flatMap_append, spelled, spelled', String.toList_append]
  · exact List.forall_mem_append.mpr ⟨clean, clean'⟩
  · refine Piece.spaced_append.mpr ⟨spaced _ ?_, spaced' behind stop⟩
    rw [spelled']
    exact stops behind stop
  · rw [List.filterMap_append] at same
    obtain ⟨front, rest, rfl, same, same'⟩ := List.map_eq_append_iff.mp same
    exact ⟨front, rest, rfl, read front same, read' rest same'⟩

theorem Printed.append (first : Printed phrase text) (second : Trailing phrase' text') :
    Printed (Seq phrase phrase') (text ++ text') := by
  refine ⟨?_, first.reads.append second⟩
  rw [String.toList_append]
  exact Piece.isFront_append first.front _

theorem Trailing.append (first : Trailing phrase text) (second : Trailing phrase' text') :
    Trailing (Seq phrase phrase') (text ++ text') := by
  refine ⟨fun behind stop => ?_, first.reads.append second⟩
  rw [String.toList_append, List.append_assoc]
  exact first.stops _ (second.stops behind stop)

theorem Trailing.empty : Trailing (· = []) "" := by
  refine ⟨fun _ stop => stop, [], rfl, nofun, fun _ _ => trivial, fun tokens same => ?_⟩
  simpa using same

/-- A blank is no token. -/
theorem Reads.blank (reads : Reads phrase text)
    (solid : ∀ behind, Ends Piece.isBlank (text.toList ++ behind)) :
    Trailing phrase (" " ++ text) := by
  obtain ⟨pieces, spelled, clean, spaced, read⟩ := reads
  refine ⟨fun _ _ => ?_, .blank [' '] :: pieces, ?_, ?_, fun behind stop => ?_, read⟩
  · rw [String.toList_append]
    rfl
  · rw [List.flatMap_cons, spelled, String.toList_append]
    rfl
  · exact List.forall_mem_cons.mpr ⟨rfl, clean⟩
  · refine ⟨⟨List.cons_ne_nil _ _, by simp [Piece.isBlank]⟩, ?_, spaced behind stop⟩
    rw [spelled]
    exact solid behind

theorem Printed.blank (printed : Printed phrase text) : Trailing phrase (" " ++ text) := by
  refine printed.reads.blank fun behind => ?_
  have front := Piece.isFront_append printed.front behind
  cases whole : text.toList ++ behind with
  | nil => exact .nil
  | cons char rest =>
    rw [whole] at front
    simp only [Piece.isFront, Bool.and_eq_true, Bool.not_eq_true'] at front
    exact Piece.ends_cons.mpr front.1

/-- A piece in front of a text that does not make it longer. -/
theorem Reads.cons {piece : Piece} (valid : piece.Valid) (found : piece.token? .null = some token)
    (apart : ∀ behind, Piece.isFront behind = true → piece.Apart behind)
    (printed : Printed phrase text) :
    Reads (Seq (Same token) phrase) (String.ofList piece.spelling ++ text) := by
  obtain ⟨front, pieces, spelled, clean, spaced, read⟩ := printed
  refine ⟨piece :: pieces, ?_, ?_, fun behind stop => ?_, fun tokens same => ?_⟩
  · rw [List.flatMap_cons, spelled, String.toList_append, String.toList_ofList]
  · exact List.forall_mem_cons.mpr ⟨Piece.error?_of_token? found, clean⟩
  · refine ⟨valid, apart _ ?_, spaced behind stop⟩
    rw [spelled]
    exact Piece.isFront_append front behind
  · rw [List.filterMap_cons_some found] at same
    obtain ⟨token', rest, rfl, same, same'⟩ := List.map_eq_cons_iff.mp same
    have nowhere : token.unplaced = token := by
      rw [Token.unplaced, ← Piece.token?_position found]
    exact ⟨[token'], rest, rfl, ⟨token', rfl, same.trans nowhere.symm⟩, read rest same'⟩

/-- A symbol directly in front of a text. -/
theorem Reads.sign (sign : Symbol) (printed : Printed phrase text) :
    Reads (Seq (Same sign.token) phrase) (sign.spelling ++ text) := by
  have found : (Piece.symbol sign).token? .null = some sign.token := by
    simp [Piece.token?, Piece.makeToken, Piece.spelling, Symbol.token]
  have apart : ∀ behind, Piece.isFront behind = true → (Piece.symbol sign).Apart behind := by
    intro behind front _
    cases behind with
    | nil => exact .nil
    | cons char rest =>
      simp only [Piece.isFront, Bool.and_eq_true, bne_iff_ne] at front
      exact Piece.ends_cons.mpr (beq_false_of_ne front.2)
  have valid : (Piece.symbol sign).Valid := trivial
  have reads := Reads.cons valid found apart printed
  rwa [Piece.spelling, String.ofList_toList] at reads

theorem Printed.opened (sign : Symbol) (front : Piece.isFront sign.spelling.toList = true)
    (printed : Printed phrase text) :
    Printed (Seq (Same sign.token) phrase) (sign.spelling ++ text) := by
  refine ⟨?_, .sign sign printed⟩
  rw [String.toList_append]
  exact Piece.isFront_append front _

theorem Printed.behind (sign : Symbol)
    (stops : ∀ behind, Piece.isStop (sign.spelling.toList ++ behind) = true)
    (printed : Printed phrase text) :
    Trailing (Seq (Same sign.token) phrase) (sign.spelling ++ text) := by
  refine ⟨fun behind _ => ?_, .sign sign printed⟩
  rw [String.toList_append, List.append_assoc]
  exact stops _

/-- A line break directly in front of a text. -/
theorem Printed.below (printed : Printed phrase text) :
    Printed (Seq (Same .lineBreak) phrase) ("\n" ++ text) ∧
      Trailing (Seq (Same .lineBreak) phrase) ("\n" ++ text) := by
  have found : Piece.newline.token? .null = some .lineBreak := rfl
  have valid : Piece.newline.Valid := trivial
  have reads := Reads.cons valid found (fun _ _ => trivial) printed
  have spelled : String.ofList Piece.newline.spelling = "\n" := by decide
  rw [spelled] at reads
  refine ⟨⟨?_, reads⟩, fun behind _ => ?_, reads⟩
  · rw [String.toList_append]
    rfl
  · rw [String.toList_append]
    rfl

namespace Token.Genuine

variable (genuine : token.Genuine)
include genuine

theorem reads : Reads (Same token) token.lexeme := by
  obtain ⟨piece, valid, found, spelled⟩ := genuine.exists_piece
  refine ⟨[piece], ?_, ?_, fun behind stop => ?_, fun tokens same => ?_⟩
  · rw [List.flatMap_singleton, spelled]
  · exact List.forall_mem_singleton.mpr (Piece.error?_of_token? found)
  · exact ⟨valid, Piece.apart_of_isStop found stop, trivial⟩
  · rw [List.filterMap_cons_some found, List.filterMap_nil] at same
    obtain ⟨token', rfl, is⟩ := List.map_eq_singleton_iff.mp same
    exact ⟨token', rfl, is⟩

/-- A token begins with the piece that it is. -/
theorem first_eq : ∃ char rest, token.lexeme.toList = char :: rest ∧
    (Piece.first char rest).token? .null = some token.unplaced := by
  obtain ⟨piece, valid, found, spelled⟩ := genuine.exists_piece
  obtain ⟨char, rest, is⟩ := List.exists_cons_of_ne_nil valid.spelling_ne_nil
  refine ⟨char, rest, spelled.symm.trans is, ?_⟩
  rw [Piece.first_of_apart valid piece.apart_nil (by rw [is, List.append_nil]), found]

theorem solid (behind : List Char) : Ends Piece.isBlank (token.lexeme.toList ++ behind) := by
  obtain ⟨char, rest, spelled, found⟩ := genuine.first_eq
  rw [spelled, List.cons_append, Piece.ends_cons, Bool.eq_false_iff]
  intro blank
  rw [(Piece.first_of_blank rest .null blank).1] at found
  cases found

theorem printed (other : token.kind ≠ .symbol .equals) : Printed (Same token) token.lexeme := by
  refine ⟨?_, genuine.reads⟩
  have solid := genuine.solid []
  obtain ⟨char, rest, spelled, found⟩ := genuine.first_eq
  rw [List.append_nil, spelled, Piece.ends_cons] at solid
  rw [spelled, Piece.isFront, solid]
  simp only [Bool.not_false, Bool.true_and, bne_iff_ne, ne_eq]
  rintro rfl
  have sign : Piece.first '=' rest = .symbol .equals := Piece.first_eq_symbol rfl
  rw [sign] at found
  exact other (congrArg Token.kind (Option.some.inj found)).symm

/-- A token between two blanks. -/
theorem infixed (printed : Printed phrase text) :
    Trailing (Seq (Same token) phrase) (" " ++ (token.lexeme ++ (" " ++ text))) := by
  refine (genuine.reads.append printed.blank).blank fun behind => ?_
  rw [String.toList_append, List.append_assoc]
  exact genuine.solid _

end Token.Genuine

/-- A symbol at the end of a text. -/
theorem Trailing.sign (sign : Symbol)
    (stops : ∀ behind, Piece.isStop (sign.spelling.toList ++ behind) = true) :
    Trailing (Same sign.token) sign.spelling :=
  ⟨fun behind _ => stops behind, sign.genuine.reads⟩

end Combining

/-- A text between an opening and a closing sign. -/
theorem Printed.enclosed {phrase : List Token → Prop} {text : String} (opening closing : Symbol)
    (front : Piece.isFront opening.spelling.toList = true)
    (stops : ∀ behind, Piece.isStop (opening.spelling.toList ++ behind) = true)
    (stops' : ∀ behind, Piece.isStop (closing.spelling.toList ++ behind) = true)
    (printed : Printed phrase text) :
    Printed (Seq (Same opening.token) (Seq phrase (Same closing.token)))
        (opening.spelling ++ (text ++ closing.spelling)) ∧
      Trailing (Seq (Same opening.token) (Seq phrase (Same closing.token)))
        (opening.spelling ++ (text ++ closing.spelling)) := by
  have closed := printed.append (Trailing.sign closing stops')
  exact ⟨closed.opened opening front, closed.behind opening stops⟩

end Script
