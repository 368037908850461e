import Script.Proofs.Templates.Rounds
import Script.Grammar.Parser

set_option autoImplicit false

/- Messages and the templates they are made of. A message names tokens, and a token can hold a mark
in its text; if that mark is replaced later, it is replaced there too. -/
namespace Script

namespace Template

/-- A text holds a mark. -/
def Holds (text : String) (mark : Mark) : Prop := mark.letters <:+: text.toList

theorem foreign_iff {char : Char} :
    Foreign char ↔ char ∉ Mark.next.letters ∧ char ∉ Mark.previous.letters ∧
      char ∉ Mark.current.letters := by
  constructor
  · exact fun foreign => ⟨foreign .next, foreign .previous, foreign .current⟩
  · rintro ⟨next, previous, current⟩ (_ | _ | _)
    · exact next
    · exact previous
    · exact current

instance (char : Char) : Decidable (Foreign char) := decidable_of_iff' _ foreign_iff

theorem shown_word {text : String} (unopened : '\x7b' ∉ text.toList)
    (unclosed : '\x7d' ∉ text.toList)
    (plain : text.toList.any (fun char => decide (Foreign char)) = true) : Shown text.toList := by
  obtain ⟨char, held, foreign⟩ := List.any_eq_true.mp plain
  exact .word unopened unclosed held (of_decide_eq_true foreign)

theorem shown_quoted {opening text : String}
    (opens : ∃ first rest, opening.toList = first :: rest ∧ Foreign first) :
    Shown (opening ++ text ++ "`").toList := by
  obtain ⟨first, rest, spelled, foreign⟩ := opens
  have closes : Foreign '\x60' := by decide
  have shown : Shown (first :: (rest ++ text.toList ++ ['\x60'])) := .quoted foreign closes
  rwa [String.toList_append, String.toList_append, spelled]

theorem shown_kind {kind : Token.Kind} (plain : kind.isSelfDescribing = true) :
    Shown kind.describe.toList := by
  cases kind with
  | endOfFile => exact shown_word (by decide) (by decide) (by decide)
  | newline =>
    have quote : Foreign '\x60' := by decide
    have shown : Shown ('\x60' :: (['\\', 'n'] ++ ['\x60'])) := .quoted quote quote
    exact shown
  | symbol sign => exact shown_quoted ⟨'\x60', [], rfl, by decide⟩
  | keyword word => cases word <;> exact shown_word (by decide) (by decide) (by decide)
  | _ => cases plain

theorem shown_describe (token : Token) : Shown token.describe.toList := by
  rw [Token.describe]
  split
  · next plain => exact shown_kind plain
  · next lettered =>
    apply shown_quoted
    cases kind : token.kind with
    | identifier | string | int | float => exact ⟨_, _, rfl, by decide⟩
    | _ =>
      rw [kind] at lettered
      exact absurd rfl lettered

end Template

namespace Cursor

open Template

/-- What a mark stands for at a cursor. -/
def rendering (cursor : Cursor) : Mark → String
  | .next => (cursor.tape.next?.map Token.describe).getD "end of file"
  | .previous => (cursor.tape.previous?.map Token.describe).getD "start of file"
  | .current => cursor.tape.current.describe

theorem shown_getD (token? : Option Token) {fallback : String} (shown : Shown fallback.toList) :
    Shown ((token?.map Token.describe).getD fallback).toList := by
  cases token? with
  | none => exact shown
  | some token => exact shown_describe token

theorem shown_rendering (cursor : Cursor) (mark : Mark) : Shown (cursor.rendering mark).toList := by
  cases mark with
  | next => exact shown_getD _ (shown_word (by decide) (by decide) (by decide))
  | previous => exact shown_getD _ (shown_word (by decide) (by decide) (by decide))
  | current => exact shown_describe _

/-- A message is its template with the marks replaced one after the other. -/
theorem toList_message (cursor : Cursor) (template : String) :
    let rendering := fun mark => (cursor.rendering mark).toList
    (cursor.message template).toList =
      fillFrom (only rendering .current) 0
        (fillFrom (only rendering .previous) 0
          (fillFrom (only rendering .next) 0 template.toList)) := by
  dsimp only
  simp only [only, ← replaceFrom_eq_fillFrom]
  simp only [message, Text.replaceAll, String.toList_ofList]
  rfl

/-- A message is its template with all marks replaced at once exactly if no rendering that the
template asks for holds a mark that is replaced later: that of the next token the marks for the
previous and the current one, that of the previous token the mark for the current one. -/
theorem message_fills_once_iff (cursor : Cursor) (template : String) :
    cursor.message template = fill cursor.rendering template ↔
      ∀ mark, Holds template mark →
        ∀ later ∈ mark.later, ¬ Holds (cursor.rendering mark) later := by
  have shown := cursor.shown_rendering
  rw [String.ext_iff, toList_message, fill, String.toList_ofList, fillFrom_thrice shown]
  exact fillFrom_within_eq_iff shown template.toList

/-- Behind the argument in `f("{peek}" 5)`, which is a text that looks like a mark. -/
def behindMark : Cursor :=
  (Cursor.ofTokens [⟨.string, "\"\x7bpeek\x7d\"", some (.string "\x7bpeek\x7d"), ⟨1, 3⟩⟩,
    ⟨.int, "5", some (.number (.int 5)), ⟨1, 12⟩⟩]).advance

/-- A text that looks like a mark is replaced as if it stood in the template. -/
theorem message_fills_twice :
    behindMark.message "after \x7bpeekPrev\x7d, instead got \x7bpeek\x7d" =
        "after string `\"integer `5`\"`, instead got integer `5`" ∧
      fill behindMark.rendering "after \x7bpeekPrev\x7d, instead got \x7bpeek\x7d" =
        "after string `\"\x7bpeek\x7d\"`, instead got integer `5`" := by
  decide +kernel

end Cursor
end Script
