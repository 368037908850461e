import Mathlib.Logic.Function.Basic
import Script.Proofs.Text.Replacing

set_option autoImplicit false

/- The marks of a template. No mark begins inside another one, so a template is read in one way,
mark by mark, and can be filled in with what the marks stand for. -/
namespace Script

namespace Template

/-- The marks of a template: for the next, the previous and the current token. -/
inductive Mark where
  | next
  | previous
  | current
deriving DecidableEq

namespace Mark

def spelling : Mark → String
  | next => "\x7bpeekNext\x7d"
  | previous => "\x7bpeekPrev\x7d"
  | current => "\x7bpeek\x7d"

def letters (mark : Mark) : List Char := mark.spelling.toList

/-- The marks that are replaced later than a mark, also in what has been written for it. -/
def later : Mark → List Mark
  | next => [previous, current]
  | previous => [current]
  | current => []

end Mark

/-- The mark that a text begins with. -/
def mark? (text : List Char) : Option Mark :=
  [Mark.next, .previous, .current].find? fun mark => mark.letters.isPrefixOf text

/-- Writes for each mark of a template what it stands for. The template alone is read, and never
what has been written. The first argument counts the characters that still belong to the last
mark. -/
def fillFrom (rendering : Mark → List Char) : Nat → List Char → List Char
  | _, [] => []
  | skip + 1, _ :: rest => fillFrom rendering skip rest
  | 0, char :: rest =>
      match mark? (char :: rest) with
      | some mark => rendering mark ++ fillFrom rendering (mark.letters.length - 1) rest
      | none => char :: fillFrom rendering 0 rest

/-- A template with all marks replaced at once. -/
def fill (rendering : Mark → String) (template : String) : String :=
  String.ofList (fillFrom (fun mark => (rendering mark).toList) 0 template.toList)

theorem mark?_letters (mark : Mark) (rest : List Char) :
    mark? (mark.letters ++ rest) = some mark := by
  cases mark <;> rfl

theorem mark?_eq_some {text : List Char} {mark : Mark} :
    mark? text = some mark ↔ mark.letters <+: text := by
  constructor
  · intro found
    rw [mark?] at found
    simpa using List.find?_some found
  · rintro ⟨rest, rfl⟩
    exact mark?_letters mark rest

theorem mark?_eq_none {text : List Char} :
    mark? text = none ↔ ∀ mark : Mark, ¬ mark.letters <+: text := by
  simp only [Option.eq_none_iff_forall_ne_some, ne_eq, mark?_eq_some]

theorem exists_letters (mark : Mark) :
    ∃ name, mark.letters = '\x7b' :: (name ++ ['\x7d']) ∧ '\x7b' ∉ name ∧ '\x7d' ∉ name := by
  cases mark with
  | next => exact ⟨"peekNext".toList, by decide⟩
  | previous => exact ⟨"peekPrev".toList, by decide⟩
  | current => exact ⟨"peek".toList, by decide⟩

theorem letters_eq (mark : Mark) : mark.letters = '\x7b' :: mark.letters.tail := by
  cases mark <;> rfl

section Braces

variable {mark : Mark} {before behind : List Char}

theorem opened_of_beginning (some : before ≠ []) (begins : before <+: mark.letters) :
    '\x7b' ∈ before := by
  rw [letters_eq, List.prefix_cons_iff] at begins
  obtain ⟨rest, rfl, -⟩ := begins.resolve_left some
  exact List.mem_cons_self

theorem closed_of_ending (some : behind ≠ []) (ends : behind <:+ mark.letters) :
    '\x7d' ∈ behind := by
  obtain ⟨name, spelled, -⟩ := exists_letters mark
  rw [spelled, ← List.cons_append, List.suffix_concat_iff] at ends
  obtain ⟨rest, rfl, -⟩ := ends.resolve_left some
  exact List.mem_append_right _ (List.mem_singleton_self _)

theorem unopened_of_ending (ends : behind <:+ mark.letters.tail) : '\x7b' ∉ behind := by
  obtain ⟨name, spelled, unopened, -⟩ := exists_letters mark
  rw [spelled, List.tail_cons] at ends
  intro held
  rcases List.mem_append.mp (ends.subset held) with inside | last
  · exact unopened inside
  · exact absurd last (by decide)

theorem unclosed_of_beginning (more : behind ≠ []) (whole : before ++ behind = mark.letters) :
    '\x7d' ∉ before := by
  obtain ⟨name, spelled, -, unclosed⟩ := exists_letters mark
  obtain ⟨rest, last, rfl⟩ := (List.eq_nil_or_concat behind).resolve_left more
  rw [spelled, List.concat_eq_append, ← List.append_assoc, ← List.cons_append] at whole
  have inner : before ++ rest = '\x7b' :: name := (List.append_inj' whole rfl).1
  intro held
  have held' : '\x7d' ∈ '\x7b' :: name := inner ▸ List.mem_append_left rest held
  rcases List.mem_cons.mp held' with first | inside
  · exact absurd first (by decide)
  · exact unclosed inside

end Braces

section Filling

variable {rendering other : Mark → List Char}

theorem fillFrom_drop (skip : Nat) (text : List Char) :
    fillFrom rendering skip text = fillFrom rendering 0 (text.drop skip) := by
  induction text generalizing skip with
  | nil => rw [List.drop_nil, fillFrom, fillFrom]
  | cons char rest ih =>
    cases skip with
    | zero => rfl
    | succ skip => rw [fillFrom, List.drop_succ_cons, ih]

theorem fillFrom_mark (mark : Mark) (rest : List Char) :
    fillFrom rendering 0 (mark.letters ++ rest) = rendering mark ++ fillFrom rendering 0 rest := by
  have found := mark?_letters mark rest
  rw [letters_eq, List.cons_append] at found ⊢
  rw [fillFrom, found]
  dsimp only
  rw [fillFrom_drop, List.length_tail.symm, List.drop_left]

theorem fillFrom_char {char : Char} {rest : List Char} (none : mark? (char :: rest) = none) :
    fillFrom rendering 0 (char :: rest) = char :: fillFrom rendering 0 rest := by
  rw [fillFrom, none]

/-- A text is read mark by mark and, where none begins, character by character. -/
theorem reading {motive : List Char → Prop} (nil : motive [])
    (mark : ∀ (mark : Mark) (rest : List Char), motive rest → motive (mark.letters ++ rest))
    (char : ∀ (char : Char) (rest : List Char), mark? (char :: rest) = none → motive rest →
      motive (char :: rest)) (text : List Char) : motive text := by
  induction size : text.length using Nat.strongRecOn generalizing text with
  | ind size ih =>
    cases found : mark? text with
    | some begun =>
      obtain ⟨rest, rfl⟩ := mark?_eq_some.mp found
      refine mark begun rest (ih rest.length ?_ rest rfl)
      rw [← size, letters_eq, List.length_append, List.length_cons]
      omega
    | none =>
      cases text with
      | nil => exact nil
      | cons first rest =>
        refine char first rest found (ih rest.length ?_ rest rfl)
        rw [← size, List.length_cons]
        exact Nat.lt_succ_self _

theorem fillFrom_alone (mark : Mark) : fillFrom rendering 0 mark.letters = rendering mark := by
  have alone := @fillFrom_mark rendering mark []
  rwa [List.append_nil, fillFrom, List.append_nil] at alone

/-- A text with every mark written as it is read is the text itself. -/
theorem fillFrom_letters (text : List Char) : fillFrom Mark.letters 0 text = text := by
  induction text using reading with
  | nil => rfl
  | mark mark rest ih => rw [fillFrom_mark, ih]
  | char char rest none ih => rw [fillFrom_char none, ih]

/-- Replacing one mark leaves the other ones. -/
theorem replaceFrom_eq_fillFrom (mark : Mark) (replacement text : List Char) :
    Text.replaceFrom mark.letters replacement 0 text =
      fillFrom (Function.update Mark.letters mark replacement) 0 text := by
  induction text using reading with
  | nil => rfl
  | mark begun rest ih =>
    rw [fillFrom_mark, ← ih]
    by_cases same : begun = mark
    · subst same
      have some : begun.letters ≠ [] := by
        rw [letters_eq]
        exact List.cons_ne_nil _ _
      rw [Function.update_self, Text.replaceFrom_pattern some]
    · rw [Function.update_of_ne same]
      have unopened : '\x7b' ∉ begun.letters.tail := unopened_of_ending List.suffix_rfl
      have absent : ¬ mark.letters <+: begun.letters ++ rest := by
        rw [← mark?_eq_some, mark?_letters]
        exact fun found => same (Option.some.inj found)
      rw [letters_eq begun, List.cons_append] at absent ⊢
      rw [Text.replaceFrom_char absent, letters_eq mark, Text.replaceFrom_append unopened,
        List.cons_append]
  | char char rest none ih =>
    rw [fillFrom_char none, Text.replaceFrom_char (mark?_eq_none.mp none mark), ih]

/-- Marks that a text holds are all that matters of what they stand for. -/
theorem fillFrom_congr {text : List Char}
    (same : ∀ mark : Mark, mark.letters <:+: text → rendering mark = other mark) :
    fillFrom rendering 0 text = fillFrom other 0 text := by
  induction text using reading with
  | nil => rfl
  | mark mark rest ih =>
    rw [fillFrom_mark, fillFrom_mark, same mark (List.prefix_append _ rest).isInfix,
      ih fun inner held => same inner (held.trans (List.suffix_append _ rest).isInfix)]
  | char char rest none ih =>
    rw [fillFrom_char none, fillFrom_char none,
      ih fun inner held => same inner (held.trans (List.suffix_cons char rest).isInfix)]

/-- Where no mark crosses from one text into another, the two are filled in one by one. -/
theorem fillFrom_append {first second : List Char}
    (apart : ∀ (mark : Mark) (before behind : List Char), before ≠ [] → behind ≠ [] →
      before ++ behind = mark.letters → before <:+ first → ¬ behind <+: second) :
    fillFrom rendering 0 (first ++ second) =
      fillFrom rendering 0 first ++ fillFrom rendering 0 second := by
  induction first using reading with
  | nil => rfl
  | mark mark rest ih =>
    rw [List.append_assoc, fillFrom_mark, fillFrom_mark, List.append_assoc, ih]
    intro mark' before behind some more whole ends
    exact apart mark' before behind some more whole (ends.trans (List.suffix_append _ rest))
  | char char rest none ih =>
    have none' : mark? (char :: rest ++ second) = Option.none := by
      rw [mark?_eq_none] at none ⊢
      intro mark begins
      rcases List.prefix_or_prefix_of_prefix begins (List.prefix_append _ second) with
        inside | ⟨behind, whole⟩
      · exact none mark inside
      · rw [← whole, List.prefix_append_right_inj] at begins
        refine apart mark _ behind (List.cons_ne_nil char rest) ?_ whole List.suffix_rfl begins
        rintro rfl
        rw [List.append_nil] at whole
        exact none mark (whole ▸ List.prefix_rfl)
    rw [List.cons_append] at none' ⊢
    rw [fillFrom_char none', fillFrom_char none, List.cons_append, ih]
    intro mark before behind some more whole ends
    exact apart mark before behind some more whole (ends.trans (List.suffix_cons char rest))

end Filling

section Held

variable {mark : Mark} {rest : List Char}

/-- No mark begins behind its first character. -/
theorem held_of_unopened {text : List Char} (unopened : '\x7b' ∉ text)
    (held : mark.letters <:+: text ++ rest) : mark.letters <:+: rest := by
  induction text with
  | nil => exact held
  | cons char text ih =>
    rw [List.mem_cons, not_or] at unopened
    rw [List.cons_append, List.infix_cons_iff] at held
    refine ih unopened.2 (held.resolve_left fun begins => unopened.1 ?_)
    rw [letters_eq] at begins
    exact (List.cons_prefix_cons.mp begins).1

theorem held_mark {begun : Mark} (held : mark.letters <:+: begun.letters ++ rest) :
    mark = begun ∨ mark.letters <:+: rest := by
  by_cases begins : mark.letters <+: begun.letters ++ rest
  · left
    rw [← mark?_eq_some, mark?_letters] at begins
    exact (Option.some.inj begins).symm
  · right
    rw [letters_eq begun, List.cons_append] at begins held
    have inside := (List.infix_cons_iff.mp held).resolve_left begins
    exact held_of_unopened (unopened_of_ending List.suffix_rfl) inside

theorem held_char {char : Char} (none : mark? (char :: rest) = none)
    (held : mark.letters <:+: char :: rest) : mark.letters <:+: rest :=
  (List.infix_cons_iff.mp held).resolve_left (mark?_eq_none.mp none mark)

theorem not_held_nil : ¬ mark.letters <:+: [] := by
  rw [letters_eq, List.infix_nil]
  exact List.cons_ne_nil _ _

end Held

end Template
end Script
