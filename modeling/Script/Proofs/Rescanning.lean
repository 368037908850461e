import Script.Proofs.Positions
import Script.Proofs.Printing.RoundTrip

set_option autoImplicit false

/- Scanning the words of a text again. With single blanks between them, the words of any text are
scanned as themselves: no word is taken apart, and none reaches over a blank. -/
namespace Script

theorem Token.SameWord.of_unplaced {first second : Token}
    (same : first.unplaced = second.unplaced) : first.SameWord second := by
  simp only [Token.unplaced, Token.mk.injEq, and_true] at same
  exact same

/-- The texts of words with blanks between them. -/
def joined (words : List Token) : String := " ".intercalate (words.map Token.lexeme)

theorem joined_singleton (word : Token) : joined [word] = word.lexeme :=
  String.intercalate_singleton

theorem joined_cons_cons (word next : Token) (rest : List Token) :
    joined (word :: next :: rest) = word.lexeme ++ (" " ++ joined (next :: rest)) := by
  rw [← String.append_assoc]
  exact String.intercalate_cons_cons

/-- Joined words begin with the first of them. -/
theorem exists_joined_cons (word : Token) (rest : List Token) :
    ∃ more, joined (word :: rest) = word.lexeme ++ more := by
  cases rest with
  | nil => exact ⟨"", by rw [joined_singleton, String.append_empty]⟩
  | cons next rest => exact ⟨_, joined_cons_cons word next rest⟩

/-- Joined words are read as these words. -/
theorem reads_joined {words : List Token} (genuine : AllGenuine words) :
    Reads (List.Forall₂ Token.SameWord words) (joined words) := by
  induction words with
  | nil =>
    refine Trailing.empty.reads.mono fun tokens none => ?_
    subst none
    exact .nil
  | cons word rest ih =>
    obtain ⟨first, others⟩ := List.forall_mem_cons.mp genuine
    cases rest with
    | nil =>
      rw [joined_singleton]
      refine first.reads.mono ?_
      rintro _ ⟨token, rfl, same⟩
      exact .cons (.of_unplaced same.symm) .nil
    | cons next rest =>
      have apart (behind : List Char) :
          Piece.Ends Piece.isBlank ((joined (next :: rest)).toList ++ behind) := by
        obtain ⟨more, begins⟩ := exists_joined_cons next rest
        rw [begins, String.toList_append, List.append_assoc]
        exact (others next List.mem_cons_self).solid _
      rw [joined_cons_cons]
      refine (first.reads.append ((ih others).blank apart)).mono ?_
      rintro _ ⟨_, again, rfl, ⟨token, rfl, same⟩, words⟩
      exact .cons (.of_unplaced same.symm) words

/-- The words of a text, errors or not, are scanned again without an error: each one as a word of
the same kind, with the same text and the same value, and no others. -/
theorem tokenize_joined (source : String) :
    ∃ words finish, (tokenize source).tokens = words ++ [.endOfFile finish] ∧
      (tokenize (" ".intercalate (words.map Token.lexeme))).errors = [] ∧
      ∃ again finish', List.Forall₂ Token.SameWord words again ∧
        (tokenize (" ".intercalate (words.map Token.lexeme))).tokens =
          again ++ [.endOfFile finish'] := by
  obtain ⟨words, scanned, genuine⟩ := exists_genuine source
  obtain ⟨clean, again, same, rescanned⟩ := (reads_joined genuine).scanned
  exact ⟨words, _, scanned, clean, again, _, same, rescanned⟩

/-- Strings keep their line breaks and number signs, and what was an error is left out. -/
example : ∃ words finish, (tokenize "x:=\"#\n\"~1.5").tokens = words ++ [Token.endOfFile finish] ∧
    " ".intercalate (words.map Token.lexeme) = "x := \"#\n\" 1.5" :=
  ⟨_, _, rfl, by decide +kernel⟩

end Script
