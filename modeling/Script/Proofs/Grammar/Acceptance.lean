import Script.Proofs.Grammar.Completeness

set_option autoImplicit false

/- Parsing accepts exactly the grammar, and gives the one tree that the grammar with assignments
preferred spells. -/
namespace Script

open Grammar

/-- A tape of tokens that the end of file ends has all of them ahead. -/
theorem Tape.ahead_ofTokens {body : List Token} {eof : Token}
    (opened : ∀ token ∈ body, token.kind ≠ .endOfFile) (ends : eof.kind = .endOfFile) :
    (Tape.ofTokens (body ++ [eof])).ahead = body := by
  change (body ++ [eof]).takeWhile Tape.isOpen = body
  rw [List.takeWhile_append_of_pos (by simpa [Tape.isOpen] using opened)]
  simp [Tape.isOpen, ends]

namespace Parser

variable {body : List Token} {eof : Token}

section Accepting

variable (opened : ∀ token ∈ body, token.kind ≠ .endOfFile) (ends : eof.kind = .endOfFile)
include opened ends

/-- Where no error is recorded, the result is spelled by all tokens, whichever reading of an
assignment is preferred. -/
theorem parse_sound {mode : Mode} (none : (parse (body ++ [eof])).errors = []) :
    Statements mode body (parse (body ++ [eof])).statements := by
  obtain ⟨stop, trace, ran, errors⟩ := run_parse (body ++ [eof])
  have read : Statements mode (Tape.ofTokens (body ++ [eof])).ahead _ :=
    statementList_sound rfl ⟨trace, ran, .inr (errors.symm.trans none)⟩
  rwa [Tape.ahead_ofTokens opened ends] at read

/-- What spells a program is read as that program, without an error. -/
theorem parse_complete {program : List Stmt} (spelled : Statements .preferred body program) :
    (parse (body ++ [eof])).errors = [] ∧ (parse (body ++ [eof])).statements = program := by
  obtain ⟨stop, trace, ran, errors⟩ := run_parse (body ++ [eof])
  rw [← Tape.ahead_ofTokens opened ends] at spelled
  obtain ⟨stop', read⟩ : ∃ stop, Ends False (statementList false) (.ofTokens (body ++ [eof]))
      (.ok program) stop := statementList_complete rfl spelled
  obtain ⟨same, -, quiet⟩ := (ends_iff_of_run ran).mp read
  cases same
  exact ⟨errors.trans (quiet.resolve_left id), rfl⟩

/-- Parsing records no error if and only if the tokens before the end of file spell a program of
the grammar. The result is then such a program, and it is the only one in which every `IDENT =`
at the head of a statement or of an assigned value assigns. -/
theorem parse_accepts_grammar :
    ((parse (body ++ [eof])).errors = [] ↔ ∃ program, Statements .plain body program) ∧
      ((parse (body ++ [eof])).errors = [] →
        Statements .plain body (parse (body ++ [eof])).statements) ∧
      ∀ program, Statements .preferred body program ↔
        (parse (body ++ [eof])).errors = [] ∧ (parse (body ++ [eof])).statements = program := by
  refine ⟨⟨fun none => ⟨_, parse_sound opened ends none⟩, ?_⟩, parse_sound opened ends, ?_⟩
  · rintro ⟨_, spelled⟩
    obtain ⟨program, spelled⟩ := spelled.prefer
    exact (parse_complete opened ends spelled).1
  · refine fun program => ⟨parse_complete opened ends, ?_⟩
    rintro ⟨none, rfl⟩
    exact parse_sound opened ends none

end Accepting

/-- The tokens of `x := 1`, a line break, and `x = x = 1`, where only the first sign behind a name
assigns. -/
def sampleTokens : List Token :=
  let name : Token := ⟨.identifier, "x", none, ⟨1, 1⟩⟩
  let one : Token := ⟨.int, "1", some (.number (.int 1)), ⟨1, 6⟩⟩
  let sign : Token := ⟨.symbol .equals, "=", none, ⟨2, 3⟩⟩
  [name, ⟨.symbol .inferred, ":=", none, ⟨1, 3⟩⟩, one, ⟨.newline, "\n", none, ⟨1, 7⟩⟩, name, sign,
    name, sign, one]

theorem parse_accepts_grammar_sample :
    (∀ token ∈ sampleTokens, token.kind ≠ .endOfFile) ∧
      (parse (sampleTokens ++ [.endOfFile ⟨2, 10⟩])).errors = [] ∧
      ∃ program, Statements .plain sampleTokens program := by
  have opened : ∀ token ∈ sampleTokens, token.kind ≠ .endOfFile := by decide
  have ends : (Token.endOfFile ⟨2, 10⟩).kind = .endOfFile := rfl
  have none : (parse (sampleTokens ++ [.endOfFile ⟨2, 10⟩])).errors = [] := by decide +kernel
  exact ⟨opened, none, (parse_accepts_grammar opened ends).1.mp none⟩

end Parser
end Script
