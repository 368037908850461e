import Script.Proofs.Grammar.Completeness
import Script.Proofs.Parsing.Watched
import Script.Proofs.Sessions

set_option autoImplicit false

/- Trying a declaration and going back. A trial that gives up no place leaves nothing behind: what
is read instead is read as if nothing had been tried. A trial that gives it up was right to do so:
no statement could have been read there. -/
namespace Script.Parser

open Grammar
open Token (Kind)

/-- What is tried where a declaration may begin. -/
def trial : Parser Stmt := do
  checkpoint
  namedDeclaration (nested (← left))

def endedStatement : Parser Unit := do
  let _ ← statement
  statementEnd

variable {start stop : Cursor}

theorem run_statement :
    statement.run start = (blockOrExpression (nested start.tape.ahead.length)).run start := by
  rw [statement, run_left_bind]

theorem run_trial (free : start.mark = none) :
    trial.run start = ((namedDeclaration (nested start.tape.ahead.length)).run start.marked).behind
      [.marked start.tape.index] := by
  rw [trial, Traced.run_bind_ok (run_checkpoint free), run_left_bind]
  rfl

section Named

variable (named : start.tape.current.kind = .identifier)
include named

/-- A name with a sign behind it that a declaration could go on with is tried as a declaration. -/
theorem run_declaration_of_name
    (follows : (start.tape.next?.map Token.kind).any declarationFollowers.contains) :
    declaration.run start =
      (speculate (namedDeclaration (nested start.tape.ahead.length))
        (blockOrExpression (nested start.tape.ahead.length))).run start := by
  have immutable : (advanceIf [.keyword .varWord]).run start = ⟨.ok false, start, []⟩ := by
    simp [run_advanceIf, named]
  have looks : looksLikeDeclaration.run start = ⟨.ok true, start, []⟩ := by
    have ran : looksLikeDeclaration.run start =
        ⟨.ok (start.tape.current.kind == .identifier &&
          (start.tape.next?.map Token.kind).any declarationFollowers.contains), start, []⟩ := rfl
    rw [ran, named, follows]
    rfl
  rw [declaration, run_left_bind, declarationOrStatement_eq, Traced.run_bind_ok immutable,
    Run.behind_nil]
  simp only [Bool.false_eq_true, ↓reduceIte]
  rw [Traced.run_bind_ok looks, Run.behind_nil]
  rfl

/-- Where a statement and its end can be read, no head of a declaration is. -/
theorem declines_of_endedStatement (nested : Nested) (free : start.mark = none)
    (ends : Ends Mode.lenient.skips endedStatement start (.ok ()) stop) :
    Declines (namedDeclaration nested) start.marked := by
  have word : (Kind.identifier == .keyword .blockWord) = false := by decide
  rw [endedStatement, ends_bind] at ends
  obtain ⟨stmt, middle, read, ends⟩ := ends
  rw [statement, ends_left_bind, blockOrExpression, ends_sees_bind, ends_nextKind?_bind, named,
    word, Bool.false_and] at read
  simp only [Bool.false_eq_true, ↓reduceIte, ends_bind] at read
  obtain ⟨expr, _, read, ends'⟩ := read
  obtain ⟨rfl, rfl⟩ := ends_pure.mp ends'
  obtain ⟨tokens, passes, only⟩ := assignmentOrExpression_sound (nested_sound _) free read
  have last : middle.tape.current.kind ∈ statementEnds := by
    rcases ends_statementEnd.mp ends with ⟨closes | ended, -⟩ | ⟨token, ends, passes'⟩
    · simp [closes, statementEnds]
    · simp [ended, statementEnds]
    · rw [passes'.current]
      have known : [Kind.symbol .semicolon, .newline] ⊆ statementEnds := by decide
      exact known ends
  exact namedDeclaration_declines fun passes' heads =>
    guarded_plain only.guarded (passes.remark (some start.tape)) last passes' heads

/-- A trial that gives up its place begins where no statement can be read. -/
theorem endedStatement_fails (free : start.mark = none)
    (gone : (trial.run start).state.mark = none) :
    ∃ error, (endedStatement.run start).outcome = .error error := by
  cases ran : endedStatement.run start with
  | mk outcome stop trace =>
    cases outcome with
    | error error => exact ⟨error, rfl⟩
    | ok value =>
      obtain ⟨error, stop', tried, kept⟩ := declines_of_endedStatement named
        (nested start.tape.ahead.length) free ⟨trace, ran, .inl trivial⟩
      rw [run_trial free, tried, Run.behind_mk] at gone
      have held : stop'.mark = some start.tape := kept
      rw [gone] at held
      cases held

/-- A trial that keeps its place leaves nothing behind: what is read then is read from where it
began, and it has recorded nothing. -/
theorem run_declaration_restored (free : start.mark = none)
    (follows : (start.tape.next?.map Token.kind).any declarationFollowers.contains)
    {error : Error} {trace : List Event} (ran : trial.run start = ⟨.error error, stop, trace⟩)
    (kept : stop.mark ≠ none) :
    ∃ events, declaration.run start = (statement.run start).behind events ∧
      events.filterMap Event.recorded? = [] := by
  have inner := robust_steady.ofNested start.tape.ahead.length
  rw [run_trial free] at ran
  cases tried : (namedDeclaration (nested start.tape.ahead.length)).run start.marked with
  | mk outcome stop' trace' =>
    rw [tried] at ran
    cases ran
    obtain ⟨-, held, -⟩ := robust_steady.namedDeclaration inner start.marked
    have undecided := undecided_namedDeclaration (ordered_nested start.tape.ahead.length)
      start.marked
    rw [tried] at held undecided
    have place := held.resolve_right kept
    rcases undecided with ⟨-, rfl⟩ | orderly
    · have back : (⟨start.tape, none⟩ : Cursor) = start := by rw [← free]
      rw [run_declaration_of_name named follows, run_speculate_restored free tried place, back,
        run_statement]
      exact ⟨_, rfl, rfl⟩
    · exact absurd orderly.free kept

end Named

/-- Going back is exact. A trial that fails with its place still kept changes nothing about what is
read instead, and a trial that gives up its place was begun where no statement could have been
read. No place is kept behind a declaration, nor where statements inside it are entered: it is read
as if an alarm were raised there. -/
theorem backtracking_exact (session : Session) (free : session.cursor.mark = none)
    (named : session.cursor.tape.current.kind = .identifier)
    (follows : (session.cursor.tape.next?.map Token.kind).any declarationFollowers.contains) :
    (∀ error, (trial.run session.cursor).outcome = .error error →
      (session.after trial).cursor.mark ≠ none →
        (declaration.run session.cursor).outcome = (statement.run session.cursor).outcome ∧
          session.after declaration = session.after statement) ∧
      ((session.after trial).cursor.mark = none →
        ∃ error, (endedStatement.run session.cursor).outcome = .error error) ∧
      (session.after declaration).cursor.mark = none ∧
      ∀ alarm, (watchedDeclaration alarm).run session.cursor = declaration.run session.cursor := by
  refine ⟨fun error failed kept => ?_, endedStatement_fails named free, ?_, fun alarm => ?_⟩
  · cases ran : trial.run session.cursor with
    | mk outcome stop trace =>
      have kept' : stop.mark ≠ none := by simpa [Session.after, ran] using kept
      obtain rfl : outcome = .error error := by simpa [ran] using failed
      obtain ⟨events, same, quiet⟩ := run_declaration_restored named free follows ran kept'
      refine ⟨by rw [same]; rfl, ?_⟩
      simp only [Session.after, same, Run.behind, List.filterMap_append, quiet, List.nil_append]
  · exact (watchedDeclaration_same (pure []) session.cursor free).2
  · exact (watchedDeclaration_same alarm session.cursor free).1

/-- The tokens of `f(x)`, which begins like a declaration and is none. -/
def callLine : List Token :=
  [⟨.identifier, "f", none, ⟨1, 1⟩⟩, ⟨.symbol .openParen, "(", none, ⟨1, 2⟩⟩,
    ⟨.identifier, "x", none, ⟨1, 3⟩⟩, ⟨.symbol .closeParen, ")", none, ⟨1, 4⟩⟩]

theorem backtracking_exact_sample :
    (Session.ofTokens callLine).after declaration = (Session.ofTokens callLine).after statement ∧
      ∃ error, (endedStatement.run (.ofTokens soundLine)).outcome = .error error := by
  have failed : ∃ error, (trial.run (.ofTokens callLine)).outcome = .error error := ⟨_, rfl⟩
  have kept : ((Session.ofTokens callLine).after trial).cursor.mark ≠ none := by
    have held : ((Session.ofTokens callLine).after trial).cursor.mark.isSome := rfl
    exact Option.isSome_iff_ne_none.mp held
  obtain ⟨error, failed⟩ := failed
  have restored := (backtracking_exact (.ofTokens callLine) rfl rfl rfl).1 error failed kept
  have committed := (backtracking_exact (.ofTokens soundLine) rfl rfl rfl).2.1 rfl
  exact ⟨restored.2, committed⟩

end Script.Parser
