import Script.Proofs.Parsing.Rounds

set_option autoImplicit false

/- Reading statements on two tapes that agree up to a seam at which the longer one closes a block.
The shorter tape is read to its end, the longer one as a block. As no brace stands before the seam,
the two ways of reading come to the same places, and the brace at the seam is left for the block. -/
namespace Script.Parser

open Token (Kind)

/-- No block is closed before the end of a tape. -/
def Unclosed (tape : Tape) : Prop := ∀ token ∈ tape.ahead, token.kind ≠ .symbol .closeCurly

theorem Unclosed.move {tape : Tape} (unclosed : Unclosed tape) (count : Nat) :
    Unclosed (tape.move count) :=
  fun token member => unclosed token (List.mem_of_mem_drop member)

theorem Unclosed.current {tape : Tape} (unclosed : Unclosed tape) :
    tape.current.kind ≠ .symbol .closeCurly := by
  intro closes
  have ahead := tape.ahead_of_current (by rw [closes]; decide)
  exact unclosed tape.current (by rw [ahead]; exact List.mem_cons_self) closes

namespace Joined

variable {seam : Seam} {first second : Tape} (joined : Joined seam first second)
  (closes : seam.stop.kind = .symbol .closeCurly)
include joined closes

/-- A token other than the brace at the seam is taken on both tapes or on neither. -/
theorem taken {kinds : List Kind} (brace : .symbol .closeCurly ∉ kinds)
    (opened : .endOfFile ∉ kinds) :
    Joined seam (if first.current.kind ∈ kinds then first.advance else first)
      (if second.current.kind ∈ kinds then second.advance else second) := by
  rcases joined.current with ⟨-, eof, stop⟩ | ⟨inside, same⟩
  · rw [if_neg (by rw [eof, seam.eof_kind]; exact opened),
      if_neg (by rw [stop, closes]; exact brace)]
    exact joined
  · rw [same]
    split
    · exact joined.advance inside
    · exact joined

/-- Recovery in a block leads to where recovery outside of one does, and leaves the brace. -/
theorem recovered_enclosed (unclosed : Unclosed first) :
    Joined seam (first.recovered false) (second.recovered true) := by
  rcases joined.current with ⟨ended, -, stop⟩ | ⟨inside, same⟩
  · have eof : first.current.kind = .endOfFile := Tape.current_kind_eq_endOfFile.mpr ended
    have brace : second.current.kind = .symbol .closeCurly := by rw [stop, closes]
    have stays : first.recovered false = first := by
      unfold Tape.recovered
      simp [eof]
    have stays' : second.recovered true = second := by
      unfold Tape.recovered
      simp [brace]
    rw [stays, stays']
    exact joined
  · have unended : first.current.kind ≠ .endOfFile := mt Tape.current_kind_eq_endOfFile.mp inside
    have halts : Tape.continuesStatement seam.stop = false := by
      have ends : seam.stop.kind ∈ statementEnds := seam.stop_kind
      simp [Tape.continuesStatement, ends]
    have goesOn : ¬ (first.current.kind = .endOfFile ∨
        false = true ∧ first.current.kind = .symbol .closeCurly) := by simp [unended]
    have goesOn' : ¬ (first.current.kind = .endOfFile ∨
        true = true ∧ first.current.kind = .symbol .closeCurly) := by
      simp [unended, unclosed.current]
    unfold Tape.recovered
    rw [same]
    by_cases ends : first.current.kind ∈ [Kind.newline, .symbol .semicolon]
    · rw [if_pos ends, if_pos ends]
      exact joined.advance inside
    · rw [if_neg ends, if_neg ends, if_neg goesOn, if_neg goesOn']
      exact ((joined.advance inside).advanceWhile halts).taken closes (by decide) (by decide)

end Joined

/-- Two runs that read the same statements, after which the longer tape is at the seam. -/
inductive Enclosed (seam : Seam) :
    Run Cursor Event Error (List Stmt) → Run Cursor Event Error (List Stmt) → Prop where
  | intro {stmts : List Stmt} {first second : Cursor} {trace trace' : List Event}
      (ahead : second.tape.ahead = seam.extra) (free : second.mark = none)
      (traces : Ending seam trace trace') :
      Enclosed seam ⟨.ok stmts, first, trace⟩ ⟨.ok stmts, second, trace'⟩

namespace Enclosed

variable {seam : Seam}

theorem behind {done done' : Run Cursor Event Error (List Stmt)} {trace trace' : List Event}
    (enclosed : Enclosed seam done done') (traces : Echoes trace trace') :
    Enclosed seam (done.behind trace) (done'.behind trace') := by
  cases enclosed with
  | intro ahead free ending => exact .intro ahead free (.behind traces ending)

theorem cons (stmt : Stmt) {parser parser' : Parser (List Stmt)} {first second : Cursor}
    (enclosed : Enclosed seam (parser.run first) (parser'.run second)) :
    Enclosed seam ((do return stmt :: (← parser)).run first)
      ((do return stmt :: (← parser')).run second) := by
  generalize ran : parser.run first = done at enclosed
  generalize ran' : parser'.run second = done' at enclosed
  cases enclosed with
  | intro ahead free ending =>
    rw [Traced.run_bind_ok ran, Traced.run_bind_ok ran', Traced.run_pure, Traced.run_pure,
      Run.behind_mk, Run.behind_mk, List.append_nil, List.append_nil]
    exact .intro ahead free ending

variable (closes : seam.stop.kind = .symbol .closeCurly)
include closes

/-- At the seam there are no more statements on either tape. -/
theorem of_seam {first second : Cursor} {nested nested' : Nested} {bound bound' : Nat}
    {trace trace' : List Event} (joined : Joined seam first.tape second.tape)
    (free : second.mark = none) (ended : first.tape.ahead = [])
    (traces : Ending seam trace trace') :
    Enclosed seam (((statementsWithin nested false bound).run first).behind trace)
      (((statementsWithin nested' true bound').run second).behind trace') := by
  rcases joined.current with ⟨-, -, stop⟩ | ⟨inside, -⟩
  · rw [run_statementsWithin_end ended, run_statementsWithin_closing rfl (by rw [stop, closes]),
      Run.behind_mk, Run.behind_mk, List.append_nil, List.append_nil]
    refine .intro ?_ free traces
    rw [joined.ahead, ended, List.nil_append]
  · exact absurd ended inside

theorem of_ended {first second : Cursor} {nested nested' : Nested} {bound bound' : Nat}
    (joined : Joined seam first.tape second.tape) (free : second.mark = none)
    (ended : first.tape.ahead = []) :
    Enclosed seam ((statementsWithin nested false bound).run first)
      ((statementsWithin nested' true bound').run second) := by
  have seamed : Enclosed seam (((statementsWithin nested false bound).run first).behind [])
      (((statementsWithin nested' true bound').run second).behind []) :=
    of_seam closes joined free ended (.inl rfl)
  rwa [Run.behind_nil, Run.behind_nil] at seamed

/-- Statements end alike, and what is no end is recovered from alike. -/
theorem of_statementEnd {first second : Cursor} {next next' : Parser (List Stmt)}
    (joined : Joined seam first.tape second.tape) (unclosed : Unclosed first.tape)
    (free : first.mark = none) (free' : second.mark = none)
    (behind : ∀ {tape tape'}, Joined seam tape tape' → (∃ count, tape = first.tape.move count) →
      Enclosed seam (next.run ⟨tape, none⟩) (next'.run ⟨tape', none⟩)) :
    Enclosed seam ((recovering false statementEnd (fun _ => next) next).run first)
      ((recovering true statementEnd (fun _ => next') next').run second) := by
  by_cases ended : first.tape.current.kind ∈ statementEnds
  · have ended' : second.tape.current.kind ∈ statementEnds := by
      rcases joined.current with ⟨-, -, stop⟩ | ⟨-, same⟩
      · rw [stop]
        exact seam.stop_kind
      · rw [same]
        exact ended
    rw [run_recovering_ok (run_statementEnd_ended free ended),
      run_recovering_ok (run_statementEnd_ended free' ended')]
    apply behind (joined.taken closes (by decide) (by decide))
    split
    · exact ⟨1, rfl⟩
    · exact ⟨0, rfl⟩
  · have opened : first.tape.ahead ≠ [] := Tape.ahead_ne_nil fun last => ended (last ▸ by decide)
    have same := joined.current_eq opened
    rw [run_recovering_error (run_statementEnd_unended ended),
      run_recovering_error (run_statementEnd_unended (same ▸ ended)),
      ← joined.error_eq opened (by decide) (by decide)]
    have onward := joined.recovered_enclosed closes unclosed
    exact (behind onward (first.tape.recovered_eq_move false)).behind rfl

variable {strict : Bool} {level level' limit : Nat}
  (inner : PairedNested seam limit (nested level) (nested level'))
include inner

/-- One statement and its end, or recovery from it, lead on alike. -/
theorem of_statement {first second : Cursor} {bound bound' : Nat}
    (near : Near seam none strict (limit + 1) first second) (unclosed : Unclosed first.tape)
    (opened : first.tape.ahead ≠ [])
    (behind : ∀ {tape'} (count : Nat), Joined seam (first.tape.move count) tape' →
      (first.tape.move count).ahead.length < first.tape.ahead.length →
        Enclosed seam
          ((statementsWithin (nested level) false bound).run ⟨first.tape.move count, none⟩)
          ((statementsWithin (nested level') true bound').run ⟨tape', none⟩)) :
    Enclosed seam
      ((recovering false (declarationOrStatement (nested level))
        (fun stmt => do
          Traced.emit .parsedStatement
          recovering false statementEnd
            (fun _ => do return stmt :: (← statementsWithin (nested level) false bound))
            (do return stmt :: (← statementsWithin (nested level) false bound)))
        (statementsWithin (nested level) false bound)).run first)
      ((recovering true (declarationOrStatement (nested level'))
        (fun stmt => do
          Traced.emit .parsedStatement
          recovering true statementEnd
            (fun _ => do return stmt :: (← statementsWithin (nested level') true bound'))
            (do return stmt :: (← statementsWithin (nested level') true bound')))
        (statementsWithin (nested level') true bound')).run second) := by
  have alike := Paired.declarationOrStatement inner (Nat.le_refl _) near
  have steady := robust_steady.declarationOrStatement (robust_steady.ofNested level) first
  cases ran : (declarationOrStatement (nested level)).run first with
  | mk outcome stop trace =>
    cases ran' : (declarationOrStatement (nested level')).run second with
    | mk outcome' stop' trace' =>
      rw [ran] at steady
      rw [ran, ran'] at alike
      obtain ⟨moves, forward⟩ : ∃ moves, stop.tape = first.tape.move moves := steady.forward
      have unclosed' : Unclosed stop.tape := forward ▸ unclosed.move moves
      cases alike with
      | ok reached traces =>
        have progress := Progresses.declarationOrStatement (robust_steady.ofNested level)
          ⟨trace, ran, .inl trivial⟩
        rw [run_recovering_ok ran, run_recovering_ok ran',
          Traced.run_bind_ok (Traced.run_emit _ stop), Traced.run_bind_ok (Traced.run_emit _ stop')]
        apply Enclosed.behind _ traces
        apply Enclosed.behind _ rfl
        apply of_statementEnd closes reached.joined unclosed' reached.mark reached.mark'
        rintro tape tape' joined ⟨more, moved⟩
        obtain rfl : tape = first.tape.move (moves + more) := by
          rw [moved, forward, Tape.move_move]
        apply Enclosed.cons
        apply behind _ joined
        rw [← Tape.move_move, ← forward, Tape.ahead_move, List.length_drop]
        omega
      | error joined marks errors traces =>
        have progress : (stop.tape.recovered false).ahead.length < first.tape.ahead.length :=
          recovery_progress (robust_steady.ofNested level) opened (by simp) ran
        have leads := joined.recovered_enclosed closes unclosed'
        obtain ⟨more, moved⟩ := stop.tape.recovered_eq_move false
        rw [run_recovering_error ran, run_recovering_error ran']
        rcases errors with rfl | ⟨last, displaced⟩
        · rw [moved, forward, Tape.move_move] at leads progress ⊢
          exact (behind _ leads progress).behind (traces.append rfl)
        · -- The error is at the seam, where both runs end.
          have ended : (stop.tape.recovered false).ahead = [] := by
            rw [moved, Tape.ahead_move, last, List.drop_nil]
          exact of_seam closes leads rfl ended
            (.behind traces (.inr ⟨[], _, _, rfl, rfl, displaced⟩))

/-- Statements that stand in a block are read there as they are read alone. -/
theorem of_statementsWithin {first second : Cursor} {count bound bound' : Nat}
    (near : Near seam none strict count first second) (unclosed : Unclosed first.tape)
    (within : count ≤ limit + 1) (enough : count ≤ bound) (enough' : count ≤ bound') :
    Enclosed seam ((statementsWithin (nested level) false bound).run first)
      ((statementsWithin (nested level') true bound').run second) := by
  -- Every round takes a token of the shorter tape, so the induction is on how many there are.
  induction count generalizing strict first second bound bound' with
  | zero =>
    have ended := List.length_eq_zero_iff.mp (Nat.le_zero.mp near.room)
    exact of_ended closes near.joined near.mark' ended
  | succ count ih =>
    by_cases ended : first.tape.ahead = []
    · exact of_ended closes near.joined near.mark' ended
    have same := near.joined.current_eq ended
    obtain ⟨bound, rfl⟩ : ∃ fewer, bound = fewer + 1 := ⟨bound - 1, by omega⟩
    obtain ⟨bound', rfl⟩ : ∃ fewer, bound' = fewer + 1 := ⟨bound' - 1, by omega⟩
    by_cases blank : first.tape.current.kind = .newline
    · have blank' : second.tape.current.kind = .newline := by
        rw [same]
        exact blank
      rw [run_statementsWithin_blank blank, run_statementsWithin_blank blank']
      exact ih (near.advance ended) (unclosed.move 1) (by omega) (by omega) (by omega)
    have opened : second.tape.ahead ≠ [] := by simp [near.joined.ahead, ended]
    have goesOn : ¬ (true = true ∧ second.tape.current.kind = .symbol .closeCurly) := by
      rw [same]
      exact fun closing => unclosed.current closing.2
    rw [run_statementsWithin_statement ended blank (by simp),
      run_statementsWithin_statement opened (same ▸ blank) goesOn]
    apply of_statement closes inner (near.mono within) unclosed ended
    intro tape' moves joined shorter
    have room := near.room
    have near' : Near seam none false count ⟨first.tape.move moves, none⟩ ⟨tape', none⟩ :=
      ⟨joined, rfl, rfl, nofun, by dsimp only; omega⟩
    exact ih near' (unclosed.move moves) (by omega) (by omega) (by omega)

end Enclosed
end Script.Parser
