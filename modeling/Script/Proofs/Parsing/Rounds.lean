import Script.Proofs.Parsing.Paired
import Script.Proofs.Parsing.Progress

set_option autoImplicit false

/- Reading statement after statement on two tapes that agree up to a seam. Whatever a statement
does, and however an error in it is recovered from, the tapes agree behind it again, or the longer
one has taken the line break at the seam and nothing else. -/
namespace Script.Parser

open Token (Kind)

/-- Where two runs go on with the next statement: the tapes still agree up to the seam, or the
shorter one is at its end and the longer one behind the token at the seam. -/
inductive Onward (seam : Seam) (first second : Tape) : Prop where
  | joined (joined : Joined seam first second)
  | crossed (ended : first.ahead = []) (broken : seam.extra ≠ [])
      (behind : second.ahead = seam.extra.tail) (finish : second.finish = seam.finish)

namespace Joined

variable {seam : Seam} {first second : Tape} (joined : Joined seam first second)
include joined

/-- At the seam the longer tape goes on over the token there. -/
theorem crossed (ended : first.ahead = []) (broken : seam.extra ≠ []) :
    Onward seam first second.advance := by
  refine .crossed ended broken ?_ joined.finish
  rw [Tape.advance, Tape.ahead_move, joined.ahead, ended, List.nil_append, List.drop_one]

/-- A test that does not hold at the seam leads up to it at most. -/
theorem advanceWhile {test : Token → Bool} (halts : test seam.stop = false) :
    Joined seam (first.advanceWhile test) (second.advanceWhile test) := by
  have none : seam.extra.takeWhile test = [] := by
    cases shape : seam.extra with
    | nil => rfl
    | cons token rest =>
      have head : seam.stop = token := by simp [Seam.stop, shape]
      rw [List.takeWhile_cons_of_neg (by simpa [← head] using halts)]
  have same : (second.ahead.takeWhile test).length = (first.ahead.takeWhile test).length := by
    rw [joined.ahead, List.takeWhile_append, none, List.append_nil]
    split
    · next whole => exact whole.symm
    · rfl
  rw [Tape.advanceWhile_eq_move, Tape.advanceWhile_eq_move, same]
  exact joined.move (List.takeWhile_prefix _).length_le

/-- A token that ends a statement is taken on both tapes, or only at the seam. -/
theorem finished {kinds : List Kind} (line : seam.extra ≠ [] → seam.stop.kind = .newline)
    (ends : .newline ∈ kinds) (opened : .endOfFile ∉ kinds) :
    Onward seam (if first.current.kind ∈ kinds then first.advance else first)
      (if second.current.kind ∈ kinds then second.advance else second) := by
  rcases joined.current with ⟨ended, eof, stop⟩ | ⟨inside, same⟩
  · rw [if_neg (by rw [eof, seam.eof_kind]; exact opened), stop]
    by_cases broken : seam.extra = []
    · have halts : seam.stop.kind = .endOfFile := by
        rw [Seam.stop, broken, List.headD_nil, seam.finish_eq broken, seam.eof_kind]
      rw [if_neg (by rw [halts]; exact opened)]
      exact .joined joined
    · rw [if_pos (by rw [line broken]; exact ends)]
      exact joined.crossed ended broken
  · rw [same]
    split
    · exact .joined (joined.advance inside)
    · exact .joined joined

/-- At the seam recovery stays at the end, and takes a line break. -/
theorem recovered_seam (inBlock : Bool) (ended : first.ahead = [])
    (line : seam.stop.kind = .newline) :
    first.recovered inBlock = first ∧ second.recovered inBlock = second.advance := by
  rcases joined.current with ⟨-, -, stop⟩ | ⟨inside, -⟩
  · have eof : first.current.kind = .endOfFile := Tape.current_kind_eq_endOfFile.mpr ended
    have breaks : second.current.kind = .newline := by
      rw [stop]
      exact line
    unfold Tape.recovered
    simp [eof, breaks]
  · exact absurd ended inside

/-- Recovery leads to the same place on both tapes, or takes the line break at the seam. -/
theorem recovered (inBlock : Bool) (line : seam.extra ≠ [] → seam.stop.kind = .newline) :
    Onward seam (first.recovered inBlock) (second.recovered inBlock) := by
  rcases joined.current with ⟨ended, -, stop⟩ | ⟨inside, same⟩
  · by_cases broken : seam.extra = []
    · have halts : second.current.kind = .endOfFile := by
        rw [stop, Seam.stop, broken, List.headD_nil, seam.finish_eq broken, seam.eof_kind]
      have stays {tape : Tape} (eof : tape.current.kind = .endOfFile) :
          tape.recovered inBlock = tape := by
        unfold Tape.recovered
        simp [eof]
      rw [stays (Tape.current_kind_eq_endOfFile.mpr ended), stays halts]
      exact .joined joined
    · obtain ⟨stays, moves⟩ := joined.recovered_seam inBlock ended (line broken)
      rw [stays, moves]
      exact joined.crossed ended broken
  · have unfinished : Tape.continuesStatement seam.stop = false := by
      have ends : seam.stop.kind ∈ statementEnds := seam.stop_kind
      simp [Tape.continuesStatement, ends]
    unfold Tape.recovered
    rw [same]
    split
    · exact .joined (joined.advance inside)
    · split
      · exact .joined joined
      · exact ((joined.advance inside).advanceWhile unfinished).finished line (by decide)
          (by decide)

end Joined

section Reading

variable {nested : Nested} {inBlock : Bool} {bound : Nat} {cursor : Cursor}

/-- Where no blank line stands, none is passed over. -/
theorem run_eatBlankLines_solid (solid : cursor.tape.current.kind ≠ .newline) :
    eatBlankLines.run cursor = ⟨.ok cursor.tape.atEnd, cursor, []⟩ := by
  have none : cursor.tape.ahead.takeWhile (fun token => token.kind == .newline) = [] := by
    cases shape : cursor.tape.ahead with
    | nil => rfl
    | cons token rest =>
      rw [Tape.current_of_cons shape] at solid
      exact List.takeWhile_cons_of_neg (by simpa using solid)
  rw [run_eatBlankLines, Tape.advanceWhile_eq_move, none]
  rfl

/-- A blank line is passed over. -/
theorem run_eatBlankLines_blank (breaks : cursor.tape.current.kind = .newline) :
    eatBlankLines.run cursor = eatBlankLines.run cursor.advance := by
  have ahead := Tape.ahead_of_current (show cursor.tape.current.kind ≠ .endOfFile by simp [breaks])
  have skips : cursor.tape.advanceWhile (fun token => token.kind == .newline) =
      cursor.tape.advance.advanceWhile (fun token => token.kind == .newline) := by
    rw [Tape.advanceWhile_eq_move, Tape.advanceWhile_eq_move, ahead,
      List.takeWhile_cons_of_pos (by simp [breaks]), Tape.advance, Tape.move_move,
      List.length_cons, Nat.add_comm]
  rw [run_eatBlankLines, run_eatBlankLines, skips]
  rfl

theorem run_statementsWithin_blank (breaks : cursor.tape.current.kind = .newline) :
    (statementsWithin nested inBlock (bound + 1)).run cursor =
      (statementsWithin nested inBlock (bound + 1)).run cursor.advance := by
  have behind := run_eatBlankLines cursor.advance
  have here := (run_eatBlankLines_blank breaks).trans behind
  rw [statementsWithin_succ, Traced.run_bind_ok here, Traced.run_bind_ok behind]

/-- At the end there are no statements. -/
theorem run_statementsWithin_end (ended : cursor.tape.ahead = []) :
    (statementsWithin nested inBlock bound).run cursor = ⟨.ok [], cursor, []⟩ := by
  cases bound with
  | zero => rfl
  | succ bound =>
    have solid : cursor.tape.current.kind ≠ .newline := by
      rw [Tape.current_kind_eq_endOfFile.mpr ended]
      decide
    rw [statementsWithin_succ, Traced.run_bind_ok (run_eatBlankLines_solid solid), Run.behind_nil]
    simp [Tape.atEnd, ended]

/-- A brace that closes the block ends its statements. -/
theorem run_statementsWithin_closing (block : inBlock = true)
    (closes : cursor.tape.current.kind = .symbol .closeCurly) :
    (statementsWithin nested inBlock bound).run cursor = ⟨.ok [], cursor, []⟩ := by
  cases bound with
  | zero => rfl
  | succ bound =>
    have solid : cursor.tape.current.kind ≠ .newline := by
      rw [closes]
      decide
    have seen : (sees (.symbol .closeCurly)).run cursor =
        ⟨.ok (cursor.tape.current.kind == .symbol .closeCurly), cursor, []⟩ := rfl
    rw [statementsWithin_succ, Traced.run_bind_ok (run_eatBlankLines_solid solid), Run.behind_nil]
    split
    · rfl
    · rw [Traced.run_bind_ok seen, Run.behind_nil, closes, block]
      rfl

/-- Any other token begins a statement. -/
theorem run_statementsWithin_statement (opened : cursor.tape.ahead ≠ [])
    (solid : cursor.tape.current.kind ≠ .newline)
    (goesOn : ¬ (inBlock = true ∧ cursor.tape.current.kind = .symbol .closeCurly)) :
    (statementsWithin nested inBlock (bound + 1)).run cursor =
      (recovering inBlock (declarationOrStatement nested)
        (fun stmt => do
          Traced.emit .parsedStatement
          recovering inBlock statementEnd
            (fun _ => do return stmt :: (← statementsWithin nested inBlock bound))
            (do return stmt :: (← statementsWithin nested inBlock bound)))
        (statementsWithin nested inBlock bound)).run cursor := by
  have seen : (sees (.symbol .closeCurly)).run cursor =
      ⟨.ok (cursor.tape.current.kind == .symbol .closeCurly), cursor, []⟩ := rfl
  rw [statementsWithin_succ, Traced.run_bind_ok (run_eatBlankLines_solid solid), Run.behind_nil,
    if_neg (by simpa [Tape.atEnd] using opened), Traced.run_bind_ok seen, Run.behind_nil,
    if_neg (by simpa using goesOn)]

/-- What ends a statement is taken, unless it is a closing brace or the end of file. -/
theorem run_statementEnd_ended (free : cursor.mark = none)
    (ended : cursor.tape.current.kind ∈ statementEnds) :
    statementEnd.run cursor =
      ⟨.ok (), ⟨if cursor.tape.current.kind ∈ [Kind.symbol .semicolon, .newline] then
        cursor.tape.advance else cursor.tape, none⟩, []⟩ := by
  rw [run_statementEnd, ← free]
  by_cases taken : cursor.tape.current.kind ∈ [Kind.symbol .semicolon, .newline]
  · rw [if_pos taken, if_pos taken]
    rfl
  · rw [if_neg taken, if_neg taken, if_pos ended]

theorem run_statementEnd_unended (unended : cursor.tape.current.kind ∉ statementEnds) :
    statementEnd.run cursor =
      ⟨.error (cursor.error "Unexpected \x7bpeek\x7d following expression"), cursor, []⟩ := by
  have untaken : cursor.tape.current.kind ∉ [Kind.symbol .semicolon, .newline] := by
    intro taken
    apply unended
    exact List.mem_of_mem_tail (List.mem_append_left [Kind.endOfFile] taken)
  rw [run_statementEnd, if_neg untaken, if_neg unended]

end Reading

/-- Traces that record the same errors, but perhaps for the last one, which is at the seam. -/
def Ending (seam : Seam) (trace trace' : List Event) : Prop :=
  Echoes trace trace' ∨ ∃ before error error',
    trace.filterMap Event.recorded? = before ++ [error] ∧
      trace'.filterMap Event.recorded? = before ++ [error'] ∧
        Displaced seam.eof seam.stop error error'

theorem Ending.behind {seam : Seam} {before before' trace trace' : List Event}
    (traces : Echoes before before') (ending : Ending seam trace trace') :
    Ending seam (before ++ trace) (before' ++ trace') := by
  rcases ending with same | ⟨early, error, error', last, last', displaced⟩
  · exact .inl (traces.append same)
  · refine .inr ⟨before.filterMap Event.recorded? ++ early, error, error', ?_, ?_, displaced⟩
    · rw [List.filterMap_append, last, List.append_assoc]
    · rw [List.filterMap_append, last', ← traces, List.append_assoc]

/-- How reading statements on two tapes goes: to places that agree again, or so that the longer
tape has all statements of the shorter one and goes on behind the seam. -/
inductive Together (seam : Seam) (inBlock : Bool) (nested : Nested) :
    Run Cursor Event Error (List Stmt) → Run Cursor Event Error (List Stmt) → Prop where
  | joined {stmts : List Stmt} {first second : Cursor} {trace trace' : List Event}
      (stays : seam.extra = [] ∨ inBlock = true) (joined : Joined seam first.tape second.tape)
      (free : first.mark = none) (free' : second.mark = none) (traces : Echoes trace trace') :
      Together seam inBlock nested ⟨.ok stmts, first, trace⟩ ⟨.ok stmts, second, trace'⟩
  | crossed {stmts : List Stmt} {first second : Cursor} {trace trace' : List Event} {bound : Nat}
      (broken : seam.extra ≠ []) (ahead : second.tape.ahead = seam.extra.tail)
      (finish : second.tape.finish = seam.finish) (free : second.mark = none)
      (enough : seam.extra.tail.length ≤ bound) (traces : Ending seam trace trace') :
      Together seam inBlock nested ⟨.ok stmts, first, trace⟩
        (((do return stmts ++ (← statementsWithin nested inBlock bound)).run second).behind trace')

namespace Together

variable {seam : Seam} {inBlock : Bool} {nested : Nested}

theorem behind {done done' : Run Cursor Event Error (List Stmt)} {trace trace' : List Event}
    (together : Together seam inBlock nested done done') (traces : Echoes trace trace') :
    Together seam inBlock nested (done.behind trace) (done'.behind trace') := by
  cases together with
  | joined stays joined free free' traces' =>
    exact .joined stays joined free free' (traces.append traces')
  | crossed broken ahead finish free enough ending =>
    have twice (events : List Event) (done : Run Cursor Event Error (List Stmt)) :
        (done.behind events).behind trace' = done.behind (trace' ++ events) := by
      simp [Run.behind]
    rw [twice]
    exact .crossed broken ahead finish free enough (.behind traces ending)

theorem cons (stmt : Stmt) {parser parser' : Parser (List Stmt)} {first second : Cursor}
    (together : Together seam inBlock nested (parser.run first) (parser'.run second)) :
    Together seam inBlock nested ((do return stmt :: (← parser)).run first)
      ((do return stmt :: (← parser')).run second) := by
  generalize ran : parser.run first = done at together
  generalize ran' : parser'.run second = done' at together
  cases together with
  | joined stays joined free free' traces =>
    rw [Traced.run_bind_ok ran, Traced.run_bind_ok ran']
    exact .joined stays joined free free' (traces.append rfl)
  | crossed broken ahead finish free enough ending =>
    rw [Traced.run_bind_ok ran, Traced.run_bind_behind ran', bind_assoc]
    simp only [pure_bind]
    exact .crossed broken ahead finish free enough (by simpa using ending)

/-- Behind the seam the shorter tape has no more statements. -/
theorem of_crossed {first second : Tape} {nested' : Nested} {bound bound' : Nat}
    {trace trace' : List Event} (ended : first.ahead = []) (broken : seam.extra ≠ [])
    (ahead : second.ahead = seam.extra.tail) (finish : second.finish = seam.finish)
    (enough : seam.extra.tail.length ≤ bound') (traces : Ending seam trace trace') :
    Together seam inBlock nested
      (((statementsWithin nested' inBlock bound).run ⟨first, none⟩).behind trace)
      (((statementsWithin nested inBlock bound').run ⟨second, none⟩).behind trace') := by
  have goes : (statementsWithin nested inBlock bound').run ⟨second, none⟩ =
      (do return [] ++ (← statementsWithin nested inBlock bound')).run ⟨second, none⟩ := by
    simp only [List.nil_append, bind_pure]
  rw [run_statementsWithin_end ended, goes, Run.behind_mk, List.append_nil]
  exact .crossed broken ahead finish rfl enough traces

/-- Behind the seam reading goes on where nothing was read before. -/
theorem across {first second : Tape} {nested' : Nested} {bound bound' : Nat}
    (ended : first.ahead = []) (broken : seam.extra ≠ [])
    (ahead : second.ahead = seam.extra.tail) (finish : second.finish = seam.finish)
    (enough : seam.extra.tail.length ≤ bound') :
    Together seam inBlock nested ((statementsWithin nested' inBlock bound).run ⟨first, none⟩)
      ((statementsWithin nested inBlock bound').run ⟨second, none⟩) := by
  have crossed : Together seam inBlock nested
      (((statementsWithin nested' inBlock bound).run ⟨first, none⟩).behind [])
      (((statementsWithin nested inBlock bound').run ⟨second, none⟩).behind []) :=
    of_crossed ended broken ahead finish enough (.inl rfl)
  rwa [Run.behind_nil, Run.behind_nil] at crossed

/-- Statements end on both tapes alike, and what is no end is recovered from alike. -/
theorem of_statementEnd {first second : Cursor} {next next' : Parser (List Stmt)}
    (line : seam.extra ≠ [] → seam.stop.kind = .newline)
    (joined : Joined seam first.tape second.tape) (free : first.mark = none)
    (free' : second.mark = none)
    (behind : ∀ {tape tape'}, Onward seam tape tape' →
      tape.ahead.length ≤ first.tape.ahead.length →
        Together seam inBlock nested (next.run ⟨tape, none⟩) (next'.run ⟨tape', none⟩)) :
    Together seam inBlock nested
      ((recovering inBlock statementEnd (fun _ => next) next).run first)
      ((recovering inBlock statementEnd (fun _ => next') next').run second) := by
  by_cases ended : first.tape.current.kind ∈ statementEnds
  · have ended' : second.tape.current.kind ∈ statementEnds := by
      rcases joined.current with ⟨-, -, stop⟩ | ⟨-, same⟩
      · rw [stop]
        exact seam.stop_kind
      · rw [same]
        exact ended
    rw [run_recovering_ok (run_statementEnd_ended free ended),
      run_recovering_ok (run_statementEnd_ended free' ended')]
    apply behind (joined.finished line (by decide) (by decide))
    split
    · rw [Tape.advance, Tape.ahead_move, List.length_drop]
      exact Nat.sub_le ..
    · exact Nat.le_refl _
  · -- A token that ends no statement stands before the seam, so both runs name it.
    have opened : first.tape.ahead ≠ [] := Tape.ahead_ne_nil fun last => ended (last ▸ by decide)
    have same := joined.current_eq opened
    rw [run_recovering_error (run_statementEnd_unended ended),
      run_recovering_error (run_statementEnd_unended (same ▸ ended)),
      ← joined.error_eq opened (by decide) (by decide)]
    apply Together.behind
    · apply behind (joined.recovered inBlock line)
      rcases first.tape.recovered_progress inBlock with shorter | ⟨stays, -⟩
      · exact Nat.le_of_lt shorter
      · exact Nat.le_of_eq (by rw [stays])
    · rfl

end Together

section Levels

variable {seam : Seam} {inBlock strict : Bool} {level level' limit : Nat}
  (inner : PairedNested seam limit (nested level) (nested level'))
include inner

/-- One statement and its end, or recovery from it, lead on alike. -/
theorem Together.of_statement {first second : Cursor} {bound bound' : Nat}
    (line : seam.extra ≠ [] → seam.stop.kind = .newline)
    (near : Near seam none strict (limit + 1) first second) (opened : first.tape.ahead ≠ [])
    (goesOn : ¬ (inBlock = true ∧ first.tape.current.kind = .symbol .closeCurly))
    (enough : seam.extra.tail.length ≤ bound')
    (behind : ∀ {tape tape'}, Onward seam tape tape' →
      tape.ahead.length < first.tape.ahead.length →
        Together seam inBlock (nested level')
          ((statementsWithin (nested level) inBlock bound).run ⟨tape, none⟩)
          ((statementsWithin (nested level') inBlock bound').run ⟨tape', none⟩)) :
    Together seam inBlock (nested level')
      ((recovering inBlock (declarationOrStatement (nested level))
        (fun stmt => do
          Traced.emit .parsedStatement
          recovering inBlock statementEnd
            (fun _ => do return stmt :: (← statementsWithin (nested level) inBlock bound))
            (do return stmt :: (← statementsWithin (nested level) inBlock bound)))
        (statementsWithin (nested level) inBlock bound)).run first)
      ((recovering inBlock (declarationOrStatement (nested level'))
        (fun stmt => do
          Traced.emit .parsedStatement
          recovering inBlock statementEnd
            (fun _ => do return stmt :: (← statementsWithin (nested level') inBlock bound'))
            (do return stmt :: (← statementsWithin (nested level') inBlock bound')))
        (statementsWithin (nested level') inBlock bound')).run second) := by
  have alike := Paired.declarationOrStatement inner (Nat.le_refl _) near
  cases ran : (declarationOrStatement (nested level)).run first with
  | mk outcome stop trace =>
    cases ran' : (declarationOrStatement (nested level')).run second with
    | mk outcome' stop' trace' =>
      rw [ran, ran'] at alike
      cases alike with
      | ok reached traces =>
        have progress := Progresses.declarationOrStatement (robust_steady.ofNested level)
          ⟨trace, ran, .inl trivial⟩
        rw [run_recovering_ok ran, run_recovering_ok ran',
          Traced.run_bind_ok (Traced.run_emit _ stop), Traced.run_bind_ok (Traced.run_emit _ stop')]
        apply Together.behind _ traces
        apply Together.behind _ rfl
        apply Together.of_statementEnd line reached.joined reached.mark reached.mark'
        intro tape tape' onward shorter
        exact (behind onward (Nat.lt_of_le_of_lt shorter progress)).cons _
      | error joined marks errors traces =>
        have progress := recovery_progress (robust_steady.ofNested level) opened goesOn ran
        rw [run_recovering_error ran, run_recovering_error ran']
        rcases errors with rfl | ⟨ended, displaced⟩
        · exact (behind (joined.recovered inBlock line) progress).behind (traces.append rfl)
        · by_cases broken : seam.extra = []
          · have whole : seam.stop = seam.eof := by
              rw [Seam.stop, broken, List.headD_nil, seam.finish_eq broken]
            obtain rfl := (whole ▸ displaced).eq
            exact (behind (joined.recovered inBlock line) progress).behind (traces.append rfl)
          · -- The error is the last one on the shorter tape; on the longer one the line break
            -- that it names is taken.
            obtain ⟨stays, moves⟩ := joined.recovered_seam inBlock ended (line broken)
            rw [stays, moves]
            refine Together.of_crossed ended broken ?_ joined.finish enough
              (.behind traces (.inr ⟨[], _, _, rfl, rfl, displaced⟩))
            rw [Tape.advance, Tape.ahead_move, joined.ahead, ended, List.nil_append, List.drop_one]

omit inner in
/-- At the seam the shorter tape ends, and on the longer one the line break is passed over. -/
theorem Together.of_ended {first second : Cursor} {nested nested' : Nested}
    {limit bound bound' : Nat}
    (line : seam.extra ≠ [] → seam.stop.kind = .newline)
    (near : Near seam none strict limit first second) (ended : first.tape.ahead = [])
    (enough : seam.extra.length ≤ bound') :
    Together seam inBlock nested' ((statementsWithin nested inBlock bound).run first)
      ((statementsWithin nested' inBlock bound').run second) := by
  have free : first = ⟨first.tape, none⟩ := by rw [← show first.mark = none from near.mark]
  have free' : second.advance = ⟨second.tape.advance, none⟩ := by
    rw [Cursor.advance, show second.mark = none from near.mark']
  by_cases broken : seam.extra = []
  · have ended' : second.tape.ahead = [] := by
      rw [near.joined.ahead, ended, broken, List.nil_append]
    rw [run_statementsWithin_end ended, run_statementsWithin_end ended']
    exact .joined (.inl broken) near.joined near.mark near.mark' rfl
  · rcases near.joined.current with ⟨-, -, stop⟩ | ⟨inside, -⟩
    · have nonempty := List.length_pos_iff.mpr broken
      obtain ⟨fewer, rfl⟩ : ∃ fewer, bound' = fewer + 1 := ⟨bound' - 1, by omega⟩
      have tail : seam.extra.tail.length ≤ fewer + 1 := by
        rw [List.length_tail]
        omega
      rw [run_statementsWithin_blank (stop ▸ line broken), free, free']
      refine Together.across ended broken ?_ near.joined.finish tail
      rw [Tape.advance, Tape.ahead_move, near.joined.ahead, ended, List.nil_append, List.drop_one]
    · exact absurd ended inside

/-- Statements are read alike up to the seam, with bounds that are enough. -/
theorem Together.of_statementsWithin {first second : Cursor} {count bound bound' : Nat}
    (line : seam.extra ≠ [] → inBlock = false ∧ seam.stop.kind = .newline)
    (near : Near seam none strict count first second) (within : count ≤ limit + 1)
    (enough : count ≤ bound) (enough' : count + seam.extra.length ≤ bound') :
    Together seam inBlock (nested level')
      ((statementsWithin (nested level) inBlock bound).run first)
      ((statementsWithin (nested level') inBlock bound').run second) := by
  have breaks (broken : seam.extra ≠ []) := (line broken).2
  -- Every round takes a token of the shorter tape, so the induction is on how many there are.
  induction count generalizing strict first second bound bound' with
  | zero =>
    exact .of_ended breaks near (List.length_eq_zero_iff.mp (Nat.le_zero.mp near.room)) (by omega)
  | succ count ih =>
    by_cases ended : first.tape.ahead = []
    · exact .of_ended breaks near ended (by omega)
    have same := near.joined.current_eq ended
    obtain ⟨bound, rfl⟩ : ∃ fewer, bound = fewer + 1 := ⟨bound - 1, by omega⟩
    obtain ⟨bound', rfl⟩ : ∃ fewer, bound' = fewer + 1 := ⟨bound' - 1, by omega⟩
    by_cases blank : first.tape.current.kind = .newline
    · have blank' : second.tape.current.kind = .newline := by
        rw [same]
        exact blank
      rw [run_statementsWithin_blank blank, run_statementsWithin_blank blank']
      exact ih (near.advance ended) (by omega) (by omega) (by omega)
    by_cases closing : inBlock = true ∧ first.tape.current.kind = .symbol .closeCurly
    · rw [run_statementsWithin_closing closing.1 closing.2,
        run_statementsWithin_closing closing.1 (same ▸ closing.2)]
      exact .joined (.inr closing.1) near.joined near.mark near.mark' rfl
    have opened : second.tape.ahead ≠ [] := by simp [near.joined.ahead, ended]
    rw [run_statementsWithin_statement ended blank closing,
      run_statementsWithin_statement opened (same ▸ blank) (same ▸ closing)]
    have tail : seam.extra.tail.length ≤ bound' := by
      rw [List.length_tail]
      omega
    apply Together.of_statement inner breaks (near.mono within) ended closing tail
    intro tape tape' onward shorter
    have room := near.room
    cases onward with
    | joined joined =>
      have near' : Near seam none false count ⟨tape, none⟩ ⟨tape', none⟩ :=
        ⟨joined, rfl, rfl, nofun, by show tape.ahead.length ≤ count; omega⟩
      exact ih near' (by omega) (by omega) (by omega)
    | crossed ended' broken ahead finish =>
      exact .across ended' broken ahead finish tail

/-- Where the two tapes end together, statements are read alike. -/
theorem Paired.statements (whole : seam.extra = []) :
    Paired seam none none true (limit + 1) (statements (nested level) inBlock)
      (statements (nested level') inBlock) := by
  apply Paired.left_bind
  intro count bound bound' most enough enough' room first second within near
  have broken (extra : seam.extra ≠ []) : inBlock = false ∧ seam.stop.kind = .newline :=
    absurd whole extra
  have covers : room + seam.extra.length ≤ bound' := by
    rw [whole]
    exact Nat.le_trans within enough'
  have together := Together.of_statementsWithin inner broken near (Nat.le_trans within most)
    (Nat.le_trans within enough) covers
  have steady := robust_steady.statementsWithin (robust_steady.ofNested level) inBlock bound first
  have steady' := robust_steady.statementsWithin (robust_steady.ofNested level') inBlock bound'
    second
  generalize (statementsWithin (nested level) inBlock bound).run first = done at *
  generalize (statementsWithin (nested level') inBlock bound').run second = done' at *
  cases together with
  | crossed extra => exact absurd whole extra
  | joined stays joined free free' traces =>
    obtain ⟨moved, forward⟩ := steady.forward
    obtain ⟨moved', forward'⟩ := steady'.forward
    dsimp only at forward forward'
    rw [forward, forward'] at joined
    refine .ok ⟨forward ▸ forward' ▸ joined, free, free', fun _ => ?_, ?_⟩ traces
    · rw [forward, forward']
      exact near.joined.previous_of_moves (near.previous rfl) joined
    · have room := near.room
      rw [forward, Tape.ahead_move, List.length_drop]
      omega

omit inner in
/-- Where the two tapes end together, they come to the same token throughout. -/
theorem Paired.expect_whole {kind : Kind} {context : String} (whole : seam.extra = [])
    (inside : kind ≠ .endOfFile) (plain : 'N' ∉ context.toList) :
    Paired seam none none true limit (Parser.expect kind context)
      (Parser.expect kind context) := by
  intro room first second within near
  have same : second.tape.current = first.tape.current := by
    rcases near.joined.current with ⟨-, eof, stop⟩ | ⟨-, same⟩
    · rw [eof, stop, Seam.stop, whole, List.headD_nil, seam.finish_eq whole]
    · exact same
  by_cases found : first.tape.current.kind = kind
  · have opened : first.tape.ahead ≠ [] := Tape.ahead_ne_nil (found ▸ inside)
    have ran (cursor : Cursor) (found : cursor.tape.current.kind = kind) :
        (Parser.expect kind context).run cursor =
          (advance >>= fun token => Pure.pure token).run cursor := by
      rw [run_expect, if_pos found]
      rfl
    rw [ran first found, ran second (same ▸ found)]
    exact Paired.advance_bind opened within.step near fun token => Paired.pure token
  · rw [run_expect, run_expect, if_neg found, if_neg (same ▸ found)]
    exact Paired.failWith (missing_plain kind plain) within near

theorem Paired.body (whole : seam.extra = []) :
    Paired seam none none true (limit + 1) (body (nested level)) (body (nested level')) := by
  apply (Paired.statements inner whole).bind
  intro stmts
  exact (Paired.expect_whole whole (by decide) (by decide)).map

end Levels

section Ends

variable {nested : Nested} {cursor : Cursor} (ended : cursor.tape.current.kind ∈ statementEnds)
include ended

theorem run_unary_ended : (unary nested).run cursor = expectedExpression.run cursor := by
  unfold unary
  rw [run_seesOneOf_ended (by decide) ended]
  exact Traced.run_bind_error (run_primary_ended nested ended)

omit ended in
theorem run_operations_ended {operators : List Kind} {operand : Parser Expr}
    (none : operand.run cursor = expectedExpression.run cursor) :
    (operations operators operand).run cursor = expectedExpression.run cursor :=
  Traced.run_bind_error none

theorem run_expression_ended : (expression nested).run cursor = expectedExpression.run cursor := by
  unfold expression
  rw [run_advanceIf_ended (by decide) ended]
  apply run_operations_ended
  apply run_operations_ended
  apply run_operations_ended
  apply run_operations_ended
  exact run_unary_ended ended

theorem run_assignmentOrExpression_ended :
    (assignmentOrExpression nested).run cursor = expectedExpression.run cursor := by
  have unnamed : (cursor.tape.current.kind == .identifier) = false := by
    rw [beq_eq_false_iff_ne]
    intro named
    rw [named] at ended
    exact absurd ended (by decide)
  have seen : (sees .identifier).run cursor =
      ⟨.ok (cursor.tape.current.kind == .identifier), cursor, []⟩ := rfl
  have next : nextKind?.run cursor = ⟨.ok (cursor.tape.next?.map Token.kind), cursor, []⟩ := rfl
  unfold assignmentOrExpression
  rw [Traced.run_bind_ok seen, Traced.run_bind_ok next, unnamed, Bool.false_and]
  exact run_expression_ended ended

end Ends

/-- Where a statement has to end no level finds an expression. -/
theorem run_nested_ended {cursor : Cursor} (ended : cursor.tape.current.kind ∈ statementEnds)
    (level : Nat) :
    (nested level).expr.run cursor = expectedExpression.run cursor ∧
      (nested level).assignment.run cursor = expectedExpression.run cursor ∧
      (nested level).unary.run cursor = expectedExpression.run cursor := by
  cases level with
  | zero => exact ⟨rfl, rfl, rfl⟩
  | succ level =>
    exact ⟨run_expression_ended ended, run_assignmentOrExpression_ended ended,
      run_unary_ended ended⟩

/-- At the end a block has no statements, at any level. -/
theorem run_nested_body_end {cursor : Cursor} (ended : cursor.tape.ahead = []) (level : Nat) :
    (nested level).body.run cursor = noneLeft.body.run cursor := by
  cases level with
  | zero => rfl
  | succ level =>
    have stmts : (statements (nested level) true).run cursor = ⟨.ok [], cursor, []⟩ :=
      run_statementsWithin_end ended
    exact Traced.run_bind_ok stmts

/-- The parsers of two levels run alike on as many tokens as both levels are enough for. -/
theorem nested_paired {seam : Seam} {level level' limit : Nat} (enough : limit ≤ level)
    (enough' : limit ≤ level') : PairedNested seam limit (nested level) (nested level') := by
  induction limit generalizing level level' with
  | zero =>
    refine ⟨fun _ => ?_, fun _ => ?_, fun _ => ?_, fun whole => ?_⟩
    · apply Paired.of_ended Paired.expectedExpression
      intro cursor ended
      exact ⟨(run_nested_ended ended level).1, (run_nested_ended ended level').1⟩
    · apply Paired.of_ended Paired.expectedExpression
      intro cursor ended
      exact ⟨(run_nested_ended ended level).2.1, (run_nested_ended ended level').2.1⟩
    · apply Paired.of_ended Paired.expectedExpression
      intro cursor ended
      exact ⟨(run_nested_ended ended level).2.2, (run_nested_ended ended level').2.2⟩
    · intro room first second within near
      have none : first.tape.ahead = [] :=
        List.length_eq_zero_iff.mp (Nat.le_zero.mp (Nat.le_trans near.room within))
      have none' : second.tape.ahead = [] := by
        rw [near.joined.ahead, none, whole, List.append_nil]
      rw [run_nested_body_end none, run_nested_body_end none']
      exact (Paired.expect_whole whole (by decide) (by decide)).map within near
  | succ limit ih =>
    obtain ⟨level, rfl⟩ : ∃ fewer, level = fewer + 1 := ⟨level - 1, by omega⟩
    obtain ⟨level', rfl⟩ : ∃ fewer, level' = fewer + 1 := ⟨level' - 1, by omega⟩
    have inner : PairedNested seam limit (nested level) (nested level') :=
      ih (Nat.le_of_succ_le_succ enough) (Nat.le_of_succ_le_succ enough')
    exact ⟨fun _ => Paired.expression inner, fun _ => Paired.assignmentOrExpression inner,
      fun _ => Paired.unary inner, Paired.body inner⟩

end Script.Parser
