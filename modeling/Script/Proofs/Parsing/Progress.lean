import Script.Proofs.Parsing.Steady

set_option autoImplicit false

/- Phrases take tokens. Whatever a phrase is read from, and whether a place is kept or not, a phrase
that is read has taken a token; so has an iteration of reading statements, unless it is the last
one. How much is left is measured by the tokens ahead, which no step of a parser makes more. -/
namespace Script.Parser

open Token (Kind)

variable {α β : Type} {start stop : Cursor} {skips : Prop}

/-- A steady parser leaves no more tokens than it finds. -/
theorem Steady.length_le {parser : Parser α} (steady : Steady parser) {outcome : Except Error α}
    (ends : Ends skips parser start outcome stop) :
    stop.tape.ahead.length ≤ start.tape.ahead.length := by
  obtain ⟨trace, ran, -⟩ := ends
  obtain ⟨count, forward⟩ := (steady start).forward
  rw [ran] at forward
  dsimp only at forward
  rw [forward, Tape.ahead_move, List.length_drop]
  exact Nat.sub_le _ _

/-- Whenever a parser succeeds, it has taken a token. -/
def Progresses (parser : Parser α) : Prop :=
  ∀ ⦃start stop value⦄, Ends True parser start (.ok value) stop →
    stop.tape.ahead.length < start.tape.ahead.length

namespace Progresses

variable {first : Parser α} {next : α → Parser β}

/-- A sequence takes a token if its first part does. -/
theorem bind (progresses : Progresses first) (behind : ∀ value, Steady (next value)) :
    Progresses (first >>= next) := by
  intro start stop result ends
  obtain ⟨value, middle, before, ends⟩ := ends_bind.mp ends
  exact Nat.lt_of_le_of_lt ((behind value).length_le ends) (progresses before)

/-- A sequence takes a token if what its first part leads to does. -/
theorem after (steady : Steady first) (behind : ∀ value, Progresses (next value)) :
    Progresses (first >>= next) := by
  intro start stop result ends
  obtain ⟨value, middle, before, ends⟩ := ends_bind.mp ends
  exact Nat.lt_of_lt_of_le (behind value ends) (steady.length_le before)

theorem ite (test : Bool) {yes no : Parser α} (chosen : Progresses yes) (other : Progresses no) :
    Progresses (if test = true then yes else no) :=
  Closed.ite test chosen other

theorem expect {kind : Kind} (context : String) (opened : kind ≠ .endOfFile) :
    Progresses (expect kind context) := by
  intro start stop token ends
  obtain ⟨-, passes⟩ := (ends_expect opened).mp ends
  have lengths := passes.length
  rw [List.length_singleton] at lengths
  omega

/-- Advancing from a token that is no end of file takes it. -/
theorem of_advance {next : Token → Parser α} (opened : start.tape.current.kind ≠ .endOfFile)
    (behind : ∀ token, Steady (next token)) {value : α}
    (ends : Ends True (advance >>= next) start (.ok value) stop) :
    stop.tape.ahead.length < start.tape.ahead.length := by
  obtain ⟨middle, passes, ends⟩ := (ends_advance_bind opened).mp ends
  have lengths := passes.length
  rw [List.length_singleton] at lengths
  have rest := (behind _).length_le ends
  omega

/-- A choice takes a token if it takes the one that it looks for, or else goes on with a parser
that does. -/
theorem advanceIf {kinds : List Kind} {yes no : Parser α} (opened : .endOfFile ∉ kinds)
    (taken : Steady yes) (other : Progresses no) :
    Progresses (advanceIf kinds >>= fun found => if found = true then yes else no) := by
  intro start stop value ends
  rcases (ends_advanceIf_branch opened).mp ends with ⟨token, middle, -, passes, ends⟩ | ⟨-, ends⟩
  · have lengths := passes.length
    rw [List.length_singleton] at lengths
    have rest := taken.length_le ends
    omega
  · exact other ends

theorem typeName (context : String) : Progresses (typeName context) :=
  (expect context (by decide)).bind fun _ =>
    closed_steady.bind (closed_steady.advanceIf _) fun _ => closed_steady.pure _

theorem typeWithin (bound : Nat) (context : String) : Progresses (typeWithin bound context) := by
  cases bound with
  | zero => exact (typeName context).bind fun _ => closed_steady.pure _
  | succ bound =>
    refine advanceIf (by decide) ?_ ((typeName context).bind fun _ => closed_steady.pure _)
    refine closed_steady.bind (closed_steady.sees _) fun closing => Closed.ite closing ?_ ?_
    · refine closed_steady.bind (closed_steady.expect _ _) fun _ => ?_
      exact closed_steady.bind (closed_steady.typeName _) fun _ => closed_steady.pure _
    · refine closed_steady.bind (closed_steady.typeWithin _ _) fun _ => ?_
      refine closed_steady.bind (closed_steady.expect _ _) fun _ => ?_
      exact closed_steady.bind (closed_steady.typeName _) fun _ => closed_steady.pure _

theorem typeExpr (context : String) : Progresses (typeExpr context) :=
  after (closed_steady.gets _) fun bound => typeWithin bound context

section Phrases

variable {nested : Nested} (steady : Closed.OfNested Steady nested)
include steady

/-- No expression begins at the end of file, and every other beginning of one is taken. -/
theorem primary : Progresses (primary nested) := by
  intro start stop expr ends
  rw [Parser.primary, ends_current_bind] at ends
  have value (expr : Expr) (_ : Token) : Steady (pure expr : Parser Expr) := closed_steady.pure expr
  split at ends
  · next is => exact of_advance (by simp [is]) (value _) ends
  · next is => exact of_advance (by simp [is]) (value _) ends
  · next is =>
    split at ends
    · exact of_advance (by simp [is]) (value _) ends
    · exact absurd ends not_ends_failWith
  · next is =>
    split at ends
    · exact of_advance (by simp [is]) (value _) ends
    · exact absurd ends not_ends_failWith
  · next is =>
    split at ends
    · exact of_advance (by simp [is]) (value _) ends
    · exact absurd ends not_ends_failWith
  · next is => exact of_advance (by simp [is]) (value _) ends
  · next is =>
    refine of_advance (by simp [is]) (fun _ => ?_) ends
    refine closed_steady.bind steady.expr fun _ => ?_
    exact closed_steady.bind (closed_steady.expect _ _) fun _ => closed_steady.pure _
  · exact absurd ends not_ends_failWith

theorem call : Progresses (call nested) := by
  refine (primary steady).bind fun expr => closed_steady.bind (closed_steady.gets _) fun bound => ?_
  exact closed_steady.suffixesWithin steady bound expr

theorem unary : Progresses (unary nested) := by
  intro start stop expr ends
  rcases ends_seesOneOf_branch.mp ends with ⟨signed, ends⟩ | ⟨-, ends⟩
  · refine of_advance ?_ (fun _ => closed_steady.bind steady.unary fun _ => ?_) ends
    · intro ended
      rw [ended] at signed
      exact absurd signed (by decide)
    · exact closed_steady.pure _
  · exact call steady ends

omit steady in
theorem operations (operators : List Kind) {operand : Parser Expr} (each : Progresses operand)
    (steady : Steady operand) : Progresses (operations operators operand) := by
  refine each.bind fun first => closed_steady.bind (closed_steady.gets _) fun bound => ?_
  exact closed_steady.operationsWithin operators steady bound first

theorem multiplication : Progresses (multiplication nested) :=
  operations _ (unary steady) (closed_steady.unary steady)

theorem addition : Progresses (addition nested) :=
  operations _ (multiplication steady) (closed_steady.multiplication steady)

theorem comparison : Progresses (comparison nested) :=
  operations _ (addition steady) (closed_steady.addition steady)

theorem equality : Progresses (equality nested) :=
  operations _ (comparison steady) (closed_steady.comparison steady)

theorem expression : Progresses (expression nested) := by
  refine advanceIf (by decide) ?_ (equality steady)
  refine closed_steady.bind (closed_steady.expect _ _) fun _ => ?_
  refine closed_steady.bind steady.expr fun _ => closed_steady.bind (closed_steady.expect _ _) ?_
  refine fun _ => closed_steady.bind (closed_steady.expect _ _) fun _ => ?_
  refine closed_steady.bind steady.body fun _ => ?_
  exact closed_steady.bind (closed_steady.elseBranch steady) fun _ => closed_steady.pure _

omit steady in
/-- A word and the token behind it are taken together, or a phrase is read instead. -/
theorem pair {kind : Kind} {follower : Kind} {next : Token → Parser α} {other : Parser α}
    (opened : kind ≠ .endOfFile) (behind : ∀ token, Steady (next token))
    (otherwise : Progresses other) :
    Progresses (sees kind >>= fun found => nextKind? >>= fun following =>
      if (found && following == some follower) = true then advance >>= next else other) := by
  intro start stop value ends
  rw [ends_sees_bind, ends_nextKind?_bind] at ends
  split at ends
  · next both =>
    rw [Bool.and_eq_true, beq_iff_eq] at both
    exact of_advance (both.1 ▸ opened) behind ends
  · exact otherwise ends

theorem assignmentOrExpression : Progresses (assignmentOrExpression nested) := by
  refine pair (by decide) (fun _ => ?_) (expression steady)
  refine closed_steady.bind closed_steady.advance fun _ => ?_
  exact closed_steady.bind steady.assignment fun _ => closed_steady.pure _

theorem blockOrExpression : Progresses (blockOrExpression nested) := by
  refine pair (by decide) (fun _ => ?_) ((assignmentOrExpression steady).bind fun _ => ?_)
  · refine closed_steady.bind closed_steady.advance fun _ => ?_
    exact closed_steady.bind steady.body fun _ => closed_steady.pure _
  · exact closed_steady.pure _

theorem namedDeclaration : Progresses (namedDeclaration nested) := by
  refine (expect "in declaration" (by decide)).bind fun name => ?_
  refine closed_steady.bind (closed_steady.specifiers _) fun found => ?_
  refine closed_steady.bind (closed_steady.seesOneOf _) fun defined => Closed.ite defined ?_ ?_
  · refine closed_steady.bind robust_steady.commit fun _ => ?_
    exact closed_steady.variableDecl steady name found false
  · refine closed_steady.bind (closed_steady.sees _) fun called => ?_
    exact Closed.ite called (robust_steady.functionDecl steady name found)
      (closed_steady.failWith _)

/-- A declaration that is given up leaves the cursor where it began. -/
theorem speculate : Progresses
    (speculate (Parser.namedDeclaration nested) (Parser.blockOrExpression nested)) := by
  intro start stop stmt ends
  cases free : start.mark with
  | some place =>
    rw [ends_iff_of_run (run_speculate_kept free)] at ends
    cases ends.1
  | none =>
    rcases (ends_speculate free).mp ends with ends | ⟨error, middle, tape, failed, held, ends⟩
    · have shorter := namedDeclaration steady ends
      exact shorter
    · obtain ⟨trace, ran, -⟩ := failed
      have kept := (robust_steady.namedDeclaration steady start.marked).kept
      rw [ran] at kept
      obtain rfl : tape = start.tape := by simpa [held, Cursor.marked] using kept
      have shorter := blockOrExpression steady ends
      exact shorter

theorem declarationOrStatement : Progresses (declarationOrStatement nested) := by
  rw [declarationOrStatement_eq]
  refine advanceIf (by decide) ?_ ?_
  · refine closed_steady.bind (closed_steady.expect _ _) fun name => ?_
    refine closed_steady.bind (closed_steady.specifiers _) fun found => ?_
    exact closed_steady.variableDecl steady name found true
  · intro start stop stmt ends
    rw [ends_looksLikeDeclaration_bind] at ends
    exact ite _ (speculate steady) (blockOrExpression steady) ends

end Phrases

/-- A parser with as many levels as there are tokens ahead. -/
theorem sized {phrase : Nested → Parser α}
    (each : ∀ {nested : Nested}, Closed.OfNested Steady nested → Progresses (phrase nested)) :
    Progresses (left >>= fun bound => phrase (nested bound)) :=
  after (closed_steady.gets _) fun bound => each (robust_steady.ofNested bound)

end Progresses

/-- Recovery from a statement that cannot be read takes a token. -/
theorem recovery_progress {nested : Nested} (steady : Closed.OfNested Steady nested)
    {inBlock : Bool} {error : Error} {trace : List Event} (opened : start.tape.ahead ≠ [])
    (goesOn : ¬ (inBlock = true ∧ start.tape.current.kind = .symbol .closeCurly))
    (ran : (declarationOrStatement nested).run start = ⟨.error error, stop, trace⟩) :
    (stop.tape.recovered inBlock).ahead.length < start.tape.ahead.length := by
  have forward := (robust_steady.declarationOrStatement steady start).forward
  rw [ran] at forward
  obtain ⟨count, moved⟩ := forward
  have nonempty := List.length_pos_iff.mpr opened
  have lengths : stop.tape.ahead.length = start.tape.ahead.length - count := by
    rw [show stop.tape = start.tape.move count from moved, Tape.ahead_move, List.length_drop]
  rcases stop.tape.recovered_progress inBlock with shorter | ⟨stays, ended | closes⟩
  · omega
  · rw [stays, ended]
    exact nonempty
  · -- The brace that closes the block is not where the statement begins.
    have left : count ≠ 0 := by
      rintro rfl
      exact goesOn ⟨closes.1, by simpa [show stop.tape = start.tape from moved] using closes.2⟩
    rw [stays]
    omega

/-- What an iteration of reading statements comes to. -/
inductive Iteration where
  /-- There are no more statements. -/
  | done
  /-- A statement could not be read. -/
  | skipped
  | read (stmt : Stmt)

/-- One iteration of reading statements. -/
def iteration (nested : Nested) (inBlock : Bool) : Parser Iteration := do
  if ← eatBlankLines then
    return .done
  else if inBlock && (← sees (.symbol .closeCurly)) then
    return .done
  else
    recovering inBlock (declarationOrStatement nested)
      (fun stmt => do
        Traced.emit .parsedStatement
        recovering inBlock statementEnd (fun _ => return .read stmt) (return .read stmt))
      (return .skipped)

/-- The statements from an iteration on, with the rest read by the parser handed in. -/
def Iteration.followed (again : Parser (List Stmt)) : Iteration → Parser (List Stmt)
  | done => return []
  | skipped => again
  | read stmt => do return stmt :: (← again)

/-- What follows reading goes on in both of its continuations. -/
theorem recovering_bind (inBlock : Bool) (phrase : Parser α) {γ : Type} (next : α → Parser β)
    (behind : Parser β) (last : β → Parser γ) :
    (recovering inBlock phrase next behind >>= last) =
      recovering inBlock phrase (fun value => next value >>= last) (behind >>= last) := by
  unfold recovering
  rw [bind_assoc]
  refine bind_congr fun outcome => ?_
  cases outcome with
  | ok value => rfl
  | error error => rw [bind_assoc]

/-- Reading statements is one iteration after the other. -/
theorem statementsWithin_eq_iteration (nested : Nested) (inBlock : Bool) (bound : Nat) :
    statementsWithin nested inBlock (bound + 1) =
      iteration nested inBlock >>= Iteration.followed (statementsWithin nested inBlock bound) := by
  rw [statementsWithin_succ, iteration, bind_assoc]
  refine bind_congr fun ended => ?_
  cases ended with
  | true => rfl
  | false =>
    simp only [Bool.false_eq_true, ↓reduceIte, bind_assoc]
    refine bind_congr fun closing => ?_
    split
    · rfl
    · rw [recovering_bind]
      congr 1
      funext stmt
      rw [bind_assoc]
      refine bind_congr fun _ => ?_
      rw [recovering_bind]
      rfl

theorem Steady.iteration {nested : Nested} (steady : Closed.OfNested Steady nested)
    (inBlock : Bool) : Steady (iteration nested inBlock) := by
  refine closed_steady.bind robust_steady.eatBlankLines fun ended =>
    Closed.ite ended (closed_steady.pure _) ?_
  refine closed_steady.bind (closed_steady.sees _) fun closing =>
    Closed.ite _ (closed_steady.pure _) ?_
  refine robust_steady.recovering inBlock (robust_steady.declarationOrStatement steady)
    (fun stmt => ?_) (closed_steady.pure _)
  refine closed_steady.bind robust_steady.parsedStatement fun _ => ?_
  exact robust_steady.recovering inBlock closed_steady.statementEnd (fun _ => closed_steady.pure _)
    (closed_steady.pure _)

/-- Whatever a statement ends with, reading goes on no earlier than behind it. -/
theorem run_recovering_statementEnd (inBlock : Bool) (result : α) (start : Cursor) :
    ∃ stop trace,
      (recovering inBlock statementEnd (fun _ => pure result) (pure result)).run start =
          ⟨.ok result, stop, trace⟩ ∧
        stop.tape.ahead.length ≤ start.tape.ahead.length := by
  have steady : Steady (recovering inBlock statementEnd (fun _ => pure result) (pure result)) :=
    robust_steady.recovering inBlock closed_steady.statementEnd
      (fun _ => closed_steady.pure result) (closed_steady.pure result)
  have finishes : ∃ stop trace,
      (recovering inBlock statementEnd (fun _ => pure result) (pure result)).run start =
        ⟨.ok result, stop, trace⟩ := by
    cases ended : statementEnd.run start with
    | mk outcome stop trace =>
      cases outcome with
      | ok value => exact ⟨_, _, run_recovering_ok ended⟩
      | error error => exact ⟨_, _, run_recovering_error ended⟩
  obtain ⟨stop, trace, ran⟩ := finishes
  exact ⟨stop, trace, ran, steady.length_le ⟨trace, ran, .inl trivial⟩⟩

/-- An iteration never fails. The last one ends at the end, or in a block in front of the brace that
closes it; every other one takes a token, whether it reads a statement or recovers from one. -/
theorem run_iteration {nested : Nested} (steady : Closed.OfNested Steady nested) (inBlock : Bool)
    (start : Cursor) :
    ∃ result stop trace,
      (iteration nested inBlock).run start = ⟨.ok result, stop, trace⟩ ∧
        (result = .done ∧ (stop.tape.ahead = [] ∨
            inBlock = true ∧ stop.tape.current.kind = .symbol .closeCurly) ∨
          result ≠ .done ∧ stop.tape.ahead.length < start.tape.ahead.length) := by
  have ate : Ends True eatBlankLines start _ _ := ⟨_, run_eatBlankLines start, .inl trivial⟩
  have blanks := robust_steady.eatBlankLines.length_le ate
  have ran := run_eatBlankLines start
  generalize (start.tape.advanceWhile fun token => token.kind == .newline) = tape at ran blanks
  have seen : (sees (.symbol .closeCurly)).run ⟨tape, start.mark⟩ =
      ⟨.ok (tape.current.kind == .symbol .closeCurly), ⟨tape, start.mark⟩, []⟩ := rfl
  unfold iteration
  rw [Traced.run_bind_ok ran, Run.behind_nil]
  by_cases ended : tape.ahead = []
  · rw [if_pos (by simp [Tape.atEnd, ended])]
    exact ⟨.done, _, _, rfl, .inl ⟨rfl, .inl ended⟩⟩
  rw [if_neg (by simp [Tape.atEnd, ended]), Traced.run_bind_ok seen, Run.behind_nil]
  by_cases closing : inBlock = true ∧ tape.current.kind = .symbol .closeCurly
  · rw [if_pos (by simpa using closing)]
    exact ⟨.done, _, _, rfl, .inl ⟨rfl, .inr closing⟩⟩
  rw [if_neg (by simpa using closing)]
  cases read : (declarationOrStatement nested).run ⟨tape, start.mark⟩ with
  | mk outcome middle trace =>
    cases outcome with
    | ok stmt =>
      have taken := Progresses.declarationOrStatement steady ⟨trace, read, .inl trivial⟩
      obtain ⟨stop, events, finished, behind⟩ :=
        run_recovering_statementEnd inBlock (Iteration.read stmt) middle
      refine ⟨.read stmt, stop, trace ++ ([.parsedStatement] ++ events), ?_, .inr ⟨by simp, ?_⟩⟩
      · rw [run_recovering_ok read, Traced.run_bind_ok (Traced.run_emit ..), finished,
          Run.behind_mk, Run.behind_mk]
      · omega
    | error error =>
      have taken := recovery_progress steady ended closing read
      refine ⟨.skipped, _, _, run_recovering_error read, .inr ⟨by simp, ?_⟩⟩
      exact Nat.lt_of_lt_of_le taken blanks

end Script.Parser
