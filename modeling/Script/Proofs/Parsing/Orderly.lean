import Mathlib.Data.List.TakeWhile
import Script.Proofs.Parsing.Rounds
import Script.Proofs.Parsing.Steady

set_option autoImplicit false

/- Where the errors of a run stand. Places are told by the number of tokens before them. Every error
is recorded at the token of the cursor, and the cursor then passes that token, unless it is the end
of file; so the places of errors rise. What is read while a place is kept records nothing. -/
namespace Script

namespace Tape

theorem not_isOpen : (fun token => !isOpen token) = fun token => token.kind == .endOfFile := by
  funext token
  simp [isOpen, bne]

/-- Tokens are open up to the first end of file. -/
theorem head?_dropWhile_isOpen (tokens : List Token) :
    (tokens.dropWhile isOpen).head? = tokens.find? fun token => token.kind == .endOfFile := by
  rw [← List.find?_not_eq_head?_dropWhile, not_isOpen]

def ending (tape : Tape) : Nat := tape.index + tape.ahead.length

theorem index_move (tape : Tape) (count : Nat) :
    (tape.move count).index = tape.index + min count tape.ahead.length := by
  simp [index, move, Nat.add_comm]

theorem index_le_move (tape : Tape) (count : Nat) : tape.index ≤ (tape.move count).index := by
  rw [index_move]
  exact Nat.le_add_right _ _

@[simp] theorem ending_move (tape : Tape) (count : Nat) :
    (tape.move count).ending = tape.ending := by
  rw [ending, index_move, ahead_move, List.length_drop, ending]
  omega

/- A tape is its tokens with a number: the current token stands at that number, its neighbours next
to it, and the number goes up by one unless an end of file is current. -/
section Indexed

variable (tape : Tape)

/-- The token at the place of a tape is the current one. -/
theorem tokens_index : tape.tokens[tape.index]? = some tape.current := by
  unfold tokens index current
  rw [List.append_assoc, List.getElem?_append_right (by simp)]
  cases tape.ahead <;> simp

theorem tokens_index_succ : tape.tokens[tape.index + 1]? = tape.next? := by
  unfold tokens index next?
  rw [List.append_assoc, List.getElem?_append_right (by simp), List.length_reverse,
    Nat.add_sub_cancel_left]
  cases tape.ahead with
  | nil => exact List.head?_eq_getElem?.symm
  | cons token rest => cases rest <;> rfl

theorem tokens_index_pred (behind : tape.index ≠ 0) :
    tape.tokens[tape.index - 1]? = tape.previous? := by
  unfold tokens index previous?
  unfold index at behind
  cases passed : tape.passed with
  | nil => simp [passed] at behind
  | cons token rest => simp

theorem atEnd_iff : tape.atEnd = true ↔ tape.current.kind = .endOfFile :=
  List.isEmpty_iff.trans current_kind_eq_endOfFile.symm

theorem index_advance : tape.advance.index =
    if tape.current.kind = .endOfFile then tape.index else tape.index + 1 := by
  rw [advance, index_move]
  split
  · next ended =>
    rw [current_kind_eq_endOfFile.mp ended, List.length_nil, Nat.min_zero, Nat.add_zero]
  · next opened =>
    have more := List.length_pos_iff.mpr (ahead_ne_nil opened)
    rw [Nat.min_eq_left more]

end Indexed

end Tape

namespace Parser

/-- An error of the text at the token of a place. -/
structure ReportedAt (tokens : List Token) (place : Nat) (error : Error) : Prop where
  category : error.cause.category = .ofSyntax
  located : ∃ token, tokens[place]? = some token ∧ error.position = token.position

/-- Errors at places that rise from `low` and leave `high` open. Only at the end of file may more
than one stand. -/
inductive Rises (tokens : List Token) (ending : Nat) : Nat → List Error → Nat → Prop where
  | nil {low high : Nat} (within : low ≤ high) : Rises tokens ending low [] high
  | cons {low place high : Nat} {error : Error} {rest : List Error} (above : low ≤ place)
      (within : place ≤ ending) (reported : ReportedAt tokens place error)
      (behind : Rises tokens ending (min (place + 1) ending) rest high) :
      Rises tokens ending low (error :: rest) high

namespace Rises

variable {tokens : List Token} {ending low middle high : Nat} {errors later : List Error}

theorem lower {low' : Nat} (rises : Rises tokens ending low errors high) (below : low' ≤ low) :
    Rises tokens ending low' errors high := by
  cases rises with
  | nil within => exact .nil (Nat.le_trans below within)
  | cons above within reported behind =>
    exact .cons (Nat.le_trans below above) within reported behind

theorem append (rises : Rises tokens ending low errors middle)
    (behind : Rises tokens ending middle later high) :
    Rises tokens ending low (errors ++ later) high := by
  induction rises with
  | nil within => exact behind.lower within
  | cons above within reported _ ih => exact .cons above within reported (ih behind)

theorem raise {high' : Nat} (rises : Rises tokens ending low errors high) (above : high ≤ high') :
    Rises tokens ending low errors high' := by
  have whole := rises.append (.nil above)
  rwa [List.append_nil] at whole

/-- One more error, at the place that was left open. -/
theorem snoc {error : Error} (rises : Rises tokens ending low errors high)
    (within : high ≤ ending) (reported : ReportedAt tokens high error) :
    Rises tokens ending low (errors ++ [error]) (min (high + 1) ending) :=
  rises.append (.cons (Nat.le_refl _) within reported (.nil (Nat.le_refl _)))

/-- What stands behind the end of file does not matter. -/
theorem transfer {tokens' : List Token} (rises : Rises tokens ending low errors high)
    (same : ∀ place ≤ ending, tokens[place]? = tokens'[place]?) :
    Rises tokens' ending low errors high := by
  induction rises with
  | nil within => exact .nil within
  | @cons _ place _ _ _ above within reported _ ih =>
    have located := reported.located
    rw [same place within] at located
    exact .cons above within ⟨reported.category, located⟩ ih

/-- The places of the errors, one for each. -/
theorem exists_places (rises : Rises tokens ending low errors high) :
    ∃ places : List Nat, List.Forall₂ (ReportedAt tokens) places errors ∧
      (∀ place ∈ places, low ≤ place ∧ place ≤ ending) ∧
      places.Pairwise fun first second => first < second ∨ first = ending ∧ second = ending := by
  induction rises with
  | nil => exact ⟨[], .nil, nofun, .nil⟩
  | @cons low place _ _ _ above within reported _ ih =>
    obtain ⟨places, all, bounds, ordered⟩ := ih
    refine ⟨place :: places, .cons reported all, ?_, ?_⟩
    · intro other member
      rcases List.mem_cons.mp member with rfl | member
      · exact ⟨above, within⟩
      · have := bounds other member
        omega
    · refine .cons (fun other member => ?_) ordered
      have := bounds other member
      omega

end Rises

/-- How far behind the cursor statements may have reported: at a brace that closes their block, and
that is taken next. -/
def slack (inBlock : Bool) (tape : Tape) : Nat :=
  if inBlock && tape.current.kind == .symbol .closeCurly then 1 else 0

/-- A run in which no place is kept in the end, whose errors rise from the cursor before to the
cursor behind, and that fails at the cursor behind if it fails. -/
structure Orderly {α : Type} (inBlock : Bool) (start : Cursor) (done : Run Cursor Event Error α) :
    Prop where
  forward : ∃ count, done.state.tape = start.tape.move count
  free : done.state.mark = none
  rises : Rises start.tape.tokens start.tape.ending start.tape.index
    (done.trace.filterMap Event.recorded?) (done.state.tape.index + slack inBlock done.state.tape)
  failed : ∀ error, done.outcome = .error error →
    ∃ cause, cause.category = .ofSyntax ∧ error = done.state.errorOf cause

def Ordered (inBlock : Bool) {α : Type} (parser : Parser α) : Prop :=
  ∀ start, start.mark = none → Orderly inBlock start (parser.run start)

namespace Orderly

variable {α β : Type} {inBlock : Bool} {start : Cursor}

/-- A run that reads without an error. -/
theorem of_ok {value : α} {stop : Cursor} {trace : List Event} (free : stop.mark = none)
    (forward : ∃ count, stop.tape = start.tape.move count)
    (quiet : trace.filterMap Event.recorded? = []) :
    Orderly inBlock start (⟨.ok value, stop, trace⟩ : Run Cursor Event Error α) := by
  refine ⟨forward, free, ?_, nofun⟩
  obtain ⟨count, forward⟩ := forward
  rw [quiet, forward]
  exact .nil (Nat.le_add_right_of_le (start.tape.index_le_move count))

/-- A run that fails where it begins. -/
theorem of_error {cause : Error.Cause} (free : start.mark = none)
    (category : cause.category = .ofSyntax) :
    Orderly inBlock start
      (⟨.error (start.errorOf cause), start, []⟩ : Run Cursor Event Error α) where
  forward := ⟨0, rfl⟩
  free := free
  rises := .nil (Nat.le_add_right _ _)
  failed _ failed := ⟨cause, category, (Except.error.inj failed).symm⟩

theorem weaken {done : Run Cursor Event Error α} (orderly : Orderly false start done) :
    Orderly inBlock start done :=
  { orderly with rises := orderly.rises.raise (Nat.le_add_right _ _) }

/-- A failure is one whatever was to be read. -/
theorem of_failed {error : Error} {stop : Cursor} {trace : List Event}
    (orderly : Orderly inBlock start (⟨.error error, stop, trace⟩ : Run Cursor Event Error α)) :
    Orderly inBlock start (⟨.error error, stop, trace⟩ : Run Cursor Event Error β) :=
  ⟨orderly.forward, orderly.free, orderly.rises, fun error' failed =>
    orderly.failed error' (by cases failed; rfl)⟩

/-- A second run goes on from where a first one came to. -/
theorem andThen {first : Run Cursor Event Error α} {second : Run Cursor Event Error β}
    (before : Orderly false start first) (behind : Orderly inBlock first.state second) :
    Orderly inBlock start (second.behind first.trace) := by
  obtain ⟨moved, forward⟩ := before.forward
  obtain ⟨further, forward'⟩ := behind.forward
  have rises := behind.rises
  rw [forward, Tape.tokens_move, Tape.ending_move, ← forward] at rises
  refine ⟨⟨moved + further, ?_⟩, behind.free, ?_, behind.failed⟩
  · rw [← Tape.move_move, ← forward]
    exact forward'
  · have whole := before.rises.append rises
    rwa [← List.filterMap_append] at whole

/-- Where an orderly run fails, one more error can be recorded. -/
theorem rises_failed {stop : Cursor} {error : Error} {trace : List Event}
    (orderly : Orderly false start (⟨.error error, stop, trace⟩ : Run Cursor Event Error α)) :
    Rises start.tape.tokens start.tape.ending start.tape.index
      ((trace ++ [Event.recovered error]).filterMap Event.recorded?)
      (min (stop.tape.index + 1) start.tape.ending) := by
  obtain ⟨moved, forward⟩ : ∃ count, stop.tape = start.tape.move count := orderly.forward
  obtain ⟨cause, category, is⟩ : ∃ cause, cause.category = .ofSyntax ∧
    error = stop.errorOf cause := orderly.failed error rfl
  subst is
  rw [List.filterMap_append]
  refine orderly.rises.snoc ?_ ⟨category, stop.tape.current, ?_, rfl⟩
  · rw [← start.tape.ending_move moved, ← forward]
    exact Nat.le_add_right _ _
  · rw [← start.tape.tokens_move moved, ← forward]
    exact stop.tape.tokens_index

/-- Recovery passes the token of an error, unless reading cannot go on. -/
theorem recovered {stop : Cursor} {error : Error} {trace : List Event}
    (orderly : Orderly false start (⟨.error error, stop, trace⟩ : Run Cursor Event Error α)) :
    Orderly false start (⟨.ok (), ⟨stop.tape.recovered inBlock, none⟩,
        trace ++ [.recovered error]⟩ : Run Cursor Event Error Unit) ∨
      stop.tape.recovered inBlock = stop.tape ∧ inBlock = true ∧
        stop.tape.current.kind = .symbol .closeCurly := by
  obtain ⟨moved, forward⟩ : ∃ count, stop.tape = start.tape.move count := orderly.forward
  obtain ⟨further, forward'⟩ := stop.tape.recovered_eq_move inBlock
  have ends : start.tape.ending = stop.tape.index + stop.tape.ahead.length := by
    rw [← start.tape.ending_move moved, ← forward]
    rfl
  have ends' : start.tape.ending =
      (stop.tape.recovered inBlock).index + (stop.tape.recovered inBlock).ahead.length := by
    rw [← start.tape.ending_move moved, ← forward, ← stop.tape.ending_move further, ← forward']
    rfl
  have settles (passed : min (stop.tape.index + 1) start.tape.ending ≤
      (stop.tape.recovered inBlock).index) :
      Orderly false start (⟨.ok (), ⟨stop.tape.recovered inBlock, none⟩,
        trace ++ [.recovered error]⟩ : Run Cursor Event Error Unit) := by
    refine ⟨⟨moved + further, ?_⟩, rfl, orderly.rises_failed.raise passed, nofun⟩
    rw [← Tape.move_move, ← forward]
    exact forward'
  rcases stop.tape.recovered_progress inBlock with taken | ⟨same, ended | brace⟩
  · exact .inl (settles (by omega))
  · refine .inl (settles ?_)
    rw [same]
    rw [ended, List.length_nil] at ends
    omega
  · exact .inr ⟨same, brace⟩

end Orderly

namespace Ordered

variable {α β : Type} {inBlock : Bool}

theorem bind {first : Parser α} {next : α → Parser β} (before : Ordered false first)
    (behind : ∀ value, Ordered inBlock (next value)) : Ordered inBlock (first >>= next) := by
  intro start free
  have orderly := before start free
  cases ran : first.run start with
  | mk outcome stop trace =>
    rw [ran] at orderly
    cases outcome with
    | error error =>
      rw [Traced.run_bind_error ran]
      exact orderly.of_failed.weaken
    | ok value =>
      rw [Traced.run_bind_ok ran]
      exact orderly.andThen (behind value stop orderly.free)

/-- A value may be made of what is read. -/
theorem map {parser : Parser α} (ordered : Ordered inBlock parser) (make : α → β) :
    Ordered inBlock (parser >>= fun value => pure (make value)) := by
  intro start free
  have orderly := ordered start free
  cases ran : parser.run start with
  | mk outcome stop trace =>
    rw [ran] at orderly
    cases outcome with
    | error error =>
      rw [Traced.run_bind_error ran]
      exact orderly.of_failed
    | ok value =>
      rw [Traced.run_bind_ok ran, Traced.run_pure, Run.behind_mk, List.append_nil]
      exact ⟨orderly.forward, orderly.free, orderly.rises, nofun⟩

/-- Reading goes on behind an error as it would behind a phrase, if it stops at a brace that closes
the block. -/
theorem recovering {phrase : Parser α} {next : α → Parser β} {behind : Parser β}
    (first : Ordered false phrase) (second : ∀ value, Ordered inBlock (next value))
    (other : Ordered inBlock behind)
    (halts : ∀ cursor : Cursor, inBlock = true → cursor.tape.current.kind = .symbol .closeCurly →
      ∃ value, behind.run cursor = ⟨.ok value, cursor, []⟩) :
    Ordered inBlock (recovering inBlock phrase next behind) := by
  intro start free
  have orderly := first start free
  cases ran : phrase.run start with
  | mk outcome stop trace =>
    rw [ran] at orderly
    cases outcome with
    | ok value =>
      rw [run_recovering_ok ran]
      exact orderly.andThen (second value stop orderly.free)
    | error error =>
      rw [run_recovering_error ran]
      rcases orderly.recovered with settled | ⟨same, block, brace⟩
      · exact settled.andThen (other _ rfl)
      · rw [same]
        obtain ⟨value, stays⟩ := halts ⟨stop.tape, none⟩ block brace
        rw [stays, Run.behind_mk, List.append_nil]
        refine ⟨orderly.forward, rfl, orderly.rises_failed.raise ?_, nofun⟩
        simp only [slack, block, brace, BEq.rfl, Bool.and_self, ↓reduceIte]
        exact Nat.min_le_left _ _

end Ordered

/-- Phrases without trial and recovery are ordered. -/
theorem closed_ordered : Closed (Ordered false) where
  pure _ _ free := .of_ok free ⟨0, rfl⟩ rfl
  bind := .bind
  gets _ _ free := .of_ok free ⟨0, rfl⟩ rfl
  failWith _ _ free := .of_error free rfl
  failOf category _ free := .of_error free category
  move _ free := .of_ok free ⟨1, rfl⟩ rfl

/-- As long as it keeps a place, a parser records nothing; a run that gives it up is orderly. -/
def Undecided {α : Type} (parser : Parser α) : Prop :=
  ∀ start, (parser.run start).state.mark = start.mark ∧ (parser.run start).trace = [] ∨
    Orderly false start.unmarked (parser.run start)

namespace Undecided

variable {α β : Type}

theorem of_silent {parser : Parser α} (silent : Silent parser) : Undecided parser :=
  fun start => .inl (silent start)

/-- What is silent comes before the decision. -/
theorem bind {first : Parser α} {next : α → Parser β} (silent : Silent first)
    (steady : Steady first) (behind : ∀ value, Undecided (next value)) :
    Undecided (first >>= next) := by
  intro start
  have quiet := silent start
  have moves := (steady start).forward
  cases ran : first.run start with
  | mk outcome stop trace =>
    rw [ran] at quiet moves
    obtain ⟨kept, rfl⟩ := quiet
    cases outcome with
    | error error => exact Traced.run_bind_error ran ▸ .inl ⟨kept, rfl⟩
    | ok value =>
      rw [Traced.run_bind_ok ran, Run.behind_nil]
      refine (behind value stop).imp (And.imp_left (·.trans kept)) fun orderly => ?_
      have begun : Orderly false start.unmarked
          (⟨.ok value, stop.unmarked, []⟩ : Run Cursor Event Error α) := .of_ok rfl moves rfl
      exact begun.andThen orderly

/-- Giving up the kept place is the decision. -/
theorem commit_bind {next : Unit → Parser β} (behind : Ordered false (next ())) :
    Undecided (commit >>= next) := by
  intro start
  obtain ⟨trace, ran, quiet⟩ := run_commit start
  have none : trace.filterMap Event.recorded? = [] := by
    rw [List.filterMap_eq_nil_iff]
    intro event member
    cases event with
    | recovered error => exact absurd member (quiet error)
    | _ => rfl
  have begun : Orderly false start.unmarked
      (⟨.ok (), start.unmarked, trace⟩ : Run Cursor Event Error Unit) := .of_ok rfl ⟨0, rfl⟩ none
  rw [Traced.run_bind_ok ran]
  exact .inr (begun.andThen (behind _ rfl))

end Undecided

section Statements

variable {nested : Nested} (inner : Closed.OfNested (Ordered false) nested)
include inner

theorem undecided_functionDecl (name : Token) (specifierTypes : List TypeExpr) :
    Undecided (functionDecl nested name specifierTypes) := by
  refine .bind closed_silent.parameters closed_steady.parameters fun _ => ?_
  refine .bind (closed_silent.specifiers _) (closed_steady.specifiers _) fun _ => ?_
  refine .bind (closed_silent.expect _ _) (closed_steady.expect _ _) fun _ => ?_
  refine .commit_bind (closed_ordered.bind (closed_ordered.typeExpr _) fun _ => ?_)
  exact closed_ordered.bind (closed_ordered.functionBody inner) fun _ => closed_ordered.pure _

theorem undecided_namedDeclaration : Undecided (namedDeclaration nested) := by
  refine .bind (closed_silent.expect _ _) (closed_steady.expect _ _) fun name => ?_
  refine .bind (closed_silent.specifiers _) (closed_steady.specifiers _) fun found => ?_
  refine .bind (closed_silent.seesOneOf _) (closed_steady.seesOneOf _) fun defined =>
    Closed.ite defined ?_ ?_
  · exact .commit_bind (closed_ordered.variableDecl inner name found false)
  · refine .bind (closed_silent.sees _) (closed_steady.sees _) fun called => Closed.ite called ?_ ?_
    · exact undecided_functionDecl inner name found
    · exact .of_silent (closed_silent.failWith _)

/-- A trial that fails leaves nothing behind, and one that is decided is orderly. -/
theorem ordered_speculate (steady : Closed.OfNested Steady nested) :
    Ordered false (speculate (namedDeclaration nested) (blockOrExpression nested)) := by
  intro start free
  have undecided := undecided_namedDeclaration inner start.marked
  have same : start.marked.unmarked = start := by rw [Cursor.unmarked, Cursor.marked, ← free]
  rw [same] at undecided
  cases ran : (namedDeclaration nested).run start.marked with
  | mk outcome stop trace =>
    rw [ran] at undecided
    rcases undecided with ⟨kept, rfl⟩ | orderly
    · cases outcome with
      | ok stmt =>
        have gone := namedDeclaration_gives_up steady ran
        rw [gone] at kept
        cases kept
      | error error =>
        rw [run_speculate_restored free ran kept]
        have again := closed_ordered.blockOrExpression inner start free
        have begun : Orderly false start (⟨.ok (), start, .marked start.tape.index ::
            ([] ++ [.notDeclaration error, .backtracked stop.tape.index start.tape.index])⟩ :
              Run Cursor Event Error Unit) := .of_ok free ⟨0, rfl⟩ rfl
        rw [show (⟨start.tape, none⟩ : Cursor) = start by rw [← free]]
        exact begun.andThen again
    · cases outcome with
      | ok stmt =>
        rw [run_speculate_ok free ran]
        exact ⟨orderly.forward, orderly.free, orderly.rises, orderly.failed⟩
      | error error =>
        rw [run_speculate_error free ran orderly.free]
        exact ⟨orderly.forward, orderly.free, orderly.rises, orderly.failed⟩

theorem ordered_statementsWithin (steady : Closed.OfNested Steady nested) (inBlock : Bool)
    (bound : Nat) : Ordered inBlock (statementsWithin nested inBlock bound) := by
  induction bound with
  | zero => exact fun _ free => .of_ok free ⟨0, rfl⟩ rfl
  | succ bound ih =>
    have none : Ordered inBlock (pure [] : Parser (List Stmt)) := fun _ free =>
      .of_ok free ⟨0, rfl⟩ rfl
    have halts (cursor : Cursor) (block : inBlock = true)
        (brace : cursor.tape.current.kind = .symbol .closeCurly) :
        (statementsWithin nested inBlock bound).run cursor = ⟨.ok [], cursor, []⟩ :=
      run_statementsWithin_closing block brace
    have going (stmt : Stmt) : Ordered inBlock (do
        return stmt :: (← statementsWithin nested inBlock bound)) := ih.map _
    rw [statementsWithin_succ]
    refine .bind (fun _ free => .of_ok free ⟨_, rfl⟩ rfl) fun ended => Closed.ite ended none ?_
    refine .bind (closed_ordered.sees _) fun closing => Closed.ite _ none ?_
    refine .recovering (closed_ordered.declarationOrStatement inner
      (ordered_speculate inner steady)) (fun stmt => ?_) ih ?_
    · refine .bind (fun _ free => .of_ok free ⟨0, rfl⟩ rfl) fun _ => ?_
      refine .recovering closed_ordered.statementEnd (fun _ => going stmt) (going stmt) ?_
      intro cursor block brace
      rw [Traced.run_bind_ok (halts cursor block brace)]
      exact ⟨_, rfl⟩
    · exact fun cursor block brace => ⟨_, halts cursor block brace⟩

/-- The brace behind the statements of a block is taken, also if an error stands at it. -/
theorem ordered_body (steady : Closed.OfNested Steady nested) : Ordered false (body nested) := by
  intro start free
  have orderly := ordered_statementsWithin inner steady true start.tape.ahead.length start free
  obtain ⟨stmts, stop, trace, ran⟩ :=
    Total.statementsWithin nested true start.tape.ahead.length start
  have read : (statements nested true).run start = ⟨.ok stmts, stop, trace⟩ := ran
  rw [ran] at orderly
  obtain ⟨moved, forward⟩ : ∃ count, stop.tape = start.tape.move count := orderly.forward
  have rises := orderly.rises
  rw [body, Traced.run_bind_ok read]
  by_cases brace : stop.tape.current.kind = .symbol .closeCurly
  · have taken := run_expect (.symbol .closeCurly) "after block" stop
    rw [if_pos brace] at taken
    have passed : stop.tape.advance.index = stop.tape.index + 1 := by
      rw [Tape.index_advance, brace, if_neg (by decide)]
    rw [Traced.run_bind_ok taken, Traced.run_pure, Run.behind_mk, Run.behind_mk, List.append_nil,
      List.append_nil]
    refine ⟨⟨moved + 1, ?_⟩, orderly.free, ?_, fun _ failed => by cases failed⟩
    · rw [← Tape.move_move, ← forward]
      rfl
    · simp only [slack, brace, BEq.rfl, Bool.and_self, ↓reduceIte, ← passed] at rises
      exact rises
  · have missing := run_expect (.symbol .closeCurly) "after block" stop
    rw [if_neg brace] at missing
    rw [Traced.run_bind_error missing, Run.behind_mk, List.append_nil]
    refine ⟨orderly.forward, orderly.free, ?_, fun error failed => ?_⟩
    · simpa [slack, brace] using rises
    · exact ⟨_, rfl, (Except.error.inj failed).symm⟩

omit inner in
/-- The parsers of every level are ordered. -/
theorem ordered_nested (bound : Nat) : Closed.OfNested (Ordered false) (Parser.nested bound) := by
  induction bound with
  | zero =>
    refine ⟨closed_ordered.failWith _, closed_ordered.failWith _, closed_ordered.failWith _, ?_⟩
    exact closed_ordered.bind (closed_ordered.expect _ _) fun _ => closed_ordered.pure _
  | succ bound ih =>
    exact ⟨closed_ordered.expression ih, closed_ordered.assignmentOrExpression ih,
      closed_ordered.unary ih, ordered_body ih (robust_steady.ofNested bound)⟩

omit inner in
theorem ordered_statementList (inBlock : Bool) : Ordered inBlock (statementList inBlock) := by
  refine .bind (closed_ordered.gets _) fun level => .bind (closed_ordered.gets _) fun bound => ?_
  exact ordered_statementsWithin (ordered_nested level) (robust_steady.ofNested level) inBlock bound

end Statements

end Parser
end Script
