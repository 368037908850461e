import Script.Grammar.Program
import Script.Proofs.Traced

set_option autoImplicit false

/- Runs of parsers as a relation between the cursor before, the outcome, and the cursor behind.
Every step of a parser has one equivalence, so a rule of the grammar is opened by rewriting. -/
namespace Script

namespace Tape

theorem current_of_cons {tape : Tape} {token : Token} {rest : List Token}
    (ahead : tape.ahead = token :: rest) : tape.current = token := by
  simp only [current, ahead, List.headD_cons]

theorem current_of_nil {tape : Tape} (ahead : tape.ahead = []) : tape.current = tape.finish := by
  simp only [current, ahead, List.headD_nil]

/-- Only at the end is the current token the end of file. -/
theorem current_kind_eq_endOfFile {tape : Tape} :
    tape.current.kind = .endOfFile ↔ tape.ahead = [] := by
  cases shape : tape.ahead with
  | nil => simp [current_of_nil shape, tape.finish_end]
  | cons token rest =>
    have opened := tape.ahead_open token (by simp [shape])
    simpa [current_of_cons shape] using opened

theorem ahead_ne_nil {tape : Tape} (opened : tape.current.kind ≠ .endOfFile) : tape.ahead ≠ [] :=
  mt current_kind_eq_endOfFile.mpr opened

theorem ahead_of_current {tape : Tape} (opened : tape.current.kind ≠ .endOfFile) :
    tape.ahead = tape.current :: tape.advance.ahead := by
  cases shape : tape.ahead with
  | nil => exact absurd (current_kind_eq_endOfFile.mpr shape) opened
  | cons token rest => simp [current_of_cons shape, advance, move, shape]

@[simp] theorem ahead_move (tape : Tape) (count : Nat) :
    (tape.move count).ahead = tape.ahead.drop count := rfl

theorem move_move (tape : Tape) (first second : Nat) :
    (tape.move first).move second = tape.move (first + second) := by
  simp only [move, List.drop_drop, List.take_add, List.reverse_append, List.append_assoc]

theorem move_length_take (tape : Tape) (count : Nat) :
    tape.move (tape.ahead.take count).length = tape.move count := by
  rw [List.length_take]
  rcases Nat.le_total count tape.ahead.length with within | beyond
  · rw [Nat.min_eq_left within]
  · simp only [move, Nat.min_eq_right beyond, List.take_length, List.drop_length,
      List.take_of_length_le beyond, List.drop_of_length_le beyond]

theorem advance_of_end {tape : Tape} (ended : tape.ahead = []) : tape.advance = tape := by
  obtain ⟨passed, ahead, finish, beyond, opened, ends⟩ := tape
  subst ended
  rfl

theorem advanceWhile_eq_move (test : Token → Bool) (tape : Tape) :
    tape.advanceWhile test = tape.move (tape.ahead.takeWhile test).length := rfl

/-- Behind the current token stands the one that is current when it is passed. -/
theorem next?_eq {tape : Tape} (opened : tape.ahead ≠ []) :
    tape.next? = some tape.advance.current := by
  unfold next? current
  cases shape : tape.ahead with
  | nil => exact absurd shape opened
  | cons token rest =>
    have behind : tape.advance.ahead = rest := by simp [advance, shape]
    rw [behind]
    cases rest <;> rfl

theorem previous?_advance {tape : Tape} (opened : tape.ahead ≠ []) :
    tape.advance.previous? = some tape.current := by
  cases shape : tape.ahead with
  | nil => exact absurd shape opened
  | cons token rest => simp [previous?, advance, move, current, shape]

theorem ahead_advanceWhile (test : Token → Bool) (tape : Tape) :
    (tape.advanceWhile test).ahead = tape.ahead.dropWhile test := by
  have cut : (tape.ahead.takeWhile test ++ tape.ahead.dropWhile test).drop
      (tape.ahead.takeWhile test).length = tape.ahead.dropWhile test := List.drop_left
  rw [List.takeWhile_append_dropWhile] at cut
  exact cut

/-- A test leads no further than to a token that it does not hold of, or to the end. -/
theorem current_advanceWhile (test : Token → Bool) (tape : Tape) :
    (tape.advanceWhile test).ahead = [] ∨ test (tape.advanceWhile test).current = false := by
  have ahead := ahead_advanceWhile test tape
  have stays := List.head?_dropWhile_not test tape.ahead
  rw [← ahead] at stays
  cases shape : (tape.advanceWhile test).ahead with
  | nil => exact .inl rfl
  | cons token rest =>
    rw [shape] at stays
    exact .inr (by rw [current_of_cons shape]; exact stays)

/-- A token that goes on with a statement which cannot be read. -/
def continuesStatement (token : Token) : Bool :=
  !(Parser.statementEnds.contains token.kind || Parser.statementWords.contains token.kind)

/-- Where reading goes on behind an error at the current token. -/
def recovered (inBlock : Bool) (tape : Tape) : Tape :=
  if tape.current.kind ∈ [Token.Kind.newline, .symbol .semicolon] then tape.advance
  else if tape.current.kind = .endOfFile ∨
      inBlock ∧ tape.current.kind = .symbol .closeCurly then tape
  else
    let found := tape.advance.advanceWhile continuesStatement
    if found.current.kind ∈ [Token.Kind.symbol .semicolon, .newline] then found.advance else found

/-- Recovery never goes back. -/
theorem recovered_eq_move (inBlock : Bool) (tape : Tape) :
    ∃ count, tape.recovered inBlock = tape.move count := by
  unfold recovered
  split
  · exact ⟨1, rfl⟩
  · split
    · exact ⟨0, rfl⟩
    · dsimp only
      rw [advanceWhile_eq_move, advance, move_move]
      split
      · exact ⟨_, move_move ..⟩
      · exact ⟨_, rfl⟩

/-- Recovery takes a token, unless the end or the brace that closes the block is reached. -/
theorem recovered_progress (inBlock : Bool) (tape : Tape) :
    (tape.recovered inBlock).ahead.length < tape.ahead.length ∨ tape.recovered inBlock = tape ∧
      (tape.ahead = [] ∨ inBlock ∧ tape.current.kind = .symbol .closeCurly) := by
  have shorter (count : Nat) (opened : tape.ahead ≠ []) :
      (tape.move (1 + count)).ahead.length < tape.ahead.length := by
    have nonempty := List.length_pos_iff.mpr opened
    rw [ahead_move, List.length_drop]
    omega
  unfold recovered
  split
  · next ends =>
    refine .inl (shorter 0 fun ended => ?_)
    rw [current_kind_eq_endOfFile.mpr ended] at ends
    simp at ends
  · split
    · next ends => exact .inr ⟨rfl, ends.imp_left current_kind_eq_endOfFile.mp⟩
    · next goesOn =>
      have opened : tape.ahead ≠ [] := fun ended =>
        goesOn (.inl (current_kind_eq_endOfFile.mpr ended))
      dsimp only
      rw [advanceWhile_eq_move, advance, move_move]
      split
      · rw [advance, move_move, Nat.add_assoc]
        exact .inl (shorter _ opened)
      · exact .inl (shorter _ opened)

end Tape

namespace Cursor

/-- The cursor `stop` is reached from `start` over the given tokens, with the kept place as it
was. -/
def Passes (start : Cursor) (tokens : List Token) (stop : Cursor) : Prop :=
  start.tape.ahead = tokens ++ stop.tape.ahead ∧
    stop = ⟨start.tape.move tokens.length, start.mark⟩

namespace Passes

variable {start middle stop : Cursor} {first second tokens : List Token}

theorem nil (cursor : Cursor) : cursor.Passes [] cursor := ⟨rfl, rfl⟩

theorem ahead (passes : start.Passes tokens stop) :
    start.tape.ahead = tokens ++ stop.tape.ahead := passes.1

theorem tape (passes : start.Passes tokens stop) :
    stop.tape = start.tape.move tokens.length := by rw [passes.2]

theorem mark (passes : start.Passes tokens stop) : stop.mark = start.mark := by rw [passes.2]

theorem append (before : start.Passes first middle) (behind : middle.Passes second stop) :
    start.Passes (first ++ second) stop := by
  refine ⟨by rw [before.ahead, behind.ahead, List.append_assoc], ?_⟩
  rw [behind.2, before.2, Tape.move_move, List.length_append]

theorem cons {token : Token} (before : start.Passes [token] middle)
    (behind : middle.Passes tokens stop) : start.Passes (token :: tokens) stop :=
  before.append behind

theorem split (passes : start.Passes (first ++ second) stop) :
    ∃ middle, start.Passes first middle ∧ middle.Passes second stop := by
  have front : start.tape.ahead = first ++ (second ++ stop.tape.ahead) := by
    rw [passes.ahead, List.append_assoc]
  refine ⟨⟨start.tape.move first.length, start.mark⟩, ⟨?_, rfl⟩, ?_, ?_⟩
  · simp [front]
  · simp [front]
  · rw [passes.2, Tape.move_move, List.length_append]

theorem cons_split {token : Token} (passes : start.Passes (token :: tokens) stop) :
    ∃ middle, start.Passes [token] middle ∧ middle.Passes tokens stop := by
  change start.Passes ([token] ++ tokens) stop at passes
  exact passes.split

theorem length (passes : start.Passes tokens stop) :
    start.tape.ahead.length = tokens.length + stop.tape.ahead.length := by
  rw [passes.ahead, List.length_append]

/-- Over no token a cursor stays. -/
theorem eq_of_nil (passes : start.Passes [] stop) : stop = start := passes.2

theorem current {token : Token} (passes : start.Passes (token :: tokens) stop) :
    start.tape.current = token := Tape.current_of_cons passes.ahead

theorem next? {token : Token} (passes : start.Passes [token] stop) :
    start.tape.next? = some stop.tape.current := by
  rw [passes.tape]
  exact Tape.next?_eq (by simp [passes.ahead])

end Passes

def marked (cursor : Cursor) : Cursor := { cursor with mark := some cursor.tape }

def unmarked (cursor : Cursor) : Cursor := { cursor with mark := none }

theorem unmarked_of_mark_none {cursor : Cursor} (free : cursor.mark = none) :
    cursor.unmarked = cursor := by
  rw [unmarked, ← free]

/-- Which place is kept does not matter to the tokens passed. -/
theorem Passes.remark {start stop : Cursor} {tokens : List Token}
    (passes : start.Passes tokens stop) (mark : Option Tape) :
    Passes ⟨start.tape, mark⟩ tokens ⟨stop.tape, mark⟩ :=
  ⟨passes.ahead, by rw [passes.tape]⟩

theorem Passes.unmarked {start stop : Cursor} {tokens : List Token}
    (passes : start.Passes tokens stop) : start.unmarked.Passes tokens stop.unmarked :=
  passes.remark none

/-- A cursor that moves passes tokens. -/
theorem passes_move (cursor : Cursor) (count : Nat) :
    cursor.Passes (cursor.tape.ahead.take count) ⟨cursor.tape.move count, cursor.mark⟩ :=
  ⟨by simp, by rw [Tape.move_length_take]⟩

/-- Recovery passes tokens. -/
theorem passes_recovered {cursor : Cursor} (free : cursor.mark = none) (inBlock : Bool) :
    ∃ tokens, cursor.Passes tokens ⟨cursor.tape.recovered inBlock, none⟩ := by
  obtain ⟨count, moved⟩ := cursor.tape.recovered_eq_move inBlock
  have passes := cursor.passes_move count
  rw [← moved, free] at passes
  exact ⟨_, passes⟩

/-- A token that is no end of file is passed by advancing. -/
theorem passes_advance {cursor : Cursor} (opened : cursor.tape.current.kind ≠ .endOfFile) :
    cursor.Passes [cursor.tape.current] cursor.advance :=
  ⟨Tape.ahead_of_current opened, rfl⟩

theorem passes_singleton {start stop : Cursor} {token : Token} :
    start.Passes [token] stop ↔
      token.kind ≠ .endOfFile ∧ token = start.tape.current ∧ stop = start.advance := by
  constructor
  · intro passes
    have current := passes.current
    refine ⟨?_, current.symm, passes.2⟩
    exact start.tape.ahead_open token (by simp [passes.ahead])
  · rintro ⟨opened, rfl, rfl⟩
    exact passes_advance opened

end Cursor

namespace Parser

open Token (Kind)

def Quiet (trace : List Event) : Prop := trace.filterMap Event.recorded? = []

theorem quiet_nil : Quiet [] := rfl

theorem quiet_append {first second : List Event} :
    Quiet (first ++ second) ↔ Quiet first ∧ Quiet second := by
  simp only [Quiet, List.filterMap_append, List.append_eq_nil_iff]

theorem quiet_cons {event : Event} {trace : List Event} (silent : event.recorded? = none) :
    Quiet (event :: trace) ↔ Quiet trace := by
  simp only [Quiet, List.filterMap_cons, silent]

/-- From `start` the parser comes to `stop` with an outcome. It records no error on the way,
unless `skips` allows for errors that are skipped. -/
def Ends {α : Type} (skips : Prop) (parser : Parser α) (start : Cursor)
    (outcome : Except Error α) (stop : Cursor) : Prop :=
  ∃ trace, parser.run start = ⟨outcome, stop, trace⟩ ∧ (skips ∨ Quiet trace)

section Steps

variable {α β : Type} {skips : Prop} {start stop : Cursor}

theorem ends_bind {parser : Parser α} {next : α → Parser β} {result : β} :
    Ends skips (parser >>= next) start (.ok result) stop ↔
      ∃ value middle, Ends skips parser start (.ok value) middle ∧
        Ends skips (next value) middle (.ok result) stop := by
  constructor
  · rintro ⟨trace, ran, quiet⟩
    obtain ⟨value, middle, before, behind, first, second, rfl⟩ := Traced.run_bind_eq_ok.mp ran
    rw [quiet_append] at quiet
    exact ⟨value, middle, ⟨before, first, quiet.imp_right And.left⟩,
      behind, second, quiet.imp_right And.right⟩
  · rintro ⟨value, middle, ⟨before, first, quiet⟩, behind, second, quiet'⟩
    refine ⟨before ++ behind,
      Traced.run_bind_eq_ok.mpr ⟨value, middle, before, behind, first, second, rfl⟩, ?_⟩
    rw [quiet_append]
    rcases quiet with allowed | quiet
    · exact .inl allowed
    · exact quiet'.imp_right fun quiet' => ⟨quiet, quiet'⟩

theorem Ends.andThen {parser : Parser α} {next : α → Parser β} {value : α} {result : β}
    {middle : Cursor} (first : Ends skips parser start (.ok value) middle)
    (second : Ends skips (next value) middle (.ok result) stop) :
    Ends skips (parser >>= next) start (.ok result) stop :=
  ends_bind.mpr ⟨value, middle, first, second⟩

/-- There is one run of a parser. -/
theorem ends_iff_of_run {parser : Parser α} {outcome outcome' : Except Error α} {stop' : Cursor}
    {trace : List Event} (ran : parser.run start = ⟨outcome, stop, trace⟩) :
    Ends skips parser start outcome' stop' ↔
      outcome' = outcome ∧ stop' = stop ∧ (skips ∨ Quiet trace) := by
  constructor
  · rintro ⟨trace', ran', quiet⟩
    rw [ran] at ran'
    cases ran'
    exact ⟨rfl, rfl, quiet⟩
  · rintro ⟨rfl, rfl, quiet⟩
    exact ⟨trace, ran, quiet⟩

theorem ends_of_run {parser : Parser α} {outcome outcome' : Except Error α} {stop' : Cursor}
    {trace : List Event} (ran : parser.run start = ⟨outcome, stop, trace⟩) (quiet : Quiet trace) :
    Ends skips parser start outcome' stop' ↔ outcome' = outcome ∧ stop' = stop := by
  simp only [ends_iff_of_run ran, quiet, or_true, and_true]

theorem ends_pure {value result : α} :
    Ends skips (pure value) start (.ok result) stop ↔ result = value ∧ stop = start := by
  simp [ends_of_run (Traced.run_pure value start) quiet_nil]

theorem Ends.pure (value : α) (cursor : Cursor) :
    Ends skips (pure value) cursor (.ok value) cursor :=
  ends_pure.mpr ⟨rfl, rfl⟩

theorem ends_gets {view : Cursor → α} {result : α} :
    Ends skips (Traced.gets view) start (.ok result) stop ↔
      result = view start ∧ stop = start := by
  simp [ends_of_run (Traced.run_gets view start) quiet_nil]

/-- A view of the cursor is used where the cursor is. -/
theorem ends_gets_bind {view : Cursor → α} {next : α → Parser β} {result : β} :
    Ends skips (Traced.gets view >>= next) start (.ok result) stop ↔
      Ends skips (next (view start)) start (.ok result) stop := by
  simp only [ends_bind, ends_gets]
  constructor
  · rintro ⟨_, _, ⟨rfl, rfl⟩, ends⟩
    exact ends
  · intro ends
    exact ⟨_, _, ⟨rfl, rfl⟩, ends⟩

theorem ends_current_bind {next : Token → Parser α} {result : α} :
    Ends skips (current >>= next) start (.ok result) stop ↔
      Ends skips (next start.tape.current) start (.ok result) stop :=
  ends_gets_bind

theorem ends_nextKind?_bind {next : Option Kind → Parser α} {result : α} :
    Ends skips (nextKind? >>= next) start (.ok result) stop ↔
      Ends skips (next (start.tape.next?.map Token.kind)) start (.ok result) stop :=
  ends_gets_bind

theorem ends_left_bind {next : Nat → Parser α} {result : α} :
    Ends skips (left >>= next) start (.ok result) stop ↔
      Ends skips (next start.tape.ahead.length) start (.ok result) stop :=
  ends_gets_bind

theorem run_left_bind (next : Nat → Parser α) (start : Cursor) :
    (left >>= next).run start = (next start.tape.ahead.length).run start := by
  have counts : left.run start = ⟨.ok start.tape.ahead.length, start, []⟩ := rfl
  rw [Traced.run_bind_ok counts, Run.behind_nil]

theorem run_seesOneOf (kinds : List Kind) (start : Cursor) :
    (seesOneOf kinds).run start =
      ⟨.ok (kinds.contains start.tape.current.kind), start, []⟩ := rfl

theorem ends_seesOneOf_bind {kinds : List Kind} {next : Bool → Parser α} {result : α} :
    Ends skips (seesOneOf kinds >>= next) start (.ok result) stop ↔
      Ends skips (next (kinds.contains start.tape.current.kind)) start (.ok result) stop := by
  rw [seesOneOf, bind_assoc, ends_current_bind, pure_bind]

/-- One kind is looked for like any list of kinds. -/
theorem sees_eq (kind : Kind) : sees kind = seesOneOf [kind] := by
  unfold sees seesOneOf
  refine bind_congr fun token => ?_
  rw [List.contains_cons, List.contains_nil, Bool.or_false]

theorem ends_sees_bind {kind : Kind} {next : Bool → Parser α} {result : α} :
    Ends skips (sees kind >>= next) start (.ok result) stop ↔
      Ends skips (next (start.tape.current.kind == kind)) start (.ok result) stop := by
  rw [sees, bind_assoc, ends_current_bind, pure_bind]

theorem ends_advance {token : Token} :
    Ends skips advance start (.ok token) stop ↔
      token = start.tape.current ∧ stop = start.advance := by
  have ran : advance.run start = ⟨.ok start.tape.current, start.advance, []⟩ := rfl
  simp [ends_of_run ran quiet_nil]

theorem run_advanceIf (kinds : List Kind) (start : Cursor) :
    (advanceIf kinds).run start =
      ⟨.ok (kinds.contains start.tape.current.kind),
        if kinds.contains start.tape.current.kind then start.advance else start, []⟩ := by
  unfold advanceIf
  rw [Traced.run_bind_ok (run_seesOneOf kinds start), Run.behind_nil]
  cases kinds.contains start.tape.current.kind <;> rfl

/-- Choosing on a token that is taken is taking it in one of the branches. -/
theorem advanceIf_branch_eq (kinds : List Kind) (yes no : Parser α) :
    (advanceIf kinds >>= fun taken => if taken = true then yes else no) =
      (seesOneOf kinds >>= fun seen =>
        if seen = true then advance >>= fun _ => yes else no) := by
  unfold advanceIf advance
  rw [bind_assoc]
  refine bind_congr fun seen => ?_
  cases seen <;> rfl

/-- Choosing on the current token and the one behind it takes neither. -/
theorem run_pair_branch (kind follower : Kind) (yes no : Parser α) (start : Cursor) :
    (sees kind >>= fun found => nextKind? >>= fun following =>
      if (found && following == some follower) = true then yes else no).run start =
    (if (start.tape.current.kind == kind &&
      start.tape.next?.map Token.kind == some follower) = true then yes else no).run start := rfl

theorem ends_advanceIf_true {kinds : List Kind} (opened : .endOfFile ∉ kinds) :
    Ends skips (advanceIf kinds) start (.ok true) stop ↔
      ∃ token, token.kind ∈ kinds ∧ start.Passes [token] stop := by
  rw [ends_of_run (run_advanceIf kinds start) quiet_nil]
  simp only [Cursor.passes_singleton]
  by_cases member : start.tape.current.kind ∈ kinds
  · have inside : start.tape.current.kind ≠ .endOfFile := fun ended => opened (ended ▸ member)
    simp only [List.contains_eq_mem, member, decide_true, ↓reduceIte, true_and]
    constructor
    · rintro rfl
      exact ⟨_, member, inside, rfl, rfl⟩
    · rintro ⟨token, -, -, -, rfl⟩
      rfl
  · simp only [List.contains_eq_mem, member, decide_false, Except.ok.injEq, Bool.true_eq_false,
      false_and, false_iff, not_exists, not_and]
    rintro token is - rfl
    exact absurd is member

theorem ends_advanceIf_false {kinds : List Kind} :
    Ends skips (advanceIf kinds) start (.ok false) stop ↔
      start.tape.current.kind ∉ kinds ∧ stop = start := by
  rw [ends_of_run (run_advanceIf kinds start) quiet_nil]
  by_cases member : start.tape.current.kind ∈ kinds <;> simp [member]

/-- A choice that takes a token of certain kinds. -/
theorem ends_advanceIf_branch {kinds : List Kind} {yes no : Parser α} {result : α}
    (opened : .endOfFile ∉ kinds) :
    Ends skips (advanceIf kinds >>= fun taken => if taken = true then yes else no) start
        (.ok result) stop ↔
      (∃ token middle, token.kind ∈ kinds ∧ start.Passes [token] middle ∧
        Ends skips yes middle (.ok result) stop) ∨
      start.tape.current.kind ∉ kinds ∧ Ends skips no start (.ok result) stop := by
  rw [ends_bind]
  constructor
  · rintro ⟨taken, middle, first, second⟩
    cases taken with
    | false =>
      rw [ends_advanceIf_false] at first
      obtain ⟨absent, rfl⟩ := first
      exact .inr ⟨absent, second⟩
    | true =>
      obtain ⟨token, present, passes⟩ := (ends_advanceIf_true opened).mp first
      exact .inl ⟨token, middle, present, passes, second⟩
  · rintro (⟨token, middle, present, passes, second⟩ | ⟨absent, second⟩)
    · exact ⟨true, middle, (ends_advanceIf_true opened).mpr ⟨token, present, passes⟩, second⟩
    · exact ⟨false, start, ends_advanceIf_false.mpr ⟨absent, rfl⟩, second⟩

/-- A choice that only looks at the current token. -/
theorem ends_seesOneOf_branch {kinds : List Kind} {yes no : Parser α} {result : α} :
    Ends skips (seesOneOf kinds >>= fun seen => if seen = true then yes else no) start
        (.ok result) stop ↔
      start.tape.current.kind ∈ kinds ∧ Ends skips yes start (.ok result) stop ∨
      start.tape.current.kind ∉ kinds ∧ Ends skips no start (.ok result) stop := by
  rw [ends_seesOneOf_bind]
  by_cases member : start.tape.current.kind ∈ kinds <;> simp [member]

theorem ends_sees_branch {kind : Kind} {yes no : Parser α} {result : α} :
    Ends skips (sees kind >>= fun seen => if seen = true then yes else no) start
        (.ok result) stop ↔
      start.tape.current.kind = kind ∧ Ends skips yes start (.ok result) stop ∨
      start.tape.current.kind ≠ kind ∧ Ends skips no start (.ok result) stop := by
  rw [ends_sees_bind]
  by_cases same : start.tape.current.kind = kind <;> simp [same]

/-- A token that is no end of file is taken. -/
theorem ends_advance_bind {next : Token → Parser α} {result : α}
    (opened : start.tape.current.kind ≠ .endOfFile) :
    Ends skips (advance >>= next) start (.ok result) stop ↔
      ∃ middle, start.Passes [start.tape.current] middle ∧
        Ends skips (next start.tape.current) middle (.ok result) stop := by
  simp only [ends_bind, ends_advance, Cursor.passes_singleton]
  constructor
  · rintro ⟨_, _, ⟨rfl, rfl⟩, second⟩
    exact ⟨_, ⟨opened, trivial, rfl⟩, second⟩
  · rintro ⟨_, ⟨-, -, rfl⟩, second⟩
    exact ⟨_, _, ⟨rfl, rfl⟩, second⟩

theorem ends_advance_pure {value result : α} (opened : start.tape.current.kind ≠ .endOfFile) :
    Ends skips (advance >>= fun _ => pure value) start (.ok result) stop ↔
      start.Passes [start.tape.current] stop ∧ result = value := by
  rw [ends_advance_bind opened]
  constructor
  · rintro ⟨_, passes, ends⟩
    obtain ⟨rfl, rfl⟩ := ends_pure.mp ends
    exact ⟨passes, rfl⟩
  · rintro ⟨passes, rfl⟩
    exact ⟨stop, passes, ends_pure.mpr ⟨rfl, rfl⟩⟩

theorem run_failWith (template : String) (start : Cursor) :
    (failWith template : Parser α).run start = ⟨.error (start.error template), start, []⟩ := rfl

theorem run_failOf (cause : Error.Cause) (start : Cursor) :
    (failOf cause : Parser α).run start = ⟨.error (start.errorOf cause), start, []⟩ := rfl

theorem not_ends_failWith {template : String} {result : α} :
    ¬ Ends skips (failWith template) start (.ok result) stop := by
  simp [ends_of_run (run_failWith template start) quiet_nil]

theorem not_ends_failOf {cause : Error.Cause} {result : α} :
    ¬ Ends skips (failOf cause) start (.ok result) stop := by
  simp [ends_of_run (run_failOf cause start) quiet_nil]

/-- What a message says about a token that is missing. -/
def missing (kind : Kind) (context : String) : String :=
  "Expected " ++ kind.describe ++ " " ++ context ++
    " after \x7bpeekPrev\x7d, instead got \x7bpeek\x7d"

theorem run_expect (kind : Kind) (context : String) (start : Cursor) :
    (expect kind context).run start =
      if start.tape.current.kind = kind then ⟨.ok start.tape.current, start.advance, []⟩
      else ⟨.error (start.error (missing kind context)), start, []⟩ := by
  have seen : (sees kind).run start = ⟨.ok (start.tape.current.kind == kind), start, []⟩ := rfl
  unfold expect
  rw [Traced.run_bind_ok seen, Run.behind_nil]
  by_cases found : start.tape.current.kind = kind
  · simp only [found, beq_self_eq_true, ↓reduceIte]
    rfl
  · simp only [beq_eq_false_iff_ne.mpr found, found, ↓reduceIte]
    rfl

theorem ends_emit_bind {event : Event} {next : Unit → Parser α} {result : α}
    (silent : event.recorded? = none) :
    Ends skips (Traced.emit event >>= next) start (.ok result) stop ↔
      Ends skips (next ()) start (.ok result) stop := by
  rw [ends_bind]
  simp only [ends_of_run (Traced.run_emit event start) ((quiet_cons silent).mpr quiet_nil)]
  constructor
  · rintro ⟨_, _, ⟨-, rfl⟩, ends⟩
    exact ends
  · intro ends
    exact ⟨(), start, ⟨trivial, rfl⟩, ends⟩

/-- A required token is passed. -/
theorem ends_expect {kind : Kind} {context : String} {token : Token}
    (opened : kind ≠ .endOfFile) :
    Ends skips (expect kind context) start (.ok token) stop ↔
      token.kind = kind ∧ start.Passes [token] stop := by
  have ran := run_expect kind context start
  rw [Cursor.passes_singleton]
  by_cases found : start.tape.current.kind = kind
  · rw [if_pos found] at ran
    simp only [ends_of_run ran quiet_nil, Except.ok.injEq]
    constructor
    · rintro ⟨rfl, rfl⟩
      exact ⟨found, by rw [found]; exact opened, rfl, rfl⟩
    · rintro ⟨-, -, rfl, rfl⟩
      exact ⟨rfl, rfl⟩
  · rw [if_neg found] at ran
    simp only [ends_of_run ran quiet_nil, reduceCtorEq, false_and, false_iff, not_and]
    rintro is - rfl
    exact absurd is found

theorem ends_expect_bind {kind : Kind} {context : String} {next : Token → Parser α} {result : α}
    (opened : kind ≠ .endOfFile) :
    Ends skips (expect kind context >>= next) start (.ok result) stop ↔
      ∃ token middle, token.kind = kind ∧ start.Passes [token] middle ∧
        Ends skips (next token) middle (.ok result) stop := by
  simp only [ends_bind, ends_expect opened, and_assoc]

theorem ends_commit :
    Ends skips commit start (.ok ()) stop ↔ stop = start.unmarked := by
  cases kept : start.mark with
  | none =>
    have ran : commit.run start = ⟨.ok (), start, []⟩ := by
      unfold commit
      rw [Traced.run_bind_ok (Traced.run_get start), Run.behind_nil]
      simp [kept]
    rw [ends_of_run ran quiet_nil, Cursor.unmarked_of_mark_none kept]
    simp
  | some tape =>
    have ran : commit.run start =
        ⟨.ok (), start.unmarked, [.committed start.tape.index]⟩ := by
      unfold commit
      rw [Traced.run_bind_ok (Traced.run_get start), Run.behind_nil]
      simp only [kept]
      rfl
    simp [ends_of_run ran rfl]

theorem ends_looksLikeDeclaration_bind {next : Bool → Parser α} {result : α} :
    Ends skips (looksLikeDeclaration >>= next) start (.ok result) stop ↔
      Ends skips (next ((start.tape.current.kind == .identifier) &&
        (start.tape.next?.map Token.kind).any declarationFollowers.contains)) start
          (.ok result) stop := by
  rw [looksLikeDeclaration, bind_assoc, ends_sees_bind, bind_assoc, ends_nextKind?_bind, pure_bind]

/-- Recovery records the error, and the place that it leads to does not depend on it. -/
theorem run_recover (error : Error) (inBlock : Bool) (start : Cursor) :
    (recover error inBlock).run start =
      ⟨.ok (), ⟨start.tape.recovered inBlock, none⟩, [.recovered error]⟩ := by
  have seen (cursor : Cursor) : current.run cursor = ⟨.ok cursor.tape.current, cursor, []⟩ := rfl
  unfold recover
  rw [Traced.run_bind_ok (Traced.run_emit _ start), Traced.run_bind_ok (Traced.run_modify _ start),
    Traced.run_bind_ok (seen _), Run.behind_nil, Run.behind_nil]
  have advanced : synchronize.run ⟨start.tape, none⟩ =
      ⟨.ok (), ⟨start.tape.advance.advanceWhile Tape.continuesStatement, none⟩, []⟩ := rfl
  unfold Tape.recovered
  dsimp only
  split
  · next is => simp [is, Cursor.advance]
  · next is => simp [is, Cursor.advance]
  · next is => simp [is]
  · next noLine noSemicolon noEnd =>
    have unended : start.tape.current.kind ∉ [Kind.newline, .symbol .semicolon] := by
      simp only [List.mem_cons, List.not_mem_nil, or_false]
      exact fun is => is.elim noLine noSemicolon
    have opened : start.tape.current.kind ≠ .endOfFile := noEnd
    by_cases closes : inBlock ∧ start.tape.current.kind = .symbol .closeCurly
    · simp [closes.1, closes.2]
    · simp only [Bool.and_eq_true, beq_iff_eq, closes, unended, opened, or_self, ↓reduceIte]
      rw [Traced.run_bind_ok advanced, Run.behind_nil,
        Traced.run_bind_ok (run_advanceIf _ _), Run.behind_nil]
      simp only [Traced.run_pure, Run.behind_mk, List.contains_eq_mem, decide_eq_true_eq,
        Run.mk.injEq, true_and, List.append_nil, and_true]
      split <;> rfl

theorem run_eatBlankLines (start : Cursor) :
    eatBlankLines.run start =
      let tape := start.tape.advanceWhile fun token => token.kind == .newline
      ⟨.ok tape.atEnd, { start with tape }, []⟩ := rfl

/-- Blank lines are passed up to the next token of another kind. -/
theorem ends_eatBlankLines {ended : Bool}
    (ends : Ends skips eatBlankLines start (.ok ended) stop) :
    ∃ blanks, start.Passes blanks stop ∧ (∀ token ∈ blanks, token.kind = .newline) ∧
      stop.tape.current.kind ≠ .newline ∧ (ended = true ↔ stop.tape.ahead = []) := by
  rw [ends_of_run (run_eatBlankLines start) quiet_nil] at ends
  simp only [Except.ok.injEq] at ends
  obtain ⟨rfl, rfl⟩ := ends
  let blank : Token → Bool := fun token => token.kind == .newline
  change ∃ blanks, start.Passes blanks ⟨start.tape.advanceWhile blank, start.mark⟩ ∧ _
  refine ⟨start.tape.ahead.takeWhile blank, ⟨?_, rfl⟩, ?_, ?_, by simp [Tape.atEnd]⟩
  · rw [Tape.ahead_advanceWhile, List.takeWhile_append_dropWhile]
  · intro token member
    simpa [blank] using List.all_eq_true.1 List.all_takeWhile token member
  · intro breaks
    rcases Tape.current_advanceWhile blank start.tape with ended | stays
    · rw [Tape.current_of_nil ended, Tape.finish_end] at breaks
      cases breaks
    · simp [blank, breaks] at stays

theorem ends_eatBlankLines_bind {next : Bool → Parser α} {result : α}
    (ends : Ends skips (eatBlankLines >>= next) start (.ok result) stop) :
    ∃ blanks middle ended, start.Passes blanks middle ∧
      (∀ token ∈ blanks, token.kind = .newline) ∧ middle.tape.current.kind ≠ .newline ∧
      (ended = true ↔ middle.tape.ahead = []) ∧
      Ends skips (next ended) middle (.ok result) stop := by
  rw [ends_bind] at ends
  obtain ⟨ended, middle, ate, ends⟩ := ends
  obtain ⟨blanks, passes, breaks, stays, reached⟩ := ends_eatBlankLines ate
  exact ⟨blanks, middle, ended, passes, breaks, stays, reached, ends⟩

/-- A statement ends before a closing brace or the end of file, or with a token of its own. -/
theorem run_statementEnd (start : Cursor) :
    statementEnd.run start =
      if start.tape.current.kind ∈ [Kind.symbol .semicolon, .newline] then
        ⟨.ok (), start.advance, []⟩
      else if start.tape.current.kind ∈ statementEnds then ⟨.ok (), start, []⟩
      else ⟨.error (start.error "Unexpected \x7bpeek\x7d following expression"), start, []⟩ := by
  have seen : (sees (.symbol .closeCurly)).run start =
      ⟨.ok (start.tape.current.kind == .symbol .closeCurly), start, []⟩ := rfl
  have stays (ended : start.tape.current.kind = .endOfFile) : start.advance = start := by
    rw [Cursor.advance, Tape.advance_of_end (Tape.current_kind_eq_endOfFile.mp ended)]
  unfold statementEnd
  rw [Traced.run_bind_ok seen, Run.behind_nil]
  by_cases closes : start.tape.current.kind = .symbol .closeCurly
  · simp [closes, statementEnds]
  · simp only [beq_eq_false_iff_ne.mpr closes, Bool.false_eq_true, ↓reduceIte]
    rw [Traced.run_bind_ok (run_advanceIf _ _), Run.behind_nil]
    by_cases ended : start.tape.current.kind = .endOfFile
    · simp [ended, stays ended, statementEnds]
    · by_cases ends : start.tape.current.kind ∈ [Kind.symbol .semicolon, .newline]
      · have found : start.tape.current.kind ∈ [Kind.symbol .semicolon, .newline, .endOfFile] :=
          List.mem_append_left [Kind.endOfFile] ends
        simp only [List.contains_eq_mem, found, decide_true, ↓reduceIte, ends]
        rfl
      · simp_all [statementEnds, run_failWith]

theorem ends_statementEnd :
    Ends skips statementEnd start (.ok ()) stop ↔
      (start.tape.current.kind = .symbol .closeCurly ∨ start.tape.current.kind = .endOfFile) ∧
        stop = start ∨
      ∃ token, token.kind ∈ [Kind.symbol .semicolon, .newline] ∧ start.Passes [token] stop := by
  have ran := run_statementEnd start
  simp only [Cursor.passes_singleton]
  split at ran
  · next ends =>
    have opened : start.tape.current.kind ≠ .endOfFile := by
      rintro ended
      simp [ended] at ends
    have unclosed : start.tape.current.kind ≠ .symbol .closeCurly := by
      rintro closes
      simp [closes] at ends
    simp only [ends_of_run ran quiet_nil, opened, unclosed, or_self, false_and, false_or, true_and]
    constructor
    · rintro rfl
      exact ⟨_, ends, opened, rfl, rfl⟩
    · rintro ⟨_, -, -, -, rfl⟩
      rfl
  · next unended =>
    have none : ¬ ∃ token : Token, token.kind ∈ [Kind.symbol .semicolon, .newline] ∧
        token.kind ≠ .endOfFile ∧ token = start.tape.current ∧ stop = start.advance := by
      rintro ⟨_, ends, -, rfl, -⟩
      exact unended ends
    rw [or_iff_left none]
    split at ran
    · next ends =>
      have last : start.tape.current.kind = .symbol .closeCurly ∨
          start.tape.current.kind = .endOfFile := by
        simp only [statementEnds, List.mem_cons, List.not_mem_nil, or_false] at ends unended
        rcases ends with closes | semicolon | breaks | ended
        · exact .inl closes
        · exact absurd (.inl semicolon) unended
        · exact absurd (.inr breaks) unended
        · exact .inr ended
      simp [ends_of_run ran quiet_nil, last]
    · next goesOn =>
      rw [ends_of_run ran quiet_nil]
      simp only [reduceCtorEq, false_and, false_iff]
      rintro ⟨closes | ended, -⟩
      · exact goesOn (by simp [closes, statementEnds])
      · exact goesOn (by simp [ended, statementEnds])

/-- A statement that has no end is left where that end should be. -/
theorem ends_statementEnd_error {error : Error}
    (ends : Ends skips statementEnd start (.error error) stop) : stop = start := by
  have ran := run_statementEnd start
  split at ran
  · cases ((ends_of_run ran quiet_nil).mp ends).1
  · split at ran
    · exact ((ends_of_run ran quiet_nil).mp ends).2
    · exact ((ends_of_run ran quiet_nil).mp ends).2

end Steps

/-- Tries one reading, and another one from the same place if the first fails before the kept
place was given up. -/
def speculate (tried otherwise : Parser Stmt) : Parser Stmt := do
  checkpoint
  match ← Traced.attempt tried with
  | .ok stmt => return stmt
  | .error error =>
      if ← hasCheckpoint then
        Traced.emit (.notDeclaration error)
        restore
        otherwise
      else
        Traced.fail error

/-- Goes on behind a phrase, or behind the statement in which the phrase could not be read. -/
def recovering {α β : Type} (inBlock : Bool) (phrase : Parser α) (next : α → Parser β)
    (behind : Parser β) : Parser β := do
  match ← Traced.attempt phrase with
  | .ok value => next value
  | .error error =>
      recover error inBlock
      behind

theorem declarationOrStatement_eq (nested : Nested) :
    declarationOrStatement nested = (do
      if ← advanceIf [.keyword .varWord] then
        let name ← expect .identifier "in variable declaration"
        let found ← specifiers "in declaration"
        variableDecl nested name found true
      else if ← looksLikeDeclaration then
        speculate (namedDeclaration nested) (blockOrExpression nested)
      else
        blockOrExpression nested) := rfl

theorem statementsWithin_succ (nested : Nested) (inBlock : Bool) (bound : Nat) :
    statementsWithin nested inBlock (bound + 1) = (do
      if ← eatBlankLines then
        return []
      else if inBlock && (← sees (.symbol .closeCurly)) then
        return []
      else
        recovering inBlock (declarationOrStatement nested)
          (fun stmt => do
            Traced.emit .parsedStatement
            recovering inBlock statementEnd
              (fun _ => do return stmt :: (← statementsWithin nested inBlock bound))
              (do return stmt :: (← statementsWithin nested inBlock bound)))
          (statementsWithin nested inBlock bound)) := by
  rw [statementsWithin]
  refine bind_congr fun ended => ite_congr rfl (fun _ => rfl) fun _ => ?_
  refine bind_congr fun closing => ite_congr rfl (fun _ => rfl) fun _ => ?_
  refine bind_congr fun outcome => ?_
  cases outcome with
  | error error => rfl
  | ok stmt =>
    refine bind_congr fun _ => bind_congr fun ending => ?_
    cases ending <;> rfl

section Attempts

variable {start : Cursor} {tried otherwise : Parser Stmt} {stop : Cursor} {trace : List Event}

/-- While a place is kept, no other one can be. -/
theorem run_checkpoint_kept {tape : Tape} (kept : start.mark = some tape) :
    checkpoint.run start =
      ⟨.error ((start.errorOf .nestedCheckpoint).withContext start.tape.current.describe),
        start, []⟩ := by
  unfold checkpoint
  rw [Traced.run_bind_ok (Traced.run_get start), Run.behind_nil]
  simp only [kept]
  rfl

/-- While a place is kept, nothing can be tried. -/
theorem run_speculate_kept {tape : Tape} (kept : start.mark = some tape) :
    (speculate tried otherwise).run start =
      ⟨.error ((start.errorOf .nestedCheckpoint).withContext start.tape.current.describe),
        start, []⟩ :=
  Traced.run_bind_error (run_checkpoint_kept kept)

theorem run_checkpoint (free : start.mark = none) :
    checkpoint.run start =
      ⟨.ok (), start.marked, [.marked start.tape.index]⟩ := by
  unfold checkpoint
  rw [Traced.run_bind_ok (Traced.run_get start), Run.behind_nil]
  simp only [free]
  rfl

theorem run_speculate_ok {stmt : Stmt} (free : start.mark = none)
    (ran : tried.run start.marked = ⟨.ok stmt, stop, trace⟩) :
    (speculate tried otherwise).run start =
      ⟨.ok stmt, stop, .marked start.tape.index :: trace⟩ := by
  unfold speculate
  rw [Traced.run_bind_ok (run_checkpoint free), Traced.run_bind_ok (Traced.run_attempt ..), ran]
  simp

/-- A failure behind the point of no return stays. -/
theorem run_speculate_error {error : Error} (free : start.mark = none)
    (ran : tried.run start.marked = ⟨.error error, stop, trace⟩)
    (gone : stop.mark = none) :
    (speculate tried otherwise).run start =
      ⟨.error error, stop, .marked start.tape.index :: trace⟩ := by
  unfold speculate
  rw [Traced.run_bind_ok (run_checkpoint free), Traced.run_bind_ok (Traced.run_attempt ..), ran]
  have lost : hasCheckpoint.run stop = ⟨.ok false, stop, []⟩ := by
    simp [hasCheckpoint, gone]
  simp only
  rw [Traced.run_bind_ok lost]
  simp

theorem run_restore {tape : Tape} (kept : start.mark = some tape) :
    restore.run start =
      ⟨.ok (), ⟨tape, none⟩, [.backtracked start.tape.index tape.index]⟩ := by
  unfold restore
  rw [Traced.run_bind_ok (Traced.run_get start), Run.behind_nil]
  simp only [kept]
  rfl

theorem run_restore_free (free : start.mark = none) :
    restore.run start = ⟨.ok (), start, []⟩ := by
  unfold restore
  rw [Traced.run_bind_ok (Traced.run_get start), Run.behind_nil]
  simp only [free]
  rfl

/-- An earlier failure leads back to the kept place. -/
theorem run_speculate_restored {error : Error} {tape : Tape} (free : start.mark = none)
    (ran : tried.run start.marked = ⟨.error error, stop, trace⟩)
    (kept : stop.mark = some tape) :
    (speculate tried otherwise).run start =
      (otherwise.run ⟨tape, none⟩).behind (.marked start.tape.index :: (trace ++
        [.notDeclaration error, .backtracked stop.tape.index tape.index])) := by
  unfold speculate
  rw [Traced.run_bind_ok (run_checkpoint free), Traced.run_bind_ok (Traced.run_attempt ..), ran]
  have held : hasCheckpoint.run stop = ⟨.ok true, stop, []⟩ := by
    simp [hasCheckpoint, kept]
  simp only
  rw [Traced.run_bind_ok held, Run.behind_nil]
  simp only [↓reduceIte]
  rw [Traced.run_bind_ok (Traced.run_emit _ _), Traced.run_bind_ok (run_restore kept)]
  simp [Run.behind]

/-- A trial succeeds with the tried reading, or with the other one from the kept place. -/
theorem ends_speculate {skips : Prop} {stmt : Stmt} (free : start.mark = none) :
    Ends skips (speculate tried otherwise) start (.ok stmt) stop ↔
      Ends skips tried start.marked (.ok stmt) stop ∨
      ∃ error middle tape, Ends skips tried start.marked (.error error) middle ∧
        middle.mark = some tape ∧ Ends skips otherwise ⟨tape, none⟩ (.ok stmt) stop := by
  cases ran : tried.run start.marked with
  | mk outcome middle trace =>
    cases outcome with
    | ok stmt' =>
      simp only [ends_iff_of_run (run_speculate_ok free ran), ends_iff_of_run ran, reduceCtorEq,
        false_and, exists_false, or_false]
      exact Iff.rfl
    | error error =>
      cases kept : middle.mark with
      | none =>
        simp only [ends_iff_of_run (run_speculate_error free ran kept), ends_iff_of_run ran,
          reduceCtorEq, false_and, false_or, false_iff]
        rintro ⟨_, _, _, ⟨-, rfl, -⟩, held, -⟩
        simp [kept] at held
      | some tape =>
        have run : (speculate tried otherwise).run start = _ :=
          run_speculate_restored free ran kept
        cases again : otherwise.run ⟨tape, none⟩ with
        | mk outcome' last trace' =>
          rw [again] at run
          have both : Quiet (.marked start.tape.index :: (trace ++ [.notDeclaration error,
              .backtracked middle.tape.index tape.index]) ++ trace') ↔
                Quiet trace ∧ Quiet trace' := by
            rw [List.cons_append, quiet_cons rfl, quiet_append, quiet_append, quiet_cons rfl,
              quiet_cons rfl]
            simp only [quiet_nil, and_true]
          simp only [ends_iff_of_run run, ends_iff_of_run ran, both, reduceCtorEq, false_and,
            false_or]
          constructor
          · rintro ⟨rfl, rfl, quiet⟩
            exact ⟨error, middle, tape, ⟨rfl, rfl, quiet.imp_right And.left⟩, kept,
              (ends_iff_of_run again).mpr ⟨rfl, rfl, quiet.imp_right And.right⟩⟩
          · rintro ⟨_, _, _, ⟨⟨⟩, rfl, quiet⟩, held, ends⟩
            obtain rfl : _ = tape := by simpa [kept] using held.symm
            obtain ⟨rfl, rfl, quiet'⟩ := (ends_iff_of_run again).mp ends
            refine ⟨rfl, rfl, ?_⟩
            rcases quiet with allowed | quiet
            · exact .inl allowed
            · exact quiet'.imp_right fun quiet' => ⟨quiet, quiet'⟩

variable {α β : Type} {inBlock : Bool} {phrase : Parser α} {next : α → Parser β}
  {behind : Parser β}

theorem run_recovering_ok {value : α} (ran : phrase.run start = ⟨.ok value, stop, trace⟩) :
    (recovering inBlock phrase next behind).run start =
      ((next value).run stop).behind trace := by
  unfold recovering
  rw [Traced.run_bind_ok (Traced.run_attempt ..), ran]

theorem run_recovering_error {error : Error}
    (ran : phrase.run start = ⟨.error error, stop, trace⟩) :
    (recovering inBlock phrase next behind).run start =
      (behind.run ⟨stop.tape.recovered inBlock, none⟩).behind (trace ++ [.recovered error]) := by
  unfold recovering
  rw [Traced.run_bind_ok (Traced.run_attempt ..), ran]
  simp only
  rw [Traced.run_bind_ok (run_recover ..)]
  simp [Run.behind]

/-- Reading goes on behind a phrase that is read, or, if errors may be skipped, behind the
statement in which it is not. -/
theorem ends_recovering {skips : Prop} {result : β} :
    Ends skips (recovering inBlock phrase next behind) start (.ok result) stop ↔
      (∃ value middle, Ends skips phrase start (.ok value) middle ∧
        Ends skips (next value) middle (.ok result) stop) ∨
      skips ∧ ∃ error middle, Ends skips phrase start (.error error) middle ∧
        Ends skips behind ⟨middle.tape.recovered inBlock, none⟩ (.ok result) stop := by
  cases ran : phrase.run start with
  | mk outcome middle trace =>
    cases outcome with
    | ok value =>
      have run : (recovering inBlock phrase next behind).run start = _ := run_recovering_ok ran
      cases rest : (next value).run middle with
      | mk outcome' last trace' =>
        rw [rest] at run
        simp only [ends_iff_of_run run, ends_iff_of_run ran, quiet_append, reduceCtorEq, false_and,
          exists_false, and_false, or_false]
        constructor
        · rintro ⟨rfl, rfl, quiet⟩
          exact ⟨value, middle, ⟨rfl, rfl, quiet.imp_right And.left⟩,
            (ends_iff_of_run rest).mpr ⟨rfl, rfl, quiet.imp_right And.right⟩⟩
        · rintro ⟨_, _, ⟨⟨⟩, rfl, quiet⟩, ends⟩
          obtain ⟨rfl, rfl, quiet'⟩ := (ends_iff_of_run rest).mp ends
          refine ⟨rfl, rfl, ?_⟩
          rcases quiet with allowed | quiet
          · exact .inl allowed
          · exact quiet'.imp_right fun quiet' => ⟨quiet, quiet'⟩
    | error error =>
      have run : (recovering inBlock phrase next behind).run start = _ := run_recovering_error ran
      cases rest : behind.run ⟨middle.tape.recovered inBlock, none⟩ with
      | mk outcome' last trace' =>
        rw [rest] at run
        have loud : ¬ Quiet (trace ++ [.recovered error] ++ trace') := by
          simp [Quiet, Event.recorded?]
        simp only [ends_iff_of_run run, ends_iff_of_run ran, loud, or_false, reduceCtorEq,
          false_and, exists_false, false_or]
        constructor
        · rintro ⟨rfl, rfl, allowed⟩
          exact ⟨allowed, error, middle, ⟨rfl, rfl, .inl allowed⟩,
            (ends_iff_of_run rest).mpr ⟨rfl, rfl, .inl allowed⟩⟩
        · rintro ⟨allowed, _, _, ⟨⟨⟩, rfl, -⟩, ends⟩
          obtain ⟨rfl, rfl, -⟩ := (ends_iff_of_run rest).mp ends
          exact ⟨rfl, rfl, allowed⟩

end Attempts
end Parser
end Script
