import Script.Proofs.Parsing.Orderly
import Script.Proofs.Recovery

set_option autoImplicit false

/- Operations of a parser, called in any order. Whatever is called, and whether it fails or not, the
cursor stays on the tokens up to the first end of file, a kept place stands nowhere behind it, and
recorded errors stay recorded. Tokens behind the first end of file change nothing. -/
namespace Script

namespace Tape

theorem find?_terminated (tokens : List Token) :
    ((terminated tokens).find? fun token => token.kind == .endOfFile) = some (finishOf tokens) := by
  by_cases ended : tokens.getLast?.any fun token => token.kind == .endOfFile
  · rw [terminated, if_pos ended]
    obtain ⟨last, found, ends⟩ := (Option.any_eq_true ..).mp ended
    have member : last ∈ tokens := List.mem_of_getLast? found
    have present : (tokens.find? fun token => token.kind == .endOfFile).isSome :=
      List.find?_isSome.mpr ⟨last, member, ends⟩
    rw [finishOf, Option.getD_of_ne_none (Option.isSome_iff_ne_none.mp present)]
  · rw [terminated, if_neg ended, List.find?_append, finishOf]
    cases tokens.find? fun token => token.kind == .endOfFile <;> rfl

section Behind

variable {eof : Token} (ends : eof.kind = .endOfFile)
include ends

/-- What stands behind an end of file is out of reach. -/
theorem takeWhile_behind (before behind : List Token) :
    (before ++ eof :: behind).takeWhile isOpen = before.takeWhile isOpen := by
  have closed : ¬ isOpen eof := by simp [isOpen, ends]
  rw [List.takeWhile_append]
  split
  · next whole =>
    have all : before.takeWhile isOpen = before :=
      (List.takeWhile_prefix isOpen).eq_of_length whole
    rw [all, List.takeWhile_cons_of_neg closed, List.append_nil]
  · rfl

theorem finishOf_behind (before behind : List Token) :
    finishOf (before ++ eof :: behind) = finishOf (before ++ [eof]) := by
  have found (rest : List Token) :
      ((eof :: rest).find? fun token => token.kind == .endOfFile) = some eof :=
    List.find?_cons_of_pos (beq_iff_eq.mpr ends)
  simp only [finishOf, List.find?_append, found, Option.getD_or, Option.getD_some]

end Behind

/-- An end that is added does not change what comes before the first one. -/
theorem takeWhile_terminated (tokens : List Token) :
    (terminated tokens).takeWhile isOpen = tokens.takeWhile isOpen := by
  unfold terminated
  split
  · rfl
  · exact takeWhile_behind rfl tokens []

/-- A tape holds the tokens it is made of, with their end of file. -/
theorem tokens_ofTokens (tokens : List Token) : (ofTokens tokens).tokens = terminated tokens := by
  have head : ((terminated tokens).dropWhile isOpen).head? = some (finishOf tokens) := by
    rw [head?_dropWhile_isOpen, find?_terminated]
  have rest : finishOf tokens :: ((terminated tokens).dropWhile isOpen).tail =
      (terminated tokens).dropWhile isOpen := List.cons_head?_tail head
  calc (ofTokens tokens).tokens
      = tokens.takeWhile isOpen ++
          finishOf tokens :: ((terminated tokens).dropWhile isOpen).tail := rfl
    _ = (terminated tokens).takeWhile isOpen ++ (terminated tokens).dropWhile isOpen := by
      rw [rest, takeWhile_terminated]
    _ = terminated tokens := List.takeWhile_append_dropWhile

/-- The first end of file stands behind the tokens that can be reached. -/
theorem findIdx_terminated (tokens : List Token) :
    ((terminated tokens).findIdx fun token => token.kind == .endOfFile) =
      (ofTokens tokens).ahead.length := by
  have front : (ofTokens tokens).ahead = (terminated tokens).takeWhile isOpen :=
    (takeWhile_terminated tokens).symm
  rw [front, List.takeWhile_eq_take_findIdx_not, List.length_take, not_isOpen,
    Nat.min_eq_left List.findIdx_le_length]

end Tape

namespace Cursor

/-- Where an operation leads: forward, with the kept place as it was or given up; to a kept place;
or back to the place that was kept. -/
inductive Leads (start stop : Cursor) : Prop where
  | forward (moves : ∃ count, stop.tape = start.tape.move count)
      (keeps : stop.mark = start.mark ∨ stop.mark = none)
  | marked (is : stop = start.marked)
  | restored (kept : start.mark = some stop.tape) (free : stop.mark = none)

theorem Leads.stays {cursor : Cursor} : cursor.Leads cursor := .forward ⟨0, rfl⟩ (.inl rfl)

/-- A cursor on a tape, with its kept place nowhere behind it. -/
structure On (whole : Tape) (cursor : Cursor) : Prop where
  reached : ∃ count, cursor.tape = whole.move count
  kept : ∀ place, cursor.mark = some place →
    ∃ early late, place = whole.move early ∧ cursor.tape = place.move late

theorem On.ofTokens (tokens : List Token) : (Cursor.ofTokens tokens).On (.ofTokens tokens) where
  reached := ⟨0, rfl⟩
  kept := nofun

/-- No operation leads off the tape. -/
theorem On.leads {whole : Tape} {start stop : Cursor} (on : start.On whole)
    (leads : start.Leads stop) : stop.On whole := by
  obtain ⟨count, reached⟩ := on.reached
  cases leads with
  | forward moves keeps =>
    obtain ⟨further, moved⟩ := moves
    refine ⟨⟨count + further, ?_⟩, fun place held => ?_⟩
    · rw [moved, reached, Tape.move_move]
    · rcases keeps with same | gone
      · obtain ⟨early, late, placed, behind⟩ := on.kept place (same ▸ held)
        refine ⟨early, late + further, placed, ?_⟩
        rw [moved, behind, Tape.move_move]
      · rw [gone] at held
        cases held
  | marked is =>
    subst is
    refine ⟨⟨count, reached⟩, fun place held => ?_⟩
    cases held
    exact ⟨count, 0, reached, rfl⟩
  | restored kept free =>
    obtain ⟨early, late, placed, -⟩ := on.kept _ kept
    refine ⟨⟨early, placed⟩, fun place held => ?_⟩
    rw [free] at held
    cases held

end Cursor

namespace Parser

open Token (Kind)

/-- A call of an operation, with what is handed over. -/
inductive Call where
  | advance
  | advanceIf (kinds : List Kind)
  | expect (kind : Kind) (context : String)
  | eatBlankLines
  | checkpoint
  | restore
  | commit
  | synchronize
  | recover (error : Error) (inBlock : Bool)
  | typeExpr (context : String)
  | specifiers (context : String)
  | expr
  | assignment
  | statement
  | declaration
  | blockBody
  | statementList (inBlock : Bool)
  | statementEnd

/-- A parser between two calls, with the errors recorded so far. -/
structure Session where
  cursor : Cursor
  errors : List Error

namespace Session

def ofTokens (tokens : List Token) : Session := ⟨.ofTokens tokens, []⟩

/-- The session behind an operation, which may have failed. -/
def after {α : Type} (session : Session) (operation : Parser α) : Session :=
  let done := operation.run session.cursor
  ⟨done.state, session.errors ++ done.trace.filterMap Event.recorded?⟩

def perform (session : Session) : Call → Session
  | .advance => session.after Parser.advance
  | .advanceIf kinds => session.after (Parser.advanceIf kinds)
  | .expect kind context => session.after (Parser.expect kind context)
  | .eatBlankLines => session.after Parser.eatBlankLines
  | .checkpoint => session.after Parser.checkpoint
  | .restore => session.after Parser.restore
  | .commit => session.after Parser.commit
  | .synchronize => session.after Parser.synchronize
  | .recover error inBlock => session.after (Parser.recover error inBlock)
  | .typeExpr context => session.after (Parser.typeExpr context)
  | .specifiers context => session.after (Parser.specifiers context)
  | .expr => session.after Parser.expr
  | .assignment => session.after Parser.assignment
  | .statement => session.after Parser.statement
  | .declaration => session.after Parser.declaration
  | .blockBody => session.after Parser.blockBody
  | .statementList inBlock => session.after (Parser.statementList inBlock)
  | .statementEnd => session.after Parser.statementEnd

def performAll (session : Session) (calls : List Call) : Session := calls.foldl perform session

variable {session : Session}

/-- Steady operations lead forward. -/
theorem leads_after {α : Type} {operation : Parser α} (steady : Steady operation) :
    session.cursor.Leads (session.after operation).cursor :=
  .forward (steady session.cursor).forward (steady session.cursor).kept

theorem leads_checkpoint : session.cursor.Leads (session.after Parser.checkpoint).cursor := by
  cases kept : session.cursor.mark with
  | none => exact .marked (congrArg Run.state (run_checkpoint kept))
  | some place =>
    have stays : (session.after Parser.checkpoint).cursor = session.cursor :=
      congrArg Run.state (run_checkpoint_kept kept)
    rw [stays]
    exact .stays

theorem leads_restore : session.cursor.Leads (session.after Parser.restore).cursor := by
  cases kept : session.cursor.mark with
  | none =>
    have stays : (session.after Parser.restore).cursor = session.cursor :=
      congrArg Run.state (run_restore_free kept)
    rw [stays]
    exact .stays
  | some place =>
    have back : (session.after Parser.restore).cursor = ⟨place, none⟩ :=
      congrArg Run.state (run_restore kept)
    rw [back]
    exact .restored kept rfl

theorem leads_recover (error : Error) (inBlock : Bool) :
    session.cursor.Leads (session.after (Parser.recover error inBlock)).cursor := by
  have recovered : (session.after (Parser.recover error inBlock)).cursor =
      ⟨session.cursor.tape.recovered inBlock, none⟩ :=
    congrArg Run.state (run_recover error inBlock session.cursor)
  rw [recovered]
  exact .forward (session.cursor.tape.recovered_eq_move inBlock) (.inr rfl)

/-- What a call can do. -/
theorem leads_perform (session : Session) (call : Call) :
    session.cursor.Leads (session.perform call).cursor := by
  have inner (bound : Nat) := robust_steady.ofNested bound
  have sized {α : Type} {phrase : Nat → Parser α} (each : ∀ bound, Steady (phrase bound)) :
      Steady (left >>= phrase) := closed_steady.bind (closed_steady.gets _) each
  cases call with
  | advance => exact leads_after closed_steady.advance
  | advanceIf kinds => exact leads_after (closed_steady.advanceIf kinds)
  | expect kind context => exact leads_after (closed_steady.expect kind context)
  | eatBlankLines => exact leads_after robust_steady.eatBlankLines
  | checkpoint => exact leads_checkpoint
  | restore => exact leads_restore
  | commit => exact leads_after robust_steady.commit
  | synchronize => exact .forward ⟨_, Tape.move_move ..⟩ (.inl rfl)
  | recover error inBlock => exact leads_recover error inBlock
  | typeExpr context => exact leads_after (closed_steady.typeExpr context)
  | specifiers context => exact leads_after (closed_steady.specifiers context)
  | expr => exact leads_after (sized fun bound => closed_steady.expression (inner bound))
  | assignment =>
    exact leads_after (sized fun bound => closed_steady.assignmentOrExpression (inner bound))
  | statement =>
    exact leads_after (sized fun bound => closed_steady.blockOrExpression (inner bound))
  | declaration =>
    exact leads_after (sized fun bound => robust_steady.declarationOrStatement (inner bound))
  | blockBody => exact leads_after (sized fun bound => robust_steady.body (inner bound))
  | statementList inBlock => exact leads_after (robust_steady.statementList inBlock)
  | statementEnd => exact leads_after closed_steady.statementEnd

/-- Calls stay on a tape. -/
theorem on_performAll {whole : Tape} (on : session.cursor.On whole) (calls : List Call) :
    (session.performAll calls).cursor.On whole := by
  induction calls generalizing session with
  | nil => exact on
  | cons call calls ih => exact ih (on.leads (leads_perform session call))

/-- A call forgets no error. -/
theorem errors_perform (session : Session) (call : Call) :
    session.errors <+: (session.perform call).errors := by
  cases call <;> exact List.prefix_append ..

theorem errors_performAll (session : Session) (calls : List Call) :
    session.errors <+: (session.performAll calls).errors := by
  induction calls generalizing session with
  | nil => exact List.prefix_rfl
  | cons call calls ih => exact (errors_perform session call).trans (ih (session.perform call))

end Session

/-- Tokens behind an end of file change nothing. -/
theorem parse_behind {eof : Token} (ends : eof.kind = .endOfFile) (before behind : List Token) :
    parse (before ++ eof :: behind) = parse (before ++ [eof]) := by
  have ahead : (Cursor.ofTokens (before ++ eof :: behind)).tape.ahead =
      (before ++ [eof]).takeWhile Tape.isOpen := by
    rw [Tape.takeWhile_behind ends]
    exact Tape.takeWhile_behind ends before behind
  have finish (_ : before ++ [eof] ≠ []) :
      (Cursor.ofTokens (before ++ eof :: behind)).tape.finish = Tape.finishOf (before ++ [eof]) :=
    Tape.finishOf_behind ends before behind
  obtain ⟨stop, trace, ran, errors⟩ := statements_behind ahead finish rfl (Nat.le_refl _)
    (Nat.le_refl _)
  rw [parse_eq_of_run rfl ran, errors]

/-- Whatever is called, and in whatever order, a parser stays on its tokens and passes no end of
file, no kept place is behind it, and it forgets no error. Tokens behind an end of file change
nothing. -/
theorem session_stays_in_bounds (tokens : List Token) (calls more : List Call)
    (before behind : List Token) {eof : Token} (ends : eof.kind = .endOfFile) :
    let session := (Session.ofTokens tokens).performAll calls
    session.cursor.tape.tokens = Tape.terminated tokens ∧
      (Tape.terminated tokens)[session.cursor.tape.index]? = some session.cursor.tape.current ∧
      session.cursor.tape.index ≤
        ((Tape.terminated tokens).findIdx fun token => token.kind == .endOfFile) ∧
      (∀ place, session.cursor.mark = some place →
        place.tokens = Tape.terminated tokens ∧ place.index ≤ session.cursor.tape.index) ∧
      session.errors <+: (session.performAll more).errors ∧
      parse (before ++ eof :: behind) = parse (before ++ [eof]) := by
  intro session
  have on : session.cursor.On (.ofTokens tokens) := Session.on_performAll (.ofTokens tokens) calls
  have whole : session.cursor.tape.tokens = Tape.terminated tokens := by
    obtain ⟨count, reached⟩ := on.reached
    rw [reached, Tape.tokens_move, Tape.tokens_ofTokens]
  refine ⟨whole, ?_, ?_, ?_, Session.errors_performAll session more, parse_behind ends ..⟩
  · rw [← whole]
    exact session.cursor.tape.tokens_index
  · obtain ⟨count, reached⟩ := on.reached
    rw [reached, Tape.index_move, Tape.findIdx_terminated]
    have start : (Tape.ofTokens tokens).index = 0 := rfl
    omega
  · intro place kept
    obtain ⟨early, late, placed, behind⟩ := on.kept place kept
    refine ⟨?_, ?_⟩
    · rw [placed, Tape.tokens_move, Tape.tokens_ofTokens]
    · rw [behind]
      exact place.index_le_move late

def earlyEnd : Token := .endOfFile ⟨1, 5⟩

theorem session_stays_in_bounds_early :
    earlyEnd.kind = .endOfFile ∧
      ((Session.ofTokens (soundLine ++ earlyEnd :: brokenLine)).performAll
        [.advance, .checkpoint, .declaration, .restore, .expr]).cursor.tape.index ≤ 3 ∧
      parse (soundLine ++ earlyEnd :: brokenLine) = parse (soundLine ++ [earlyEnd]) := by
  have ends : earlyEnd.kind = .endOfFile := rfl
  obtain ⟨-, -, within, -, -, same⟩ := session_stays_in_bounds
    (soundLine ++ earlyEnd :: brokenLine) [.advance, .checkpoint, .declaration, .restore, .expr]
    [.synchronize] soundLine brokenLine ends
  exact ⟨ends, within, same⟩

end Parser
end Script
