import Mathlib.Data.List.TakeWhile
import Script.Proofs.Parsing.Rounds

set_option autoImplicit false

/- Recovery from errors stays within a line. What a line gives, statements and errors, it gives
whatever stands on the lines behind it, and those give what they would give alone. -/
namespace Script.Parser

open Token (Kind)

/-- What parsing gives is what reading statements gives. -/
theorem parse_eq_of_run {tokens : List Token} {stmts : List Stmt} {stop : Cursor}
    {trace : List Event} {count : Nat} (counted : (Tape.ofTokens tokens).ahead.length = count)
    (ran : (statementsWithin (nested count) false count).run (.ofTokens tokens) =
      ⟨.ok stmts, stop, trace⟩) :
    parse tokens = ⟨stmts, trace.filterMap Event.recorded?⟩ := by
  have whole : (statementList false).run (.ofTokens tokens) = ⟨.ok stmts, stop, trace⟩ := by
    have count_eq : (Cursor.ofTokens tokens).tape.ahead.length = count := counted
    rw [statementList, run_left_bind, statements, run_left_bind, count_eq, ran]
  simp [parse, traceParse, whole, Except.toOption]

/-- The place of a line break behind a line: there the line alone ends, and with more lines behind
it comes to the break. -/
def lineSeam (line : List Token) {newline : Token} (rest : List Token)
    (breaks : newline.kind = .newline) : Seam where
  eof := Tape.finishOf line
  extra := newline :: rest.takeWhile Tape.isOpen
  finish := Tape.finishOf (line ++ newline :: rest)
  eof_kind := Tape.finishOf_kind line
  stop_kind := by
    rw [List.headD_cons, breaks]
    decide
  finish_eq := nofun

/-- The end of tokens: two tapes that end with them end together. -/
def endSeam (tokens : List Token) : Seam where
  eof := Tape.finishOf tokens
  extra := []
  finish := Tape.finishOf tokens
  eof_kind := Tape.finishOf_kind tokens
  stop_kind := by
    rw [List.headD_nil, Tape.finishOf_kind]
    decide
  finish_eq _ := rfl

section Lines

variable {line rest : List Token} {newline : Token}
  (opened : ∀ token ∈ line, token.kind ≠ .endOfFile) (breaks : newline.kind = .newline)
include opened

theorem takeWhile_isOpen : line.takeWhile Tape.isOpen = line := by
  rw [List.takeWhile_eq_self_iff]
  intro token member
  simpa [Tape.isOpen] using opened token member

/-- A line without an end of file gets one where its last token stands. -/
theorem finishOf_line : Tape.finishOf line = .endOfFile (Tape.lastPosition line) := by
  have none : line.find? (fun token => token.kind == .endOfFile) = none := by
    simpa using opened
  rw [Tape.finishOf, none, Option.getD_none]

include breaks

/-- Lines end where the last of them ends. -/
theorem finishOf_append (more : rest ≠ []) :
    Tape.finishOf (line ++ newline :: rest) = Tape.finishOf rest := by
  have none : line.find? (fun token => token.kind == .endOfFile) = none := by
    simpa using opened
  have last : Tape.lastPosition (line ++ newline :: rest) = Tape.lastPosition rest := by
    cases rest with
    | nil => exact absurd rfl more
    | cons head tail => simp [Tape.lastPosition, List.getLast?_append, List.getLast?_cons]
  rw [Tape.finishOf, Tape.finishOf, last, List.find?_append, none, Option.none_or,
    List.find?_cons_of_neg (by simp [breaks])]

theorem joined_line (flat : ∀ token ∈ line, token.kind ≠ .symbol .openCurly) :
    Joined (lineSeam line rest breaks) (.ofTokens line) (.ofTokens (line ++ newline :: rest)) where
  ahead := by
    have breaks' : Tape.isOpen newline = true := by simp [Tape.isOpen, breaks]
    have opened' : ∀ token ∈ line, Tape.isOpen token = true := by
      simpa [Tape.isOpen] using opened
    simp only [Tape.ofTokens, lineSeam]
    rw [List.takeWhile_append_of_pos opened', List.takeWhile_cons_of_pos breaks',
      takeWhile_isOpen opened]
  eof := rfl
  finish := rfl
  flat := .inr fun token member => flat token (List.takeWhile_subset _ member)

omit opened breaks in
/-- Lines are read behind others as they are read alone. -/
theorem statements_behind {second : Cursor} {level bound : Nat}
    (ahead : second.tape.ahead = rest.takeWhile Tape.isOpen)
    (finish : rest ≠ [] → second.tape.finish = Tape.finishOf rest) (free : second.mark = none)
    (enough : second.tape.ahead.length ≤ level) (enough' : second.tape.ahead.length ≤ bound) :
    ∃ stop trace, (statementsWithin (nested level) false bound).run second =
        ⟨.ok (parse rest).statements, stop, trace⟩ ∧
      trace.filterMap Event.recorded? = (parse rest).errors := by
  have same : (Tape.ofTokens rest).ahead = second.tape.ahead := ahead.symm
  by_cases empty : second.tape.ahead = []
  · have ended : (Cursor.ofTokens rest).tape.ahead = [] := same.trans empty
    rw [parse_eq_of_run (List.length_eq_zero_iff.mpr ended) (run_statementsWithin_end ended),
      run_statementsWithin_end empty]
    exact ⟨second, [], rfl, rfl⟩
  · have more : rest ≠ [] := by
      rintro rfl
      exact empty ahead
    have near : Near (endSeam rest) none false second.tape.ahead.length (.ofTokens rest) second :=
      ⟨⟨by rw [← same]; exact (List.append_nil _).symm, rfl, finish more, .inl rfl⟩, rfl, free,
        nofun, Nat.le_of_eq (by rw [← same]; rfl)⟩
    have inner : PairedNested (endSeam rest) second.tape.ahead.length
        (nested second.tape.ahead.length) (nested level) := nested_paired (Nat.le_refl _) enough
    have whole (broken : (endSeam rest).extra ≠ []) :
        false = false ∧ (endSeam rest).stop.kind = .newline := absurd rfl broken
    have together := Together.of_statementsWithin inner whole near (Nat.le_succ _) (Nat.le_refl _)
      enough'
    generalize alone : (statementsWithin (nested second.tape.ahead.length) false
      second.tape.ahead.length).run (.ofTokens rest) = done at together
    generalize (statementsWithin (nested level) false bound).run second = done' at together
    cases together with
    | crossed broken => exact absurd rfl broken
    | joined stays joined free free' traces =>
      rw [parse_eq_of_run (by rw [same]) alone]
      exact ⟨_, _, rfl, traces.symm⟩

include opened breaks

/-- A line gives the same statements and the same errors, each of the same kind, whatever stands on
the lines behind it, and those give what they give alone. Only an error at the end of the line tells
the difference: it is the last one of the line, and it names the line break instead of the end of
file. -/
theorem parse_stays_within_line (flat : ∀ token ∈ line, token.kind ≠ .symbol .openCurly) :
    (parse (line ++ newline :: rest)).statements =
        (parse line).statements ++ (parse rest).statements ∧
      ∃ errors, (parse (line ++ newline :: rest)).errors = errors ++ (parse rest).errors ∧
        errors.map (fun error => error.cause.name) =
          (parse line).errors.map (fun error => error.cause.name) ∧
        (errors = (parse line).errors ∨ ∃ before error error',
          (parse line).errors = before ++ [error] ∧ errors = before ++ [error'] ∧
            Displaced (.endOfFile (Tape.lastPosition line)) newline error error') := by
  have joined : Joined (lineSeam line rest breaks) _ _ := joined_line opened breaks flat
  have ahead : (Tape.ofTokens line).ahead = line := takeWhile_isOpen opened
  generalize lengths : (Tape.ofTokens (line ++ newline :: rest)).ahead.length = whole
  have room : line.length + (lineSeam line rest breaks).extra.length = whole := by
    rw [← lengths, joined.ahead, ahead, List.length_append]
  have near : Near (lineSeam line rest breaks) none false line.length (.ofTokens line)
      (.ofTokens (line ++ newline :: rest)) :=
    ⟨joined, rfl, rfl, nofun, Nat.le_of_eq (congrArg List.length ahead)⟩
  have inner : PairedNested (lineSeam line rest breaks) line.length (nested line.length)
      (nested whole) := nested_paired (Nat.le_refl _) (by omega)
  have together := Together.of_statementsWithin inner (fun _ => ⟨rfl, breaks⟩) near (Nat.le_succ _)
    (Nat.le_refl _) (Nat.le_of_eq room)
  generalize alone : (statementsWithin (nested line.length) false line.length).run
    (.ofTokens line) = done at together
  generalize both : (statementsWithin (nested whole) false whole).run
    (.ofTokens (line ++ newline :: rest)) = done' at together
  cases together with
  | joined stays => exact absurd stays (by simp [lineSeam])
  | @crossed stmts _ second trace trace' bound broken ahead' finish free enough ending =>
    have finish' (more : rest ≠ []) : second.tape.finish = Tape.finishOf rest :=
      finish.trans (finishOf_append opened breaks more)
    have fewer : second.tape.ahead.length ≤ bound := by
      rw [ahead']
      exact enough
    have fewer' : second.tape.ahead.length ≤ whole := by
      rw [ahead', List.length_tail]
      omega
    obtain ⟨stop, last, ran, recorded⟩ := statements_behind ahead' finish' free fewer' fewer
    rw [Traced.run_bind_ok ran, Traced.run_pure, Run.behind_mk, Run.behind_mk] at both
    rw [parse_eq_of_run (congrArg List.length ahead) alone, parse_eq_of_run lengths both]
    refine ⟨rfl, trace'.filterMap Event.recorded?, ?_, ?_⟩
    · rw [List.append_nil, List.filterMap_append, recorded]
    · rcases ending with same | ⟨before, error, error', early, late, displaced⟩
      · exact ⟨congrArg (List.map _) same.symm, .inl same.symm⟩
      · have ended : (lineSeam line rest breaks).eof = .endOfFile (Tape.lastPosition line) :=
          finishOf_line opened
        have names := displaced.name_eq
        rw [ended] at displaced
        refine ⟨?_, .inr ⟨before, error, error', early, late, displaced⟩⟩
        rw [early, late]
        simp only [List.map_append, List.map_cons, List.map_nil, names]

end Lines

/-- The tokens of `x :=`, a line that breaks off. -/
def brokenLine : List Token :=
  [⟨.identifier, "x", none, ⟨1, 1⟩⟩, ⟨.symbol .inferred, ":=", none, ⟨1, 3⟩⟩]

/-- The tokens of `y := 1`. -/
def soundLine : List Token :=
  [⟨.identifier, "y", none, ⟨2, 1⟩⟩, ⟨.symbol .inferred, ":=", none, ⟨2, 3⟩⟩,
    ⟨.int, "1", some (.number (.int 1)), ⟨2, 6⟩⟩]

theorem parse_stays_within_line_sample :
    (∀ token ∈ brokenLine, token.kind ≠ .endOfFile) ∧
      (∀ token ∈ brokenLine, token.kind ≠ .symbol .openCurly) ∧
      (parse (brokenLine ++ ⟨.newline, "\n", none, ⟨1, 5⟩⟩ :: soundLine)).statements =
        (parse brokenLine).statements ++ (parse soundLine).statements := by
  have opened : ∀ token ∈ brokenLine, token.kind ≠ .endOfFile := by decide
  have flat : ∀ token ∈ brokenLine, token.kind ≠ .symbol .openCurly := by decide
  exact ⟨opened, flat, (parse_stays_within_line opened rfl flat).1⟩

end Script.Parser
