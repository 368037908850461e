import Script.Proofs.Parsing.Closed
import Script.Proofs.Parsing.Steps

set_option autoImplicit false

/- What every parser does to its cursor and where its errors are. A run only moves forward, gives
up the kept place or leaves it, and reports every error at a token it could have reached. Reading
statements never fails: it records its errors. -/
namespace Script.Parser

/-- The error that a run fails with, or one that it records. -/
def Reports {α : Type} (done : Run Cursor Event Error α) (error : Error) : Prop :=
  done.outcome = .error error ∨ .recovered error ∈ done.trace

/-- A run from a tape that moves forward and reports errors at tokens of the tape. -/
structure Steadily {α : Type} (start : Cursor) (done : Run Cursor Event Error α) : Prop where
  forward : ∃ count, done.state.tape = start.tape.move count
  kept : done.state.mark = start.mark ∨ done.state.mark = none
  placed : ∀ error, Reports done error →
    ∃ count, error.position = (start.tape.move count).current.position

def Steady {α : Type} (parser : Parser α) : Prop := ∀ start, Steadily start (parser.run start)

namespace Steadily

variable {α β : Type} {start : Cursor}

/-- A run without errors that moves forward. -/
theorem of_ok {value : α} {stop : Cursor} {trace : List Event}
    (forward : ∃ count, stop.tape = start.tape.move count)
    (kept : stop.mark = start.mark ∨ stop.mark = none)
    (quiet : ∀ error, .recovered error ∉ trace) :
    Steadily start (⟨.ok value, stop, trace⟩ : Run Cursor Event Error α) := by
  refine ⟨forward, kept, ?_⟩
  rintro error (failed | recorded)
  · cases failed
  · exact absurd recorded (quiet error)

/-- A run that fails at the current token. -/
theorem of_error {cause : Error.Cause} :
    Steadily start
      (⟨.error (start.errorOf cause), start, []⟩ : Run Cursor Event Error α) := by
  refine ⟨⟨0, rfl⟩, .inl rfl, ?_⟩
  rintro error (failed | recorded)
  · cases failed
    exact ⟨0, rfl⟩
  · cases recorded

theorem placed_from {count : Nat} {error : Error} {tape : Tape}
    (forward : tape = start.tape.move count)
    (placed : ∃ more, error.position = (tape.move more).current.position) :
    ∃ count, error.position = (start.tape.move count).current.position := by
  obtain ⟨more, placed⟩ := placed
  rw [forward, Tape.move_move] at placed
  exact ⟨_, placed⟩

/-- A second run goes on from where a first one came to; the first one may have failed. -/
theorem andThen {first : Run Cursor Event Error α} {second : Run Cursor Event Error β}
    (before : Steadily start first) (behind : Steadily first.state second) :
    Steadily start (second.behind first.trace) := by
  obtain ⟨moved, forward⟩ := before.forward
  obtain ⟨further, forward'⟩ := behind.forward
  refine ⟨⟨moved + further, ?_⟩, ?_, ?_⟩
  · rw [← Tape.move_move, ← forward]
    exact forward'
  · rcases behind.kept with same | gone
    · exact before.kept.imp same.trans same.trans
    · exact .inr gone
  · rintro error (failed | recorded)
    · exact placed_from forward (behind.placed error (.inl failed))
    · rcases List.mem_append.mp recorded with early | late
      · exact before.placed error (.inr early)
      · exact placed_from forward (behind.placed error (.inr late))

end Steadily

/-- Giving up the kept place moves nothing. -/
theorem run_commit (start : Cursor) :
    ∃ trace, commit.run start = ⟨.ok (), { start with mark := none }, trace⟩ ∧
      ∀ error, .recovered error ∉ trace := by
  unfold commit
  rw [Traced.run_bind_ok (Traced.run_get start), Run.behind_nil]
  obtain ⟨tape, mark⟩ := start
  cases mark with
  | none => exact ⟨[], rfl, by simp⟩
  | some kept => exact ⟨[.committed tape.index], rfl, by simp⟩

theorem Steady.bind {α β : Type} {first : Parser α} {next : α → Parser β}
    (before : Steady first) (behind : ∀ value, Steady (next value)) : Steady (first >>= next) := by
  intro start
  have steady := before start
  cases ran : first.run start with
  | mk outcome stop trace =>
    rw [ran] at steady
    cases outcome with
    | error error =>
      rw [Traced.run_bind_error ran]
      exact ⟨steady.forward, steady.kept, fun error' reported =>
        steady.placed error' (reported.imp_left fun failed => by cases failed; rfl)⟩
    | ok value =>
      rw [Traced.run_bind_ok ran]
      exact steady.andThen (behind value stop)

theorem closed_steady : Closed Steady where
  pure _ _ := .of_ok ⟨0, rfl⟩ (.inl rfl) (by simp)
  bind := .bind
  gets _ _ := .of_ok ⟨0, rfl⟩ (.inl rfl) (by simp)
  failWith _ _ := .of_error
  failOf _ _ := .of_error
  move _ := .of_ok ⟨1, rfl⟩ (.inl rfl) (by simp)

/-- Where no place is kept, a steady parser keeps none. -/
theorem Steady.mark_none {α : Type} {parser : Parser α} (steady : Steady parser) {start : Cursor}
    {done : Run Cursor Event Error α} (ran : parser.run start = done) (free : start.mark = none) :
    done.state.mark = none := by
  subst ran
  rcases (steady start).kept with same | gone
  · exact same.trans free
  · exact gone

/-- Where no place is kept, the cursor passes tokens, whatever the outcome. -/
theorem Steady.passes {α : Type} {parser : Parser α} (steady : Steady parser) {skips : Prop}
    {start stop : Cursor} {outcome : Except Error α} (free : start.mark = none)
    (ends : Ends skips parser start outcome stop) : ∃ tokens, start.Passes tokens stop := by
  obtain ⟨trace, ran, -⟩ := ends
  obtain ⟨count, forward⟩ := (steady start).forward
  have lost := steady.mark_none ran free
  rw [ran] at forward
  have reached : stop = ⟨start.tape.move count, start.mark⟩ := by rw [← forward, free, ← lost]
  exact ⟨_, reached ▸ start.passes_move count⟩

/-- A declaration is read only behind the point where the kept place is given up. -/
theorem namedDeclaration_gives_up {nested : Nested} (inner : Closed.OfNested Steady nested)
    {start stop : Cursor} {stmt : Stmt} {trace : List Event}
    (ran : (namedDeclaration nested).run start = ⟨.ok stmt, stop, trace⟩) : stop.mark = none := by
  unfold namedDeclaration at ran
  obtain ⟨name, c₁, _, _, -, ran, -⟩ := Traced.run_bind_eq_ok.mp ran
  obtain ⟨found, c₂, _, _, -, ran, -⟩ := Traced.run_bind_eq_ok.mp ran
  obtain ⟨defined, c₃, _, _, -, ran, -⟩ := Traced.run_bind_eq_ok.mp ran
  cases defined with
  | true =>
    obtain ⟨_, c₄, _, _, committed, ran, -⟩ := Traced.run_bind_eq_ok.mp ran
    obtain ⟨_, gone, -⟩ := run_commit c₃
    rw [committed] at gone
    cases gone
    exact (closed_steady.variableDecl inner name found false).mark_none ran rfl
  | false =>
    obtain ⟨called, c₄, _, _, -, ran, -⟩ := Traced.run_bind_eq_ok.mp ran
    cases called with
    | false => cases ran
    | true =>
      simp only [↓reduceIte, functionDecl] at ran
      obtain ⟨_, c₅, _, _, -, ran, -⟩ := Traced.run_bind_eq_ok.mp ran
      obtain ⟨_, c₆, _, _, -, ran, -⟩ := Traced.run_bind_eq_ok.mp ran
      obtain ⟨_, c₇, _, _, -, ran, -⟩ := Traced.run_bind_eq_ok.mp ran
      obtain ⟨_, c₈, _, _, committed, ran, -⟩ := Traced.run_bind_eq_ok.mp ran
      obtain ⟨_, gone, -⟩ := run_commit c₇
      rw [committed] at gone
      cases gone
      refine Steady.mark_none ?_ ran rfl
      refine closed_steady.bind (closed_steady.typeExpr _) fun _ => ?_
      exact closed_steady.bind (closed_steady.functionBody inner) fun _ => closed_steady.pure _

theorem Steady.speculate {nested : Nested} (inner : Closed.OfNested Steady nested)
    (first : Steady (namedDeclaration nested)) (second : Steady (blockOrExpression nested)) :
    Steady (speculate (namedDeclaration nested) (blockOrExpression nested)) := by
  intro start
  cases free : start.mark with
  | some tape =>
    rw [run_speculate_kept free]
    refine ⟨⟨0, rfl⟩, .inl rfl, ?_⟩
    rintro error (failed | recorded)
    · cases failed
      exact ⟨0, rfl⟩
    · cases recorded
  | none =>
    have steady := first { start with mark := some start.tape }
    cases ran : (namedDeclaration nested).run { start with mark := some start.tape } with
    | mk outcome stop trace =>
      rw [ran] at steady
      have forward := steady.forward
      have early (error : Error) (recorded : .recovered error ∈ trace) :=
        steady.placed error (.inr recorded)
      cases outcome with
      | ok stmt =>
        rw [run_speculate_ok free ran]
        refine ⟨forward, .inr (namedDeclaration_gives_up inner ran), ?_⟩
        rintro error (failed | recorded)
        · cases failed
        · exact early error (by simpa using recorded)
      | error error =>
        cases kept : stop.mark with
        | none =>
          rw [run_speculate_error free ran kept]
          refine ⟨forward, .inr kept, ?_⟩
          rintro error (failed | recorded)
          · exact steady.placed error (.inl failed)
          · exact early error (by simpa using recorded)
        | some tape =>
          rw [run_speculate_restored free ran kept]
          have back : tape = start.tape := by simpa [kept] using steady.kept
          subst back
          have again := second ⟨start.tape, none⟩
          refine ⟨again.forward, again.kept.imp_left (·.trans free.symm), ?_⟩
          rintro error (failed | recorded)
          · exact again.placed error (.inl failed)
          · simp only [Run.behind, List.mem_cons, List.mem_append, reduceCtorEq, List.not_mem_nil,
              or_self, or_false, false_or] at recorded
            rcases recorded with recorded | recorded
            · exact early error recorded
            · exact again.placed error (.inr recorded)

theorem Steady.recovering {α β : Type} (inBlock : Bool) {phrase : Parser α} {next : α → Parser β}
    {behind : Parser β} (first : Steady phrase) (second : ∀ value, Steady (next value))
    (other : Steady behind) : Steady (recovering inBlock phrase next behind) := by
  intro start
  have steady := first start
  cases ran : phrase.run start with
  | mk outcome stop trace =>
    rw [ran] at steady
    cases outcome with
    | ok value =>
      rw [run_recovering_ok ran]
      exact steady.andThen (second value stop)
    | error error =>
      rw [run_recovering_error ran]
      obtain ⟨moved, forward⟩ := steady.forward
      obtain ⟨further, forward'⟩ := stop.tape.recovered_eq_move inBlock
      let settled : Run Cursor Event Error Unit :=
        ⟨.ok (), ⟨stop.tape.recovered inBlock, none⟩, trace ++ [.recovered error]⟩
      have settles : Steadily start settled := by
        refine ⟨⟨moved + further, ?_⟩, .inr rfl, ?_⟩
        · rw [← Tape.move_move, ← forward]
          exact forward'
        · rintro error' (failed | recorded)
          · cases failed
          · rcases List.mem_append.mp recorded with early | late
            · exact steady.placed error' (.inr early)
            · cases List.mem_singleton.mp late
              exact steady.placed error (.inl rfl)
      exact settles.andThen (other _)

/-- All rules of the grammar are steady. -/
theorem robust_steady : Robust Steady where
  toClosed := closed_steady
  commit start := by
    obtain ⟨trace, ran, quiet⟩ := run_commit start
    rw [ran]
    exact .of_ok ⟨0, rfl⟩ (.inr rfl) quiet
  eatBlankLines start := by
    rw [run_eatBlankLines]
    exact .of_ok ⟨_, rfl⟩ (.inl rfl) (by simp)
  parsedStatement _ := .of_ok ⟨0, rfl⟩ (.inl rfl) (by simp)
  speculate := .speculate
  recovering := .recovering

def Total {α : Type} (parser : Parser α) : Prop :=
  ∀ start, ∃ value stop trace, parser.run start = ⟨.ok value, stop, trace⟩

namespace Total

variable {α β : Type}

theorem bind {first : Parser α} {next : α → Parser β} (before : Total first)
    (behind : ∀ value, Total (next value)) : Total (first >>= next) := by
  intro start
  obtain ⟨value, middle, early, ran⟩ := before start
  obtain ⟨result, stop, late, ran'⟩ := behind value middle
  exact ⟨result, stop, early ++ late, by rw [Traced.run_bind_ok ran, ran', Run.behind_mk]⟩

/-- Whatever a phrase does, recovery leads on. -/
theorem recovering {inBlock : Bool} {phrase : Parser α} {next : α → Parser β} {behind : Parser β}
    (first : ∀ value, Total (next value)) (second : Total behind) :
    Total (recovering inBlock phrase next behind) := by
  intro start
  cases ran : phrase.run start with
  | mk outcome middle trace =>
    cases outcome with
    | ok value =>
      obtain ⟨result, stop, late, ran'⟩ := first value middle
      exact ⟨result, stop, trace ++ late, by rw [run_recovering_ok ran, ran', Run.behind_mk]⟩
    | error error =>
      obtain ⟨result, stop, late, ran'⟩ := second ⟨middle.tape.recovered inBlock, none⟩
      exact ⟨result, stop, _, by rw [run_recovering_error ran, ran', Run.behind_mk]⟩

theorem statementsWithin (nested : Nested) (inBlock : Bool) (bound : Nat) :
    Total (statementsWithin nested inBlock bound) := by
  induction bound with
  | zero => exact fun start => ⟨[], start, [], rfl⟩
  | succ bound ih =>
    have going (stmt : Stmt) : Total (do
        return stmt :: (← Parser.statementsWithin nested inBlock bound)) :=
      bind ih fun rest start => ⟨_, start, [], rfl⟩
    have none : Total (pure [] : Parser (List Stmt)) := fun start => ⟨[], start, [], rfl⟩
    rw [statementsWithin_succ]
    refine bind (fun start => ⟨_, _, _, rfl⟩) fun ended => Closed.ite ended none ?_
    refine bind (fun start => ⟨_, _, _, rfl⟩) fun closing => Closed.ite _ none ?_
    refine recovering (fun stmt => ?_) ih
    refine bind (fun start => ⟨_, _, _, rfl⟩) fun _ => ?_
    exact recovering (fun _ => going stmt) (going stmt)

theorem statementList (inBlock : Bool) : Total (statementList inBlock) := by
  refine bind (fun start => ⟨_, _, _, rfl⟩) fun levels => ?_
  refine bind (fun start => ⟨_, _, _, rfl⟩) fun bound => ?_
  exact statementsWithin (nested levels) inBlock bound

end Total

/-- What parsing gives is what one run gives. -/
theorem run_parse (tokens : List Token) :
    ∃ stop trace, (statementList false).run (.ofTokens tokens) =
        ⟨.ok (parse tokens).statements, stop, trace⟩ ∧
      (parse tokens).errors = trace.filterMap Event.recorded? := by
  obtain ⟨stmts, stop, trace, ran⟩ := Total.statementList false (.ofTokens tokens)
  refine ⟨stop, trace, ?_, ?_⟩
  · simp [parse, traceParse, ran, Except.toOption]
  · simp [parse, traceParse, ran]

end Script.Parser
