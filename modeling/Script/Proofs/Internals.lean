import Script.Proofs.Grammar.Shape
import Script.Proofs.Grammar.Soundness

set_option autoImplicit false

/- Faults of the program's own parts. Whatever the tokens are, the statements read from them have a
shape in which every operator is known, and such statements run without a fault of that kind, save
that a name can be declared twice. -/
namespace Script

open Error (Cause)

/-- Causes that no statement of the right shape should meet. -/
inductive Error.Cause.Unforeseen : Cause → Prop where
  | operator (operator : String) : Unforeseen (.unknownOperator operator)
  | checkpoint : Unforeseen .nestedCheckpoint

/-- What is left of the faults of the program's own parts. -/
theorem Error.Cause.eq_redeclared {cause : Cause} (foreseen : ¬ cause.Unforeseen)
    (inside : cause.category = .ofInternals) : ∃ name, cause = .variableAlreadyDeclared name := by
  cases cause with
  | variableAlreadyDeclared name => exact ⟨name, rfl⟩
  | unknownOperator operator => exact absurd (.operator operator) foreseen
  | nestedCheckpoint => exact absurd .checkpoint foreseen
  | _ => cases inside

/-- The statements of a parse have the right shape, those between errors too. -/
theorem Parser.parse_statements_regular (tokens : List Token) :
    stmtsRegular (parse tokens).statements :=
  (parse_lenient tokens).regular

/-- The form of a type is told by its first two tokens: an array begins with `[]`, and a map with
`[` and something else. -/
theorem Parser.typeExpr_form {skips : Prop} {context : String} {start stop : Cursor}
    {type : TypeExpr} (read : Ends skips (typeExpr context) start (.ok type) stop) :
    (type.isArray = true ↔ start.tape.current.kind = .symbol .openBracket ∧
        start.tape.advance.current.kind = .symbol .closeBracket) ∧
      (type.isMap = true ↔ start.tape.current.kind = .symbol .openBracket ∧
        start.tape.advance.current.kind ≠ .symbol .closeBracket) := by
  obtain ⟨tokens, passes, phrase⟩ := typeExpr_sound read
  cases phrase with
  | named rest =>
    obtain ⟨name, behind, rfl, named⟩ := rest.begins
    have plain : start.tape.current.kind = .identifier := by
      rw [passes.current]
      exact List.mem_singleton.mp named
    simp [TypeExpr.isArray, TypeExpr.isMap, plain]
  | array opens closes _ =>
    obtain ⟨middle, opening, inside⟩ := passes.cons_split
    have second : start.tape.advance.current.kind = .symbol .closeBracket := by
      rw [← closes, ← inside.current, opening.tape]
      rfl
    simp [TypeExpr.isArray, TypeExpr.isMap, passes.current, opens, second]
  | map opens keyed _ _ =>
    obtain ⟨middle, opening, inside⟩ := passes.cons_split
    obtain ⟨first, behind, rfl, begins⟩ := keyed.begins
    have second : start.tape.advance.current = first := by
      rw [← inside.current, opening.tape]
      rfl
    have other : first.kind ≠ .symbol .closeBracket := by
      rintro is
      simp [is] at begins
    simp [TypeExpr.isArray, TypeExpr.isMap, passes.current, opens, second, other]

section Rules

open Eval

open Error.Cause (Unforeseen)

theorem Eval.foreign_unforeseen : Foreign Unforeseen where
  misapplied := by
    rintro cause (_ | _ | _ | _) <;> nofun
  expectedValue := nofun
  notCallable := nofun
  undefinedFunction := nofun
  notImplemented := nofun
  nativeCall := nofun

/-- No run of an action, from whatever environment, meets an unforeseen cause. -/
abbrev Eval.Foresees {α : Type} (action : Eval α) : Prop := Averts Unforeseen (fun _ => True) action

variable {context : Context}

mutual

theorem Expr.Regular.foresees : ∀ {assigns : Bool} {expr : Expr},
    expr.Regular assigns → Foresees (expr.rule context)
  | _, .conditional condition thenBranch elseBranch, regular => by
    rw [Expr.Regular] at regular
    obtain ⟨tested, first, second⟩ := regular
    rw [Expr.rule]
    apply (tested.foresees.demand foreign_unforeseen condition).bind (.anywhere _)
    intro test
    split
    · exact (executeAll_foresees none first).inNewScope fun _ _ => trivial
    · exact (executeAll_foresees none second).inNewScope fun _ _ => trivial
  | _, .assign target value, regular => by
    rw [Expr.Regular] at regular
    rw [Expr.rule]
    apply (regular.2.foresees.demand foreign_unforeseen value).bind (.anywhere _)
    intro result
    refine (Averts.update _ ?_).bind (.anywhere _) fun _ => .pure _
    rintro before - cause refused
    rcases Environment.assign_error refused with rfl | rfl <;> nofun
  | _, .binary left operator right, regular => by
    rw [Expr.Regular] at regular
    obtain ⟨known, first, second⟩ := regular
    rw [Expr.rule]
    apply (first.foresees.demand foreign_unforeseen left).bind (.anywhere _)
    intro value
    apply (second.foresees.demand foreign_unforeseen right).bind (.anywhere _)
    intro value'
    exact .binary foreign_unforeseen operator value value' fun unknown => absurd known unknown
  | _, .unary operator operand, regular => by
    rw [Expr.Regular] at regular
    rw [Expr.rule]
    apply (regular.2.foresees.demand foreign_unforeseen operand).bind (.anywhere _)
    intro value
    exact .unary foreign_unforeseen operator value fun unknown => absurd regular.1 unknown
  | _, .grouping inner, regular => by
    rw [Expr.Regular] at regular
    rw [Expr.rule]
    exact regular.foresees.withContext _
  | _, .literal value _, _ => by
    rw [Expr.rule]
    exact .pure _
  | _, .name token, _ => by
    rw [Expr.rule]
    exact .nameValue _ _ nofun
  | _, .call callee arguments, regular => by
    rw [Expr.Regular] at regular
    rw [Expr.rule]
    apply (Averts.resolveCallee foreign_unforeseen _ callee).bind (.anywhere _)
    intro signature
    apply (evaluateAll_foresees regular.2.2).bind (.anywhere _)
    intro values
    exact .callNative foreign_unforeseen _ _ _ _
  | _, .member target member, regular => by
    rw [Expr.Regular] at regular
    rw [Expr.rule]
    apply (regular.foresees.demand foreign_unforeseen target).bind (.anywhere _)
    intro value
    exact .member foreign_unforeseen value member

theorem Stmt.Regular.foresees : ∀ {stmt : Stmt}, stmt.Regular → Foresees (stmt.rule context)
  | .functionDecl _ _, _ => by
    rw [Stmt.rule]
    exact .pure _
  | .variableDecl head initializer, regular => by
    rw [Stmt.Regular] at regular
    rw [Stmt.rule]
    apply (regular.2.2.foresees.demand foreign_unforeseen initializer).bind (.anywhere _)
    intro value
    refine (Averts.update _ ?_).bind (.anywhere _) fun _ => .pure _
    rintro before - cause refused
    cases Environment.declare_error refused
    nofun
  | .block body, regular => by
    rw [Stmt.Regular] at regular
    rw [Stmt.rule]
    refine Averts.bind ?_ (.anywhere _) fun _ => .pure _
    exact (executeAll_foresees none regular).inNewScope fun _ _ => trivial
  | .expression expr, regular => by
    rw [Stmt.Regular] at regular
    rw [Stmt.rule]
    exact regular.foresees.withContext _

theorem executeAll_foresees (last : Option Value) : ∀ {stmts : List Stmt},
    stmtsRegular stmts → Foresees (executeAll context last stmts)
  | [], _ => by
    rw [executeAll]
    exact .pure last
  | stmt :: rest, regular => by
    rw [stmtsRegular] at regular
    rw [executeAll]
    apply (regular.1.foresees.withContext _).bind (.anywhere _)
    intro value
    exact executeAll_foresees value regular.2

theorem evaluateAll_foresees : ∀ {exprs : List Expr},
    exprsRegular exprs → Foresees (evaluateAll context exprs)
  | [], _ => by
    rw [evaluateAll]
    exact .pure []
  | expr :: rest, regular => by
    rw [exprsRegular] at regular
    rw [evaluateAll]
    apply (regular.1.foresees.demand foreign_unforeseen expr).bind (.anywhere _)
    intro value
    exact (evaluateAll_foresees regular.2).bind (.anywhere _) fun values => .pure _

end

/-- Statements of the program run one after the other. -/
theorem executeEach_foresees {stmts : List Stmt} (regular : ∀ stmt ∈ stmts, stmt.Regular) :
    Foresees (executeEach context stmts) := by
  induction stmts with
  | nil => exact .pure ()
  | cons stmt rest ih =>
    rw [List.forall_mem_cons] at regular
    rw [executeEach]
    apply (Averts.of_ok fun _ => ⟨(), rfl⟩).bind (.anywhere _)
    intro _
    apply (regular.1.foresees.withContext _).bind (.anywhere _)
    intro _
    exact ih regular.2

/-- All statements of a parse have the right shape. Statements of that shape, run one by one or in
a row, from any environment and against any program and host functions, meet no unknown operator
and no nested checkpoint, and of the faults of the program's own parts only a name that is declared
twice. -/
theorem parse_averts_internals (tokens : List Token) :
    (∀ stmt ∈ (parse tokens).statements, stmt.Regular) ∧
      ∀ (context : Context) (stmts : List Stmt), (∀ stmt ∈ stmts, stmt.Regular) →
        ∀ (before : Environment) (error : Error),
          (((executeEach context stmts).run before).outcome = .error error ∨
            ∃ stmt ∈ stmts, ((stmt.execute context).run before).outcome = .error error) →
          (∀ operator, error.cause ≠ .unknownOperator operator) ∧
            error.cause ≠ .nestedCheckpoint ∧
            (error.cause.category = .ofInternals →
              ∃ name, error.cause = .variableAlreadyDeclared name) := by
  refine ⟨stmtsRegular_iff.mp (Parser.parse_statements_regular tokens), ?_⟩
  intro context stmts regular before error failed
  have foreseen : ¬ error.cause.Unforeseen := by
    rcases failed with failed | ⟨stmt, member, failed⟩
    · exact executeEach_foresees regular before trivial error failed
    · exact (regular stmt member).foresees.withContext _ before trivial error failed
  refine ⟨?_, ?_, Cause.eq_redeclared foreseen⟩
  · exact fun operator is => foreseen (is ▸ .operator operator)
  · exact fun is => foreseen (is ▸ .checkpoint)

/-- The tokens of `x := 1`, a stray bracket, and `x := 2` behind a line break. -/
def redeclaringTokens : List Token :=
  let name : Token := ⟨.identifier, "x", none, ⟨2, 1⟩⟩
  let sign : Token := ⟨.symbol .inferred, ":=", none, ⟨2, 3⟩⟩
  let one : Token := ⟨.int, "1", some (.number (.int 1)), ⟨1, 6⟩⟩
  let two : Token := ⟨.int, "2", some (.number (.int 2)), ⟨2, 6⟩⟩
  [name, sign, one, ⟨.symbol .closeCurly, "\x7d", none, ⟨1, 8⟩⟩, ⟨.newline, "\n", none, ⟨1, 9⟩⟩,
    name, sign, two]

theorem parse_averts_internals_redeclaring :
    ∃ error, ((executeEach ⟨[], .standard⟩ (parse redeclaringTokens).statements).run
        .empty).outcome = .error error ∧ error.cause.category = .ofInternals ∧
      ∃ name, error.cause = .variableAlreadyDeclared name := by
  have failed : ((executeEach ⟨[], .standard⟩ (parse redeclaringTokens).statements).run
      .empty).outcome = .error ⟨.variableAlreadyDeclared "x", ⟨2, 1⟩, some "x := 2"⟩ := by
    decide +kernel
  obtain ⟨regular, foreseen⟩ := parse_averts_internals redeclaringTokens
  exact ⟨_, failed, rfl, (foreseen _ _ regular .empty _ (.inl failed)).2.2 rfl⟩

end Rules
end Script
