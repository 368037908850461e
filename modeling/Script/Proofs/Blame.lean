import Script.Proofs.Causes
import Script.Proofs.Faults
import Script.Proofs.Tree.Leaves
import Script.Proofs.Tree.Parts

set_option autoImplicit false

/- Errors blame the innermost phrase. The failure of a run comes from a phrase inside what is run.
That phrase fails for it by itself, its text is named in the error, and the error stands at the
place of one of its leaves; what is around it changes nothing of that. -/
namespace Script

open Error (Cause)

def Leaf.position : Leaf → Position
  | token kept => kept.position
  | literal _ position => position

namespace Phrase

def leaves : Phrase → List Leaf
  | expr inner => inner.leaves
  | stmt inner => inner.leaves

variable (context : Context)

/-- Run by itself from an environment, a phrase fails with an error. An expression has to have a
value. -/
def FailsWith (start : Environment) (error : Error) : Phrase → Prop
  | expr inner => ((inner.evaluate context).run start).outcome = .error error
  | stmt inner => ((inner.execute context).run start).outcome = .error error

/-- Run by itself from an environment, a phrase fails with an error of the given origin. -/
def FailsFrom (start : Environment) (origin : Origin) : Phrase → Prop
  | expr inner =>
      ((Located.demand inner (inner.locate context)).run start).outcome = .error origin
  | stmt inner => ((inner.locate context).run start).outcome = .error origin

variable {context}

/-- A run without origins fails with what the failure is reported as. -/
theorem FailsFrom.failsWith {phrase : Phrase} {start : Environment} {origin : Origin}
    (failed : phrase.FailsFrom context start origin) :
    phrase.FailsWith context start origin.named := by
  cases phrase with
  | expr inner =>
    have same := Located.forget_demand (inner.forget_locate context)
    change ((Expr.demand inner _).run start).outcome = _
    rw [← same]
    exact congrArg (Except.mapError Origin.named) failed
  | stmt inner =>
    change ((inner.execute context).run start).outcome = _
    rw [Stmt.run_execute]
    exact congrArg (Except.mapError Origin.named) failed

end Phrase

section Leaves

variable {within : Position → Prop}

mutual

/-- The places that a run can name are those of leaves. -/
theorem Expr.placed_of_leaves : ∀ expr : Expr, (∀ leaf ∈ expr.leaves, within leaf.position) →
    expr.Placed within
  | .conditional condition thenBranch elseBranch, all => by
    simp only [Expr.leaves, List.forall_mem_append] at all
    rw [Expr.Placed]
    exact ⟨condition.placed_of_leaves all.1, stmtsPlaced_of_leaves thenBranch all.2.1,
      stmtsPlaced_of_leaves elseBranch all.2.2⟩
  | .assign target value, all => by
    simp only [Expr.leaves, List.forall_mem_cons] at all
    rw [Expr.Placed]
    exact ⟨all.1, value.placed_of_leaves all.2⟩
  | .binary left operator right, all => by
    simp only [Expr.leaves, List.forall_mem_append, List.forall_mem_cons] at all
    rw [Expr.Placed]
    exact ⟨left.placed_of_leaves all.1, all.2.1, right.placed_of_leaves all.2.2⟩
  | .unary operator operand, all => by
    simp only [Expr.leaves, List.forall_mem_cons] at all
    rw [Expr.Placed]
    exact ⟨all.1, operand.placed_of_leaves all.2⟩
  | .grouping inner, all => by
    rw [Expr.leaves] at all
    rw [Expr.Placed]
    exact inner.placed_of_leaves all
  | .literal value position, all => by
    rw [Expr.leaves] at all
    rw [Expr.Placed]
    exact all _ List.mem_cons_self
  | .name token, all => by
    rw [Expr.leaves] at all
    rw [Expr.Placed]
    exact all _ List.mem_cons_self
  | .call callee arguments, all => by
    simp only [Expr.leaves, List.forall_mem_append] at all
    rw [Expr.Placed]
    exact ⟨callee.placed_of_leaves all.1, exprsPlaced_of_leaves arguments all.2⟩
  | .member target member, all => by
    simp only [Expr.leaves, List.forall_mem_append, List.forall_mem_singleton] at all
    rw [Expr.Placed]
    exact ⟨target.placed_of_leaves all.1, all.2⟩

theorem Stmt.placed_of_leaves : ∀ stmt : Stmt, (∀ leaf ∈ stmt.leaves, within leaf.position) →
    stmt.Placed within
  | .functionDecl _ _, _ => by
    rw [Stmt.Placed]
    trivial
  | .variableDecl head initializer, all => by
    simp only [Stmt.leaves, List.forall_mem_append, List.forall_mem_map] at all
    rw [Stmt.Placed]
    exact ⟨all.1 head.name List.mem_cons_self, initializer.placed_of_leaves all.2⟩
  | .block body, all => by
    rw [Stmt.leaves] at all
    rw [Stmt.Placed]
    exact stmtsPlaced_of_leaves body all
  | .expression expr, all => by
    rw [Stmt.leaves] at all
    rw [Stmt.Placed]
    exact expr.placed_of_leaves all

theorem stmtsPlaced_of_leaves : ∀ stmts : List Stmt,
    (∀ leaf ∈ stmtsLeaves stmts, within leaf.position) → stmtsPlaced within stmts
  | [], _ => by
    rw [stmtsPlaced]
    trivial
  | stmt :: rest, all => by
    simp only [stmtsLeaves, List.forall_mem_append] at all
    rw [stmtsPlaced]
    exact ⟨stmt.placed_of_leaves all.1, stmtsPlaced_of_leaves rest all.2⟩

theorem exprsPlaced_of_leaves : ∀ exprs : List Expr,
    (∀ leaf ∈ exprsLeaves exprs, within leaf.position) → exprsPlaced within exprs
  | [], _ => by
    rw [exprsPlaced]
    trivial
  | expr :: rest, all => by
    simp only [exprsLeaves, List.forall_mem_append] at all
    rw [exprsPlaced]
    exact ⟨expr.placed_of_leaves all.1, exprsPlaced_of_leaves rest all.2⟩

end

/-- A phrase that fails does so at the place of one of its leaves. -/
theorem Phrase.FailsWith.placed {context : Context} {phrase : Phrase} {start : Environment}
    {error : Error} (failed : phrase.FailsWith context start error) :
    ∃ leaf ∈ phrase.leaves, leaf.position = error.position := by
  cases phrase with
  | expr inner =>
    have placed : inner.Placed fun place => ∃ leaf ∈ inner.leaves, leaf.position = place :=
      inner.placed_of_leaves fun leaf held => ⟨leaf, held, rfl⟩
    exact ((placed.rule context).demand placed).error start error failed
  | stmt inner =>
    have placed : inner.Placed fun place => ∃ leaf ∈ inner.leaves, leaf.position = place :=
      inner.placed_of_leaves fun leaf held => ⟨leaf, held, rfl⟩
    exact ((placed.rule context).withContext inner.print).error start error failed

end Leaves

/-- An error as a rule raises it: it names no phrase yet, and it is none of the text. -/
structure Error.Raised (error : Error) : Prop where
  nameless : error.context = none
  category : error.cause.category ≠ .ofSyntax

section Raising

open Eval

/-- The steps of rules raise no errors of the text. -/
theorem Eval.foreign_ofSyntax : Foreign fun cause => cause.category = .ofSyntax where
  misapplied := by rintro cause (_ | _ | _ | _) <;> nofun
  expectedValue := nofun
  notCallable := nofun
  undefinedFunction := nofun
  notImplemented := nofun
  nativeCall := nofun

variable {α : Type} {action : Eval α}

theorem Eval.Averts.raised
    (averts : Averts (fun cause => cause.category = .ofSyntax) (fun _ => True) action)
    (nameless : action.Fails fun error => error.context = none) : action.Fails Error.Raised :=
  ⟨fun before error failed =>
    ⟨nameless.error before error failed, averts before trivial error failed⟩⟩

namespace Eval.Raises

theorem assign (target : Token) (value : Value) :
    (Eval.update target.position (Environment.assign target.lexeme value)).Fails Error.Raised := by
  refine Averts.raised (.update _ fun before _ cause refused => ?_) (.update _ fun _ => rfl)
  rcases Environment.assign_error refused with rfl | rfl <;> nofun

theorem declare (head : VariableHead) (value : Value) :
    (Eval.update head.name.position fun environment =>
      environment.declare head.name.lexeme value head.mutable).Fails Error.Raised := by
  refine Averts.raised (.update _ fun before _ cause refused => ?_) (.update _ fun _ => rfl)
  rw [Environment.declare_error refused]
  nofun

theorem binary (operator : Token) (left right : Value) :
    (some <$> Eval.lift operator.position (Operator.binary operator left right)).Fails
      Error.Raised :=
  Averts.raised (.binary foreign_ofSyntax operator left right nofun) (.map _ (.lift _ fun _ => rfl))

theorem unary (operator : Token) (operand : Value) :
    (some <$> Eval.lift operator.position (Operator.unary operator operand)).Fails Error.Raised :=
  Averts.raised (.unary foreign_ofSyntax operator operand nofun) (.map _ (.lift _ fun _ => rfl))

theorem member (target : Value) (member : Token) :
    (some <$> Eval.lift member.position (Operator.member target member.lexeme)).Fails
      Error.Raised :=
  Averts.raised (.member foreign_ofSyntax target member) (.map _ (.lift _ fun _ => rfl))

theorem nameValue (program : List Stmt) (token : Token) :
    (Eval.nameValue program token).Fails Error.Raised :=
  Averts.raised (.nameValue program token nofun) (.nameValue program fun _ => rfl)

theorem resolveCallee (program : List Stmt) (callee : Expr) :
    (Eval.resolveCallee program callee).Fails Error.Raised :=
  Averts.raised (.resolveCallee foreign_ofSyntax program callee)
    (.resolveCallee program fun _ => rfl)

theorem callNative (natives : Registry) (name : String) (arguments : List NativeValue)
    (position : Position) :
    (Eval.callNative natives name arguments position).Fails Error.Raised :=
  Averts.raised (.callNative foreign_ofSyntax natives name arguments position)
    (.callNative natives name arguments fun _ => rfl)

end Eval.Raises

end Raising

namespace Origin

variable {context : Context}

/-- The phrase of a failure is inside what was run, and fails the same way by itself. -/
structure Blamed (context : Context) (whole : Phrase) (origin : Origin) : Prop where
  inside : origin.phrase.Inside whole
  raised : origin.error.Raised
  alone : ∃ start, origin.phrase.FailsFrom context start origin

/-- A failure arises in the rule of a phrase itself, or in that of a phrase inside a part. -/
def Arises (context : Context) (whole : Phrase) (origin : Origin) : Prop :=
  origin.phrase = whole ∧ origin.error.Raised ∨
    ∃ part ∈ whole.parts, origin.Blamed context part

variable {whole part : Phrase} {origin : Origin}

/-- What arises in the run of a phrase is to be blamed inside it. -/
theorem Arises.blamed (arises : origin.Arises context whole) {start : Environment}
    (failed : whole.FailsFrom context start origin) : origin.Blamed context whole := by
  rcases arises with ⟨own, raised⟩ | ⟨part, member, inside, raised, alone⟩
  · exact ⟨own ▸ .refl, raised, start, own ▸ failed⟩
  · exact ⟨inside.tail member, raised, alone⟩

end Origin

namespace Located

variable {α : Type} {context : Context} {whole : Phrase}

open Origin

/-- What fails in a step of a phrase's own rule arises there. -/
theorem own_arises {action : Eval α} (raises : action.Fails Error.Raised) :
    (own whole action).Fails (Arises context whole) := by
  refine ⟨fun before origin failed => ?_⟩
  rw [run_own] at failed
  obtain ⟨error, raised, rfl⟩ := Except.mapError_eq_error.mp failed
  exact .inl ⟨rfl, raises.error before error raised⟩

theorem inNewScope_arises {fine : Origin → Prop} {action : Located α} (first : action.Fails fine) :
    (inNewScope action).Fails fine :=
  ⟨fun before origin failed => first.error before.enter origin failed⟩

/-- What an expression fails for, it fails for as well where it has to have a value. -/
theorem demand_of_locate {expr : Expr} {start : Environment} {origin : Origin}
    (failed : ((expr.locate context).run start).outcome = .error origin) :
    (Phrase.expr expr).FailsFrom context start origin := by
  cases ran : (expr.locate context).run start with
  | mk outcome after trace =>
    rw [ran] at failed
    cases failed
    change ((demand expr _).run start).outcome = _
    rw [demand, Traced.run_bind_error ran]

variable {expr : Expr} (arises : (expr.locate context).Fails (Arises context (.expr expr)))
include arises

/-- What arises in a part arises in the whole. -/
theorem locate_arises (member : .expr expr ∈ whole.parts) :
    (expr.locate context).Fails (Arises context whole) :=
  ⟨fun before origin failed => .inr ⟨_, member,
    (arises.error before origin failed).blamed (demand_of_locate failed)⟩⟩

theorem demand_blamed :
    (demand expr (expr.locate context)).Fails (Blamed context (.expr expr)) := by
  have itself : (demand expr (expr.locate context)).Fails (Arises context (.expr expr)) := by
    refine arises.bind fun found => ?_
    cases found with
    | some value => exact .pure value
    | none => exact own_arises (.fail ⟨rfl, nofun⟩)
  exact ⟨fun before origin failed => (itself.error before origin failed).blamed failed⟩

theorem demand_arises (member : .expr expr ∈ whole.parts) :
    (demand expr (expr.locate context)).Fails (Arises context whole) :=
  (demand_blamed arises).imp fun _ blamed => .inr ⟨_, member, blamed⟩

end Located

section Rules

variable (context : Context)

open Located Origin

mutual

/-- Whatever an expression fails for arises in its own rule or in a part of it. -/
theorem Expr.arises : ∀ expr : Expr, (expr.locate context).Fails (Arises context (.expr expr))
  | .conditional condition thenBranch elseBranch => by
    rw [Expr.locate]
    refine (demand_arises condition.arises (by simp [Phrase.parts])).bind fun test => ?_
    split
    · refine inNewScope_arises ((locateAll_arises none thenBranch).imp ?_)
      rintro origin ⟨stmt, held, blamed⟩
      exact .inr ⟨_, by simp [Phrase.parts, held], blamed⟩
    · refine inNewScope_arises ((locateAll_arises none elseBranch).imp ?_)
      rintro origin ⟨stmt, held, blamed⟩
      exact .inr ⟨_, by simp [Phrase.parts, held], blamed⟩
  | .assign target value => by
    rw [Expr.locate]
    refine (demand_arises value.arises (by simp [Phrase.parts])).bind fun result => ?_
    exact (own_arises (Eval.Raises.assign target result)).bind fun _ => .pure _
  | .binary left operator right => by
    rw [Expr.locate]
    refine (demand_arises left.arises (by simp [Phrase.parts])).bind fun first => ?_
    refine (demand_arises right.arises (by simp [Phrase.parts])).bind fun second => ?_
    exact own_arises (Eval.Raises.binary operator first second)
  | .unary operator operand => by
    rw [Expr.locate]
    refine (demand_arises operand.arises (by simp [Phrase.parts])).bind fun value => ?_
    exact own_arises (Eval.Raises.unary operator value)
  | .grouping inner => by
    rw [Expr.locate]
    exact locate_arises inner.arises (by simp [Phrase.parts])
  | .literal value _ => by
    rw [Expr.locate]
    exact .pure _
  | .name token => by
    rw [Expr.locate]
    exact own_arises (Eval.Raises.nameValue context.program token)
  | .call callee arguments => by
    rw [Expr.locate]
    refine (own_arises (Eval.Raises.resolveCallee context.program callee)).bind fun signature => ?_
    refine ((locateEach_arises arguments).imp ?_).bind fun values => ?_
    · rintro origin ⟨argument, held, blamed⟩
      exact .inr ⟨_, by simp [Phrase.parts, held], blamed⟩
    · exact own_arises (Eval.Raises.callNative context.natives _ values callee.position)
  | .member target member => by
    rw [Expr.locate]
    refine (demand_arises target.arises (by simp [Phrase.parts])).bind fun value => ?_
    exact own_arises (Eval.Raises.member value member)

theorem Stmt.arises : ∀ stmt : Stmt, (stmt.locate context).Fails (Arises context (.stmt stmt))
  | .functionDecl _ _ => by
    rw [Stmt.locate]
    exact .pure _
  | .variableDecl head initializer => by
    rw [Stmt.locate]
    refine (demand_arises initializer.arises (by simp [Phrase.parts])).bind fun value => ?_
    exact (own_arises (Eval.Raises.declare head value)).bind fun _ => .pure _
  | .block body => by
    rw [Stmt.locate]
    refine (inNewScope_arises ((locateAll_arises none body).imp ?_)).bind fun _ => .pure _
    rintro origin ⟨stmt, held, blamed⟩
    exact .inr ⟨_, by simp [Phrase.parts, held], blamed⟩
  | .expression expr => by
    rw [Stmt.locate]
    exact locate_arises expr.arises (by simp [Phrase.parts])

theorem locateAll_arises : ∀ (last : Option Value) (stmts : List Stmt),
    (locateAll context last stmts).Fails fun origin =>
      ∃ stmt ∈ stmts, origin.Blamed context (.stmt stmt)
  | last, [] => by
    rw [locateAll]
    exact .pure last
  | last, stmt :: rest => by
    rw [locateAll]
    refine Traced.Fails.bind ⟨fun before origin failed => ?_⟩ fun value => ?_
    · exact ⟨stmt, List.mem_cons_self, (stmt.arises.error before origin failed).blamed failed⟩
    · refine (locateAll_arises value rest).imp ?_
      rintro origin ⟨stmt', held, blamed⟩
      exact ⟨stmt', List.mem_cons_of_mem _ held, blamed⟩

theorem locateEach_arises : ∀ exprs : List Expr,
    (locateEach context exprs).Fails fun origin =>
      ∃ expr ∈ exprs, origin.Blamed context (.expr expr)
  | [] => by
    rw [locateEach]
    exact .pure []
  | expr :: rest => by
    rw [locateEach]
    refine ((demand_blamed expr.arises).imp ?_).bind fun value => ?_
    · exact fun origin blamed => ⟨expr, List.mem_cons_self, blamed⟩
    · refine ((locateEach_arises rest).imp ?_).bind fun _ => .pure _
      rintro origin ⟨expr', held, blamed⟩
      exact ⟨expr', List.mem_cons_of_mem _ held, blamed⟩

end

end Rules

/-- What an error says of the phrase that it comes from. -/
structure Origin.Explains (context : Context) (whole : Phrase) (error : Error) (origin : Origin) :
    Prop where
  /-- The phrase is inside what was run. -/
  inside : origin.phrase.Inside whole
  /-- Run by itself, the phrase is found at fault, and the error is the same. -/
  alone : ∃ start, origin.phrase.FailsFrom context start origin ∧
    origin.phrase.FailsWith context start error
  /-- No phrase was named before this one. -/
  first : origin.error.context = none ∧ error = origin.named
  /-- The error names the phrase. -/
  named : error.context = some origin.phrase.print
  /-- The error stands where something of the phrase stands. -/
  placed : ∃ leaf ∈ origin.phrase.leaves, leaf.position = error.position
  /-- The error is displayed with the phrase. -/
  displayed :
    error.display = "Runtime error at " ++ origin.phrase.print ++ ": " ++ error.cause.message ∨
      error.display =
        "Internal error interpreting " ++ origin.phrase.print ++ ": " ++ error.cause.message

theorem Origin.Blamed.explains {context : Context} {whole : Phrase} {origin : Origin}
    (blamed : origin.Blamed context whole) : origin.Explains context whole origin.named := by
  obtain ⟨inside, ⟨nameless, category⟩, start, alone⟩ := blamed
  have named : origin.named.context = some origin.phrase.print := by
    change origin.error.context.or _ = _
    rw [nameless, Option.none_or]
  refine ⟨inside, ⟨start, alone, alone.failsWith⟩, ⟨nameless, rfl⟩, named,
    alone.failsWith.placed, ?_⟩
  unfold Error.display
  rw [named]
  have same : origin.named.cause = origin.error.cause := rfl
  cases family : origin.named.cause.category with
  | ofSyntax => exact absurd (same ▸ family) category
  | ofRuntime => exact .inl rfl
  | ofInternals => exact .inr rfl

section Outcomes

variable {context : Context} {phrase : Phrase} {before : Environment} {error : Error}

/-- Where a run fails, the run with origins tells one for the same error. -/
theorem Phrase.FailsWith.failsFrom (failed : phrase.FailsWith context before error) :
    ∃ origin, phrase.FailsFrom context before origin ∧ origin.named = error := by
  cases phrase with
  | expr inner =>
    have same := Located.forget_demand (inner.forget_locate context)
    change ((inner.demand _).run before).outcome = _ at failed
    rw [← same] at failed
    exact Except.mapError_eq_error.mp failed
  | stmt inner =>
    change ((inner.execute context).run before).outcome = _ at failed
    rw [Stmt.run_execute] at failed
    exact Except.mapError_eq_error.mp failed

/-- The origin of a failure is to be blamed for it. -/
theorem Phrase.FailsFrom.blamed {origin : Origin}
    (failed : phrase.FailsFrom context before origin) : origin.Blamed context phrase := by
  cases phrase with
  | expr inner => exact (Located.demand_blamed (inner.arises context)).error before origin failed
  | stmt inner => exact ((inner.arises context).error before origin failed).blamed failed

theorem Phrase.FailsWith.explained (failed : phrase.FailsWith context before error) :
    ∃ origin, phrase.FailsFrom context before origin ∧ origin.Explains context phrase error := by
  obtain ⟨origin, found, rfl⟩ := failed.failsFrom
  exact ⟨origin, found, found.blamed.explains⟩

/-- A row of statements goes on behind its first one. -/
theorem executeEach_cons_ok {stmt : Stmt} {value : Option Value} {after : Environment}
    {trace : List Eval.Event}
    (ran : (stmt.execute context).run before = ⟨.ok value, after, trace⟩) (rest : List Stmt) :
    (executeEach context (stmt :: rest)).run before =
      ((executeEach context rest).run after).behind (.executing stmt :: trace) := by
  rw [executeEach, Traced.run_bind_ok (Traced.run_emit _ before), Traced.run_bind_ok ran]
  rfl

/-- A row of statements fails in one of them, behind others that did not. -/
theorem executeEach_fails_at {stmts : List Stmt}
    (failed : ((executeEach context stmts).run before).outcome = .error error) :
    ∃ done stmt rest, stmts = done ++ stmt :: rest ∧
      let ran := (executeEach context done).run before
      ran.outcome = .ok () ∧ ((stmt.execute context).run ran.state).outcome = .error error := by
  induction stmts generalizing before with
  | nil => cases failed
  | cons stmt rest ih =>
    cases ran : (stmt.execute context).run before with
    | mk outcome after trace =>
      cases outcome with
      | error error' =>
        rw [executeEach, Traced.run_bind_ok (Traced.run_emit _ before),
          Traced.run_bind_error ran] at failed
        cases failed
        exact ⟨[], stmt, rest, rfl, rfl, congrArg Run.outcome ran⟩
      | ok value =>
        rw [executeEach_cons_ok ran] at failed
        obtain ⟨done, stmt', rest', rfl, ended, fails⟩ := ih failed
        refine ⟨stmt :: done, stmt', rest', rfl, ?_⟩
        rw [executeEach_cons_ok ran]
        exact ⟨ended, fails⟩

/-- A program fails where its statements do. -/
theorem interpret_fails_at (failed : ((interpret context).run before).outcome = .error error) :
    ((executeEach context context.program).run before).outcome = .error error := by
  rcases Traced.outcome_bind_eq_error failed with early | ⟨_, -, failed⟩
  · cases early
  · rcases Traced.outcome_bind_eq_error failed with itself | ⟨_, -, late⟩
    · exact itself
    · cases late

end Outcomes

/-- The error of a statement, of an expression or of a program is that of the phrase which the run
with origins finds at fault: it names that phrase, it stands in it, and it is the same where the
phrase is run alone. -/
theorem errors_blame_innermost (context : Context) :
    (∀ (stmt : Stmt) before error, ((stmt.execute context).run before).outcome = .error error →
      ∃ origin, ((stmt.locate context).run before).outcome = .error origin ∧
        origin.Explains context (.stmt stmt) error) ∧
    (∀ (expr : Expr) before error, ((expr.evaluate context).run before).outcome = .error error →
      ∃ origin, ((Located.demand expr (expr.locate context)).run before).outcome = .error origin ∧
        origin.Explains context (.expr expr) error) ∧
    (∀ before error, ((interpret context).run before).outcome = .error error →
      ∃ done stmt rest, context.program = done ++ stmt :: rest ∧
        let ran := (executeEach context done).run before
        ran.outcome = .ok () ∧ ((stmt.execute context).run ran.state).outcome = .error error ∧
          ∃ origin, ((stmt.locate context).run ran.state).outcome = .error origin ∧
            origin.Explains context (.stmt stmt) error) := by
  refine ⟨fun stmt before error failed => ?_, fun expr before error failed => ?_,
    fun before error failed => ?_⟩
  · have itself : (Phrase.stmt stmt).FailsWith context before error := failed
    exact itself.explained
  · have itself : (Phrase.expr expr).FailsWith context before error := failed
    exact itself.explained
  · obtain ⟨done, stmt, rest, program, ended, failed⟩ :=
      executeEach_fails_at (interpret_fails_at failed)
    have itself : (Phrase.stmt stmt).FailsWith context _ error := failed
    exact ⟨done, stmt, rest, program, ended, failed, itself.explained⟩

def undeclared : Expr := .name ⟨.identifier, "missing", none, ⟨3, 8⟩⟩

/-- `1 + missing` -/
def sumOfUndeclared : Expr :=
  .binary (.literal (.number (.int 1)) ⟨3, 4⟩) ⟨.symbol .plus, "+", none, ⟨3, 6⟩⟩ undeclared

/-- A name without a variable is blamed for the failure of a sum, of the statement that it is and of
a program with that statement in a block. -/
theorem errors_blame_innermost_undeclared :
    let context : Context := { program := [.block [.expression sumOfUndeclared]] }
    let error : Error := ⟨.variableNotDeclared "missing", ⟨3, 8⟩, some "missing"⟩
    let blamed (whole : Phrase) : Prop :=
      ∃ origin : Origin, origin.phrase = .expr undeclared ∧ origin.Explains context whole error
    ((interpret context).run .empty).outcome = .error error ∧
      blamed (.expr sumOfUndeclared) ∧ blamed (.stmt (.expression sumOfUndeclared)) ∧
        ∃ stmt ∈ context.program, blamed (.stmt stmt) := by
  intro context error blamed
  obtain ⟨executed, evaluated, interpreted⟩ := errors_blame_innermost context
  have failed : ((interpret context).run .empty).outcome = .error error := rfl
  refine ⟨failed, ?_, ?_, ?_⟩
  · obtain ⟨origin, found, explains⟩ := evaluated sumOfUndeclared .empty error rfl
    cases found
    exact ⟨_, rfl, explains⟩
  · obtain ⟨origin, found, explains⟩ := executed (.expression sumOfUndeclared) .empty error rfl
    cases found
    exact ⟨_, rfl, explains⟩
  · obtain ⟨done, stmt, rest, program, -, -, origin, found, explains⟩ :=
      interpreted .empty error failed
    obtain ⟨rfl, is⟩ : done = [] ∧ stmt = .block [.expression sumOfUndeclared] := by
      have := List.singleton_eq_append_iff.mp program
      simp_all
    subst is
    cases found
    exact ⟨_, List.mem_cons_self, _, rfl, explains⟩

end Script
