import Script.Eval.Rules
import Script.Proofs.Traced

set_option autoImplicit false

/- Where a failure comes from. The rules of the language are run again, and a failure now tells the
phrase whose own rule failed and the environment at that moment, in which scopes may be open that
are left when the failure leaves them. Without this the runs are the same. -/
namespace Script

/-- A phrase with a rule of its own. -/
inductive Phrase where
  | expr (expr : Expr)
  | stmt (stmt : Stmt)

namespace Phrase

def print : Phrase → String
  | expr inner => inner.print
  | stmt inner => inner.print

def blame {α : Type} (phrase : Phrase) (action : Eval α) : Eval α :=
  action.mapError fun error => error.withContext phrase.print

end Phrase

/-- A failure where it arises. -/
structure Origin where
  /-- The error before a phrase is named in it. -/
  error : Error
  /-- The phrase whose own rule failed. -/
  phrase : Phrase
  /-- The environment in which it failed. -/
  moment : Environment

/-- The error that a failure is reported as. -/
def Origin.named (origin : Origin) : Error := origin.error.withContext origin.phrase.print

/-- The same runs, with failures told in other words. -/
def Traced.reword {σ ω ε ε' α : Type} (change : ε → ε') (action : Traced σ ω ε α) :
    Traced σ ω ε' α := fun state =>
  let done := action.run state
  ⟨done.outcome.mapError change, done.state, done.trace⟩

/-- A run whose failures tell their origin. -/
abbrev Located := Traced Environment Eval.Event Origin

namespace Located

variable {α β : Type}

/-- An action that belongs to the rule of a phrase. -/
def own (phrase : Phrase) (action : Eval α) : Located α := fun before =>
  let done := action before
  ⟨done.outcome.mapError fun error => ⟨error, phrase, done.state⟩, done.state, done.trace⟩

theorem run_own (phrase : Phrase) (action : Eval α) (before : Environment) :
    (own phrase action).run before =
      let done := action.run before
      ⟨done.outcome.mapError fun error => ⟨error, phrase, done.state⟩, done.state, done.trace⟩ :=
  rfl

def inNewScope (action : Located α) : Located α := fun before =>
  let done := action before.enter
  ⟨done.outcome, done.state.leave, done.trace⟩

def demand (expr : Expr) (action : Located (Option Value)) : Located Value := do
  match ← action with
  | some value => return value
  | none => own (.expr expr) (Eval.raise expr.position .expectedValue)

/-- The same run, with failures as they are reported. -/
def forget (action : Located α) : Eval α := action.reword Origin.named

end Located

mutual

/-- The run of an expression. -/
def Expr.locate (context : Context) : Expr → Located (Option Value)
  | .conditional condition thenBranch elseBranch => do
      let test ← Located.demand condition (condition.locate context)
      if test.isTruthy then
        Located.inNewScope (locateAll context none thenBranch)
      else
        Located.inNewScope (locateAll context none elseBranch)
  | .assign target value => do
      let result ← Located.demand value (value.locate context)
      Located.own (.expr (.assign target value))
        (Eval.update target.position (Environment.assign target.lexeme result))
      return some result
  | .binary left operator right => do
      let first ← Located.demand left (left.locate context)
      let second ← Located.demand right (right.locate context)
      Located.own (.expr (.binary left operator right))
        (some <$> Eval.lift operator.position (Operator.binary operator first second))
  | .unary operator operand => do
      let value ← Located.demand operand (operand.locate context)
      Located.own (.expr (.unary operator operand))
        (some <$> Eval.lift operator.position (Operator.unary operator value))
  | .grouping inner => inner.locate context
  | .literal value _ => return some value
  | .name token => Located.own (.expr (.name token)) (Eval.nameValue context.program token)
  | .call callee arguments => do
      let signature ← Located.own (.expr (.call callee arguments))
        (Eval.resolveCallee context.program callee)
      let values ← locateEach context arguments
      Located.own (.expr (.call callee arguments))
        (Eval.callNative context.natives signature.name.lexeme values callee.position)
  | .member target member => do
      let value ← Located.demand target (target.locate context)
      Located.own (.expr (.member target member))
        (some <$> Eval.lift member.position (Operator.member value member.lexeme))

def Stmt.locate (context : Context) : Stmt → Located (Option Value)
  | .functionDecl _ _ => return none
  | .variableDecl head initializer => do
      let value ← Located.demand initializer (initializer.locate context)
      Located.own (.stmt (.variableDecl head initializer))
        (Eval.update head.name.position fun environment =>
          environment.declare head.name.lexeme value head.mutable)
      return none
  | .block body => do
      let _ ← Located.inNewScope (locateAll context none body)
      return none
  | .expression expr => expr.locate context

def locateAll (context : Context) (last : Option Value) : List Stmt → Located (Option Value)
  | [] => return last
  | stmt :: rest => do
      let value ← stmt.locate context
      locateAll context value rest

def locateEach (context : Context) : List Expr → Located (List NativeValue)
  | [] => return []
  | expr :: rest => do
      let value ← Located.demand expr (expr.locate context)
      return .ofValue value :: (← locateEach context rest)

end

/-- The first phrase that is named stays. -/
theorem Error.withContext_withContext (error : Error) (first second : String) :
    (error.withContext first).withContext second = error.withContext first := by
  obtain ⟨cause, position, context⟩ := error
  cases context <;> rfl

/-- An outcome in other words is a failure if it was one. -/
theorem Except.mapError_eq_error {ε ε' α : Type} {change : ε → ε'} {outcome : Except ε α}
    {error : ε'} :
    outcome.mapError change = .error error ↔ ∃ error', outcome = .error error' ∧
      change error' = error := by
  cases outcome with
  | ok value =>
    constructor
    · nofun
    · rintro ⟨_, is, -⟩
      cases is
  | error error' =>
    constructor
    · intro is
      exact ⟨error', rfl, Except.error.inj is⟩
    · rintro ⟨_, is, changed⟩
      cases is
      exact congrArg Except.error changed

/-- An outcome in other words has the same value. -/
theorem Except.mapError_eq_ok {ε ε' α : Type} {change : ε → ε'} {outcome : Except ε α}
    {value : α} : outcome.mapError change = .ok value ↔ outcome = .ok value := by
  cases outcome <;> constructor <;> intro is <;> cases is <;> rfl

/-- The parts of a sequence are reworded one by one. -/
theorem Traced.reword_bind {σ ω ε ε' α β : Type} (change : ε → ε') (action : Traced σ ω ε α)
    (next : α → Traced σ ω ε β) :
    (action >>= next).reword change =
      action.reword change >>= fun value => (next value).reword change := by
  suffices each : ∀ state, ((action >>= next).reword change).run state =
      (action.reword change >>= fun value => (next value).reword change).run state from funext each
  intro state
  have first : (action.reword change).run state = ⟨(action.run state).outcome.mapError change,
    (action.run state).state, (action.run state).trace⟩ := rfl
  have whole : ((action >>= next).reword change).run state =
    ⟨((action >>= next).run state).outcome.mapError change, ((action >>= next).run state).state,
      ((action >>= next).run state).trace⟩ := rfl
  rw [whole]
  cases ran : action.run state with
  | mk outcome middle trace =>
    rw [ran] at first
    cases outcome with
    | error error =>
      rw [Traced.run_bind_error first, Traced.run_bind_error ran]
      rfl
    | ok value =>
      rw [Traced.run_bind_ok first, Traced.run_bind_ok ran]
      rfl

section Forgetting

variable {α β : Type} (phrase : Phrase)

namespace Phrase

theorem blame_eq (action : Eval α) :
    phrase.blame action = action.reword fun error => error.withContext phrase.print := by
  funext before
  exact Traced.run_mapError _ action before

theorem blame_bind (action : Eval α) (next : α → Eval β) :
    phrase.blame (action >>= next) =
      phrase.blame action >>= fun value => phrase.blame (next value) := by
  simp only [blame_eq, Traced.reword_bind]

/-- An error that names a phrase names no other one. -/
theorem blame_forget (action : Located α) : phrase.blame action.forget = action.forget := by
  funext before
  simp only [blame_eq, Located.forget, Traced.reword, Traced.run]
  cases (action before).outcome with
  | ok value => rfl
  | error origin =>
    have named : origin.named.withContext phrase.print = origin.named :=
      Error.withContext_withContext _ _ _
    exact congrArg (fun error => Run.mk (.error error) _ _) named

end Phrase

namespace Located

theorem forget_pure (value : α) : (pure value : Located α).forget = pure value := rfl

theorem forget_bind (action : Located α) (next : α → Located β) :
    (action >>= next).forget = action.forget >>= fun value => (next value).forget :=
  Traced.reword_bind Origin.named action next

theorem forget_own (action : Eval α) : (own phrase action).forget = phrase.blame action := by
  funext before
  simp only [Phrase.blame_eq, own, forget, Traced.reword, Traced.run]
  cases (action before).outcome <;> rfl

theorem forget_inNewScope (action : Located α) :
    (inNewScope action).forget = Eval.inNewScope action.forget := rfl

theorem forget_ite (test : Bool) (yes no : Located α) :
    (if test = true then yes else no).forget =
      if test = true then yes.forget else no.forget := by
  cases test <;> rfl

/-- What is demanded of an expression does not depend on how its failures are told. -/
theorem forget_demand {expr : Expr} {action : Located (Option Value)}
    {plain : Eval (Option Value)} (same : action.forget = expr.blame plain) :
    (demand expr action).forget = expr.demand plain := by
  rw [demand, forget_bind, same, Expr.demand]
  refine bind_congr fun found => ?_
  cases found <;> rfl

end Located

open Located

variable (context : Context)

mutual

/-- An expression runs as it does where nothing is told of origins. -/
theorem Expr.forget_locate : ∀ expr : Expr,
    (expr.locate context).forget = expr.blame (expr.rule context)
  | .conditional condition thenBranch elseBranch => by
    have tested := forget_demand condition.forget_locate
    have first := forget_locateAll none thenBranch
    have second := forget_locateAll none elseBranch
    change _ = (Phrase.expr (.conditional condition thenBranch elseBranch)).blame _
    rw [Expr.locate, Expr.rule, Phrase.blame_bind, forget_bind, ← tested, Phrase.blame_forget]
    refine bind_congr fun test => ?_
    rw [forget_ite, forget_inNewScope, forget_inNewScope, first, second]
    cases test.isTruthy
    · rw [← second, ← forget_inNewScope]
      exact (Phrase.blame_forget _ _).symm
    · rw [← first, ← forget_inNewScope]
      exact (Phrase.blame_forget _ _).symm
  | .assign target value => by
    have result := forget_demand value.forget_locate
    change _ = (Phrase.expr (.assign target value)).blame _
    rw [Expr.locate, Expr.rule, Phrase.blame_bind, forget_bind, ← result, Phrase.blame_forget]
    refine bind_congr fun value => ?_
    rw [Phrase.blame_bind, forget_bind, forget_own]
    rfl
  | .binary left operator right => by
    have first := forget_demand left.forget_locate
    have second := forget_demand right.forget_locate
    change _ = (Phrase.expr (.binary left operator right)).blame _
    rw [Expr.locate, Expr.rule, Phrase.blame_bind, forget_bind, ← first, Phrase.blame_forget]
    refine bind_congr fun value => ?_
    rw [Phrase.blame_bind, forget_bind, ← second, Phrase.blame_forget]
    refine bind_congr fun value' => ?_
    rw [forget_own]
  | .unary operator operand => by
    have valued := forget_demand operand.forget_locate
    change _ = (Phrase.expr (.unary operator operand)).blame _
    rw [Expr.locate, Expr.rule, Phrase.blame_bind, forget_bind, ← valued, Phrase.blame_forget]
    refine bind_congr fun value => ?_
    rw [forget_own]
  | .grouping inner => by
    change _ = (Phrase.expr (.grouping inner)).blame _
    rw [Expr.locate, Expr.rule, ← inner.forget_locate, Phrase.blame_forget]
  | .literal value _ => by
    rw [Expr.locate, Expr.rule]
    rfl
  | .name token => by
    rw [Expr.locate, Expr.rule, forget_own]
    rfl
  | .call callee arguments => by
    have values := forget_locateEach arguments
    change _ = (Phrase.expr (.call callee arguments)).blame _
    rw [Expr.locate, Expr.rule, Phrase.blame_bind, forget_bind, forget_own]
    refine bind_congr fun signature => ?_
    rw [Phrase.blame_bind, forget_bind, ← values, Phrase.blame_forget]
    refine bind_congr fun values => ?_
    rw [forget_own]
  | .member target member => by
    have valued := forget_demand target.forget_locate
    change _ = (Phrase.expr (.member target member)).blame _
    rw [Expr.locate, Expr.rule, Phrase.blame_bind, forget_bind, ← valued, Phrase.blame_forget]
    refine bind_congr fun value => ?_
    rw [forget_own]

theorem Stmt.forget_locate : ∀ stmt : Stmt,
    (stmt.locate context).forget = stmt.blame (stmt.rule context)
  | .functionDecl _ _ => by
    rw [Stmt.locate, Stmt.rule]
    rfl
  | .variableDecl head initializer => by
    have result := forget_demand initializer.forget_locate
    change _ = (Phrase.stmt (.variableDecl head initializer)).blame _
    rw [Stmt.locate, Stmt.rule, Phrase.blame_bind, forget_bind, ← result, Phrase.blame_forget]
    refine bind_congr fun value => ?_
    rw [Phrase.blame_bind, forget_bind, forget_own]
    rfl
  | .block body => by
    have inside := forget_locateAll none body
    change _ = (Phrase.stmt (.block body)).blame _
    rw [Stmt.locate, Stmt.rule, Phrase.blame_bind, forget_bind, ← inside, ← forget_inNewScope,
      Phrase.blame_forget]
    rfl
  | .expression expr => by
    change _ = (Phrase.stmt (.expression expr)).blame _
    rw [Stmt.locate, Stmt.rule, ← expr.forget_locate, Phrase.blame_forget]

theorem forget_locateAll : ∀ (last : Option Value) (stmts : List Stmt),
    (locateAll context last stmts).forget = executeAll context last stmts
  | last, [] => by
    rw [locateAll, executeAll, forget_pure]
  | last, stmt :: rest => by
    rw [locateAll, executeAll, forget_bind, stmt.forget_locate]
    exact bind_congr fun value => forget_locateAll value rest

theorem forget_locateEach : ∀ exprs : List Expr,
    (locateEach context exprs).forget = evaluateAll context exprs
  | [] => by
    rw [locateEach, evaluateAll, forget_pure]
  | expr :: rest => by
    rw [locateEach, evaluateAll, forget_bind, forget_demand (expr.forget_locate)]
    refine bind_congr fun value => ?_
    rw [forget_bind, forget_locateEach rest]
    rfl

end

/-- A statement leaves the same environment and trace, and fails with the error that its failure is
reported as. -/
theorem Stmt.run_execute (stmt : Stmt) (before : Environment) :
    (stmt.execute context).run before =
      let done := (stmt.locate context).run before
      ⟨done.outcome.mapError Origin.named, done.state, done.trace⟩ := by
  rw [Stmt.execute, ← Stmt.forget_locate]
  rfl

end Forgetting

end Script
