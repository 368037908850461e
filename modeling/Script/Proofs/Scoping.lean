import Mathlib.Data.List.Forall2
import Script.Proofs.Evaluation

set_option autoImplicit false

/- What a run can do to the scopes it finds. It changes values of mutable variables and, if it runs
a declaration, adds that variable to the innermost scope. Scopes that it enters on its way are left
again on every path, so nothing else stays behind. -/
namespace Script

/-- Of a binding nothing but the value of a mutable variable changes. -/
structure Binding.Kept (before after : String × Binding) : Prop where
  name : after.1 = before.1
  mutable : after.2.mutable = before.2.mutable
  value : before.2.mutable = false → after.2.value = before.2.value

namespace Binding.Kept

theorem refl (binding : String × Binding) : Kept binding binding := ⟨rfl, rfl, fun _ => rfl⟩

theorem trans {first second third : String × Binding} (before : Kept first second)
    (behind : Kept second third) : Kept first third where
  name := behind.name.trans before.name
  mutable := behind.mutable.trans before.mutable
  value immutable :=
    (behind.value (before.mutable.trans immutable)).trans (before.value immutable)

end Binding.Kept

private theorem forall₂_trans {α : Type} {relation : α → α → Prop} {first second third : List α}
    (before : List.Forall₂ relation first second) (behind : List.Forall₂ relation second third)
    (trans : ∀ a b c : α, relation a b → relation b c → relation a c) :
    List.Forall₂ relation first third := by
  induction before generalizing third with
  | nil => exact behind
  | cons head _ ih =>
    obtain ⟨last, rest, head', tail', rfl⟩ := List.forall₂_cons_left_iff.mp behind
    exact .cons (trans _ _ _ head head') (ih tail')

/-- A scope has the same bindings as before, in the same order. -/
def Scope.Kept (before after : Scope) : Prop := List.Forall₂ Binding.Kept before after

namespace Scope

theorem Kept.refl (scope : Scope) : scope.Kept scope :=
  List.forall₂_same.mpr fun binding _ => .refl binding

theorem Kept.trans {first second third : Scope} (before : first.Kept second)
    (behind : second.Kept third) : first.Kept third :=
  forall₂_trans before behind fun _ _ _ => Binding.Kept.trans

/-- What is kept of two parts is kept part by part. -/
theorem Kept.append_left {first second after : Scope} (kept : Kept (first ++ second) after) :
    ∃ first' second', after = first' ++ second' ∧ second.Kept second' := by
  have behind := List.forall₂_drop first.length kept
  rw [List.drop_left] at behind
  exact ⟨_, _, (List.take_append_drop first.length after).symm, behind⟩

/-- Changing the value of a mutable variable keeps its scope. -/
theorem setValue_kept {name : String} {value : Value} {scope : Scope} {binding : Binding}
    (found : scope.lookup name = some binding) (mutable : binding.mutable = true) :
    scope.Kept (scope.setValue name value) := by
  induction scope with
  | nil => cases found
  | cons entry rest ih =>
    obtain ⟨key, held⟩ := entry
    unfold setValue
    by_cases same : name == key
    · rw [List.lookup_cons, same] at found
      obtain rfl : held = binding := by simpa using found
      rw [if_pos same]
      have changed : Binding.Kept (key, held) (key, { held with value }) :=
        ⟨rfl, rfl, fun immutable => absurd (mutable.symm.trans immutable) (by decide)⟩
      exact .cons changed (Kept.refl rest)
    · rw [Bool.not_eq_true] at same
      rw [List.lookup_cons, same] at found
      rw [if_neg (by simp [same])]
      exact .cons (.refl _) (ih found)

end Scope

namespace Environment

/-- The scopes around the innermost one, the nearest first. -/
def outer : Environment → List Scope
  | outermost _ => []
  | within _ enclosing => enclosing.innermost :: enclosing.outer

theorem depth_eq (environment : Environment) :
    environment.depth = environment.outer.length + 1 := by
  induction environment with
  | outermost scope => rfl
  | within scope enclosing ih => simp only [depth, outer, List.length_cons, ih]

/-- All bindings stay in their scopes, and the innermost scope gains the given ones. -/
structure Kept (gained : Scope) (before after : Environment) : Prop where
  outer : List.Forall₂ Scope.Kept before.outer after.outer
  inner : ∃ kept, after.innermost = gained ++ kept ∧ before.innermost.Kept kept

namespace Kept

variable {gained : Scope} {first second third before after : Environment}

theorem depth (kept : Kept gained before after) : after.depth = before.depth := by
  rw [depth_eq, depth_eq, kept.outer.length_eq]

theorem refl (environment : Environment) : Kept [] environment environment where
  outer := List.forall₂_same.mpr fun scope _ => .refl scope
  inner := ⟨_, rfl, .refl _⟩

/-- What comes first gains nothing. -/
theorem trans (before : Kept [] first second) (behind : Kept gained second third) :
    Kept gained first third := by
  obtain ⟨kept, inner, held⟩ := before.inner
  obtain ⟨kept', inner', held'⟩ := behind.inner
  rw [inner] at held'
  have outer := forall₂_trans before.outer behind.outer fun _ _ _ => Scope.Kept.trans
  exact ⟨outer, kept', inner', held.trans held'⟩

/-- What comes first may gain bindings, which are then kept as well. -/
theorem trans_gained {more : Scope} (before : Kept gained first second)
    (behind : Kept more second third) : ∃ all, Kept all first third := by
  obtain ⟨kept, inner, held⟩ := before.inner
  obtain ⟨kept', inner', held'⟩ := behind.inner
  rw [inner] at held'
  obtain ⟨gained', rest, rfl, held''⟩ := held'.append_left
  have outer := forall₂_trans before.outer behind.outer fun _ _ _ => Scope.Kept.trans
  exact ⟨more ++ gained', outer, rest, by rw [inner', List.append_assoc], held.trans held''⟩

/-- Leaving a scope that was entered drops all that it gained. -/
theorem leave (kept : Kept gained before.enter after) : Kept [] before after.leave := by
  cases after with
  | outermost scope => exact absurd kept.outer.length_eq (by simp [enter, Environment.outer])
  | within scope enclosing =>
    obtain ⟨inner, outer⟩ := List.forall₂_cons.mp kept.outer
    exact ⟨outer, _, rfl, inner⟩

end Kept

theorem declare_kept {environment after : Environment} {name : String} {value : Value}
    {mutable : Bool} (declared : environment.declare name value mutable = .ok after) :
    Kept [(name, ⟨mutable, value⟩)] environment after := by
  unfold declare at declared
  split at declared
  · cases declared
  · cases declared
    have outer : (environment.withInnermost
        ((name, ⟨mutable, value⟩) :: environment.innermost)).outer = environment.outer := by
      cases environment <;> rfl
    refine ⟨?_, environment.innermost, ?_, .refl _⟩
    · rw [outer]
      exact (Kept.refl environment).outer
    · cases environment <;> rfl

theorem assign_kept {environment after : Environment} {name : String} {value : Value}
    (assigned : environment.assign name value = .ok after) : Kept [] environment after := by
  induction environment generalizing after with
  | outermost scope =>
    unfold assign at assigned
    split at assigned
    · next binding found =>
      split at assigned
      · next mutable =>
        cases assigned
        exact ⟨.nil, _, rfl, Scope.setValue_kept found mutable⟩
      · cases assigned
    · cases assigned
  | within scope enclosing ih =>
    unfold assign at assigned
    split at assigned
    · next binding found =>
      split at assigned
      · next mutable =>
        cases assigned
        exact ⟨(Kept.refl (within scope enclosing)).outer, _, rfl,
          Scope.setValue_kept found mutable⟩
      · cases assigned
    · cases further : enclosing.assign name value with
      | error cause =>
        rw [further] at assigned
        cases assigned
      | ok enclosing' =>
        rw [further] at assigned
        cases assigned
        have kept := ih further
        obtain ⟨inner, same, held⟩ := kept.inner
        refine ⟨.cons ?_ kept.outer, _, rfl, .refl scope⟩
        rw [same]
        exact held

end Environment

/-- What a statement may add to the innermost scope: a declaration that succeeds adds its variable,
and nothing else adds anything. -/
def Stmt.Gains {ε α : Type} : Stmt → Except ε α → Scope → Prop
  | .variableDecl head _, .ok _, gained =>
      ∃ value, gained = [(head.name.lexeme, ⟨head.mutable, value⟩)]
  | _, _, gained => gained = []

/-- Which error a statement fails with does not matter. -/
theorem Stmt.Gains.mapError {ε α : Type} {stmt : Stmt} {outcome : Except ε α} {gained : Scope}
    (gains : stmt.Gains outcome gained) (change : ε → ε) :
    stmt.Gains (outcome.mapError change) gained := by
  cases stmt <;> cases outcome <;> exact gains

namespace Eval

variable {α β : Type}

/-- No run of an action adds or drops a binding, or changes an immutable one. -/
def Keeps (action : Eval α) : Prop :=
  ∀ before, Environment.Kept [] before (action.run before).state

/-- No run of an action drops a binding or changes an immutable one; new ones go to the innermost
scope. -/
def Grows (action : Eval α) : Prop :=
  ∀ before, ∃ gained, Environment.Kept gained before (action.run before).state

/-- An action that leaves the environment alone. -/
theorem Keeps.of_state {action : Eval α} (same : ∀ before, (action.run before).state = before) :
    Keeps action := by
  intro before
  rw [same]
  exact .refl before

theorem Keeps.pure (value : α) : Keeps (pure value) := .of_state fun _ => rfl

theorem Keeps.lift (position : Position) (outcome : Except Error.Cause α) :
    Keeps (lift position outcome) := .of_state fun _ => rfl

theorem Keeps.bind {action : Eval α} {next : α → Eval β} (first : Keeps action)
    (second : ∀ value, Keeps (next value)) : Keeps (action >>= next) := by
  intro before
  have kept := first before
  cases ran : action.run before with
  | mk outcome middle trace =>
    rw [ran] at kept
    cases outcome with
    | error error => exact Traced.run_bind_error ran ▸ kept
    | ok value =>
      rw [Traced.run_bind_ok ran]
      exact kept.trans (second value middle)

theorem Keeps.map {action : Eval α} (change : α → β) (kept : Keeps action) :
    Keeps (change <$> action) := by
  rw [map_eq_pure_bind]
  exact kept.bind fun value => .pure _

theorem Keeps.mapError {action : Eval α} (change : Error → Error) (kept : Keeps action) :
    Keeps (action.mapError change) := by
  intro before
  rw [Traced.run_mapError]
  exact kept before

theorem Keeps.demand {action : Eval (Option Value)} (expr : Expr) (kept : Keeps action) :
    Keeps (expr.demand action) := by
  refine (kept.mapError _).bind fun found => ?_
  cases found with
  | none => exact .of_state fun _ => rfl
  | some value => exact .pure value

theorem Keeps.grows {action : Eval α} (kept : Keeps action) : Grows action :=
  fun before => ⟨[], kept before⟩

theorem Grows.bind {action : Eval α} {next : α → Eval β} (first : Grows action)
    (second : ∀ value, Grows (next value)) : Grows (action >>= next) := by
  intro before
  obtain ⟨gained, kept⟩ := first before
  cases ran : action.run before with
  | mk outcome middle trace =>
    rw [ran] at kept
    cases outcome with
    | error error => exact ⟨gained, Traced.run_bind_error ran ▸ kept⟩
    | ok value =>
      obtain ⟨more, kept'⟩ := second value middle
      rw [Traced.run_bind_ok ran]
      exact kept.trans_gained kept'

/-- In a new scope whatever is added is dropped at the end, also by an error. -/
theorem Grows.inNewScope {action : Eval α} (grows : Grows action) : Keeps (inNewScope action) := by
  intro before
  obtain ⟨gained, kept⟩ := grows before.enter
  exact kept.leave

theorem Keeps.assign (target : Token) (value : Value) :
    Keeps (update target.position (Environment.assign target.lexeme value)) := by
  intro before
  cases assigned : before.assign target.lexeme value with
  | error cause =>
    rw [run_update_error assigned]
    exact .refl before
  | ok after =>
    rw [run_update_ok assigned]
    exact Environment.assign_kept assigned

/-- What is known of an action in each environment is enough. -/
theorem Keeps.of_ensures {action : Eval α} {good : Environment → α → Prop}
    {bad : Environment → Error → Prop}
    (each : ∀ before, action.Ensures (· = before) (good before) (bad before)) : Keeps action :=
  .of_state fun before => (each before).state before rfl

theorem Keeps.callNative (natives : Registry) (name : String) (arguments : List NativeValue)
    (position : Position) : Keeps (callNative natives name arguments position) :=
  .of_ensures fun _ => callNative_ensures natives name arguments position

theorem Keeps.resolveCallee (program : List Stmt) (callee : Expr) :
    Keeps (resolveCallee program callee) :=
  .of_ensures fun before => resolveCallee_ensures program before callee

theorem Keeps.nameValue (program : List Stmt) (token : Token) :
    Keeps (nameValue program token) :=
  .of_ensures fun before => nameValue_ensures program before token

end Eval

section Rules

variable (context : Context)

open Eval

/-- Once its initializer has a value, a declaration adds its variable or fails. -/
theorem declare_gains (head : VariableHead) (initializer : Expr) (value : Value)
    (before : Environment) :
    let done := (do
        Eval.update head.name.position fun environment =>
          environment.declare head.name.lexeme value head.mutable
        return none : Eval (Option Value)).run before
    ∃ gained, (Stmt.variableDecl head initializer).Gains done.outcome gained ∧
      Environment.Kept gained before done.state := by
  cases declared : before.declare head.name.lexeme value head.mutable with
  | error cause =>
    rw [Traced.run_bind_error (run_update_error declared)]
    exact ⟨[], rfl, .refl before⟩
  | ok after =>
    rw [Traced.run_bind_ok (run_update_ok declared)]
    exact ⟨_, ⟨value, rfl⟩, Environment.declare_kept declared⟩

mutual

theorem Expr.rule_keeps : ∀ expr : Expr, Keeps (expr.rule context)
  | .conditional condition thenBranch elseBranch => by
    rw [Expr.rule]
    refine ((condition.rule_keeps).demand _).bind fun test => ?_
    split
    · exact (executeAll_grows none thenBranch).inNewScope
    · exact (executeAll_grows none elseBranch).inNewScope
  | .assign target value => by
    rw [Expr.rule]
    refine ((value.rule_keeps).demand _).bind fun result => ?_
    exact (Keeps.assign target result).bind fun _ => .pure _
  | .binary left operator right => by
    rw [Expr.rule]
    refine ((left.rule_keeps).demand _).bind fun first => ?_
    exact ((right.rule_keeps).demand _).bind fun second => .map _ (.lift _ _)
  | .unary operator operand => by
    rw [Expr.rule]
    exact ((operand.rule_keeps).demand _).bind fun value => .map _ (.lift _ _)
  | .grouping inner => by
    rw [Expr.rule]
    exact (inner.rule_keeps).mapError _
  | .literal value _ => by
    rw [Expr.rule]
    exact .pure _
  | .name token => by
    rw [Expr.rule]
    exact .nameValue _ token
  | .call callee arguments => by
    rw [Expr.rule]
    refine (Keeps.resolveCallee _ callee).bind fun signature => ?_
    exact (evaluateAll_keeps arguments).bind fun values => .callNative _ _ _ _
  | .member target member => by
    rw [Expr.rule]
    exact ((target.rule_keeps).demand _).bind fun value => .map _ (.lift _ _)

theorem Stmt.rule_gains : ∀ (stmt : Stmt) (before : Environment),
    ∃ gained, stmt.Gains ((stmt.rule context).run before).outcome gained ∧
      Environment.Kept gained before ((stmt.rule context).run before).state
  | .functionDecl signature body, before => ⟨[], rfl, .refl before⟩
  | .variableDecl head initializer, before => by
    have kept := (initializer.rule_keeps).demand initializer before
    rw [Stmt.rule]
    cases ran : (initializer.demand (initializer.rule context)).run before with
    | mk outcome middle trace =>
      rw [ran] at kept
      cases outcome with
      | error error =>
        rw [Traced.run_bind_error ran]
        exact ⟨[], rfl, kept⟩
      | ok value =>
        rw [Traced.run_bind_ok ran]
        obtain ⟨gained, gains, kept'⟩ := declare_gains head initializer value middle
        exact ⟨gained, gains, kept.trans kept'⟩
  | .block body, before => by
    rw [Stmt.rule]
    have kept : Keeps (do
        let _ ← Eval.inNewScope (executeAll context none body)
        return none : Eval (Option Value)) :=
      (executeAll_grows none body).inNewScope.bind fun _ => .pure _
    exact ⟨[], rfl, kept before⟩
  | .expression expr, before => by
    rw [Stmt.rule]
    exact ⟨[], rfl, (expr.rule_keeps).mapError _ before⟩

theorem executeAll_grows : ∀ (last : Option Value) (stmts : List Stmt),
    Grows (executeAll context last stmts)
  | last, [] => by
    rw [executeAll]
    exact (Keeps.pure last).grows
  | last, stmt :: rest => by
    rw [executeAll]
    refine Grows.bind (fun before => ?_) fun value => executeAll_grows value rest
    obtain ⟨gained, -, kept⟩ := stmt.rule_gains before
    exact ⟨gained, by rwa [Stmt.blame, Traced.run_mapError]⟩

theorem evaluateAll_keeps : ∀ exprs : List Expr, Keeps (evaluateAll context exprs)
  | [] => by
    rw [evaluateAll]
    exact .pure []
  | expr :: rest => by
    rw [evaluateAll]
    refine ((expr.rule_keeps).demand _).bind fun value => ?_
    exact (evaluateAll_keeps rest).bind fun values => .pure _

end

/-- Whatever a statement does, and whether it fails or not, all scopes stay: their number, their
names and which of them are mutable, and what the immutable ones hold. Only a declaration that
succeeds adds a name, its own one, to the innermost scope, and an expression adds none. -/
theorem runs_keep_scopes (before : Environment) :
    (∀ stmt : Stmt,
      let done := (stmt.execute context).run before
      done.state.depth = before.depth ∧
        ∃ gained, stmt.Gains done.outcome gained ∧ before.Kept gained done.state) ∧
    ∀ expr : Expr,
      let done := (expr.evaluate context).run before
      done.state.depth = before.depth ∧ before.Kept [] done.state := by
  constructor
  · intro stmt
    obtain ⟨gained, gains, kept⟩ := Stmt.rule_gains context stmt before
    rw [Stmt.execute, Stmt.blame, Traced.run_mapError]
    exact ⟨kept.depth, gained, gains.mapError _, kept⟩
  · intro expr
    have kept := (Expr.rule_keeps context expr).demand expr before
    exact ⟨kept.depth, kept⟩

end Rules

end Script
