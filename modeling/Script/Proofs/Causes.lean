import Script.Proofs.Scoping

set_option autoImplicit false

/- Causes for which a run does not fail. Sequences, new scopes and the naming of phrases add no
cause of their own, so it is enough to look at the steps that raise one. -/
namespace Script

open Error (Cause)

namespace Operator

def binaryKinds : List Token.Kind :=
  [.symbol .equals, .symbol .plus, .symbol .dash, .symbol .star, .symbol .slash, .symbol .greater,
    .symbol .greaterEquals, .symbol .less, .symbol .lessEquals]

def unaryKinds : List Token.Kind := [.symbol .dash, .keyword .notWord]

/-- Causes that say that an operator or a member does not fit the values it is applied to. -/
inductive Misapplied : Cause → Prop where
  | expectedNumber : Misapplied .expectedNumber
  | mismatchedNumberTypes : Misapplied .mismatchedNumberTypes
  | divisionByZero : Misapplied .divisionByZero
  | undefinedMember (member owner : String) : Misapplied (.undefinedMember member owner)

/-- Division fails on numbers of two kinds and on a zero divisor. -/
theorem divide_error {left right : Number} {cause : Cause}
    (failed : left.divide right = .error cause) : Misapplied cause := by
  unfold Number.divide at failed
  split at failed
  · split at failed
    · cases failed
      exact .divisionByZero
    · cases failed
  · cases failed
  · cases failed
    exact .mismatchedNumberTypes

/-- Numbers of one kind can be compared, and an operator that takes numbers tells their order. -/
theorem relational_error {operator : Token.Kind} {left right : Number} {cause : Cause}
    (ordering : ∀ order, (Number.orderHolds? operator order).isSome)
    (failed : left.relational operator right = .error cause) : Misapplied cause := by
  unfold Number.relational at failed
  split at failed
  · next cause' compared =>
    cases failed
    unfold Number.compare at compared
    split at compared
    · cases compared
    · cases compared
    · cases compared
      exact .mismatchedNumberTypes
  · cases failed
  · next order _ =>
    split at failed
    · cases failed
    · next unknown => simpa [unknown] using ordering order

theorem onNumbers_error {operator : Token.Kind} {left right : Number} {cause : Cause}
    (known : takesNumbers operator = true) (failed : onNumbers operator left right = .error cause) :
    Misapplied cause := by
  have before {α β : Type} {result : Except Cause α} {change : α → β}
      (failed : result.map change = .error cause) : result = .error cause := by
    cases result with
    | ok value => cases failed
    | error cause' =>
      cases failed
      rfl
  unfold onNumbers at failed
  split at failed
  · cases left <;> cases right <;> cases failed <;> exact .mismatchedNumberTypes
  · cases left <;> cases right <;> cases failed <;> exact .mismatchedNumberTypes
  · cases left <;> cases right <;> cases failed <;> exact .mismatchedNumberTypes
  · exact divide_error (before failed)
  · apply relational_error _ (before failed)
    unfold takesNumbers at known
    split at known <;> simp_all [Number.orderHolds?]

/-- A binary operator fails on values that do not fit it, or because there is none of its kind. -/
theorem binary_error {operator : Token} {left right : Value} {cause : Cause}
    (failed : binary operator left right = .error cause) :
    Misapplied cause ∨
      operator.kind ∉ binaryKinds ∧ cause = .unknownOperator operator.lexeme := by
  unfold binary at failed
  split at failed
  · cases failed
  · next unequal =>
    split at failed
    · next takes =>
      left
      split at failed
      · exact onNumbers_error takes failed
      · cases failed
        exact .expectedNumber
    · next unknown =>
      right
      cases failed
      refine ⟨fun member => ?_, rfl⟩
      simp only [binaryKinds, List.mem_cons, List.not_mem_nil, or_false] at member
      rcases member with is | is | is | is | is | is | is | is | is <;> simp_all [takesNumbers]

theorem unary_error {operator : Token} {operand : Value} {cause : Cause}
    (failed : unary operator operand = .error cause) :
    Misapplied cause ∨
      operator.kind ∉ unaryKinds ∧ cause = .unknownOperator operator.lexeme := by
  unfold unary at failed
  split at failed
  · split at failed
    · cases failed
    · cases failed
      exact .inl .expectedNumber
  · cases failed
  · next signed negated =>
    cases failed
    refine .inr ⟨?_, rfl⟩
    simpa [unaryKinds] using ⟨signed, negated⟩

theorem member_error {target : Value} {name : String} {cause : Cause}
    (failed : member target name = .error cause) : Misapplied cause := by
  unfold member at failed
  split at failed
  · cases failed
  · cases failed
    exact .undefinedMember _ _

end Operator

namespace Environment

/-- An assignment fails on a name that no scope has, or whose nearest binding is immutable. -/
theorem assign_error {environment : Environment} {name : String} {value : Value} {cause : Cause}
    (refused : environment.assign name value = .error cause) :
    cause = .variableNotDeclared name ∨ cause = .assignToImmutable name := by
  induction environment with
  | outermost scope =>
    unfold assign at refused
    split at refused
    · split at refused
      · cases refused
      · cases refused
        exact .inr rfl
    · cases refused
      exact .inl rfl
  | within scope enclosing ih =>
    unfold assign at refused
    split at refused
    · split at refused
      · cases refused
      · cases refused
        exact .inr rfl
    · cases further : enclosing.assign name value with
      | ok after =>
        rw [further] at refused
        cases refused
      | error cause' =>
        rw [further] at refused
        cases refused
        exact ih further

theorem declare_error {environment : Environment} {name : String} {value : Value}
    {mutable : Bool} {cause : Cause}
    (refused : environment.declare name value mutable = .error cause) :
    cause = .variableAlreadyDeclared name := by
  unfold declare at refused
  split at refused
  · cases refused
    rfl
  · cases refused

end Environment

namespace Eval

variable {α β : Type} {averted : Cause → Prop} {fits fits' : Environment → Prop}

/-- From an environment that satisfies a condition, no run of an action fails for an averted
cause. -/
def Averts (averted : Cause → Prop) (fits : Environment → Prop) (action : Eval α) : Prop :=
  ∀ before, fits before → ∀ error, (action.run before).outcome = .error error →
    ¬ averted error.cause

/-- Whenever an action succeeds, it leads from one condition to another. -/
def Leads (fits : Environment → Prop) (action : Eval α) (fits' : Environment → Prop) : Prop :=
  ∀ before, fits before → ∀ value after trace, action.run before = ⟨.ok value, after, trace⟩ →
    fits' after

/-- An action that never changes the environment. -/
theorem Leads.of_state {action : Eval α} (same : ∀ before, (action.run before).state = before) :
    Leads fits action fits := by
  intro before fit value after trace ran
  have unchanged : after = before := by simpa [ran] using same before
  exact unchanged ▸ fit

theorem Leads.anywhere (action : Eval α) : Leads fits action fun _ => True :=
  fun _ _ _ _ _ _ => trivial

/-- Causes that no operator on values, no call, no missing value and no host function raises. -/
structure Foreign (averted : Cause → Prop) : Prop where
  misapplied : ∀ cause, Operator.Misapplied cause → ¬ averted cause
  expectedValue : ¬ averted .expectedValue
  notCallable : ¬ averted .notCallable
  undefinedFunction : ∀ name, ¬ averted (.undefinedFunction name)
  notImplemented : ∀ feature, ¬ averted (.notImplemented feature)
  nativeCall : ∀ error, ¬ averted (.nativeCall error)

namespace Averts

/-- An action that does not fail. -/
theorem of_ok {action : Eval α}
    (fine : ∀ before, ∃ value, (action.run before).outcome = .ok value) :
    Averts averted fits action := by
  intro before _ error failed
  obtain ⟨value, done⟩ := fine before
  rw [done] at failed
  cases failed

theorem pure (value : α) : Averts averted fits (pure value : Eval α) := of_ok fun _ => ⟨value, rfl⟩

theorem fail {error : Error} (other : ¬ averted error.cause) :
    Averts averted fits (Traced.fail error : Eval α) := by
  intro before _ error' failed
  cases failed
  exact other

theorem lift {outcome : Except Cause α} (position : Position)
    (other : ∀ cause, outcome = .error cause → ¬ averted cause) :
    Averts averted fits (lift position outcome) := by
  intro before _ error failed
  cases outcome with
  | ok value => cases failed
  | error cause =>
    cases failed
    exact other cause rfl

theorem bind {action : Eval α} {next : α → Eval β} (first : Averts averted fits action)
    (leads : Leads fits action fits') (second : ∀ value, Averts averted fits' (next value)) :
    Averts averted fits (action >>= next) := by
  intro before fit error failed
  cases ran : action.run before with
  | mk outcome middle trace =>
    cases outcome with
    | error error' =>
      rw [Traced.run_bind_error ran] at failed
      obtain rfl : error' = error := by simpa using failed
      exact first before fit error' (by rw [ran])
    | ok value =>
      rw [Traced.run_bind_ok ran] at failed
      exact second value middle (leads before fit value middle trace ran) error failed

theorem map {action : Eval α} (change : α → β) (first : Averts averted fits action) :
    Averts averted fits (change <$> action) := by
  rw [map_eq_pure_bind]
  exact first.bind (.anywhere action) fun value => pure _

/-- The phrase that an error names is no part of its cause. -/
theorem withContext {action : Eval α} (context : String) (first : Averts averted fits action) :
    Averts averted fits (action.mapError fun error => error.withContext context) := by
  intro before fit error failed
  rw [Traced.run_mapError] at failed
  cases outcome : (action.run before).outcome with
  | ok value =>
    rw [outcome] at failed
    cases failed
  | error error' =>
    rw [outcome] at failed
    cases failed
    exact first before fit error' outcome

theorem inNewScope {action : Eval α} (first : Averts averted fits' action)
    (entered : ∀ before, fits before → fits' before.enter) :
    Averts averted fits (inNewScope action) :=
  fun before fit error failed => first before.enter (entered before fit) error failed

/-- What is known of an action in each environment is enough. -/
theorem of_ensures {action : Eval α} {good : Environment → α → Prop}
    {bad : Environment → Error → Prop}
    (each : ∀ before, action.Ensures (· = before) (good before) (bad before))
    (other : ∀ before, fits before → ∀ error, bad before error → ¬ averted error.cause) :
    Averts averted fits action :=
  fun before fit error failed =>
    other before fit error ((each before).error before rfl error failed)

theorem update {change : Environment → Except Cause Environment} (position : Position)
    (other : ∀ before, fits before → ∀ cause, change before = .error cause → ¬ averted cause) :
    Averts averted fits (update position change) := by
  intro before fit error failed
  cases changed : change before with
  | ok after =>
    rw [run_update_ok changed] at failed
    cases failed
  | error cause =>
    rw [run_update_error changed] at failed
    cases failed
    exact other before fit cause changed

/-- A name fails only where it is neither that of a variable nor that of a function. -/
theorem nameValue (program : List Stmt) (token : Token)
    (known : ∀ before, fits before → before.get? token.lexeme = none →
      findFunction program token.lexeme = none → ¬ averted (.variableNotDeclared token.lexeme)) :
    Averts averted fits (nameValue program token) := by
  refine of_ensures (fun before => nameValue_ensures program before token) ?_
  rintro before fit error ⟨unbound, undefined, rfl⟩
  exact known before fit unbound undefined

variable (foreign : Foreign averted)
include foreign

theorem demand {action : Eval (Option Value)} (expr : Expr)
    (first : Averts averted fits action) : Averts averted fits (expr.demand action) := by
  apply (first.withContext expr.print).bind (.anywhere _)
  intro found
  cases found with
  | none => exact fail foreign.expectedValue
  | some value => exact pure value

theorem binary (operator : Token) (left right : Value)
    (known : operator.kind ∉ Operator.binaryKinds → ¬ averted (.unknownOperator operator.lexeme)) :
    Averts averted fits (some <$> Eval.lift operator.position
      (Operator.binary operator left right)) := by
  apply (lift _ _).map
  intro cause failed
  rcases Operator.binary_error failed with misapplied | ⟨strange, rfl⟩
  · exact foreign.misapplied cause misapplied
  · exact known strange

theorem unary (operator : Token) (operand : Value)
    (known : operator.kind ∉ Operator.unaryKinds → ¬ averted (.unknownOperator operator.lexeme)) :
    Averts averted fits (some <$> Eval.lift operator.position
      (Operator.unary operator operand)) := by
  apply (lift _ _).map
  intro cause failed
  rcases Operator.unary_error failed with misapplied | ⟨strange, rfl⟩
  · exact foreign.misapplied cause misapplied
  · exact known strange

theorem member (target : Value) (member : Token) :
    Averts averted fits (some <$> Eval.lift member.position
      (Operator.member target member.lexeme)) := by
  apply (lift _ _).map
  intro cause failed
  exact foreign.misapplied cause (Operator.member_error failed)

theorem callNative (natives : Registry) (name : String) (arguments : List NativeValue)
    (position : Position) : Averts averted fits (callNative natives name arguments position) := by
  refine of_ensures (fun _ => callNative_ensures natives name arguments position) ?_
  intro before fit error failed
  cases failed with
  | refused is => exact foreign.nativeCall _
  | foreign feature => exact foreign.notImplemented feature

theorem resolveCallee (program : List Stmt) (callee : Expr) :
    Averts averted fits (resolveCallee program callee) := by
  refine of_ensures (fun before => resolveCallee_ensures program before callee) ?_
  intro before fit error failed
  cases failed with
  | uncallable => exact foreign.notCallable
  | undefined means missing => exact foreign.undefinedFunction _
  | foreign feature => exact foreign.notImplemented feature

end Averts
end Eval
end Script
