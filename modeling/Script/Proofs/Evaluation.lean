import Script.Eval.Rules
import Script.Proofs.Traced

set_option autoImplicit false

/- The steps that the rules of a run are made of: for each of them what it does to the environment,
what it yields, and what it fails for. -/
namespace Script

open Error (Cause)
open Traced (Ensures)

namespace Eval

variable {α : Type} {fits : Environment → Prop} {good : α → Prop} {fine : Error → Prop}

theorem lift_ensures {outcome : Except Cause α} {position : Position}
    (value : ∀ value, outcome = .ok value → good value)
    (error : ∀ cause, outcome = .error cause → fine { cause, position }) :
    (lift position outcome).Ensures fits good fine := by
  cases outcome with
  | ok found => exact .pure (value found rfl)
  | error cause => exact .fail (error cause rfl)

section Update

variable {position : Position} {change : Environment → Except Cause Environment}
  {before after : Environment}

theorem run_update_ok (changed : change before = .ok after) :
    (update position change).run before = ⟨.ok (), after, []⟩ := by
  have lifted : (Eval.lift position (change before)).run before = ⟨.ok after, before, []⟩ := by
    rw [changed]
    rfl
  unfold update
  rw [Traced.run_bind_ok (Traced.run_get before), Traced.run_bind_ok lifted]
  rfl

theorem run_update_error {cause : Cause} (refused : change before = .error cause) :
    (update position change).run before = ⟨.error { cause, position }, before, []⟩ := by
  have lifted : (Eval.lift position (change before)).run before =
      ⟨.error { cause, position }, before, []⟩ := by
    rw [refused]
    rfl
  unfold update
  rw [Traced.run_bind_ok (Traced.run_get before), Traced.run_bind_error lifted]
  rfl

/-- What is refused leaves the environment alone. -/
theorem update_ensures
    (changes : ∀ before after, fits before → change before = .ok after → fits after)
    (error : ∀ before cause, fits before → change before = .error cause →
      fine { cause, position }) :
    (update position change).Ensures fits (fun _ => True) fine := by
  suffices each : ∀ before, fits before → fits ((update position change).run before).state ∧
      ∀ failure, ((update position change).run before).outcome = .error failure → fine failure from
    ⟨fun before fit => (each before fit).1, fun _ _ _ _ => trivial,
      fun before fit => (each before fit).2⟩
  intro before fit
  cases changed : change before with
  | ok after =>
    rw [run_update_ok changed]
    exact ⟨changes before after fit changed, nofun⟩
  | error cause =>
    rw [run_update_error changed]
    refine ⟨fit, fun failure is => ?_⟩
    cases is
    exact error before cause fit changed

end Update

theorem heldBy?_ensures (name : String) (before : Environment) :
    (heldBy? name).Ensures (· = before) (· = (before.get? name).map Binding.value) fine := by
  refine ⟨fun _ same => same, ?_, nofun⟩
  rintro _ rfl value is
  cases is
  rfl

theorem printAll_ensures (lines : List String) :
    (printAll lines).Ensures fits (fun _ => True) fine := by
  induction lines with
  | nil => exact .pure trivial
  | cons line rest ih => exact (Ensures.emit _).bind fun _ _ => ih

section Call

/-- What a call of a host function fails for. -/
inductive CallFails (invocation : Invocation) (position : Position) : Error → Prop where
  | refused {error : CallError} (is : invocation.result = .error error) :
      CallFails invocation position { cause := .nativeCall error, position }
  | foreign (feature : String) :
      CallFails invocation position { cause := .notImplemented feature, position }

/-- What the host gives that is no value of the language is told as missing. -/
theorem toValue_error {value : NativeValue} {cause : Cause}
    (failed : value.toValue = .error cause) : ∃ feature, cause = .notImplemented feature := by
  cases value with
  | array items =>
    cases failed
    exact ⟨_, rfl⟩
  | _ => cases failed

variable (natives : Registry) (name : String) (arguments : List NativeValue) (position : Position)

/-- A call is told first, if the host function runs, then what that prints, and then its result. -/
theorem callNative_eq :
    callNative natives name arguments position =
      (if (natives.call name arguments).started then
        Traced.emit (.calling name arguments.length)
      else pure ()) >>= fun _ => (do
        printAll (natives.call name arguments).printed
        let result ← lift position ((natives.call name arguments).result.mapError .nativeCall)
        lift position result.toValue) := by
  unfold callNative
  dsimp only
  split
  · rfl
  · rw [pure_bind]

theorem callNative_ensures :
    (callNative natives name arguments position).Ensures fits
      (fun found => ∃ value, (natives.call name arguments).result = .ok value ∧
        value.toValue = .ok found)
      (CallFails (natives.call name arguments) position) := by
  rw [callNative_eq]
  generalize natives.call name arguments = invocation
  have told : (if invocation.started then Traced.emit (Event.calling name arguments.length)
      else pure () : Eval Unit).Ensures fits (fun _ => True) (CallFails invocation position) := by
    split
    · exact .emit _
    · exact .pure trivial
  have answered : (lift position (invocation.result.mapError Cause.nativeCall)).Ensures fits
      (fun value => invocation.result = .ok value) (CallFails invocation position) := by
    cases is : invocation.result with
    | ok value => exact .pure rfl
    | error error => exact .fail (.refused is)
  refine told.bind fun _ _ => (printAll_ensures _).bind fun _ _ => answered.bind fun value is => ?_
  refine lift_ensures (fun found converted => ⟨value, is, converted⟩) fun cause failed => ?_
  obtain ⟨feature, rfl⟩ := toValue_error failed
  exact .foreign feature

end Call

section Callee

/-- The function that a name means in a call: the one that its variable holds, else the one of the
name. -/
inductive Means (environment : Environment) (name : String) : String → Prop where
  | held {binding : Binding} {function : String} (bound : environment.get? name = some binding)
      (holds : binding.value = .function function) : Means environment name function
  | named (free : environment.get? name = none) : Means environment name name

def calleeName (token : Token) : Eval String := do
  match ← heldBy? token.lexeme with
  | some (.function function) => pure function
  | some _ => raise token.position .notCallable
  | none => pure token.lexeme

/-- The function of a name, which has to be one of the host. -/
def nativeNamed (program : List Stmt) (position : Position) (function : String) :
    Eval Signature :=
  match findFunction program function with
  | none => raise position (.undefinedFunction function)
  | some signature =>
      if signature.hasSpecifier "native" then
        return signature
      else
        raise position (.notImplemented ("Calling non-native function '" ++ function ++ "'"))

theorem resolveCallee_name (program : List Stmt) (token : Token) :
    resolveCallee program (.name token) =
      calleeName token >>= nativeNamed program token.position := by
  unfold resolveCallee calleeName
  rw [bind_assoc]
  refine bind_congr fun held => ?_
  cases held with
  | none => rfl
  | some value => cases value <;> rfl

/-- What the search for the function of a call fails for. -/
inductive CalleeFails (program : List Stmt) (before : Environment) : Expr → Error → Prop where
  | uncallable {callee : Expr} :
      CalleeFails program before callee { cause := .notCallable, position := callee.position }
  | undefined {token : Token} {function : String} (means : Means before token.lexeme function)
      (missing : findFunction program function = none) :
      CalleeFails program before (.name token)
        { cause := .undefinedFunction function, position := token.position }
  | foreign {callee : Expr} (feature : String) :
      CalleeFails program before callee
        { cause := .notImplemented feature, position := callee.position }

variable (program : List Stmt) (before : Environment)

theorem calleeName_ensures (token : Token) :
    (calleeName token).Ensures (· = before) (Means before token.lexeme)
      (CalleeFails program before (.name token)) := by
  refine (heldBy?_ensures token.lexeme before).bind fun held is => ?_
  split
  · next function =>
    obtain ⟨binding, bound, holds⟩ := Option.map_eq_some_iff.mp is.symm
    exact .pure (.held bound holds)
  · exact .fail .uncallable
  · exact .pure (.named (Option.map_eq_none_iff.mp is.symm))

/-- The search for the function of a call leaves the environment alone. -/
theorem resolveCallee_ensures (callee : Expr) :
    (resolveCallee program callee).Ensures (· = before) (fun _ => True)
      (CalleeFails program before callee) := by
  cases callee with
  | name token =>
    rw [resolveCallee_name]
    refine (calleeName_ensures program before token).bind fun function means => ?_
    unfold nativeNamed
    split
    · next missing => exact .fail (.undefined means missing)
    · split
      · exact .pure trivial
      · exact .fail (.foreign _)
  | _ => exact .fail .uncallable

/-- A name stands for what its variable holds, else for the function of the name. -/
theorem nameValue_ensures (token : Token) :
    (nameValue program token).Ensures (· = before)
      (fun found => (∃ binding, before.get? token.lexeme = some binding ∧
          found = some binding.value) ∨
        (findFunction program token.lexeme).isSome ∧ found = some (.function token.lexeme))
      (fun error => before.get? token.lexeme = none ∧ findFunction program token.lexeme = none ∧
        error = { cause := .variableNotDeclared token.lexeme, position := token.position }) := by
  refine (heldBy?_ensures token.lexeme before).bind fun held is => ?_
  cases held with
  | some value =>
    obtain ⟨binding, bound, rfl⟩ := Option.map_eq_some_iff.mp is.symm
    exact .pure (.inl ⟨binding, bound, rfl⟩)
  | none =>
    dsimp only
    split
    · next known => exact .pure (.inr ⟨known, rfl⟩)
    · next unknown =>
      refine .fail ⟨Option.map_eq_none_iff.mp is.symm, ?_, rfl⟩
      simpa using unknown

end Callee

end Eval
end Script
