import Script.Proofs.Bindings.Nearest

set_option autoImplicit false

/- What remains of a declaration. Whatever is done with variables in the scope that it was made in,
and in scopes inside that one, the bindings of its name around that scope stay as they were, and
other names are bound as if it had not been made. -/
namespace Script.Environment

variable {before after : Environment} {level : Nat} {name : String} {binding : Binding}

/-- Things done with variables one after the other: what is refused changes nothing, and a scope
that is entered is left again. -/
inductive Step where
  | declare (name : String) (value : Value) (mutable : Bool)
  | assign (name : String) (value : Value)
  | scope (body : List Step)

mutual

def Step.run : Step → Environment → Environment
  | .declare name value mutable, environment =>
      changedBy (fun environment => environment.declare name value mutable) environment
  | .assign name value, environment => changedBy (Environment.assign name value) environment
  | .scope body, environment => (Step.runAll body environment.enter).leave

def Step.runAll : List Step → Environment → Environment
  | [], environment => environment
  | step :: rest, environment => Step.runAll rest (step.run environment)

end

/-- Two environments that differ at most in what a name is bound to. -/
structure AlikeBut (name : String) (first second : Environment) : Prop where
  depth : second.depth = first.depth
  held : ∀ level other, other ≠ name → second.heldAt level other = first.heldAt level other

namespace AlikeBut

variable {first second : Environment}

theorem refl (name : String) (environment : Environment) : AlikeBut name environment environment :=
  ⟨rfl, fun _ _ _ => rfl⟩

theorem symm (alike : AlikeBut name first second) : AlikeBut name second first :=
  ⟨alike.depth.symm, fun level other different => (alike.held level other different).symm⟩

theorem trans {third : Environment} (before : AlikeBut name first second)
    (behind : AlikeBut name second third) : AlikeBut name first third where
  depth := behind.depth.trans before.depth
  held level other different :=
    (behind.held level other different).trans (before.held level other different)

/-- The same change of another name on both sides. -/
theorem changed {other : String} {first' second' : Environment}
    (alike : AlikeBut name first second) (left : Changed level other binding first first')
    (right : Changed level other binding second second') : AlikeBut name first' second' where
  depth := right.depth.trans (alike.depth.trans left.depth.symm)
  held level' other' different := by
    rw [left.held, right.held, alike.held level' other' different]

theorem nearest {other : String} (alike : AlikeBut name first second) (different : other ≠ name)
    (nearest : Nearest first other level binding) : Nearest second other level binding where
  held := (alike.held level other different).trans nearest.held
  closer closer less := (alike.held closer other different).trans (nearest.closer closer less)

theorem enter (alike : AlikeBut name first second) : AlikeBut name first.enter second.enter := by
  refine ⟨congrArg (· + 1) alike.depth, fun level other different => ?_⟩
  cases level with
  | zero => rfl
  | succ level => exact alike.held level other different

theorem leave (alike : AlikeBut name first second) : AlikeBut name first.leave second.leave := by
  unfold Environment.leave
  rcases parents_of_depth alike.depth with ⟨none, none'⟩ | ⟨_, _, around, around', depth⟩
  · rw [none, none']
    exact alike
  · rw [around, around']
    refine ⟨depth, fun level other different => ?_⟩
    have held := alike.held (level + 1) other different
    rwa [← heldAt_parent around, ← heldAt_parent around'] at held

theorem of_touches (touches : Touches name before after) : AlikeBut name before after := by
  rcases touches with rfl | ⟨level, binding, -, changed⟩
  · exact .refl ..
  · exact ⟨changed.depth, fun _ _ different => changed.other fun same => different same.2⟩

/-- What is done to the name on either side makes no difference. -/
theorem touched (alike : AlikeBut name first second) {first' second' : Environment}
    (left : Touches name first first') (right : Touches name second second') :
    AlikeBut name first' second' :=
  (of_touches left).symm.trans (alike.trans (of_touches right))

/-- An assignment to another name does the same on both sides. -/
theorem assign (alike : AlikeBut name first second) (other : String) (value : Value) :
    AlikeBut name (changedBy (Environment.assign other value) first)
      (changedBy (Environment.assign other value) second) := by
  by_cases same : other = name
  · subst same
    exact alike.touched (assign_touches ..) (assign_touches ..)
  rcases nearest_or_none first other with ⟨level, old, nearest, -⟩ | ⟨free, -⟩
  · have nearest' := alike.nearest same nearest
    cases mutable : old.mutable with
    | true =>
      obtain ⟨first', assigned, changed⟩ := assign_of_mutable value nearest mutable
      obtain ⟨second', assigned', changed'⟩ := assign_of_mutable value nearest' mutable
      rw [changedBy_ok assigned, changedBy_ok assigned']
      exact alike.changed changed changed'
    | false =>
      rw [changedBy_error (assign_of_immutable value nearest mutable),
        changedBy_error (assign_of_immutable value nearest' mutable)]
      exact alike
  · have free' (level : Nat) : second.heldAt level other = none :=
      (alike.held level other same).trans (free level)
    rw [changedBy_error (assign_of_free value free),
      changedBy_error (assign_of_free value free')]
    exact alike

theorem declare (alike : AlikeBut name first second) (other : String) (value : Value)
    (mutable : Bool) :
    AlikeBut name (changedBy (fun environment => environment.declare other value mutable) first)
      (changedBy (fun environment => environment.declare other value mutable) second) := by
  by_cases same : other = name
  · subst same
    exact alike.touched (declare_touches ..) (declare_touches ..)
  have held := alike.held 0 other same
  by_cases free : first.heldAt 0 other = none
  · obtain ⟨first', declared, changed, -⟩ := declare_of_free value mutable free
    obtain ⟨second', declared', changed', -⟩ := declare_of_free value mutable (held.trans free)
    rw [changedBy_ok declared, changedBy_ok declared']
    exact alike.changed changed changed'
  · rw [changedBy_error (declare_of_bound value mutable free),
      changedBy_error (declare_of_bound value mutable (held ▸ free))]
    exact alike

mutual

/-- Steps lead from environments that differ in a name to such ones. -/
theorem run : ∀ {first second : Environment} (step : Step), AlikeBut name first second →
    AlikeBut name (step.run first) (step.run second)
  | _, _, .declare other value mutable, alike => by
    rw [Step.run, Step.run]
    exact alike.declare other value mutable
  | _, _, .assign other value, alike => by
    rw [Step.run, Step.run]
    exact alike.assign other value
  | _, _, .scope body, alike => by
    rw [Step.run, Step.run]
    exact (runAll body alike.enter).leave

theorem runAll : ∀ {first second : Environment} (steps : List Step), AlikeBut name first second →
    AlikeBut name (Step.runAll steps first) (Step.runAll steps second)
  | _, _, [], alike => by
    rw [Step.runAll, Step.runAll]
    exact alike
  | _, _, step :: rest, alike => by
    rw [Step.runAll, Step.runAll]
    exact runAll rest (run step alike)

end

end AlikeBut

/-- What is done while a scope binds a name leaves the bindings of the name around that scope
alone. No binding is dropped. -/
structure Shelters (name : String) (before after : Environment) : Prop where
  depth : after.depth = before.depth
  bound : ∀ level, before.heldAt level name ≠ none → after.heldAt level name ≠ none
  around : ∀ level, before.heldAt level name ≠ none → ∀ further, level < further →
    after.heldAt further name = before.heldAt further name

namespace Shelters

variable {first second third : Environment}

theorem refl (name : String) (environment : Environment) : Shelters name environment environment :=
  ⟨rfl, fun _ bound => bound, fun _ _ _ _ => rfl⟩

theorem trans (before : Shelters name first second) (behind : Shelters name second third) :
    Shelters name first third where
  depth := behind.depth.trans before.depth
  bound level bound := behind.bound level (before.bound level bound)
  around level bound further above :=
    (behind.around level (before.bound level bound) further above).trans
      (before.around level bound further above)

theorem of_touches {other : String} (touches : Touches other before after) :
    Shelters name before after := by
  rcases touches with rfl | ⟨level, binding, free, changed⟩
  · exact .refl ..
  refine ⟨changed.depth, fun _ => changed.bound, fun level' bound further above => ?_⟩
  -- Were it the name that is changed around its scope, then that scope would shadow the change.
  refine changed.other fun ⟨place, same⟩ => bound ?_
  exact same ▸ free level' (place ▸ above)

/-- A scope that is entered, and left again. -/
theorem scope {inside : Environment} (shelters : Shelters name before.enter inside) :
    Shelters name before inside.leave := by
  cases inside with
  | outermost scope =>
    have depth := shelters.depth
    cases before <;> cases depth
  | within scope enclosing =>
    exact ⟨Nat.succ.inj shelters.depth, fun level => shelters.bound (level + 1),
      fun level bound _ above =>
        shelters.around (level + 1) bound _ (Nat.succ_lt_succ above)⟩

mutual

theorem run : ∀ (step : Step) (environment : Environment),
    Shelters name environment (step.run environment)
  | .declare other value mutable, environment => by
    rw [Step.run]
    exact .of_touches (declare_touches environment other value mutable)
  | .assign other value, environment => by
    rw [Step.run]
    exact .of_touches (assign_touches environment other value)
  | .scope body, environment => by
    rw [Step.run]
    exact (runAll body environment.enter).scope

theorem runAll : ∀ (steps : List Step) (environment : Environment),
    Shelters name environment (Step.runAll steps environment)
  | [], environment => by
    rw [Step.runAll]
    exact .refl ..
  | step :: rest, environment => by
    rw [Step.runAll]
    exact (run step environment).trans (runAll rest (step.run environment))

end

end Shelters

/-- What an assignment does. It changes the value of the nearest binding of its name, if that one is
mutable. If not, it fails and changes nothing. -/
structure Assigns (name : String) (value : Value) (position : Position) (before : Environment)
    (done : Run Environment Eval.Event Error Unit) : Prop where
  succeeds : done.outcome = .ok () ↔ ∃ level old, Nearest before name level old ∧ old.mutable = true
  changes : ∀ level old, Nearest before name level old → old.mutable = true →
    Changed level name { old with value } before done.state ∧
      done.state.get? name = some { old with value }
  fails : ∀ error, done.outcome = .error error → done.state = before ∧
    ((∃ level old, Nearest before name level old) ∧
        error = { cause := .assignToImmutable name, position } ∨
      (∀ level, before.heldAt level name = none) ∧
        error = { cause := .variableNotDeclared name, position })

/-- What a declaration does. It binds its name in the innermost scope, which must not bind it yet,
and changes nothing else. Whatever follows, once that scope is left nothing remains of it: other
names are bound as if it had not been made, and the name itself as before. -/
structure Declares (name : String) (binding : Binding) (position : Position) (before : Environment)
    (done : Run Environment Eval.Event Error Unit) : Prop where
  succeeds : done.outcome = .ok () ↔ before.heldAt 0 name = none
  changes : before.heldAt 0 name = none → Changed 0 name binding before done.state ∧
    done.state.get? name = some binding ∧ done.state.parent? = before.parent?
  fails : ∀ error, done.outcome = .error error → done.state = before ∧
    error = { cause := .variableAlreadyDeclared name, position }
  others : ∀ steps other, other ≠ name →
    (Step.runAll steps done.state).parent?.bind (get? other) =
      (Step.runAll steps before).parent?.bind (get? other)
  itself : ∀ steps,
    (Step.runAll steps done.state).parent?.bind (get? name) = before.parent?.bind (get? name)

theorem assigns (name : String) (value : Value) (position : Position) (before : Environment) :
    Assigns name value position before
      ((Eval.update position (Environment.assign name value)).run before) := by
  rcases nearest_or_none before name with ⟨level, old, nearest, -⟩ | ⟨free, -⟩
  · cases mutable : old.mutable with
    | true =>
      obtain ⟨after, assigned, changed⟩ := assign_of_mutable value nearest mutable
      rw [Eval.run_update_ok assigned]
      refine ⟨⟨fun _ => ⟨level, old, nearest, mutable⟩, fun _ => rfl⟩, ?_, nofun⟩
      intro level' old' nearest' mutable'
      obtain ⟨rfl, rfl⟩ := nearest.unique nearest'
      exact ⟨changed, changed.get? nearest.closer⟩
    | false =>
      have unlike (level' : Nat) (old' : Binding) (nearest' : Nearest before name level' old') :
          ¬ old'.mutable = true := by
        rw [← (nearest.unique nearest').2, mutable]
        exact Bool.false_ne_true
      rw [Eval.run_update_error (assign_of_immutable value nearest mutable)]
      refine ⟨⟨nofun, fun ⟨_, _, nearest', mutable'⟩ => ?_⟩, fun _ _ nearest' mutable' => ?_, ?_⟩
      · exact absurd mutable' (unlike _ _ nearest')
      · exact absurd mutable' (unlike _ _ nearest')
      · rintro error ⟨⟩
        exact ⟨rfl, .inl ⟨⟨level, old, nearest⟩, rfl⟩⟩
  · rw [Eval.run_update_error (assign_of_free value free)]
    refine ⟨⟨nofun, fun ⟨_, _, nearest, _⟩ => absurd free nearest.bound⟩,
      fun _ _ nearest => absurd free nearest.bound, ?_⟩
    rintro error ⟨⟩
    exact ⟨rfl, .inr ⟨free, rfl⟩⟩

/-- Whether a declaration succeeds or not, nothing remains of it once its scope is left. -/
theorem left_of_declared {declared : Environment} (alike : AlikeBut name before declared)
    (bound : declared.heldAt 0 name ≠ none)
    (around : ∀ level, declared.heldAt (level + 1) name = before.heldAt (level + 1) name)
    (steps : List Step) :
    (∀ other, other ≠ name → (Step.runAll steps declared).parent?.bind (get? other) =
      (Step.runAll steps before).parent?.bind (get? other)) ∧
    (Step.runAll steps declared).parent?.bind (get? name) = before.parent?.bind (get? name) := by
  have after := alike.runAll steps
  have shelters : Shelters name declared (Step.runAll steps declared) := .runAll steps declared
  refine ⟨fun other different => ?_, ?_⟩
  · exact parent?_get?_congr after.depth fun level => after.held (level + 1) other different
  · refine parent?_get?_congr (shelters.depth.trans alike.depth) fun level => ?_
    exact (shelters.around 0 bound (level + 1) (Nat.succ_pos _)).trans (around level)

theorem declares (name : String) (value : Value) (mutable : Bool) (position : Position)
    (before : Environment) :
    Declares name ⟨mutable, value⟩ position before
      ((Eval.update position fun environment => environment.declare name value mutable).run
        before) := by
  by_cases free : before.heldAt 0 name = none
  · obtain ⟨after, declared, changed, around⟩ := declare_of_free value mutable free
    have touches := declare_touches before name value mutable
    rw [changedBy_ok declared] at touches
    have bound : after.heldAt 0 name ≠ none := changed.self ▸ nofun
    have left := left_of_declared (.of_touches touches) bound fun level =>
      changed.other fun same => absurd same.1 (Nat.succ_ne_zero level)
    rw [Eval.run_update_ok declared]
    have found := changed.get? fun _ less => absurd less (Nat.not_lt_zero _)
    exact ⟨⟨fun _ => free, fun _ => rfl⟩, fun _ => ⟨changed, found, around⟩, nofun,
      fun steps => (left steps).1, fun steps => (left steps).2⟩
  · rw [Eval.run_update_error (declare_of_bound value mutable free)]
    have left := left_of_declared (.refl name before) free fun _ => rfl
    refine ⟨⟨nofun, fun free' => absurd free' free⟩, fun free' => absurd free' free, ?_,
      fun steps => (left steps).1, fun steps => (left steps).2⟩
    rintro error ⟨⟩
    exact ⟨rfl, rfl⟩

/-- Looking names up, assigning to them and declaring them agree on what a name means. A name is
found where its nearest binding is; an assignment changes the value of that binding, and a
declaration adds one to the innermost scope. Nothing else is changed, and nothing at all by a
failure. -/
theorem names_mean_nearest_bindings (before : Environment) (name : String) (value : Value)
    (position : Position) :
    (∀ binding, before.get? name = some binding ↔
      ∃ level, Nearest before name level binding) ∧
    Assigns name value position before
      ((Eval.update position (Environment.assign name value)).run before) ∧
    ∀ mutable, Declares name ⟨mutable, value⟩ position before
      ((Eval.update position fun environment => environment.declare name value mutable).run
        before) :=
  ⟨fun _ => get?_eq_some_iff, assigns name value position before,
    fun mutable => declares name value mutable position before⟩

end Script.Environment
