import Script.Proofs.Scoping

set_option autoImplicit false

/- Which binding a name means. Looking a name up and assigning to it are two walks over the scopes,
and both come to the nearest scope that binds the name. An assignment changes the value that is held
there and nothing else; a declaration adds to the innermost scope and to no other. -/
namespace Script

open Error (Cause)

namespace Scope

theorem lookup_cons (key : String) (binding : Binding) (rest : Scope) (name : String) :
    List.lookup name ((key, binding) :: rest) =
      if name = key then some binding else rest.lookup name := by
  rw [List.lookup_cons]
  by_cases same : name = key
  · simp [same]
  · rw [beq_eq_false_iff_ne.mpr same, if_neg same]

/-- Setting the value of a name changes what is found under it, and nothing else. -/
theorem lookup_setValue (name : String) (value : Value) (scope : Scope) (other : String) :
    (scope.setValue name value).lookup other =
      if other = name then (scope.lookup name).map fun binding => { binding with value }
      else scope.lookup other := by
  induction scope with
  | nil => simp [setValue]
  | cons entry rest ih =>
    obtain ⟨key, held⟩ := entry
    unfold setValue
    by_cases here : name = key
    · subst here
      by_cases same : other = name <;> simp [lookup_cons, same]
    · rw [if_neg (by simpa using here), lookup_cons, lookup_cons, lookup_cons, ih]
      by_cases same : other = name
      · simp [same, here]
      · simp [same]

end Scope

namespace Environment

variable {environment before after : Environment} {level : Nat} {name : String}
  {binding old : Binding} {value : Value}

/-- What the scope at a level binds a name to, with the innermost scope at level zero. -/
def heldAt : Environment → Nat → String → Option Binding
  | outermost scope, 0, name | within scope _, 0, name => scope.lookup name
  | outermost _, _ + 1, _ => none
  | within _ enclosing, level + 1, name => enclosing.heldAt level name

theorem heldAt_zero (environment : Environment) (name : String) :
    environment.heldAt 0 name = environment.innermost.lookup name := by
  cases environment <;> rfl

theorem heldAt_withInnermost (scope : Scope) (level : Nat) :
    (environment.withInnermost scope).heldAt (level + 1) name =
      environment.heldAt (level + 1) name := by
  cases environment <;> rfl

theorem innermost_withInnermost (scope : Scope) :
    (environment.withInnermost scope).innermost = scope := by
  cases environment <;> rfl

theorem parent?_withInnermost (scope : Scope) :
    (environment.withInnermost scope).parent? = environment.parent? := by
  cases environment <;> rfl

theorem heldAt_parent {enclosing : Environment} (around : environment.parent? = some enclosing)
    (level : Nat) : enclosing.heldAt level name = environment.heldAt (level + 1) name := by
  cases environment with
  | outermost scope => cases around
  | within scope enclosing' =>
    cases around
    rfl

/-- Environments with equally many scopes have parents with equally many scopes, or none. -/
theorem parents_of_depth (depth : after.depth = before.depth) :
    before.parent? = none ∧ after.parent? = none ∨
      ∃ enclosing enclosing', before.parent? = some enclosing ∧ after.parent? = some enclosing' ∧
        enclosing'.depth = enclosing.depth := by
  have deep (environment : Environment) : environment.depth ≠ 0 := by
    cases environment <;> exact Nat.succ_ne_zero _
  cases before with
  | outermost scope =>
    cases after with
    | outermost scope' => exact .inl ⟨rfl, rfl⟩
    | within scope' enclosing' => exact absurd (Nat.succ.inj depth) (deep enclosing')
  | within scope enclosing =>
    cases after with
    | outermost scope' => exact absurd (Nat.succ.inj depth).symm (deep enclosing)
    | within scope' enclosing' => exact .inr ⟨_, _, rfl, rfl, Nat.succ.inj depth⟩

theorem depth_withInnermost (scope : Scope) :
    (environment.withInnermost scope).depth = environment.depth := by
  cases environment <;> rfl

/-- The nearest scope that binds a name is the one at the level. -/
structure Nearest (environment : Environment) (name : String) (level : Nat) (binding : Binding) :
    Prop where
  held : environment.heldAt level name = some binding
  closer : ∀ closer < level, environment.heldAt closer name = none

namespace Nearest

theorem here (held : environment.heldAt 0 name = some binding) :
    Nearest environment name 0 binding :=
  ⟨held, fun _ less => absurd less (Nat.not_lt_zero _)⟩

theorem within {scope : Scope} (free : scope.lookup name = none)
    (nearest : Nearest environment name level binding) :
    Nearest (.within scope environment) name (level + 1) binding := by
  refine ⟨nearest.held, fun closer less => ?_⟩
  cases closer with
  | zero => exact free
  | succ closer => exact nearest.closer closer (Nat.lt_of_succ_lt_succ less)

/-- Walking outwards to the nearest scope. -/
theorem induction
    {motive : ∀ environment level, Nearest environment name level binding → Prop}
    (here : ∀ environment (found : environment.innermost.lookup name = some binding),
      motive environment 0 (.here ((environment.heldAt_zero name).trans found)))
    (further : ∀ scope enclosing level (free : scope.lookup name = none)
      (nearest : Nearest enclosing name level binding), motive enclosing level nearest →
        motive (.within scope enclosing) (level + 1) (nearest.within free))
    (nearest : Nearest environment name level binding) : motive environment level nearest := by
  induction level generalizing environment with
  | zero => exact here environment ((environment.heldAt_zero name).symm.trans nearest.held)
  | succ level ih =>
    cases environment with
    | outermost scope => cases nearest.held
    | within scope enclosing =>
      have behind : Nearest enclosing name level binding :=
        ⟨nearest.held, fun closer less => nearest.closer (closer + 1) (Nat.succ_lt_succ less)⟩
      exact further scope enclosing level (nearest.closer 0 (Nat.succ_pos _)) behind (ih behind)

theorem bound (nearest : Nearest environment name level binding) :
    ¬ ∀ level, environment.heldAt level name = none := by
  intro free
  have held := nearest.held
  rw [free] at held
  cases held

/-- Only one scope is the nearest. -/
theorem unique {level' : Nat} {binding' : Binding}
    (first : Nearest environment name level binding)
    (second : Nearest environment name level' binding') : level = level' ∧ binding = binding' := by
  have least {low high : Nat} {held held' : Binding} (lower : Nearest environment name low held)
      (higher : Nearest environment name high held') : ¬ low < high := by
    intro less
    have free := higher.closer low less
    rw [lower.held] at free
    cases free
  obtain rfl : level = level' :=
    Nat.le_antisymm (Nat.le_of_not_lt (least second first)) (Nat.le_of_not_lt (least first second))
  exact ⟨rfl, Option.some.inj (first.held.symm.trans second.held)⟩

end Nearest

/-- A name has a nearest scope, or no scope binds it. -/
theorem nearest_or_none (environment : Environment) (name : String) :
    (∃ level binding, Nearest environment name level binding ∧
        environment.get? name = some binding) ∨
      (∀ level, environment.heldAt level name = none) ∧ environment.get? name = none := by
  induction environment with
  | outermost scope =>
    cases found : scope.lookup name with
    | some binding => exact .inl ⟨0, binding, .here found, found⟩
    | none =>
      refine .inr ⟨fun level => ?_, found⟩
      cases level with
      | zero => exact found
      | succ level => rfl
  | within scope enclosing ih =>
    unfold get?
    cases found : scope.lookup name with
    | some binding => exact .inl ⟨0, binding, .here found, rfl⟩
    | none =>
      rcases ih with ⟨level, binding, nearest, got⟩ | ⟨free, got⟩
      · exact .inl ⟨level + 1, binding, nearest.within found, got⟩
      · refine .inr ⟨fun level => ?_, got⟩
        cases level with
        | zero => exact found
        | succ level => exact free level

/-- Looking a name up finds its nearest binding. -/
theorem get?_eq_some_iff :
    environment.get? name = some binding ↔ ∃ level, Nearest environment name level binding := by
  rcases nearest_or_none environment name with ⟨level, held, nearest, got⟩ | ⟨free, got⟩
  · rw [got, Option.some.injEq]
    constructor
    · rintro rfl
      exact ⟨level, nearest⟩
    · rintro ⟨level', nearest'⟩
      exact (nearest.unique nearest').2
  · rw [got]
    exact ⟨nofun, fun ⟨_, nearest⟩ => absurd free nearest.bound⟩

/-- What is found under a name depends on what is held under it. -/
theorem get?_congr (same : ∀ level, after.heldAt level name = before.heldAt level name) :
    after.get? name = before.get? name := by
  rcases nearest_or_none before name with ⟨level, binding, nearest, got⟩ | ⟨free, got⟩
  · rw [got, get?_eq_some_iff]
    exact ⟨level, (same level).trans nearest.held,
      fun closer less => (same closer).trans (nearest.closer closer less)⟩
  · rcases nearest_or_none after name with ⟨level, binding, nearest, -⟩ | ⟨-, got'⟩
    · exact absurd (fun level => (same level).trans (free level)) nearest.bound
    · rw [got, got']

/-- What is found around the innermost scope depends on what is held around it. -/
theorem parent?_get?_congr (depth : after.depth = before.depth)
    (same : ∀ level, after.heldAt (level + 1) name = before.heldAt (level + 1) name) :
    after.parent?.bind (get? name) = before.parent?.bind (get? name) := by
  rcases parents_of_depth depth with ⟨none, none'⟩ | ⟨enclosing, enclosing', around, around', -⟩
  · rw [none, none']
  · rw [around, around']
    refine get?_congr fun level => ?_
    rw [heldAt_parent around, heldAt_parent around', same]

/-- One scope binds one name to something else, or for the first time. Nothing else is changed. -/
structure Changed (level : Nat) (name : String) (binding : Binding)
    (before after : Environment) : Prop where
  depth : after.depth = before.depth
  held : ∀ level' name', after.heldAt level' name' =
    if level' = level ∧ name' = name then some binding else before.heldAt level' name'

namespace Changed

theorem self (changed : Changed level name binding before after) :
    after.heldAt level name = some binding := by
  rw [changed.held, if_pos ⟨rfl, rfl⟩]

theorem other (changed : Changed level name binding before after) {level' : Nat} {name' : String}
    (elsewhere : ¬ (level' = level ∧ name' = name)) :
    after.heldAt level' name' = before.heldAt level' name' := by
  rw [changed.held, if_neg elsewhere]

/-- What is bound stays bound. -/
theorem bound (changed : Changed level name binding before after) {level' : Nat} {name' : String}
    (bound : before.heldAt level' name' ≠ none) : after.heldAt level' name' ≠ none := by
  rw [changed.held]
  split
  · exact nofun
  · exact bound

/-- Changing the binding of a name in the innermost scope. -/
theorem innermost {scope : Scope}
    (held : ∀ name', scope.lookup name' =
      if name' = name then some binding else environment.innermost.lookup name') :
    Changed 0 name binding environment (environment.withInnermost scope) := by
  refine ⟨depth_withInnermost scope, fun level' name' => ?_⟩
  cases level' with
  | zero => simp [heldAt_zero, innermost_withInnermost, held]
  | succ level' => simp [heldAt_withInnermost]

theorem within (scope : Scope) (changed : Changed level name binding before after) :
    Changed (level + 1) name binding (.within scope before) (.within scope after) := by
  refine ⟨congrArg (· + 1) changed.depth, fun level' name' => ?_⟩
  cases level' with
  | zero => rfl
  | succ level' => simpa [heldAt] using changed.held level' name'

/-- A change of the nearest binding is what is found under the name from then on. -/
theorem get? (changed : Changed level name binding before after)
    (free : ∀ closer < level, before.heldAt closer name = none) :
    after.get? name = some binding := by
  refine get?_eq_some_iff.mpr ⟨level, changed.self, fun closer less => ?_⟩
  rw [changed.other fun same => absurd same.1 (Nat.ne_of_lt less)]
  exact free closer less

end Changed

/-- An assignment to a name that the innermost scope binds. -/
theorem assign_here (value : Value) (found : environment.innermost.lookup name = some binding) :
    environment.assign name value =
      if binding.mutable then
        .ok (environment.withInnermost (environment.innermost.setValue name value))
      else .error (.assignToImmutable name) := by
  cases environment <;> simp only [innermost] at found <;>
    simp only [assign, found, withInnermost, innermost]

/-- An assignment to a name that the innermost scope does not bind. -/
theorem assign_within {scope : Scope} (value : Value) (free : scope.lookup name = none) :
    (within scope environment).assign name value =
      (environment.assign name value).map (within scope) := by
  simp only [assign, free]

/-- An assignment walks to the nearest scope that binds its name, and changes a mutable binding. -/
theorem assign_of_mutable (value : Value) (nearest : Nearest environment name level binding)
    (mutable : binding.mutable = true) :
    ∃ after, environment.assign name value = .ok after ∧
      Changed level name { binding with value } environment after := by
  induction nearest using Nearest.induction with
  | here environment found =>
    refine ⟨_, (assign_here value found).trans (if_pos mutable), .innermost fun name' => ?_⟩
    rw [Scope.lookup_setValue, found]
    rfl
  | further scope enclosing level free nearest ih =>
    obtain ⟨after, assigned, changed⟩ := ih
    exact ⟨within scope after, by rw [assign_within value free, assigned]; rfl,
      changed.within scope⟩

theorem assign_of_immutable (value : Value) (nearest : Nearest environment name level binding)
    (immutable : binding.mutable = false) :
    environment.assign name value = .error (.assignToImmutable name) := by
  induction nearest using Nearest.induction with
  | here environment found => exact (assign_here value found).trans (if_neg (by simp [immutable]))
  | further scope enclosing level free nearest ih =>
    rw [assign_within value free, ih]
    rfl

theorem assign_of_free (value : Value) (free : ∀ level, environment.heldAt level name = none) :
    environment.assign name value = .error (.variableNotDeclared name) := by
  induction environment with
  | outermost scope =>
    have absent : scope.lookup name = none := free 0
    simp only [assign, absent]
  | within scope enclosing ih =>
    rw [assign_within value (free 0), ih fun level => free (level + 1)]
    rfl

theorem declare_of_free (value : Value) (mutable : Bool)
    (free : environment.heldAt 0 name = none) :
    ∃ after, environment.declare name value mutable = .ok after ∧
      Changed 0 name ⟨mutable, value⟩ environment after ∧ after.parent? = environment.parent? := by
  rw [heldAt_zero] at free
  refine ⟨_, if_neg (by simp [free]), .innermost fun name' => ?_, parent?_withInnermost _⟩
  exact Scope.lookup_cons ..

theorem declare_of_bound (value : Value) (mutable : Bool)
    (bound : environment.heldAt 0 name ≠ none) :
    environment.declare name value mutable = .error (.variableAlreadyDeclared name) := by
  rw [heldAt_zero] at bound
  exact if_pos (Option.isSome_iff_ne_none.mpr bound)

/-- The environment behind a change, which is the one before it if the change is refused. -/
def changedBy (change : Environment → Except Cause Environment) (environment : Environment) :
    Environment :=
  ((Eval.update .null change).run environment).state

theorem changedBy_ok {change : Environment → Except Cause Environment}
    (changed : change before = .ok after) : changedBy change before = after := by
  rw [changedBy, Eval.run_update_ok changed]

theorem changedBy_error {change : Environment → Except Cause Environment} {cause : Cause}
    (refused : change before = .error cause) : changedBy change before = before := by
  rw [changedBy, Eval.run_update_error refused]

/-- All that may be changed is a binding of the name which no nearer scope shadows. -/
def Touches (name : String) (before after : Environment) : Prop :=
  after = before ∨ ∃ level binding, (∀ closer < level, before.heldAt closer name = none) ∧
    Changed level name binding before after

theorem assign_touches (environment : Environment) (name : String) (value : Value) :
    Touches name environment (changedBy (Environment.assign name value) environment) := by
  rcases nearest_or_none environment name with ⟨level, old, nearest, -⟩ | ⟨free, -⟩
  · cases mutable : old.mutable with
    | true =>
      obtain ⟨after, assigned, changed⟩ := assign_of_mutable value nearest mutable
      rw [changedBy_ok assigned]
      exact .inr ⟨level, _, nearest.closer, changed⟩
    | false => exact .inl (changedBy_error (assign_of_immutable value nearest mutable))
  · exact .inl (changedBy_error (assign_of_free value free))

theorem declare_touches (environment : Environment) (name : String) (value : Value)
    (mutable : Bool) :
    Touches name environment
      (changedBy (fun environment => environment.declare name value mutable) environment) := by
  by_cases free : environment.heldAt 0 name = none
  · obtain ⟨after, declared, changed, -⟩ := declare_of_free value mutable free
    rw [changedBy_ok declared]
    exact .inr ⟨0, _, fun _ less => absurd less (Nat.not_lt_zero _), changed⟩
  · exact .inl (changedBy_error (declare_of_bound value mutable free))

end Environment
end Script
