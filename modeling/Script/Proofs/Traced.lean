import Script.Traced

set_option autoImplicit false

/- Runs of computations made of parts. The trace of a sequence is the traces of its parts, one
behind the other, and a failure ends it where it happens. -/
namespace Script

variable {σ ω ε α β : Type}

/-- The run with events before its own. -/
def Run.behind (events : List ω) (done : Run σ ω ε α) : Run σ ω ε α :=
  { done with trace := events ++ done.trace }

@[simp] theorem Run.behind_nil (done : Run σ ω ε α) : done.behind [] = done := rfl

@[simp] theorem Run.behind_mk (events : List ω) (outcome : Except ε α) (state : σ)
    (trace : List ω) :
    (Run.mk outcome state trace).behind events = ⟨outcome, state, events ++ trace⟩ := rfl

namespace Traced

@[simp] theorem run_pure (value : α) (state : σ) :
    (pure value : Traced σ ω ε α).run state = ⟨.ok value, state, []⟩ := rfl

@[simp] theorem run_fail (error : ε) (state : σ) :
    (fail error : Traced σ ω ε α).run state = ⟨.error error, state, []⟩ := rfl

@[simp] theorem run_get (state : σ) :
    (get : Traced σ ω ε σ).run state = ⟨.ok state, state, []⟩ := rfl

@[simp] theorem run_gets (view : σ → α) (state : σ) :
    (gets view : Traced σ ω ε α).run state = ⟨.ok (view state), state, []⟩ := rfl

@[simp] theorem run_modify (change : σ → σ) (state : σ) :
    (modify change : Traced σ ω ε Unit).run state = ⟨.ok (), change state, []⟩ := rfl

@[simp] theorem run_emit (event : ω) (state : σ) :
    (emit event : Traced σ ω ε Unit).run state = ⟨.ok (), state, [event]⟩ := rfl

@[simp] theorem run_ofExcept (outcome : Except ε α) (state : σ) :
    (ofExcept outcome : Traced σ ω ε α).run state = ⟨outcome, state, []⟩ := rfl

theorem run_attempt (action : Traced σ ω ε α) (state : σ) :
    action.attempt.run state =
      ⟨.ok (action.run state).outcome, (action.run state).state, (action.run state).trace⟩ := rfl

@[simp] theorem run_mapError (change : ε → ε) (action : Traced σ ω ε α) (state : σ) :
    (action.mapError change).run state =
      ⟨(action.run state).outcome.mapError change, (action.run state).state,
        (action.run state).trace⟩ := by
  simp only [run, mapError]
  cases action state with
  | mk outcome state' trace => cases outcome <;> rfl

theorem run_bind_ok {action : Traced σ ω ε α} {next : α → Traced σ ω ε β} {state state' : σ}
    {value : α} {trace : List ω} (ran : action.run state = ⟨.ok value, state', trace⟩) :
    (action >>= next).run state = ((next value).run state').behind trace := by
  change Traced.bind action next state = _
  simp only [run] at ran
  simp only [Traced.bind, ran, run, Run.behind]

theorem run_bind_error {action : Traced σ ω ε α} {next : α → Traced σ ω ε β} {state state' : σ}
    {error : ε} {trace : List ω} (ran : action.run state = ⟨.error error, state', trace⟩) :
    (action >>= next).run state = ⟨.error error, state', trace⟩ := by
  change Traced.bind action next state = _
  simp only [run] at ran
  simp only [Traced.bind, ran]

/-- A sequence goes on with what its first part goes on with. -/
theorem run_bind_behind {action other : Traced σ ω ε α} {next : α → Traced σ ω ε β}
    {state state' : σ} {events : List ω}
    (ran : action.run state = (other.run state').behind events) :
    (action >>= next).run state = ((other >>= next).run state').behind events := by
  cases rest : other.run state' with
  | mk outcome last trace =>
    rw [rest, Run.behind_mk] at ran
    cases outcome with
    | error error => rw [run_bind_error ran, run_bind_error rest, Run.behind_mk]
    | ok value =>
      rw [run_bind_ok ran, run_bind_ok rest]
      simp [Run.behind]

/-- A sequence succeeds if and only if both of its parts do. -/
theorem run_bind_eq_ok {action : Traced σ ω ε α} {next : α → Traced σ ω ε β} {state last : σ}
    {result : β} {trace : List ω} :
    (action >>= next).run state = ⟨.ok result, last, trace⟩ ↔
      ∃ value middle before behind, action.run state = ⟨.ok value, middle, before⟩ ∧
        (next value).run middle = ⟨.ok result, last, behind⟩ ∧ trace = before ++ behind := by
  constructor
  · intro ran
    cases first : action.run state with
    | mk outcome middle before =>
      cases outcome with
      | error error => rw [run_bind_error first] at ran; cases ran
      | ok value =>
        rw [run_bind_ok first] at ran
        cases second : (next value).run middle with
        | mk outcome' last' behind =>
          rw [second] at ran
          cases ran
          exact ⟨value, middle, before, behind, rfl, second, rfl⟩
  · rintro ⟨value, middle, before, behind, first, second, rfl⟩
    rw [run_bind_ok first, second, Run.behind_mk]

/-- A sequence fails in one of its parts. -/
theorem outcome_bind_eq_error {action : Traced σ ω ε α} {next : α → Traced σ ω ε β} {state : σ}
    {error : ε} (failed : ((action >>= next).run state).outcome = .error error) :
    (action.run state).outcome = .error error ∨
      ∃ value, (action.run state).outcome = .ok value ∧
        ((next value).run (action.run state).state).outcome = .error error := by
  cases ran : action.run state with
  | mk outcome middle trace =>
    cases outcome with
    | error error' =>
      rw [run_bind_error ran] at failed
      cases failed
      exact .inl rfl
    | ok value =>
      rw [run_bind_ok ran] at failed
      exact .inr ⟨value, rfl, failed⟩

/-- Whenever a run of a computation fails, its error satisfies a condition. -/
structure Fails (fine : ε → Prop) (action : Traced σ ω ε α) : Prop where
  error : ∀ before error, (action.run before).outcome = .error error → fine error

namespace Fails

variable {fine : ε → Prop}

/-- A computation that does not fail. -/
theorem of_ok {action : Traced σ ω ε α}
    (never : ∀ before, ∃ value, (action.run before).outcome = .ok value) : Fails fine action := by
  refine ⟨fun before error failed => ?_⟩
  obtain ⟨value, done⟩ := never before
  rw [done] at failed
  cases failed

theorem pure (value : α) : Fails fine (pure value : Traced σ ω ε α) :=
  of_ok fun _ => ⟨value, rfl⟩

theorem fail {error : ε} (holds : fine error) :
    Fails fine (Traced.fail error : Traced σ ω ε α) := by
  refine ⟨fun before error' failed => ?_⟩
  cases failed
  exact holds

theorem bind {action : Traced σ ω ε α} {next : α → Traced σ ω ε β} (first : Fails fine action)
    (second : ∀ value, Fails fine (next value)) : Fails fine (action >>= next) := by
  refine ⟨fun before error failed => ?_⟩
  rcases outcome_bind_eq_error failed with early | ⟨value, -, late⟩
  · exact first.error before error early
  · exact (second value).error _ error late

theorem map {action : Traced σ ω ε α} (change : α → β) (first : Fails fine action) :
    Fails fine (change <$> action) := by
  rw [map_eq_pure_bind]
  exact first.bind fun value => pure _

theorem imp {weaker : ε → Prop} {action : Traced σ ω ε α} (first : Fails fine action)
    (weakens : ∀ error, fine error → weaker error) : Fails weaker action :=
  ⟨fun before error failed => weakens error (first.error before error failed)⟩

end Fails

/-- A computation that, begun in a state that fits, ends in one that fits, with a value or an error
of which something holds. -/
structure Ensures (fits : σ → Prop) (good : α → Prop) (fine : ε → Prop)
    (action : Traced σ ω ε α) : Prop where
  state : ∀ before, fits before → fits (action.run before).state
  value : ∀ before, fits before → ∀ value, (action.run before).outcome = .ok value → good value
  error : ∀ before, fits before → ∀ error, (action.run before).outcome = .error error → fine error

namespace Ensures

variable {fits : σ → Prop} {good : α → Prop} {good' : β → Prop} {fine : ε → Prop}

theorem pure {value : α} (holds : good value) :
    Ensures fits good fine (pure value : Traced σ ω ε α) where
  state _ fit := fit
  value _ _ value' is := by
    cases is
    exact holds
  error _ _ _ is := by cases is

theorem fail {error : ε} (holds : fine error) :
    Ensures fits good fine (Traced.fail error : Traced σ ω ε α) where
  state _ fit := fit
  value _ _ _ is := by cases is
  error _ _ error' is := by
    cases is
    exact holds

theorem emit (event : ω) :
    Ensures fits (fun _ => True) fine (Traced.emit event : Traced σ ω ε Unit) where
  state _ fit := fit
  value _ _ _ _ := trivial
  error _ _ _ is := by cases is

theorem bind {action : Traced σ ω ε α} {next : α → Traced σ ω ε β}
    (first : Ensures fits good fine action)
    (second : ∀ value, good value → Ensures fits good' fine (next value)) :
    Ensures fits good' fine (action >>= next) := by
  suffices each : ∀ before, fits before → fits ((action >>= next).run before).state ∧
      (∀ value, ((action >>= next).run before).outcome = .ok value → good' value) ∧
      ∀ error, ((action >>= next).run before).outcome = .error error → fine error from
    ⟨fun before fit => (each before fit).1, fun before fit => (each before fit).2.1,
      fun before fit => (each before fit).2.2⟩
  intro before fit
  have state := first.state before fit
  have value := first.value before fit
  have error := first.error before fit
  cases ran : action.run before with
  | mk outcome middle trace =>
    rw [ran] at state value error
    cases outcome with
    | error error' =>
      rw [run_bind_error ran]
      refine ⟨state, nofun, fun error'' is => ?_⟩
      cases is
      exact error error' rfl
    | ok value' =>
      rw [run_bind_ok ran]
      have behind := second value' (value value' rfl)
      exact ⟨behind.state middle state, behind.value middle state, behind.error middle state⟩

theorem map {action : Traced σ ω ε α} {change : α → β}
    (first : Ensures fits (fun value => good' (change value)) fine action) :
    Ensures fits good' fine (change <$> action) := by
  rw [map_eq_pure_bind]
  exact first.bind fun value holds => .pure holds

theorem imp {weaker : α → Prop} {milder : ε → Prop} {action : Traced σ ω ε α}
    (first : Ensures fits good fine action) (value : ∀ value, good value → weaker value)
    (error : ∀ error, fine error → milder error) : Ensures fits weaker milder action where
  state := first.state
  value before fit found is := value found (first.value before fit found is)
  error before fit failure is := error failure (first.error before fit failure is)

/-- A computation that leaves the state alone. -/
theorem of_each {action : Traced σ ω ε α}
    (each : ∀ before, fits before → Ensures (· = before) good fine action) :
    Ensures fits good fine action where
  state before fit := ((each before fit).state before rfl).symm ▸ fit
  value before fit := (each before fit).value before rfl
  error before fit := (each before fit).error before rfl

end Ensures

end Traced
end Script
