import Script.Proofs.Traced

set_option autoImplicit false

/- Computations that cannot see a part of what they work on. If that part is erased before a run,
the run goes as before, and ends with what is left of the earlier end when the part is erased
there. -/
namespace Script

variable {σ ω ε α β : Type}

/-- What is erased from states, events and errors. -/
structure Erasure (σ ω ε : Type) where
  state : σ → σ
  event : ω → ω
  error : ε → ε

namespace Erasure

def outcome (erasure : Erasure σ ω ε) (erase : α → α) : Except ε α → Except ε α
  | .ok value => .ok (erase value)
  | .error error => .error (erasure.error error)

def run (erasure : Erasure σ ω ε) (erase : α → α) (done : Run σ ω ε α) : Run σ ω ε α :=
  ⟨erasure.outcome erase done.outcome, erasure.state done.state, done.trace.map erasure.event⟩

theorem run_behind (erasure : Erasure σ ω ε) (erase : α → α) (events : List ω)
    (done : Run σ ω ε α) :
    erasure.run erase (done.behind events) =
      (erasure.run erase done).behind (events.map erasure.event) := by
  simp only [run, Run.behind, List.map_append]

end Erasure

namespace Traced

variable {erasure : Erasure σ ω ε}

/-- The first computation does on what is erased what the second one does on the whole. -/
def Blind (erasure : Erasure σ ω ε) (erase : α → α) (action' action : Traced σ ω ε α) : Prop :=
  ∀ state, action'.run (erasure.state state) = erasure.run erase (action.run state)

namespace Blind

variable {erase : α → α} {erase' : β → β}

theorem pure (value : α) :
    Blind erasure erase (pure (erase value) : Traced σ ω ε α) (pure value) := fun _ => rfl

theorem bind {action' action : Traced σ ω ε α} {next' next : α → Traced σ ω ε β}
    (first : Blind erasure erase action' action)
    (second : ∀ value, Blind erasure erase' (next' (erase value)) (next value)) :
    Blind erasure erase' (action' >>= next') (action >>= next) := by
  intro state
  have before := first state
  cases ran : action.run state with
  | mk outcome middle trace =>
    rw [ran] at before
    cases outcome with
    | error error =>
      rw [run_bind_error ran, run_bind_error before]
      rfl
    | ok value => rw [run_bind_ok ran, run_bind_ok before, second, Erasure.run_behind]

theorem ite (test : Bool) {yes' yes no' no : Traced σ ω ε α} (chosen : Blind erasure erase yes' yes)
    (other : Blind erasure erase no' no) :
    Blind erasure erase (if test = true then yes' else no') (if test = true then yes else no) := by
  cases test
  · exact other
  · exact chosen

theorem fail (error : ε) :
    Blind erasure erase (fail (erasure.error error) : Traced σ ω ε α) (fail error) := fun _ => rfl

theorem gets {view : σ → α} (same : ∀ state, view (erasure.state state) = erase (view state)) :
    Blind erasure erase (gets view : Traced σ ω ε α) (Traced.gets view) := by
  intro state
  rw [run_gets, run_gets, same]
  rfl

theorem modify {change : σ → σ}
    (same : ∀ state, change (erasure.state state) = erasure.state (change state)) :
    Blind erasure id (modify change : Traced σ ω ε Unit) (Traced.modify change) := by
  intro state
  rw [run_modify, run_modify, same]
  rfl

theorem emit (event : ω) :
    Blind erasure id (emit (erasure.event event) : Traced σ ω ε Unit) (Traced.emit event) :=
  fun _ => rfl

theorem attempt {action' action : Traced σ ω ε α} (blind : Blind erasure erase action' action) :
    Blind erasure (erasure.outcome erase) action'.attempt action.attempt := by
  intro state
  rw [run_attempt, run_attempt, blind]
  rfl

theorem mapError {change' change : ε → ε} {action' action : Traced σ ω ε α}
    (same : ∀ error, change' (erasure.error error) = erasure.error (change error))
    (blind : Blind erasure erase action' action) :
    Blind erasure erase (action'.mapError change') (action.mapError change) := by
  intro state
  rw [run_mapError, run_mapError, blind]
  cases action.run state with
  | mk outcome middle trace =>
    cases outcome with
    | ok value => rfl
    | error error =>
      change (⟨.error (change' (erasure.error error)), _, _⟩ : Run σ ω ε α) = _
      rw [same]
      rfl

end Blind
end Traced
end Script
