set_option autoImplicit false

/- Computations with a state, a trace and a failure. The state and the trace survive a failure:
whoever catches it goes on from where it happened. A computation can only add to the trace. -/
namespace Script

structure Run (σ ω ε α : Type) where
  outcome : Except ε α
  state : σ
  trace : List ω

/-- A computation on states `σ` that traces events `ω` and fails with `ε`. -/
def Traced (σ ω ε α : Type) : Type := σ → Run σ ω ε α

namespace Traced

variable {σ ω ε α β : Type}

def run (action : Traced σ ω ε α) (state : σ) : Run σ ω ε α := action state

protected def pure (value : α) : Traced σ ω ε α := fun state => ⟨.ok value, state, []⟩

/-- Goes on with the value of the first computation, unless that failed. -/
protected def bind (action : Traced σ ω ε α) (next : α → Traced σ ω ε β) : Traced σ ω ε β :=
  fun state =>
    match action state with
    | ⟨.ok value, state', trace⟩ =>
        let rest := next value state'
        ⟨rest.outcome, rest.state, trace ++ rest.trace⟩
    | ⟨.error error, state', trace⟩ => ⟨.error error, state', trace⟩

instance : Monad (Traced σ ω ε) where
  pure := Traced.pure
  bind := Traced.bind

def fail (error : ε) : Traced σ ω ε α := fun state => ⟨.error error, state, []⟩

def get : Traced σ ω ε σ := fun state => ⟨.ok state, state, []⟩

def gets (view : σ → α) : Traced σ ω ε α := fun state => ⟨.ok (view state), state, []⟩

def modify (change : σ → σ) : Traced σ ω ε Unit := fun state => ⟨.ok (), change state, []⟩

def emit (event : ω) : Traced σ ω ε Unit := fun state => ⟨.ok (), state, [event]⟩

/-- Turns a failure into a value; the state and the trace stay as the failure left them. -/
def attempt (action : Traced σ ω ε α) : Traced σ ω ε (Except ε α) := fun state =>
  let done := action state
  ⟨.ok done.outcome, done.state, done.trace⟩

def mapError (change : ε → ε) (action : Traced σ ω ε α) : Traced σ ω ε α := fun state =>
  match action state with
  | ⟨.ok value, state', trace⟩ => ⟨.ok value, state', trace⟩
  | ⟨.error error, state', trace⟩ => ⟨.error (change error), state', trace⟩

/-- Takes over an outcome that needs neither state nor trace. -/
def ofExcept (outcome : Except ε α) : Traced σ ω ε α := fun state => ⟨outcome, state, []⟩

private theorem pure_after (action : Traced σ ω ε α) : Traced.bind action Traced.pure = action := by
  funext state
  unfold Traced.bind
  split <;> simp_all [Traced.pure]

private theorem after_pure (value : α) (next : α → Traced σ ω ε β) :
    Traced.bind (Traced.pure value) next = next value := by
  funext state
  simp [Traced.bind, Traced.pure]

private theorem bind_after_bind {γ : Type} (action : Traced σ ω ε α) (next : α → Traced σ ω ε β)
    (last : β → Traced σ ω ε γ) :
    Traced.bind (Traced.bind action next) last =
      Traced.bind action fun value => Traced.bind (next value) last := by
  funext state
  unfold Traced.bind
  cases action state with
  | mk outcome state' trace =>
    cases outcome with
    | error error => rfl
    | ok value =>
      simp only
      cases next value state' with
      | mk outcome' state'' trace' => cases outcome' <;> simp

instance : LawfulMonad (Traced σ ω ε) :=
  LawfulMonad.mk' _ pure_after after_pure bind_after_bind

end Traced
end Script
