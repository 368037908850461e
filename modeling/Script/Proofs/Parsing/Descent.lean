import Mathlib.Logic.Function.Iterate
import Script.Proofs.Parsing.Rounds

set_option autoImplicit false

/- Recursion that ends. A rule of the grammar that refers to itself, and a loop, is given by what it
does once, with another parser in the place of what it goes on with. It goes on with fewer tokens
ahead than it began with. So it is what unfolding it makes of anything at all, as soon as it is
unfolded more often than there are tokens ahead, and no bound on a repetition is ever reached. -/
namespace Script.Parser

open Token (Kind)

/-- Two parsers run alike wherever fewer tokens are ahead than the limit. -/
def Agree {α : Type} (limit : Nat) (first second : Parser α) : Prop :=
  ∀ start : Cursor, start.tape.ahead.length < limit → first.run start = second.run start

namespace Agree

variable {α β : Type} {limit : Nat} {first first' : Parser α} {next next' : α → Parser β}

theorem refl (parser : Parser α) : Agree limit parser parser := fun _ _ => rfl

theorem symm (agree : Agree limit first' first) : Agree limit first first' :=
  fun start below => (agree start below).symm

theorem mono {more : Nat} (agree : Agree more first' first) (less : limit ≤ more) :
    Agree limit first' first :=
  fun start below => agree start (Nat.lt_of_lt_of_le below less)

theorem bind (before : Agree limit first' first) (steady : Steady first)
    (behind : ∀ value, Agree limit (next' value) (next value)) :
    Agree limit (first' >>= next') (first >>= next) := by
  intro start below
  have same := before start below
  cases ran : first.run start with
  | mk outcome stop trace =>
    rw [ran] at same
    cases outcome with
    | error error => rw [Traced.run_bind_error same, Traced.run_bind_error ran]
    | ok value =>
      have left := steady.length_le (⟨trace, ran, .inl trivial⟩ : Ends True first start _ stop)
      rw [Traced.run_bind_ok same, Traced.run_bind_ok ran,
        behind value stop (Nat.lt_of_le_of_lt left below)]

/-- A sequence that begins with the same step. -/
theorem after (steady : Steady first) (behind : ∀ value, Agree limit (next' value) (next value)) :
    Agree limit (first >>= next') (first >>= next) :=
  bind (refl first) steady behind

/-- Behind a token there is one token less. -/
theorem behind_token (progresses : Progresses first)
    (behind : ∀ value, Agree limit (next' value) (next value)) :
    Agree (limit + 1) (first >>= next') (first >>= next) := by
  intro start below
  cases ran : first.run start with
  | mk outcome stop trace =>
    cases outcome with
    | error error => rw [Traced.run_bind_error ran, Traced.run_bind_error ran]
    | ok value =>
      have taken := progresses ⟨trace, ran, .inl trivial⟩
      rw [Traced.run_bind_ok ran, Traced.run_bind_ok ran, behind value stop (by omega)]

theorem ite (test : Bool) {yes' no' yes no : Parser α} (chosen : Agree limit yes' yes)
    (other : Agree limit no' no) :
    Agree limit (if test = true then yes' else no') (if test = true then yes else no) := by
  cases test
  · exact other
  · exact chosen

/-- A token that is no end of file is taken. -/
theorem of_advance {next' next : Token → Parser α} {start : Cursor}
    (opened : start.tape.current.kind ≠ .endOfFile) (below : start.tape.ahead.length < limit + 1)
    (behind : ∀ token, Agree limit (next' token) (next token)) :
    (advance >>= next').run start = (advance >>= next).run start := by
  have ran : advance.run start = ⟨.ok start.tape.current, start.advance, []⟩ := rfl
  have lengths := (Cursor.passes_advance opened).length
  rw [List.length_singleton] at lengths
  rw [Traced.run_bind_ok ran, Traced.run_bind_ok ran, behind _ _ (by omega)]

theorem seesOneOf_branch {kinds : List Kind} {next' next : Token → Parser α} {no' no : Parser α}
    (opened : .endOfFile ∉ kinds) (taken : ∀ token, Agree limit (next' token) (next token))
    (other : Agree (limit + 1) no' no) :
    Agree (limit + 1)
      (seesOneOf kinds >>= fun seen => if seen = true then advance >>= next' else no')
      (seesOneOf kinds >>= fun seen => if seen = true then advance >>= next else no) := by
  intro start below
  have seen := run_seesOneOf kinds start
  rw [Traced.run_bind_ok seen, Traced.run_bind_ok seen, Run.behind_nil, Run.behind_nil]
  by_cases member : start.tape.current.kind ∈ kinds
  · simp only [List.contains_eq_mem, member, decide_true, ↓reduceIte]
    exact of_advance (fun ended => opened (ended ▸ member)) below taken
  · simp only [List.contains_eq_mem, member, decide_false, Bool.false_eq_true, ↓reduceIte]
    exact other start below

theorem advanceIf_branch {kinds : List Kind} {yes' no' yes no : Parser α}
    (opened : .endOfFile ∉ kinds) (taken : Agree limit yes' yes)
    (other : Agree (limit + 1) no' no) :
    Agree (limit + 1) (advanceIf kinds >>= fun taken => if taken = true then yes' else no')
      (advanceIf kinds >>= fun taken => if taken = true then yes else no) := by
  rw [advanceIf_branch_eq, advanceIf_branch_eq]
  exact seesOneOf_branch opened (fun _ => taken) other

/-- A word and the token behind it are taken together, or a phrase is read instead. -/
theorem pair_branch {kind follower : Kind} {next' next : Token → Parser α} {no' no : Parser α}
    (opened : kind ≠ .endOfFile) (taken : ∀ token, Agree limit (next' token) (next token))
    (other : Agree (limit + 1) no' no) :
    Agree (limit + 1)
      (sees kind >>= fun found => nextKind? >>= fun following =>
        if (found && following == some follower) = true then advance >>= next' else no')
      (sees kind >>= fun found => nextKind? >>= fun following =>
        if (found && following == some follower) = true then advance >>= next else no) := by
  intro start below
  rw [run_pair_branch, run_pair_branch]
  split
  · next both =>
    rw [Bool.and_eq_true, beq_iff_eq] at both
    exact of_advance (both.1 ▸ opened) below taken
  · exact other start below

end Agree

section Recursion

variable {ι : Type} {α : ι → Type}

/-- One unfolding of a recursion that goes on with fewer tokens ahead. -/
def Descends (unfolding : (∀ i, Parser (α i)) → ∀ i, Parser (α i)) : Prop :=
  ∀ {limit : Nat} {again' again : ∀ i, Parser (α i)}, (∀ i, Steady (again i)) →
    (∀ i, Agree limit (again' i) (again i)) →
      ∀ i, Agree (limit + 1) (unfolding again' i) (unfolding again i)

/-- A recursion that ends. Unfolding it changes nothing, and unfolded more often than there are
tokens ahead it runs the same whatever stands at the bottom: it never gets there. -/
structure Terminates (unfolding : (∀ i, Parser (α i)) → ∀ i, Parser (α i))
    (rules : ∀ i, Parser (α i)) : Prop where
  unfolds : unfolding rules = rules
  ends : ∀ (bottom : ∀ i, Parser (α i)) (depth : Nat) (i : ι) (start : Cursor),
    start.tape.ahead.length < depth →
      (unfolding^[depth] bottom i).run start = (rules i).run start

namespace Descends

variable {unfolding : (∀ i, Parser (α i)) → ∀ i, Parser (α i)} (descends : Descends unfolding)
include descends

/-- By induction on the depth: what is unfolded once more agrees with the solution for one more
token. -/
theorem terminates {rules : ∀ i, Parser (α i)} (steady : ∀ i, Steady (rules i))
    (unfolds : unfolding rules = rules) : Terminates unfolding rules where
  unfolds := unfolds
  ends bottom depth := by
    induction depth with
    | zero => exact fun _ _ below => absurd below (Nat.not_lt_zero _)
    | succ depth ih =>
      intro i start below
      rw [Function.iterate_succ_apply', descends steady ih i start below, unfolds]

variable {within : Nat → ∀ i, Parser (α i)} (steady : ∀ bound i, Steady (within bound i))
  (succ : ∀ bound, within (bound + 1) = unfolding (within bound))
  (base : ∀ i, Agree 1 (within 0 i) (within 1 i))
include steady succ base

/-- Bounds that are enough do not matter. -/
theorem within_agree (bound more : Nat) (i : ι) :
    Agree (bound + 1) (within bound i) (within (bound + more) i) := by
  have once (bound : Nat) : ∀ i, Agree (bound + 1) (within bound i) (within (bound + 1) i) := by
    induction bound with
    | zero => exact base
    | succ bound ih =>
      intro i
      rw [succ (bound + 1)]
      nth_rewrite 1 [succ bound]
      exact descends (steady _) ih i
  induction more with
  | zero => exact .refl _
  | succ more ih =>
    intro start below
    rw [ih start below, once (bound + more) i start (by omega)]
    rfl

/-- A recursion that is bounded by the number of tokens ahead runs as with any bound that is enough.
-/
theorem agree_within (bound : Nat) (i : ι) :
    Agree (bound + 1) (left >>= fun bound => within bound i) (within bound i) := by
  intro start below
  have enough := descends.within_agree steady succ base start.tape.ahead.length
    (bound - start.tape.ahead.length) i start (Nat.lt_succ_self _)
  rw [run_left_bind, enough, Nat.add_sub_cancel' (by omega)]

/-- A recursion that is bounded by the number of tokens ahead is not bounded at all. -/
theorem terminates_within :
    Terminates unfolding fun i => left >>= fun bound => within bound i := by
  have each (i : ι) : Steady (left >>= fun bound => within bound i) :=
    closed_steady.bind (closed_steady.gets _) fun bound => steady bound i
  have agrees := descends.agree_within steady succ base
  apply descends.terminates each
  funext i start
  have length := Nat.lt_succ_self start.tape.ahead.length
  have unfolded := descends (steady start.tape.ahead.length)
    (fun i => (agrees _ i).mono (Nat.le_succ _)) i start length
  have more := descends.within_agree steady succ base start.tape.ahead.length 1 i start length
  rw [succ] at more
  exact unfolded.trans (more.symm.trans (agrees _ i start length).symm)

end Descends

end Recursion

end Script.Parser
