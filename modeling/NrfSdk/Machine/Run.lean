import Mathlib.Tactic

namespace Machine

section Run

variable {σ : Type} (step : σ → σ) (done : σ → Bool)

def runFor : Nat → σ → Option σ
  | 0, state => if done state then some state else none
  | fuel + 1, state => if done state then some state else runFor fuel (step state)

variable {step done}

@[simp] theorem runFor_of_done {fuel : Nat} {state : σ} (stop : done state = true) :
    runFor step done fuel state = some state := by
  cases fuel <;> simp [runFor, stop]

/-- An invariant kept by every step before the machine stops holds where it stops. -/
theorem runFor_invariant (invariant : σ → Prop)
    (preserved : ∀ state, done state = false → invariant state → invariant (step state))
    {fuel : Nat} {state final : σ} (start : invariant state)
    (stopped : runFor step done fuel state = some final) : invariant final := by
  induction fuel generalizing state with
  | zero =>
    unfold runFor at stopped
    split at stopped
    · cases stopped
      exact start
    · cases stopped
  | succ fuel ih =>
    unfold runFor at stopped
    split at stopped
    · cases stopped
      exact start
    · rename_i going
      exact ih (preserved state (by simpa using going) start) stopped

end Run

section Events

variable {σ ε : Type} (step : σ → ε → σ)

theorem foldl_invariant (invariant : σ → Prop) (preserved : ∀ state event, invariant state → invariant (step state event))
    {state : σ} (start : invariant state) (events : List ε) : invariant (events.foldl step state) := by
  induction events generalizing state with
  | nil => exact start
  | cons event events ih => exact ih (preserved state event start)

theorem foldl_invariant_until (invariant goal : σ → Prop)
    (preserved : ∀ state event, invariant state → invariant (step state event) ∨ goal (step state event))
    {state : σ} (start : invariant state) (events : List ε) :
    invariant (events.foldl step state) ∨
      ∃ done rest, events = done ++ rest ∧ goal (done.foldl step state) := by
  induction events generalizing state with
  | nil => exact .inl start
  | cons event events ih =>
    rcases preserved state event start with kept | reached
    · rcases ih kept with final | ⟨done, rest, split, reachedLater⟩
      · exact .inl final
      · exact .inr ⟨event :: done, rest, by rw [split, List.cons_append], reachedLater⟩
    · exact .inr ⟨[event], events, rfl, reached⟩

end Events

end Machine
