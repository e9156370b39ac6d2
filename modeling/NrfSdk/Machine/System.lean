import Mathlib.Logic.Relation

/-! States reachable by a step relation, and the rule that proves an invariant of all of them. -/

namespace Machine

section Reach

variable {σ : Type} (step : σ → σ → Prop) (init : σ)

def Reachable : σ → Prop := Relation.ReflTransGen step init

variable {step init}

theorem Reachable.start : Reachable step init init := Relation.ReflTransGen.refl

theorem Reachable.tail {state next : σ} (reached : Reachable step init state) (moves : step state next) :
    Reachable step init next :=
  Relation.ReflTransGen.tail reached moves

theorem Reachable.invariant (invariant : σ → Prop) (start : invariant init)
    (keeps : ∀ state next, invariant state → step state next → invariant next) {state : σ}
    (reached : Reachable step init state) : invariant state := by
  induction reached with
  | refl => exact start
  | tail _ moves holds => exact keeps _ _ holds moves

end Reach

end Machine
