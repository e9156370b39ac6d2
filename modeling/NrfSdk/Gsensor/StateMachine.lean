import Mathlib.Tactic

/-! The transport-mode state machine of my_gsensor_algorithm.c: EMA smoothing of the classifier's
probabilities, the transition matrix and the TRANSITION_COUNT confirmation. The probabilities are taken in
any field with a linear order; the firmware computes in float. -/

namespace Gsensor

def transitionCount : Nat := 3

inductive GsensorState where
  | unknown
  | static
  | landTransport
  | seaTransport
  deriving DecidableEq, Repr

def bestToMode : Fin 3 → GsensorState
  | 0 => .static
  | 1 => .landTransport
  | 2 => .seaTransport

def modeToBest : GsensorState → Int
  | .static => 0
  | .landTransport => 1
  | .seaTransport => 2
  | .unknown => -1

/-- transition_allowed, indexed by mode_to_best of both modes: Still and Sea never follow each other. -/
def transitionAllowed : List (List Bool) := [[true, true, false], [true, true, true], [false, true, true]]

def transitionAllowedAt (current next : GsensorState) : Bool :=
  (transitionAllowed.getD (modeToBest current).toNat []).getD (modeToBest next).toNat false

section Machine

variable {α : Type} [Field α] [LinearOrder α]

structure StateMachine (α : Type) where
  currentMode : GsensorState
  candidateMode : GsensorState
  candidateCount : Nat
  smoothProb : Fin 3 → α
  initialized : Bool

def smInit : StateMachine α := ⟨.unknown, .unknown, 0, fun _ => 1 / 3, false⟩

def bestIndex (prob : Fin 3 → α) : Fin 3 :=
  [1, 2].foldl (fun best m => if prob m > prob best then m else best) 0

def smUpdate (smoothAlpha : α) (sm : StateMachine α) (rawProb : Fin 3 → α) : StateMachine α × GsensorState :=
  if !sm.initialized then
    let current := bestToMode (bestIndex rawProb)
    (⟨current, current, sm.candidateCount, rawProb, true⟩, current)
  else
    let smoothProb := fun m => smoothAlpha * rawProb m + (1 - smoothAlpha) * sm.smoothProb m
    let sm := { sm with smoothProb := smoothProb }
    let newMode := bestToMode (bestIndex smoothProb)
    if newMode ≠ sm.currentMode ∧ newMode ≠ .unknown then
      if !transitionAllowedAt sm.currentMode newMode then (sm, sm.currentMode)
      else if newMode = sm.candidateMode then
        if sm.candidateCount + 1 ≥ transitionCount then
          ({ sm with currentMode := newMode, candidateCount := 0 }, newMode)
        else ({ sm with candidateCount := sm.candidateCount + 1 }, sm.currentMode)
      else ({ sm with candidateMode := newMode, candidateCount := 1 }, sm.currentMode)
    else ({ sm with candidateCount := 0, candidateMode := sm.currentMode }, sm.currentMode)

def smRun (smoothAlpha : α) : StateMachine α → List (Fin 3 → α) → List (StateMachine α × GsensorState)
  | _, [] => []
  | sm, rawProb :: rest => smUpdate smoothAlpha sm rawProb :: smRun smoothAlpha (smUpdate smoothAlpha sm rawProb).1 rest

theorem bestToMode_ne_unknown (best : Fin 3) : bestToMode best ≠ .unknown := by
  fin_cases best <;> decide

theorem transitionAllowedAt_self {mode : GsensorState} (known : mode ≠ .unknown) :
    transitionAllowedAt mode mode = true := by
  cases mode <;> simp_all [transitionAllowedAt, transitionAllowed, modeToBest]

def Known (sm : StateMachine α) : Prop := sm.initialized = true ∧ sm.currentMode ≠ .unknown

variable (smoothAlpha : α)

theorem smUpdate_output (sm : StateMachine α) (rawProb : Fin 3 → α) :
    (smUpdate smoothAlpha sm rawProb).2 = (smUpdate smoothAlpha sm rawProb).1.currentMode := by
  unfold smUpdate
  dsimp only
  split_ifs <;> rfl

theorem smUpdate_known (sm : StateMachine α) (known : sm.initialized = true → sm.currentMode ≠ .unknown)
    (rawProb : Fin 3 → α) : Known (smUpdate smoothAlpha sm rawProb).1 := by
  unfold smUpdate
  dsimp only
  split_ifs with fresh changed blocked candidate confirmed
  · exact ⟨rfl, bestToMode_ne_unknown _⟩
  · exact ⟨by simpa using fresh, known (by simpa using fresh)⟩
  · exact ⟨by simpa using fresh, changed.2⟩
  · exact ⟨by simpa using fresh, known (by simpa using fresh)⟩
  · exact ⟨by simpa using fresh, known (by simpa using fresh)⟩
  · exact ⟨by simpa using fresh, known (by simpa using fresh)⟩

theorem smUpdate_allowed {sm : StateMachine α} (known : Known sm) (rawProb : Fin 3 → α) :
    transitionAllowedAt sm.currentMode (smUpdate smoothAlpha sm rawProb).1.currentMode = true := by
  obtain ⟨initialized, current⟩ := known
  unfold smUpdate
  rw [if_neg (by simp [initialized])]
  dsimp only
  split_ifs with changed blocked candidate confirmed
  · exact transitionAllowedAt_self current
  · simpa using blocked
  · exact transitionAllowedAt_self current
  · exact transitionAllowedAt_self current
  · exact transitionAllowedAt_self current

theorem smRun_known (rawProbs : List (Fin 3 → α)) :
    ∀ sm : StateMachine α, (sm.initialized = true → sm.currentMode ≠ .unknown) →
      ∀ step ∈ smRun smoothAlpha sm rawProbs, Known step.1 ∧ step.2 = step.1.currentMode := by
  induction rawProbs with
  | nil =>
    intro sm _ step member
    cases member
  | cons rawProb rest ih =>
    intro sm known step member
    rcases List.mem_cons.mp member with rfl | later
    · exact ⟨smUpdate_known smoothAlpha sm known rawProb, smUpdate_output smoothAlpha sm rawProb⟩
    · exact ih _ (fun _ => (smUpdate_known smoothAlpha sm known rawProb).2) step later

/-- Every mode sm_update returns after sm_init is known. -/
theorem smRun_output_known (rawProbs : List (Fin 3 → α)) :
    ∀ step ∈ smRun smoothAlpha smInit rawProbs, step.2 ≠ .unknown := by
  intro step member
  obtain ⟨⟨-, known⟩, output⟩ := smRun_known smoothAlpha rawProbs smInit (fun fresh => by cases fresh) step member
  rw [output]
  exact known

theorem smRun_chain (rawProbs : List (Fin 3 → α)) :
    ∀ sm : StateMachine α, Known sm →
      List.IsChain (fun mode next => transitionAllowedAt mode next = true)
        (sm.currentMode :: (smRun smoothAlpha sm rawProbs).map Prod.snd) := by
  induction rawProbs with
  | nil =>
    intro sm _
    exact List.IsChain.singleton _
  | cons rawProb rest ih =>
    intro sm known
    simp only [smRun, List.map_cons]
    rw [smUpdate_output]
    exact List.IsChain.cons_cons (smUpdate_allowed smoothAlpha known rawProb)
      (ih _ (smUpdate_known smoothAlpha sm (fun _ => known.2) rawProb))

/-- Consecutive modes returned after sm_init follow transition_allowed: never Still then Sea or back. -/
theorem smRun_outputs_allowed (rawProbs : List (Fin 3 → α)) :
    (∀ step ∈ smRun smoothAlpha smInit rawProbs, step.2 ≠ .unknown) ∧
      List.IsChain (fun mode next => transitionAllowedAt mode next = true)
        ((smRun smoothAlpha smInit rawProbs).map Prod.snd) := by
  refine ⟨smRun_output_known smoothAlpha rawProbs, ?_⟩
  cases rawProbs with
  | nil => exact List.IsChain.nil
  | cons rawProb rest =>
    simp only [smRun, List.map_cons]
    rw [smUpdate_output]
    exact smRun_chain smoothAlpha rest _ (smUpdate_known smoothAlpha smInit (fun fresh => by cases fresh) rawProb)

end Machine

/-- With SMOOTH_ALPHA = 0.3 and vectors shaped as my_gsensor.c builds them (the confidence on the classified mode,
the rest split evenly), Land becomes current at the fifth update although the smoothed maximum at the fourth was
Sea: the blocked Still to Sea update returns before the candidate count is reset. -/
theorem smRun_switch_across_blocked_sea :
    (smRun (3 / 10 : ℚ) smInit [![34 / 100, 33 / 100, 33 / 100], ![0, 1, 0], ![1 / 4, 1 / 2, 1 / 4], ![0, 0, 1],
        ![0, 1, 0]]).map (fun step => (bestIndex step.1.smoothProb, step.2)) =
      [(0, .static), (1, .static), (1, .static), (2, .static), (1, .landTransport)] := by
  decide +kernel

end Gsensor
