import Mathlib.Init

/-! # Runs under a condition

A machine takes one step for each event of a list. A condition on the events is put to the states
that they find; what the steps under it keep holds at the end of the run. -/

namespace VelaEdge.Base

variable {σ ε : Type} (step : σ → ε → σ)

/-- Every event of a run meets the condition in the state it finds. -/
def Along (clean : σ → ε → Prop) : σ → List ε → Prop
  | _, [] => True
  | state, event :: events => clean state event ∧ Along clean (step state event) events

instance decidableAlong (clean : σ → ε → Prop) [∀ state event, Decidable (clean state event)] :
    (state : σ) → (events : List ε) → Decidable (Along step clean state events)
  | _, [] => isTrue trivial
  | state, event :: events =>
    have := decidableAlong clean (step state event) events
    inferInstanceAs (Decidable (_ ∧ _))

def allAlong (clean : σ → ε → Bool) : σ → List ε → Bool
  | _, [] => true
  | state, event :: events => clean state event && allAlong clean (step state event) events

variable {step} {clean : σ → ε → Prop} {state : σ} {events first rest : List ε}

theorem allAlong_iff {clean : σ → ε → Bool} : allAlong step clean state events = true ↔
    Along step (fun state event => clean state event = true) state events := by
  induction events generalizing state with
  | nil => exact iff_of_true rfl trivial
  | cons event events ih => rw [allAlong,Along,Bool.and_eq_true,ih]

@[simp] theorem along_append : Along step clean state (first ++ rest) ↔
    Along step clean state first ∧ Along step clean (first.foldl step state) rest := by
  induction first generalizing state with
  | nil => simp [Along]
  | cons event first ih => rw [List.cons_append,Along,Along,ih,and_assoc,List.foldl_cons]

/-- What every step under the condition keeps, the run keeps. -/
theorem Along.keeps (P : σ → Prop) (hc : Along step clean state events)
    (hs : ∀ {state event}, P state → clean state event → P (step state event))
    (h : P state) : P (events.foldl step state) := by
  induction events generalizing state with
  | nil => exact h
  | cons event events ih => exact ih hc.2 (hs h hc.1)

end VelaEdge.Base
