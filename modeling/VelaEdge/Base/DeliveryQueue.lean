import Mathlib.Data.List.Chain

/-! A queue whose head is offered until it is accepted: at-least-once delivery in order. Tickets
number the messages from one, in the order they were queued. -/
namespace VelaEdge.Base

open List Option

inductive AttemptOutcome where
  | acknowledged
  | failed
  | interrupted
deriving DecidableEq

structure Attempt where
  ticket : Nat
  outcome : AttemptOutcome
deriving DecidableEq

def Attempt.next (attempt : Attempt) : Nat :=
  if attempt.outcome = .acknowledged then attempt.ticket + 1 else attempt.ticket

structure DeliveryQueue (M : Type) where
  queued : List M
  delivered : Nat
  attempts : List Attempt
  current : Option Nat

variable {queue : DeliveryQueue M}

namespace DeliveryQueue

variable {M : Type}

def empty : DeliveryQueue M := ⟨[], 0, [], none⟩

inductive Move (M : Type) where
  | enqueue : M → Move M
  | offer : Move M
  | conclude : AttemptOutcome → Move M

def move (queue : DeliveryQueue M) : Move M → DeliveryQueue M
  | .enqueue message => { queue with queued := queue.queued ++ [message] }
  | .offer =>
    if queue.current = none ∧ queue.delivered < queue.queued.length then
      { queue with current := some (queue.delivered + 1) }
    else queue
  | .conclude outcome =>
    match queue.current with
    | none => queue
    | some ticket =>
      { queue with
        delivered := if outcome = .acknowledged then queue.delivered + 1 else queue.delivered
        attempts := queue.attempts ++ [⟨ticket, outcome⟩]
        current := none }

/-- Attempts follow the tickets one by one, and the head of the queue is what comes next. -/
structure InOrder (queue : DeliveryQueue M) : Prop where
  delivered_le : queue.delivered ≤ queue.queued.length
  current : ∀ ticket, queue.current = some ticket →
    ticket = queue.delivered + 1 ∧ ticket ≤ queue.queued.length
  first : queue.attempts = [] → queue.delivered = 0
  head : ∀ attempt, queue.attempts.head? = some attempt → attempt.ticket = 1
  last : ∀ attempt, queue.attempts.getLast? = some attempt →
    attempt.next = queue.delivered + 1
  chain : queue.attempts.IsChain (fun earlier later => later.ticket = earlier.next)
  known : ∀ attempt ∈ queue.attempts, 0 < attempt.ticket ∧ attempt.ticket ≤ queue.queued.length

theorem empty_inOrder : InOrder (empty : DeliveryQueue M) where
  delivered_le := le_rfl
  current := by simp [empty]
  first := fun _ => rfl
  head := by simp [empty]
  last := by simp [empty]
  chain := .nil
  known := by simp [empty]

variable {queue : DeliveryQueue M}

section

variable (h : InOrder queue)
include h

theorem enqueue_inOrder (msg : M) : InOrder (queue.move (.enqueue msg)) where
  delivered_le := by
    have := h.delivered_le
    simp only [move,length_append,length_singleton]
    omega
  current := by
    intro ticket ht
    have := h.current ticket ht
    simp only [move,length_append,length_singleton]
    omega
  first := h.first
  head := h.head
  last := h.last
  chain := h.chain
  known := by
    intro attempt ha
    have := h.known attempt ha
    simp only [move,length_append,length_singleton]
    omega

theorem offer_inOrder : InOrder (queue.move .offer) := by
  unfold move
  dsimp only
  split
  · next hp =>
    exact { h with
      current := by
        intro ticket ht
        cases ht
        exact ⟨rfl,hp.2⟩ }
  · exact h

theorem conclude_inOrder (out : AttemptOutcome) : InOrder (queue.move (.conclude out)) := by
  unfold move
  dsimp only
  split
  · exact h
  · next ticket hc =>
    obtain ⟨rfl,hle⟩ := h.current ticket hc
    refine {
      delivered_le := ?_
      current := ?_
      first := ?_
      head := ?_
      last := ?_
      chain := ?_
      known := ?_ }
    · have := h.delivered_le
      dsimp only
      split <;> omega
    · simp
    · simp
    · -- the first attempt of all is for the first ticket
      intro attempt ha
      cases hat : queue.attempts with
      | nil =>
        rw [hat,nil_append,head?_cons] at ha
        cases ha
        rw [h.first hat]
      | cons earliest rest =>
        rw [hat] at ha
        exact h.head attempt (by rw [hat]; exact ha)
    · intro attempt ha
      rw [getLast?_append,getLast?_singleton] at ha
      cases ha
      unfold Attempt.next
      dsimp only
      split <;> rfl
    · rw [isChain_append]
      refine ⟨h.chain,.singleton _,?_⟩
      intro earlier he later hl
      rw [head?_cons] at hl
      cases hl
      exact (h.last earlier he).symm
    · intro attempt ha
      rcases mem_append.mp ha with ha | ha
      · exact h.known attempt ha
      · rw [mem_singleton.mp ha]
        exact ⟨Nat.succ_pos _,hle⟩

theorem move_inOrder (next : Move M) : InOrder (queue.move next) := by
  cases next with
  | enqueue msg => exact enqueue_inOrder h msg
  | offer => exact offer_inOrder h
  | conclude out => exact conclude_inOrder h out

end

/-- Everything ever offered; an offer still open counts as interrupted here. -/
def offers (queue : DeliveryQueue M) : List Attempt :=
  queue.attempts ++ (queue.current.map (fun ticket => ⟨ticket, .interrupted⟩)).toList

variable (h : InOrder queue)
include h

theorem offers_head {attempt : Attempt} (ha : queue.offers.head? = some attempt) :
    attempt.ticket = 1 := by
  unfold offers at ha
  cases hat : queue.attempts with
  | nil =>
    cases hc : queue.current with
    | none => simp [hat,hc] at ha
    | some ticket =>
      simp only [hat,hc,map_some,toList_some,nil_append,head?_cons,Option.some.injEq] at ha
      rw [← ha,(h.current ticket hc).1,h.first hat]
  | cons earliest rest =>
    refine h.head attempt ?_
    rw [hat] at ha ⊢
    exact ha

/-- Each offer is for the same message as the one before it, or for the next message if that one
was accepted. -/
theorem offers_chain : queue.offers.IsChain (fun earlier later => later.ticket = earlier.next) := by
  unfold offers
  rw [isChain_append]
  cases hc : queue.current with
  | none => exact ⟨h.chain,.nil,by simp⟩
  | some ticket =>
    refine ⟨h.chain,.singleton _,?_⟩
    intro earlier he later hl
    simp only [map_some,toList_some,head?_cons,mem_def,Option.some.injEq] at hl
    rw [← hl,h.last earlier he,(h.current ticket hc).1]

theorem offers_known :
    ∀ attempt ∈ queue.offers, 0 < attempt.ticket ∧ attempt.ticket ≤ queue.queued.length := by
  intro attempt ha
  rcases mem_append.mp ha with ha | ha
  · exact h.known attempt ha
  · cases hc : queue.current with
    | none => simp [hc] at ha
    | some ticket =>
      simp only [hc,map_some,toList_some,mem_singleton] at ha
      obtain ⟨rfl,hle⟩ := h.current ticket hc
      rw [ha]
      exact ⟨Nat.succ_pos _,hle⟩

end DeliveryQueue
end VelaEdge.Base
