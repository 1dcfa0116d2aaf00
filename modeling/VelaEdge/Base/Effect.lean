import Mathlib.Init

/-! Computations over a state that log what they do to the outside and may stop with an error.
Whatever was done before the error stays done. -/
namespace VelaEdge.Base

structure Ran (σ ω ε α : Type) where
  state : σ
  log : List ω
  result : Except ε α

structure Effect (σ ω ε α : Type) where
  run : σ → Ran σ ω ε α

namespace Effect

variable {σ ω ε α β : Type}

def Ran.next (ran : Ran σ ω ε α) (next : α → Effect σ ω ε β) : Ran σ ω ε β := match ran with
  | ⟨state,log,.error reason⟩ => ⟨state,log,.error reason⟩
  | ⟨state,log,.ok value⟩ =>
    let last := (next value).run state
    ⟨last.state,log ++ last.log,last.result⟩

instance : Monad (Effect σ ω ε) where
  pure value := ⟨fun state => ⟨state,[],.ok value⟩⟩
  bind first next := ⟨fun state => Ran.next (first.run state) next⟩

def fail (reason : ε) : Effect σ ω ε α := ⟨fun state => ⟨state,[],.error reason⟩⟩

def lift (outcome : Except ε α) : Effect σ ω ε α := ⟨fun state => ⟨state,[],outcome⟩⟩

/-- One atomic operation on the state: it returns a new state or fails and leaves it. -/
def atomic (operation : σ → Except ε (σ × α)) : Effect σ ω ε α := ⟨fun state =>
  match operation state with
  | .ok (next,value) => ⟨next,[],.ok value⟩
  | .error reason => ⟨state,[],.error reason⟩⟩

/-- An operation whose failure is a value for what follows. -/
def attempt (first : Effect σ ω ε α) : Effect σ ω ε (Except ε α) := ⟨fun state =>
  ⟨(first.run state).state,(first.run state).log,.ok (first.run state).result⟩⟩

@[simp] theorem run_pure (value : α) (state : σ) :
    (pure value : Effect σ ω ε α).run state = ⟨state,[],.ok value⟩ := rfl

@[simp] theorem run_fail (why : ε) (state : σ) :
    (fail why : Effect σ ω ε α).run state = ⟨state,[],.error why⟩ := rfl

@[simp] theorem run_lift (out : Except ε α) (state : σ) :
    (lift out : Effect σ ω ε α).run state = ⟨state,[],out⟩ := rfl

@[simp] theorem run_attempt (first : Effect σ ω ε α) (state : σ) : (attempt first).run state =
      ⟨(first.run state).state,(first.run state).log,.ok (first.run state).result⟩ := rfl

theorem run_atomic_ok {next : σ} (h : op state = .ok (next,value)) :
    (atomic op : Effect σ ω ε α).run state = ⟨next,[],.ok value⟩ := by
  simp [atomic,h]

theorem run_atomic_error (h : op state = .error why) :
    (atomic op : Effect σ ω ε α).run state = ⟨state,[],.error why⟩ := by
  simp [atomic,h]

variable (next : α → Effect σ ω ε β) {first : Effect σ ω ε α} {after : σ} {log : List ω}

theorem run_bind_ok (h : first.run state = ⟨after,log,.ok value⟩) :
    (first >>= next).run state = ⟨((next value).run after).state,
      log ++ ((next value).run after).log,((next value).run after).result⟩ := by
  change Ran.next (first.run state) next = _
  rw [h]
  rfl

theorem run_bind_error (h : first.run state = ⟨after,log,.error why⟩) :
    (first >>= next).run state = ⟨after,log,.error why⟩ := by
  change Ran.next (first.run state) next = _
  rw [h]
  rfl

theorem run_bind_attempt_state (next : Except ε α → Effect σ ω ε β)
    (h : first.run state = ⟨after,log,res⟩) :
    ((attempt first >>= next).run state).state = ((next res).run after).state := by
  rw [run_bind_ok next (run_attempt first state),h]

@[simp] theorem run_bind_lift_ok (value : α) (next : α → Effect σ ω ε β) (state : σ) :
    (lift (.ok value) >>= next).run state = (next value).run state := rfl

theorem run_bind_atomic_ok (h : op state = .ok (after,value)) :
    (atomic op >>= next).run state = (next value).run after :=
  run_bind_ok next (run_atomic_ok h)

theorem run_bind_atomic_error (h : op state = .error why) :
    (atomic op >>= next).run state = ⟨state,[],.error why⟩ :=
  run_bind_error next (run_atomic_error h)

end Effect
end VelaEdge.Base
