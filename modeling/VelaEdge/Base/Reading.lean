import Mathlib.Data.List.Basic

/-! Reading from a stream of bytes that arrives in pieces. -/
namespace VelaEdge.Base

open List

/-- A computation that waits for bytes. A call asks for at most `limit` bytes and goes on with
those it is given; none means that the stream has ended. -/
inductive Reading (ε α : Type) where
  | done (outcome : Except ε α)
  | read (limit : Nat) (resume : List UInt8 → Reading ε α)

namespace Reading

variable {ε α β : Type}

def bind : Reading ε α → (α → Reading ε β) → Reading ε β
  | .done (.ok value), next => next value
  | .done (.error reason), _ => .done (.error reason)
  | .read limit resume, next => .read limit fun bytes => (resume bytes).bind next

instance : Monad (Reading ε) where
  pure value := .done (.ok value)
  bind := bind

def readExact (early : ε) : Nat → Reading ε (List UInt8)
  | 0 => .done (.ok [])
  | count + 1 => .read (count + 1) fun bytes =>
    if _ : bytes = [] then .done (.error early)
    else (readExact early (count + 1 - bytes.length)).bind fun rest => .done (.ok (bytes ++ rest))
termination_by count => count
decreasing_by
  rename_i hbytes
  have := List.length_pos_iff.mpr hbytes
  omega

/-- The computation takes exactly these bytes off the stream, however they are cut, and returns
the value. -/
inductive Finishes : Reading ε α → List UInt8 → α → Prop where
  | done (value : α) : Finishes (.done (.ok value)) [] value
  | read {limit : Nat} {resume : List UInt8 → Reading ε α} {bytes : List UInt8} {value : α}
      (hpos : 0 < limit) (hlimit : limit ≤ bytes.length)
      (hresume : ∀ count, 0 < count → count ≤ limit →
        Finishes (resume (bytes.take count)) (bytes.drop count) value) :
      Finishes (.read limit resume) bytes value

namespace Finishes

variable {reading : Reading ε α} {bytes : List UInt8} {value : α} {next : α → Reading ε β}

theorem bind (h : Finishes reading bytes value) (hn : Finishes (next value) more res) :
    Finishes (reading >>= next) (bytes ++ more) res := by
  induction h with
  | done value => exact hn
  | @read limit resume bytes value hp hl hr ih =>
    apply Finishes.read hp
    · rw [length_append]
      omega
    · intro count hc hle
      rw [take_append_of_le_length (by omega),drop_append_of_le_length (by omega)]
      exact ih count hc hle hn

theorem bind_done (h : Finishes reading bytes value) (hn : next value = .done (.ok res)) :
    Finishes (reading >>= next) bytes res := by
  have hr : Finishes (next value) [] res := by
    rw [hn]
    exact .done res
  have hb := h.bind hr
  rw [append_nil] at hb
  exact hb

theorem readExact (early : ε) (bytes : List UInt8) :
    Finishes (readExact early bytes.length) bytes bytes := by
  induction hl : bytes.length using Nat.strongRecOn generalizing bytes with
  | ind length ih =>
    cases length with
    | zero =>
      rw [length_eq_zero_iff.mp hl,Reading.readExact]
      exact .done []
    | succ length =>
      rw [Reading.readExact]
      apply Finishes.read (by omega) (by omega)
      intro count hc hle
      have ht : (bytes.take count).length = count := by
        rw [length_take]
        omega
      have hr : (bytes.drop count).length = length + 1 - count := by rw [length_drop,hl]
      rw [dif_neg (length_pos_iff.mp (by omega)),ht]
      -- what is left is shorter, and the two parts together are the bytes
      apply (ih (length + 1 - count) (by omega) (bytes.drop count) hr).bind_done
      rw [take_append_drop]

theorem exists_read (h : Finishes reading bytes value) (hb : bytes ≠ []) :
    ∃ limit resume, reading = .read limit resume ∧ 0 < limit ∧ limit ≤ bytes.length ∧
      ∀ count, 0 < count → count ≤ limit →
        Finishes (resume (bytes.take count)) (bytes.drop count) value := by
  cases h with
  | done => exact absurd rfl hb
  | read hp hl hr => exact ⟨_,_,rfl,hp,hl,hr⟩

theorem eq_done (h : Finishes reading [] value) : reading = .done (.ok value) := by
  cases h with
  | done => rfl
  | read hp hl =>
    rw [length_nil] at hl
    omega

end Finishes

end Reading

end VelaEdge.Base
