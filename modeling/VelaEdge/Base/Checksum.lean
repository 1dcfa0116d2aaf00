import Mathlib.Data.List.Basic
import Mathlib.Data.Nat.Bitwise

/-! Checksums folded over a message, and the damage of one item that they detect. -/
namespace VelaEdge.Base.Checksum

open List Function

section Folds

variable {α σ : Type}

/-- A step that forgets neither the value so far nor the item it takes in. -/
structure Tracks (step : σ → α → σ) : Prop where
  value : ∀ item, Injective fun value => step value item
  item : ∀ value, Injective (step value)

variable {step : σ → α → σ}

theorem foldl_injective (h : Tracks step) (items : List α) :
    Injective fun value => items.foldl step value := by
  induction items with
  | nil => exact injective_id
  | cons item items ih => exact ih.comp (h.value item)

theorem foldl_detects (h : Tracks step) (start : σ) (before after : List α)
    (hv : (before ++ a :: after).foldl step start = (before ++ b :: after).foldl step start) :
    a = b := by
  rw [foldl_append,foldl_append,foldl_cons,foldl_cons] at hv
  exact h.item _ (foldl_injective h after hv)

/-- A check of fixed width that differs between messages that differ in one item. -/
structure Detects (check : List α → List α) (width : Nat) : Prop where
  length : ∀ message, (check message).length = width
  damage : ∀ before after {a b : α},
    check (before ++ a :: after) = check (before ++ b :: after) → a = b

theorem Detects.frame {check : List α → List α} {width : Nat} (h : Detects check width)
    {before after msg other : List α} (hm : before ++ a :: after = msg ++ check msg)
    (ho : before ++ b :: after = other ++ check other) : a = b := by
  have hl : msg.length = other.length := by
    have hle := congrArg List.length hm
    have hr := congrArg List.length ho
    rw [length_append,length_append,h.length] at hle hr
    simp only [length_cons] at hle hr
    omega
  by_cases hi : before.length < msg.length
  · -- the damage is in the message, and the check is the same
    have hsp := take_append_drop (msg.length - before.length - 1) after
    have ht := congrArg List.length hm
    rw [length_append,length_append,length_cons] at ht
    rw [← hsp,← cons_append,← append_assoc] at hm ho
    have hs : ∀ c : α, (before ++ c :: after.take (msg.length - before.length - 1)).length =
        msg.length := by
      intro c
      simp only [length_append,length_cons,length_take]
      omega
    obtain ⟨hk,hc⟩ := append_inj hm (hs a)
    obtain ⟨hd,hsa⟩ := append_inj ho ((hs b).trans hl)
    apply h.damage before (after.take (msg.length - before.length - 1))
    rw [hk,hd,← hc,← hsa]
  · -- the damage is in the check, and the message is the same
    have hsp := take_append_drop msg.length before
    have hs : (before.take msg.length).length = msg.length := length_take_of_le (Nat.not_lt.mp hi)
    rw [← hsp,append_assoc] at hm ho
    obtain ⟨hk,hc⟩ := append_inj hm hs
    obtain ⟨hd,hsa⟩ := append_inj ho (hs.trans hl)
    have hca := hc.trans ((congrArg check (hk.symm.trans hd)).trans hsa.symm)
    exact (List.cons.inj (append_cancel_left hca)).1

end Folds

/-! Cyclic redundancy: a sixteen-bit register that is shifted once for each bit. -/

def shiftRight (poly crc : UInt16) : UInt16 :=
  if crc &&& 1 ≠ 0 then (crc >>> 1) ^^^ poly else crc >>> 1

def shiftLeft (poly crc : UInt16) : UInt16 :=
  if crc &&& 0x8000 ≠ 0 then (crc <<< 1) ^^^ poly else crc <<< 1

variable (crc : UInt16)

theorem toNat_shiftRight_one : (crc >>> 1).toNat = crc.toNat / 2 := by
  rw [UInt16.toNat_shiftRight]
  rfl

theorem toNat_shiftLeft_one : (crc <<< 1).toNat = crc.toNat * 2 % 65536 := by
  rw [UInt16.toNat_shiftLeft]
  change crc.toNat <<< 1 % 2 ^ 16 = _
  rw [Nat.shiftLeft_eq]

theorem and_one_ne_zero : crc &&& 1 ≠ 0 ↔ crc.toNat % 2 = 1 := by
  rw [Ne,← UInt16.toNat_inj,UInt16.toNat_and]
  change ¬ crc.toNat &&& 1 = 0 ↔ _
  rw [Nat.and_one_is_mod]
  omega

theorem and_top_ne_zero : crc &&& 0x8000 ≠ 0 ↔ 0x8000 ≤ crc.toNat := by
  have hr := crc.toNat_lt
  rw [Ne,← UInt16.toNat_inj,UInt16.toNat_and]
  change ¬ crc.toNat &&& 2 ^ 15 = 0 ↔ _
  rw [Nat.and_two_pow,Nat.testBit_eq_decide_div_mod_eq]
  by_cases h : 0x8000 ≤ crc.toNat
  · simp [h]
    omega
  · simp [h]
    omega

variable {poly : UInt16}

theorem testBit_shiftRight (hp : poly.toNat.testBit 15 = true) (crc : UInt16) :
    (shiftRight poly crc).toNat.testBit 15 = decide (crc.toNat % 2 = 1) := by
  have hr := crc.toNat_lt
  have hh : (crc.toNat / 2).testBit 15 = false := Nat.testBit_lt_two_pow (by omega)
  unfold shiftRight
  by_cases ho : crc.toNat % 2 = 1
  · rw [if_pos ((and_one_ne_zero crc).mpr ho),UInt16.toNat_xor,Nat.testBit_xor,
      toNat_shiftRight_one,hh,hp,decide_eq_true ho]
    rfl
  · rw [if_neg fun h => ho ((and_one_ne_zero crc).mp h),toNat_shiftRight_one,hh,decide_eq_false ho]

theorem shiftRight_injective (hp : poly.toNat.testBit 15 = true) : Injective (shiftRight poly) := by
  intro a b h
  have hb := congrArg (fun crc : UInt16 => crc.toNat.testBit 15) h
  rw [testBit_shiftRight hp,testBit_shiftRight hp,decide_eq_decide] at hb
  have hs : a >>> 1 = b >>> 1 := by
    unfold shiftRight at h
    simp only [and_one_ne_zero,hb] at h
    by_cases ho : b.toNat % 2 = 1
    · rw [if_pos ho,if_pos ho] at h
      exact (UInt16.xor_left_inj poly).mp h
    · rw [if_neg ho,if_neg ho] at h
      exact h
  have hh := congrArg UInt16.toNat hs
  rw [toNat_shiftRight_one,toNat_shiftRight_one] at hh
  apply UInt16.toNat_inj.mp
  omega

theorem testBit_shiftLeft (hp : poly.toNat.testBit 0 = true) (crc : UInt16) :
    (shiftLeft poly crc).toNat.testBit 0 = decide (0x8000 ≤ crc.toNat) := by
  have hd : (crc.toNat * 2 % 65536).testBit 0 = false := by
    rw [Nat.testBit_zero]
    apply decide_eq_false
    omega
  unfold shiftLeft
  by_cases ht : 0x8000 ≤ crc.toNat
  · rw [if_pos ((and_top_ne_zero crc).mpr ht),UInt16.toNat_xor,Nat.testBit_xor,
      toNat_shiftLeft_one,hd,hp,decide_eq_true ht]
    rfl
  · rw [if_neg fun h => ht ((and_top_ne_zero crc).mp h),toNat_shiftLeft_one,hd,decide_eq_false ht]

theorem shiftLeft_injective (hp : poly.toNat.testBit 0 = true) : Injective (shiftLeft poly) := by
  intro a b h
  have hb := congrArg (fun crc : UInt16 => crc.toNat.testBit 0) h
  rw [testBit_shiftLeft hp,testBit_shiftLeft hp,decide_eq_decide] at hb
  have hs : a <<< 1 = b <<< 1 := by
    unfold shiftLeft at h
    simp only [and_top_ne_zero,hb] at h
    by_cases ht : 0x8000 ≤ b.toNat
    · rw [if_pos ht,if_pos ht] at h
      exact (UInt16.xor_left_inj poly).mp h
    · rw [if_neg ht,if_neg ht] at h
      exact h
  have hd := congrArg UInt16.toNat hs
  rw [toNat_shiftLeft_one,toNat_shiftLeft_one] at hd
  have hr := And.intro a.toNat_lt b.toNat_lt
  apply UInt16.toNat_inj.mp
  omega

theorem tracks_shifts (hs : Injective shift) (hw : Injective widen) :
    Tracks fun (crc : UInt16) byte => shift^[8] (crc ^^^ widen byte) := by
  refine ⟨?_,?_⟩
  · intro byte a b h
    exact (UInt16.xor_left_inj _).mp (hs.iterate 8 h)
  · intro crc a b h
    exact hw ((UInt16.xor_right_inj _).mp (hs.iterate 8 h))

end VelaEdge.Base.Checksum
