import Mathlib.Data.List.Basic

/-! Bits packed eight to a byte, least significant bit first, the way a loop over a byte buffer
packs and reads them. -/
namespace VelaEdge.Base.BitPacking

open List

def mask (index : Nat) : UInt8 := 1 <<< UInt8.ofNat (index % 8)

def bitAt (bytes : List UInt8) (index : Nat) : Bool := match bytes[index / 8]? with
  | none => false
  | some byte => byte &&& mask index != 0

def setBit (bytes : List UInt8) (index : Nat) : List UInt8 :=
  bytes.modify (index / 8) (fun byte => byte ||| mask index)

def byteCount (count : Nat) : Nat := (count + 7) / 8

/-- Start from zero bytes and set the bits that are on, one index after the other. -/
def pack (count : Nat) (bit : Nat → Bool) : List UInt8 :=
  (range count).foldl (fun bytes index => if bit index then setBit bytes index else bytes)
    (replicate (byteCount count) 0)

theorem mask_ne_zero (index : Nat) : mask index ≠ 0 := by
  have h : ∀ shift : Fin 8, (1 : UInt8) <<< UInt8.ofNat shift.val ≠ 0 := by decide
  exact h ⟨index % 8,Nat.mod_lt _ (by decide)⟩

theorem mask_and_mask (h : left % 8 ≠ right % 8) : mask left &&& mask right = 0 := by
  have hm : ∀ a b : Fin 8, a ≠ b →
      (1 : UInt8) <<< UInt8.ofNat a.val &&& 1 <<< UInt8.ofNat b.val = 0 := by decide
  exact hm ⟨left % 8,Nat.mod_lt _ (by decide)⟩ ⟨right % 8,Nat.mod_lt _ (by decide)⟩
    (by simpa using h)

@[simp] theorem length_setBit (bytes : List UInt8) (index : Nat) :
    (setBit bytes index).length = bytes.length := by
  simp [setBit]

theorem bitAt_setBit_self {bytes : List UInt8} (h : index / 8 < bytes.length) :
    bitAt (setBit bytes index) index = true := by
  unfold bitAt setBit
  rw [getElem?_modify,getElem?_eq_getElem h]
  have ha : (bytes[index / 8] ||| mask index) &&& mask index = mask index := by
    apply UInt8.toNat_inj.mp
    apply Nat.eq_of_testBit_eq
    intro position
    rw [UInt8.toNat_and,UInt8.toNat_or,Nat.testBit_and,Nat.testBit_or]
    cases (mask index).toNat.testBit position with
    | false => rw [Bool.and_false]
    | true => rw [Bool.or_true,Bool.and_true]
  simp only [Option.map_eq_map,Option.map_some,if_true,ha]
  simpa using mask_ne_zero index

theorem bitAt_setBit_of_ne {other : Nat} (h : other ≠ index) :
    bitAt (setBit bytes index) other = bitAt bytes other := by
  unfold bitAt setBit
  rw [getElem?_modify]
  cases bytes[other / 8]? with
  | none => rfl
  | some byte =>
    by_cases hb : index / 8 = other / 8
    · have hm : mask index &&& mask other = 0 := mask_and_mask (by omega)
      have hs : (byte ||| mask index) &&& mask other = byte &&& mask other := by
        apply UInt8.toNat_inj.mp
        have hz := congrArg UInt8.toNat hm
        rw [UInt8.toNat_and] at hz
        rw [UInt8.toNat_and,UInt8.toNat_or,Nat.and_or_distrib_right,hz,UInt8.toNat_and]
        simp
      simp only [Option.map_eq_map,Option.map_some,if_pos hb,hs]
    · simp only [Option.map_eq_map,Option.map_some,if_neg hb]

/-- The buffer while the loop runs: indices it has passed are set as asked, the others are still
clear. -/
structure Packed (count done : Nat) (bit : Nat → Bool) (bytes : List UInt8) : Prop where
  length : bytes.length = byteCount count
  bits : ∀ index, index < count → bitAt bytes index = (decide (index < done) && bit index)

variable (count : Nat)

theorem packed_start (bit : Nat → Bool) : Packed count 0 bit (replicate (byteCount count) 0) where
  length := length_replicate
  bits := by
    intro index hi
    have hb : index / 8 < byteCount count := by
      unfold byteCount
      omega
    simp [bitAt,hb]

theorem Packed.next {count done : Nat} (h : Packed count done bit bytes) (hd : done < count) :
    Packed count (done + 1) bit (if bit done then setBit bytes done else bytes) := by
  have hb : done / 8 < bytes.length := by
    rw [h.length]
    unfold byteCount
    omega
  cases hbi : bit done with
  | false =>
    refine ⟨h.length,fun index hi => ?_⟩
    rw [if_neg (by simp),h.bits index hi]
    by_cases hs : index = done
    · simp [hs,hbi]
    · simp [show (index < done + 1) = (index < done) by simp; omega]
  | true =>
    refine ⟨by simpa using h.length,fun index hi => ?_⟩
    rw [if_pos rfl]
    by_cases hs : index = done
    · rw [hs,bitAt_setBit_self hb]
      simp [hbi]
    · rw [bitAt_setBit_of_ne hs,h.bits index hi]
      simp [show (index < done + 1) = (index < done) by simp; omega]

theorem packed_pack (bit : Nat → Bool) : Packed count count bit (pack count bit) := by
  have hl : ∀ done, done ≤ count → Packed count done bit ((range done).foldl
      (fun bytes index => if bit index then setBit bytes index else bytes)
      (replicate (byteCount count) 0)) := by
    intro done
    induction done with
    | zero => exact fun _ => packed_start count bit
    | succ done ih =>
      intro hd
      rw [range_succ,foldl_append]
      exact (ih (by omega)).next (by omega)
  exact hl count (Nat.le_refl count)

@[simp] theorem length_pack (bit : Nat → Bool) : (pack count bit).length = byteCount count :=
  (packed_pack count bit).length

theorem bitAt_pack {count : Nat} (bit : Nat → Bool) (h : index < count) :
    bitAt (pack count bit) index = bit index := by
  rw [(packed_pack count bit).bits index h]
  simp [h]

theorem pack_congr {count : Nat} {other : Nat → Bool}
    (h : ∀ index, index < count → bit index = other index) : pack count bit = pack count other := by
  unfold pack
  apply foldl_ext
  intro bytes index hi
  rw [h index (mem_range.mp hi)]

end VelaEdge.Base.BitPacking
