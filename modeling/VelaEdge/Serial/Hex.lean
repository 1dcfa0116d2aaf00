import VelaEdge.Base.Text
import VelaEdge.Serial.Framing

/-! Hexadecimal request and prefix texts of a custom serial point. -/
namespace VelaEdge.Serial

open Base List Option

/-- A refused text, or a panic of the thread. -/
inductive SerialFailure where
  | invalid (message : String)
  | panic
deriving DecidableEq

def utf8 (chars : List Char) : Bytes := chars.flatMap String.utf8EncodeChar

/-- The text of two bytes, when they are UTF-8 on their own. -/
def fromUtf8Pair (first second : UInt8) : Option (List Char) :=
  if first.toNat < 0x80 ∧ second.toNat < 0x80 then
    some [Char.ofNat first.toNat, Char.ofNat second.toNat]
  else if (0xC2 ≤ first.toNat ∧ first.toNat ≤ 0xDF) ∧ 0x80 ≤ second.toNat ∧ second.toNat ≤ 0xBF then
    some [Char.ofNat (first.toNat % 32 * 64 + second.toNat % 64)]
  else none

def hexDigit (c : Char) : Option Nat :=
  if 48 ≤ c.toNat ∧ c.toNat ≤ 57 then some (c.toNat - 48)
  else if 97 ≤ c.toNat ∧ c.toNat ≤ 102 then some (c.toNat - 87)
  else if 65 ≤ c.toNat ∧ c.toNat ≤ 70 then some (c.toNat - 55)
  else none

/-- A `u8` in base sixteen; the number parser takes a leading plus sign. -/
def fromStrRadix16 (text : List Char) : Option UInt8 :=
  let digits := if text.head? = some '+' then text.tail else text
  if digits = [] then none
  else do
    let values ← digits.mapM hexDigit
    let number := values.foldl (fun number digit => number * 16 + digit) 0
    if number < 256 then some (UInt8.ofNat number) else none

def decodePairs : Bytes → Except SerialFailure Bytes
  | first :: second :: rest =>
    match fromUtf8Pair first second with
    | none => .error .panic
    | some pair =>
      match fromStrRadix16 pair with
      | none => .error (.invalid s!"invalid hex byte: {String.ofList pair}")
      | some byte => do pure (byte :: (← decodePairs rest))
  | _ => .ok []

def isAsciiWhitespace (c : Char) : Bool :=
  c = ' ' ∨ c = '\t' ∨ c = '\n' ∨ c = '\r' ∨ c.toNat = 0x0C

/-- The text without the white space around it, its `0x` and the separators. -/
def compact (value : String) : List Char :=
  let chars := (Text.trim value).toList
  let chars :=
    if ['0', 'x'].isPrefixOf chars ∨ ['0', 'X'].isPrefixOf chars then chars.drop 2 else chars
  chars.filter fun c => !isAsciiWhitespace c && !(c = ':' || c = '-')

def decodeCustomSerialHex (value : String) : Except SerialFailure Bytes := do
  bailIf ((utf8 (compact value)).length % 2 ≠ 0)
    (.invalid "hex value must contain complete byte pairs")
  decodePairs (utf8 (compact value))

/-! What the text should mean. -/

def isHexDigit (c : Char) : Bool := (hexDigit c).isSome

def spelled : List Char → Bytes
  | high :: low :: rest =>
    UInt8.ofNat ((hexDigit high).getD 0 * 16 + (hexDigit low).getD 0) :: spelled rest
  | _ => []

structure DecodesExactly (value : String) : Prop where
  calm : decodeCustomSerialHex value ≠ .error .panic
  accepts : (∃ bytes, decodeCustomSerialHex value = .ok bytes) ↔
    (compact value).length % 2 = 0 ∧ (compact value).all isHexDigit = true
  exact : ∀ bytes, decodeCustomSerialHex value = .ok bytes → bytes = spelled (compact value)

def isAscii (c : Char) : Bool := c.toNat < 0x80

/-- The first two bytes that the number parser refuses are whole characters. -/
def stopsAtWhole : List Char → Bool
  | [] => false
  | [only] => 0x80 ≤ only.toNat ∧ only.toNat < 0x800
  | first :: second :: rest =>
    if 0x80 ≤ first.toNat ∧ first.toNat < 0x800 then true
    else if isAscii first ∧ isAscii second then
      if fromStrRadix16 [first, second] = none then true else stopsAtWhole rest
    else false

/-! The bytes of a character. -/

@[simp] theorem utf8_cons (c : Char) (chars : List Char) :
    utf8 (c :: chars) = String.utf8EncodeChar c ++ utf8 chars := flatMap_cons

theorem utf8EncodeChar_ascii (h : isAscii c = true) :
    String.utf8EncodeChar c = [UInt8.ofNat c.toNat] := by
  have hle : c.val.toNat ≤ 127 := Nat.le_of_lt_succ (of_decide_eq_true h)
  unfold String.utf8EncodeChar
  rw [if_pos hle]
  rfl

theorem toNat_ascii (h : isAscii c = true) : (UInt8.ofNat c.toNat).toNat = c.toNat := by
  have hlt := of_decide_eq_true h
  rw [UInt8.toNat_ofNat',Nat.mod_eq_of_lt (by omega)]

variable {c : Char}

theorem utf8EncodeChar_double (hl : 0x80 ≤ c.toNat) (hh : c.toNat < 0x800) :
    ∃ first second, String.utf8EncodeChar c = [first,second] ∧
      fromUtf8Pair first second = some [c] := by
  have hn : ¬ c.val.toNat ≤ 127 := Nat.not_le.mpr hl
  have hle : c.val.toNat ≤ 2047 := Nat.le_of_lt_succ hh
  refine ⟨UInt8.ofNat (c.toNat / 64 % 32 + 192),UInt8.ofNat (c.toNat % 64 + 128),?_,?_⟩
  · unfold String.utf8EncodeChar
    rw [if_neg hn,if_pos hle]
    rfl
  · have hf : (UInt8.ofNat (c.toNat / 64 % 32 + 192)).toNat = c.toNat / 64 + 192 := by
      rw [UInt8.toNat_ofNat']
      omega
    have hs : (UInt8.ofNat (c.toNat % 64 + 128)).toNat = c.toNat % 64 + 128 := by
      rw [UInt8.toNat_ofNat']
      omega
    have hc : (c.toNat / 64 + 192) % 32 * 64 + (c.toNat % 64 + 128) % 64 = c.toNat := by omega
    unfold fromUtf8Pair
    rw [hf,hs,if_neg (by omega),if_pos (by omega),hc,Char.ofNat_toNat]

theorem utf8EncodeChar_long (h : 0x800 ≤ c.toNat) :
    ∃ first second rest, String.utf8EncodeChar c = first :: second :: rest ∧
      fromUtf8Pair first second = none ∧ 0x80 ≤ first.toNat := by
  have ho : ¬ c.val.toNat ≤ 127 := by
    change ¬ c.toNat ≤ 127
    omega
  have ht : ¬ c.val.toNat ≤ 2047 := by
    change ¬ c.toNat ≤ 2047
    omega
  have hc : ∀ first second : UInt8, 0xE0 ≤ first.toNat → fromUtf8Pair first second = none := by
    intro first second hf
    unfold fromUtf8Pair
    rw [if_neg (by omega),if_neg (by omega)]
  unfold String.utf8EncodeChar
  dsimp only
  rw [if_neg ho,if_neg ht]
  split
  · have hf : 0xE0 ≤ (UInt8.ofNat (c.val.toNat / 4096 % 16 + 224)).toNat := by
      rw [UInt8.toNat_ofNat']
      omega
    exact ⟨_,_,_,rfl,hc _ _ hf,by omega⟩
  · have hf : 0xE0 ≤ (UInt8.ofNat (c.val.toNat / 262144 % 8 + 240)).toNat := by
      rw [UInt8.toNat_ofNat']
      omega
    exact ⟨_,_,_,rfl,hc _ _ hf,by omega⟩

theorem utf8EncodeChar_high (h : isAscii c = false) :
    ∃ first rest, String.utf8EncodeChar c = first :: rest ∧ 0x80 ≤ first.toNat := by
  have hl : 0x80 ≤ c.toNat := Nat.not_lt.mp (of_decide_eq_false h)
  by_cases hh : c.toNat < 0x800
  · obtain ⟨first,second,hb,hp⟩ := utf8EncodeChar_double hl hh
    refine ⟨first,[second],hb,Nat.not_lt.mp fun hf => ?_⟩
    unfold fromUtf8Pair at hp
    by_cases hs : second.toNat < 0x80
    · rw [if_pos ⟨hf,hs⟩] at hp
      cases hp
    · rw [if_neg (by omega),if_neg (by omega)] at hp
      cases hp
  · obtain ⟨first,second,rest,hb,-,hf⟩ := utf8EncodeChar_long (Nat.not_lt.mp hh)
    exact ⟨first,second :: rest,hb,hf⟩

/-! One pair of bytes. -/

theorem decodePairs_double (hl : 0x80 ≤ c.toNat) (hh : c.toNat < 0x800) (chars : List Char) :
    decodePairs (utf8 (c :: chars)) =
      .error (.invalid s!"invalid hex byte: {String.ofList [c]}") := by
  obtain ⟨first,second,hb,hp⟩ := utf8EncodeChar_double hl hh
  have hpl : c ≠ '+' := by
    rintro rfl
    exact absurd hl (by decide)
  have hd : hexDigit c = none := by
    unfold hexDigit
    rw [if_neg (by omega),if_neg (by omega),if_neg (by omega)]
  rw [utf8_cons,hb,cons_append,cons_append,nil_append,decodePairs,hp]
  simp [fromStrRadix16,hpl,hd]

theorem decodePairs_long (h : 0x800 ≤ c.toNat) (chars : List Char) :
    decodePairs (utf8 (c :: chars)) = .error .panic := by
  obtain ⟨first,second,rest,hb,hp,-⟩ := utf8EncodeChar_long h
  rw [utf8_cons,hb,cons_append,cons_append,decodePairs,hp]

theorem decodePairs_cut {second : Char} (hf : isAscii first = true) (hs : isAscii second = false)
    (chars : List Char) : decodePairs (utf8 (first :: second :: chars)) = .error .panic := by
  obtain ⟨high,rest,hb,hh⟩ := utf8EncodeChar_high hs
  have hl := toNat_ascii hf
  have hlt : first.toNat < 0x80 := of_decide_eq_true hf
  have hp : fromUtf8Pair (UInt8.ofNat first.toNat) high = none := by
    unfold fromUtf8Pair
    rw [if_neg (by omega),if_neg (by omega)]
  rw [utf8_cons,utf8_cons,utf8EncodeChar_ascii hf,hb,cons_append,
    nil_append,cons_append,decodePairs,hp]

theorem decodePairs_ascii {second : Char} (hf : isAscii first = true) (hs : isAscii second = true)
    (chars : List Char) :
    decodePairs (utf8 (first :: second :: chars)) = match fromStrRadix16 [first,second] with
      | none => .error (.invalid s!"invalid hex byte: {String.ofList [first, second]}")
      | some byte => (decodePairs (utf8 chars)).map (byte :: ·) := by
  have hp : fromUtf8Pair (UInt8.ofNat first.toNat) (UInt8.ofNat second.toNat) =
      some [first,second] := by
    have hfl : first.toNat < 0x80 := of_decide_eq_true hf
    have hsl : second.toNat < 0x80 := of_decide_eq_true hs
    unfold fromUtf8Pair
    rw [toNat_ascii hf,toNat_ascii hs,if_pos ⟨hfl,hsl⟩,Char.ofNat_toNat,Char.ofNat_toNat]
  rw [utf8_cons,utf8_cons,utf8EncodeChar_ascii hf,utf8EncodeChar_ascii hs,
    cons_append,nil_append,cons_append,nil_append,decodePairs,hp]
  rfl

variable (chars : List Char)

/-! All pairs. -/

theorem decodePairs_stops (h : stopsAtWhole chars = true) :
    ∃ msg, decodePairs (utf8 chars) = .error (.invalid msg) := by
  fun_induction stopsAtWhole chars with
  | case1 => cases h
  | case2 only =>
    have hr := of_decide_eq_true h
    exact ⟨_,decodePairs_double hr.1 hr.2 []⟩
  | case3 first second rest hr => exact ⟨_,decodePairs_double hr.1 hr.2 _⟩
  | case4 first second rest _ ha hn =>
    rw [decodePairs_ascii ha.1 ha.2,hn]
    exact ⟨_,rfl⟩
  | case5 first second rest _ ha hs ih =>
    obtain ⟨byte,hb⟩ := ne_none_iff_exists'.mp hs
    obtain ⟨msg,hm⟩ := ih h
    rw [decodePairs_ascii ha.1 ha.2,hb,hm]
    exact ⟨msg,rfl⟩
  | case6 => cases h

theorem decodePairs_not_stops (h : stopsAtWhole chars = false) (he : (utf8 chars).length % 2 = 0) :
    decodePairs (utf8 chars) = .error .panic ∨ ∃ bytes, decodePairs (utf8 chars) = .ok bytes := by
  fun_induction stopsAtWhole chars with
  | case1 => exact Or.inr ⟨[],rfl⟩
  | case2 only =>
    have hr := of_decide_eq_false h
    by_cases hl : 0x80 ≤ only.toNat
    · exact Or.inl (decodePairs_long (by omega) [])
    · rw [utf8_cons,utf8EncodeChar_ascii (decide_eq_true (by omega))] at he
      cases he
  | case3 => cases h
  | case4 => cases h
  | case5 first second rest _ ha hso ih =>
    obtain ⟨byte,hby⟩ := ne_none_iff_exists'.mp hso
    rw [utf8_cons,utf8_cons,utf8EncodeChar_ascii ha.1,utf8EncodeChar_ascii ha.2,
      length_append,length_append,length_singleton,length_singleton] at he
    rw [decodePairs_ascii ha.1 ha.2,hby]
    cases ih h (by omega) with
    | inl hp =>
      rw [hp]
      exact Or.inl rfl
    | inr hre =>
      obtain ⟨bytes,hb⟩ := hre
      rw [hb]
      exact Or.inr ⟨_,rfl⟩
  | case6 first second rest hr ha =>
    apply Or.inl
    by_cases hf : isAscii first = true
    · exact decodePairs_cut hf (Bool.eq_false_iff.mpr fun hs => ha ⟨hf,hs⟩) _
    · have hl : ¬ first.toNat < 0x80 := fun hlt => hf (decide_eq_true hlt)
      exact decodePairs_long (by omega) _

/-! Texts of digits only. -/

theorem hexDigit_range (h : hexDigit c = some value) : value < 16 ∧ isAscii c = true ∧ c ≠ '+' := by
  have hp : c.toNat ≠ 43 → c ≠ '+' := by
    rintro hne rfl
    exact hne rfl
  unfold hexDigit at h
  unfold isAscii
  split_ifs at h
  all_goals
    cases h
    exact ⟨by omega,decide_eq_true (by omega),hp (by omega)⟩

private theorem fromStrRadix16_digits (hh : hexDigit high = some a) (hl : hexDigit low = some b) :
    fromStrRadix16 [high,low] = some (UInt8.ofNat (a * 16 + b)) := by
  have ha := hexDigit_range hh
  have hb := hexDigit_range hl
  simp [fromStrRadix16,ha.2.2,hh,hl]
  omega

theorem utf8_length_digits {chars : List Char} (h : chars.all isHexDigit = true) :
    (utf8 chars).length = chars.length := by
  induction chars with
  | nil => rfl
  | cons c chars ih =>
    rw [all_cons,Bool.and_eq_true] at h
    obtain ⟨value,hv⟩ := isSome_iff_exists.mp h.1
    rw [utf8_cons,utf8EncodeChar_ascii (hexDigit_range hv).2.1,length_append,ih h.2]
    exact Nat.add_comm 1 chars.length

theorem decodePairs_digits (h : chars.all isHexDigit = true) (he : chars.length % 2 = 0) :
    decodePairs (utf8 chars) = .ok (spelled chars) := by
  fun_induction spelled chars with
  | case1 high low rest ih =>
    rw [all_cons,all_cons,Bool.and_eq_true,Bool.and_eq_true] at h
    obtain ⟨a,ha⟩ := isSome_iff_exists.mp h.1
    obtain ⟨b,hb⟩ := isSome_iff_exists.mp h.2.1
    rw [length_cons,length_cons] at he
    rw [decodePairs_ascii (hexDigit_range ha).2.1 (hexDigit_range hb).2.1,
      fromStrRadix16_digits ha hb,ih h.2.2 (by omega),ha,hb]
    rfl
  | case2 chars hs =>
    cases chars with
    | nil => rfl
    | cons c chars =>
      cases chars with
      | nil => cases he
      | cons d chars => exact absurd rfl (hs c d chars)

/-! The texts that are decoded as they should be. -/

def Clean (value : String) : Prop :=
  (utf8 (compact value)).length % 2 ≠ 0 ∨ (compact value).all isHexDigit = true ∨
    stopsAtWhole (compact value) = true

theorem decodeCustomSerialHex_odd (h : (utf8 (compact value)).length % 2 ≠ 0) :
    decodeCustomSerialHex value =
      .error (.invalid "hex value must contain complete byte pairs") := by
  simp only [decodeCustomSerialHex,bailIf,if_pos h,error_bind]

private theorem decodeCustomSerialHex_even (h : (utf8 (compact value)).length % 2 = 0) :
    decodeCustomSerialHex value = decodePairs (utf8 (compact value)) := by
  simp only [decodeCustomSerialHex,bailIf,if_neg (not_not_intro h),ok_bind]

private theorem decodesExactly_of_invalid {msg : String}
    (h : decodeCustomSerialHex value = .error (.invalid msg))
    (hn : ¬ ((compact value).length % 2 = 0 ∧ (compact value).all isHexDigit = true)) :
    DecodesExactly value := by
  refine ⟨?_,?_,?_⟩
  · rw [h]
    simp
  · rw [h]
    simp only [reduceCtorEq,exists_false,false_iff]
    exact hn
  · intro bytes hb
    rw [h] at hb
    cases hb

theorem decodesExactly_iff_clean (value : String) : DecodesExactly value ↔ Clean value := by
  by_cases he : (utf8 (compact value)).length % 2 = 0
  · by_cases hd : (compact value).all isHexDigit = true
    · have hl : (compact value).length % 2 = 0 := by rw [← utf8_length_digits hd,he]
      have hr := decodePairs_digits _ hd hl
      rw [← decodeCustomSerialHex_even he] at hr
      apply iff_of_true
      · refine ⟨by rw [hr]; simp,⟨fun _ => ⟨hl,hd⟩,fun _ => ⟨_,hr⟩⟩,?_⟩
        intro bytes hb
        rw [hr] at hb
        exact (Except.ok.inj hb).symm
      · exact Or.inr (Or.inl hd)
    · by_cases hs : stopsAtWhole (compact value) = true
      · obtain ⟨msg,hm⟩ := decodePairs_stops _ hs
        rw [← decodeCustomSerialHex_even he] at hm
        exact iff_of_true (decodesExactly_of_invalid hm fun h => hd h.2) (Or.inr (Or.inr hs))
      · apply iff_of_false
        · intro h
          have hen := decodePairs_not_stops _ (Bool.eq_false_iff.mpr hs) he
          rw [← decodeCustomSerialHex_even he] at hen
          exact hen.elim h.calm fun hr => hd (h.accepts.mp hr).2
        · rw [Clean,not_or,not_or]
          exact ⟨not_not_intro he,hd,hs⟩
  · apply iff_of_true
    · apply decodesExactly_of_invalid (decodeCustomSerialHex_odd he)
      rintro ⟨hl,hd⟩
      rw [utf8_length_digits hd] at he
      exact he hl
    · exact Or.inl he

/-- A character cut in two panics, and a plus sign counts as a digit. -/
theorem cut_character_panics :
    decodeCustomSerialHex "aéb" = .error .panic ∧ decodeCustomSerialHex "+5" = .ok [0x05] ∧
      ¬ DecodesExactly "aéb" := by
  have hp : decodeCustomSerialHex "aéb" = .error .panic := by decide
  exact ⟨hp,by decide,fun h => h.calm hp⟩

end VelaEdge.Serial
