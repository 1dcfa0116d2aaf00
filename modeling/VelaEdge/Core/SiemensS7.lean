import VelaEdge.Base.Outcome
import VelaEdge.Base.Text

/-! Siemens S7 point addresses: the text a point is configured with and its canonical form. -/
namespace VelaEdge.Core

open Base List Text

inductive SiemensS7Area where
  | dataBlock
  | marker
  | processInput
  | processOutput
  deriving DecidableEq

inductive SiemensS7DataType where
  | bit
  | byte
  | word
  | dWord
  | int
  | dInt
  | real
  deriving DecidableEq

structure SiemensS7PointAddress where
  area : SiemensS7Area
  dbNumber : UInt16
  byteOffset : UInt32
  bitOffset : Option UInt8
  dataType : SiemensS7DataType
  deriving DecidableEq

inductive SiemensS7Failure where
  | invalid (reason : String)
  | panic
  deriving DecidableEq

/-- How the source spells a type in a data block, and outside one. -/
def SiemensS7Area.mnemonic : SiemensS7Area → SiemensS7DataType → String
  | .dataBlock, .bit => "DBX"
  | .dataBlock, .byte => "DBB"
  | .dataBlock, .word => "DBW"
  | .dataBlock, .dWord => "DBD"
  | .dataBlock, .int => "INT"
  | .dataBlock, .dInt => "DINT"
  | .dataBlock, .real => "REAL"
  | _, .bit => ""
  | _, .byte => "B"
  | _, .word | _, .int => "W"
  | _, .dWord | _, .dInt | _, .real => "D"

namespace SiemensS7PointAddress

def canonical (address : SiemensS7PointAddress) : String := let area := match address.area with
    | .dataBlock => s!"DB{address.dbNumber.toNat}."
    | .marker => "M"
    | .processInput => "I"
    | .processOutput => "Q"
  let offset := match address.dataType with
    | .bit => s!"{address.byteOffset.toNat}.{(address.bitOffset.getD 0).toNat}"
    | _ => s!"{address.byteOffset.toNat}"
  area ++ address.area.mnemonic address.dataType ++ offset

end SiemensS7PointAddress

def parseSiemensS7Number (bound : Nat) (text : List Char) (reason : String) :
    Except SiemensS7Failure Nat :=
  context (parseBelow bound (String.ofList text)) (.invalid reason)

def parseSiemensS7TypedOffset (value : List Char) (mnemonics : List (String × SiemensS7DataType)) :
    Except SiemensS7Failure (SiemensS7DataType × List Char) :=
  context (mnemonics.findSome? fun (start,dataType) =>
      if start.toList.isPrefixOf value then some (dataType,value.drop start.toList.length)
      else none)
    (.invalid s!"unsupported Siemens S7 point type in address: {String.ofList value}")

def parseSiemensS7Offset (value : List Char) (dataType : SiemensS7DataType) :
    Except SiemensS7Failure (UInt32 × Option UInt8) :=
  if dataType = .bit then do
    let (byteOffset,bitOffset) ← context (splitOnceChars ['.'] value) (.invalid
      "Siemens S7 bit address must include byte and bit offsets, for example M0.0")
    let byteOffset ← parseSiemensS7Number (2 ^ 32) byteOffset "invalid Siemens S7 byte offset"
    let bitOffset ← parseSiemensS7Number (2 ^ 8) bitOffset "invalid Siemens S7 bit offset"
    bailIf (bitOffset > 7) (.invalid "Siemens S7 bit offset must be between 0 and 7")
    pure (UInt32.ofNat byteOffset,some (UInt8.ofNat bitOffset))
  else do
    let byteOffset ← parseSiemensS7Number (2 ^ 32) value "invalid Siemens S7 byte offset"
    pure (UInt32.ofNat byteOffset,none)

def parseSiemensS7DataBlock (rest : List Char) : Except SiemensS7Failure SiemensS7PointAddress := do
  let (dbNumber,typedAddress) ← context (splitOnceChars ['.'] rest) (.invalid
    "Siemens S7 DB address must use DB<number>.<type><offset>")
  let dbNumber ← parseSiemensS7Number (2 ^ 16) dbNumber
    "Siemens S7 DB number must be between 0 and 65535"
  let (dataType,offset) ← parseSiemensS7TypedOffset typedAddress [("DBX",.bit),("DBB",.byte),
    ("DBW",.word),("DBD",.dWord),("DINT",.dInt),("INT",.int),("REAL",.real)]
  let (byteOffset,bitOffset) ← parseSiemensS7Offset offset dataType
  pure ⟨.dataBlock,UInt16.ofNat dbNumber,byteOffset,bitOffset,dataType⟩

def siemensS7Area : Char → Except SiemensS7Failure SiemensS7Area
  | 'M' => .ok .marker
  | 'I' => .ok .processInput
  | 'Q' => .ok .processOutput
  | _ => .error (.invalid "Siemens S7 point area must be DB, M (marker), I (input) or Q (output)")

def siemensS7AreaType (rest : List Char) :
    Except SiemensS7Failure (SiemensS7DataType × List Char) :=
  if rest.head?.any Char.isDigit then .ok (.bit,rest)
  else parseSiemensS7TypedOffset rest [("X",.bit),("B",.byte),("W",.word),("D",.dWord)]

/-- The address outside the data blocks: its first byte names the area, so cutting there panics
where the first character is longer than a byte. -/
def parseSiemensS7Area (first : Char) (rest : List Char) :
    Except SiemensS7Failure SiemensS7PointAddress := do
  bailIf (0x80 ≤ first.toNat) .panic
  let area ← siemensS7Area first
  let (dataType,offset) ← siemensS7AreaType rest
  let (byteOffset,bitOffset) ← parseSiemensS7Offset offset dataType
  pure ⟨area,0,byteOffset,bitOffset,dataType⟩

def parseSiemensS7PointAddress (value : String) :
    Except SiemensS7Failure SiemensS7PointAddress := do
  let value := (trim value).toList.map Char.toUpper
  bailIf (value.isEmpty ∨ value.any isWhitespace)
    (.invalid "Siemens S7 point address cannot be empty or contain spaces")
  match value with
  | 'D' :: 'B' :: rest => parseSiemensS7DataBlock rest
  | first :: rest => parseSiemensS7Area first rest
  | [] => throw (.invalid "Siemens S7 point address cannot be empty or contain spaces")

structure SiemensS7PointAddress.Within (address : SiemensS7PointAddress) : Prop where
  area : address.area = .dataBlock ∨
    address.dbNumber = 0 ∧ address.dataType ∈ [.bit, .byte, .word, .dWord]
  bit : if address.dataType = .bit then ∃ bit ≤ 7, address.bitOffset = some bit
    else address.bitOffset = none

/-! What is accepted. -/

theorem parseSiemensS7Offset_bit (h : parseSiemensS7Offset value dataType = .ok (offset,bit)) :
    if dataType = .bit then ∃ kept ≤ 7, bit = some kept else bit = none := by
  unfold parseSiemensS7Offset at h
  split at h
  · next hb =>
    rw [if_pos hb]
    obtain ⟨_,-,h⟩ := bind_eq_ok.mp h
    obtain ⟨_,-,h⟩ := bind_eq_ok.mp h
    obtain ⟨number,-,h⟩ := bind_eq_ok.mp h
    obtain ⟨_,hle,h⟩ := bind_eq_ok.mp h
    cases h
    rw [bailIf_eq_ok,Nat.not_lt] at hle
    refine ⟨_,?_,rfl⟩
    rw [UInt8.le_iff_toNat_le,UInt8.toNat_ofNat',Nat.mod_eq_of_lt (by omega)]
    exact hle
  · next hb =>
    rw [if_neg hb]
    obtain ⟨_,-,h⟩ := bind_eq_ok.mp h
    cases h
    rfl

private theorem parseSiemensS7TypedOffset_mem
    (h : parseSiemensS7TypedOffset value mnemonics = .ok (dataType,offset)) :
    dataType ∈ mnemonics.map Prod.snd := by
  obtain ⟨⟨start,kept⟩,hm,hk⟩ := exists_of_findSome?_eq_some (context_eq_ok.mp h)
  dsimp only at hk
  split at hk
  · cases hk
    exact mem_map.mpr ⟨_,hm,rfl⟩
  · cases hk

theorem parseSiemensS7DataBlock_within (h : parseSiemensS7DataBlock rest = .ok address) :
    address.Within := by
  obtain ⟨_,-,h⟩ := bind_eq_ok.mp h
  obtain ⟨_,-,h⟩ := bind_eq_ok.mp h
  obtain ⟨_,-,h⟩ := bind_eq_ok.mp h
  obtain ⟨_,ho,h⟩ := bind_eq_ok.mp h
  cases h
  exact ⟨.inl rfl,parseSiemensS7Offset_bit ho⟩

theorem parseSiemensS7Area_within (h : parseSiemensS7Area first rest = .ok address) :
    address.Within := by
  obtain ⟨_,-,h⟩ := bind_eq_ok.mp h
  obtain ⟨_,-,h⟩ := bind_eq_ok.mp h
  obtain ⟨⟨dataType,offset⟩,ht,h⟩ := bind_eq_ok.mp h
  obtain ⟨_,ho,h⟩ := bind_eq_ok.mp h
  cases h
  refine ⟨.inr ⟨rfl,?_⟩,parseSiemensS7Offset_bit ho⟩
  unfold siemensS7AreaType at ht
  split at ht
  · cases ht
    exact mem_cons_self
  · exact parseSiemensS7TypedOffset_mem ht

/-! What the canonical text says. -/

theorem parseSiemensS7Number_digits (why : String) (h : number < bound) :
    parseSiemensS7Number bound (Nat.toDigits 10 number) why = .ok number := by
  rw [parseSiemensS7Number,parseBelow_toDigits h]
  rfl

namespace SiemensS7PointAddress

variable (address : SiemensS7PointAddress)

def offsetText : List Char :=
  match address.dataType with
  | .bit => Nat.toDigits 10 address.byteOffset.toNat ++ '.' ::
      Nat.toDigits 10 (address.bitOffset.getD 0).toNat
  | _ => Nat.toDigits 10 address.byteOffset.toNat

def areaText : List Char :=
  match address.area with
  | .dataBlock => 'D' :: 'B' :: (Nat.toDigits 10 address.dbNumber.toNat ++ ['.'])
  | .marker => ['M']
  | .processInput => ['I']
  | .processOutput => ['Q']

end SiemensS7PointAddress

open SiemensS7PointAddress (offsetText areaText Within)

theorem parseSiemensS7Offset_offsetText (h : Within address) :
    parseSiemensS7Offset address.offsetText address.dataType =
      .ok (address.byteOffset,address.bitOffset) := by
  obtain ⟨area,dbNumber,byteOffset,bitOffset,dataType⟩ := address
  have hb := parseSiemensS7Number_digits "invalid Siemens S7 byte offset" byteOffset.toNat_lt
  by_cases ht : dataType = .bit
  · subst ht
    obtain ⟨bit,hle,rfl⟩ := h.bit
    have hn := parseSiemensS7Number_digits "invalid Siemens S7 bit offset" bit.toNat_lt
    have hs := splitOnceChars_toDigits byteOffset.toNat (Nat.toDigits 10 bit.toNat)
    have hle : bit.toNat ≤ 7 := UInt8.le_iff_toNat_le.mp hle
    simp [parseSiemensS7Offset,offsetText,hs,hb,hn,bailIf,Nat.not_lt.mpr hle]
  · have hn : bitOffset = none := by simpa [ht] using h.bit
    subst hn
    cases dataType <;> first | exact absurd rfl ht |
      simp [parseSiemensS7Offset,offsetText,hb]

/-- The characters of a canonical text, which trimming and uppercasing leave alone. -/
def plain (c : Char) : Bool := 46 ≤ c.toNat && c.toNat ≤ 90

theorem plain_code (h : plain c = true) : 46 ≤ c.toNat ∧ c.toNat ≤ 90 := by simpa [plain] using h

theorem plain_whitespace (h : plain c = true) : isWhitespace c = false := by
  obtain ⟨hl,hu⟩ := plain_code h
  simp only [isWhitespace,Bool.or_eq_false_iff,Bool.and_eq_false_iff,beq_eq_false_iff_ne,
    decide_eq_false_iff_not]
  omega

private theorem plain_toUpper (h : plain c = true) : c.toUpper = c := by
  have hu : c.val.toNat ≤ 90 := (plain_code h).2
  refine dif_neg fun hc => ?_
  have hl : 97 ≤ c.val.toNat := UInt32.le_iff_toNat_le.mp hc.1
  omega

theorem normalized_plain (h : chars.all plain = true) :
    (trim (String.ofList chars)).toList.map Char.toUpper = chars := by
  have hp := all_eq_true.mp h
  have hw : ∀ kept : List Char, (∀ c ∈ kept, plain c = true) →
      kept.dropWhile isWhitespace = kept := by
    intro kept hk
    cases kept with
    | nil => rfl
    | cons c rest => rw [dropWhile_cons_of_neg (by simp [plain_whitespace (hk c (by simp))])]
  rw [trim,String.toList_ofList,String.toList_ofList,hw _ hp,
    hw _ fun c hc => hp c (mem_reverse.mp hc),reverse_reverse]
  exact (map_congr_left fun c hc => plain_toUpper (hp c hc)).trans (map_id _)

@[simp] theorem digits_plain (number : Nat) : (Nat.toDigits 10 number).all plain = true := by
  refine all_eq_true.mpr fun c hc => ?_
  have hd : c.isDigit = true := Nat.isDigit_of_mem_toDigits (by decide) (by decide) hc
  simp only [Char.isDigit,UInt32.le_iff_toNat_le,Bool.and_eq_true,decide_eq_true_eq] at hd
  have hl : 46 ≤ c.toNat := Nat.le_trans (by decide) hd.1
  have hu : c.toNat ≤ 90 := Nat.le_trans hd.2 (by decide)
  simp [plain,hl,hu]

variable (addr : SiemensS7PointAddress)

@[simp] theorem offsetText_plain : addr.offsetText.all plain = true := by
  unfold offsetText
  split <;> simp
  rfl

theorem canonical_toList : addr.canonical.toList = addr.areaText ++
      ((addr.area.mnemonic addr.dataType).toList ++ addr.offsetText) := by
  obtain ⟨area,dbNumber,byteOffset,bitOffset,dataType⟩ := addr
  cases area <;> cases dataType <;>
    simp [SiemensS7PointAddress.canonical,areaText,
      offsetText] <;> rfl

@[simp] theorem canonical_plain : addr.canonical.toList.all plain = true := by
  have ha : addr.areaText.all plain = true := by
    unfold areaText
    split <;> simp only [all_append,all_cons,digits_plain] <;> rfl
  have hm : ∀ (area : SiemensS7Area) dataType, (area.mnemonic dataType).toList.all plain = true := by
    intro area dataType
    cases area <;> cases dataType <;> decide
  rw [canonical_toList,all_append,all_append,ha,hm,offsetText_plain]
  rfl

theorem parseSiemensS7DataBlock_canonical (h : Within address) (ha : address.area = .dataBlock) :
    parseSiemensS7DataBlock (Nat.toDigits 10 address.dbNumber.toNat ++ '.' ::
      ((SiemensS7Area.dataBlock.mnemonic address.dataType).toList ++
        address.offsetText)) = .ok address := by
  have ho := parseSiemensS7Offset_offsetText h
  have hd := parseSiemensS7Number_digits "Siemens S7 DB number must be between 0 and 65535"
    address.dbNumber.toNat_lt
  unfold parseSiemensS7DataBlock
  rw [splitOnceChars_toDigits,context_some,ok_bind]
  simp only [hd,ok_bind]
  have ht : ∀ dataType rest, parseSiemensS7TypedOffset
      ((SiemensS7Area.dataBlock.mnemonic dataType).toList ++ rest)
        [("DBX",.bit),("DBB",.byte),("DBW",.word),("DBD",.dWord),("DINT",.dInt),
          ("INT",.int),("REAL",.real)] = .ok (dataType,rest) := by
    intro dataType rest
    cases dataType <;> rfl
  rw [ht,ok_bind]
  simp only [ho,ok_bind,UInt16.ofNat_toNat]
  rw [← ha]
  rfl

@[simp] theorem offsetText_head : addr.offsetText.head?.any Char.isDigit = true := by
  have hd : (Nat.toDigits 10 addr.byteOffset.toNat).head?.any Char.isDigit = true := by
    rw [head?_eq_some_head Nat.toDigits_ne_nil]
    exact Nat.isDigit_of_mem_toDigits (by decide) (by decide) (head_mem _)
  unfold offsetText
  split
  · rwa [head?_append_of_ne_nil _ Nat.toDigits_ne_nil]
  · exact hd

private theorem siemensS7AreaType_canonical (h : dataType ∈ [.bit,.byte,.word,.dWord])
    (ha : area ≠ SiemensS7Area.dataBlock) (hd : rest.head?.any Char.isDigit = true) :
    siemensS7AreaType ((area.mnemonic dataType).toList ++ rest) = .ok (dataType,rest) := by
  cases area <;> simp at ha <;> cases dataType <;> simp at h <;> first | rfl | exact if_pos hd

theorem parseSiemensS7PointAddress_canonical (h : Within address) :
    parseSiemensS7PointAddress address.canonical = .ok address := by
  have hn := normalized_plain (canonical_plain address)
  have hw : ¬ address.canonical.toList.any isWhitespace = true := by
    simpa using fun c hc => plain_whitespace (all_eq_true.mp (canonical_plain address) c hc)
  rw [String.ofList_toList] at hn
  unfold parseSiemensS7PointAddress
  simp only [hn,hw]
  rw [canonical_toList]
  by_cases ha : address.area = .dataBlock
  · have hd := parseSiemensS7DataBlock_canonical h ha
    simp [areaText,ha,bailIf,hd]
  · obtain ⟨hz,ht⟩ := h.area.resolve_left ha
    have ho := parseSiemensS7Offset_offsetText h
    have hp := siemensS7AreaType_canonical ht ha (offsetText_head address)
    obtain ⟨area,dbNumber,byteOffset,bitOffset,dataType⟩ := address
    dsimp only at ha hz hp ho
    subst hz
    cases area with
    | dataBlock => exact absurd rfl ha
    | marker | processInput | processOutput =>
      simp [areaText,bailIf,parseSiemensS7Area,siemensS7Area,hp,ho]

/-! What panics. -/

def Calm (outcome : Except SiemensS7Failure α) : Prop := outcome ≠ .error .panic

theorem Calm.bind {next : α → Except SiemensS7Failure β} (h : Calm outcome)
    (hn : ∀ found, Calm (next found)) : Calm (outcome >>= next) := by
  cases outcome with
  | error => exact fun hp => h (Except.error.inj hp ▸ rfl)
  | ok found => exact hn found

theorem calm_context : Calm (context value (.invalid why)) := by
  cases value <;> exact fun h => by cases h

theorem calm_number : Calm (parseSiemensS7Number bound text why) := calm_context

theorem calm_offset : Calm (parseSiemensS7Offset value dataType) := by
  unfold parseSiemensS7Offset
  split
  · refine calm_context.bind fun _ => calm_number.bind fun _ => calm_number.bind fun bit => ?_
    by_cases hb : bit > 7 <;> simp [Calm,bailIf,hb,pure,Except.pure]
  · exact calm_number.bind fun _ h => by cases h

theorem calm_dataBlock : Calm (parseSiemensS7DataBlock rest) :=
  calm_context.bind fun _ => calm_number.bind fun _ => calm_context.bind fun _ =>
    calm_offset.bind fun _ h => by cases h

theorem calm_area : Calm (parseSiemensS7Area first rest) ↔ first.toNat < 0x80 := by
  unfold parseSiemensS7Area
  by_cases hf : 0x80 ≤ first.toNat
  · simp [Calm,bailIf,hf]
  · have ha : Calm (siemensS7Area first) := by
      unfold siemensS7Area
      split <;> exact fun h => by cases h
    have ht : Calm (siemensS7AreaType rest) := by
      unfold siemensS7AreaType
      split
      · exact fun h => by cases h
      · exact calm_context
    simp only [bailIf,hf,if_false,ok_bind]
    exact ⟨fun _ => Nat.lt_of_not_le hf,fun _ =>
      ha.bind fun _ => ht.bind fun _ => calm_offset.bind fun _ h => by cases h⟩

variable (c : Char)

/-- A letter that uppercasing changes is neither white space nor longer than a byte, before and
after. -/
theorem toUpper_cases : c.toUpper = c ∨
    (97 ≤ c.toNat ∧ c.toNat ≤ 122) ∧ 65 ≤ c.toUpper.toNat ∧ c.toUpper.toNat ≤ 90 := by
  unfold Char.toUpper
  split
  · next h =>
    have hl : 97 ≤ c.val.toNat := UInt32.le_iff_toNat_le.mp h.1
    have hu : c.val.toNat ≤ 122 := UInt32.le_iff_toNat_le.mp h.2
    refine .inr ⟨⟨hl,hu⟩,?_⟩
    show 65 ≤ (c.val + ('A'.val - 'a'.val)).toNat ∧ (c.val + ('A'.val - 'a'.val)).toNat ≤ 90
    rw [UInt32.toNat_add,show ('A'.val - 'a'.val).toNat = 2 ^ 32 - 32 from rfl]
    omega
  · exact .inl rfl

@[simp] theorem isWhitespace_toUpper : isWhitespace c.toUpper = isWhitespace c := by
  rcases toUpper_cases c with h | ⟨h,hu⟩
  · rw [h]
  · have hw : ∀ c : Char, 65 ≤ c.toNat → c.toNat ≤ 122 → isWhitespace c = false := by
      intro c hl hu
      simp only [isWhitespace,Bool.or_eq_false_iff,Bool.and_eq_false_iff,
        beq_eq_false_iff_ne,decide_eq_false_iff_not]
      omega
    rw [hw _ (by omega) (by omega),hw _ (by omega) (by omega)]

@[simp] theorem toUpper_ascii : c.toUpper.toNat < 0x80 ↔ c.toNat < 0x80 := by
  rcases toUpper_cases c with h | ⟨h,hu⟩
  · rw [h]
  · omega

/-- The parser answers, what it accepts is within its bounds, and the canonical text of that says
the same. -/
structure ParsesCleanly (value : String) : Prop where
  calm : Calm (parseSiemensS7PointAddress value)
  within : ∀ address, parseSiemensS7PointAddress value = .ok address → address.Within
  canonical : ∀ address, parseSiemensS7PointAddress value = .ok address →
    parseSiemensS7PointAddress address.canonical = .ok address

theorem parseSiemensS7PointAddress_within (h : parseSiemensS7PointAddress value = .ok address) :
    address.Within := by
  obtain ⟨_,-,h⟩ := bind_eq_ok.mp h
  split at h
  · exact parseSiemensS7DataBlock_within h
  · exact parseSiemensS7Area_within h
  · cases h

private theorem calm_parse : Calm (parseSiemensS7PointAddress value) ↔
    (trim value).toList.any isWhitespace = true ∨
      ∀ c ∈ (trim value).toList.head?, c.toNat < 0x80 := by
  unfold parseSiemensS7PointAddress
  have hw : ((trim value).toList.map Char.toUpper).any isWhitespace =
      (trim value).toList.any isWhitespace := by
    rw [any_map]
    congr 1
    exact funext isWhitespace_toUpper
  simp only [hw]
  cases (trim value).toList with
  | nil => simp [Calm,bailIf]
  | cons c rest =>
    by_cases ha : (c :: rest).any isWhitespace = true
    · simp [Calm,bailIf,ha]
    · simp only [ha,map_cons,isEmpty_cons,bailIf,Bool.false_eq_true,or_self,
        if_false,ok_bind,false_or,head?_cons,Option.mem_some_iff,forall_eq']
      rw [← toUpper_ascii]
      split
      · next heq =>
        have hc := (cons.inj heq).1
        exact ⟨fun _ => by rw [hc]; decide,fun _ => calm_dataBlock⟩
      · next heq =>
        rw [(cons.inj heq).1]
        exact calm_area
      · next heq => cases heq

/-- The parser cuts the address after its first byte: it does all it should exactly where the
trimmed text has white space, is empty or starts with an ASCII character. -/
theorem s7_address_parses_cleanly_iff (value : String) : ParsesCleanly value ↔
    (trim value).toList.any isWhitespace = true ∨ ∀ c ∈ (trim value).toList.head?, c.toNat < 0x80 :=
  ⟨fun h => calm_parse.mp h.calm,fun h => ⟨calm_parse.mpr h,
    fun _ hok => parseSiemensS7PointAddress_within hok,fun _ hok =>
      parseSiemensS7PointAddress_canonical (parseSiemensS7PointAddress_within hok)⟩⟩

theorem accented_address_panics : parseSiemensS7PointAddress "Ü10" = .error .panic := by
  decide +kernel

example : parseSiemensS7PointAddress " db7.dbx+3.5 " = .ok ⟨.dataBlock, 7, 3, some 5, .bit⟩ := by
  decide +kernel

end VelaEdge.Core
