import VelaEdge.Serial.Checksum

/-! DL/T 645 frames: what a response has to be to be taken for a meter's answer about one data
identifier. -/
namespace VelaEdge.Serial.Dlt645

open Base List Text

def frameStart : UInt8 := 0x68
def frameEnd : UInt8 := 0x16
def readDataResponse : UInt8 := 0x91
def dataOffset : UInt8 := 0x33

def digit (c : Char) : Nat := c.toNat - '0'.toNat

/-- Two decimal digits to a byte, the last pair first. -/
def packPairs : List Char → Bytes
  | high :: low :: rest => packPairs rest ++ [.ofNat (16 * digit high + digit low)]
  | _ => []

def encodeMeterAddress (value : String) : Except String Bytes := do
  let digits := (trim value).toList
  bailIf (digits.length ≠ 12 ∨ digits.all Char.isDigit = false)
    "DL/T 645 meter address must contain 12 decimal digits"
  pure (packPairs digits)

def toLeBytes (value : UInt32) : Bytes :=
  [.ofNat value.toNat,.ofNat (value.toNat / 256),.ofNat (value.toNat / 65536),
    .ofNat (value.toNat / 16777216)]

def fromLeBytes (bytes : Bytes) : Nat :=
  (bytes.getD 0 0).toNat + 256 * (bytes.getD 1 0).toNat + 65536 * (bytes.getD 2 0).toNat +
    16777216 * (bytes.getD 3 0).toNat

def frameHead (meter : Bytes) (control length : UInt8) (data : Bytes) : Bytes :=
  [frameStart] ++ meter ++ [frameStart,control,length] ++ data

def hexPair (byte : UInt8) : String :=
  let nibble (value : Nat) : String := String.ofList ((Nat.toDigits 16 value).map Char.toUpper)
  nibble (byte.toNat / 16) ++ nibble (byte.toNat % 16)

def parseReadDataResponse (response expectedMeter : Bytes) (expectedDataIdentifier : UInt32) :
    Except String Bytes :=
  match response.dropWhile (· ≠ frameStart) with
  | [] => .error "DL/T 645 response has no frame start"
  | _ :: a :: b :: c :: d :: e :: f :: second :: control :: length :: rest => do
      bailIf (rest.length < 2) "DL/T 645 response is too short"
      bailIf (second ≠ frameStart) "DL/T 645 response has an invalid second frame start"
      bailIf (rest.length ≠ length.toNat + 2)
        "DL/T 645 response length does not match data length"
      bailIf (rest.getD (length.toNat + 1) 0 ≠ frameEnd)
        "DL/T 645 response has an invalid frame end"
      let data := rest.take length.toNat
      bailIf (sum8 (frameHead [a,b,c,d,e,f] control length data) ≠ rest.getD length.toNat 0)
        "DL/T 645 checksum mismatch"
      bailIf ([a,b,c,d,e,f] ≠ expectedMeter)
        "DL/T 645 response meter address does not match request"
      let decoded := data.map (· - dataOffset)
      bailIf (control &&& 0x40 ≠ 0) s!"DL/T 645 exception code 0x{hexPair (decoded.getD 0 0)}"
      bailIf (control ≠ readDataResponse)
        "DL/T 645 response control code does not match read-data request"
      bailIf (decoded.length < 4) "DL/T 645 read-data response is missing its data identifier"
      bailIf (fromLeBytes decoded ≠ expectedDataIdentifier.toNat)
        "DL/T 645 response data identifier does not match request"
      pure (decoded.drop 4)
  | _ => .error "DL/T 645 response is too short"

def dataFrame (meter : Bytes) (control length checksum : UInt8) (dataIdentifier : UInt32)
    (value : Bytes) : Bytes :=
  frameHead meter control length ((toLeBytes dataIdentifier ++ value).map (· + dataOffset)) ++
    [checksum,frameEnd]

/-! ## Meter addresses -/

theorem digit_range (h : c.isDigit = true) : 48 ≤ c.toNat ∧ c.toNat ≤ 57 ∧ digit c = c.toNat - 48 :=
  have hr : 48 ≤ c.toNat ∧ c.toNat ≤ 57 := Char.isDigit_iff_toNat.mp h
  ⟨hr.1,hr.2,rfl⟩

theorem packPairs_injective {digits other : List Char} (hd : digits.all Char.isDigit = true)
    (ho : other.all Char.isDigit = true) (he : digits.length % 2 = 0)
    (hl : digits.length = other.length) (h : packPairs digits = packPairs other) :
    digits = other := by
  fun_induction packPairs digits generalizing other with
  | case1 high low rest ih =>
    match other, hl with
    | high' :: low' :: rest', hl =>
      simp only [all_cons,Bool.and_eq_true] at hd ho
      simp only [packPairs] at h
      obtain ⟨hr,hb⟩ := append_inj' h rfl
      obtain ⟨_,_,h1⟩ := digit_range hd.1
      obtain ⟨_,_,h2⟩ := digit_range hd.2.1
      obtain ⟨_,_,h3⟩ := digit_range ho.1
      obtain ⟨_,_,h4⟩ := digit_range ho.2.1
      have hn := congrArg UInt8.toNat (singleton_inj.mp hb)
      simp only [UInt8.toNat_ofNat'] at hn
      have hh : high = high' := Char.toNat_inj.mp (by omega)
      have hw : low = low' := Char.toNat_inj.mp (by omega)
      have he' : rest.length % 2 = 0 := by
        simp only [length_cons] at he
        omega
      rw [hh,hw,ih hd.2.2 ho.2.2 he' (by simpa using hl) hr]
  | case2 digits hn =>
    match digits, other with
    | [], [] => rfl
    | [_], _ => simp at he
    | high :: low :: rest, _ => exact absurd rfl (hn high low rest)

@[simp] theorem packPairs_length (digits : List Char) :
    (packPairs digits).length = digits.length / 2 := by
  fun_induction packPairs digits with
  | case1 high low rest ih =>
    simp only [length_append,ih,length_cons,length_nil]
    omega
  | case2 digits hn =>
    match digits with
    | [] => rfl
    | [_] => simp
    | high :: low :: rest => exact absurd rfl (hn high low rest)

@[simp] theorem encodeMeterAddress_eq_ok : encodeMeterAddress value = .ok meter ↔
    ((trim value).toList.length = 12 ∧ (trim value).toList.all Char.isDigit = true) ∧
      packPairs (trim value).toList = meter := by
  simp only [encodeMeterAddress,bind_eq_ok,bailIf_eq_ok]
  constructor
  · rintro ⟨_,hn,h⟩
    exact ⟨by simpa using hn,Except.ok.inj h⟩
  · rintro ⟨hn,rfl⟩
    exact ⟨(),by simpa using hn,rfl⟩

private theorem encodeMeterAddress_injective (h : encodeMeterAddress value = .ok meter)
    (ho : encodeMeterAddress other = .ok meter) : trim value = trim other := by
  obtain ⟨⟨hl,hd⟩,he⟩ := encodeMeterAddress_eq_ok.mp h
  obtain ⟨⟨hlo,hdo⟩,heo⟩ := encodeMeterAddress_eq_ok.mp ho
  exact String.toList_inj.mp
    (packPairs_injective hd hdo (by rw [hl]) (hl.trans hlo.symm) (he.trans heo.symm))

/-! ## Responses -/

private theorem fromLeBytes_toLeBytes (dataIdentifier : UInt32) (value : Bytes) :
    fromLeBytes (toLeBytes dataIdentifier ++ value) = dataIdentifier.toNat := by
  have := dataIdentifier.toNat_lt
  simp [fromLeBytes,toLeBytes]
  omega

@[simp] theorem sub_add_offset (bytes : Bytes) :
    (bytes.map (· + dataOffset)).map (· - dataOffset) = bytes := by
  simp [Function.comp_def]

/-- A frame after any bytes that do not start one is accepted for a meter and a data identifier,
and gives a value, exactly when it names that meter and that identifier, carries that value, and
its control code, length and checksum are those of a response. -/
theorem response_accepted_iff {preamble : Bytes} (hp : frameStart ∉ preamble)
    (hm : encodeMeterAddress value = .ok meter) (ha : encodeMeterAddress other = .ok actual)
    (control length checksum : UInt8) (dataIdentifier expected : UInt32) (bytes result : Bytes) :
    parseReadDataResponse
        (preamble ++ dataFrame actual control length checksum dataIdentifier bytes) meter expected =
          .ok result ↔
      trim other = trim value ∧ dataIdentifier = expected ∧ bytes = result ∧
        control = readDataResponse ∧ length.toNat = 4 + bytes.length ∧
        checksum = sum8 (frameHead actual control length
          ((toLeBytes dataIdentifier ++ bytes).map (· + dataOffset))) := by
  obtain ⟨⟨hle,-⟩,hpa⟩ := encodeMeterAddress_eq_ok.mp ha
  have hsi : actual.length = 6 := by rw [← hpa,packPairs_length,hle]
  have hs : actual = meter ↔ trim other = trim value := by
    constructor
    · rintro rfl
      exact encodeMeterAddress_injective ha hm
    · intro ht
      obtain ⟨-,h⟩ := encodeMeterAddress_eq_ok.mp hm
      rw [← hpa,← h,ht]
  match actual, hsi with
  | [a,b,c,d,e,f], _ =>
  have hdr : (preamble ++ dataFrame [a,b,c,d,e,f] control length checksum dataIdentifier
      bytes).dropWhile (· ≠ frameStart) =
        dataFrame [a,b,c,d,e,f] control length checksum dataIdentifier bytes := by
    rw [dropWhile_append_of_pos (by grind)]
    simp [dataFrame,frameHead]
  have hid : fromLeBytes (toLeBytes dataIdentifier ++ bytes) = expected.toNat ↔
      dataIdentifier = expected := by
    rw [fromLeBytes_toLeBytes,UInt32.toNat_inj]
  have hc : control = readDataResponse → control &&& 0x40 = 0 := by
    rintro rfl
    decide
  unfold parseReadDataResponse
  rw [hdr,← hs]
  unfold dataFrame
  obtain ⟨data,hd⟩ : ∃ data, data = (toLeBytes dataIdentifier ++ bytes).map (· + dataOffset) :=
    ⟨_,rfl⟩
  have hdl : data.length = 4 + bytes.length := by simp [hd,toLeBytes]; omega
  have hsu : data.map (· - dataOffset) = toLeBytes dataIdentifier ++ bytes := by
    rw [hd,sub_add_offset]
  have hr : (toLeBytes dataIdentifier ++ bytes).drop 4 = bytes := rfl
  rw [← hd]
  simp only [frameHead,cons_append,nil_append]
  by_cases hl : length.toNat = 4 + bytes.length
  · have hf : 4 ≤ (toLeBytes dataIdentifier).length + bytes.length := by simp [toLeBytes]
    rw [hl,← hdl]
    by_cases he : dataIdentifier = expected
    · subst he
      simp [hsu,hr,hid,bind_eq_ok,hdl,hf,bailIf]
      grind
    · simp [hsu,hr,hid,bind_eq_ok,hdl,he,bailIf]
  · have hn : ¬ data.length = length.toNat := by omega
    simp [hl,hn,bind_eq_ok]

/-- The answer of a meter that holds the start marker as its address and in its data. -/
theorem marked_response_accepted :
    parseReadDataResponse ([0xFE,0xFE] ++ dataFrame [0x68,0x16,0x68,0x16,0x68,0x16] 0x91 6
      (sum8 (frameHead [0x68,0x16,0x68,0x16,0x68,0x16] 0x91 6
        ((toLeBytes 0x02010100 ++ [0x35,0xE3]).map (· + dataOffset)))) 0x02010100 [0x35,0xE3])
      [0x68,0x16,0x68,0x16,0x68,0x16] 0x02010100 = .ok [0x35,0xE3] :=
  (response_accepted_iff (by decide)
    (show encodeMeterAddress "166816681668" = .ok [0x68,0x16,0x68,0x16,0x68,0x16] by decide)
    (show encodeMeterAddress "166816681668" = .ok [0x68,0x16,0x68,0x16,0x68,0x16] by decide)
    0x91 6 _ 0x02010100 0x02010100 [0x35,0xE3] [0x35,0xE3]).mpr
    ⟨rfl,rfl,rfl,rfl,rfl,rfl⟩

end VelaEdge.Serial.Dlt645
