import VelaEdge.Modbus.Batch

/-! Reading in windows gives every point the bytes a read of its own would give. -/
namespace VelaEdge.Modbus

open Base List OrderedMap

/-! What the planner returns. -/

private theorem checkPoint_ok (h : checkPoint point = .ok ()) :
    point.quantity ≠ 0 ∧ point.stop ≤ 65536 := by
  unfold checkPoint at h
  obtain ⟨_,hq,hs⟩ := bind_eq_ok.mp h
  exact ⟨bailIf_eq_ok.mp hq,Nat.not_lt.mp (bailIf_eq_ok.mp hs)⟩

structure Planned (points : List ModbusReadPoint) (windows : List ModbusReadWindow) : Prop where
  accepted : ∀ point ∈ points, point.quantity ≠ 0 ∧ point.stop ≤ 65536
  complete : (windows.flatMap ModbusReadWindow.points).Perm points
  fits : ∀ window ∈ windows, Fits window

theorem plan_spec {points : List ModbusReadPoint} (h : planReadWindows points = .ok wins) :
    Planned points wins := by
  unfold planReadWindows at h
  obtain ⟨_,hc,h⟩ := bind_eq_ok.mp h
  have ha := fun point hp => checkPoint_ok (forM_eq_ok.mp hc point hp)
  cases h
  have hg := groups_grouped points
  have hpe := groups_perm points []
  generalize points.foldl (fun groups point => addToGroup point groups) [] = groups at *
  rw [flatten_nil,append_nil] at hpe
  have ho : (readOrder groups).Perm points := (readOrder_perm groups).trans hpe
  rw [← foldl_flatMap]
  refine ⟨ha,?_,?_⟩
  · refine ((reverse_perm _).flatMap_right _).trans ?_
    refine (addPoints_points (readOrder groups) []).trans ?_
    rw [flatMap_nil,append_nil]
    exact ho
  · intro win hw
    refine addPoints_fits (readOrder groups) [] (fun _ hn => absurd hn not_mem_nil)
      (readOrder_ordered hg) (fun _ hn => ?_) (fun point hp => ?_) win
      (mem_reverse.mp hw)
    · cases hn
    · exact (ha point (ho.mem_iff.mp hp)).2

/-! Cutting a point out of a window. -/

theorem extractBits_eq (body : List UInt8) (start : Nat) (bits : List Nat) (bytes : List UInt8)
    (h : ∀ bit ∈ bits, (start + bit) / 8 < body.length) :
    extractBits body start bits bytes = .ok (bits.foldl (fun bytes bit =>
      if BitPacking.bitAt body (start + bit) then BitPacking.setBit bytes bit else bytes)
      bytes) := by
  induction bits generalizing bytes with
  | nil => rfl
  | cons bit bits ih =>
    obtain ⟨hbi,hb⟩ := forall_mem_cons.mp h
    rw [extractBits,if_neg (Nat.not_le.mpr hbi),ih _ hb,foldl_cons]

private theorem drop_flatMap_pairs (bytes : α → List UInt8) (h : ∀ item, (bytes item).length = 2)
    (items : List α) (count : Nat) :
    (items.flatMap bytes).drop (count * 2) = (items.drop count).flatMap bytes := by
  induction count generalizing items with
  | zero => simp
  | succ count ih =>
    cases items with
    | nil => simp
    | cons item items =>
      rw [drop_succ_cons,← ih items,flatMap_cons,drop_append,h item,
        drop_eq_nil_of_le (by rw [h item]; omega),nil_append]
      congr 1
      omega

private theorem take_flatMap_pairs (bytes : α → List UInt8) (h : ∀ item, (bytes item).length = 2)
    (items : List α) (count : Nat) :
    (items.flatMap bytes).take (count * 2) = (items.take count).flatMap bytes := by
  induction count generalizing items with
  | zero => simp
  | succ count ih =>
    cases items with
    | nil => simp
    | cons item items =>
      rw [take_succ_cons,flatMap_cons,flatMap_cons,← ih items,
        take_append,h item,take_of_length_le (by rw [h item]; omega)]
      congr 2
      omega

theorem saturatingAdd_shift {start offset : UInt16} (h : start.toNat ≤ offset.toNat) (index : Nat) :
    saturatingAdd start (offset.toNat - start.toNat + index) = saturatingAdd offset index := by
  unfold saturatingAdd
  congr 2
  omega

def ModbusReadPoint.address (point : ModbusReadPoint) : ModbusAddress :=
  ⟨point.stationId,point.function,point.offset⟩

def ModbusReadWindow.address (window : ModbusReadWindow) : ModbusAddress :=
  ⟨window.stationId,window.function,window.offset⟩

/-- A point as the adapters build it: a read function, with its own kind of quantity. -/
def ModbusReadPoint.Readable (point : ModbusReadPoint) : Prop :=
  isReadFunction point.function = true ∧ point.isBit = isBitFunction point.function

def readPoints (planned : List (ModbusAddress × UInt16)) : List ModbusReadPoint :=
  planned.mapIdx fun index item =>
    ⟨index,item.1.unitId,item.1.function,item.1.offset,item.2,isBitFunction item.1.function⟩

theorem readPoints_readable
    (h : ∀ item ∈ planned, ∃ kind value unitId, parseAddress kind value unitId = .ok item.1) :
    ∀ point ∈ readPoints planned, point.Readable := by
  intro point hpo
  obtain ⟨index,hi,rfl⟩ := mem_mapIdx.mp hpo
  obtain ⟨kind,value,unitId,hp⟩ := h _ (getElem_mem hi)
  exact ⟨parseAddress_read hp,rfl⟩

section Reads

variable (sine : DynamicFloatPoint → Nat → UInt32) (options : ModbusTcpSimulatorOptions) (now : Nat)

section

variable {win : ModbusReadWindow} (h : Fits win) (hm : point ∈ win.points)

include win h hm

theorem extract_coils (hb : win.isBit = true) : extractPointPayload win point
        (coilBytes options now win.function win.offset win.quantity.toNat) =
      .ok (coilBytes options now point.function point.offset point.quantity.toNat) := by
  obtain ⟨hk,hs,hst⟩ := h.members point hm
  have hf : point.function = win.function := congrArg ReadKey.function hk
  unfold ModbusReadPoint.stop ModbusReadWindow.stop at hst
  unfold extractPointPayload
  rw [if_neg (Nat.not_lt.mpr hs)]
  dsimp only
  rw [if_neg (by omega),if_pos hb,extractBits_eq]
  · refine congrArg Except.ok (BitPacking.pack_congr fun index hi => ?_)
    unfold coilBytes
    rw [BitPacking.bitAt_pack _ (by omega),saturatingAdd_shift hs,hf]
  · intro bit hb
    have hi := mem_range.mp hb
    unfold coilBytes
    rw [BitPacking.length_pack,BitPacking.byteCount]
    omega

private theorem extract_registers (hb : win.isBit = false) : extractPointPayload win point
        (registerBytes sine options now win.function win.offset win.quantity.toNat) =
      .ok (registerBytes sine options now point.function point.offset point.quantity.toNat) := by
  obtain ⟨hk,hs,hst⟩ := h.members point hm
  have hf : point.function = win.function := congrArg ReadKey.function hk
  unfold ModbusReadPoint.stop ModbusReadWindow.stop at hst
  have hp : ∀ offset index, (toBeBytes (registerValue sine options now win.function
      (saturatingAdd offset index))).length = 2 := fun _ _ => rfl
  unfold extractPointPayload
  rw [if_neg (Nat.not_lt.mpr hs)]
  dsimp only
  rw [if_neg (by omega),if_neg (by simp [hb]),if_neg]
  · refine congrArg Except.ok ?_
    unfold registerBytes
    rw [drop_flatMap_pairs _ (hp win.offset),take_flatMap_pairs _ (hp win.offset),
      range_eq_range',drop_range',take_range'_of_length_ge (by omega),
      List.range'_eq_map_range,flatMap_map,hf]
    simp [saturatingAdd_shift hs]
  · have hl : (registerBytes sine options now win.function win.offset
        win.quantity.toNat).length = win.quantity.toNat * 2 := by
      simp [registerBytes,toBeBytes,length_flatMap]
    rw [hl]
    omega

theorem extract_payload (hr : point.Readable) : extractPointPayload win point
        (payloadBytes sine options now win.function win.offset win.quantity.toNat) =
      .ok (payloadBytes sine options now point.function point.offset point.quantity.toNat) := by
  obtain ⟨hke,-,-⟩ := h.members point hm
  have hf : point.function = win.function := congrArg ReadKey.function hke
  have hib : point.isBit = win.isBit := congrArg ReadKey.isBit hke
  have hb : win.isBit = isBitFunction win.function := by
    rw [← hib,← hf]
    exact hr.2
  have hp : isBitFunction point.function = isBitFunction win.function := by rw [hf]
  unfold payloadBytes
  rw [hp]
  cases hk : isBitFunction win.function with
  | true =>
    simp only [if_true]
    exact extract_coils options now h hm (hb.trans hk)
  | false =>
    simp only [Bool.false_eq_true,if_false]
    exact extract_registers sine options now h hm (hb.trans hk)

end

@[simp] theorem quantityLimit_eq (function : UInt8) :
    quantityLimit (isBitFunction function) = readLimit function := rfl

variable {win : ModbusReadWindow}

private theorem refuses_window (h : Fits win) (hm : point ∈ win.points) (hr : point.Readable)
    (hq : point.quantity ≠ 0) :
    refuses options win.address win.quantity = refuses options point.address point.quantity := by
  obtain ⟨hk,hsta,hst⟩ := h.members point hm
  have hu : point.stationId = win.stationId := congrArg ReadKey.stationId hk
  have hf : point.function = win.function := congrArg ReadKey.function hk
  have hib : point.isBit = win.isBit := congrArg ReadKey.isBit hk
  have hp : point.quantity.toNat ≠ 0 := by
    intro hz
    exact hq (UInt16.toNat_inj.mp hz)
  unfold ModbusReadPoint.stop ModbusReadWindow.stop at hst
  have hl : readLimit point.function < win.quantity.toNat ↔
      readLimit point.function < point.quantity.toNat := by
    rcases h.limit with hw | ⟨single,hs⟩
    · rw [← hib,hr.2,quantityLimit_eq] at hw
      omega
    · rw [hs] at hm ⊢
      rw [mem_singleton.mp hm]
      rfl
  have he : win.quantity.toNat = 0 ↔ point.quantity.toNat = 0 := by omega
  unfold refuses ModbusReadWindow.address ModbusReadPoint.address
  rw [← hu,← hf]
  simp [hl,he]

theorem read_window_point (h : Fits win) (hm : point ∈ win.points) (hr : point.Readable)
    (hq : point.quantity ≠ 0) (windowId pid : UInt16) :
    (do
      let body ← readDevice sine options now windowId win.address win.quantity
      extractPointPayload win point body) =
      readDevice sine options now pid point.address point.quantity := by
  obtain ⟨hk,-,-⟩ := h.members point hm
  have hf : point.function = win.function := congrArg ReadKey.function hk
  have hw : isReadFunction win.address.function = true := by
    change isReadFunction win.function = true
    rw [← hf]
    exact hr.1
  rw [readDevice_eq sine options now windowId win.address win.quantity hw,
    readDevice_eq sine options now pid point.address point.quantity hr.1,
    refuses_window options h hm hr hq]
  split
  · rfl
  · exact extract_payload sine options now h hm hr

/-- The adapter's loop over the windows: one transaction each, then every point of the window
under its mapping index. -/
def readWindows (transactionId : UInt16) :
    List ModbusReadWindow → Except String (List (Nat × List UInt8))
  | [] => .ok []
  | window :: windows => do
      let payload ← readDevice sine options now (transactionId + 1) window.address window.quantity
      let samples ← window.points.mapM fun point => do
        let bytes ← extractPointPayload window point payload
        pure (point.mappingIndex,bytes)
      let others ← readWindows (transactionId + 1) windows
      pure (samples ++ others)

def readPoint (transactionId : UInt16) (point : ModbusReadPoint) :
    Except String (Nat × List UInt8) := do
  let bytes ← readDevice sine options now transactionId point.address point.quantity
  pure (point.mappingIndex,bytes)

private theorem mapM_samples {win : ModbusReadWindow} (pid : UInt16) (points : List ModbusReadPoint)
    (h : ∀ point ∈ points, extractPointPayload win point body =
      readDevice sine options now pid point.address point.quantity) :
    (points.mapM fun point => do
      let bytes ← extractPointPayload win point body
      pure (point.mappingIndex,bytes)) = points.mapM (readPoint sine options now pid) := by
  induction points with
  | nil => rfl
  | cons point points ih =>
    obtain ⟨hpo,hp⟩ := forall_mem_cons.mp h
    rw [mapM_cons,mapM_cons,ih hp,hpo]
    rfl

theorem readWindows_eq (wins : List ModbusReadWindow) (tid pid : UInt16)
    (hfs : ∀ win ∈ wins, Fits win)
    (hr : ∀ win ∈ wins, ∀ point ∈ win.points, point.Readable ∧ point.quantity ≠ 0) :
    readWindows sine options now tid wins =
      (wins.flatMap ModbusReadWindow.points).mapM (readPoint sine options now pid) := by
  induction wins generalizing tid with
  | nil => rfl
  | cons win wins ih =>
    obtain ⟨hw,hwi⟩ := forall_mem_cons.mp hfs
    obtain ⟨hps,ho⟩ := forall_mem_cons.mp hr
    have hpo := fun point hm => read_window_point sine options now hw hm
      (hps point hm).1 (hps point hm).2 (tid + 1) pid
    rw [readWindows,ih (tid + 1) hwi ho,flatMap_cons,mapM_append]
    cases hp : readDevice sine options now (tid + 1) win.address win.quantity with
    | error why =>
      -- the first point of the window fails with the window's own error
      obtain ⟨first,rest,hfi⟩ := exists_cons_of_ne_nil hw.nonempty
      have hf := hpo first (hfi ▸ mem_cons_self)
      rw [hp,error_bind] at hf
      simp [hfi,readPoint,← hf]
    | ok body =>
      simp only [hp,ok_bind] at hpo
      rw [ok_bind,mapM_samples sine options now pid win.points hpo]

/-- For accepted points each window is a set of whole points within the limits of one read, and
whatever the device holds, the bytes of every point are those of a read of that point alone. -/
theorem window_reads_are_point_reads (points : List ModbusReadPoint)
    (windows : List ModbusReadWindow) (hread : ∀ point ∈ points, point.Readable)
    (hplan : planReadWindows points = .ok windows) :
    (windows.flatMap ModbusReadWindow.points).Perm points ∧
    (∀ window ∈ windows, window.stop ≤ 65536 ∧
      ((∀ point ∈ window.points, point.quantity.toNat ≤ quantityLimit point.isBit) →
        window.quantity.toNat ≤ quantityLimit window.isBit)) ∧
    ∀ window ∈ windows, ∀ point ∈ window.points, ∀ windowId pointId : UInt16, (do
        let payload ← readDevice sine options now windowId window.address window.quantity
        extractPointPayload window point payload) =
        readDevice sine options now pointId point.address point.quantity := by
  obtain ⟨ha,hc,hf⟩ := plan_spec hplan
  have hm : ∀ window ∈ windows, ∀ point ∈ window.points, point ∈ points := by
    intro window hw point hp
    exact hc.mem_iff.mp (mem_flatMap.mpr ⟨window,hw,hp⟩)
  refine ⟨hc,?_,?_⟩
  · intro window hw
    refine ⟨(hf window hw).range,fun hpo => ?_⟩
    rcases (hf window hw).limit with hwi | ⟨single,rfl⟩
    · exact hwi
    · exact hpo single (mem_singleton.mpr rfl)
  · intro window hw point hp windowId pointId
    have hin := hm window hw point hp
    exact read_window_point sine options now (hf window hw) hp (hread point hin)
      (ha point hin).1 windowId pointId

theorem collection_eq (planned : List (ModbusAddress × UInt16)) (wins : List ModbusReadWindow)
    (hp : ∀ item ∈ planned, ∃ kind value unitId, parseAddress kind value unitId = .ok item.1)
    (hpl : planReadWindows (readPoints planned) = .ok wins) (tid pid : UInt16) :
    readWindows sine options now tid wins =
      (wins.flatMap ModbusReadWindow.points).mapM (readPoint sine options now pid) := by
  obtain ⟨ha,hc,hf⟩ := plan_spec hpl
  refine readWindows_eq sine options now wins tid pid hf ?_
  intro win hw point hpo
  have hin := hc.mem_iff.mp (mem_flatMap.mpr ⟨win,hw,hpo⟩)
  exact ⟨readPoints_readable hp point hin,(ha point hin).1⟩

end Reads

/-! Two runs of coils that meet inside a byte, and a register pair. -/

def mixedPoints : List ModbusReadPoint := [⟨0,1,1,3,2,true⟩,⟨1,1,3,10,2,false⟩,⟨2,1,1,5,9,true⟩]

def mixedWindows : List ModbusReadWindow := [⟨1,1,3,11,true,[⟨0,1,1,3,2,true⟩,⟨2,1,1,5,9,true⟩]⟩,
    ⟨1,3,10,2,false,[⟨1,1,3,10,2,false⟩]⟩]

def mixedDevice : ModbusTcpSimulatorOptions where
  unitId := 1
  holdingRegisters := empty.put 10 0x1234
  inputRegisters := empty
  coils := (empty.put 4 true).put 12 true
  discreteInputs := empty
  dynamicHoldingFloats := empty
  togglingCoils := empty

theorem mixedPoints_read : planReadWindows mixedPoints = .ok mixedWindows ∧
    ∀ window ∈ mixedWindows, ∀ point ∈ window.points, (do
        let payload ← readDevice (fun _ _ => 0) mixedDevice 0 7 window.address window.quantity
        extractPointPayload window point payload) =
        readDevice (fun _ _ => 0) mixedDevice 0 8 point.address point.quantity := by
  have hpl : planReadWindows mixedPoints = .ok mixedWindows := rfl
  have hr : ∀ point ∈ mixedPoints, point.Readable := by
    intro point hp
    simp only [mixedPoints,mem_cons,not_mem_nil,or_false] at hp
    rcases hp with rfl | rfl | rfl
    · exact ⟨by decide,by decide⟩
    · exact ⟨by decide,by decide⟩
    · exact ⟨by decide,by decide⟩
  refine ⟨hpl,fun window hw point hp => ?_⟩
  exact (window_reads_are_point_reads (fun _ _ => 0) mixedDevice 0 mixedPoints mixedWindows hr
    hpl).2.2 window hw point hp 7 8

theorem mixedPoints_collected : readWindows (fun _ _ => 0) mixedDevice 0 0 mixedWindows =
    (mixedWindows.flatMap ModbusReadWindow.points).mapM
      (readPoint (fun _ _ => 0) mixedDevice 0 8) := by
  refine collection_eq _ _ _ [(⟨1,1,3⟩,2),(⟨1,3,10⟩,2),(⟨1,1,5⟩,9)] _ ?_ rfl _ _
  simp only [forall_mem_cons,not_mem_nil,false_implies,implies_true,and_true]
  exact ⟨⟨"coil","4",1,rfl⟩,⟨"holding_register","40011",1,rfl⟩,⟨"coil","6",1,rfl⟩⟩

end VelaEdge.Modbus
