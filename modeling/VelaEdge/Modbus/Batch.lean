import VelaEdge.Modbus.Tcp

/-! Planning of Modbus reads: points that lie next to each other share one read window, and each
point's bytes are cut out of the window's answer. -/
namespace VelaEdge.Modbus

open Base List

def maxBitReadQuantity : Nat := 2000
def maxRegisterReadQuantity : Nat := 125

structure ModbusReadPoint where
  mappingIndex : Nat
  stationId : UInt8
  function : UInt8
  offset : UInt16
  quantity : UInt16
  isBit : Bool
deriving DecidableEq

structure ModbusReadWindow where
  stationId : UInt8
  function : UInt8
  offset : UInt16
  quantity : UInt16
  isBit : Bool
  points : List ModbusReadPoint

structure ReadKey where
  stationId : UInt8
  function : UInt8
  isBit : Bool
deriving DecidableEq

variable (point : ModbusReadPoint)

def ModbusReadPoint.key : ReadKey :=
  ⟨point.stationId,point.function,point.isBit⟩

def ModbusReadPoint.stop : Nat :=
  point.offset.toNat + point.quantity.toNat

def ModbusReadWindow.key (window : ModbusReadWindow) : ReadKey :=
  ⟨window.stationId,window.function,window.isBit⟩

def ModbusReadWindow.stop (window : ModbusReadWindow) : Nat :=
  window.offset.toNat + window.quantity.toNat

def quantityLimit (isBit : Bool) : Nat :=
  if isBit then maxBitReadQuantity else maxRegisterReadQuantity

def checkPoint : Except String Unit := do
  bailIf (point.quantity = 0) "Modbus read point quantity must be greater than zero"
  bailIf (65535 + 1 < point.stop) "Modbus read point exceeds address range"

/-- The point joins the group of its key, or opens a new one at the end. -/
def addToGroup (point : ModbusReadPoint) : List (List ModbusReadPoint) → List (List ModbusReadPoint)
  | [] => [[point]]
  | group :: groups =>
    if (group.head?.map ModbusReadPoint.key) = some point.key then (group ++ [point]) :: groups
    else group :: addToGroup point groups

def before (left right : ModbusReadPoint) : Prop := left.offset.toNat < right.offset.toNat ∨
    (left.offset.toNat = right.offset.toNat ∧ left.mappingIndex ≤ right.mappingIndex)

instance : DecidableRel before :=
  fun left right => inferInstanceAs (Decidable (left.offset.toNat < right.offset.toNat ∨
    (left.offset.toNat = right.offset.toNat ∧ left.mappingIndex ≤ right.mappingIndex)))

def canMerge (window : ModbusReadWindow) (point : ModbusReadPoint) : Bool :=
  window.key = point.key ∧ point.offset.toNat ≤ window.stop ∧
    max window.stop point.stop - window.offset.toNat ≤ quantityLimit point.isBit

def merge (window : ModbusReadWindow) (point : ModbusReadPoint) : ModbusReadWindow := { window with
    quantity := UInt16.ofNat (max window.stop point.stop - window.offset.toNat)
    points := window.points ++ [point] }

def ModbusReadPoint.window : ModbusReadWindow where
  stationId := point.stationId
  function := point.function
  offset := point.offset
  quantity := point.quantity
  isBit := point.isBit
  points := [point]

/-- One point of the merge loop; the windows are held latest first. -/
def addPoint (windows : List ModbusReadWindow) (point : ModbusReadPoint) : List ModbusReadWindow :=
  match windows with
  | [] => [point.window]
  | window :: earlier =>
    if canMerge window point then merge window point :: earlier
    else point.window :: window :: earlier

def planReadWindows (points : List ModbusReadPoint) : Except String (List ModbusReadWindow) := do
  points.forM checkPoint
  let groups := points.foldl (fun groups point => addToGroup point groups) []
  let windows := groups.foldl (fun windows group =>
    (group.insertionSort before).foldl addPoint windows) []
  pure windows.reverse

def extractBits (payload : List UInt8) (start : Nat) :
    List Nat → List UInt8 → Except String (List UInt8)
  | [], bytes => .ok bytes
  | bit :: bits, bytes =>
    if payload.length ≤ (start + bit) / 8 then
      .error "Modbus bit response is shorter than its read window"
    else extractBits payload start bits
      (if BitPacking.bitAt payload (start + bit) then BitPacking.setBit bytes bit else bytes)

def extractPointPayload (window : ModbusReadWindow) (point : ModbusReadPoint)
    (payload : List UInt8) : Except String (List UInt8) :=
  if point.offset.toNat < window.offset.toNat then
    .error "Modbus point starts before its read window"
  else
    let relativeOffset := point.offset.toNat - window.offset.toNat
    if window.quantity.toNat < relativeOffset + point.quantity.toNat then
      .error "Modbus point exceeds its read window"
    else if window.isBit then
      extractBits payload relativeOffset (range point.quantity.toNat)
        (replicate (BitPacking.byteCount point.quantity.toNat) 0)
    else if payload.length < (relativeOffset + point.quantity.toNat) * 2 then
      .error "Modbus register response is shorter than its read window"
    else .ok ((payload.drop (relativeOffset * 2)).take (point.quantity.toNat * 2))

/-! Grouping and merging lose no point and repeat none. -/

theorem addToGroup_perm (groups : List (List ModbusReadPoint)) :
    (addToGroup point groups).flatten.Perm (point :: groups.flatten) := by
  induction groups with
  | nil => exact .refl _
  | cons group groups ih =>
    unfold addToGroup
    split
    · rw [flatten_cons,flatten_cons,append_assoc]
      exact perm_middle
    · rw [flatten_cons,flatten_cons]
      exact (ih.append_left group).trans perm_middle

variable (points : List ModbusReadPoint)

theorem groups_perm (groups : List (List ModbusReadPoint)) :
    (points.foldl (fun groups point => addToGroup point groups) groups).flatten.Perm
      (points ++ groups.flatten) := by
  induction points generalizing groups with
  | nil => exact .refl _
  | cons point points ih =>
    refine (ih (addToGroup point groups)).trans ?_
    exact ((addToGroup_perm point groups).append_left points).trans perm_middle

private theorem addPoint_points (wins : List ModbusReadWindow) (point : ModbusReadPoint) :
    ((addPoint wins point).flatMap ModbusReadWindow.points).Perm
      (point :: wins.flatMap ModbusReadWindow.points) := by
  cases wins with
  | nil => exact .refl _
  | cons win earlier =>
    simp only [addPoint]
    split
    · simp only [flatMap_cons,merge,append_assoc]
      exact perm_middle
    · exact .refl _

theorem addPoints_points (wins : List ModbusReadWindow) :
    ((points.foldl addPoint wins).flatMap ModbusReadWindow.points).Perm
      (points ++ wins.flatMap ModbusReadWindow.points) := by
  induction points generalizing wins with
  | nil => exact .refl _
  | cons point points ih =>
    refine (ih (addPoint wins point)).trans ?_
    exact ((addPoint_points wins point).append_left points).trans perm_middle

inductive Grouped : List (List ModbusReadPoint) → Prop where
  | nil : Grouped []
  | cons {group : List ModbusReadPoint} {groups : List (List ModbusReadPoint)} (key : ReadKey)
      (hne : group ≠ []) (hsame : ∀ point ∈ group, point.key = key)
      (hapart : ∀ point ∈ groups.flatten, point.key ≠ key) (h : Grouped groups) :
      Grouped (group :: groups)

private theorem addToGroup_grouped (h : Grouped groups) : Grouped (addToGroup point groups) := by
  induction h with
  | nil =>
    refine .cons point.key (cons_ne_nil _ _) (fun other ho => ?_) (fun _ ho => ?_) .nil
    · rw [mem_singleton.mp ho]
    · cases ho
  | @cons group groups key hne hs ha h ih =>
    have hh : group.head?.map ModbusReadPoint.key = some key := by
      cases group with
      | nil => exact absurd rfl hne
      | cons first others => rw [head?_cons,Option.map_some,hs first mem_cons_self]
    unfold addToGroup
    rw [hh]
    split
    · next hk =>
      refine .cons key (append_ne_nil_of_left_ne_nil hne _) (fun other ho => ?_) ha h
      rcases mem_append.mp ho with ho | ho
      · exact hs other ho
      · rw [mem_singleton.mp ho]
        exact (Option.some.inj hk).symm
    · next hk =>
      refine .cons key hne hs (fun other ho => ?_) ih
      rcases mem_cons.mp ((addToGroup_perm point groups).mem_iff.mp ho) with
        rfl | ho
      · exact fun hs => hk (congrArg some hs.symm)
      · exact ha other ho

theorem groups_grouped : Grouped (points.foldl (fun groups point => addToGroup point groups) []) :=
  foldlRecOn (motive := Grouped) points _ .nil fun _ h point _ => addToGroup_grouped point h

def Ordered (points : List ModbusReadPoint) : Prop :=
  points.Pairwise fun left right => left.key = right.key → left.offset.toNat ≤ right.offset.toNat

def readOrder (groups : List (List ModbusReadPoint)) : List ModbusReadPoint :=
  groups.flatMap (insertionSort before)

instance : Std.Total before where
  total left right := by
    unfold before
    omega

instance : IsTrans ModbusReadPoint before where
  trans left middle right := by
    unfold before
    omega

theorem sorted_ordered (group : List ModbusReadPoint) : Ordered (group.insertionSort before) := by
  refine (pairwise_insertionSort before group).imp fun hb _ => ?_
  unfold before at hb
  omega

theorem readOrder_ordered (h : Grouped groups) : Ordered (readOrder groups) := by
  induction h with
  | nil => exact Pairwise.nil
  | @cons group groups key hne hs ha h ih =>
    refine pairwise_append.mpr ⟨sorted_ordered group,ih,?_⟩
    intro left hl right hr hk
    have hg := hs left ((mem_insertionSort before).mp hl)
    obtain ⟨other,ho,hr⟩ := mem_flatMap.mp hr
    have hf : right ∈ groups.flatten := mem_flatten.mpr ⟨other,ho,(mem_insertionSort before).mp hr⟩
    exact absurd (hk.symm.trans hg) (ha right hf)

theorem readOrder_perm (groups : List (List ModbusReadPoint)) :
    (readOrder groups).Perm groups.flatten := by
  induction groups with
  | nil => exact .refl _
  | cons group groups ih => exact (perm_insertionSort before group).append ih

/-! The windows of the merge loop. -/

/-- A window covers its points, stays inside the address space, and is longer than a read may be
only for a single point that is. -/
structure Fits (window : ModbusReadWindow) : Prop where
  nonempty : window.points ≠ []
  members : ∀ point ∈ window.points, point.key = window.key ∧
    window.offset.toNat ≤ point.offset.toNat ∧ point.stop ≤ window.stop
  range : window.stop ≤ 65536
  limit : window.quantity.toNat ≤ quantityLimit window.isBit ∨
    ∃ point : ModbusReadPoint, window = point.window

variable {point : ModbusReadPoint}

theorem window_fits (h : point.stop ≤ 65536) : Fits point.window where
  nonempty := cons_ne_nil _ _
  members := by
    intro other ho
    rw [mem_singleton.mp ho]
    exact ⟨rfl,Nat.le_refl _,Nat.le_refl _⟩
  range := h
  limit := .inr ⟨point,rfl⟩

theorem quantityLimit_lt (isBit : Bool) : quantityLimit isBit < 65536 := by cases isBit <;> decide

private theorem merge_fits {win : ModbusReadWindow} (h : Fits win) (hp : point.stop ≤ 65536)
    (hm : canMerge win point = true) (hof : win.offset.toNat ≤ point.offset.toNat) :
    Fits (merge win point) := by
  simp only [canMerge,decide_eq_true_eq] at hm
  obtain ⟨hk,-,hl⟩ := hm
  have hr := quantityLimit_lt point.isBit
  have hq : (merge win point).quantity.toNat = max win.stop point.stop - win.offset.toNat := by
    unfold merge
    simp
    omega
  have hst : win.offset.toNat ≤ win.stop := Nat.le_add_right _ _
  have hs : (merge win point).stop = max win.stop point.stop := by
    unfold ModbusReadWindow.stop at hq ⊢
    rw [hq]
    change win.offset.toNat + _ = _
    unfold ModbusReadWindow.stop at hst
    omega
  have hb : win.isBit = point.isBit := congrArg ReadKey.isBit hk
  refine ⟨append_ne_nil_of_left_ne_nil h.nonempty _,?_,?_,.inl ?_⟩
  · intro other ho
    rw [hs]
    rcases mem_append.mp ho with ho | ho
    · obtain ⟨hsa,hf,hla⟩ := h.members other ho
      exact ⟨hsa,hf,hla.trans (Nat.le_max_left _ _)⟩
    · rw [mem_singleton.mp ho]
      exact ⟨hk.symm,hof,Nat.le_max_right _ _⟩
  · rw [hs]
    exact Nat.max_le.mpr ⟨h.range,hp⟩
  · rw [hq]
    exact hb ▸ hl

/-- The latest window starts at or before every later point of its key. -/
def Behind (windows : List ModbusReadWindow) (points : List ModbusReadPoint) : Prop :=
  ∀ window, windows.head? = some window → ∀ point ∈ points, window.key = point.key →
    window.offset.toNat ≤ point.offset.toNat

private theorem addPoint_fits {points : List ModbusReadPoint} (h : ∀ win ∈ wins, Fits win)
    (hb : Behind wins (point :: points)) (hp : point.stop ≤ 65536)
    (hl : ∀ other ∈ points, point.key = other.key → point.offset.toNat ≤ other.offset.toNat) :
    (∀ win ∈ addPoint wins point, Fits win) ∧ Behind (addPoint wins point) points := by
  cases wins with
  | nil =>
    refine ⟨fun win hw => ?_,fun win hw other ho hk => ?_⟩
    · rw [mem_singleton.mp hw]
      exact window_fits hp
    · cases hw
      exact hl other ho hk
  | cons latest earlier =>
    obtain ⟨hla,he⟩ := forall_mem_cons.mp h
    simp only [addPoint]
    split
    · next hm =>
      have hk : latest.key = point.key := by
        simp only [canMerge,decide_eq_true_eq] at hm
        exact hm.1
      have hof := hb latest rfl point mem_cons_self hk
      refine ⟨forall_mem_cons.mpr ⟨merge_fits hla hp hm hof,he⟩,?_⟩
      intro win hw other ho hs
      cases hw
      exact hb latest rfl other (mem_cons_of_mem _ ho) hs
    · refine ⟨forall_mem_cons.mpr ⟨window_fits hp,h⟩,?_⟩
      intro win hw other ho hk
      cases hw
      exact hl other ho hk

theorem addPoints_fits (wins : List ModbusReadWindow) (h : ∀ win ∈ wins, Fits win)
    (ho : Ordered points) (hb : Behind wins points) (hp : ∀ point ∈ points, point.stop ≤ 65536) :
    ∀ win ∈ points.foldl addPoint wins, Fits win := by
  induction points generalizing wins with
  | nil => exact h
  | cons point points ih =>
    obtain ⟨hl,ho⟩ := pairwise_cons.mp ho
    obtain ⟨hpo,hp⟩ := forall_mem_cons.mp hp
    obtain ⟨hf,hb⟩ := addPoint_fits h hb hpo hl
    exact ih (addPoint wins point) hf ho hb hp

end VelaEdge.Modbus
