import VelaEdge.Cloud.ProductMaterialization
import VelaEdge.Cloud.ReleaseHistory

/-! Which accepted product versions give every point one mapping, and packages that the validator
lets through. -/
namespace VelaEdge.Cloud.ProductMaterialization

open Base Core VelaEdge.Runtime Runtime.AppliedConfig Text List
open ReleaseHistory
open Cloud.ConfigValidator

def SamePointSets (store later : CloudControlStore) (version : ProductVersion) : Prop :=
  ∀ pointSetId ∈ version.pointSetIds,
    later.pointSets.get pointSetId = store.pointSets.get pointSetId

/-- A mapping of a data config's point to the device and the connection of the config. -/
def serves (config : DataConfig) (point : DataConfigPoint) (mapping : TelemetryPointMapping) :
    Bool :=
  mapping.pointId = point.pointId ∧ (mapping.deviceId,mapping.protocolConnectionId) = route config

/-- A version that was checked against one store is turned into a package of an edge from a later
one, and every point has its one mapping. -/
structure MappedOnce (checks : PackageChecks) (store later : CloudControlStore)
    (version : ProductVersion) (package : EdgeConfigPackage) : Prop where
  distinct : (package.pointMappings.map fun mapping => (mapping.deviceId, mapping.pointId)).Nodup
  served : ∀ config ∈ version.dataConfigs, ∀ point ∈ config.points,
    (package.pointMappings.filter (serves config point)).length = 1
  valid : SamePointSets store later version → validatePackage checks package = []

def MaterializesOnce (checks : PackageChecks) (store later : CloudControlStore) (edgeId : String)
    (version : ProductVersion) : Prop :=
  ∃ package, materializeProductConfigPackage later edgeId version = .ok package ∧
    MappedOnce checks store later version package

/-! ## What the validator asks beyond the request -/

def protocolCheck (checks : PackageChecks) (point : PointSetPoint) :
    ProtocolType → Except String Unit
  | .opcUa =>
    match addressField point.address "kind" with
    | "node_id" => checks.validateOpcUaNodeId (addressField point.address "value")
    | "browse_path" => checks.parseOpcUaBrowsePath (addressField point.address "value")
    | _ => .error "OPC UA address kind must be `node_id` or `browse_path`"
  | .iec104 => do
      bailIf (addressField point.address "kind" ≠ "iec104_ioa")
        "IEC 104 address kind must be `iec104_ioa`"
      checks.parseIec104PointAddress (addressField point.address "value")
  | .bacnetIp =>
    checks.validateBacnetPoint point.address point.valueType point.access point.protocolOptions
  | .siemensS7 => checks.validateSiemensS7Point point.address point.valueType point.access
  | .omronFins => checks.validateOmronFinsPoint point.address point.valueType point.access
  | _ => .ok ()

structure PointSound (checks : PackageChecks) (version : ProductVersion) (point : PointSetPoint) :
    Prop where
  options : checks.validateModbusPointOptions point.address point.valueType point.access = .ok ()
  protocol : ∀ connection ∈ version.protocolConnections,
    connection.connectionId = (routeOf version point.pointId).2 →
      protocolCheck checks point connection.protocol = .ok ()
  device : (routeOf version point.pointId).1 ∈ version.devices.map DeviceInstance.deviceId

def ReadablePoint (points : List PointSetPoint) (pointId : String) : Prop :=
  ∃ point ∈ points, point.pointId = pointId ∧ point.access.isReadable = true

structure TaskSound (version : ProductVersion) (points : List PointSetPoint)
    (task : CollectionTask) : Prop where
  device_named : isBlank task.deviceId = false
  device : task.deviceId ∈ version.devices.map DeviceInstance.deviceId
  interval : task.intervalMs ≠ 0
  points_listed : task.pointIds ≠ []
  each : ∀ pointId ∈ task.pointIds,
    ReadablePoint points pointId ∧ (routeOf version pointId).1 = task.deviceId

structure ConfigSound (version : ProductVersion) (points : List PointSetPoint)
    (config : DataConfig) : Prop where
  device_named : isBlank config.deviceId = false
  device : config.deviceId ∈ version.devices.map DeviceInstance.deviceId
  period : config.collection.periodMs ≠ 0
  timeout : config.collection.timeoutMs ≠ 0 ∧ config.collection.timeoutMs ≤ maxDataConfigTimeoutMs
  retry : config.collection.retryCount ≤ maxDataConfigRetryCount
  points_listed : config.points ≠ []
  each : ∀ point ∈ config.points, isBlank point.pointId = false ∧
    isBlank point.jsonField = false ∧ ReadablePoint points point.pointId
  fields : (config.points.map DataConfigPoint.jsonField).Nodup

structure Sound (checks : PackageChecks) (version : ProductVersion) (points : List PointSetPoint) :
    Prop where
  mapped : ∀ point ∈ points, PointSound checks version point
  tasks : ∀ task ∈ version.collectionTasks, TaskSound version points task
  configs : ∀ config ∈ version.dataConfigs, ConfigSound version points config

/-! ## Looking up in the package -/

section Lookup

variable {store : CloudControlStore} {edge : String} {ver : ProductVersion}

@[simp] theorem hasDevice_iff : hasDevice (materialized store edge ver) deviceId = true ↔
      deviceId ∈ ver.devices.map DeviceInstance.deviceId := by
  simp [hasDevice,materialized,configPackage]

theorem not_hasDevice_iff : ¬ (!hasDevice (materialized store edge ver) deviceId) = true ↔
      deviceId ∈ ver.devices.map DeviceInstance.deviceId := by
  rw [Bool.not_eq_true',Bool.not_eq_false,hasDevice_iff]

@[simp] theorem hasConnection_iff : hasConnection (materialized store edge ver) conn = true ↔
      conn ∈ ver.connectionIds := by
  simp [hasConnection,materialized,configPackage,ProductVersion.connectionIds]

@[simp] theorem hasSink_iff :
    hasSink (materialized store edge ver) sinkId = true ↔ sinkId ∈ ver.sinkIds := by
  simp [hasSink,materialized,configPackage,ProductVersion.sinkIds]

@[simp] theorem hasAlgorithm_iff : hasAlgorithm (materialized store edge ver) algorithmId = true ↔
      algorithmId ∈ ver.specIds := by
  simp [hasAlgorithm,materialized,configPackage,ProductVersion.specIds]

theorem lastWith_eq_some {key : α → String} {name : String} {items : List α}
    (h : (items.map key).Nodup) :
    lastWith key name items = some item ↔ item ∈ items ∧ key item = name := by
  unfold lastWith
  constructor
  · intro hf
    have hk := find?_some hf
    exact ⟨mem_reverse.mp (mem_of_find?_eq_some hf),of_decide_eq_true hk⟩
  · rintro ⟨hm,hk⟩
    cases hf : items.reverse.find? (fun item => key item = name) with
    | none =>
      have hn := find?_eq_none.mp hf item (mem_reverse.mpr hm)
      exact absurd (decide_eq_true hk) hn
    | some found =>
      have hfo := mem_reverse.mp (mem_of_find?_eq_some hf)
      have hfk := find?_some hf
      have hs : key found = key item := (of_decide_eq_true hfk).trans hk.symm
      exact congrArg some (inj_on_of_nodup_map h hfo hm hs)

end Lookup

/-! ## Points -/

section Points

variable {checks : PackageChecks} {store later : CloudControlStore} {edge : String}
  {ver : ProductVersion}

@[simp] theorem placed_pointId (point : PointSetPoint) :
    (placed ver point).pointId = point.pointId := rfl

theorem placed_route (point : PointSetPoint) :
    ((placed ver point).deviceId,(placed ver point).protocolConnectionId) =
      routeOf ver point.pointId := by
  unfold placed pointMapping
  rw [OrderedMap.get_empty,Option.getD_none]

@[simp] theorem placed_deviceId (point : PointSetPoint) :
    (placed ver point).deviceId = (routeOf ver point.pointId).1 :=
  congrArg Prod.fst (placed_route point)

@[simp] theorem placed_protocolConnectionId (point : PointSetPoint) :
    (placed ver point).protocolConnectionId = (routeOf ver point.pointId).2 :=
  congrArg Prod.snd (placed_route point)

@[simp] theorem materialized_pointIds :
    (materializedMappings store ver).map TelemetryPointMapping.pointId =
      (storedPoints store ver).map PointSetPoint.pointId := by
  rw [materializedMappings,map_map]
  rfl

theorem distinct_iff : ((materialized store edge ver).pointMappings.map fun mapping =>
        (mapping.deviceId,mapping.pointId)).Nodup ↔
      ((storedPoints store ver).map PointSetPoint.pointId).Nodup := by
  have hp : ((materialized store edge ver).pointMappings.map fun mapping =>
      (mapping.deviceId,mapping.pointId)) =
      ((storedPoints store ver).map PointSetPoint.pointId).map fun pid =>
        ((routeOf ver pid).1,pid) := by
    simp only [materialized,configPackage,materializedMappings,map_map]
    apply map_congr_left
    intro point _
    simp
  rw [hp]
  apply nodup_map_iff
  intro first second hs
  exact congrArg Prod.snd hs

theorem findPoint_iff (h : ((storedPoints store ver).map PointSetPoint.pointId).Nodup) :
    findPoint (materialized store edge ver) pid = some mapping ↔
      ∃ point ∈ storedPoints store ver, point.pointId = pid ∧ placed ver point = mapping := by
  rw [← materialized_pointIds] at h
  refine (lastWith_eq_some h).trans ?_
  simp only [materializedMappings,mem_map]
  constructor
  · rintro ⟨⟨point,hp,rfl⟩,hid⟩
    exact ⟨point,hp,hid,rfl⟩
  · rintro ⟨point,hp,hid,rfl⟩
    exact ⟨⟨point,hp,rfl⟩,hid⟩

section

variable (hr : OneValued (routeEntries ver.dataConfigs))
include hr

theorem routeOf_eq (hc : cfg ∈ ver.dataConfigs) (hp : point ∈ cfg.points) :
    routeOf ver point.pointId = route cfg := by
  have he : (point.pointId,route cfg) ∈ routeEntries ver.dataConfigs :=
    mem_routeEntries.mpr ⟨cfg,hc,⟨point,hp,rfl⟩,rfl⟩
  obtain ⟨target,ht⟩ := exists_assignedRoute he
  rw [routeOf,ht,Option.getD_some]
  exact hr _ _ _ (mem_routeEntries_of_assigned ht) he

theorem served_iff (hc : cfg ∈ ver.dataConfigs) (hp : point ∈ cfg.points)
    (hnodup : ((storedPoints store ver).map PointSetPoint.pointId).Nodup) :
    ((materialized store edge ver).pointMappings.filter (serves cfg point)).length = 1 ↔
      point.pointId ∈ (storedPoints store ver).map PointSetPoint.pointId := by
  have hs : ∀ stored : PointSetPoint, serves cfg point (placed ver stored) =
      decide (stored.pointId = point.pointId) := by
    intro stored
    unfold serves
    rw [placed_route,placed_pointId]
    by_cases hid : stored.pointId = point.pointId
    · simp [hid,routeOf_eq hr hc hp]
    · simp [hid]
  have hco : ((materialized store edge ver).pointMappings.filter (serves cfg point)).length =
      ((storedPoints store ver).map PointSetPoint.pointId).count point.pointId := by
    simp only [materialized,configPackage,materializedMappings,filter_map,length_map,count,
      countP_eq_length_filter]
    congr 1
    apply filter_congr
    intro stored _
    rw [Function.comp_apply,hs]
    rfl
  rw [hco]
  exact ⟨fun h => count_pos_iff.mp (h ▸ Nat.one_pos),count_eq_one_of_mem hnodup⟩

end

@[simp] theorem protocolErrors_eq_nil (point : PointSetPoint) (protocol : ProtocolType) :
    protocolErrors checks (placed ver point) protocol = [] ↔
      protocolCheck checks point protocol = .ok () := by
  cases protocol with
  | opcUa => exact reportError_eq_nil
  | iec104 =>
    have ha : (placed ver point).address = point.address := rfl
    rw [protocolErrors,protocolCheck,ha]
    by_cases hk : addressField point.address "kind" = "iec104_ioa"
    · simp [hk,bailIf]
    · simp [hk,bailIf]
  | bacnetIp => exact reportError_eq_nil
  | siemensS7 => exact reportError_eq_nil
  | omronFins => exact reportError_eq_nil
  | _ => simp [protocolErrors,protocolCheck]

section

variable (ha : ContentAccepted checks store ver)

include ha

private theorem routeOf_connected
    (hcd : ver.dataConfigs ≠ [] ∨ ver.protocolConnections ≠ []) (pid : String) :
    (routeOf ver pid).2 ∈ ver.connectionIds := by
  have hcg : ∀ cfg ∈ ver.dataConfigs, (route cfg).2 ∈ ver.connectionIds :=
    fun cfg hm => (ha.configs cfg hm).connection
  unfold routeOf
  cases has : assignedRoute ver.dataConfigs pid with
  | some target =>
    obtain ⟨cfg,hm,-,rfl⟩ := mem_routeEntries.mp (mem_routeEntries_of_assigned has)
    exact hcg cfg hm
  | none =>
    rw [Option.getD_none,defaultRoute]
    cases hco : ver.dataConfigs with
    | cons cfg cfgs =>
      exact hcg cfg (hco ▸ mem_cons_self)
    | nil =>
      cases hc : ver.protocolConnections with
      | nil => simp [hco,hc] at hcd
      | cons conn conns =>
        rw [ProductVersion.connectionIds,hc]
        exact mem_cons_self

theorem findConnection_iff : findConnection (materialized later edge ver) connectionId = some conn ↔
      conn ∈ ver.protocolConnections ∧ conn.connectionId = connectionId :=
  lastWith_eq_some ha.connections_nodup

theorem mappingErrors_eq_nil
    (hc : ver.dataConfigs ≠ [] ∨ ver.protocolConnections ≠ []) (point : PointSetPoint) :
    mappingErrors checks (materialized later edge ver) (placed ver point) = [] ↔
      PointSound checks ver point := by
  obtain ⟨conn,hm,hid⟩ := mem_map.mp (routeOf_connected ha hc point.pointId)
  have hfd : findConnection (materialized later edge ver)
      (placed ver point).protocolConnectionId = some conn := by
    rw [placed_protocolConnectionId]
    exact (findConnection_iff ha).mpr ⟨hm,hid⟩
  have hp : protocolErrors checks (placed ver point) conn.protocol = [] ↔
      ∀ found ∈ ver.protocolConnections, found.connectionId = (routeOf ver point.pointId).2 →
          protocolCheck checks point found.protocol = .ok () := by
    rw [protocolErrors_eq_nil]
    constructor
    · intro hch found hf hfi
      have hs : found = conn := inj_on_of_nodup_map ha.connections_nodup hf hm (hfi.trans hid.symm)
      rw [hs]
      exact hch
    · intro he
      exact he conn hm hid
  have hd : ¬ (!hasDevice (materialized later edge ver) (placed ver point).deviceId) = true ↔
      (routeOf ver point.pointId).1 ∈ ver.devices.map DeviceInstance.deviceId := by
    rw [placed_deviceId,not_hasDevice_iff]
  rw [mappingErrors,hfd]
  simp only [List.append_eq_nil_iff,reportError_eq_nil,report_eq_nil,hp,hd]
  constructor
  · rintro ⟨⟨ho,hp⟩,hd⟩
    exact ⟨ho,hp,hd⟩
  · intro h
    exact ⟨⟨h.options,h.protocol⟩,h.device⟩

end

end Points

/-! ## Tasks and data configs -/

section References

variable {checks : PackageChecks} {store later : CloudControlStore} {edgeId : String}
  {version : ProductVersion}
  (hnodup : ((storedPoints later version).map PointSetPoint.pointId).Nodup)

include hnodup in
private theorem taskPointErrors_eq_nil (task : CollectionTask) (pid : String) :
    taskPointErrors (materialized later edgeId version) task pid = [] ↔
      ReadablePoint (storedPoints later version) pid ∧ (routeOf version pid).1 = task.deviceId := by
  unfold taskPointErrors ReadablePoint
  constructor
  · intro h
    cases hf : findPoint (materialized later edgeId version) pid with
    | none => simp [hf] at h
    | some mapping =>
      simp only [hf,List.append_eq_nil_iff,report_eq_nil,Bool.not_eq_true',
        Bool.not_eq_false,not_not] at h
      obtain ⟨point,hp,rfl,rfl⟩ := (findPoint_iff hnodup).mp hf
      exact ⟨⟨point,hp,rfl,h.2⟩,(placed_deviceId point).symm.trans h.1⟩
  · rintro ⟨⟨point,hp,rfl,hr⟩,hd⟩
    rw [(findPoint_iff hnodup).mpr ⟨point,hp,rfl,rfl⟩]
    simp only [List.append_eq_nil_iff,report_eq_nil,Bool.not_eq_true',Bool.not_eq_false,not_not]
    exact ⟨(placed_deviceId point).trans hd,hr⟩

@[simp] theorem unless_blank_eq_nil {blank : Bool} {failure : ValidationError}
    {others : List ValidationError} :
    (if blank then [failure] else others) = [] ↔ blank = false ∧ others = [] := by
  cases blank <;> simp

include hnodup in
theorem taskErrors_eq_nil {task : CollectionTask} (hn : isBlank task.taskId = false) :
    taskErrors (materialized later edgeId version) task = [] ↔
      TaskSound version (storedPoints later version) task := by
  rw [taskErrors]
  simp only [List.append_eq_nil_iff,report_eq_nil,List.flatMap_eq_nil_iff,unless_blank_eq_nil,
    not_hasDevice_iff,hn,Bool.false_eq_true,not_false_eq_true,true_and,List.isEmpty_iff,
    taskPointErrors_eq_nil hnodup]
  constructor
  · rintro ⟨⟨⟨⟨hn,hk⟩,hi⟩,hl⟩,he⟩
    exact ⟨hn,hk,hi,hl,he⟩
  · intro h
    exact ⟨⟨⟨⟨h.device_named,h.device⟩,h.interval⟩,h.points_listed⟩,h.each⟩

include hnodup in
theorem dataPointErrors_eq_nil (hrd : OneValued (routeEntries version.dataConfigs))
    {cfg : DataConfig} (hco : cfg ∈ version.dataConfigs) {point : DataConfigPoint}
    (hp : point ∈ cfg.points) :
    dataPointErrors (materialized later edgeId version) cfg point = [] ↔
      isBlank point.pointId = false ∧ ReadablePoint (storedPoints later version) point.pointId := by
  rw [dataPointErrors,unless_blank_eq_nil]
  apply and_congr_right
  intro _
  have hro : routeOf version point.pointId = route cfg := routeOf_eq hrd hco hp
  constructor
  · intro h
    cases hf : findPoint (materialized later edgeId version) point.pointId with
    | none => simp [hf] at h
    | some mapping =>
      simp only [hf,List.append_eq_nil_iff,report_eq_nil,Bool.not_eq_true',Bool.not_eq_false] at h
      obtain ⟨stored,hs,hid,rfl⟩ := (findPoint_iff hnodup).mp hf
      exact ⟨stored,hs,hid,h.2⟩
  · rintro ⟨stored,hs,hid,hr⟩
    have hd : (placed version stored).deviceId = cfg.deviceId := by
      rw [placed_deviceId,hid,hro]
      rfl
    have hc : (placed version stored).protocolConnectionId = cfg.protocolConnectionId := by
      rw [placed_protocolConnectionId,hid,hro]
      rfl
    rw [(findPoint_iff hnodup).mpr ⟨stored,hs,hid,rfl⟩]
    simp only [List.append_eq_nil_iff,report_eq_nil,Bool.not_eq_true',Bool.not_eq_false,not_not]
    exact ⟨⟨hd,hc⟩,hr⟩

@[simp] theorem dataPointsErrors_eq_nil {points : List DataConfigPoint} :
    dataPointsErrors pkg cfg taken points = [] ↔
      (∀ point ∈ points, dataPointErrors pkg cfg point = [] ∧
        isBlank point.jsonField = false ∧ point.jsonField ∉ taken) ∧
      (points.map DataConfigPoint.jsonField).Nodup := by
  induction points generalizing taken with
  | nil => simp [dataPointsErrors]
  | cons point points ih =>
    rw [dataPointsErrors,List.append_eq_nil_iff,forall_mem_cons,map_cons,nodup_cons]
    cases hb : isBlank point.jsonField with
    | true => simp
    | false =>
      simp only [Bool.false_eq_true,if_false,List.append_eq_nil_iff,report_eq_nil,ih,
        contains_eq_mem,decide_eq_true_eq,mem_cons,not_or,mem_map,
        not_exists,not_and,true_and]
      constructor
      · rintro ⟨hp,hf,hea,hnodup⟩
        refine ⟨⟨⟨hp,hf⟩,fun other ho => ?_⟩,fun other ho => ?_,hnodup⟩
        · obtain ⟨he,hfi,-,ht⟩ := hea other ho
          exact ⟨he,hfi,ht⟩
        · exact (hea other ho).2.2.1
      · rintro ⟨⟨⟨hp,hf⟩,hea⟩,ho,hnodup⟩
        refine ⟨hp,hf,fun other hm => ?_,hnodup⟩
        obtain ⟨he,hfi,ht⟩ := hea other hm
        exact ⟨he,hfi,ho other hm,ht⟩

include hnodup in
theorem dataConfigErrors_eq_nil (ha : ContentAccepted checks store version)
    (hr : OneValued (routeEntries version.dataConfigs)) {config : DataConfig}
    (hco : config ∈ version.dataConfigs) :
    dataConfigErrors (materialized later edgeId version) config = [] ↔
      ConfigSound version (storedPoints later version) config := by
  have hc := ha.configs config hco
  have hcn : hasConnection (materialized later edgeId version)
      config.protocolConnectionId = true := hasConnection_iff.mpr hc.connection
  have hs : hasSink (materialized later edgeId version) config.publish.sinkId = true :=
    hasSink_iff.mpr hc.sink
  have hal : (config.algorithmIds.flatMap fun algorithmId =>
      report (!hasAlgorithm (materialized later edgeId version) algorithmId)
        s!"data config `{config.configId}` references missing algorithm `{algorithmId}`") = [] := by
    simp only [List.flatMap_eq_nil_iff,report_eq_nil,Bool.not_eq_true',Bool.not_eq_false]
    exact fun algorithmId hm => hasAlgorithm_iff.mpr (hc.algorithms algorithmId hm)
  have hpo : (∀ point ∈ config.points,
      dataPointErrors (materialized later edgeId version) config point = [] ∧
        isBlank point.jsonField = false ∧ point.jsonField ∉ []) ↔
      ∀ point ∈ config.points, isBlank point.pointId = false ∧ isBlank point.jsonField = false ∧
          ReadablePoint (storedPoints later version) point.pointId := by
    apply forall₂_congr
    intro point hpt
    rw [dataPointErrors_eq_nil hnodup hr hco hpt]
    simp only [List.not_mem_nil,not_false_eq_true,and_true,and_assoc]
    exact and_congr_right fun _ => and_comm
  rw [dataConfigErrors,hal]
  simp only [List.append_eq_nil_iff,report_eq_nil,unless_blank_eq_nil,not_hasDevice_iff,
    dataPointsErrors_eq_nil,hpo,not_or,not_lt,List.isEmpty_iff]
  simp only [ha.configs_named config hco,ha.connections_named _ hc.connection,hcn,hs,Bool.not_true,
    Bool.false_eq_true,not_false_eq_true,true_and,and_true]
  constructor
  · rintro ⟨⟨⟨⟨⟨⟨hn,hd⟩,hp⟩,ht⟩,hre⟩,hl⟩,he,hf⟩
    exact ⟨hn,hd,hp,ht,hre,hl,he,hf⟩
  · intro h
    exact ⟨⟨⟨⟨⟨⟨h.device_named,h.device⟩,h.period⟩,h.timeout⟩,h.retry⟩,h.points_listed⟩,
      h.each,h.fields⟩

end References

/-! ## The whole package -/

section Package

variable {checks : PackageChecks} {store later : CloudControlStore} {edge : String}
  {version : ProductVersion}

private theorem storedPoints_of_same (h : SamePointSets store later version) :
    storedPoints later version = storedPoints store version := by
  unfold storedPoints
  rw [flatMap_def,flatMap_def]
  congr 1
  apply map_congr_left
  intro sid hm
  rw [h sid hm]

theorem commandFlowErrors_eq_nil (ha : ContentAccepted checks store version)
    (hs : SamePointSets store later version) (hf : flow ∈ version.commandFlows) :
    commandFlowErrors checks (materialized later edge version) flow = [] := by
  obtain ⟨pointMappings,hm,hc⟩ := ha.flows flow hf
  have hcu : pointMappings = materializedMappings later version := by
    rw [(materialize_eq_ok.mp hm).2,materializedMappings,materializedMappings,
      storedPoints_of_same hs]
  have hco : ¬ (flow.protocolConnectionId ≠ "" ∧
      hasConnection (materialized later edge version) flow.protocolConnectionId = false) := by
    rintro ⟨hn,hmi⟩
    have hk : hasConnection (materialized later edge version) flow.protocolConnectionId = true :=
      hasConnection_iff.mpr (hc.connection.resolve_left hn)
    rw [hmi] at hk
    cases hk
  simp only [commandFlowErrors,List.append_eq_nil_iff,report_eq_nil,reportError_eq_nil,
    Bool.not_eq_true',Bool.not_eq_false]
  rw [hcu] at hc
  exact ⟨⟨hco,hasSink_iff.mpr hc.sink⟩,hc.graph⟩

private theorem validatePackage_iff_sound (ha : ContentAccepted checks store version)
    (hm : Mappable later version) (hs : SamePointSets store later version)
    (hnodup : ((storedPoints later version).map PointSetPoint.pointId).Nodup) :
    validatePackage checks (materialized later edge version) = [] ↔
      Sound checks version (storedPoints later version) := by
  rw [validatePackage_eq_nil]
  constructor
  · intro h
    refine ⟨fun point hp => ?_,fun task ht => ?_,fun cfg hc => ?_⟩
    · exact (mappingErrors_eq_nil ha hm.connected point).mp (h.mappings _ (mem_map_of_mem hp))
    · exact (taskErrors_eq_nil hnodup (ha.tasks_named task ht)).mp (h.tasks task ht)
    · exact (dataConfigErrors_eq_nil hnodup ha hm.routed hc).mp (h.dataConfigs cfg hc)
  · intro h
    refine ⟨fun conn hme => ?_,fun uplink hme => ?_,fun mapping hme => ?_,
      fun task hme => ?_,fun cfg hme => ?_,fun flow hme => ?_⟩
    · exact reportError_eq_nil.mpr (ha.connections conn hme)
    · obtain ⟨original,ho,rfl⟩ := mem_map.mp hme
      exact ha.uplinks original ho
    · obtain ⟨point,hp,rfl⟩ := mem_map.mp hme
      exact (mappingErrors_eq_nil ha hm.connected point).mpr (h.mapped point hp)
    · exact (taskErrors_eq_nil hnodup (ha.tasks_named task hme)).mpr (h.tasks task hme)
    · exact (dataConfigErrors_eq_nil hnodup ha hm.routed hme).mpr (h.configs cfg hme)
    · exact commandFlowErrors_eq_nil ha hs hme

/-- What an accepted version still needs, of itself and of the point sets, so that its packages
map every point once. -/
structure Complete (checks : PackageChecks) (store later : CloudControlStore)
    (version : ProductVersion) : Prop where
  mappable : Mappable later version
  points_distinct : ((storedPoints later version).map PointSetPoint.pointId).Nodup
  points_stored : ∀ config ∈ version.dataConfigs, ∀ point ∈ config.points,
    point.pointId ∈ (storedPoints later version).map PointSetPoint.pointId
  sound : SamePointSets store later version →
    Sound checks version (storedPoints later version)

private theorem mappedOnce_iff_complete (ha : ContentAccepted checks store version)
    (hm : Mappable later version) :
    MappedOnce checks store later version (materialized later edge version) ↔
      Complete checks store later version := by
  constructor
  · intro h
    have hnodup := distinct_iff.mp h.distinct
    refine ⟨hm,hnodup,fun cfg hc point hp => ?_,fun hs => ?_⟩
    · exact (served_iff hm.routed hc hp hnodup).mp (h.served cfg hc point hp)
    · exact (validatePackage_iff_sound ha hm hs hnodup).mp (h.valid hs)
  · intro h
    refine ⟨distinct_iff.mpr h.points_distinct,fun cfg hc point hp => ?_,fun hs => ?_⟩
    · exact (served_iff hm.routed hc hp h.points_distinct).mpr (h.points_stored cfg hc point hp)
    · exact (validatePackage_iff_sound ha hm hs h.points_distinct).mpr (h.sound hs)

end Package

/-- A version that a request accepts becomes, on any edge and with the point sets of any later
store, a package that maps every point once and passes the validator exactly when it is complete. -/
theorem materializesOnce_iff_complete (checks : PackageChecks) (store later : CloudControlStore)
    (productId : String) (request : ProductVersion) (updating : Bool) (edgeId : String)
    (haccepted : validateProductVersionRequest (productVersionChecks checks) store productId
      request updating = .ok ()) :
    MaterializesOnce checks store later edgeId (buildProductVersion productId request) ↔
      Complete checks store later (buildProductVersion productId request) := by
  have hc := buildProductVersion_accepted haccepted
  unfold MaterializesOnce
  constructor
  · rintro ⟨pkg,hp,ho⟩
    obtain ⟨hm,rfl⟩ := materializePackage_eq_ok.mp hp
    exact (mappedOnce_iff_complete hc hm).mp ho
  · intro h
    exact ⟨_,materializePackage_eq_ok.mpr ⟨h.mappable,rfl⟩,
      (mappedOnce_iff_complete hc h.mappable).mpr h⟩

/-! ## A pump with two point sets -/

def flowPoint : PointSetPoint where
  pointId := "flow"
  semanticId := "flow"
  address := .object [("kind",.string "simulated"),("value",.string "flow")]
  valueType := .float
  access := .readOnly
  protocolOptions := .null
  readTransforms := []

def pumpStore : CloudControlStore := { CloudControlStore.empty with
  products := Registry.empty.insert ⟨"pump","plant",none⟩
  pointSets := (Registry.empty.insert ⟨"basic","plant",[flowPoint]⟩).insert
    ⟨"extended","plant",[flowPoint]⟩ }

def flowConfig : DataConfig where
  configId := "flow-uplink"
  deviceId := "pump-1"
  protocolConnectionId := "line"
  collection := ⟨1000,500,0⟩
  points := [⟨"flow","flow",.null,.float,"flow"⟩]
  algorithmIds := []
  visualGraph := ⟨[],[]⟩
  publish := ⟨"cloud"⟩

def pumpVersion (pointSetIds : List String) : ProductVersion where
  productId := "pump"
  version := "1.0.0"
  status := .draft
  pointSetIds := pointSetIds
  devices := [⟨"pump-1"⟩]
  protocolConnections := [⟨"line",.simulated,.null⟩]
  collectionTasks := []
  algorithms := []
  dataConfigs := [flowConfig]
  commandFlows := []
  mqttUplinks := [.velamq "cloud" "mqtt://broker" "pump"]

theorem basicPump_complete : Complete pumpChecks pumpStore pumpStore (pumpVersion ["basic"]) := by
  have hpo : storedPoints pumpStore (pumpVersion ["basic"]) = [flowPoint] := rfl
  have hc : (pumpVersion ["basic"]).dataConfigs ≠ [] ∨
      (pumpVersion ["basic"]).protocolConnections ≠ [] := .inl (cons_ne_nil _ _)
  have hro : OneValued (routeEntries (pumpVersion ["basic"]).dataConfigs) := by
    intro key first second hf hs
    simp only [routeEntries,pumpVersion,flowConfig,flatMap_cons,flatMap_nil,
      map_cons,map_nil,append_nil,mem_singleton,Prod.mk.injEq]
      at hf hs
    exact hf.2.trans hs.2.symm
  have hp : PointSound pumpChecks (pumpVersion ["basic"]) flowPoint := by
    refine ⟨rfl,fun conn hm _ => ?_,mem_cons_self⟩
    cases mem_singleton.mp hm
    rfl
  have hr : ReadablePoint [flowPoint] "flow" := ⟨flowPoint,mem_cons_self,rfl,rfl⟩
  have hco : ConfigSound (pumpVersion ["basic"]) [flowPoint] flowConfig := by
    refine ⟨rfl,mem_cons_self,by decide,by decide,by decide,cons_ne_nil _ _,
      fun point hm => ?_,nodup_singleton _⟩
    cases mem_singleton.mp hm
    exact ⟨rfl,rfl,hr⟩
  have hso : Sound pumpChecks (pumpVersion ["basic"]) [flowPoint] := by
    refine ⟨fun point hm => ?_,fun task hm => ?_,fun cfg hm => ?_⟩
    · cases mem_singleton.mp hm
      exact hp
    · cases hm
    · cases mem_singleton.mp hm
      exact hco
  refine ⟨⟨hc,hro,fun sid hm => ?_⟩,?_,fun cfg hm point hp => ?_,fun _ => hpo ▸ hso⟩
  · cases mem_singleton.mp hm
    rfl
  · rw [hpo]
    exact nodup_singleton _
  · cases mem_singleton.mp hm
    cases mem_singleton.mp hp
    exact mem_cons_self

theorem basic_pump_materializes :
    validateProductVersionRequest (productVersionChecks pumpChecks) pumpStore "pump"
        (pumpVersion ["basic"]) false = .ok () ∧
      MaterializesOnce pumpChecks pumpStore pumpStore "edge-1"
        (buildProductVersion "pump" (pumpVersion ["basic"])) :=
  ⟨rfl,(materializesOnce_iff_complete pumpChecks pumpStore pumpStore "pump"
    (pumpVersion ["basic"]) false "edge-1" rfl).mpr basicPump_complete⟩

/-- With both point sets the version is accepted and the package passes the validator, and the
flow of the pump is mapped twice. -/
theorem shared_point_mapped_twice :
    validateProductVersionRequest (productVersionChecks pumpChecks) pumpStore "pump"
        (pumpVersion ["basic","extended"]) false = .ok () ∧
      (materializeProductConfigPackage pumpStore "edge-1"
        (buildProductVersion "pump" (pumpVersion ["basic","extended"]))).toOption.map
          (fun package => (package.pointMappings.map fun mapping =>
              (mapping.deviceId,mapping.pointId),
            validatePackage pumpChecks package)) =
        some ([("pump-1","flow"),("pump-1","flow")],[]) ∧
      ¬ MaterializesOnce pumpChecks pumpStore pumpStore "edge-1"
        (buildProductVersion "pump" (pumpVersion ["basic","extended"])) := by
  refine ⟨rfl,by decide +kernel,?_⟩
  rintro ⟨package,hp,ho⟩
  obtain ⟨-,rfl⟩ := materializePackage_eq_ok.mp hp
  have hnodup := distinct_iff.mp ho.distinct
  revert hnodup
  decide +kernel

end VelaEdge.Cloud.ProductMaterialization
