import VelaEdge.Cloud.ChangeSet

/-! What a request asks of the content of a product version before the version is stored. -/
namespace VelaEdge.Cloud

open Base Core ConfigValidator Text

def checkPointSets (store : CloudControlStore) (product : Product) :
    List String → List String → Except ApiError Unit
  | _, [] => .ok ()
  | taken, pointSetId :: pointSetIds => do
      bailIf (pointSetId ∈ taken) ⟨.conflict,"duplicate point set reference in product version"⟩
      let pointSet ← context (store.pointSets.get pointSetId)
        ⟨.badRequest,"missing product point set"⟩
      bailIf (pointSet.projectId ≠ product.projectId)
        ⟨.badRequest,"product version cannot reference a point set from another project"⟩
      checkPointSets store product (pointSetId :: taken) pointSetIds

def ensureUniqueIds (label : String) : List String → List String → Except ApiError Unit
  | _, [] => .ok ()
  | taken, id :: ids => do
      validateCatalogId label id
      bailIf (id ∈ taken) ⟨.conflict,s!"duplicate {label} id"⟩
      ensureUniqueIds label (id :: taken) ids

def checkVersionUplink (uplink : MqttUplinkConfig) : Except ApiError Unit := do
  bailIf (uplink.username.isSome ≠ uplink.passwordEnv.isSome)
    ⟨.badRequest,s!"MQTT sink {uplink.sinkId} username and password environment reference " ++
      "must be configured together"⟩
  bailIf (isBlankOption uplink.username || isBlankOption uplink.passwordEnv)
    ⟨.badRequest,s!"MQTT sink {uplink.sinkId} credential references must not be empty"⟩
  bailIf (isBlankOption uplink.tlsCaPath)
    ⟨.badRequest,s!"MQTT sink {uplink.sinkId} TLS CA path must not be empty"⟩
  bailIf (uplink.tlsCaPath.isSome && !mqttBrokerUsesTls uplink.broker)
    ⟨.badRequest,s!"MQTT sink {uplink.sinkId} TLS CA path requires an mqtts:// broker"⟩

namespace ProductVersion

variable (version : ProductVersion)

def connectionIds : List String := version.protocolConnections.map ProtocolConnection.connectionId

def sinkIds : List String := version.mqttUplinks.map MqttUplinkConfig.sinkId

def specIds : List String := version.algorithms.map AlgorithmSpec.id

end ProductVersion

section Content

variable (checks : PackageChecks)

def checkVersionFlow (request : ProductVersion) (pointMappings : List TelemetryPointMapping)
    (flow : CommandFlowConfig) : Except ApiError Unit := do
  bailIf (flow.protocolConnectionId ≠ "" ∧ flow.protocolConnectionId ∉ request.connectionIds)
    ⟨.badRequest,s!"command flow {flow.flowId} references missing protocol connection {
      flow.protocolConnectionId}"⟩
  bailIf (flow.mqttConnectionId ∉ request.sinkIds)
    ⟨.badRequest,s!"command flow {flow.flowId} references missing MQTT connection {
      flow.mqttConnectionId}"⟩
  (checks.validateCommandFlow flow pointMappings).mapError fun cause =>
    ⟨.unprocessableEntity,cause⟩

/-- The flows are checked against the mappings the version has now. -/
def checkVersionFlows (store : CloudControlStore) (request : ProductVersion) :
    Except ApiError Unit :=
  if request.commandFlows.isEmpty then .ok ()
  else do
    let pointMappings ← materializeProductPointMappings store request
    request.commandFlows.forM (checkVersionFlow checks request pointMappings)

def checkVersionConfig (request : ProductVersion) (config : DataConfig) : Except ApiError Unit := do
  bailIf (config.protocolConnectionId ∉ request.connectionIds)
    ⟨.badRequest,s!"data config {config.configId} references missing protocol connection {
      config.protocolConnectionId}"⟩
  bailIf (config.publish.sinkId ∉ request.sinkIds)
    ⟨.badRequest,s!"data config {config.configId} references missing MQTT sink {
      config.publish.sinkId}"⟩
  match config.algorithmIds.find? fun algorithmId => algorithmId ∉ request.specIds with
  | some missing =>
    .error ⟨.badRequest,s!"data config {config.configId} references missing algorithm {missing}"⟩
  | none =>
    (checks.validateDataConfigVisualGraph config).mapError fun cause =>
      ⟨.unprocessableEntity,cause⟩

def productVersionChecks : VersionChecks := fun store product request => do
  checkPointSets store product [] request.pointSetIds
  ensureUniqueIds "protocol connection" [] request.connectionIds
  ensureUniqueIds "collection task" [] (request.collectionTasks.map CollectionTask.taskId)
  ensureUniqueIds "algorithm" [] request.specIds
  ensureUniqueIds "data config" [] (request.dataConfigs.map DataConfig.configId)
  ensureUniqueIds "MQTT sink" [] request.sinkIds
  ensureUniqueIds "command flow" [] (request.commandFlows.map CommandFlowConfig.flowId)
  request.mqttUplinks.forM checkVersionUplink
  request.protocolConnections.forM fun connection =>
    (checks.validateConnection connection).mapError fun cause => ⟨.unprocessableEntity,cause⟩
  checkVersionFlows checks store request
  request.dataConfigs.forM (checkVersionConfig checks request)

end Content

/-! ## What has been checked of an accepted version -/

private theorem validateCatalogId_named (h : validateCatalogId label value = .ok ()) :
    isBlank value = false := by
  simp only [validateCatalogId,bind_eq_ok,bailIf_eq_ok,Bool.not_eq_true] at h
  exact h.choose_spec.1

theorem ensureUniqueIds_ok (h : ensureUniqueIds label taken ids = .ok ()) :
    ids.Nodup ∧ ∀ id ∈ ids, id ∉ taken ∧ isBlank id = false := by
  induction ids generalizing taken with
  | nil => exact ⟨List.nodup_nil,fun id hid => by cases hid⟩
  | cons id ids ih =>
    simp only [ensureUniqueIds,bind_eq_ok,bailIf_eq_ok] at h
    obtain ⟨_,hn,_,hf,hr⟩ := h
    obtain ⟨hno,he⟩ := ih hr
    refine ⟨List.nodup_cons.mpr ⟨fun hm => ?_,hno⟩,fun other ho => ?_⟩
    · exact (he id hm).1 List.mem_cons_self
    · cases ho with
      | head => exact ⟨hf,validateCatalogId_named hn⟩
      | tail _ ho =>
        have ho := he other ho
        exact ⟨fun hm => ho.1 (List.mem_cons_of_mem _ hm),ho.2⟩

theorem ensureUniqueIds_named {key : α → String} {items : List α}
    (h : ensureUniqueIds label [] (items.map key) = .ok ()) :
    ∀ item ∈ items, isBlank (key item) = false := fun item hi =>
  ((ensureUniqueIds_ok h).2 (key item) (List.mem_map_of_mem hi)).2

@[simp] theorem checkVersionUplink_iff :
    checkVersionUplink uplink = .ok () ↔ uplinkErrors uplink = [] := by
  simp only [checkVersionUplink,uplinkErrors,bind_eq_ok,bailIf_eq_ok,List.append_eq_nil_iff,
    report_eq_nil,exists_const]
  constructor
  · rintro ⟨ht,hb,hp,htl⟩
    exact ⟨⟨⟨ht,hb⟩,hp⟩,htl⟩
  · rintro ⟨⟨⟨ht,hb⟩,hp⟩,htl⟩
    exact ⟨ht,hb,hp,htl⟩

structure FlowAccepted (checks : PackageChecks) (version : ProductVersion)
    (pointMappings : List TelemetryPointMapping) (flow : CommandFlowConfig) : Prop where
  connection : flow.protocolConnectionId = "" ∨ flow.protocolConnectionId ∈ version.connectionIds
  sink : flow.mqttConnectionId ∈ version.sinkIds
  graph : checks.validateCommandFlow flow pointMappings = .ok ()

structure ConfigAccepted (version : ProductVersion) (config : DataConfig) : Prop where
  connection : config.protocolConnectionId ∈ version.connectionIds
  sink : config.publish.sinkId ∈ version.sinkIds
  algorithms : ∀ algorithmId ∈ config.algorithmIds, algorithmId ∈ version.specIds

/-- What a request has found out about a version it accepts, as far as packages depend on it. -/
structure ContentAccepted (checks : PackageChecks) (store : CloudControlStore)
    (version : ProductVersion) : Prop where
  connections_nodup : version.connectionIds.Nodup
  connections_named : ∀ connectionId ∈ version.connectionIds, isBlank connectionId = false
  tasks_named : ∀ task ∈ version.collectionTasks, isBlank task.taskId = false
  configs_named : ∀ config ∈ version.dataConfigs, isBlank config.configId = false
  uplinks : ∀ uplink ∈ version.mqttUplinks, uplinkErrors uplink = []
  connections : ∀ connection ∈ version.protocolConnections,
    checks.validateConnection connection = .ok ()
  flows : ∀ flow ∈ version.commandFlows, ∃ pointMappings,
    materializeProductPointMappings store version = .ok pointMappings ∧
      FlowAccepted checks version pointMappings flow
  configs : ∀ config ∈ version.dataConfigs, ConfigAccepted version config

section Accepted

variable {checks : PackageChecks} {store : CloudControlStore} {req : ProductVersion}

theorem checkVersionFlow_accepted (h : checkVersionFlow checks req pointMappings flow = .ok ()) :
    FlowAccepted checks req pointMappings flow := by
  simp only [checkVersionFlow,bind_eq_ok,bailIf_eq_ok,mapError_eq_ok,exists_const] at h
  obtain ⟨hc,hs,hg⟩ := h
  exact ⟨by tauto,not_not.mp hs,hg⟩

private theorem checkVersionFlows_accepted (h : checkVersionFlows checks store req = .ok ())
    (hf : flow ∈ req.commandFlows) :
    ∃ pointMappings, materializeProductPointMappings store req = .ok pointMappings ∧
      FlowAccepted checks req pointMappings flow := by
  unfold checkVersionFlows at h
  split at h
  · next he =>
    rw [List.isEmpty_iff.mp he] at hf
    cases hf
  · obtain ⟨pointMappings,hm,hfl⟩ := bind_eq_ok.mp h
    exact ⟨pointMappings,hm,checkVersionFlow_accepted (forM_eq_ok.mp hfl flow hf)⟩

private theorem checkVersionConfig_accepted (h : checkVersionConfig checks req cfg = .ok ()) :
    ConfigAccepted req cfg := by
  simp only [checkVersionConfig,bind_eq_ok,bailIf_eq_ok,exists_const,not_not] at h
  obtain ⟨hc,hs,hr⟩ := h
  refine ⟨hc,hs,?_⟩
  split at hr
  · cases hr
  · next hf =>
    intro algorithmId hm
    have hk := List.find?_eq_none.mp hf algorithmId hm
    simp only [decide_not,Bool.not_eq_true',decide_eq_false_iff_not,not_not] at hk
    exact hk

private theorem productVersionChecks_accepted {prod : Product}
    (h : productVersionChecks checks store prod req = .ok ()) :
    ContentAccepted checks store req := by
  simp only [productVersionChecks,bind_eq_ok] at h
  obtain ⟨_,-,_,hc,_,ht,_,-,_,hcs,_,-,_,-,_,hu,_,hv,_,hf,hco⟩ := h
  exact {
    connections_nodup := (ensureUniqueIds_ok hc).1
    connections_named := fun id hid => ((ensureUniqueIds_ok hc).2 id hid).2
    tasks_named := ensureUniqueIds_named ht
    configs_named := ensureUniqueIds_named hcs
    uplinks := fun uplink hm =>
      checkVersionUplink_iff.mp (forM_eq_ok.mp hu uplink hm)
    connections := fun conn hm =>
      mapError_eq_ok.mp (forM_eq_ok.mp hv conn hm)
    flows := fun flow hm => checkVersionFlows_accepted hf hm
    configs := fun cfg hm =>
      checkVersionConfig_accepted (forM_eq_ok.mp hco cfg hm) }

theorem buildProductVersion_accepted
    (h : validateProductVersionRequest (productVersionChecks checks) store prod req
      updating = .ok ()) :
    ContentAccepted checks store (buildProductVersion prod req) := by
  simp only [validateProductVersionRequest,bind_eq_ok] at h
  obtain ⟨_,-,_,-,product,-,_,-,hco⟩ := h
  have ha := productVersionChecks_accepted hco
  refine { ha with flows := fun flow hme => ?_, configs := fun cfg hme => ?_ }
  · obtain ⟨pointMappings,hm,hf⟩ := ha.flows flow hme
    exact ⟨pointMappings,hm,hf.connection,hf.sink,hf.graph⟩
  · have hc := ha.configs cfg hme
    exact ⟨hc.connection,hc.sink,hc.algorithms⟩

end Accepted

end VelaEdge.Cloud
