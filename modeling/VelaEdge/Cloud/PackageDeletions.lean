import VelaEdge.Cloud.ApprovedPlan
import VelaEdge.Cloud.ConfigWrites

/-! Requests that delete a part of an edge's package, and what the validator says of the package
that is left. -/
namespace VelaEdge.Cloud.PackageDeletions

open Base Core VelaEdge.Runtime Runtime.AppliedConfig ConfigValidator CommandFlow
open List ReleaseHistory

/-- All items but those under one id; an error when there is none of them. -/
def retainOthers {α : Type} (key : α → String) (removed : String) (items : List α)
    (missing : String) : Except ApiError (List α) := do
  let remaining := items.filter fun item => key item ≠ removed
  bailIf (remaining.length = items.length) ⟨.notFound,missing⟩
  pure remaining

def deleteEdgePointMapping (pointId : String) : PackageEdit := fun package => do
  bailIf (package.collectionTasks.any fun task => task.pointIds.any (· = pointId))
    ⟨.conflict,s!"point `{pointId}` is referenced by collection tasks"⟩
  bailIf (package.dataConfigs.any fun config => config.points.any fun point =>
      point.pointId = pointId)
    ⟨.conflict,s!"point `{pointId}` is referenced by data configs"⟩
  bailIf (package.algorithms.any fun algorithm => algorithm.dsl.inputs.any fun input =>
      input.pointId = pointId)
    ⟨.conflict,s!"point `{pointId}` is referenced by algorithms"⟩
  let remaining ← retainOthers TelemetryPointMapping.pointId pointId package.pointMappings
    "missing point mapping"
  pure { package with pointMappings := remaining }

def deleteEdgeProtocolConnection (connectionId : String) : PackageEdit := fun package => do
  bailIf (package.pointMappings.any fun mapping => mapping.protocolConnectionId = connectionId)
    ⟨.conflict,s!"protocol connection `{connectionId}` is referenced by points"⟩
  bailIf (package.dataConfigs.any fun config => config.protocolConnectionId = connectionId)
    ⟨.conflict,s!"protocol connection `{connectionId}` is referenced by data configs"⟩
  let remaining ← retainOthers ProtocolConnection.connectionId connectionId
    package.protocolConnections "missing protocol connection"
  pure { package with protocolConnections := remaining }

def deleteEdgeCollectionTask (taskId : String) : PackageEdit := fun package => do
  let remaining ← retainOthers CollectionTask.taskId taskId package.collectionTasks
    "missing collection task"
  pure { package with collectionTasks := remaining }

def deleteEdgeAlgorithm (algorithmId : String) : PackageEdit := fun package => do
  bailIf (package.dataConfigs.any fun config => config.algorithmIds.any (· = algorithmId))
    ⟨.conflict,s!"algorithm `{algorithmId}` is referenced by data configs"⟩
  let remaining ← retainOthers AlgorithmSpec.id algorithmId package.algorithms "missing algorithm"
  pure { package with algorithms := remaining }

inductive Deletion where
  | pointMapping (pointId : String)
  | protocolConnection (connectionId : String)
  | collectionTask (taskId : String)
  | algorithm (algorithmId : String)

def Deletion.edit : Deletion → PackageEdit
  | .pointMapping pointId => deleteEdgePointMapping pointId
  | .protocolConnection connectionId => deleteEdgeProtocolConnection connectionId
  | .collectionTask taskId => deleteEdgeCollectionTask taskId
  | .algorithm algorithmId => deleteEdgeAlgorithm algorithmId

def writesPoint (pointId : String) (node : CommandGraphNode) : Bool :=
  node.kind = .pointWrite && node.refId.getD "" = pointId

/-- No command flow writes to what is deleted. -/
def Deletion.sparesFlows (package : EdgeConfigPackage) : Deletion → Bool
  | .pointMapping pointId => package.commandFlows.all fun flow =>
    flow.nodes.all fun node => !writesPoint pointId node
  | _ => true

/-- The cloud's checks with the real one of command flows. -/
def withCommandFlows (checks : PackageChecks) : PackageChecks :=
  { checks with validateCommandFlow := validateCommandFlow }

section Lookups

variable {α : Type} {key : α → String} {name removed : String} {items : List α}

theorem lastWith_filter_ne (h : name ≠ removed) :
    lastWith key name (items.filter fun item => key item ≠ removed) = lastWith key name items := by
  rw [lastWith,lastWith,← filter_reverse,List.find?_filter]
  congr 1
  funext item
  by_cases hi : key item = name
  · simp [hi,h]
  · simp [hi]

@[simp] theorem lastWith_filter_self :
    lastWith key removed (items.filter fun item => key item ≠ removed) = none := by
  rw [lastWith,List.find?_eq_none]
  intro item hi
  rw [mem_reverse,mem_filter,decide_eq_true_eq] at hi
  simpa using hi.2

theorem any_filter_ne (h : name ≠ removed) :
    (items.filter fun item => key item ≠ removed).any (fun item => key item = name) =
      items.any fun item => key item = name := by
  rw [any_filter]
  congr 1
  funext item
  by_cases hi : key item = name
  · simp [hi,h]
  · simp [hi]

theorem retainOthers_ok {missing : String}
    (h : retainOthers key removed items missing = .ok remaining) :
    remaining = items.filter fun item => key item ≠ removed := by
  simp only [retainOthers,bind_eq_ok] at h
  obtain ⟨_,-,hr⟩ := h
  cases hr
  rfl

end Lookups

/-! ## Command flows -/

section Flows

variable {flow : CommandFlowConfig} {mappings : List TelemetryPointMapping} {pid : String}

private theorem lastMapping_eq_lastWith (mappings : List TelemetryPointMapping) (pid : String) :
    lastMapping mappings pid = lastWith TelemetryPointMapping.pointId pid mappings := rfl

variable {node : CommandGraphNode}

private theorem checkNode_delete (h : checkNode flow mappings node = .ok ()) :
    checkNode flow (mappings.filter fun mapping => mapping.pointId ≠ pid) node =
        .ok () ↔ writesPoint pid node = false := by
  unfold checkNode at h ⊢
  unfold writesPoint
  cases hk : node.kind with
  | pointWrite =>
    rw [hk] at h
    dsimp only at h ⊢
    rw [checkWriteNode,lastMapping_eq_lastWith] at h ⊢
    by_cases hp : node.refId.getD "" = pid
    · rw [hp,lastWith_filter_self]
      simp
    · rw [lastWith_filter_ne hp,h]
      simp [hp]
  | safetyGate =>
    rw [hk] at h
    dsimp only at h ⊢
    simp [h]
  | mqttInput => simp
  | jsonParse => simp
  | condition => simp
  | mqttReply => simp

private theorem checkNodes_delete (h : checkNodes flow mappings seen nodes = .ok ()) :
    checkNodes flow (mappings.filter fun mapping => mapping.pointId ≠ pid) seen
        nodes = .ok () ↔ ∀ node ∈ nodes, writesPoint pid node = false := by
  induction nodes generalizing seen with
  | nil => simp [checkNodes]
  | cons node nodes ih =>
    simp only [checkNodes,bind_eq_ok] at h
    obtain ⟨_,hid,_,hs,_,hno,hn⟩ := h
    rw [forall_mem_cons,← checkNode_delete hno,← ih hn]
    rw [checkNodes,hid,ok_bind,hs,ok_bind,bind_eq_ok]
    constructor
    · rintro ⟨_,hf,hl⟩
      exact ⟨hf,hl⟩
    · rintro ⟨hf,hl⟩
      exact ⟨(),hf,hl⟩

theorem validateCommandFlow_delete (h : validateCommandFlow flow mappings = .ok ()) :
    validateCommandFlow flow (mappings.filter fun mapping => mapping.pointId ≠ pid) =
        .ok () ↔ ∀ node ∈ flow.nodes, writesPoint pid node = false := by
  simp only [validateCommandFlow,bind_eq_ok] at h
  obtain ⟨_,hs,_,hn,_,hk,_,he,hg⟩ := h
  rw [← checkNodes_delete hn,validateCommandFlow,hs,ok_bind,bind_eq_ok]
  constructor
  · rintro ⟨_,hl,-⟩
    exact hl
  · intro hl
    refine ⟨(),hl,?_⟩
    rw [hk,ok_bind,he,ok_bind,hg]

theorem checkNode_of_mem (h : checkNodes flow mappings seen nodes = .ok ()) (hn : node ∈ nodes) :
    checkNode flow mappings node = .ok () := by
  induction nodes generalizing seen with
  | nil => cases hn
  | cons first nodes ih =>
    simp only [checkNodes,bind_eq_ok] at h
    obtain ⟨_,-,_,-,_,hf,hno⟩ := h
    rcases mem_cons.mp hn with rfl | hl
    · exact hf
    · exact ih hno hl

theorem exists_mapping_of_connection (h : validateCommandFlow flow mappings = .ok ())
    (hco : flow.protocolConnectionId ≠ "") :
    ∃ mapping ∈ mappings, mapping.protocolConnectionId = flow.protocolConnectionId := by
  simp only [validateCommandFlow,bind_eq_ok] at h
  obtain ⟨_,-,_,hn,_,hk,-⟩ := h
  have hw := bailIf_eq_ok.mp (forM_eq_ok.mp hk .pointWrite (by decide))
  rw [Bool.not_eq_true',Bool.not_eq_false,any_eq_true] at hw
  obtain ⟨node,hno,hki⟩ := hw
  have hc := checkNode_of_mem hn hno
  rw [checkNode,of_decide_eq_true hki] at hc
  simp only [checkWriteNode,bind_eq_ok,context_eq_ok] at hc
  obtain ⟨mapping,hm,_,-,_,hs,-⟩ := hc
  rw [bailIf_eq_ok,not_and,not_not] at hs
  exact ⟨mapping,mem_reverse.mp (mem_of_find?_eq_some hm),hs hco⟩

end Flows

/-! ## Tasks and data configs -/

section References

variable {package after : EdgeConfigPackage}

theorem taskErrors_congr {task : CollectionTask} (hd : after.devices = package.devices)
    (hp : ∀ pid ∈ task.pointIds, findPoint after pid = findPoint package pid) :
    taskErrors after task = taskErrors package task := by
  have hpe : task.pointIds.flatMap (taskPointErrors after task) =
      task.pointIds.flatMap (taskPointErrors package task) := by
    apply flatMap_congr
    intro pid hpo
    rw [taskPointErrors,taskPointErrors,hp pid hpo]
  rw [taskErrors,taskErrors,hpe,hasDevice,hasDevice,hd]

private theorem dataPointsErrors_congr {points : List DataConfigPoint}
    (hp : ∀ point ∈ points, findPoint after point.pointId = findPoint package point.pointId) :
    dataPointsErrors after cfg taken points = dataPointsErrors package cfg taken points := by
  induction points generalizing taken with
  | nil => rfl
  | cons point points ih =>
    have hl := fun other ho => hp other (mem_cons_of_mem point ho)
    rw [dataPointsErrors,dataPointsErrors,dataPointErrors,dataPointErrors,
      hp point mem_cons_self,ih hl,ih hl]

structure SameReferences (package after : EdgeConfigPackage) (config : DataConfig) : Prop where
  devices : after.devices = package.devices
  uplinks : after.mqttUplinks = package.mqttUplinks
  connection : hasConnection after config.protocolConnectionId =
    hasConnection package config.protocolConnectionId
  points : ∀ point ∈ config.points,
    findPoint after point.pointId = findPoint package point.pointId
  algorithms : ∀ algorithmId ∈ config.algorithmIds,
    hasAlgorithm after algorithmId = hasAlgorithm package algorithmId

theorem dataConfigErrors_congr (h : SameReferences package after config) :
    dataConfigErrors after config = dataConfigErrors package config := by
  have ha : (config.algorithmIds.flatMap fun algorithmId =>
      report (!hasAlgorithm after algorithmId)
        s!"data config `{config.configId}` references missing algorithm `{algorithmId}`") =
      config.algorithmIds.flatMap fun algorithmId =>
        report (!hasAlgorithm package algorithmId)
          s!"data config `{config.configId}` references missing algorithm `{algorithmId}`" := by
    apply flatMap_congr
    intro algorithmId hal
    rw [h.algorithms algorithmId hal]
  rw [dataConfigErrors,dataConfigErrors,ha,dataPointsErrors_congr h.points,
    h.connection,hasDevice,hasDevice,h.devices,hasSink,hasSink,h.uplinks]

end References

/-! ## The four requests -/

section Requests

variable {checks : PackageChecks} {pkg after : EdgeConfigPackage}

@[simp] theorem commandFlowErrors_eq_nil :
    commandFlowErrors (withCommandFlows checks) pkg flow = [] ↔
      (flow.protocolConnectionId ≠ "" → hasConnection pkg flow.protocolConnectionId = true) ∧
        hasSink pkg flow.mqttConnectionId = true ∧
        validateCommandFlow flow pkg.pointMappings = .ok () := by
  simp only [commandFlowErrors,append_eq_nil_iff,report_eq_nil,reportError_eq_nil,
    not_and,Bool.not_eq_false,Bool.not_eq_true',and_assoc]
  rfl

section

variable (h : Passes (withCommandFlows checks) pkg)

include h

theorem passes_deletePoint (ha : deleteEdgePointMapping pid pkg = .ok after) :
    Passes (withCommandFlows checks) after ↔
      (Deletion.pointMapping pid).sparesFlows pkg = true := by
  simp only [deleteEdgePointMapping,bind_eq_ok] at ha
  obtain ⟨_,ht,_,hc,_,-,remaining,hr,ha⟩ := ha
  rw [retainOthers_ok hr] at ha
  cases ha
  have ht := bailIf_eq_ok.mp ht
  have hc := bailIf_eq_ok.mp hc
  simp only [any_eq_true,decide_eq_true_eq,not_exists,not_and] at ht hc
  -- everything but the command flows looks at other points only
  have hf : (∀ flow ∈ pkg.commandFlows, commandFlowErrors (withCommandFlows checks)
      { pkg with pointMappings := pkg.pointMappings.filter fun mapping =>
        mapping.pointId ≠ pid } flow = []) ↔
      (Deletion.pointMapping pid).sparesFlows pkg = true := by
    simp only [Deletion.sparesFlows,all_eq_true,Bool.not_eq_true']
    apply forall₂_congr
    intro flow hfl
    obtain ⟨hco,hs,hv⟩ := commandFlowErrors_eq_nil.mp (h.commandFlows flow hfl)
    rw [commandFlowErrors_eq_nil,← validateCommandFlow_delete hv]
    exact ⟨fun hl => hl.2.2,fun hl => ⟨hco,hs,hl⟩⟩
  rw [← hf]
  constructor
  · exact Passes.commandFlows
  · intro hl
    constructor
    case connections => exact h.connections
    case uplinks => exact h.uplinks
    case mappings =>
      intro mapping hm
      exact h.mappings mapping (mem_filter.mp hm).1
    case tasks =>
      intro task hta
      rw [← h.tasks task hta]
      refine taskErrors_congr rfl ?_
      intro name hn
      exact lastWith_filter_ne (ht task hta name hn)
    case dataConfigs =>
      intro cfg hcg
      rw [← h.dataConfigs cfg hcg]
      apply dataConfigErrors_congr
      refine ⟨rfl,rfl,rfl,?_,fun _ _ => rfl⟩
      intro point hp
      exact lastWith_filter_ne (hc cfg hcg point hp)
    case commandFlows => exact hl

/-- A flow with a connection has a write node, whose point uses the connection too; so the
connection is not deleted. -/
theorem passes_deleteConnection (ha : deleteEdgeProtocolConnection connectionId pkg = .ok after) :
    Passes (withCommandFlows checks) after := by
  simp only [deleteEdgeProtocolConnection,bind_eq_ok] at ha
  obtain ⟨_,hm,_,hco,remaining,hr,ha⟩ := ha
  rw [retainOthers_ok hr] at ha
  cases ha
  have hm := bailIf_eq_ok.mp hm
  have hco := bailIf_eq_ok.mp hco
  simp only [any_eq_true,decide_eq_true_eq,not_exists,not_and] at hm hco
  constructor
  case connections =>
    intro conn hc
    exact h.connections conn (mem_filter.mp hc).1
  case uplinks => exact h.uplinks
  case mappings =>
    intro mapping hma
    rw [← h.mappings mapping hma,mappingErrors,mappingErrors,findConnection,
      lastWith_filter_ne (hm mapping hma)]
    rfl
  case tasks => exact h.tasks
  case dataConfigs =>
    intro cfg hcg
    rw [← h.dataConfigs cfg hcg]
    apply dataConfigErrors_congr
    refine ⟨rfl,rfl,?_,fun _ _ => rfl,fun _ _ => rfl⟩
    exact any_filter_ne (hco cfg hcg)
  case commandFlows =>
    intro flow hf
    obtain ⟨hc,hs,hv⟩ := commandFlowErrors_eq_nil.mp (h.commandFlows flow hf)
    refine commandFlowErrors_eq_nil.mpr ⟨?_,hs,hv⟩
    intro hn
    obtain ⟨mapping,hma,hu⟩ := exists_mapping_of_connection hv hn
    rw [hasConnection,any_filter_ne (hu ▸ hm mapping hma)]
    exact hc hn

theorem passes_deleteTask (ha : deleteEdgeCollectionTask taskId pkg = .ok after) :
    Passes (withCommandFlows checks) after := by
  simp only [deleteEdgeCollectionTask,bind_eq_ok] at ha
  obtain ⟨remaining,hr,ha⟩ := ha
  rw [retainOthers_ok hr] at ha
  cases ha
  refine ⟨h.connections,h.uplinks,h.mappings,?_,?_,h.commandFlows⟩
  · intro task ht
    exact h.tasks task (mem_filter.mp ht).1
  · intro cfg hc
    rw [← h.dataConfigs cfg hc]
    exact dataConfigErrors_congr ⟨rfl,rfl,rfl,fun _ _ => rfl,fun _ _ => rfl⟩

private theorem passes_deleteAlgorithm (ha : deleteEdgeAlgorithm algorithmId pkg = .ok after) :
    Passes (withCommandFlows checks) after := by
  simp only [deleteEdgeAlgorithm,bind_eq_ok] at ha
  obtain ⟨_,hc,remaining,hr,ha⟩ := ha
  rw [retainOthers_ok hr] at ha
  cases ha
  have hc := bailIf_eq_ok.mp hc
  simp only [any_eq_true,decide_eq_true_eq,not_exists,not_and] at hc
  refine ⟨h.connections,h.uplinks,h.mappings,h.tasks,?_,h.commandFlows⟩
  intro cfg hco
  rw [← h.dataConfigs cfg hco]
  apply dataConfigErrors_congr
  refine ⟨rfl,rfl,rfl,fun _ _ => rfl,?_⟩
  intro name hn
  exact any_filter_ne (hc cfg hco name hn)

end

theorem passes_renamed {checks : PackageChecks} (h : Passes checks pkg) (edge ver : String) :
    Passes checks { pkg with edgeId := edge, version := ver } := by
  refine ⟨h.connections,h.uplinks,h.mappings,h.tasks,?_,h.commandFlows⟩
  intro cfg hc
  rw [← h.dataConfigs cfg hc]
  exact dataConfigErrors_congr ⟨rfl,rfl,rfl,fun _ _ => rfl,fun _ _ => rfl⟩

private theorem passes_delete {deletion : Deletion} (h : Passes (withCommandFlows checks) pkg)
    (ha : deletion.edit pkg = .ok after) :
    Passes (withCommandFlows checks) after ↔ deletion.sparesFlows pkg = true := by
  cases deletion with
  | pointMapping pid => exact passes_deletePoint h ha
  | protocolConnection conn =>
    exact iff_of_true (passes_deleteConnection h ha) rfl
  | collectionTask taskId => exact iff_of_true (passes_deleteTask h ha) rfl
  | algorithm algorithmId => exact iff_of_true (passes_deleteAlgorithm h ha) rfl

end Requests

/-- A deletion that succeeds leaves a valid package valid when no command flow writes to what is
deleted, and only then. -/
theorem deletion_keeps_package_valid_iff (checks : PackageChecks) (store : CloudControlStore)
    (edgeId : String) (deletion : Deletion) (package after : EdgeConfigPackage)
    (hlatest : store.latestConfigPackageForEdge edgeId = some package)
    (hvalid : validatePackage (withCommandFlows checks) package = [])
    (hafter : editedPackage store edgeId deletion.edit = .ok after) :
    validatePackage (withCommandFlows checks) after = [] ↔ deletion.sparesFlows package = true := by
  rw [validatePackage_eq_nil] at hvalid
  simp only [editedPackage,hlatest,context_some,ok_bind,bind_eq_ok] at hafter
  obtain ⟨changed,hc,hafter⟩ := hafter
  cases hafter
  rw [← passes_delete hvalid hc,validatePackage_eq_nil]
  exact ⟨fun hp => passes_renamed hp changed.edgeId changed.version,fun hp => passes_renamed hp _ _⟩

def tankPackage : EdgeConfigPackage :=
  let valve := ApprovedPlan.valvePackage (ApprovedPlan.gatedFlow []) .boolean
  { valve with
    pointMappings := valve.pointMappings ++ valve.pointMappings.map fun mapping =>
      { mapping with pointId := "level", valueType := .float, access := .readOnly } }

def tankStore : CloudControlStore := CloudControlStore.empty.upsertConfigPackage tankPackage

def tankAfter (deletion : Deletion) : Option EdgeConfigPackage :=
  (editedPackage tankStore "edge-1" deletion.edit).toOption

theorem level_deletion_keeps_tank_valid : ∃ after, tankAfter (.pointMapping "level") = some after ∧
      validatePackage (withCommandFlows pumpChecks) after = [] := by
  have hd : (tankAfter (.pointMapping "level")).isSome = true := by decide +kernel
  obtain ⟨after,ha⟩ := Option.isSome_iff_exists.mp hd
  refine ⟨after,ha,?_⟩
  exact (deletion_keeps_package_valid_iff pumpChecks tankStore "edge-1"
    (.pointMapping "level") tankPackage after rfl (by decide +kernel)
    (toOption_eq_some.mp ha)).mpr (by decide +kernel)

/-- The valve goes although a command flow writes to it. -/
theorem valve_deletion_breaks_flow :
    validatePackage (withCommandFlows pumpChecks) tankPackage = [] ∧
      (tankAfter (.pointMapping "valve")).map (validatePackage (withCommandFlows pumpChecks)) =
        some [⟨"command flow valve-commands write node write references missing point valve"⟩] := by
  decide +kernel

end VelaEdge.Cloud.PackageDeletions
