import VelaEdge.Cloud.ControlPlane
import VelaEdge.Cloud.Gateway

/-! What a restart makes of a sequence of requests: the store that is rebuilt from the database
against the store in memory. -/
namespace VelaEdge.Cloud.Restart

open Base Core VelaEdge.Runtime ReleaseService ControlPlane Option Registry

inductive Operation where
  | createProject (request : Project)
  | saveProject (projectId : String) (request : Project)
  | deleteProject (projectId : String)
  | createPointSet (request : PointSet)
  | savePointSet (pointSetId : String) (request : PointSet)
  | deletePointSet (pointSetId : String)
  | createProduct (request : Product)
  | saveProduct (productId : String) (request : Product)
  | deleteProduct (productId : String)
  | createProductVersion (newId : String → Nat) (productId : String) (request : ProductVersion)
  | saveProductVersion (newId : String → Nat) (productId versionId : String)
      (request : ProductVersion)
  | deleteProductVersion (productId version : String)
  | transition (newId : String → Nat) (productId version : String) (rollback : Bool)
  | createEdgeNode (request : CreateEdgeNodeRequest) (token : IssuedToken) (releaseId : Nat)
  | bindEdgeProduct (releaseId : Nat) (edgeId : String) (request : BindEdgeProductRequest)
  | generateEdgeAccessToken (edgeId : String) (token : IssuedToken)
  | deleteEdgeNode (edgeId : String)
  /-- A runtime says hello, and the gateway registers its edge. -/
  | runtimeHello (session : Gateway.Session)
  | reportRuntimeMetrics (edgeId : String) (snapshot : EdgeRuntimeMetricsSnapshot)
  | editEdgeConfig (releaseId : Nat) (edgeId : String) (change : PackageEdit)
  | createRelease (releaseId : Nat) (package : EdgeConfigPackage)
  | publishLatestRelease (releaseId : Nat) (edgeId : String)
  | edgeReportedConfig (edgeId : String) (request : EdgeReportedConfigRequest)
  | persistConfigReport (edgeId expectedVersion : String) (report : EdgeLinkConfigReport)
  | createAgentChangeSet (draft : AgentChangeSet)
  | validateAgentChangeSet (changeSetId : String)
  | confirmAgentChangeSet (changeSetId : String) (caller : Caller) (coApprover note : Option String)
  | rejectAgentChangeSet (changeSetId : String) (caller : Caller) (note : String)
  | applyAgentChangeSet (newId : String → Nat) (changeSetId : String) (caller : Caller)
  | createAgentCommandCandidate (draft : AgentCommandCandidate) (caller : Caller)
  | requestAgentCommandCandidate (candidateId : String) (action : CandidateAction)
      (caller : Caller) (answer : Except String Unit)

variable (rules : Rules)

/-- The state after a request; `none` when the request is refused. -/
def apply (state : State) : Operation → Option State
  | .createProject request => (createProject state request).toOption
  | .saveProject projectId request => (saveProject state projectId request).toOption
  | .deleteProject projectId => (deleteProject state projectId).toOption
  | .createPointSet request => (createPointSet rules state request).toOption
  | .savePointSet pointSetId request => (savePointSet rules state pointSetId request).toOption
  | .deletePointSet pointSetId => (deletePointSet state pointSetId).toOption
  | .createProduct request => (createProduct rules state request).toOption
  | .saveProduct productId request => (saveProduct rules state productId request).toOption
  | .deleteProduct productId => (deleteProduct state productId).toOption
  | .createProductVersion newId productId request =>
    (createProductVersion rules state newId productId request).toOption
  | .saveProductVersion newId productId versionId request =>
    (saveProductVersion rules state newId productId versionId request).toOption
  | .deleteProductVersion productId version =>
    (deleteProductVersion state productId version).toOption
  | .transition newId productId version rollback =>
    (ControlPlane.transitionProductVersion rules state newId productId version rollback).toOption
  | .createEdgeNode request token releaseId =>
    (createEdgeNode rules state request token releaseId).toOption
  | .bindEdgeProduct releaseId edgeId request =>
    (ControlPlane.bindEdgeProduct rules state releaseId edgeId request).toOption
  | .generateEdgeAccessToken edgeId token => (generateEdgeAccessToken state edgeId token).toOption
  | .deleteEdgeNode edgeId => (deleteEdgeNode state edgeId).toOption
  | .runtimeHello session => some (state.saveEdgeNode
      (Gateway.discoveredNode session (state.core.edgeNodes.get session.edgeId)))
  | .reportRuntimeMetrics edgeId snapshot => (reportRuntimeMetrics state edgeId snapshot).toOption
  | .editEdgeConfig releaseId edgeId change =>
    (ControlPlane.editEdgeConfig rules state releaseId edgeId change).toOption
  | .createRelease releaseId package =>
    some (ControlPlane.persistConfigPackage rules state releaseId package)
  | .publishLatestRelease releaseId edgeId =>
    (ControlPlane.publishLatestReleaseForEdgeId rules state releaseId edgeId).toOption
  | .edgeReportedConfig edgeId request =>
    (ControlPlane.edgeReportedConfig state edgeId request).toOption
  | .persistConfigReport edgeId expectedVersion report =>
    (ControlPlane.persistConfigReport state edgeId expectedVersion report).toOption
  | .createAgentChangeSet draft => (createAgentChangeSet rules state draft).toOption
  | .validateAgentChangeSet changeSetId => (validateAgentChangeSet rules state changeSetId).toOption
  | .confirmAgentChangeSet changeSetId caller coApprover note =>
    (confirmAgentChangeSet rules state changeSetId caller coApprover note).toOption
  | .rejectAgentChangeSet changeSetId caller note =>
    (rejectAgentChangeSet rules state changeSetId caller note).toOption
  | .applyAgentChangeSet newId changeSetId caller =>
    (applyAgentChangeSet rules state newId changeSetId caller).toOption
  | .createAgentCommandCandidate draft caller =>
    createAgentCommandCandidate rules state draft caller
  | .requestAgentCommandCandidate candidateId action caller answer =>
    requestAgentCommandCandidate rules state candidateId action caller answer

def run (operations : List Operation) : Option State :=
  operations.foldlM (apply rules) .initial

/-- A project is deleted only when no change set is aimed at it. -/
def Operation.leavesNoChangeSet (memory : MemoryStore) : Operation → Bool
  | .deleteProject projectId => memory.agentChangeSets.values.all fun changeSet =>
    changeSet.target.projectId ≠ projectId
  | _ => true

def cleanRun : State → List Operation → Bool
  | _, [] => true
  | state, operation :: operations => operation.leavesNoChangeSet state.memory &&
      (apply rules state operation).all fun next => cleanRun next operations

def InSync (state : State) : Prop := Synced state.memory state.sqlite

variable {rules} {state after : State} {ver : String}

namespace InSync

theorem initial : InSync .initial := Synced.empty

section

variable (h : InSync state)

include h

theorem transition
    (ha : ControlPlane.transitionProductVersion rules state newId prod ver rollback = .ok after) :
    InSync after := by
  obtain ⟨⟨target,plan⟩,-,ha⟩ := bind_eq_ok.mp ha
  cases plan with
  | none =>
    cases ha
    exact h
  | some plan =>
    cases ha
    exact Synced.transition h plan

theorem saveProductVersion (ver : ProductVersion) : InSync (state.saveProductVersion ver) :=
  Synced.upsertProductVersion h ver

theorem saveEdgeNode (node : EdgeNode) : InSync (state.saveEdgeNode node) :=
  Synced.upsertEdgeNode h node

theorem saveChangeSet (cs : AgentChangeSet) : InSync (state.saveChangeSet cs) :=
  Synced.upsertAgentChangeSet h cs

theorem saveCandidate (ha : (state.saveCandidate cand).toOption = some after) : InSync after := by
  rw [toOption_eq_some] at ha
  obtain ⟨sqlite,hs,ha⟩ := bind_eq_ok.mp ha
  cases ha
  exact Synced.upsertAgentCommandCandidate h hs

theorem persistConfigPackage (rules : Rules) (rid : Nat) (pkg : EdgeConfigPackage) :
    InSync (ControlPlane.persistConfigPackage rules state rid pkg) :=
  Synced.applyConfigRevision h _

end

end InSync

/-! ## Catalogue -/

section

variable (h : InSync state)

include h

theorem createProject_inSync {req : Project}
    (ha : createProject state req = .ok after) : InSync after := by
  simp only [createProject,bind_eq_ok] at ha
  obtain ⟨_,-,_,-,ha⟩ := ha
  cases ha
  exact Synced.upsertProject h _

theorem saveProject_inSync {req : Project}
    (ha : saveProject state proj req = .ok after) : InSync after := by
  simp only [saveProject,bind_eq_ok] at ha
  obtain ⟨_,-,_,-,_,-,ha⟩ := ha
  cases ha
  exact Synced.upsertProject h _

theorem deleteProject_inSync (hn : ∀ cs ∈ state.memory.agentChangeSets.values,
      cs.target.projectId ≠ proj) (ha : deleteProject state proj = .ok after) :
    InSync after := by
  simp only [deleteProject,bind_eq_ok,bailIf_eq_ok,isNone_iff_eq_none] at ha
  obtain ⟨_,hp,_,-,ha⟩ := ha
  cases ha
  obtain ⟨project,hp⟩ := ne_none_iff_exists'.mp hp
  exact Synced.deleteProject h hp hn

theorem createPointSet_inSync {req : PointSet}
    (ha : createPointSet rules state req = .ok after) : InSync after := by
  simp only [createPointSet,bind_eq_ok] at ha
  obtain ⟨_,-,_,-,_,-,ha⟩ := ha
  cases ha
  exact Synced.upsertPointSet h _

theorem savePointSet_inSync {req : PointSet}
    (ha : savePointSet rules state sid req = .ok after) : InSync after := by
  simp only [savePointSet,bind_eq_ok] at ha
  obtain ⟨_,-,_,-,_,-,_,-,ha⟩ := ha
  cases ha
  exact Synced.upsertPointSet h _

theorem deletePointSet_inSync (ha : deletePointSet state sid = .ok after) : InSync after := by
  simp only [deletePointSet,bind_eq_ok] at ha
  obtain ⟨_,-,_,-,ha⟩ := ha
  cases ha
  exact Synced.deletePointSet h sid

theorem createProduct_inSync {req : Product}
    (ha : createProduct rules state req = .ok after) : InSync after := by
  simp only [createProduct,bind_eq_ok] at ha
  obtain ⟨_,-,_,-,_,-,ha⟩ := ha
  cases ha
  exact Synced.upsertProduct h _

theorem saveProduct_inSync {req : Product}
    (ha : saveProduct rules state prod req = .ok after) : InSync after := by
  simp only [saveProduct,bind_eq_ok] at ha
  obtain ⟨_,-,_,-,_,-,_,-,ha⟩ := ha
  cases ha
  exact Synced.upsertProduct h _

theorem deleteProduct_inSync (ha : deleteProduct state prod = .ok after) : InSync after := by
  simp only [deleteProduct,bind_eq_ok,context_eq_ok] at ha
  obtain ⟨product,hp,_,-,ha⟩ := ha
  cases ha
  exact Synced.deleteProduct h hp

/-! ## Versions -/

theorem storeProductVersion_inSync {ver : ProductVersion}
    (ha : storeProductVersion rules state newId ver = .ok after) : InSync after := by
  unfold storeProductVersion at ha
  dsimp only at ha
  split at ha
  · cases ha
    exact h.saveProductVersion ver
  · exact (h.saveProductVersion ver).transition ha

variable {req : ProductVersion}

theorem createProductVersion_inSync
    (ha : createProductVersion rules state newId prod req = .ok after) : InSync after := by
  obtain ⟨_,-,ha⟩ := bind_eq_ok.mp ha
  exact storeProductVersion_inSync h ha

theorem saveProductVersion_inSync
    (ha : saveProductVersion rules state newId prod versionId req = .ok after) :
    InSync after := by
  obtain ⟨_,-,ha⟩ := bind_eq_ok.mp ha
  exact storeProductVersion_inSync h ha

theorem deleteProductVersion_inSync (ha : deleteProductVersion state prod ver = .ok after) :
    InSync after := by
  obtain ⟨_,-,ha⟩ := bind_eq_ok.mp ha
  cases ha
  exact Synced.deleteProductVersion h prod ver

end

/-! ## Packages and releases -/

@[simp] theorem persistConfigPackage_started (rid : Nat) (pkg : EdgeConfigPackage) :
    ControlPlane.persistConfigPackage rules
        (state.withCore (state.core.upsertConfigPackage pkg)) rid pkg =
      ControlPlane.persistConfigPackage rules state rid pkg := by
  have hm : pkg ∈ (state.memory.configPackages.insert pkg).values :=
    mem_values_insert.mpr (.inl rfl)
  have ha := insert_of_mem hm
  simp only [ControlPlane.persistConfigPackage,planRevision,State.core,State.withCore]
  cases prepareRelease rules.checks rid pkg with
  | error errors =>
    simp only [ConfigRevision.apply,CloudControlStore.upsertConfigPackage]
    rw [ha]
  | ok rel =>
    simp only [ConfigRevision.apply,CloudControlStore.upsertConfigPackage]
    rw [ha]
    rfl

section

variable (h : InSync state)

include h

theorem editEdgeConfig_inSync {change : PackageEdit}
    (ha : ControlPlane.editEdgeConfig rules state rid edge change = .ok after) :
    InSync after := by
  obtain ⟨⟨pkg,started⟩,hs,ha⟩ := bind_eq_ok.mp ha
  obtain ⟨-,rfl⟩ := startEdit_ok hs
  cases ha
  rw [persistConfigPackage_started]
  exact h.persistConfigPackage rules rid pkg

theorem publishLatestRelease_inSync
    (ha : ControlPlane.publishLatestReleaseForEdgeId rules state rid edge =
      .ok after) : InSync after := by
  simp only [ControlPlane.publishLatestReleaseForEdgeId,bind_eq_ok,context_eq_ok] at ha
  obtain ⟨pkg,hpa,rel,-,ha⟩ := ha
  cases ha
  have hm : pkg ∈ state.memory.configPackages.values := (List.mem_filter.mp (maxBy_spec hpa).1).1
  have hp : Mirrors Format.configPackage state.sqlite.configPackages
      (state.memory.configPackages.insert pkg) := by
    rw [insert_of_mem hm]
    exact h.configPackages
  exact { Synced.insertRelease h rel with configPackages := hp }

theorem reportRelease_inSync {missing : ε}
    (ha : reportRelease state edge rid ver missing = .ok after) : InSync after := by
  simp only [reportRelease,bind_eq_ok,context_eq_ok,markReported,map_eq_some_iff] at ha
  obtain ⟨_,⟨rel,hre,rfl⟩,ha⟩ := ha
  obtain rfl := key_of_get hre
  have hr := Synced.markReleaseReported h hre ver
  dsimp only at ha
  split at ha
  · split at ha
    · cases ha
      exact hr
    · cases ha
      exact Synced.upsertEdgeNode hr _
  · cases ha
    exact hr

theorem edgeReportedConfig_inSync {req : EdgeReportedConfigRequest}
    (ha : ControlPlane.edgeReportedConfig state edge req = .ok after) : InSync after := by
  simp only [ControlPlane.edgeReportedConfig,bind_eq_ok] at ha
  obtain ⟨rel,-,ha⟩ := ha
  exact reportRelease_inSync h ha

theorem persistConfigReport_inSync {rep : EdgeLinkConfigReport}
    (ha : ControlPlane.persistConfigReport state edge expectedVersion rep = .ok after) :
    InSync after := by
  simp only [ControlPlane.persistConfigReport,bind_eq_ok] at ha
  obtain ⟨_,-,ha⟩ := ha
  split at ha
  · cases ha
    exact h
  · exact reportRelease_inSync h ha

/-! ## Edges -/

theorem replaceEdgeCredential_inSync (cred : EdgeAccessCredential) :
    InSync ⟨state.memory.replaceEdgeCredential cred,state.sqlite.replaceEdgeCredential cred⟩ :=
  Synced.replaceEdgeCredential h cred

theorem createEdgeNode_inSync {req : CreateEdgeNodeRequest}
    (ha : createEdgeNode rules state req token rid = .ok after) : InSync after := by
  obtain ⟨⟨node,pkg⟩,-,ha⟩ := bind_eq_ok.mp ha
  cases ha
  -- the writes touch different parts, so that they can be taken in another order
  have hp := (h.saveEdgeNode node).persistConfigPackage rules rid pkg
  rw [← persistConfigPackage_started] at hp
  exact replaceEdgeCredential_inSync hp _

end

variable {req : BindEdgeProductRequest}

section

variable (h : InSync state)

include h

theorem bindEdgeProduct_inSync
    (ha : ControlPlane.bindEdgeProduct rules state rid edge req = .ok after) :
    InSync after := by
  obtain ⟨⟨node,pkg⟩,-,ha⟩ := bind_eq_ok.mp ha
  cases ha
  have hp := (h.saveEdgeNode node).persistConfigPackage rules rid pkg
  rw [← persistConfigPackage_started] at hp
  exact hp

theorem generateEdgeAccessToken_inSync
    (ha : generateEdgeAccessToken state edge token = .ok after) : InSync after := by
  simp only [generateEdgeAccessToken,bind_eq_ok] at ha
  obtain ⟨_,-,ha⟩ := ha
  cases ha
  exact replaceEdgeCredential_inSync h _

theorem deleteEdgeNode_inSync (ha : deleteEdgeNode state edge = .ok after) : InSync after := by
  simp only [deleteEdgeNode,checkRemovable,bind_eq_ok,bailIf_eq_ok,isNone_iff_eq_none] at ha
  obtain ⟨_,⟨_,hn,-⟩,ha⟩ := ha
  cases ha
  obtain ⟨node,hn⟩ := ne_none_iff_exists'.mp hn
  exact Synced.deleteEdgeNode h hn

theorem reportRuntimeMetrics_inSync
    (ha : reportRuntimeMetrics state edge snapshot = .ok after) : InSync after := by
  simp only [reportRuntimeMetrics,bind_eq_ok] at ha
  obtain ⟨_,-,ha⟩ := ha
  cases ha
  exact Synced.upsertRuntimeMetrics h snapshot

/-! ## Agent requests -/

theorem createAgentChangeSet_inSync {draft : AgentChangeSet}
    (ha : createAgentChangeSet rules state draft = .ok after) : InSync after := by
  simp only [createAgentChangeSet,bind_eq_ok] at ha
  obtain ⟨_,-,_,-,_,-,cs,-,ha⟩ := ha
  cases ha
  exact h.saveChangeSet cs

theorem validateAgentChangeSet_inSync
    (ha : validateAgentChangeSet rules state changeSetId = .ok after) : InSync after := by
  simp only [validateAgentChangeSet,bind_eq_ok] at ha
  obtain ⟨_,-,cs,-,ha⟩ := ha
  cases ha
  exact h.saveChangeSet cs

theorem confirmAgentChangeSet_inSync
    (ha : confirmAgentChangeSet rules state changeSetId caller coApprover note = .ok after) :
    InSync after := by
  simp only [confirmAgentChangeSet,bind_eq_ok] at ha
  obtain ⟨_,-,⟨reviewed,_⟩,-,ha⟩ := ha
  cases ha
  exact h.saveChangeSet reviewed

theorem rejectAgentChangeSet_inSync
    (ha : rejectAgentChangeSet rules state changeSetId caller note = .ok after) : InSync after := by
  simp only [rejectAgentChangeSet,bind_eq_ok] at ha
  obtain ⟨_,-,rejected,-,ha⟩ := ha
  cases ha
  exact h.saveChangeSet rejected

theorem applyAgentChangeSet_inSync
    (ha : applyAgentChangeSet rules state newId changeSetId caller = .ok after) : InSync after := by
  simp only [applyAgentChangeSet,bind_eq_ok] at ha
  obtain ⟨_,-,⟨next,found⟩,-,ha⟩ := ha
  cases found with
  | none =>
    cases ha
    exact h.saveChangeSet next
  | some ver =>
    have hs := (h.saveChangeSet next).saveProductVersion ver
    dsimp only at ha
    split at ha
    · obtain ⟨failed,-,ha⟩ := bind_eq_ok.mp ha
      cases ha
      exact hs.saveChangeSet failed
    · next published hp =>
      obtain ⟨applied,-,ha⟩ := bind_eq_ok.mp ha
      cases ha
      exact (hs.transition hp).saveChangeSet applied

theorem createAgentCommandCandidate_inSync {draft : AgentCommandCandidate}
    (ha : createAgentCommandCandidate rules state draft caller = some after) : InSync after := by
  unfold createAgentCommandCandidate at ha
  split at ha
  · cases ha
    exact h
  · split at ha
    · exact h.saveCandidate ha
    · cases ha

variable {answer : Except String Unit}

private theorem finishDispatch_inSync
    (ha : finishDispatch rules state dispatch caller answer = some after) : InSync after := by
  simp only [finishDispatch,bind_eq_bind,bind_eq_some_iff] at ha
  obtain ⟨started,hs,ha⟩ := ha
  have hsy := h.saveCandidate hs
  split at ha
  · exact hsy.saveCandidate ha
  · cases ha
    exact hsy

private theorem requestAgentCommandCandidate_inSync {cid : String}
    (ha : requestAgentCommandCandidate rules state cid action caller answer = some after) :
    InSync after := by
  simp only [requestAgentCommandCandidate,bind_eq_bind,bind_eq_some_iff] at ha
  obtain ⟨stored,-,ha⟩ := ha
  split at ha
  · exact h.saveCandidate ha
  · exact finishDispatch_inSync h ha
  · cases ha

/-! ## Whole runs -/

private theorem apply_inSync {op : Operation} (hc : op.leavesNoChangeSet state.memory = true)
    (ha : apply rules state op = some after) : InSync after := by
  have hok {ε : Type} {out : Except ε State} (ho : out.toOption = some after) : out = .ok after :=
    toOption_eq_some.mp ho
  cases op with
  | createProject req => exact createProject_inSync h (hok ha)
  | saveProject proj req => exact saveProject_inSync h (hok ha)
  | deleteProject proj =>
    refine deleteProject_inSync h ?_ (hok ha)
    simpa [Operation.leavesNoChangeSet] using hc
  | createPointSet req => exact createPointSet_inSync h (hok ha)
  | savePointSet sid req => exact savePointSet_inSync h (hok ha)
  | deletePointSet sid => exact deletePointSet_inSync h (hok ha)
  | createProduct req => exact createProduct_inSync h (hok ha)
  | saveProduct prod req => exact saveProduct_inSync h (hok ha)
  | deleteProduct prod => exact deleteProduct_inSync h (hok ha)
  | createProductVersion newId prod req => exact createProductVersion_inSync h (hok ha)
  | saveProductVersion newId prod versionId req => exact saveProductVersion_inSync h (hok ha)
  | deleteProductVersion prod ver => exact deleteProductVersion_inSync h (hok ha)
  | transition newId prod ver rollback => exact h.transition (hok ha)
  | createEdgeNode req token rid => exact createEdgeNode_inSync h (hok ha)
  | bindEdgeProduct rid edge req => exact bindEdgeProduct_inSync h (hok ha)
  | generateEdgeAccessToken edge token => exact generateEdgeAccessToken_inSync h (hok ha)
  | deleteEdgeNode edge => exact deleteEdgeNode_inSync h (hok ha)
  | runtimeHello session =>
    cases ha
    exact h.saveEdgeNode _
  | reportRuntimeMetrics edge snapshot => exact reportRuntimeMetrics_inSync h (hok ha)
  | editEdgeConfig rid edge change => exact editEdgeConfig_inSync h (hok ha)
  | createRelease rid pkg =>
    cases ha
    exact h.persistConfigPackage rules rid pkg
  | publishLatestRelease rid edge => exact publishLatestRelease_inSync h (hok ha)
  | edgeReportedConfig edge req => exact edgeReportedConfig_inSync h (hok ha)
  | persistConfigReport edge expectedVersion rep => exact persistConfigReport_inSync h (hok ha)
  | createAgentChangeSet draft => exact createAgentChangeSet_inSync h (hok ha)
  | validateAgentChangeSet changeSetId => exact validateAgentChangeSet_inSync h (hok ha)
  | confirmAgentChangeSet changeSetId caller coApprover note =>
    exact confirmAgentChangeSet_inSync h (hok ha)
  | rejectAgentChangeSet changeSetId caller note => exact rejectAgentChangeSet_inSync h (hok ha)
  | applyAgentChangeSet newId changeSetId caller => exact applyAgentChangeSet_inSync h (hok ha)
  | createAgentCommandCandidate draft caller => exact createAgentCommandCandidate_inSync h ha
  | requestAgentCommandCandidate cid action caller answer =>
    exact requestAgentCommandCandidate_inSync h ha

private theorem foldlM_inSync (hc : cleanRun rules state ops = true)
    (ha : ops.foldlM (apply rules) state = some after) : InSync after := by
  induction ops generalizing state with
  | nil =>
    cases ha
    exact h
  | cons op ops ih =>
    rw [List.foldlM_cons,bind_eq_bind,bind_eq_some_iff] at ha
    obtain ⟨next,hn,ha⟩ := ha
    rw [cleanRun,Bool.and_eq_true,hn,all_some] at hc
    exact ih (apply_inSync h hc.1 hn) hc.2 ha

end

/-- After every run in which a project is deleted only when no change set is aimed at it, the
store rebuilt from the database is the store in memory. -/
theorem restart_restores_store (rules : Rules) (operations : List Operation) (state : State)
    (hclean : cleanRun rules .initial operations = true)
    (hrun : run rules operations = some state) :
    hydrateFromSqlite state.sqlite = state.memory :=
  (foldlM_inSync .initial hclean hrun).hydrate_eq

/-! ## A project with a change set -/

def plant : Project := ⟨"plant","Plant","production","operations",""⟩

def operator : Caller := ⟨"operator",0,"nonce"⟩

def pumpRules : Rules where
  checks := ReleaseHistory.pumpChecks
  versionChecks _ _ _ := .ok ()
  decodeVersion document :=
    context ((document.stringAt "version").map ReleaseHistory.pumpVersion) "missing field"
  ext := ApprovedPlan.valveExternals .null
  validatePointSetRequest _ := .ok ()
  validateProductRequest _ := .ok ()

def pumpChange : AgentChangeSet where
  changeSetId := "change-1"
  target := ⟨"plant",some "pump",some "2.0.0",[]⟩
  baseRevision := "1.0.0"
  operations := [⟨"operation-1",.create,.productVersion,"pump:2.0.0",none,
    some (.object [("version",.string "2.0.0")])⟩]
  risk := .low
  status := .draft
  validation := none
  confirmation := none
  result := none

def pumpHistory : List Operation := [.createProject plant,.createPointSet ReleaseHistory.pumpPoints,
    .createProduct ⟨"pump","plant",none⟩,
    .createProductVersion (fun _ => 0) "pump" (ReleaseHistory.pumpVersion "1.0.0"),
    .createAgentChangeSet pumpChange,
    .createEdgeNode ⟨none,none,none,some "pump"⟩ ⟨1,"first",0⟩ 1,
    .confirmAgentChangeSet "change-1" operator none none,
    .applyAgentChangeSet (fun _ => 2) "change-1" operator,
    .edgeReportedConfig "edge-draft-1" ⟨"2.0.0",none⟩,
    .generateEdgeAccessToken "edge-draft-1" ⟨2,"second",1⟩,
    .deleteEdgeNode "edge-draft-1",
    .createProject { plant with projectId := "lab" },.deleteProject "lab"]

theorem pump_history_survives_restart : ∃ state, run pumpRules pumpHistory = some state ∧
    hydrateFromSqlite state.sqlite = state.memory := by
  have hr : (run pumpRules pumpHistory).isSome = true := by decide +kernel
  obtain ⟨state,hs⟩ := isSome_iff_exists.mp hr
  exact ⟨state,hs,restart_restores_store pumpRules pumpHistory state (by decide +kernel) hs⟩

/-- The product of a change set goes, then the project: memory drops the change set with the
project, the database keeps its row, and the restart brings it back. -/
theorem deleted_change_set_resurrected :
    (run pumpRules [.createProject plant,.createProduct ⟨"pump","plant",none⟩,
        .createAgentChangeSet { pumpChange with baseRevision := "none" },.deleteProduct "pump",
        .deleteProject "plant"]).any (fun state =>
      (state.memory.agentChangeSets.get "change-1").isNone &&
        ((hydrateFromSqlite state.sqlite).agentChangeSets.get "change-1").isSome) = true := by
  decide +kernel

end VelaEdge.Cloud.Restart
