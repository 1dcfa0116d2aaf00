import VelaEdge.Cloud.CommandApproval
import VelaEdge.Cloud.Persistence

/-! The requests of the control plane, each with what it writes to the store and what it writes to
the database. -/
namespace VelaEdge.Cloud.ControlPlane

open Base Core VelaEdge.Runtime ReleaseService Text CommandApproval

structure State where
  memory : MemoryStore
  sqlite : SqliteCloudStore

def State.initial : State := ⟨.empty,.empty⟩

structure Caller where
  actor : String
  now : Time
  nonce : String

structure Rules extends VersionRules where
  ext : Externals
  validatePointSetRequest : PointSet → Except ApiError Unit
  validateProductRequest : Product → Except ApiError Unit

namespace State

variable (state : State)

def core : CloudControlStore := state.memory.toCloudControlStore

def withCore (store : CloudControlStore) : State :=
  { state with memory := { state.memory with toCloudControlStore := store } }

def saveProductVersion (version : ProductVersion) : State where
  memory := { state.memory with productVersions := state.memory.productVersions.insert version }
  sqlite := state.sqlite.upsertProductVersion version

def saveEdgeNode (node : EdgeNode) : State where
  memory := { state.memory with edgeNodes := state.memory.edgeNodes.insert node }
  sqlite := state.sqlite.upsertEdgeNode node

def saveChangeSet (changeSet : AgentChangeSet) : State where
  memory := { state.memory with agentChangeSets := state.memory.agentChangeSets.insert changeSet }
  sqlite := state.sqlite.upsertAgentChangeSet changeSet

def saveCandidate (candidate : AgentCommandCandidate) : Except ApiError State := do
  let sqlite ← state.sqlite.upsertAgentCommandCandidate candidate
  pure {
    memory := { state.memory with
      agentCommandCandidates := state.memory.agentCommandCandidates.insert candidate }
    sqlite := sqlite }

end State

/-! ## Projects, point sets and products -/

def validateRequiredText (label value : String) : Except ApiError Unit :=
  bailIf (isBlank value) ⟨.badRequest,s!"{label} is required"⟩

def validateProjectRequest (request : Project) : Except ApiError Unit := do
  validateCatalogId "projectId" request.projectId
  validateRequiredText "name" request.name
  validateRequiredText "environment" request.environment
  validateRequiredText "owner" request.owner

def buildProject (request : Project) : Project where
  projectId := request.projectId
  name := trim request.name
  environment := trim request.environment
  owner := trim request.owner
  description := trim request.description

def persistProject (state : State) (project : Project) : State where
  memory := { state.memory with projects := state.memory.projects.insert project }
  sqlite := state.sqlite.upsertProject project

def createProject (state : State) (request : Project) : Except ApiError State := do
  validateProjectRequest request
  bailIf (state.memory.projects.get request.projectId).isSome
    ⟨.conflict,"project already exists"⟩
  pure (persistProject state (buildProject request))

def saveProject (state : State) (projectId : String) (request : Project) :
    Except ApiError State := do
  bailIf (request.projectId ≠ projectId) ⟨.badRequest,"project id does not match path"⟩
  validateProjectRequest request
  let _ ← context (state.memory.projects.get projectId) ⟨.notFound,"missing project"⟩
  pure (persistProject state (buildProject request))

def deleteProject (state : State) (projectId : String) : Except ApiError State := do
  bailIf (state.memory.projects.get projectId).isNone ⟨.notFound,"missing project"⟩
  bailIf ((state.memory.pointSets.values.any fun pointSet => pointSet.projectId = projectId) ||
      (state.memory.products.values.any fun product => product.projectId = projectId))
    ⟨.conflict,"project still owns point sets or products"⟩
  pure ⟨state.memory.removeProject projectId,state.sqlite.deleteProject projectId⟩

def ensureProjectExists (memory : MemoryStore) (projectId : String) : Except ApiError Unit :=
  bailIf (memory.projects.get projectId).isNone ⟨.notFound,"missing project"⟩

variable (rules : Rules) (state : State)

def persistPointSet (pointSet : PointSet) : State where
  memory := { state.memory with pointSets := state.memory.pointSets.insert pointSet }
  sqlite := state.sqlite.upsertPointSet pointSet

def createPointSet (request : PointSet) : Except ApiError State := do
  rules.validatePointSetRequest request
  ensureProjectExists state.memory request.projectId
  bailIf (state.memory.pointSets.get request.pointSetId).isSome
    ⟨.conflict,"point set already exists"⟩
  pure (persistPointSet state request)

def savePointSet (pointSetId : String) (request : PointSet) : Except ApiError State := do
  bailIf (request.pointSetId ≠ pointSetId) ⟨.badRequest,"point set id does not match path"⟩
  rules.validatePointSetRequest request
  ensureProjectExists state.memory request.projectId
  let _ ← context (state.memory.pointSets.get pointSetId) ⟨.notFound,"missing point set"⟩
  pure (persistPointSet state request)

def deletePointSet (pointSetId : String) : Except ApiError State := do
  bailIf (state.memory.pointSets.get pointSetId).isNone ⟨.notFound,"missing point set"⟩
  bailIf (state.memory.productVersions.values.any fun version => pointSetId ∈ version.pointSetIds)
    ⟨.conflict,"point set is referenced by a product version"⟩
  pure ⟨state.memory.removePointSet pointSetId,state.sqlite.deletePointSet pointSetId⟩

def persistProduct (product : Product) : State where
  memory := { state.memory with products := state.memory.products.insert product }
  sqlite := state.sqlite.upsertProduct product

def createProduct (request : Product) : Except ApiError State := do
  rules.validateProductRequest request
  ensureProjectExists state.memory request.projectId
  bailIf (state.memory.products.get request.productId).isSome
    ⟨.conflict,"product already exists"⟩
  pure (persistProduct state { request with latestVersion := none })

def saveProduct (productId : String) (request : Product) : Except ApiError State := do
  bailIf (request.productId ≠ productId) ⟨.badRequest,"product id does not match path"⟩
  rules.validateProductRequest request
  ensureProjectExists state.memory request.projectId
  let existing ← context (state.memory.products.get productId) ⟨.notFound,"missing product"⟩
  pure (persistProduct state { request with latestVersion := existing.latestVersion })

def deleteProduct (productId : String) : Except ApiError State := do
  let _ ← context (state.memory.products.get productId) ⟨.notFound,"missing product"⟩
  bailIf (state.memory.edgeNodes.values.any fun edge => edge.productId = some productId)
    ⟨.conflict,"product bound to an edge cannot be deleted"⟩
  pure ⟨state.memory.removeProduct productId,state.sqlite.deleteProduct productId⟩

/-! ## Product versions -/

def transitionProductVersion (newId : String → Nat) (productId targetVersion : String)
    (rollback : Bool) : Except ApiError State := do
  let (_,plan) ← planTransition rules.checks state.core newId productId targetVersion rollback
  match plan with
  | none => pure state
  | some plan =>
    pure {
      memory := (state.withCore (plan.apply state.core)).memory
      sqlite := state.sqlite.transitionProductVersion plan }

/-- A version that is complete is published as soon as it is stored. -/
def storeProductVersion (newId : String → Nat) (version : ProductVersion) : Except ApiError State :=
  let stored := state.saveProductVersion version
  match validatePublishableProductVersion version with
  | .error _ => .ok stored
  | .ok () => transitionProductVersion rules stored newId version.productId version.version false

section Versions

variable (rules : VersionRules) (store : CloudControlStore)

def createdVersion (productId : String) (request : ProductVersion) :
    Except ApiError ProductVersion := do
  validateProductVersionRequest rules.versionChecks store productId request false
  pure (buildProductVersion productId request)

def savedVersion (productId versionId : String) (request : ProductVersion) :
    Except ApiError ProductVersion := do
  bailIf (request.version ≠ versionId) ⟨.badRequest,"product version does not match path"⟩
  validateProductVersionRequest rules.versionChecks store productId request true
  let existing ← context (store.productVersion productId versionId)
    ⟨.notFound,"missing product version"⟩
  bailIf (existing.status ≠ .draft)
    ⟨.conflict,"published or retired product version is immutable"⟩
  pure (buildProductVersion productId request)

def checkDeletable (productId version : String) : Except ApiError Unit := do
  let candidate ← context (store.productVersion productId version)
    ⟨.notFound,"missing product version"⟩
  bailIf (candidate.status ≠ .draft) ⟨.conflict,"only draft product versions can be deleted"⟩

end Versions

def createProductVersion (newId : String → Nat) (productId : String) (request : ProductVersion) :
    Except ApiError State := do
  let version ← createdVersion rules.toVersionRules state.core productId request
  storeProductVersion rules state newId version

def saveProductVersion (newId : String → Nat) (productId versionId : String)
    (request : ProductVersion) : Except ApiError State := do
  let version ← savedVersion rules.toVersionRules state.core productId versionId request
  storeProductVersion rules state newId version

def deleteProductVersion (productId version : String) : Except ApiError State := do
  checkDeletable state.core productId version
  pure ⟨state.memory.removeProductVersion productId version,
    state.sqlite.deleteProductVersion productId version⟩

/-! ## Packages and releases -/

def persistConfigPackage (releaseId : Nat) (package : EdgeConfigPackage) : State :=
  let revision := planRevision rules.checks state.core releaseId package
  { memory := (state.withCore (revision.apply state.core)).memory
    sqlite := state.sqlite.applyConfigRevision revision }

/-- The edited package is in memory before it is persisted. -/
def editEdgeConfig (releaseId : Nat) (edgeId : String) (change : PackageEdit) :
    Except ApiError State := do
  let (package,started) ← startEdit state.core edgeId change
  pure (persistConfigPackage rules (state.withCore started) releaseId package)

def publishLatestReleaseForEdgeId (releaseId : Nat) (edgeId : String) : Except ApiError State := do
  let package ← context (state.core.latestConfigPackageForEdge edgeId)
    ⟨.notFound,"missing edge config package"⟩
  let release ← (prepareRelease rules.checks releaseId package).mapError releaseError
  -- the package is put back under its own key; the database has it already
  pure {
    memory := (state.withCore ((state.core.upsertConfigPackage package).insertRelease
      release)).memory
    sqlite := state.sqlite.insertRelease release }

def reportRelease {ε : Type} (state : State) (edgeId : String) (releaseId : Nat)
    (version : String) (missing : ε) : Except ε State := do
  let (updated,store) ← context (markReported state.core releaseId version) missing
  let reported : State := {
    memory := (state.withCore store).memory
    sqlite := state.sqlite.markReleaseReported releaseId version }
  if updated.status = .applied then
    match store.edgeNodes.get edgeId with
    | none => pure reported
    | some node => pure (reported.saveEdgeNode { node with reportedProductVersion := some version })
  else pure reported

def edgeReportedConfig (edgeId : String) (request : EdgeReportedConfigRequest) :
    Except ApiError State := do
  let release ← reportedRelease (releasesWith state.core edgeId .pending) request
  reportRelease state edgeId release.releaseId request.reportedVersion
    ⟨.notFound,"missing release for edge"⟩

def persistConfigReport (edgeId expectedVersion : String) (report : EdgeLinkConfigReport) :
    Except String State := do
  bailIf (report.desiredVersion ≠ expectedVersion)
    s!"config report desired version {report.desiredVersion} does not match deployed version {
      expectedVersion}"
  match reportableRelease state.core edgeId report.desiredVersion with
  | none => pure state
  | some release =>
    reportRelease state edgeId release.releaseId report.reportedVersion
      "pending release disappeared before config report was applied"

/-! ## Edges -/

def edgeName (number : Nat) : String := s!"edge-draft-{number}"

/-- The first free name from a number on; there are fewer edges than names to try. -/
def firstFreeEdgeId (edges : List EdgeNode) (next : Nat) : Nat → String
  | 0 => edgeName next
  | fuel + 1 =>
    if edges.all fun edge => edge.edgeId ≠ edgeName next then edgeName next
    else firstFreeEdgeId edges (next + 1) fuel

def nextEdgeId (edges : List EdgeNode) : String :=
  firstFreeEdgeId edges (edges.length + 1) edges.length

structure CreateEdgeNodeRequest where
  displayName : Option String
  site : Option String
  projectId : Option String
  productId : Option String

structure IssuedToken where
  credentialId : Nat
  tokenHash : String
  createdAt : Time

def IssuedToken.credential (token : IssuedToken) (edgeId : String) : EdgeAccessCredential :=
  ⟨token.credentialId,edgeId,token.tokenHash,true,token.createdAt⟩

def notBlank (text : Option String) : Option String := text.filter fun text => !isBlank text

def CreateEdgeNodeRequest.node (request : CreateEdgeNodeRequest)
    (edgeId projectId productId desiredVersion : String) : EdgeNode where
  edgeId := edgeId
  displayName := (notBlank request.displayName).getD "新边端待确认"
  site := some ((notBlank request.site).getD "待分配")
  capabilities := ["registration:draft",s!"project:{projectId}",s!"product:{productId}"]
  projectId := some projectId
  productId := some productId
  desiredProductVersion := some desiredVersion
  reportedProductVersion := none

def planEdgeNode (store : CloudControlStore) (request : CreateEdgeNodeRequest) :
    Except ApiError (EdgeNode × EdgeConfigPackage) := do
  let edgeId := nextEdgeId store.edgeNodes.values
  let productId ← context (notBlank request.productId) ⟨.badRequest,"productId is required"⟩
  let product ← context (store.product productId) ⟨.notFound,"missing product"⟩
  let projectId := (notBlank request.projectId).getD product.projectId
  bailIf (projectId ≠ product.projectId)
    ⟨.badRequest,"edge project does not match product project"⟩
  let desiredVersion ← context product.latestVersion
    ⟨.conflict,"product has no published version"⟩
  let productVersion ← context (store.productVersion productId desiredVersion)
    ⟨.conflict,"missing published product version"⟩
  bailIf (productVersion.status ≠ .published)
    ⟨.conflict,"product latest version is not published"⟩
  let package ← materializeProductConfigPackage store edgeId productVersion
  pure (request.node edgeId projectId productId desiredVersion,package)

def createEdgeNode (request : CreateEdgeNodeRequest) (token : IssuedToken) (releaseId : Nat) :
    Except ApiError State := do
  let (node,package) ← planEdgeNode state.core request
  let credential := token.credential node.edgeId
  let memory := ({ state.memory with
    toCloudControlStore := (state.core.registerEdge node).upsertConfigPackage package
    }).replaceEdgeCredential credential
  let persisted := persistConfigPackage rules ⟨memory,state.sqlite.upsertEdgeNode node⟩ releaseId
    package
  pure { persisted with sqlite := persisted.sqlite.replaceEdgeCredential credential }

def bindEdgeProduct (releaseId : Nat) (edgeId : String) (request : BindEdgeProductRequest) :
    Except ApiError State := do
  let (node,package) ← planBinding state.core edgeId request
  let bound : State := {
    memory := (state.withCore ((state.core.registerEdge node).upsertConfigPackage package)).memory
    sqlite := state.sqlite.upsertEdgeNode node }
  pure (persistConfigPackage rules bound releaseId package)

def generateEdgeAccessToken (edgeId : String) (token : IssuedToken) : Except ApiError State := do
  bailIf (state.memory.edgeNodes.get edgeId).isNone ⟨.notFound,"missing edge node"⟩
  let credential := token.credential edgeId
  pure ⟨state.memory.replaceEdgeCredential credential,
    state.sqlite.replaceEdgeCredential credential⟩

def checkRemovable (memory : MemoryStore) (edgeId : String) : Except ApiError Unit := do
  bailIf (memory.edgeNodes.get edgeId).isNone ⟨.notFound,"missing edge node"⟩
  bailIf ((memory.runtimeMetrics.get edgeId).any fun snapshot => snapshot.health ≠ .offline)
    ⟨.conflict,
      "edge node has active runtime metrics; stop runtime or wait until offline before removal"⟩

def deleteEdgeNode (edgeId : String) : Except ApiError State := do
  checkRemovable state.memory edgeId
  pure ⟨state.memory.removeEdgeNode edgeId,state.sqlite.deleteEdgeNode edgeId⟩

def reportRuntimeMetrics (edgeId : String) (snapshot : EdgeRuntimeMetricsSnapshot) :
    Except ApiError State := do
  bailIf (snapshot.edgeId ≠ edgeId)
    ⟨.badRequest,"runtime metrics edge_id does not match request path"⟩
  pure {
    memory := { state.memory with runtimeMetrics := state.memory.runtimeMetrics.insert snapshot }
    sqlite := state.sqlite.upsertRuntimeMetrics snapshot }

/-! ## Change sets -/

def loadAgentChangeSet (changeSetId : String) : Except ApiError AgentChangeSet :=
  context (state.memory.agentChangeSets.get changeSetId) ⟨.notFound,"missing Agent ChangeSet"⟩

section ChangeSet

variable (store : CloudControlStore) (changeSet : AgentChangeSet)

def recordChangeSetValidation : Except ApiError AgentChangeSet :=
  (changeSet.recordValidation
    (validateAgentChangeSetCandidate rules.toVersionRules store changeSet)).mapError
      agentChangeSetError

/-- An invalid change set is not confirmed; it comes back with its report. -/
def reviewChangeSet (caller : Caller) (coApprover note : Option String) :
    Except ApiError (AgentChangeSet × Bool) := do
  let checked ← recordChangeSetValidation rules store changeSet
  if checked.validation.any fun report => report.valid then
    let confirmed ← (checked.confirm ⟨caller.actor,normalizedOptional coApprover,
      normalizedOptional note,caller.now⟩).mapError agentChangeSetError
    pure (confirmed,true)
  else pure (checked,false)

/-- The change set under application and its version; one that is not valid any more comes back
without a version. -/
def prepareApplication : Except ApiError (AgentChangeSet × Option ProductVersion) := do
  bailIf (changeSet.status ≠ .confirmed)
    ⟨.conflict,"ChangeSet must be confirmed before it can be applied"⟩
  let report := validateAgentChangeSetCandidate rules.toVersionRules store changeSet
  if !report.valid then
    let blocked ← (changeSet.recordValidation report).mapError agentChangeSetError
    pure (blocked,none)
  else
    let version ← (productVersionFromChangeSet rules.toVersionRules changeSet).mapError fun message =>
      ⟨.unprocessableEntity,message⟩
    let applying ← changeSet.startApply.mapError agentChangeSetError
    pure (applying,some version)

end ChangeSet

def createAgentChangeSet (draft : AgentChangeSet) : Except ApiError State := do
  let productId := draft.target.productId.getD ""
  let version := draft.target.productVersion.getD ""
  let product ← context (state.core.product productId)
    ⟨.unprocessableEntity,s!"product `{productId}` does not exist"⟩
  bailIf (product.projectId ≠ draft.target.projectId)
    ⟨.unprocessableEntity,s!"product `{productId}` is outside project `{draft.target.projectId}`"⟩
  bailIf (state.core.productVersion productId version).isSome
    ⟨.unprocessableEntity,s!"target product version `{version}` already exists"⟩
  let changeSet ← recordChangeSetValidation rules state.core draft
  pure (state.saveChangeSet changeSet)

def validateAgentChangeSet (changeSetId : String) : Except ApiError State := do
  let changeSet ← loadAgentChangeSet state changeSetId
  let changeSet ← recordChangeSetValidation rules state.core changeSet
  pure (state.saveChangeSet changeSet)

/-- An invalid change set is stored with its report, and the answer is a conflict. -/
def confirmAgentChangeSet (changeSetId : String) (caller : Caller)
    (coApprover note : Option String) : Except ApiError State := do
  let changeSet ← loadAgentChangeSet state changeSetId
  let (reviewed,_) ← reviewChangeSet rules state.core changeSet caller coApprover note
  pure (state.saveChangeSet reviewed)

def rejectAgentChangeSet (changeSetId : String) (caller : Caller) (note : String) :
    Except ApiError State := do
  let changeSet ← loadAgentChangeSet state changeSetId
  let rejected ← (changeSet.reject rules.ext caller.actor note caller.now).mapError
    agentChangeSetError
  pure (state.saveChangeSet rejected)

/-- A change set that is not valid any more goes back, and one whose version cannot be published is
failed; the version stays stored then. -/
def applyAgentChangeSet (newId : String → Nat) (changeSetId : String) (caller : Caller) :
    Except ApiError State := do
  let changeSet ← loadAgentChangeSet state changeSetId
  match ← prepareApplication rules state.core changeSet with
  | (blocked,none) => pure (state.saveChangeSet blocked)
  | (applying,some version) =>
    let stored := (state.saveChangeSet applying).saveProductVersion version
    match transitionProductVersion rules stored newId version.productId version.version false with
    | .error cause =>
      let failed ← (applying.markFailed (.object
        [("failedAt",.string (rules.ext.renderTime caller.now)),
          ("message",.string cause.message)])).mapError agentChangeSetError
      pure (stored.saveChangeSet failed)
    | .ok published =>
      let applied ← (applying.markApplied (appliedResult rules.ext version applying.validation
        caller.actor caller.now)).mapError agentChangeSetError
      pure (published.saveChangeSet applied)

/-! ## Command candidates -/

def requestView (edgeId : String) (caller : Caller) : RequestView where
  store := state.core
  metrics := (state.memory.runtimeMetrics.get edgeId).map
    EdgeRuntimeMetricsSnapshot.toRuntimeMetrics
  now := caller.now
  actor := caller.actor
  nonce := caller.nonce

/-- A candidate as the agent's tool has drafted it; one with the same key is handed out again. -/
def createAgentCommandCandidate (draft : AgentCommandCandidate) (caller : Caller) : Option State :=
  match state.memory.agentCommandCandidateByIdempotency draft.target.projectId draft.target.edgeId
      draft.idempotencyKey with
  | some _ => some state
  | none =>
    match draft.recordValidation (validateAgentCommandCandidate rules.ext
        (requestView state draft.target.edgeId caller) draft) with
    | .ok candidate => (state.saveCandidate candidate).toOption
    | .error _ => none

inductive CandidateAction where
  | validate
  | confirm (coApprover note : Option String)
  | reject (note : String)
  | dispatch

def CandidateAction.request (view : RequestView) : CandidateAction → Request
  | .validate => .validate view
  | .confirm coApprover note => .confirm view coApprover note
  | .reject note => .reject view note
  | .dispatch => .dispatch view view

/-- A dispatch is stored before it is sent and once more with the broker's answer. -/
def finishDispatch (dispatch : Dispatch) (caller : Caller) (answer : Except String Unit) :
    Option State := do
  let started ← (state.saveCandidate dispatch.copy).toOption
  match dispatch.finish rules.ext caller.now answer with
  | some (.writing candidate _) => (started.saveCandidate candidate).toOption
  | _ => some started

def requestAgentCommandCandidate (candidateId : String) (action : CandidateAction)
    (caller : Caller) (answer : Except String Unit) : Option State := do
  let stored ← state.memory.agentCommandCandidates.get candidateId
  let view := requestView state stored.target.edgeId caller
  match (action.request view).start rules.ext stored 0 with
  | some (.writing candidate _) => (state.saveCandidate candidate).toOption
  | some (.starting dispatch) => finishDispatch rules state dispatch caller answer
  | _ => none

variable (rid : Nat)

/-! ## The part of the store that is released

What the requests do to edges, versions, packages and releases in memory is what they do without a
database. -/

@[simp] theorem persistConfigPackage_core (pkg : EdgeConfigPackage) :
    (persistConfigPackage rules state rid pkg).core =
      Cloud.persistConfigPackage rules.checks state.core rid pkg :=
  rfl

variable (edge : String)

theorem editEdgeConfig_core (change : PackageEdit) :
    (editEdgeConfig rules state rid edge change).map State.core =
      (Cloud.editEdgeConfig rules.checks state.core rid edge change).map Prod.snd := by
  rw [editEdgeConfig,Cloud.editEdgeConfig]
  cases startEdit state.core edge change with
  | error why => rfl
  | ok started => exact congrArg Except.ok (persistConfigPackage_core rules _ rid started.1)

theorem transitionProductVersion_core (newId : String → Nat) (prod target : String)
    (rollback : Bool) :
    (transitionProductVersion rules state newId prod target rollback).map State.core =
      (Cloud.transitionProductVersion rules.checks state.core newId prod target
        rollback).map Prod.snd := by
  rw [transitionProductVersion,Cloud.transitionProductVersion]
  cases planTransition rules.checks state.core newId prod target rollback with
  | error why => rfl
  | ok planned =>
    obtain ⟨ver,plan⟩ := planned
    cases plan <;> rfl

theorem publishLatestReleaseForEdgeId_core :
    (publishLatestReleaseForEdgeId rules state rid edge).map State.core =
      Cloud.publishLatestReleaseForEdgeId rules.checks state.core rid edge := by
  rw [publishLatestReleaseForEdgeId,Cloud.publishLatestReleaseForEdgeId]
  cases state.core.latestConfigPackageForEdge edge with
  | none => rfl
  | some pkg =>
    simp only [context_some,ok_bind,createRelease]
    cases prepareRelease rules.checks rid pkg <;> rfl

theorem edgeReportedConfig_core (req : EdgeReportedConfigRequest) :
    (edgeReportedConfig state edge req).map State.core =
      Cloud.edgeReportedConfig state.core edge req := by
  rw [edgeReportedConfig,Cloud.edgeReportedConfig]
  cases reportedRelease (releasesWith state.core edge .pending) req with
  | error why => rfl
  | ok rel =>
    simp only [ok_bind,reportRelease]
    cases markReported state.core rel.releaseId req.reportedVersion with
    | none => rfl
    | some marked =>
      simp only [context_some,ok_bind]
      split
      · cases marked.2.edgeNodes.get edge <;> rfl
      · rfl

end VelaEdge.Cloud.ControlPlane
