import VelaEdge.Base.Mirror
import VelaEdge.Cloud.ChangeSet
import VelaEdge.Cloud.CommandDispatch
import VelaEdge.Cloud.Handlers

/-! The store that requests work on and the database it is rebuilt from after a restart. Both have
their own deletions, with their own idea of what goes along. -/
namespace VelaEdge.Cloud

open Base Core VelaEdge.Runtime

structure Project where
  projectId : String
  name : String
  environment : String
  owner : String
  description : String
deriving DecidableEq

structure EdgeAccessCredential where
  credentialId : Nat
  edgeId : String
  tokenHash : String
  active : Bool
  createdAt : Time
deriving DecidableEq

inductive EdgeHealth where
  | healthy
  | degraded
  | critical
  | offline
deriving DecidableEq

structure EdgeRuntimeMetricsSnapshot extends RuntimeMetrics where
  edgeId : String
  health : EdgeHealth
deriving DecidableEq

structure MemoryStore extends CloudControlStore where
  projects : Registry Project.projectId
  edgeCredentials : Registry EdgeAccessCredential.credentialId
  runtimeMetrics : Registry EdgeRuntimeMetricsSnapshot.edgeId
  agentChangeSets : Registry AgentChangeSet.changeSetId
  agentCommandCandidates : Registry AgentCommandCandidate.candidateId

def EdgeAccessCredential.revoke (edgeId : String) (credential : EdgeAccessCredential) :
    EdgeAccessCredential :=
  if credential.edgeId = edgeId then { credential with active := false } else credential

@[simp] theorem EdgeAccessCredential.revoke_credentialId (edge : String)
    (cred : EdgeAccessCredential) :
    (cred.revoke edge).credentialId = cred.credentialId := by
  unfold revoke
  split <;> rfl

variable (store : MemoryStore)

namespace MemoryStore

def empty : MemoryStore where
  toCloudControlStore := .empty
  projects := .empty
  edgeCredentials := .empty
  runtimeMetrics := .empty
  agentChangeSets := .empty
  agentCommandCandidates := .empty

def removeEdgeNode (edgeId : String) : MemoryStore :=
  match store.edgeNodes.get edgeId with
  | none => store
  | some _ =>
    { store with
      edgeNodes := store.edgeNodes.remove edgeId
      configPackages := store.configPackages.retain fun package => package.edgeId ≠ edgeId
      releases := store.releases.retain fun release => release.edgeId ≠ edgeId
      runtimeMetrics := store.runtimeMetrics.remove edgeId
      edgeCredentials := store.edgeCredentials.retain fun credential =>
        credential.edgeId ≠ edgeId }

def replaceEdgeCredential (credential : EdgeAccessCredential) : MemoryStore :=
  { store with
    edgeCredentials := (store.edgeCredentials.adjust (.revoke credential.edgeId)
      (EdgeAccessCredential.revoke_credentialId _)).insert credential }

def removeProject (projectId : String) : MemoryStore :=
  match store.projects.get projectId with
  | none => store
  | some _ =>
    let productIds := (store.products.values.filter fun product =>
      product.projectId = projectId).map Product.productId
    { store with
      projects := store.projects.remove projectId
      pointSets := store.pointSets.retain fun pointSet => pointSet.projectId ≠ projectId
      agentChangeSets := store.agentChangeSets.retain fun changeSet =>
        changeSet.target.projectId ≠ projectId
      products := store.products.retain fun product => product.projectId ≠ projectId
      productVersions := store.productVersions.retain fun version =>
        version.productId ∉ productIds }

def removePointSet (pointSetId : String) : MemoryStore :=
  { store with pointSets := store.pointSets.remove pointSetId }

def removeProduct (productId : String) : MemoryStore :=
  match store.products.get productId with
  | none => store
  | some _ =>
    { store with
      products := store.products.remove productId
      productVersions := store.productVersions.retain fun version =>
        version.productId ≠ productId }

def removeProductVersion (productId version : String) : MemoryStore :=
  { store with productVersions := store.productVersions.remove (toLex (productId,version)) }

def agentCommandCandidateByIdempotency (projectId edgeId idempotencyKey : String) :
    Option AgentCommandCandidate :=
  store.agentCommandCandidates.values.find? fun candidate =>
    candidate.target.projectId = projectId ∧ candidate.target.edgeId = edgeId ∧
      candidate.idempotencyKey = idempotencyKey

end MemoryStore

/-! ## The tables -/

/-- The row of a credential says on its own whether the credential is active. -/
structure CredentialRow where
  edgeId : String
  active : Bool
  document : EdgeAccessCredential
deriving DecidableEq

def CredentialRow.format : RowFormat EdgeAccessCredential CredentialRow (String × Bool) where
  row credential := ⟨credential.edgeId,credential.active,credential⟩
  read row := { row.document with active := row.active }
  columns row := (row.edgeId,row.active)
  describe credential := (credential.edgeId,credential.active)
  read_row _ := rfl
  columns_row _ := rfl

namespace Format

def edgeNode := RowFormat.document EdgeNode.edgeId
def configPackage := RowFormat.document EdgeConfigPackage.edgeId
def release := RowFormat.document ReleaseRecord.edgeId
def runtimeMetrics := RowFormat.document EdgeRuntimeMetricsSnapshot.edgeId
def project := RowFormat.document Project.projectId
def pointSet := RowFormat.document PointSet.projectId
def product := RowFormat.document Product.projectId
def productVersion := RowFormat.document ProductVersion.productId
def agentChangeSet := RowFormat.document fun changeSet : AgentChangeSet =>
  changeSet.target.projectId
def agentCommandCandidate := RowFormat.document fun candidate : AgentCommandCandidate =>
  (candidate.target.projectId,candidate.target.edgeId,candidate.idempotencyKey)

end Format

/-- The tables under their primary keys. A document column holds the entity itself, and of the
other columns those are here that a statement looks at. -/
structure SqliteCloudStore where
  edgeNodes : OrderedMap String (Row String EdgeNode)
  edgeAccessCredentials : OrderedMap Nat CredentialRow
  configPackages : OrderedMap (Lex (String × String)) (Row String EdgeConfigPackage)
  releases : OrderedMap Nat (Row String ReleaseRecord)
  runtimeMetrics : OrderedMap String (Row String EdgeRuntimeMetricsSnapshot)
  projects : OrderedMap String (Row String Project)
  pointSets : OrderedMap String (Row String PointSet)
  products : OrderedMap String (Row String Product)
  productVersions : OrderedMap (Lex (String × String)) (Row String ProductVersion)
  agentChangeSets : OrderedMap String (Row String AgentChangeSet)
  agentCommandCandidates :
    OrderedMap String (Row (String × String × String) AgentCommandCandidate)

variable (sqlite : SqliteCloudStore)

namespace SqliteCloudStore

def empty : SqliteCloudStore where
  edgeNodes := .empty
  edgeAccessCredentials := .empty
  configPackages := .empty
  releases := .empty
  runtimeMetrics := .empty
  projects := .empty
  pointSets := .empty
  products := .empty
  productVersions := .empty
  agentChangeSets := .empty
  agentCommandCandidates := .empty

def upsertProject (project : Project) : SqliteCloudStore :=
  { sqlite with projects := sqlite.projects.put project.projectId (Format.project.row project) }

def deleteProject (projectId : String) : SqliteCloudStore :=
  let productIds := (sqlite.products.entries.filter fun entry =>
    entry.2.columns = projectId).map Prod.fst
  { sqlite with
    productVersions := sqlite.productVersions.retain fun _ row => row.columns ∉ productIds
    products := sqlite.products.retain fun _ row => row.columns ≠ projectId
    pointSets := sqlite.pointSets.retain fun _ row => row.columns ≠ projectId
    projects := sqlite.projects.delete projectId }

def upsertPointSet (pointSet : PointSet) : SqliteCloudStore :=
  { sqlite with
    pointSets := sqlite.pointSets.put pointSet.pointSetId (Format.pointSet.row pointSet) }

def deletePointSet (pointSetId : String) : SqliteCloudStore :=
  { sqlite with pointSets := sqlite.pointSets.delete pointSetId }

def upsertProduct (product : Product) : SqliteCloudStore :=
  { sqlite with products := sqlite.products.put product.productId (Format.product.row product) }

def deleteProduct (productId : String) : SqliteCloudStore :=
  { sqlite with
    productVersions := sqlite.productVersions.retain fun _ row => row.columns ≠ productId
    products := sqlite.products.delete productId }

def upsertProductVersion (version : ProductVersion) : SqliteCloudStore :=
  { sqlite with
    productVersions := sqlite.productVersions.put (productVersionKey version)
      (Format.productVersion.row version) }

def deleteProductVersion (productId version : String) : SqliteCloudStore :=
  { sqlite with productVersions := sqlite.productVersions.delete (toLex (productId,version)) }

def transitionProductVersion (plan : TransitionPlan) : SqliteCloudStore :=
  { sqlite with
    products := sqlite.products.put plan.product.productId (Format.product.row plan.product)
    productVersions := putRows Format.productVersion productVersionKey sqlite.productVersions
      plan.versions
    edgeNodes := putRows Format.edgeNode EdgeNode.edgeId sqlite.edgeNodes plan.edges
    configPackages := putRows Format.configPackage packageKey sqlite.configPackages plan.packages
    releases := putRows Format.release ReleaseRecord.releaseId sqlite.releases plan.releases }

def upsertEdgeNode (node : EdgeNode) : SqliteCloudStore :=
  { sqlite with edgeNodes := sqlite.edgeNodes.put node.edgeId (Format.edgeNode.row node) }

def replaceEdgeCredential (credential : EdgeAccessCredential) : SqliteCloudStore :=
  { sqlite with
    edgeAccessCredentials := (sqlite.edgeAccessCredentials.mapValues fun row =>
      if row.edgeId = credential.edgeId then { row with active := false } else row).put
        credential.credentialId (CredentialRow.format.row credential) }

def deleteEdgeNode (edgeId : String) : SqliteCloudStore := { sqlite with
    edgeNodes := sqlite.edgeNodes.delete edgeId
    edgeAccessCredentials := sqlite.edgeAccessCredentials.retain fun _ row => row.edgeId ≠ edgeId
    configPackages := sqlite.configPackages.retain fun _ row => row.columns ≠ edgeId
    releases := sqlite.releases.retain fun _ row => row.columns ≠ edgeId
    runtimeMetrics := sqlite.runtimeMetrics.delete edgeId }

def upsertRuntimeMetrics (snapshot : EdgeRuntimeMetricsSnapshot) : SqliteCloudStore :=
  { sqlite with
    runtimeMetrics := sqlite.runtimeMetrics.put snapshot.edgeId
      (Format.runtimeMetrics.row snapshot) }

def upsertConfigPackage (package : EdgeConfigPackage) : SqliteCloudStore :=
  { sqlite with
    configPackages := sqlite.configPackages.put (packageKey package)
      (Format.configPackage.row package) }

def insertRelease (release : ReleaseRecord) : SqliteCloudStore :=
  { sqlite with
    releases := sqlite.releases.put release.releaseId (Format.release.row release) }

def applyConfigRevision : ConfigRevision → SqliteCloudStore
  | .draft package => sqlite.upsertConfigPackage package
  | .revision package states =>
    { sqlite.upsertConfigPackage package with
      releases := putRows Format.release ReleaseRecord.releaseId sqlite.releases states }

/-- The release is read from the database again, not taken from memory. -/
def markReleaseReported (releaseId : Nat) (version : String) : SqliteCloudStore :=
  match sqlite.releases.get releaseId with
  | none => sqlite
  | some row =>
    { sqlite with
      releases := sqlite.releases.put releaseId
        ⟨row.columns,ReleaseService.reported version row.document⟩ }

def upsertAgentChangeSet (changeSet : AgentChangeSet) : SqliteCloudStore :=
  { sqlite with
    agentChangeSets := sqlite.agentChangeSets.put changeSet.changeSetId
      (Format.agentChangeSet.row changeSet) }

/-- Project, edge and idempotency key are unique in the table. -/
def upsertAgentCommandCandidate (candidate : AgentCommandCandidate) :
    Except ApiError SqliteCloudStore := do
  let row := Format.agentCommandCandidate.row candidate
  bailIf (sqlite.agentCommandCandidates.entries.any fun entry =>
      entry.1 ≠ candidate.candidateId && entry.2.columns = row.columns)
    ⟨.internalServerError,"persist cloud state failed: upsert agent command candidate"⟩
  pure { sqlite with
    agentCommandCandidates := sqlite.agentCommandCandidates.put candidate.candidateId row }

end SqliteCloudStore

def hydrateFromSqlite : MemoryStore where
  edgeNodes := rebuild Format.edgeNode sqlite.edgeNodes
  edgeCredentials := rebuild CredentialRow.format sqlite.edgeAccessCredentials
  configPackages := rebuild Format.configPackage sqlite.configPackages
  releases := rebuild Format.release sqlite.releases
  runtimeMetrics := rebuild Format.runtimeMetrics sqlite.runtimeMetrics
  projects := rebuild Format.project sqlite.projects
  pointSets := rebuild Format.pointSet sqlite.pointSets
  products := rebuild Format.product sqlite.products
  productVersions := rebuild Format.productVersion sqlite.productVersions
  agentChangeSets := rebuild Format.agentChangeSet sqlite.agentChangeSets
  agentCommandCandidates := rebuild Format.agentCommandCandidate sqlite.agentCommandCandidates

structure Synced (memory : MemoryStore) (sqlite : SqliteCloudStore) : Prop where
  edgeNodes : Mirrors Format.edgeNode sqlite.edgeNodes memory.edgeNodes
  edgeCredentials : Mirrors CredentialRow.format sqlite.edgeAccessCredentials
    memory.edgeCredentials
  configPackages : Mirrors Format.configPackage sqlite.configPackages memory.configPackages
  releases : Mirrors Format.release sqlite.releases memory.releases
  runtimeMetrics : Mirrors Format.runtimeMetrics sqlite.runtimeMetrics memory.runtimeMetrics
  projects : Mirrors Format.project sqlite.projects memory.projects
  pointSets : Mirrors Format.pointSet sqlite.pointSets memory.pointSets
  products : Mirrors Format.product sqlite.products memory.products
  productVersions : Mirrors Format.productVersion sqlite.productVersions memory.productVersions
  agentChangeSets : Mirrors Format.agentChangeSet sqlite.agentChangeSets memory.agentChangeSets
  agentCommandCandidates : Mirrors Format.agentCommandCandidate sqlite.agentCommandCandidates
    memory.agentCommandCandidates

namespace Synced

variable {memory : MemoryStore} {sqlite : SqliteCloudStore}

theorem empty : Synced .empty .empty :=
  ⟨.empty,.empty,.empty,.empty,.empty,.empty,.empty,.empty,.empty,.empty,.empty⟩

section

variable (h : Synced memory sqlite)

include h

theorem hydrate_eq : hydrateFromSqlite sqlite = memory := by
  rw [hydrateFromSqlite,h.edgeNodes.rebuild_eq,h.edgeCredentials.rebuild_eq,
    h.configPackages.rebuild_eq,h.releases.rebuild_eq,h.runtimeMetrics.rebuild_eq,
    h.projects.rebuild_eq,h.pointSets.rebuild_eq,h.products.rebuild_eq,
    h.productVersions.rebuild_eq,h.agentChangeSets.rebuild_eq,
    h.agentCommandCandidates.rebuild_eq]

theorem upsertProject (project : Project) :
    Synced { memory with projects := memory.projects.insert project }
      (sqlite.upsertProject project) :=
  { h with projects := h.projects.put project }

theorem upsertPointSet (pointSet : PointSet) :
    Synced { memory with pointSets := memory.pointSets.insert pointSet }
      (sqlite.upsertPointSet pointSet) :=
  { h with pointSets := h.pointSets.put pointSet }

theorem deletePointSet (sid : String) :
    Synced (memory.removePointSet sid) (sqlite.deletePointSet sid) :=
  { h with pointSets := h.pointSets.delete sid }

theorem upsertProduct (prod : Product) :
    Synced { memory with products := memory.products.insert prod } (sqlite.upsertProduct prod) :=
  { h with products := h.products.put prod }

theorem deleteProduct {product : Product} (hp : memory.products.get prod = some product) :
    Synced (memory.removeProduct prod) (sqlite.deleteProduct prod) := by
  rw [MemoryStore.removeProduct,hp]
  exact { h with
    products := h.products.delete prod
    productVersions := h.productVersions.retain fun column => column ≠ prod }

theorem upsertProductVersion (ver : ProductVersion) :
    Synced { memory with productVersions := memory.productVersions.insert ver }
      (sqlite.upsertProductVersion ver) :=
  { h with productVersions := h.productVersions.put ver }

theorem deleteProductVersion (prod ver : String) :
    Synced (memory.removeProductVersion prod ver) (sqlite.deleteProductVersion prod ver) :=
  { h with productVersions := h.productVersions.delete _ }

theorem transition (plan : TransitionPlan) :
    Synced { memory with toCloudControlStore := plan.apply memory.toCloudControlStore }
      (sqlite.transitionProductVersion plan) :=
  { h with
    products := h.products.put plan.product
    productVersions := h.productVersions.putRows plan.versions
    edgeNodes := h.edgeNodes.putRows plan.edges
    configPackages := h.configPackages.putRows plan.packages
    releases := h.releases.putRows plan.releases }

theorem upsertEdgeNode (node : EdgeNode) :
    Synced { memory with edgeNodes := memory.edgeNodes.insert node } (sqlite.upsertEdgeNode node) :=
  { h with edgeNodes := h.edgeNodes.put node }

theorem replaceEdgeCredential (cred : EdgeAccessCredential) :
    Synced (memory.replaceEdgeCredential cred) (sqlite.replaceEdgeCredential cred) := by
  refine { h with edgeCredentials := (h.edgeCredentials.update _ ?_).put cred }
  intro row hr
  have he : row.edgeId = row.document.edgeId := congrArg Prod.fst hr
  by_cases hs : row.document.edgeId = cred.edgeId
  · simp [CredentialRow.format,EdgeAccessCredential.revoke,he,hs]
  · simp [CredentialRow.format,EdgeAccessCredential.revoke,he,hs]

theorem deleteEdgeNode {node : EdgeNode} (hn : memory.edgeNodes.get edge = some node) :
    Synced (memory.removeEdgeNode edge) (sqlite.deleteEdgeNode edge) := by
  rw [MemoryStore.removeEdgeNode,hn]
  exact { h with
    edgeNodes := h.edgeNodes.delete edge
    edgeCredentials := h.edgeCredentials.retain fun columns => columns.1 ≠ edge
    configPackages := h.configPackages.retain fun column => column ≠ edge
    releases := h.releases.retain fun column => column ≠ edge
    runtimeMetrics := h.runtimeMetrics.delete edge }

theorem upsertRuntimeMetrics (snapshot : EdgeRuntimeMetricsSnapshot) :
    Synced { memory with runtimeMetrics := memory.runtimeMetrics.insert snapshot }
      (sqlite.upsertRuntimeMetrics snapshot) :=
  { h with runtimeMetrics := h.runtimeMetrics.put snapshot }

theorem insertRelease (rel : ReleaseRecord) :
    Synced { memory with releases := memory.releases.insert rel } (sqlite.insertRelease rel) :=
  { h with releases := h.releases.put rel }

theorem applyConfigRevision (revision : ConfigRevision) :
    Synced { memory with toCloudControlStore := revision.apply memory.toCloudControlStore }
      (sqlite.applyConfigRevision revision) := by
  cases revision with
  | draft pkg => exact { h with configPackages := h.configPackages.put pkg }
  | revision pkg states =>
    exact { h with
      configPackages := h.configPackages.put pkg
      releases := h.releases.putRows states }

theorem markReleaseReported {rel : ReleaseRecord}
    (hr : memory.releases.get rel.releaseId = some rel) (ver : String) :
    Synced { memory with
        releases := memory.releases.insert (ReleaseService.reported ver rel) }
      (sqlite.markReleaseReported rel.releaseId ver) := by
  obtain ⟨row,hro,hre⟩ := Option.map_eq_some_iff.mp ((h.releases.reads rel.releaseId).trans hr)
  have hc : row.columns = row.document.edgeId := h.releases.describes _ row hro
  have hd : row.document = rel := hre
  rw [SqliteCloudStore.markReleaseReported,hro]
  simp only [hc,hd]
  exact { h with releases := h.releases.put (ReleaseService.reported ver rel) }

theorem upsertAgentChangeSet (cs : AgentChangeSet) :
    Synced { memory with agentChangeSets := memory.agentChangeSets.insert cs }
      (sqlite.upsertAgentChangeSet cs) :=
  { h with agentChangeSets := h.agentChangeSets.put cs }

theorem upsertAgentCommandCandidate {after : SqliteCloudStore}
    (ha : sqlite.upsertAgentCommandCandidate cand = .ok after) :
    Synced { memory with
      agentCommandCandidates := memory.agentCommandCandidates.insert cand } after := by
  obtain ⟨_,-,ha⟩ := bind_eq_ok.mp ha
  cases ha
  exact { h with agentCommandCandidates := h.agentCommandCandidates.put cand }

/-- The database keeps the change sets of a deleted project, so that the two agree when there
are none. -/
theorem deleteProject {project : Project} (hpr : memory.projects.get proj = some project)
    (hn : ∀ cs ∈ memory.agentChangeSets.values, cs.target.projectId ≠ proj) :
    Synced (memory.removeProject proj) (sqlite.deleteProject proj) := by
  have hp : ∀ name, name ∈ (memory.products.values.filter fun prod =>
        prod.projectId = proj).map Product.productId ↔
      name ∈ (sqlite.products.entries.filter fun entry =>
        entry.2.columns = proj).map Prod.fst := by
    intro name
    have hr := h.products.mem_keys_filter (fun column => column = proj) name
    exact Registry.mem_map_key_filter.trans hr.symm
  have hcs : Mirrors Format.agentChangeSet sqlite.agentChangeSets
      (memory.agentChangeSets.retain fun cs => cs.target.projectId ≠ proj) := by
    rw [Registry.retain_eq_self]
    · exact h.agentChangeSets
    · intro cs hm
      simpa using hn cs hm
  rw [MemoryStore.removeProject,hpr,SqliteCloudStore.deleteProject]
  simp only [hp]
  exact { h with
    projects := h.projects.delete proj
    pointSets := h.pointSets.retain fun column => column ≠ proj
    products := h.products.retain fun column => column ≠ proj
    productVersions := h.productVersions.retain fun column =>
      column ∉ (sqlite.products.entries.filter fun entry =>
        entry.2.columns = proj).map Prod.fst
    agentChangeSets := hcs }

end

end Synced

end VelaEdge.Cloud
