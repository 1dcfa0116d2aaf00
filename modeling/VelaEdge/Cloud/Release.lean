import VelaEdge.Cloud.Materialization
import VelaEdge.Cloud.Validation

/-! Releasing packages to the edges: the requests that create releases, and the gateway that
deploys a package to a connected runtime and takes its report. -/
namespace VelaEdge.Cloud

open Base Core

variable (checks : PackageChecks) (store : CloudControlStore) (releaseId : Nat)

variable (package : EdgeConfigPackage)

namespace ReleaseService

def prepareRelease : Except (List ValidationError) ReleaseRecord :=
  match ConfigValidator.validatePackage checks package with
  | [] => .ok ⟨releaseId,package.edgeId,package.version,none,.pending⟩
  | errors => .error errors

def createRelease : Except (List ValidationError) CloudControlStore := do
  let release ← prepareRelease checks releaseId package
  pure ((store.upsertConfigPackage package).insertRelease release)

def reported (version : String) (release : ReleaseRecord) : ReleaseRecord :=
  { release with
    reportedVersion := some version
    status := if release.desiredVersion = version then .applied else .failed }

def markReported (version : String) : Option (ReleaseRecord × CloudControlStore) :=
  (store.releases.get releaseId).map fun release =>
    (reported version release,store.insertRelease (reported version release))

end ReleaseService

open ReleaseService

def supersede (release : ReleaseRecord) : ReleaseRecord :=
  { release with status := .superseded }

variable (edgeId : String)

def supersededReleases : List ReleaseRecord :=
  (store.releases.values.filter fun release =>
    release.edgeId = edgeId ∧ release.status = .pending).map supersede

inductive ConfigRevision where
  | draft (package : EdgeConfigPackage)
  | revision (package : EdgeConfigPackage) (states : List ReleaseRecord)

/-- An incomplete package is stored without a release. -/
def planRevision : ConfigRevision :=
  match prepareRelease checks releaseId package with
  | .error _ => .draft package
  | .ok pendingRelease =>
    .revision package (supersededReleases store package.edgeId ++ [pendingRelease])

def ConfigRevision.apply : ConfigRevision → CloudControlStore
  | .draft package => store.upsertConfigPackage package
  | .revision package states =>
    { store.upsertConfigPackage package with releases := store.releases.insertAll states }

def persistConfigPackage : CloudControlStore :=
  (planRevision checks store releaseId package).apply store

def releaseError (errors : List ValidationError) : ApiError :=
  ⟨.badRequest,"; ".intercalate (errors.map ValidationError.message)⟩

structure Rollout where
  edge : EdgeNode
  package : EdgeConfigPackage
  releases : List ReleaseRecord

def rolloutEdge (newId : String → Nat) (targetVersion : String) (target : ProductVersion)
    (edge : EdgeNode) : Except ApiError Rollout := do
  let package ← materializeProductConfigPackage store edge.edgeId target
  let release ← (prepareRelease checks (newId edge.edgeId) package).mapError releaseError
  pure {
    edge := { edge with desiredProductVersion := some targetVersion }
    package := package
    releases := supersededReleases store edge.edgeId ++ [release] }

def rolloutEdges (productId : String) : List EdgeNode :=
  store.edgeNodes.values.filter fun edge => edge.productId = some productId

def checkTransition (target : ProductVersion) (rollback : Bool) : Except ApiError Unit :=
  if rollback then
    bailIf (target.status = .draft) ⟨.conflict,"cannot roll back to a draft product version"⟩
  else
    bailIf (target.status ≠ .draft) ⟨.conflict,"only draft product versions can be published"⟩

structure TransitionPlan where
  product : Product
  versions : List ProductVersion
  edges : List EdgeNode
  packages : List EdgeConfigPackage
  releases : List ReleaseRecord

/-- Nothing is to be written when the version is the published latest one already. -/
def planTransition (newId : String → Nat) (productId targetVersion : String) (rollback : Bool) :
    Except ApiError (ProductVersion × Option TransitionPlan) := do
  let product ← context (store.product productId) ⟨.notFound,"missing product"⟩
  let target ← context (store.productVersion productId targetVersion)
    ⟨.notFound,"missing product version"⟩
  let previous := (product.latestVersion.filter (· ≠ targetVersion)).bind
    (store.productVersion productId)
  if product.latestVersion = some targetVersion ∧ target.status = .published then
    return (target,none)
  checkTransition target rollback
  validatePublishableProductVersion target
  let published := { target with status := .published }
  let retired := previous.toList.map fun version => { version with status := .retired }
  let rollouts ← (rolloutEdges store productId).mapM
    (rolloutEdge checks store newId targetVersion published)
  return (published,some {
    product := { product with latestVersion := some targetVersion }
    versions := retired ++ [published]
    edges := rollouts.map Rollout.edge
    packages := rollouts.map Rollout.package
    releases := rollouts.flatMap Rollout.releases })

def TransitionPlan.apply (plan : TransitionPlan) : CloudControlStore where
  edgeNodes := store.edgeNodes.insertAll plan.edges
  configPackages := store.configPackages.insertAll plan.packages
  releases := store.releases.insertAll plan.releases
  pointSets := store.pointSets
  products := store.products.insert plan.product
  productVersions := store.productVersions.insertAll plan.versions

def transitionProductVersion (newId : String → Nat) (productId targetVersion : String)
    (rollback : Bool) : Except ApiError (ProductVersion × CloudControlStore) := do
  let (version,plan) ← planTransition checks store newId productId targetVersion rollback
  pure (version,(plan.map (TransitionPlan.apply store)).getD store)

/-- The version is the published latest one already, so that a transition to it does nothing. -/
def alreadyPublished (productId version : String) : Bool :=
  (store.product productId).any (fun product => product.latestVersion = some version) &&
    (store.productVersion productId version).any (fun target => target.status = .published)

def transitionPackages (productId version : String) : List EdgeConfigPackage :=
  if alreadyPublished store productId version then []
  else (rolloutEdges store productId).filterMap fun edge =>
    (store.productVersion productId version).bind fun target =>
      (materializeProductConfigPackage store edge.edgeId target).toOption

/-- Here the pending releases of the edge stay as they are. -/
def publishLatestReleaseForEdgeId : Except ApiError CloudControlStore := do
  let package ← context (store.latestConfigPackageForEdge edgeId)
    ⟨.notFound,"missing edge config package"⟩
  (createRelease checks store releaseId package).mapError releaseError

structure EdgeGatewaySession where
  edgeId : String
  runtimeId : String
  appliedConfigVersion : Option String

structure EdgeLinkConfigReport where
  desiredVersion : String
  appliedVersion : Option String

/-- A message from the runtime; the payload is there when it is a configuration report. -/
structure EdgeLinkMessage where
  edgeId : String
  runtimeId : Option String
  configReport : Option EdgeLinkConfigReport

def releasesWith (status : ReleaseStatus) : List ReleaseRecord :=
  store.releases.values.filter fun release => release.edgeId = edgeId ∧ release.status = status

/-- No release of a list has been applied in a later version. -/
def AppliedUpTo (version : String) (releases : List ReleaseRecord) : Prop :=
  ∀ release ∈ releases, release.status = .applied → release.desiredVersion ≤ version

instance (version : String) (releases : List ReleaseRecord) :
    Decidable (AppliedUpTo version releases) :=
  inferInstanceAs (Decidable (∀ release ∈ releases, _ → _))

def deployableRelease (runtimeVersion : Option String) : Option ReleaseRecord :=
  (maxBy ReleaseRecord.desiredVersion (releasesWith store edgeId .pending)).or
    ((maxBy ReleaseRecord.desiredVersion (releasesWith store edgeId .applied)).filter
      fun release => runtimeVersion ≠ some release.desiredVersion)

def deployableConfigPackage (runtimeVersion : Option String) : Option EdgeConfigPackage :=
  (deployableRelease store edgeId runtimeVersion).bind fun release =>
    store.configPackage release.edgeId release.desiredVersion

def EdgeLinkConfigReport.reportedVersion (report : EdgeLinkConfigReport) : String :=
  report.appliedVersion.getD "rejected"

def reportableRelease (edgeId version : String) : Option ReleaseRecord :=
  store.releases.values.find? fun release =>
    release.edgeId = edgeId ∧ release.desiredVersion = version ∧ release.status = .pending

def persistConfigReport (edgeId expectedVersion : String) (report : EdgeLinkConfigReport) :
    Except String CloudControlStore := do
  bailIf (report.desiredVersion ≠ expectedVersion)
    s!"config report desired version {report.desiredVersion} does not match deployed version {
      expectedVersion}"
  match reportableRelease store edgeId report.desiredVersion with
  | none => pure store
  | some release =>
    let (updated,store) ← context
      (markReported store release.releaseId report.reportedVersion)
      "pending release disappeared before config report was applied"
    if updated.status = .applied then
      match store.edgeNodes.get edgeId with
      | none => pure store
      | some node =>
        pure (store.registerEdge
          { node with reportedProductVersion := some report.reportedVersion })
    else pure store

/-- One deployment to a connected runtime. The answer is the message the runtime sends back, none
when the connection breaks first. -/
def deployPendingConfigIfAvailable (session : EdgeGatewaySession)
    (answer : Option EdgeLinkMessage) : Except String (Nat × CloudControlStore) :=
  match deployableConfigPackage store session.edgeId session.appliedConfigVersion with
  | none => pure (0,store)
  | some package => do
      let message ← context answer "failed to read EdgeLink config report"
      bailIf (message.edgeId ≠ session.edgeId)
        "config report edge_id does not match session edge_id"
      bailIf (message.runtimeId ≠ some session.runtimeId)
        "config report runtime_id does not match session runtime_id"
      let report ← context message.configReport
        "expected EdgeLink config report after config deploy"
      let store ← persistConfigReport store session.edgeId package.version report
      pure (1,store)

def newRelease (edgeId version : String) : ReleaseRecord :=
  ⟨releaseId,edgeId,version,none,.pending⟩

def issuedReleases (newId : String → Nat) (version : String) (edgeIds : List String) :
    List ReleaseRecord :=
  edgeIds.flatMap fun edgeId =>
    supersededReleases store edgeId ++ [newRelease (newId edgeId) edgeId version]

variable {checks}

theorem prepareRelease_ok {rel : ReleaseRecord} (h : prepareRelease checks rid pkg = .ok rel) :
    rel = newRelease rid pkg.edgeId pkg.version := by
  unfold prepareRelease at h
  split at h
  · cases h
    rfl
  · cases h

@[simp] theorem mem_releasesWith {store : CloudControlStore} {rel : ReleaseRecord}
    {status : ReleaseStatus} : rel ∈ releasesWith store edge status ↔
      rel ∈ store.releases.values ∧ rel.edgeId = edge ∧ rel.status = status := by
  simp [releasesWith]

theorem persistConfigPackage_eq (rid : Nat) (pkg : EdgeConfigPackage) :
    ConfigValidator.validatePackage checks pkg ≠ [] ∧
        persistConfigPackage checks store rid pkg = store.upsertConfigPackage pkg ∨
      persistConfigPackage checks store rid pkg = { store.upsertConfigPackage pkg with
          releases := store.releases.insertAll
            (issuedReleases store (fun _ => rid) pkg.version [pkg.edgeId]) } := by
  unfold persistConfigPackage planRevision
  split
  · next errors hr =>
    refine .inl ⟨?_,rfl⟩
    intro hv
    rw [prepareRelease,hv] at hr
    cases hr
  · next rel hr =>
    right
    rw [prepareRelease_ok hr]
    simp [issuedReleases,ConfigRevision.apply]

private theorem rolloutEdge_ok {store : CloudControlStore}
    (h : rolloutEdge checks store newId targetVersion target edge = .ok rollout) :
    packageKey rollout.package = toLex (edge.edgeId,target.version) ∧
      rollout.releases = supersededReleases store edge.edgeId ++
        [newRelease (newId edge.edgeId) edge.edgeId target.version] ∧
      some rollout.package =
        (materializeProductConfigPackage store edge.edgeId target).toOption := by
  simp only [rolloutEdge,bind_eq_ok,mapError_eq_ok] at h
  obtain ⟨pkg,hp,rel,hr,hro⟩ := h
  obtain ⟨he,hv⟩ := materialize_names hp
  cases hro
  rw [prepareRelease_ok hr,packageKey,he,hv,hp]
  exact ⟨rfl,rfl,rfl⟩

theorem rolloutEdges_nodup (prod : String) :
    ((rolloutEdges store prod).map EdgeNode.edgeId).Nodup :=
  (Registry.values_keys_nodup store.edgeNodes).sublist (List.filter_sublist.map _)

variable {store after : CloudControlStore}

theorem planTransition_ok {ver : ProductVersion} {plan : Option TransitionPlan}
    (h : planTransition checks store newId prod targetVersion rollback = .ok (ver,plan)) :
    plan = none ∧ alreadyPublished store prod targetVersion = true ∨
      ∃ written, plan = some written ∧ alreadyPublished store prod targetVersion = false ∧
        written.releases = issuedReleases store newId targetVersion
          ((rolloutEdges store prod).map EdgeNode.edgeId) ∧
        written.packages = transitionPackages store prod targetVersion ∧
        written.packages.map packageKey =
          (rolloutEdges store prod).map fun edge => toLex (edge.edgeId,targetVersion) := by
  simp only [planTransition,bind_eq_ok] at h
  obtain ⟨product,hp,target,ht,h⟩ := h
  rw [context_eq_ok] at hp ht
  have hv := CloudControlStore.productVersion_version ht
  split at h
  · next hs =>
    cases h
    exact .inl ⟨rfl,by simp [alreadyPublished,hp,ht,hs]⟩
  · next hn =>
    have hn : alreadyPublished store prod targetVersion = false := by
      simpa [alreadyPublished,hp,ht] using hn
    simp only [bind_eq_ok] at h
    obtain ⟨-,-,-,-,rollouts,hr,ha⟩ := h
    cases ha
    refine .inr ⟨_,rfl,hn,?_,?_,?_⟩
    · have hvi := map_of_mapM_eq_ok (fun _ _ h => (rolloutEdge_ok h).2.1) hr
      simp only [List.flatMap_def,hvi,issuedReleases,List.map_map,hv]
      rfl
    · have hvi := map_of_mapM_eq_ok (fun _ _ h => (rolloutEdge_ok h).2.2) hr
      have hal := congrArg (List.filterMap id) hvi
      rw [List.filterMap_map,List.filterMap_map] at hal
      rw [transitionPackages,hn,ht]
      exact (congrFun List.filterMap_eq_map rollouts).symm.trans hal
    · have hk := map_of_mapM_eq_ok (fun _ _ h => (rolloutEdge_ok h).1) hr
      rw [List.map_map,← hv]
      exact hk

theorem transitionProductVersion_ok {ver : ProductVersion}
    (h : transitionProductVersion checks store newId prod targetVersion rollback =
      .ok (ver,after)) :
    after = store ∧ alreadyPublished store prod targetVersion = true ∨
      alreadyPublished store prod targetVersion = false ∧
        after.releases = store.releases.insertAll (issuedReleases store newId targetVersion
          ((rolloutEdges store prod).map EdgeNode.edgeId)) ∧
        after.configPackages = store.configPackages.insertAll
          (transitionPackages store prod targetVersion) ∧
        (transitionPackages store prod targetVersion).map packageKey =
          (rolloutEdges store prod).map fun edge => toLex (edge.edgeId,targetVersion) := by
  obtain ⟨⟨published,plan⟩,hp,ha⟩ := bind_eq_ok.mp h
  cases ha
  obtain ⟨rfl,hn⟩ | ⟨written,rfl,hn,hr,hpa,hk⟩ := planTransition_ok hp
  · exact .inl ⟨rfl,hn⟩
  · exact .inr ⟨hn,congrArg _ hr,congrArg _ hpa,hpa ▸ hk⟩

theorem publishLatestReleaseForEdgeId_ok
    (h : publishLatestReleaseForEdgeId checks store rid edge = .ok after) :
    ∃ pkg, store.latestConfigPackageForEdge edge = some pkg ∧ pkg.edgeId = edge ∧
      after = (store.upsertConfigPackage pkg).insertRelease (newRelease rid edge pkg.version) := by
  simp only [publishLatestReleaseForEdgeId,createRelease,bind_eq_ok,context_eq_ok,
    mapError_eq_ok] at h
  obtain ⟨pkg,hp,rel,hr,ha⟩ := h
  have hm := (maxBy_spec hp).1
  have he : pkg.edgeId = edge := by simpa using (List.mem_filter.mp hm).2
  cases ha
  refine ⟨pkg,hp,he,?_⟩
  rw [prepareRelease_ok hr,he]

theorem reportableRelease_eq_some {store : CloudControlStore} {ver : String}
    {rel : ReleaseRecord} (h : reportableRelease store edge ver = some rel) :
    rel ∈ store.releases.values ∧ rel.edgeId = edge ∧
      rel.desiredVersion = ver ∧ rel.status = .pending := by
  refine ⟨List.mem_of_find?_eq_some h,?_⟩
  simpa using List.find?_some h

theorem persistConfigReport_ok {rep : EdgeLinkConfigReport}
    (h : persistConfigReport store edge expectedVersion rep = .ok after) :
    after.configPackages = store.configPackages ∧ (after.releases = store.releases ∨
        ∃ rel, reportableRelease store edge rep.desiredVersion = some rel ∧ after.releases =
            store.releases.insert (reported rep.reportedVersion rel)) := by
  simp only [persistConfigReport,bind_eq_ok] at h
  obtain ⟨-,-,h⟩ := h
  split at h
  · cases h
    exact ⟨rfl,.inl rfl⟩
  · next rel hr =>
    have hm := (reportableRelease_eq_some hr).1
    rw [Registry.mem_values] at hm
    rw [markReported,hm,Option.map_some,context_some,ok_bind] at h
    have ha : after.configPackages = store.configPackages ∧
        after.releases = store.releases.insert (reported rep.reportedVersion rel) := by
      dsimp only at h
      split at h
      · split at h <;> cases h <;> exact ⟨rfl,rfl⟩
      · cases h
        exact ⟨rfl,rfl⟩
    exact ⟨ha.1,.inr ⟨rel,hr,ha.2⟩⟩

theorem deployPendingConfigIfAvailable_ok {answer : Option EdgeLinkMessage} {count : Nat}
    (h : deployPendingConfigIfAvailable store sess answer = .ok (count,after)) :
    after = store ∨ ∃ ver rep, answer.bind EdgeLinkMessage.configReport = some rep ∧
        persistConfigReport store sess.edgeId ver rep = .ok after := by
  unfold deployPendingConfigIfAvailable at h
  split at h
  · cases h
    exact .inl rfl
  · next pkg hp =>
    simp only [bind_eq_ok,context_eq_ok] at h
    obtain ⟨msg,hm,-,-,-,-,rep,hr,store',hs,ha⟩ := h
    cases ha
    exact .inr ⟨pkg.version,rep,by rw [hm]; exact hr,hs⟩

end VelaEdge.Cloud
