import VelaEdge.Cloud.ConfigWrites

/-! What handlers share: the answer when the database refuses a write, the reports of an edge over
HTTP, and what a request that waits for the database has written before. -/
namespace VelaEdge.Cloud

open Base Core ReleaseService

variable (checks : PackageChecks) (store : CloudControlStore) (edgeId : String)

def persistenceError (cause : String) : ApiError :=
  ⟨.internalServerError,s!"persist cloud state failed: {cause}"⟩

structure EdgeReportedConfigRequest where
  reportedVersion : String
  desiredVersion : Option String

/-- The pending release a report over HTTP is about. -/
def reportedRelease (pending : List ReleaseRecord) (request : EdgeReportedConfigRequest) :
    Except ApiError ReleaseRecord :=
  match request.desiredVersion with
  | some desiredVersion =>
    context (pending.find? fun release => release.desiredVersion = desiredVersion)
      ⟨.conflict,"no pending release matches desired version"⟩
  | none =>
    match pending.find? fun release => release.desiredVersion = request.reportedVersion with
    | some exact => .ok exact
    | none =>
      match pending with
      | [release] => .ok release
      | [] => .error ⟨.notFound,"missing pending release for edge"⟩
      | _ => .error ⟨.conflict,"multiple pending releases require desiredVersion"⟩

def edgeReportedConfig (request : EdgeReportedConfigRequest) :
    Except ApiError CloudControlStore := do
  let release ← reportedRelease (releasesWith store edgeId .pending) request
  let (updated,store) ← context (markReported store release.releaseId request.reportedVersion)
    ⟨.notFound,"missing release for edge"⟩
  if updated.status = .applied then
    match store.edgeNodes.get edgeId with
    | none => pure store
    | some node =>
      pure (store.registerEdge
        { node with reportedProductVersion := some request.reportedVersion })
  else pure store

variable {checks}

variable {store started : CloudControlStore}

theorem startEdit_releases {change : PackageEdit}
    (h : startEdit store edge change = .ok (pkg,started)) :
    started.releases = store.releases := by
  obtain ⟨-,rfl⟩ := startEdit_ok h
  rfl

theorem startBinding_releases {req : BindEdgeProductRequest}
    (h : startBinding store edge req = .ok (pkg,started)) :
    started.releases = store.releases := by
  obtain ⟨bound,-,rfl⟩ := startBinding_ok h
  rfl

variable {req : EdgeReportedConfigRequest}

private theorem reportedRelease_mem {pending : List ReleaseRecord} {rel : ReleaseRecord}
    (h : reportedRelease pending req = .ok rel) :
    rel ∈ pending := by
  unfold reportedRelease at h
  split at h
  · rw [context_eq_ok] at h
    exact List.mem_of_find?_eq_some h
  · split at h
    · next exact he =>
      cases h
      exact List.mem_of_find?_eq_some he
    · split at h
      · cases h
        exact List.mem_cons_self
      · cases h
      · cases h

theorem edgeReportedConfig_ok {store after : CloudControlStore}
    (h : edgeReportedConfig store edge req = .ok after) :
    ∃ rel ∈ releasesWith store edge .pending, after.configPackages = store.configPackages ∧
      after.releases = store.releases.insert (reported req.reportedVersion rel) := by
  simp only [edgeReportedConfig,bind_eq_ok] at h
  obtain ⟨rel,hr,h⟩ := h
  have hm := reportedRelease_mem hr
  have hg := Registry.mem_values.mp (List.mem_filter.mp hm).1
  rw [markReported,hg,Option.map_some,context_some] at h
  obtain ⟨⟨updated,middle⟩,hu,h⟩ := h
  cases hu
  refine ⟨rel,hm,?_⟩
  dsimp only at h
  split at h
  · split at h <;> cases h <;> exact ⟨rfl,rfl⟩
  · cases h
    exact ⟨rfl,rfl⟩

end VelaEdge.Cloud
