import VelaEdge.Cloud.Handlers

/-! Overlapping requests on the releases of an edge: a configuration write looks at the pending
releases, waits for the database and writes back, while other requests and reports run. -/
namespace VelaEdge.Cloud.PendingReleases

open Base Core ReleaseService List OrderedMap Option Registry ReleaseHistory
open ReleaseHistory (CatalogWrite mem_issuedReleases)

/-- What a request holds while it waits. An edit and a binding have put their package into the
store before, a package that is handed in gets there at the end. -/
inductive Task where
  | persisting (package : EdgeConfigPackage) (stored : Bool)
  | revising (revision : ConfigRevision) (stored : Bool)
  | rolling (plan : TransitionPlan)

/-- The release records a request will write. -/
def Task.states : Task → List ReleaseRecord
  | .persisting _ _ => []
  | .revising (.draft _) _ => []
  | .revising (.revision _ states) _ => states
  | .rolling plan => plan.releases

def Task.apply (store : CloudControlStore) : Task → CloudControlStore
  | .persisting _ _ => store
  | .revising revision _ => revision.apply store
  | .rolling plan => plan.apply store

def Task.stored : Task → Bool
  | .persisting _ stored | .revising _ stored => stored
  | .rolling _ => false

/-- Whether the request writes release records. -/
def Task.releases : Task → Bool
  | .persisting _ _ | .revising (.draft _) _ => false
  | .revising (.revision _ _) _ | .rolling _ => true

/-- The version of the revision that some records issue to an edge. -/
def issuedVersion (states : List ReleaseRecord) (edgeId : String) : Option String :=
  (states.find? fun state => state.edgeId = edgeId ∧ state.status = .pending).map
    ReleaseRecord.desiredVersion

def versionFor (package : EdgeConfigPackage) (edgeId : String) : Option String :=
  if package.edgeId = edgeId then some package.version else none

/-- The version of the configuration that a request writes for an edge. -/
def Task.version : Task → String → Option String
  | .persisting package _ => versionFor package
  | .revising (.draft package) _ => versionFor package
  | .revising (.revision package _) _ => versionFor package
  | .rolling plan => issuedVersion plan.releases

def Task.writing (request : Task) (edgeId : String) : Bool :=
  request.stored && (request.version edgeId).isSome

/-- The store, the requests that wait, and for every edge two versions that the store does not
know: of the configuration that was put into it last, and of the one whose request ended last. -/
structure State where
  store : CloudControlStore
  tasks : OrderedMap Nat Task
  written : String → Option String
  ended : String → Option String

def State.initial : State := ⟨.empty,.empty,fun _ => none,fun _ => none⟩

inductive Event where
  | catalog (write : CatalogWrite)
  | edit (task : Nat) (edgeId : String) (change : PackageEdit)
  | bind (task : Nat) (edgeId : String) (request : BindEdgeProductRequest)
  | post (task : Nat) (package : EdgeConfigPackage)
  | collect (task releaseId : Nat)
  | transition (task : Nat) (newId : String → Nat) (productId version : String) (rollback : Bool)
  | finish (task : Nat)
  | abort (task : Nat)
  | publishLatest (releaseId : Nat) (edgeId : String)
  | report (edgeId deployedVersion : String) (report : EdgeLinkConfigReport)
  | httpReport (edgeId : String) (request : EdgeReportedConfigRequest)

def Unused (store : CloudControlStore) (states : List ReleaseRecord) : Prop :=
  ∀ state ∈ states, state.status = .pending → store.releases.get state.releaseId = none ∧
      ∀ other ∈ states, other.status = .pending → other.releaseId = state.releaseId → other = state

instance (store : CloudControlStore) (states : List ReleaseRecord) :
    Decidable (Unused store states) :=
  inferInstanceAs (Decidable (∀ state ∈ states, _))

variable (checks : PackageChecks) (state : State)

def State.start (task : Nat) (request : Task) (store : CloudControlStore) : State :=
  match state.tasks.get task with
  | none =>
    { store := store
      tasks := state.tasks.put task request
      written := fun edgeId =>
        if request.stored then (request.version edgeId).or (state.written edgeId)
        else state.written edgeId
      ended := state.ended }
  | some _ => state

def State.finish (task : Nat) (request : Task) : State where
  store := request.apply state.store
  tasks := state.tasks.delete task
  written := fun edgeId =>
    if request.stored then state.written edgeId
    else (request.version edgeId).or (state.written edgeId)
  ended := fun edgeId => (request.version edgeId).or (state.ended edgeId)

def step : Event → State
  | .catalog write => { state with store := write.apply state.store }
  | .edit task edgeId change =>
    match startEdit state.store edgeId change with
    | .ok (package,store) => state.start task (.persisting package true) store
    | .error _ => state
  | .bind task edgeId request =>
    match startBinding state.store edgeId request with
    | .ok (package,store) => state.start task (.persisting package true) store
    | .error _ => state
  | .post task package => state.start task (.persisting package false) state.store
  | .collect task releaseId =>
    match state.tasks.get task with
    | some (.persisting package stored) =>
      let revision := planRevision checks state.store releaseId package
      { state with tasks := state.tasks.put task (.revising revision stored) }
    | _ => state
  | .transition task newId productId version rollback =>
    match planTransition checks state.store newId productId version rollback with
    | .ok (_,some plan) => state.start task (.rolling plan) state.store
    | _ => state
  | .finish task =>
    match state.tasks.get task with
    | some (.persisting _ _) => state
    | some request =>
      if Unused state.store request.states then state.finish task request else state
    | none => state
  | .abort task => { state with tasks := state.tasks.delete task }
  | .publishLatest releaseId edgeId =>
    if state.store.releases.get releaseId = none then
      match publishLatestReleaseForEdgeId checks state.store releaseId edgeId with
      | .ok store => { state with store := store }
      | .error _ => state
    else state
  | .report edgeId deployedVersion report =>
    match persistConfigReport state.store edgeId deployedVersion report with
    | .ok store => { state with store := store }
    | .error _ => state
  | .httpReport edgeId request =>
    match edgeReportedConfig state.store edgeId request with
    | .ok store => { state with store := store }
    | .error _ => state

def run (events : List Event) : State := events.foldl (step checks) .initial

/-- Every pending release of an edge that is written was already pending when the request looked. -/
def SawAllPending (store : CloudControlStore) (states : List ReleaseRecord) : Prop :=
  ∀ release ∈ store.releases.values, release.status = .pending →
    (∃ state ∈ states, state.edgeId = release.edgeId) →
      ∃ state ∈ states, state.releaseId = release.releaseId

/-- Reporting a version on a pending release: an applied one is not below another applied one, and
after a rejected one there is no applied release of another version to fall back to. -/
def CleanReport (store : CloudControlStore) (edgeId version : String)
    (pending : ReleaseRecord) : Prop :=
  if pending.desiredVersion = version then
    AppliedUpTo pending.desiredVersion (releasesWith store edgeId .applied)
  else
    ∀ release ∈ releasesWith store edgeId .applied, release.desiredVersion = pending.desiredVersion

instance (store : CloudControlStore) (states : List ReleaseRecord) :
    Decidable (SawAllPending store states) :=
  inferInstanceAs (Decidable (∀ release ∈ store.releases.values, _ → _ → _))

instance (store : CloudControlStore) (edgeId version : String) (pending : ReleaseRecord) :
    Decidable (CleanReport store edgeId version pending) := by
  unfold CleanReport
  infer_instance

/-- A package that was put into the store before is still the last one, and an incomplete one, which
gets no release, comes after none. -/
def CleanEnd : Task → Prop
  | .revising (.draft package) stored =>
    (stored = true → state.written package.edgeId = some package.version) ∧
      releasesWith state.store package.edgeId .pending = [] ∧
      releasesWith state.store package.edgeId .applied = []
  | .revising (.revision package _) stored =>
    stored = true → state.written package.edgeId = some package.version
  | _ => True

instance (state : State) (request : Task) : Decidable (CleanEnd state request) := by
  unfold CleanEnd
  split <;> infer_instance

def CleanStep : Event → Prop
  | .finish task =>
    ∀ request ∈ state.tasks.get task,
      SawAllPending state.store request.states ∧ CleanEnd state request
  | .abort task => ∀ request ∈ state.tasks.get task, request.stored = false
  | .publishLatest _ edgeId =>
    releasesWith state.store edgeId .pending = [] ∧
      ∀ package ∈ state.store.latestConfigPackageForEdge edgeId,
        state.ended edgeId = some package.version
  | .report edgeId _ report =>
    ∀ pending ∈ releasesWith state.store edgeId .pending,
      pending.desiredVersion = report.desiredVersion →
        CleanReport state.store edgeId report.reportedVersion pending
  | .httpReport edgeId request =>
    ∀ pending ∈ releasesWith state.store edgeId .pending,
      CleanReport state.store edgeId request.reportedVersion pending
  | _ => True

instance (state : State) (event : Event) : Decidable (CleanStep state event) := by
  cases event <;> unfold CleanStep <;> infer_instance

def CleanRun : State → List Event → Prop := Along (step checks) CleanStep

instance (state : State) (events : List Event) : Decidable (CleanRun checks state events) :=
  inferInstanceAs (Decidable (Along ..))

/-! ## What a request may write -/

/-- The records a waiting request holds: each was pending in the store under its edge or is new,
and every edge they are about gets one new release. -/
structure Prepared (store : CloudControlStore) (states : List ReleaseRecord) : Prop where
  known : ∀ state ∈ states, state.status = .pending ∨ state.status = .superseded ∧
    ∃ release, store.releases.get state.releaseId = some release ∧ release.edgeId = state.edgeId
  single : ∀ state ∈ states, ∀ other ∈ states, state.status = .pending →
    other.status = .pending → state.edgeId = other.edgeId → state = other
  issues : ∀ state ∈ states, ∃ new ∈ states, new.edgeId = state.edgeId ∧ new.status = .pending

def KeepsEdges (store after : CloudControlStore) : Prop :=
  ∀ id release, store.releases.get id = some release →
    ∃ later, after.releases.get id = some later ∧ later.edgeId = release.edgeId

variable {store after : CloudControlStore} {states : List ReleaseRecord}

theorem Prepared.nil : Prepared store [] := by constructor <;> simp

theorem Prepared.later (h : Prepared store states) (hk : KeepsEdges store after) :
    Prepared after states := by
  refine ⟨?_,h.single,h.issues⟩
  intro state hst
  rcases h.known state hst with hp | ⟨hs,rel,hg,he⟩
  · exact .inl hp
  · obtain ⟨later,hl,hsa⟩ := hk _ _ hg
    exact .inr ⟨hs,later,hl,hsa.trans he⟩

theorem Prepared.issued (newId : String → Nat) (ver : String) (edges : List String) :
    Prepared store (issuedReleases store newId ver edges) := by
  constructor
  · intro state hs
    rcases mem_issuedReleases.mp hs with ⟨rel,hm,-,-,rfl⟩ | ⟨edge,-,rfl⟩
    · exact .inr ⟨rfl,rel,mem_values.mp hm,rfl⟩
    · exact .inl rfl
  · intro state hs other hot hp ho he
    rcases mem_issuedReleases.mp hs with ⟨rel,-,-,-,rfl⟩ | ⟨edge,-,rfl⟩
    · cases hp
    · rcases mem_issuedReleases.mp hot with ⟨rel,-,-,-,rfl⟩ | ⟨another,-,rfl⟩
      · cases ho
      · have hsa : edge = another := he
        rw [hsa]
  · intro state hs
    have he : state.edgeId ∈ edges := by
      rcases mem_issuedReleases.mp hs with ⟨rel,-,he,-,rfl⟩ | ⟨edge,he,rfl⟩
      · exact he
      · exact he
    exact ⟨newRelease (newId state.edgeId) state.edgeId ver,
      mem_issuedReleases.mpr (.inr ⟨_,he,rfl⟩),rfl,rfl⟩

@[simp] theorem issuedVersion_append_new (store : CloudControlStore) (rid : Nat)
    (edge other ver : String) :
    issuedVersion (supersededReleases store edge ++ [newRelease rid edge ver]) other =
      if edge = other then some ver else none := by
  have hn : (supersededReleases store edge).find?
      (fun state => state.edgeId = other ∧ state.status = .pending) = none := by
    rw [List.find?_eq_none]
    intro state hs
    obtain ⟨rel,-,rfl⟩ := mem_map.mp hs
    simp [supersede]
  rw [issuedVersion,find?_append,hn,none_or]
  by_cases h : edge = other <;> simp [newRelease,h]

/-- A request holds prepared records, and those of a configuration issue its version. -/
structure Waiting (store : CloudControlStore) (request : Task) : Prop where
  prepared : Prepared store request.states
  named : request.releases = true → ∀ edgeId,
    issuedVersion request.states edgeId = request.version edgeId

theorem planRevision_waiting (store : CloudControlStore) (rid : Nat) (pkg : EdgeConfigPackage)
    (stored : Bool) :
    Waiting store (.revising (planRevision checks store rid pkg) stored) := by
  unfold planRevision
  split
  · exact ⟨.nil,fun h => nomatch h⟩
  · next rel hr =>
    rw [prepareRelease_ok hr]
    have h : Prepared store (issuedReleases store (fun _ => rid) pkg.version
        [pkg.edgeId]) := .issued _ _ _
    rw [issuedReleases,flatMap_cons,flatMap_nil,append_nil] at h
    exact ⟨h,fun _ edge => issuedVersion_append_new store rid pkg.edgeId edge pkg.version⟩

@[simp] theorem version_planRevision (store : CloudControlStore) (rid : Nat)
    (pkg : EdgeConfigPackage)
    (stored : Bool) :
    (Task.revising (planRevision checks store rid pkg) stored).version = versionFor pkg := by
  unfold planRevision
  split <;> rfl

variable {rel : ReleaseRecord}

section Writing

variable (hprepared : Prepared store states) (hunused : Unused store states)
  (hafter : after.releases = store.releases.insertAll states)

include hprepared hunused hafter

theorem keepsEdges_insertAll : KeepsEdges store after := by
  intro id rel hg
  rw [hafter]
  have hb : ((store.releases.insertAll states).get id).isSome = true :=
    isSome_get_insertAll (.inl (by rw [hg]; rfl))
  obtain ⟨later,hl⟩ := isSome_iff_exists.mp hb
  refine ⟨later,hl,?_⟩
  have hid := key_of_get hl
  rcases mem_values_insertAll (mem_values_of_get hl) with
    hstate | ⟨hold,-⟩
  · rcases hprepared.known later hstate with hp | ⟨-,known,hk,he⟩
    · have hn := (hunused later hstate hp).1
      rw [hid,hg] at hn
      cases hn
    · rw [hid,hg] at hk
      cases hk
      exact he.symm
  · rw [mem_values,hid,hg] at hold
    cases hold
    rfl

theorem releases_of_other_edge (ho : ∀ state ∈ states, state.edgeId ≠ edge)
    (he : rel.edgeId = edge) :
    rel ∈ after.releases.values ↔ rel ∈ store.releases.values := by
  rw [hafter]
  constructor
  · intro hm
    rcases mem_values_insertAll hm with hs | ⟨hol,-⟩
    · exact absurd he (ho rel hs)
    · exact hol
  · intro hm
    rw [mem_values] at hm ⊢
    rw [get_insertAll_of_ne states,hm]
    intro state hs hid
    rcases hprepared.known state hs with hp | ⟨-,known,hk,hsa⟩
    · have hn := (hunused state hs hp).1
      change store.releases.get state.releaseId = none at hn
      rw [hid,hm] at hn
      cases hn
    · rw [hid,hm] at hk
      cases hk
      exact ho state hs (hsa.symm.trans he)

theorem pending_of_written_edge (hsa : SawAllPending store states) {new rel : ReleaseRecord}
    (hn : new ∈ states) (hst : new.status = .pending) :
    rel ∈ releasesWith after new.edgeId .pending ↔ rel = new := by
  rw [releasesWith,mem_filter,decide_eq_true_eq,hafter]
  constructor
  · rintro ⟨hm,he,hp⟩
    rcases mem_values_insertAll hm with hs | ⟨hol,ho⟩
    · exact hprepared.single rel hs new hn hp hst he
    · obtain ⟨state,hs,hid⟩ := hsa rel hol hp ⟨new,hn,he.symm⟩
      exact absurd hid (ho state hs)
  · rintro rfl
    refine ⟨?_,rfl,hst⟩
    rw [mem_values]
    refine get_insertAll_of_mem hn ?_
    intro state hs hid
    -- a record that was there before has an id in use, the new one has not
    rcases hprepared.known state hs with hp | ⟨-,known,hk,-⟩
    · exact (hunused rel hn hst).2 state hs hp hid
    · have hno := (hunused rel hn hst).1
      change state.releaseId = rel.releaseId at hid
      rw [hid,hno] at hk
      cases hk

end Writing

variable {store : CloudControlStore}

/-! ## Invariant -/

section Invariant

variable {checks} {state : State}

structure EdgeOk (store : CloudControlStore) (written : Option String) (edgeId : String) :
    Prop where
  single : ∀ release ∈ releasesWith store edgeId .pending,
    ∀ other ∈ releasesWith store edgeId .pending, release = other
  current : ∀ release ∈ releasesWith store edgeId .pending,
    written = some release.desiredVersion
  /-- With nothing pending, the revision written last is applied and none is above it. -/
  applied : releasesWith store edgeId .pending = [] →
    ∀ release ∈ releasesWith store edgeId .applied,
      ∃ last ∈ releasesWith store edgeId .applied,
        written = some last.desiredVersion ∧ release.desiredVersion ≤ last.desiredVersion

structure Invariant (state : State) : Prop where
  edges : ∀ edgeId, EdgeOk state.store (state.ended edgeId) edgeId
  waiting : ∀ task request, state.tasks.get task = some request → Waiting state.store request
  order : ∀ edgeId, state.written edgeId = state.ended edgeId ∨
    ∃ task request, state.tasks.get task = some request ∧ request.writing edgeId = true

variable {store after : CloudControlStore} {written : Option String}

theorem EdgeOk.congr (h : EdgeOk store written edge)
    (hsa : ∀ rel : ReleaseRecord, rel.edgeId = edge →
      (rel ∈ after.releases.values ↔ rel ∈ store.releases.values)) :
    EdgeOk after written edge := by
  have hw : ∀ status rel, rel ∈ releasesWith after edge status ↔
      rel ∈ releasesWith store edge status := by
    intro status rel
    rw [mem_releasesWith,mem_releasesWith]
    constructor
    · rintro ⟨hm,he,hs⟩
      exact ⟨(hsa rel he).mp hm,he,hs⟩
    · rintro ⟨hm,he,hs⟩
      exact ⟨(hsa rel he).mpr hm,he,hs⟩
  constructor
  · intro rel hr other ho
    exact h.single rel ((hw _ _).mp hr) other ((hw _ _).mp ho)
  · intro rel hr
    exact h.current rel ((hw _ _).mp hr)
  · intro hn rel hr
    have hno : releasesWith store edge .pending = [] := by
      rw [eq_nil_iff_forall_not_mem] at hn ⊢
      intro other ho
      exact hn other ((hw _ _).mpr ho)
    obtain ⟨last,hl,hwr,hle⟩ := h.applied hno rel ((hw _ _).mp hr)
    exact ⟨last,(hw _ _).mpr hl,hwr,hle⟩

theorem EdgeOk.of_pending {new : ReleaseRecord}
    (h : ∀ rel, rel ∈ releasesWith store edge .pending ↔ rel = new) :
    EdgeOk store (some new.desiredVersion) edge := by
  constructor
  · intro rel hr other ho
    rw [(h rel).mp hr,(h other).mp ho]
  · intro rel hr
    rw [(h rel).mp hr]
  · intro hn
    have hne := (h new).mpr rfl
    rw [hn] at hne
    cases hne

theorem EdgeOk.of_none
    (h : releasesWith store edge .pending = [] ∧ releasesWith store edge .applied = []) :
    EdgeOk store written edge := by
  constructor <;> simp [h.1,h.2]

theorem keepsEdges_of_eq (h : after.releases = store.releases) : KeepsEdges store after := by
  intro id rel hg
  exact ⟨rel,by rw [h]; exact hg,rfl⟩

theorem Waiting.persisting (pkg : EdgeConfigPackage) (stored : Bool) :
    Waiting store (.persisting pkg stored) :=
  ⟨.nil,fun h => nomatch h⟩

theorem Waiting.later {req : Task} (h : Waiting store req) (hk : KeepsEdges store after) :
    Waiting after req :=
  ⟨h.prepared.later hk,h.named⟩

theorem Invariant.quiet (hs : Invariant state) {next : State}
    (hr : next.store.releases = state.store.releases) (he : next.ended = state.ended)
    (ht : ∀ task req, next.tasks.get task = some req →
      state.tasks.get task = some req ∨ Waiting state.store req)
    (ho : ∀ edge, next.written edge = next.ended edge ∨
      ∃ task req, next.tasks.get task = some req ∧ req.writing edge = true) :
    Invariant next := by
  refine ⟨?_,?_,ho⟩
  · intro edge
    rw [he]
    exact (hs.edges edge).congr fun rel _ => by rw [hr]
  · intro task req hre
    have hk := keepsEdges_of_eq hr
    rcases ht task req hre with ho | hn
    · exact (hs.waiting task req ho).later hk
    · exact hn.later hk

theorem Invariant.start (hs : Invariant state) (task : Nat) {req : Task}
    (hr : store.releases = state.store.releases) (hre : Waiting state.store req) :
    Invariant (state.start task req store) := by
  unfold State.start
  split
  · next hfree =>
    refine hs.quiet hr rfl ?_ ?_
    · intro other found hf
      rw [get_put] at hf
      split at hf
      · cases hf
        exact .inr hre
      · exact .inl hf
    · intro edge
      have hold : state.written edge = state.ended edge ∨ ∃ other found,
          (state.tasks.put task req).get other = some found ∧ found.writing edge = true := by
        refine (hs.order edge).imp_right ?_
        rintro ⟨other,found,hf,hw⟩
        refine ⟨other,found,?_,hw⟩
        rw [get_put_of_ne,hf]
        rintro rfl
        cases hfree.symm.trans hf
      dsimp only
      split
      · next hst =>
        cases hv : req.version edge with
        | none => exact hold
        | some ver => exact .inr ⟨task,req,by simp,by simp [Task.writing,hst,hv]⟩
      · exact hold
  · exact hs

section

variable {req : Task} (hc : CleanEnd state req) (hn : ∀ pkg stored, req ≠ .persisting pkg stored)
include hc hn

/-- The packages that end in order leave the last one of the store behind. -/
theorem CleanEnd.written_eq (hst : req.stored = true) (hv : req.version edge = some ver) :
    state.written edge = some ver := by
  cases req with
  | persisting pkg stored => exact absurd rfl (hn pkg stored)
  | rolling plan => cases hst
  | revising revision stored =>
    have hw : ∀ pkg : EdgeConfigPackage, state.written pkg.edgeId = some pkg.version →
        versionFor pkg edge = some ver → state.written edge = some ver := by
      intro pkg hp he
      unfold versionFor at he
      split at he
      · next h => rw [← h,hp,← he]
      · cases he
    cases revision with
    | draft pkg => exact hw pkg (hc.1 hst) hv
    | revision pkg states => exact hw pkg (hc hst) hv

/-- Only an incomplete package has a version and no record. -/
theorem CleanEnd.none_of_draft (hw : Waiting state.store req)
    (hf : req.states.find? (fun state => state.edgeId = edge ∧ state.status = .pending) = none)
    (hv : req.version edge = some ver) :
    releasesWith state.store edge .pending = [] ∧ releasesWith state.store edge .applied = [] := by
  have hr : req.releases = false := by
    by_contra h
    have hna := hw.named (by simpa using h) edge
    rw [hv,issuedVersion,hf] at hna
    cases hna
  cases req with
  | persisting pkg stored => exact absurd rfl (hn pkg stored)
  | rolling plan => cases hr
  | revising revision stored =>
    cases revision with
    | draft pkg =>
      have he : pkg.edgeId = edge := by
        by_contra h
        simp [Task.version,versionFor,h] at hv
      rw [← he]
      exact hc.2
    | revision pkg states => cases hr

theorem order_finish (hs : Invariant state) (hr : state.tasks.get task = some req) (edge : String) :
    (state.finish task req).written edge = (state.finish task req).ended edge ∨
      ∃ other found, (state.finish task req).tasks.get other = some found ∧
        found.writing edge = true := by
  have hold : req.version edge = none → state.written edge = state.ended edge ∨ ∃ other found,
      (state.tasks.delete task).get other = some found ∧ found.writing edge = true := by
    intro hv
    refine (hs.order edge).imp_right ?_
    rintro ⟨other,found,hf,hw⟩
    refine ⟨other,found,?_,hw⟩
    rw [get_delete_of_ne,hf]
    rintro rfl
    rw [hr] at hf
    cases hf
    simp [Task.writing,hv] at hw
  simp only [State.finish]
  cases hv : req.version edge with
  | none => simpa using hold hv
  | some ver =>
    left
    split
    · next hst => rw [hc.written_eq hn hst hv,some_or]
    · rfl

theorem Invariant.finish (hs : Invariant state) (hr : state.tasks.get task = some req)
    (hunused : Unused state.store req.states) (hsw : SawAllPending state.store req.states) :
    Invariant (state.finish task req) := by
  have hwaiting := hs.waiting task req hr
  have hprepared := hwaiting.prepared
  have hafter : (req.apply state.store).releases = state.store.releases.insertAll req.states := by
    cases req with
    | persisting pkg => rfl
    | rolling plan => rfl
    | revising revision => cases revision <;> rfl
  refine ⟨?_,?_,order_finish hc hn hs hr⟩
  · intro edge
    change EdgeOk (req.apply state.store) ((req.version edge).or (state.ended edge)) edge
    cases hf : req.states.find? fun state =>
        state.edgeId = edge ∧ state.status = .pending with
    | some new =>
      have hne := mem_of_find?_eq_some hf
      have hnew : new.edgeId = edge ∧ new.status = .pending := by simpa using List.find?_some hf
      have hre : req.releases = true := by
        cases req with
        | persisting pkg stored => cases hne
        | rolling plan => rfl
        | revising revision stored => cases revision with
          | draft pkg => cases hne
          | revision pkg states => rfl
      have hv : req.version edge = some new.desiredVersion := by
        rw [← hwaiting.named hre,issuedVersion,hf,map_some]
      rw [hv,some_or,← hnew.1]
      apply EdgeOk.of_pending
      intro rel
      exact pending_of_written_edge hprepared hunused hafter hsw hne hnew.2
    | none =>
      have ho : ∀ state ∈ req.states, state.edgeId ≠ edge := by
        intro known hk he
        obtain ⟨new,hne,hsa,hp⟩ := hprepared.issues known hk
        have := List.find?_eq_none.mp hf new hne
        simp [hsa,he,hp] at this
      have hsame := fun rel he => @releases_of_other_edge _ _ _ rel hprepared hunused hafter _ ho he
      cases hv : req.version edge with
      | none => exact (hs.edges edge).congr hsame
      | some ver => exact (EdgeOk.of_none (hc.none_of_draft hn hwaiting hf hv)).congr hsame
  · intro other waiting hw
    change (state.tasks.delete task).get other = some waiting at hw
    rw [get_delete] at hw
    split at hw
    · cases hw
    · exact (hs.waiting other waiting hw).later (keepsEdges_insertAll hprepared hunused hafter)

end

section Report

variable {store after : CloudControlStore} {written : Option String} {edge ver : String}
  {pending : ReleaseRecord}

theorem EdgeOk.reported (h : EdgeOk store written edge)
    (hp : pending ∈ releasesWith store edge .pending)
    (hafter : after.releases = store.releases.insert (reported ver pending))
    (hc : CleanReport store edge ver pending) : EdgeOk after written edge := by
  obtain ⟨hm,he,hs⟩ := mem_releasesWith.mp hp
  have hno : releasesWith after edge .pending = [] := by
    rw [eq_nil_iff_forall_not_mem]
    intro rel hr
    obtain ⟨hva,hn,hw⟩ := mem_releasesWith.mp hr
    rw [hafter,mem_values_insert] at hva
    rcases hva with rfl | ⟨hid,ho⟩
    · simp only [ReleaseService.reported] at hw
      split at hw <;> cases hw
    · refine hid ?_
      rw [h.single rel (mem_releasesWith.mpr ⟨ho,hn,hw⟩) pending hp]
      rfl
  have ha : ∀ rel, rel ∈ releasesWith after edge .applied ↔ rel ∈ releasesWith store edge .applied ∨
        rel = ReleaseService.reported ver pending ∧ pending.desiredVersion = ver := by
    intro rel
    rw [mem_releasesWith,mem_releasesWith,hafter,mem_values_insert]
    constructor
    · rintro ⟨rfl | ⟨-,ho⟩,hn,hd⟩
      · refine .inr ⟨rfl,?_⟩
        simp only [ReleaseService.reported] at hd
        split at hd
        · assumption
        · cases hd
      · exact .inl ⟨ho,hn,hd⟩
    · rintro (⟨ho,hn,hd⟩ | ⟨rfl,hv⟩)
      · refine ⟨.inr ⟨?_,ho⟩,hn,hd⟩
        intro hid
        rw [eq_of_mem_values ho hm hid,hs] at hd
        cases hd
      · exact ⟨.inl rfl,he,by simp [ReleaseService.reported,hv]⟩
  refine ⟨by simp [hno],by simp [hno],?_⟩
  intro _ rel hr
  have hwr := h.current pending hp
  unfold CleanReport at hc
  split at hc
  · next hv =>
    refine ⟨ReleaseService.reported ver pending,(ha _).mpr (.inr ⟨rfl,hv⟩),hwr,?_⟩
    rcases (ha rel).mp hr with ho | ⟨rfl,-⟩
    · exact hc rel ho (mem_releasesWith.mp ho).2.2
    · exact le_refl _
  · next hv =>
    rcases (ha rel).mp hr with ho | ⟨-,hsa⟩
    · exact ⟨rel,hr,by rw [hwr,hc rel ho],le_refl _⟩
    · exact absurd hsa hv

private theorem other_edge_reported (hp : pending ∈ releasesWith store edge .pending)
    (hafter : after.releases = store.releases.insert (reported ver pending))
    (ho : rel.edgeId ≠ edge) :
    rel ∈ after.releases.values ↔ rel ∈ store.releases.values := by
  obtain ⟨hm,he,-⟩ := mem_releasesWith.mp hp
  rw [hafter,mem_values_insert]
  constructor
  · rintro (rfl | ⟨-,hol⟩)
    · exact absurd he ho
    · exact hol
  · intro hol
    refine .inr ⟨?_,hol⟩
    intro hid
    rw [eq_of_mem_values hol hm hid] at ho
    exact ho he

theorem keepsEdges_insert (hafter : after.releases = store.releases.insert rel)
    (hs : ∀ old, store.releases.get rel.releaseId = some old → old.edgeId = rel.edgeId) :
    KeepsEdges store after := by
  intro id old hg
  rw [hafter,get_insert]
  split
  · next hid =>
    rw [hid] at hg
    exact ⟨rel,rfl,(hs old hg).symm⟩
  · exact ⟨old,hg,rfl⟩

end Report

theorem Invariant.reported (hs : Invariant state) {ver : String} {pending : ReleaseRecord}
    (hp : pending ∈ releasesWith state.store edge .pending)
    (hafter : store.releases = state.store.releases.insert (reported ver pending))
    (hc : CleanReport state.store edge ver pending) :
    Invariant { state with store := store } := by
  refine ⟨?_,?_,hs.order⟩
  · intro other
    by_cases ho : other = edge
    · subst ho
      exact (hs.edges other).reported hp hafter hc
    · refine (hs.edges other).congr ?_
      intro rel he
      exact other_edge_reported hp hafter fun h => ho (he.symm.trans h)
  · intro task req hr
    refine (hs.waiting task req hr).later (keepsEdges_insert hafter ?_)
    intro old hg
    have hm := mem_values.mp (mem_releasesWith.mp hp).1
    change state.store.releases.get pending.releaseId = some old at hg
    rw [hm] at hg
    cases hg
    rfl

theorem Invariant.published (hs : Invariant state) {ver : String}
    (hunused : state.store.releases.get rid = none)
    (hn : releasesWith state.store edge .pending = []) (hw : state.ended edge = some ver)
    (hafter : store.releases = state.store.releases.insert (newRelease rid edge ver)) :
    Invariant { state with store := store } := by
  have hi : ∀ rel ∈ state.store.releases.values, rel.releaseId ≠ rid := by
    intro rel hm hid
    rw [mem_values,hid,hunused] at hm
    cases hm
  refine ⟨?_,?_,hs.order⟩
  · intro other
    change EdgeOk store (state.ended other) other
    by_cases hot : other = edge
    · subst hot
      rw [hw]
      change EdgeOk store (some (newRelease rid other ver).desiredVersion) other
      apply EdgeOk.of_pending
      intro rel
      rw [mem_releasesWith,hafter,mem_values_insert]
      constructor
      · rintro ⟨rfl | ⟨-,ho⟩,hna,hp⟩
        · rfl
        · have hm := mem_releasesWith.mpr ⟨ho,hna,hp⟩
          rw [hn] at hm
          cases hm
      · rintro rfl
        exact ⟨.inl rfl,rfl,rfl⟩
    · refine (hs.edges other).congr ?_
      intro rel he
      rw [hafter,mem_values_insert]
      constructor
      · rintro (rfl | ⟨-,ho⟩)
        · exact absurd he.symm hot
        · exact ho
      · intro ho
        exact .inr ⟨hi rel ho,ho⟩
  · intro task req hr
    refine (hs.waiting task req hr).later (keepsEdges_insert hafter ?_)
    intro old hg
    change state.store.releases.get rid = some old at hg
    rw [hunused] at hg
    cases hg

theorem Invariant.initial : Invariant .initial where
  edges := fun _ => by constructor <;> simp [State.initial,releasesWith,CloudControlStore.empty]
  waiting := by simp [State.initial]
  order := fun _ => .inl rfl

theorem Invariant.step {ev : Event} (hs : Invariant state) (hc : CleanStep state ev) :
    Invariant (step checks state ev) := by
  cases ev with
  | catalog write =>
    refine hs.quiet ?_ rfl (fun _ _ h => .inl h) hs.order
    cases write <;> rfl
  | edit task edge change =>
    simp only [PendingReleases.step]
    split
    · next pkg store hsta =>
      exact hs.start task (startEdit_releases hsta) (.persisting _ _)
    · exact hs
  | bind task edge req =>
    simp only [PendingReleases.step]
    split
    · next pkg store hsta =>
      exact hs.start task (startBinding_releases hsta) (.persisting _ _)
    · exact hs
  | post task pkg => exact hs.start task rfl (.persisting _ _)
  | collect task rid =>
    simp only [PendingReleases.step]
    split
    · next pkg stored hpa =>
      refine hs.quiet rfl rfl ?_ ?_
      · intro other found hf
        change (state.tasks.put task _).get other = some found at hf
        rw [get_put] at hf
        split at hf
        · cases hf
          exact .inr (planRevision_waiting checks state.store rid pkg stored)
        · exact .inl hf
      · intro edge
        refine (hs.order edge).imp_right ?_
        rintro ⟨other,found,hf,hw⟩
        by_cases ho : other = task
        · rw [ho,hpa] at hf
          cases hf
          refine ⟨task,_,get_put_self _ _ _,?_⟩
          rw [Task.writing,version_planRevision]
          exact hw
        · exact ⟨other,found,(get_put_of_ne _ _ ho).trans hf,hw⟩
    · exact hs
  | transition task newId prod ver rollback =>
    simp only [PendingReleases.step]
    split
    · next published plan hpl =>
      refine hs.start task rfl ⟨?_,fun _ _ => rfl⟩
      change Prepared state.store plan.releases
      obtain ⟨hn,-⟩ | ⟨_,hw,-,hr,-⟩ := planTransition_ok hpl
      · cases hn
      · cases hw
        rw [hr]
        exact .issued _ _ _
    · exact hs
  | finish task =>
    simp only [PendingReleases.step]
    split
    · exact hs
    · next req hn hre =>
      split
      · next hunused => exact hs.finish (hc req hre).2 hn hre hunused (hc req hre).1
      · exact hs
    · exact hs
  | abort task =>
    refine hs.quiet rfl rfl ?_ ?_
    · intro other found hf
      change (state.tasks.delete task).get other = some found at hf
      rw [get_delete] at hf
      split at hf
      · cases hf
      · exact .inl hf
    · intro edge
      refine (hs.order edge).imp_right ?_
      rintro ⟨other,found,hf,hw⟩
      refine ⟨other,found,?_,hw⟩
      change (state.tasks.delete task).get other = some found
      rw [get_delete_of_ne,hf]
      rintro rfl
      simp [Task.writing,hc found hf] at hw
  | publishLatest rid edge =>
    simp only [PendingReleases.step]
    split
    · next hunused =>
      split
      · next store hst =>
        obtain ⟨pkg,hl,he,rfl⟩ := publishLatestReleaseForEdgeId_ok hst
        exact hs.published hunused hc.1 (hc.2 pkg hl) rfl
      · exact hs
    · exact hs
  | report edge deployedVersion rep =>
    simp only [PendingReleases.step]
    split
    · next store hst =>
      obtain ⟨-,hq | ⟨rel,hf,hr⟩⟩ := persistConfigReport_ok hst
      · exact hs.quiet hq rfl (fun _ _ h => .inl h) hs.order
      · obtain ⟨hm,he,hv,hp⟩ := reportableRelease_eq_some hf
        have hw := mem_releasesWith.mpr ⟨hm,he,hp⟩
        exact hs.reported hw hr (hc rel hw hv)
    · exact hs
  | httpReport edge req =>
    simp only [PendingReleases.step]
    split
    · next store hst =>
      obtain ⟨rel,hm,-,hr⟩ := edgeReportedConfig_ok hst
      exact hs.reported hm hr (hc rel hm)
    · exact hs

end Invariant

/-! ## Two writes of one edge -/

def written (version : String) : EdgeConfigPackage := .new "edge-1" version

end VelaEdge.Cloud.PendingReleases
