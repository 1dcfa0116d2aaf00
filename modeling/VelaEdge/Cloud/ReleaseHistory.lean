import VelaEdge.Base.Runs
import VelaEdge.Cloud.Release

/-! Histories of releases: requests create them, runtimes report on them, and the gateway chooses
what to deploy next. -/
namespace VelaEdge.Cloud.ReleaseHistory

open Base Core ReleaseService Option Registry List

/-- The store with what it does not keep itself: the ids of all releases in the order of their
creation, and the package that each of them was created for. -/
structure State where
  store : CloudControlStore
  created : List Nat
  released : Nat → Option EdgeConfigPackage

def State.initial : State := ⟨.empty,[],fun _ => none⟩

inductive CatalogWrite where
  | edge (node : EdgeNode)
  | product (entry : Product)
  | productVersion (entry : ProductVersion)
  | pointSet (entry : PointSet)

def CatalogWrite.apply (store : CloudControlStore) : CatalogWrite → CloudControlStore
  | .edge node => store.registerEdge node
  | .product entry => store.upsertProduct entry
  | .productVersion entry => store.upsertProductVersion entry
  | .pointSet entry => store.upsertPointSet entry

inductive Event where
  | catalog (write : CatalogWrite)
  | edit (releaseId : Nat) (package : EdgeConfigPackage)
  | transition (newId : String → Nat) (productId version : String) (rollback : Bool)
  | publishLatest (releaseId : Nat) (edgeId : String)
  | connect (session : EdgeGatewaySession) (answer : Option EdgeLinkMessage)
  /-- The report on a deployment that other requests came after. -/
  | report (edgeId deployedVersion : String) (report : EdgeLinkConfigReport)

def releasedPackage (store : CloudControlStore) (id : Nat) : Option EdgeConfigPackage :=
  (store.releases.get id).bind fun release =>
    store.configPackage release.edgeId release.desiredVersion

namespace State

variable (state : State)

def Fresh (ids : List Nat) : Prop := ids.Nodup ∧ ∀ id ∈ ids, state.store.releases.get id = none

instance (ids : List Nat) : Decidable (state.Fresh ids) :=
  inferInstanceAs (Decidable (_ ∧ ∀ id ∈ ids, _))

def advance (ids : List Nat) (store : CloudControlStore) : State :=
  let issued := ids.filter fun id => (store.releases.get id).isSome
  { store := store
    created := state.created ++ issued
    released := fun id => if id ∈ issued then releasedPackage store id else state.released id }

def ofEdge (edgeId : String) : List ReleaseRecord :=
  (state.store.releases.select state.created).filter fun release => release.edgeId = edgeId

end State

variable (checks : PackageChecks)

/-- A failed request changes nothing. -/
def step (state : State) : Event → State
  | .catalog write => { state with store := write.apply state.store }
  | .edit releaseId package =>
    if state.Fresh [releaseId] then
      state.advance [releaseId] (persistConfigPackage checks state.store releaseId package)
    else state
  | .transition newId productId version rollback =>
    let ids := (rolloutEdges state.store productId).map fun edge => newId edge.edgeId
    if state.Fresh ids then
      match transitionProductVersion checks state.store newId productId version rollback with
      | .ok (_,store) => state.advance ids store
      | .error _ => state
    else state
  | .publishLatest releaseId edgeId =>
    if state.Fresh [releaseId] then
      match publishLatestReleaseForEdgeId checks state.store releaseId edgeId with
      | .ok store => state.advance [releaseId] store
      | .error _ => state
    else state
  | .connect session answer =>
    match deployPendingConfigIfAvailable state.store session answer with
    | .ok (_,store) => { state with store := store }
    | .error _ => state
  | .report edgeId deployedVersion report =>
    match persistConfigReport state.store edgeId deployedVersion report with
    | .ok store => { state with store := store }
    | .error _ => state

def run (events : List Event) : State := events.foldl (step checks) .initial

variable (release : ReleaseRecord)

def notRejected : Bool := release.status ≠ .failed

/-- The most recently created release of an edge that was not rejected. -/
def intent (state : State) (edgeId : String) : Option ReleaseRecord :=
  latest notRejected (state.ofEdge edgeId)

/-- What a runtime should be sent: the package that the current intent was created for, unless
that is applied and the runtime runs it. -/
def intendedPackage (state : State) (edgeId : String) (runtimeVersion : Option String) :
    Option EdgeConfigPackage :=
  (intent state edgeId).bind fun release =>
    if release.status = .applied ∧ runtimeVersion = some release.desiredVersion then none
    else state.released release.releaseId

/-- The gateway deploys the current intent, and its package is there to be deployed. -/
def DeploysIntent (state : State) (edgeId : String) (runtimeVersion : Option String) : Prop :=
  deployableConfigPackage state.store edgeId runtimeVersion =
      intendedPackage state edgeId runtimeVersion ∧
    ∀ release, intent state edgeId = some release →
      (state.released release.releaseId).isSome = true

/-- The package under the version of the release is the one the release was created for. -/
def Stored (state : State) (edgeId : String) (release : ReleaseRecord) : Prop :=
  state.store.configPackage edgeId release.desiredVersion = state.released release.releaseId

instance (state : State) (edgeId : String) (release : ReleaseRecord) :
    Decidable (Stored state edgeId release) :=
  inferInstanceAs (Decidable (_ = _))

/-- A report on a pending release leaves the intent where the gateway looks for it: an applied
release is not below another applied one, and what a rejection falls back to was neither set aside
nor overwritten. -/
def CleanReport (state : State) (edgeId : String) (report : EdgeLinkConfigReport) : Prop :=
  ∀ pending ∈ state.ofEdge edgeId,
    pending.status = .pending → pending.desiredVersion = report.desiredVersion →
      if report.reportedVersion = report.desiredVersion then
        AppliedUpTo report.desiredVersion (state.ofEdge edgeId)
      else
        ∀ release ∈ latest (fun release => notRejected release ∧ release.status ≠ .pending)
          (state.ofEdge edgeId), release.status ≠ .superseded ∧ Stored state edgeId release

instance (state : State) (edgeId : String) (report : EdgeLinkConfigReport) :
    Decidable (CleanReport state edgeId report) := by
  unfold CleanReport
  infer_instance

/-- An incomplete package, which gets no release, does not replace the package of the intent. -/
def CleanEdit (state : State) (package : EdgeConfigPackage) : Prop :=
  ∀ release ∈ intent state package.edgeId, release.desiredVersion = package.version →
    ConfigValidator.validatePackage checks package = []

instance (state : State) (package : EdgeConfigPackage) :
    Decidable (CleanEdit checks state package) :=
  inferInstanceAs (Decidable (∀ release ∈ intent state package.edgeId, _))

def CleanStep (state : State) : Event → Prop
  | .edit _ package => CleanEdit checks state package
  | .publishLatest _ edgeId => ∀ release ∈ state.ofEdge edgeId, release.status ≠ .pending
  | .connect session answer =>
    ∀ report ∈ answer.bind EdgeLinkMessage.configReport, CleanReport state session.edgeId report
  | .report edgeId _ report => CleanReport state edgeId report
  | _ => True

instance (state : State) (event : Event) : Decidable (CleanStep checks state event) := by
  cases event <;> unfold CleanStep <;> infer_instance

def CleanRun : State → List Event → Prop := Along (step checks) (CleanStep checks)

instance (state : State) (events : List Event) : Decidable (CleanRun checks state events) :=
  inferInstanceAs (Decidable (Along ..))

/-! ## What a step does -/

def Keeps (state next : State) : Prop := ∀ key, (state.store.configPackages.get key).isSome = true →
    (next.store.configPackages.get key).isSome = true

/-- A release of a version to each of some edges. -/
structure Issues (state next : State) (newId : String → Nat) (version : String)
    (edgeIds : List String) : Prop where
  distinct : edgeIds.Nodup
  fresh : state.Fresh (edgeIds.map newId)
  created : next.created = state.created ++ edgeIds.map newId
  releases : next.store.releases =
    state.store.releases.insertAll (issuedReleases state.store newId version edgeIds)
  packaged : ∀ edgeId ∈ edgeIds, (next.store.configPackage edgeId version).isSome = true
  released : ∀ id, next.released id =
    if id ∈ edgeIds.map newId then releasedPackage next.store id else state.released id
  packages : ∀ edgeId ∉ edgeIds, ∀ version,
    next.store.configPackage edgeId version = state.store.configPackage edgeId version

structure Reports (state next : State) (version : String) (release : ReleaseRecord) : Prop where
  stored : release ∈ state.store.releases.values
  created : next.created = state.created
  released : next.released = state.released
  releases : next.store.releases = state.store.releases.insert (reported version release)
  packages : next.store.configPackages = state.store.configPackages

inductive Change (state next : State) : Prop
  | quiet (created : next.created = state.created) (released : next.released = state.released)
      (releases : next.store.releases = state.store.releases)
      (packages : ∀ edgeId, ∀ release ∈ intent state edgeId,
        next.store.configPackage edgeId release.desiredVersion =
          state.store.configPackage edgeId release.desiredVersion)
  | issued (newId : String → Nat) (version : String) (edgeIds : List String)
      (issues : Issues state next newId version edgeIds)
  | reported (edgeId : String) (report : EdgeLinkConfigReport) (release : ReleaseRecord)
      (clean : CleanReport state edgeId report)
      (found : reportableRelease state.store edgeId report.desiredVersion = some release)
      (reports : Reports state next report.reportedVersion release)

variable {rel : ReleaseRecord}

section Issuing

variable {store : CloudControlStore} {newId : String → Nat} {ver : String}
  {edgeIds : List String}

@[simp] theorem mem_issuedReleases : item ∈ issuedReleases store newId ver edgeIds ↔
      (∃ rel ∈ store.releases.values, rel.edgeId ∈ edgeIds ∧ rel.status = .pending ∧
        item = supersede rel) ∨
      ∃ edge ∈ edgeIds, item = newRelease (newId edge) edge ver := by
  simp only [issuedReleases,supersededReleases,mem_flatMap,mem_append,List.mem_map,
    mem_filter,mem_singleton,decide_eq_true_eq]
  constructor
  · rintro ⟨edge,he,⟨rel,⟨hm,rfl,hp⟩,rfl⟩ | rfl⟩
    · exact .inl ⟨rel,hm,he,hp,rfl⟩
    · exact .inr ⟨edge,he,rfl⟩
  · rintro (⟨rel,hm,he,hp,rfl⟩ | ⟨edge,he,rfl⟩)
    · exact ⟨rel.edgeId,he,.inl ⟨rel,⟨hm,rfl,hp⟩,rfl⟩⟩
    · exact ⟨edge,he,.inr rfl⟩

/-- What issuing a version makes of the releases that were there. -/
def setAside (edgeIds : List String) (release : ReleaseRecord) : ReleaseRecord :=
  if release.edgeId ∈ edgeIds ∧ release.status = .pending then supersede release else release

theorem get_issued_old {id : Nat} (hf : ∀ edge ∈ edgeIds, store.releases.get (newId edge) = none)
    (h : store.releases.get id = some rel) :
    (store.releases.insertAll (issuedReleases store newId ver edgeIds)).get id =
      some (setAside edgeIds rel) := by
  have hid : rel.releaseId = id := key_of_get h
  have hm := mem_values_of_get h
  have hn : ∀ edge ∈ edgeIds, newId edge ≠ id := by
    intro edge he heq
    rw [← heq,hf edge he] at h
    cases h
  unfold setAside
  split
  · next hp =>
    have hk : (supersede rel).releaseId = id := hid
    rw [← hk]
    apply get_insertAll_of_mem
    · exact mem_issuedReleases.mpr (.inl ⟨rel,hm,hp.1,hp.2,rfl⟩)
    · intro item hi heq
      rcases mem_issuedReleases.mp hi with ⟨other,ho,-,-,rfl⟩ | ⟨edge,he,rfl⟩
      · rw [eq_of_mem_values ho hm heq]
      · exact absurd (heq.trans hk) (hn edge he)
  · next hke =>
    rw [get_insertAll_of_ne,h]
    intro item hi heq
    rcases mem_issuedReleases.mp hi with
      ⟨other,ho,he,hp,rfl⟩ | ⟨edge,he,rfl⟩
    · rw [eq_of_mem_values ho hm (heq.trans hid.symm)] at he hp
      exact hke ⟨he,hp⟩
    · exact hn edge he heq

theorem eq_new_of_unused (hu : store.releases.get item.releaseId = none)
    (hi : item ∈ issuedReleases store newId ver edgeIds) :
    ∃ edge ∈ edgeIds, item = newRelease (newId edge) edge ver := by
  refine (mem_issuedReleases.mp hi).resolve_left ?_
  rintro ⟨other,ho,-,-,rfl⟩
  cases (mem_values.mp ho).symm.trans hu

theorem get_issued_new (he : edge ∈ edgeIds)
    (hf : ∀ edge ∈ edgeIds, store.releases.get (newId edge) = none)
    (hd : (edgeIds.map newId).Nodup) :
    (store.releases.insertAll (issuedReleases store newId ver edgeIds)).get (newId edge) =
      some (newRelease (newId edge) edge ver) := by
  have hm : newRelease (newId edge) edge ver ∈ issuedReleases store newId ver edgeIds :=
    mem_issuedReleases.mpr (.inr ⟨edge,he,rfl⟩)
  refine get_insertAll_of_mem hm ?_
  intro item hi heq
  obtain ⟨other,ho,rfl⟩ := eq_new_of_unused (heq ▸ hf edge he) hi
  rw [inj_on_of_nodup_map hd ho he heq]

theorem get_issued_unused {id : Nat} (hu : store.releases.get id = none)
    (hn : id ∉ edgeIds.map newId) :
    (store.releases.insertAll (issuedReleases store newId ver edgeIds)).get id = none := by
  rw [get_insertAll_of_ne,hu]
  intro item hi heq
  obtain ⟨edge,he,rfl⟩ := eq_new_of_unused (heq ▸ hu) hi
  exact hn (mem_map.mpr ⟨edge,he,heq⟩)

end Issuing

/-- The ids of the releases are the created ones, and every release has its package. -/
structure Tracked (state : State) : Prop where
  distinct : state.created.Nodup
  complete : ∀ id, id ∈ state.created ↔ (state.store.releases.get id).isSome = true
  packaged : ∀ release ∈ state.store.releases.values,
    (state.store.configPackage release.edgeId release.desiredVersion).isSome = true

variable {ver : String} {edges : List String}

section Steps

variable {checks} {state next : State}

theorem Tracked.mem_ofEdge (hs : Tracked state) : rel ∈ state.ofEdge edge ↔
      rel ∈ state.store.releases.values ∧ rel.edgeId = edge := by
  simp only [State.ofEdge,mem_filter,mem_select,decide_eq_true_eq]
  constructor
  · rintro ⟨⟨-,hm⟩,he⟩
    exact ⟨hm,he⟩
  · rintro ⟨hm,he⟩
    refine ⟨⟨(hs.complete _).mpr ?_,hm⟩,he⟩
    rw [mem_values.mp hm]
    rfl

theorem keeps_of_insertAll (pkgs : List EdgeConfigPackage)
    (h : next.store.configPackages = state.store.configPackages.insertAll pkgs) :
    Keeps state next := by
  intro key hk
  rw [h]
  exact isSome_get_insertAll (.inl hk)

theorem advance_unused {store : CloudControlStore} (hr : store.releases = state.store.releases)
    (hf : state.Fresh ids) : state.advance ids store = { state with store := store } := by
  have hn : ids.filter (fun id => (store.releases.get id).isSome) = [] := by
    rw [filter_eq_nil_iff]
    intro id hid
    rw [hr,hf.2 id hid]
    simp
  simp [State.advance,hn]

theorem filter_issued {store : CloudControlStore} (hf : state.Fresh (edges.map newId))
    (hr : store.releases =
      state.store.releases.insertAll (issuedReleases state.store newId ver edges)) :
    (edges.map newId).filter (fun id => (store.releases.get id).isSome) = edges.map newId := by
  rw [filter_eq_self]
  intro id hid
  obtain ⟨edge,he,rfl⟩ := mem_map.mp hid
  rw [hr,get_issued_new he (fun other ho => hf.2 _ (mem_map_of_mem ho)) hf.1]
  rfl

theorem configPackage_other {store : CloudControlStore} {pkgs : List EdgeConfigPackage}
    (h : store.configPackages = state.store.configPackages.insertAll pkgs)
    (hn : ∀ pkg ∈ pkgs, ¬(pkg.edgeId = edge ∧ pkg.version = ver)) :
    store.configPackage edge ver = state.store.configPackage edge ver := by
  unfold CloudControlStore.configPackage
  rw [h]
  apply get_insertAll_of_ne
  intro pkg hm heq
  exact hn pkg hm (Prod.mk.inj (toLex.injective heq))

theorem unchanged (state : State) : Keeps state state ∧ Change state state :=
  ⟨fun _ h => h,.quiet rfl rfl rfl fun _ _ _ => rfl⟩

theorem change_of_report {rep : EdgeLinkConfigReport} {store : CloudControlStore}
    (hc : CleanReport state edge rep)
    (h : persistConfigReport state.store edge expectedVersion rep = .ok store) :
    Keeps state { state with store := store } ∧ Change state { state with store := store } := by
  obtain ⟨hp,hq | ⟨rel,hf,hr⟩⟩ := persistConfigReport_ok h
  · refine ⟨keeps_of_insertAll [] hp,.quiet rfl rfl hq ?_⟩
    intro edgeId rel _
    simp only [CloudControlStore.configPackage,hp]
  · exact ⟨keeps_of_insertAll [] hp,
      .reported edge rep rel hc hf ⟨(reportableRelease_eq_some hf).1,rfl,rfl,hr,hp⟩⟩

/-- The packages that are stored together with new releases are those of the releases. -/
theorem change_of_issued {store : CloudControlStore} (hd : edges.Nodup)
    (hf : state.Fresh (edges.map newId))
    (hr : store.releases =
      state.store.releases.insertAll (issuedReleases state.store newId ver edges))
    (hp : store.configPackages = state.store.configPackages.insertAll pkgs)
    (hk : pkgs.map packageKey = edges.map fun edge => toLex (edge,ver)) :
    Keeps state (state.advance (edges.map newId) store) ∧
      Change state (state.advance (edges.map newId) store) := by
  refine ⟨keeps_of_insertAll pkgs hp,.issued newId ver edges ⟨hd,hf,?_,hr,?_,?_,?_⟩⟩
  · rw [State.advance,filter_issued hf hr]
  · intro edge he
    change (store.configPackages.get (toLex (edge,ver))).isSome = true
    rw [hp]
    apply isSome_get_insertAll
    right
    have hke : toLex (edge,ver) ∈ pkgs.map packageKey := by
      rw [hk]
      exact mem_map_of_mem he
    exact mem_map.mp hke
  · intro id
    rw [State.advance,filter_issued hf hr]
  · intro edge he version
    apply configPackage_other hp
    rintro pkg hm ⟨rfl,-⟩
    have hke : packageKey pkg ∈ edges.map fun edge => toLex (edge,ver) := by
      rw [← hk]
      exact mem_map_of_mem hm
    obtain ⟨other,ho,heq⟩ := mem_map.mp hke
    cases toLex.injective heq
    exact he ho

theorem Tracked.superseded_eq_nil (hs : Tracked state)
    (h : ∀ rel ∈ state.ofEdge edge, rel.status ≠ .pending) :
    supersededReleases state.store edge = [] := by
  rw [supersededReleases,map_eq_nil_iff,filter_eq_nil_iff]
  intro rel hm hp
  simp only [decide_eq_true_eq] at hp
  exact h rel (hs.mem_ofEdge.mpr ⟨hm,hp.1⟩) hp.2

theorem step_change (hst : Tracked state) {ev : Event} (hc : CleanStep checks state ev) :
    Keeps state (step checks state ev) ∧ Change state (step checks state ev) := by
  cases ev with
  | catalog write =>
    cases write <;> exact ⟨fun _ h => h,.quiet rfl rfl rfl fun _ _ _ => rfl⟩
  | edit rid pkg =>
    simp only [step]
    split
    · next hf =>
      rcases @persistConfigPackage_eq checks state.store rid pkg with ⟨hi,heq⟩ | heq
      · have ha : state.advance [rid] (state.store.upsertConfigPackage pkg) =
            { state with store := state.store.upsertConfigPackage pkg } := advance_unused rfl hf
        rw [heq,ha]
        refine ⟨keeps_of_insertAll [pkg] rfl,.quiet rfl rfl rfl ?_⟩
        intro edge rel hm
        have hp : (state.store.upsertConfigPackage pkg).configPackages =
            state.store.configPackages.insertAll [pkg] := rfl
        apply configPackage_other hp
        intro other ho
        rw [mem_singleton.mp ho]
        rintro ⟨rfl,hv⟩
        exact hi (hc rel hm hv.symm)
      · rw [heq]
        exact @change_of_issued pkg.version [pkg.edgeId] state (fun _ => rid) [pkg] _
          (nodup_singleton _) hf rfl rfl rfl
    · exact unchanged state
  | transition newId prod ver rollback =>
    simp only [step]
    split
    · next hf =>
      split
      · next published store hs =>
        rcases transitionProductVersion_ok hs with
          ⟨rfl,-⟩ | ⟨-,hreleases,hpackages,hkeys⟩
        · rw [advance_unused rfl hf]
          exact unchanged state
        · have hi : ((rolloutEdges state.store prod).map fun edge => newId edge.edgeId) =
              ((rolloutEdges state.store prod).map EdgeNode.edgeId).map newId := by
            rw [List.map_map]
            rfl
          rw [hi] at hf ⊢
          refine change_of_issued (rolloutEdges_nodup state.store prod) hf hreleases hpackages ?_
          rw [hkeys,List.map_map]
          rfl
      · exact unchanged state
    · exact unchanged state
  | publishLatest rid edge =>
    simp only [step]
    split
    · next hf =>
      split
      · next store hs =>
        obtain ⟨pkg,-,rfl,rfl⟩ := publishLatestReleaseForEdgeId_ok hs
        refine @change_of_issued pkg.version [pkg.edgeId] state (fun _ => rid) [pkg] _
          (nodup_singleton _) hf ?_ rfl rfl
        simp only [issuedReleases,flatMap_cons,flatMap_nil,append_nil, hst.superseded_eq_nil hc]
        rfl
      · exact unchanged state
    · exact unchanged state
  | connect sess answer =>
    simp only [step]
    split
    · next count store hs =>
      rcases deployPendingConfigIfAvailable_ok hs with
        rfl | ⟨ver,rep,hanswer,hreport⟩
      · exact unchanged state
      · exact change_of_report (hc rep hanswer) hreport
    · exact unchanged state
  | report edge deployedVersion rep =>
    simp only [step]
    split
    · next store hs => exact change_of_report hc hs
    · exact unchanged state

theorem Tracked.select_issued (hs : Tracked state) (hf : state.Fresh (edges.map newId)) :
    (state.store.releases.insertAll (issuedReleases state.store newId ver edges)).select
        (state.created ++ edges.map newId) =
      (state.store.releases.select state.created).map (setAside edges) ++
        edges.map fun edge => newRelease (newId edge) edge ver := by
  have hu : ∀ edge ∈ edges, state.store.releases.get (newId edge) = none :=
    fun edge he => hf.2 _ (mem_map_of_mem he)
  rw [Registry.select,filterMap_append]
  congr 1
  · apply select_eq_map
    intro id hid
    obtain ⟨rel,hr⟩ := isSome_iff_exists.mp ((hs.complete id).mp hid)
    rw [hr,get_issued_old hu hr]
    rfl
  · rw [filterMap_map,← filterMap_eq_map]
    apply filterMap_congr
    intro edge he
    exact get_issued_new he hu hf.1

def replaced : ReleaseRecord :=
  if release.status = .pending then supersede release else release

@[simp] theorem setAside_edgeId (edges : List String) (rel : ReleaseRecord) :
    (setAside edges rel).edgeId = rel.edgeId := by
  unfold setAside
  split <;> rfl

@[simp] theorem filter_setAside (edges : List String) (edge : String) (rels : List ReleaseRecord) :
    (rels.map (setAside edges)).filter (fun rel => rel.edgeId = edge) =
      (rels.filter fun rel => rel.edgeId = edge).map (setAside edges) := by
  rw [List.filter_map]
  congr 1
  apply filter_congr
  intro rel _
  simp

theorem ofEdge_issued (hs : Tracked state) (hi : Issues state next newId ver edges)
    (edge : String) : next.ofEdge edge = if edge ∈ edges then
        (state.ofEdge edge).map replaced ++ [newRelease (newId edge) edge ver]
      else state.ofEdge edge := by
  have hn : (edges.map fun edge => newRelease (newId edge) edge ver).filter
      (fun rel => rel.edgeId = edge) =
        (edges.filter (· = edge)).map fun edge => newRelease (newId edge) edge ver := by
    rw [List.filter_map]
    rfl
  rw [State.ofEdge,hi.releases,hi.created,hs.select_issued hi.fresh,filter_append,filter_setAside,hn,
    ← State.ofEdge]
  have hed : ∀ rel ∈ state.ofEdge edge, rel.edgeId = edge := fun rel hm => (hs.mem_ofEdge.mp hm).2
  split
  · next he =>
    have hsi : edges.filter (· = edge) = [edge] := by
      rw [filter_eq,count_eq_one_of_mem hi.distinct he]
      rfl
    rw [hsi]
    congr 1
    apply map_congr_left
    intro rel hm
    simp [setAside,replaced,hed rel hm,he]
  · next he =>
    have hem : edges.filter (· = edge) = [] := by
      rw [filter_eq_nil_iff]
      intro other ho heq
      simp only [decide_eq_true_eq] at heq
      exact he (heq ▸ ho)
    rw [hem,map_nil,append_nil]
    refine (map_congr_left ?_).trans (map_id _)
    intro rel hm
    simp [setAside,hed rel hm,he]

def reportOn (version : String) (old : ReleaseRecord) : ReleaseRecord :=
  if old.releaseId = release.releaseId then reported version release else old

theorem ofEdge_reported (h : Reports state next ver rel) (edge : String) :
    next.ofEdge edge = (state.ofEdge edge).map (reportOn rel ver) := by
  have hp : state.store.releases.get (reported ver rel).releaseId = some rel :=
    mem_values.mp h.stored
  rw [State.ofEdge,h.created,h.releases,select_insert_present hp,List.filter_map,State.ofEdge]
  congr 1
  apply filter_congr
  intro old ho
  simp only [Function.comp_apply]
  split
  · next hid =>
    rw [eq_of_mem_values (mem_select.mp ho).2 h.stored hid]
    rfl
  · rfl

theorem Tracked.ofEdge_ids_nodup (hs : Tracked state) (edge : String) :
    ((state.ofEdge edge).map ReleaseRecord.releaseId).Nodup := by
  refine hs.distinct.sublist ?_
  exact (filter_sublist.map _).trans (select_keys_sublist _ _)

end Steps

/-! ## The releases of one edge -/

def isApplied : Bool := release.status = .applied

/-- Nothing but the current intent is pending, the intent was not set aside, and of the applied
releases the last has the greatest version. -/
structure Settled (releases : List ReleaseRecord) : Prop where
  pending_current : ∀ release ∈ releases, release.status = .pending →
    latest notRejected releases = some release
  current_kept : ∀ release, latest notRejected releases = some release →
    release.status ≠ .superseded
  applied_ordered : ∀ last, latest isApplied releases = some last →
    ∀ release ∈ releases, release.status = .applied →
      release.desiredVersion ≤ last.desiredVersion

namespace Settled

variable {rels before after : List ReleaseRecord}

theorem nil : Settled [] := by constructor <;> simp [latest]

@[simp] theorem replaced_applied (rel : ReleaseRecord) :
    isApplied (replaced rel) = isApplied rel := by
  unfold replaced
  split
  · next hp => simp [isApplied,supersede,hp]
  · rfl

theorem replaced_of_applied (h : isApplied rel = true) : replaced rel = rel := by
  simp only [isApplied,decide_eq_true_eq] at h
  simp [replaced,h]

theorem replaced_not_pending (rel : ReleaseRecord) : (replaced rel).status ≠ .pending := by
  unfold replaced
  split
  · simp [supersede]
  · next h => exact h

@[simp] theorem latest_applied_replaced (rels : List ReleaseRecord) :
    latest isApplied (rels.map replaced) = latest isApplied rels := by
  rw [latest_map]
  simp only [replaced_applied]
  cases hl : latest isApplied rels with
  | none => rfl
  | some last =>
    rw [map_some,replaced_of_applied (latest_eq_some_iff.mp hl).1]

/-- A release that is pending or applied becomes the current one. -/
theorem concat (hb : ∀ old ∈ rels, old.status ≠ .pending) (hf : rel.status ≠ .failed)
    (hs : rel.status ≠ .superseded)
    (hg : ∀ last, latest isApplied (rels ++ [rel]) = some last → ∀ old ∈ rels,
      old.status = .applied → old.desiredVersion ≤ last.desiredVersion) :
    Settled (rels ++ [rel]) := by
  have hc : latest notRejected (rels ++ [rel]) = some rel := by simp [notRejected,hf]
  constructor
  · intro old ho hp
    rcases mem_append.mp ho with ho | ho
    · exact absurd hp (hb old ho)
    · rw [mem_singleton.mp ho]
      exact hc
  · intro cur h
    rw [← Option.some.inj (hc.symm.trans h)]
    exact hs
  · intro last hl old ho ha
    rcases mem_append.mp ho with ho | ho
    · exact hg last hl old ho ha
    · rw [mem_singleton.mp ho] at ha ⊢
      have hr : last = rel := by simpa [isApplied,ha] using hl.symm
      rw [hr]

/-- Rejected releases at the end leave the rest as it is. -/
theorem append_failed (h : Settled rels) (ha : ∀ old ∈ after, old.status = .failed) :
    Settled (rels ++ after) := by
  have hc : latest notRejected (rels ++ after) = latest notRejected rels :=
    latest_append_of_unwanted fun old ho => by simp [notRejected,ha old ho]
  have hl : latest isApplied (rels ++ after) = latest isApplied rels :=
    latest_append_of_unwanted fun old ho => by simp [isApplied,ha old ho]
  have hm (old : ReleaseRecord) (ho : old ∈ rels ++ after) (hs : old.status ≠ .failed) :
      old ∈ rels := (mem_append.mp ho).resolve_right fun ho => hs (ha old ho)
  constructor
  · intro old ho hp
    rw [hc]
    exact h.pending_current old (hm old ho (by simp [hp])) hp
  · rw [hc]
    exact h.current_kept
  · intro last hlast old ho hap
    exact h.applied_ordered last (hl ▸ hlast) old (hm old ho (by simp [hap])) hap

theorem issued (h : Settled rels) (hp : rel.status = .pending) :
    Settled (rels.map replaced ++ [rel]) := by
  apply concat
  · intro other ho
    obtain ⟨old,-,rfl⟩ := mem_map.mp ho
    exact replaced_not_pending old
  · simp [hp]
  · simp [hp]
  · intro last hl other ho hs
    rw [latest_concat,latest_applied_replaced] at hl
    obtain ⟨old,hm,rfl⟩ := mem_map.mp ho
    have hol : isApplied old = true := by
      rw [← replaced_applied]
      simpa [isApplied] using hs
    rw [replaced_of_applied hol]
    refine h.applied_ordered last ?_ old hm (by simpa [isApplied] using hol)
    simpa [isApplied,hp] using hl

variable {rel : ReleaseRecord} {ver : String}

theorem map_reportOn (hi : ((before ++ rel :: after).map ReleaseRecord.releaseId).Nodup) :
    (before ++ rel :: after).map (reportOn rel ver) = before ++ reported ver rel :: after := by
  rw [map_append,map_cons,nodup_append,nodup_cons] at hi
  obtain ⟨-,⟨ha,-⟩,hb⟩ := hi
  rw [map_append,map_cons]
  congr 1
  · refine (map_congr_left ?_).trans (map_id _)
    intro old ho
    have hne := hb _ (mem_map_of_mem ho) _ mem_cons_self
    simp [reportOn,hne]
  · congr 1
    · simp [reportOn]
    · refine (map_congr_left ?_).trans (map_id _)
      intro old ho
      have hne : old.releaseId ≠ rel.releaseId := by
        intro heq
        exact ha (heq ▸ mem_map_of_mem ho)
      simp [reportOn,hne]

/-- Before a pending release nothing is pending, and everything after it was rejected. -/
theorem split_pending (h : Settled rels) (hi : (rels.map ReleaseRecord.releaseId).Nodup)
    (hm : rel ∈ rels) (hp : rel.status = .pending) :
    ∃ before after, rels = before ++ rel :: after ∧ (∀ old ∈ before, old.status ≠ .pending) ∧
      ∀ old ∈ after, old.status = .failed := by
  obtain ⟨-,before,after,rfl,ha⟩ := latest_eq_some_iff.mp (h.pending_current rel hm hp)
  refine ⟨before,after,rfl,?_,?_⟩
  · -- a second pending release would be the current intent as well
    intro old ho hs
    have hol := h.pending_current old (mem_append_left _ ho) hs
    rw [h.pending_current rel hm hp] at hol
    cases hol
    rw [map_append,map_cons,nodup_append] at hi
    exact hi.2.2 _ (mem_map_of_mem ho) _ mem_cons_self rfl
  · intro old ho
    simpa [notRejected] using ha old ho

theorem latest_before (hb : ∀ old ∈ before, old.status ≠ .pending)
    (ha : ∀ old ∈ after, old.status = .failed) (hp : rel.status = .pending) :
    latest (fun old => notRejected old ∧ old.status ≠ .pending) (before ++ rel :: after) =
      latest notRejected before := by
  rw [latest_append_of_unwanted]
  · cases hl : latest notRejected before with
    | none =>
      rw [latest_eq_none_iff] at hl ⊢
      intro old ho
      simp [hl old ho]
    | some cur =>
      obtain ⟨hli,early,late,rfl,hle⟩ := latest_eq_some_iff.mp hl
      refine latest_eq_some_iff.mpr ⟨?_,early,late,rfl,?_⟩
      · simp [hli,hb cur (by simp)]
      · intro old ho
        simp [hle old ho]
  · intro old ho
    rcases mem_cons.mp ho with rfl | ho
    · simp [hp]
    · simp [notRejected,ha old ho]

/-- The current intent after a report on it: itself, or what a rejection falls back to. -/
theorem latest_reportOn (h : Settled rels) (hi : (rels.map ReleaseRecord.releaseId).Nodup)
    (hm : rel ∈ rels) (hp : rel.status = .pending) :
    latest notRejected (rels.map (reportOn rel ver)) =
      if ver = rel.desiredVersion then some (reported ver rel)
      else latest (fun old => notRejected old ∧ old.status ≠ .pending) rels := by
  obtain ⟨before,after,rfl,hb,ha⟩ := h.split_pending hi hm hp
  rw [map_reportOn hi,latest_before hb ha hp]
  have hu : ∀ old ∈ after, notRejected old = false := by
    intro old ho
    simp [notRejected,ha old ho]
  split
  · next hv => rw [append_cons,latest_append_of_unwanted hu]; simp [notRejected,reported,hv]
  · next hv =>
    apply latest_append_of_unwanted
    exact forall_mem_cons.mpr ⟨by simp [notRejected,reported,Ne.symm hv],hu⟩

theorem reportedOn (h : Settled rels) (hi : (rels.map ReleaseRecord.releaseId).Nodup)
    (hm : rel ∈ rels) (hp : rel.status = .pending)
    (hc : if ver = rel.desiredVersion then AppliedUpTo rel.desiredVersion rels
      else
        ∀ cur, latest (fun old => notRejected old ∧ old.status ≠ .pending) rels =
          some cur → cur.status ≠ .superseded) :
    Settled (rels.map (reportOn rel ver)) := by
  obtain ⟨before,after,rfl,hb,ha⟩ := h.split_pending hi hm hp
  rw [map_reportOn hi]
  split at hc
  · next hv =>
    rw [append_cons]
    refine append_failed (concat hb ?_ ?_ ?_) ha
    · simp [reported,hv]
    · simp [reported,hv]
    · intro last hl old ho hap
      have hr : last = reported ver rel := by simpa [isApplied,reported,hv] using hl.symm
      rw [hr]
      exact hc old (mem_append_left _ ho) hap
  · next hv =>
    have hf : ∀ old ∈ reported ver rel :: after, old.status = .failed :=
      forall_mem_cons.mpr ⟨by simp [reported,Ne.symm hv],ha⟩
    rw [latest_before hb ha hp] at hc
    refine append_failed ⟨fun old ho hs => absurd hs (hb old ho),hc,?_⟩ hf
    intro last hla old ho hap
    refine h.applied_ordered last ?_ old (mem_append_left _ ho) hap
    rw [latest_append_of_unwanted,hla]
    intro later hl
    rcases mem_cons.mp hl with rfl | hl
    · simp [isApplied,hp]
    · simp [isApplied,ha later hl]

end Settled

/-! ## Runs -/

section Runs

variable {checks} {state next : State}

theorem Tracked.of_issued (hs : Tracked state) (hk : Keeps state next)
    (hi : Issues state next newId ver edges) : Tracked next := by
  have hf := hi.fresh
  have hu : ∀ edge ∈ edges, state.store.releases.get (newId edge) = none :=
    fun edge he => hf.2 _ (mem_map_of_mem he)
  -- every id is an old one, a new one or unused
  have hca : ∀ id, (∃ old, state.store.releases.get id = some old ∧
        next.store.releases.get id = some (setAside edges old)) ∨
      (∃ edge ∈ edges, newId edge = id ∧
        next.store.releases.get id = some (newRelease id edge ver)) ∨
      (state.store.releases.get id = none ∧ id ∉ edges.map newId ∧
        next.store.releases.get id = none) := by
    intro id
    rw [hi.releases]
    cases hg : state.store.releases.get id with
    | some old => exact .inl ⟨old,rfl,get_issued_old hu hg⟩
    | none =>
      by_cases hne : id ∈ edges.map newId
      · obtain ⟨edge,he,rfl⟩ := mem_map.mp hne
        exact .inr (.inl ⟨edge,he,rfl,get_issued_new he hu hf.1⟩)
      · exact .inr (.inr ⟨rfl,hne,get_issued_unused hg hne⟩)
  constructor
  · rw [hi.created,nodup_append]
    refine ⟨hs.distinct,hf.1,?_⟩
    rintro old ho new hne rfl
    rw [hs.complete,hf.2 old hne] at ho
    cases ho
  · intro id
    rw [hi.created,mem_append,hs.complete]
    rcases hca id with ⟨old,hg,hn⟩ | ⟨edge,he,rfl,hn⟩ | ⟨hg,hne,hn⟩
    · simp [hg,hn]
    · rw [hn]
      simp only [isSome_some,iff_true]
      exact .inr (mem_map_of_mem he)
    · simp only [hg,hn,isSome_none,Bool.false_eq_true,false_or,iff_false]
      exact hne
  · intro rel hm
    rw [mem_values] at hm
    rcases hca rel.releaseId with
      ⟨old,hg,hn⟩ | ⟨edge,he,-,hn⟩ | ⟨-,-,hn⟩
    · rw [hn] at hm
      have ho := hk _ (hs.packaged old (mem_values_of_get hg))
      have hna : rel.edgeId = old.edgeId ∧ rel.desiredVersion = old.desiredVersion := by
        rw [← Option.some.inj hm]
        unfold setAside
        split <;> exact ⟨rfl,rfl⟩
      rw [hna.1,hna.2]
      exact ho
    · rw [hn] at hm
      rw [← Option.some.inj hm]
      exact hi.packaged edge he
    · rw [hn] at hm
      cases hm

theorem Tracked.of_reported (hs : Tracked state) (hk : Keeps state next)
    (h : Reports state next ver rel) : Tracked next := by
  have hp : state.store.releases.get rel.releaseId = some rel := mem_values.mp h.stored
  constructor
  · rw [h.created]
    exact hs.distinct
  · intro id
    rw [h.created,hs.complete,h.releases,get_insert]
    split
    · next hid =>
      have hg : state.store.releases.get id = some rel := by
        rw [hid]
        exact hp
      simp [hg]
    · rfl
  · intro other ho
    rw [mem_values,h.releases,get_insert] at ho
    split at ho
    · cases ho
      exact hk _ (hs.packaged rel h.stored)
    · exact hk _ (hs.packaged other (mem_values.mpr ho))

structure Invariant (state : State) : Prop where
  tracked : Tracked state
  settled : ∀ edgeId, Settled (state.ofEdge edgeId)
  stored : ∀ edgeId, ∀ release ∈ intent state edgeId, Stored state edgeId release

theorem Invariant.initial : Invariant .initial where
  tracked := by
    constructor
    · exact nodup_nil
    · intro id
      simp [State.initial,CloudControlStore.empty]
    · intro rel hm
      simp [State.initial,CloudControlStore.empty] at hm
  settled := fun _ => .nil
  stored := fun _ _ h => nomatch h

theorem Invariant.issued (hs : Invariant state) (hi : Issues state next newId ver edges) :
    ∀ edge, ∀ rel ∈ intent next edge, Stored next edge rel := by
  intro edge rel hm
  rw [intent,ofEdge_issued hs.tracked hi] at hm
  unfold Stored
  split at hm
  · next he =>
    have hrel : newRelease (newId edge) edge ver = rel := by
      simpa [notRejected,newRelease] using hm
    have hn : next.store.releases.get (newId edge) = some (newRelease (newId edge) edge ver) := by
      rw [hi.releases,
        get_issued_new he (fun other ho => hi.fresh.2 _ (mem_map_of_mem ho)) hi.fresh.1]
    rw [← hrel,hi.released]
    simp [newRelease,releasedPackage,hn,mem_map_of_mem he]
  · next he =>
    have hv := (hs.tracked.mem_ofEdge.mp (latest_mem hm)).1
    have hn : rel.releaseId ∉ edges.map newId := by
      intro hin
      cases (mem_values.mp hv).symm.trans (hi.fresh.2 _ hin)
    rw [hi.packages edge he,hi.released,if_neg hn]
    exact hs.stored edge rel hm

private theorem ofEdge_reported_other (hs : Tracked state) (hm : rel ∈ state.store.releases.values)
    (hn : edge ≠ rel.edgeId) :
    (state.ofEdge edge).map (reportOn rel ver) = state.ofEdge edge := by
  refine (map_congr_left ?_).trans (map_id _)
  intro old hol
  obtain ⟨hva,he⟩ := hs.mem_ofEdge.mp hol
  have hid : old.releaseId ≠ rel.releaseId := by
    intro hid
    rw [eq_of_mem_values hva hm hid] at he
    exact hn he.symm
  simp [reportOn,hid]

theorem Invariant.change (hs : Invariant state) (hk : Keeps state next) (hc : Change state next) :
    Invariant next := by
  cases hc with
  | quiet created released rels packages =>
    have ho : ∀ edge, next.ofEdge edge = state.ofEdge edge := by
      intro edge
      rw [State.ofEdge,created,rels,State.ofEdge]
    refine ⟨⟨?_,?_,?_⟩,?_,?_⟩
    · rw [created]
      exact hs.tracked.distinct
    · rw [created,rels]
      exact hs.tracked.complete
    · intro rel hm
      rw [rels] at hm
      exact hk _ (hs.tracked.packaged rel hm)
    · intro edge
      rw [ho]
      exact hs.settled edge
    · intro edge rel hm
      rw [intent,ho] at hm
      rw [Stored,packages edge rel hm,released]
      exact hs.stored edge rel hm
  | issued newId ver edges hi =>
    refine ⟨hs.tracked.of_issued hk hi,?_,hs.issued hi⟩
    intro edge
    rw [ofEdge_issued hs.tracked hi]
    split
    · exact (hs.settled edge).issued rfl
    · exact hs.settled edge
  | reported edge rep rel clean found hre =>
    obtain ⟨hm,rfl,hv,hp⟩ := reportableRelease_eq_some found
    have hr := hs.tracked.mem_ofEdge.mpr ⟨hm,rfl⟩
    have hi := hs.tracked.ofEdge_ids_nodup rel.edgeId
    have hcl := clean rel hr hp hv
    rw [← hv] at hcl
    refine ⟨hs.tracked.of_reported hk hre,?_,?_⟩
    · intro other
      rw [ofEdge_reported hre]
      by_cases ho : other = rel.edgeId
      · subst ho
        apply (hs.settled rel.edgeId).reportedOn hi hr hp
        split at hcl
        · next he => simpa [he] using hcl
        · next he =>
          rw [if_neg he]
          exact fun cur hc => (hcl cur hc).1
      · rw [ofEdge_reported_other hs.tracked hm ho]
        exact hs.settled other
    · intro other cur hcur
      rw [intent,ofEdge_reported hre] at hcur
      rw [Stored,hre.released]
      unfold CloudControlStore.configPackage
      rw [hre.packages]
      by_cases ho : other = rel.edgeId
      · subst ho
        rw [(hs.settled rel.edgeId).latest_reportOn hi hr hp] at hcur
        split at hcl
        · next he =>
          rw [if_pos he] at hcur
          cases hcur
          exact hs.stored rel.edgeId rel ((hs.settled rel.edgeId).pending_current rel hr hp)
        · next he =>
          rw [if_neg he] at hcur
          exact (hcl cur hcur).2
      · rw [ofEdge_reported_other hs.tracked hm ho] at hcur
        exact hs.stored other cur hcur

theorem Invariant.step {ev : Event} (hs : Invariant state) (hcl : CleanStep checks state ev) :
    Invariant (step checks state ev) :=
  have hc := step_change hs.tracked hcl
  hs.change hc.1 hc.2

theorem Tracked.mem_releasesWith (hs : Tracked state) {status : ReleaseStatus} :
    rel ∈ releasesWith state.store edge status ↔ rel ∈ state.ofEdge edge ∧ rel.status = status := by
  rw [Cloud.mem_releasesWith,hs.mem_ofEdge,and_assoc]

theorem deployableRelease_of_no_pending (hs : Tracked state)
    (h : ∀ rel ∈ state.ofEdge edge, rel.status ≠ .pending)
    (runtimeVersion : Option String) :
    deployableRelease state.store edge runtimeVersion =
      (maxBy ReleaseRecord.desiredVersion (releasesWith state.store edge .applied)).filter
        fun rel => runtimeVersion ≠ some rel.desiredVersion := by
  have hn : releasesWith state.store edge .pending = [] := by
    rw [eq_nil_iff_forall_not_mem]
    intro rel hm
    rw [hs.mem_releasesWith] at hm
    exact h rel hm.1 hm.2
  rw [deployableRelease,hn]
  rfl

theorem deployable_of_pending (hs : Invariant state) (hc : intent state edge = some rel)
    (hp : rel.status = .pending) (runtimeVersion : Option String) :
    deployableRelease state.store edge runtimeVersion = some rel := by
  have hme := latest_mem hc
  obtain ⟨best,hb⟩ := maxBy_eq_some_of_mem ReleaseRecord.desiredVersion
    (hs.tracked.mem_releasesWith.mpr ⟨hme,hp⟩)
  obtain ⟨hm,hst⟩ := hs.tracked.mem_releasesWith.mp (maxBy_spec hb).1
  have hsa := (hs.settled edge).pending_current best hm hst
  rw [show latest notRejected (state.ofEdge edge) = some rel from hc] at hsa
  cases hsa
  rw [deployableRelease,hb]
  rfl

private theorem deployable_of_applied (hs : Invariant state) (hc : intent state edge = some rel)
    (ha : rel.status = .applied) (runtimeVersion : Option String) :
    ∃ best, best.edgeId = edge ∧ best.desiredVersion = rel.desiredVersion ∧
      deployableRelease state.store edge runtimeVersion =
        (some best).filter fun rel => runtimeVersion ≠ some rel.desiredVersion := by
  have hme := latest_mem hc
  obtain ⟨best,hbe⟩ := maxBy_eq_some_of_mem ReleaseRecord.desiredVersion
    (hs.tracked.mem_releasesWith.mpr ⟨hme,ha⟩)
  obtain ⟨hb,hg⟩ := maxBy_spec hbe
  obtain ⟨hm,hst⟩ := hs.tracked.mem_releasesWith.mp hb
  have hn : ∀ other ∈ state.ofEdge edge, other.status ≠ .pending := by
    intro other ho hp
    have hsa := (hs.settled edge).pending_current other ho hp
    rw [show latest notRejected (state.ofEdge edge) = some rel from hc] at hsa
    cases hsa
    rw [ha] at hp
    cases hp
  -- the current intent is the last applied release, so no applied one is above it
  have hla : latest isApplied (state.ofEdge edge) = some rel := by
    obtain ⟨-,before,after,hsp,haf⟩ := latest_eq_some_iff.mp hc
    refine latest_eq_some_iff.mpr ⟨by simp [isApplied,ha],before,after,hsp,?_⟩
    intro later hl
    have hf : later.status = .failed := by simpa [notRejected] using haf later hl
    simp [isApplied,hf]
  refine ⟨best,(hs.tracked.mem_ofEdge.mp hm).2,le_antisymm ?_ ?_,?_⟩
  · exact (hs.settled edge).applied_ordered rel hla best hm hst
  · exact hg rel (hs.tracked.mem_releasesWith.mpr ⟨hme,ha⟩)
  · rw [deployableRelease_of_no_pending hs.tracked hn,hbe]

theorem Invariant.deploysIntent (hst : Invariant state) (edge : String)
    (runtimeVersion : Option String) : DeploysIntent state edge runtimeVersion := by
  constructor
  · rw [deployableConfigPackage,intendedPackage]
    cases hc : intent state edge with
    | none =>
      have hf : ∀ rel ∈ state.ofEdge edge, rel.status = .failed := by
        intro rel hm
        simpa [notRejected] using latest_eq_none_iff.mp hc rel hm
      have ha : releasesWith state.store edge .applied = [] := by
        rw [eq_nil_iff_forall_not_mem]
        intro rel hm
        obtain ⟨hme,hs⟩ := hst.tracked.mem_releasesWith.mp hm
        rw [hf rel hme] at hs
        cases hs
      rw [deployableRelease_of_no_pending hst.tracked (fun rel hm => by simp [hf rel hm]),ha]
      rfl
    | some rel =>
      have he := (hst.tracked.mem_ofEdge.mp (latest_mem hc)).2
      have hk := (hst.settled edge).current_kept rel hc
      have hl := (latest_eq_some_iff.mp hc).1
      have hpackage : state.store.configPackage edge rel.desiredVersion =
          state.released rel.releaseId := hst.stored edge rel hc
      cases hs : rel.status with
      | pending =>
        rw [deployable_of_pending hst hc hs,bind_some,bind_some,he]
        simpa [hs] using hpackage
      | applied =>
        obtain ⟨best,hbe,hbv,hd⟩ := deployable_of_applied hst hc hs runtimeVersion
        rw [hd]
        by_cases hr : runtimeVersion = some rel.desiredVersion
        · simp [Option.filter,hbv,hs,hr]
        · simp [Option.filter,hbv,hbe,hr,hpackage]
      | failed => simp [notRejected,hs] at hl
      | superseded => exact absurd hs hk
  · intro rel hc
    obtain ⟨hm,he⟩ := hst.tracked.mem_ofEdge.mp (latest_mem hc)
    rw [← hst.stored edge rel hc,← he]
    exact hst.tracked.packaged rel hm

/-- At every point of a run of clean steps the gateway deploys the package of the current intent,
and nothing to a runtime that runs it already. -/
theorem gateway_deploys_intent (checks : PackageChecks) (reached later : List Event)
    (hclean : CleanRun checks .initial (reached ++ later)) (edgeId : String)
    (runtimeVersion : Option String) :
    DeploysIntent (run checks reached) edgeId runtimeVersion :=
  have hs := (along_append.mp hclean).1.keeps Invariant Invariant.step .initial
  hs.deploysIntent edgeId runtimeVersion

end Runs

/-! ## One product, published twice and rolled back -/

def pumpChecks : PackageChecks := { Runtime.lenientChecks with
    validateModbusDecoding _ _ := .ok ()
    validateOpcUaNodeId _ := .ok ()
    parseOpcUaBrowsePath _ := .ok ()
    parseIec104PointAddress _ := .ok ()
    validateBacnetPoint _ _ _ _ := .ok () }

def pumpPoints : PointSet where
  pointSetId := "pump-points"
  projectId := "plant"
  points := [{
    pointId := "flow"
    semanticId := "pump.flow"
    address := .object [("kind",.string "simulated"),("value",.string "flow")]
    valueType := .float
    access := .readOnly
    protocolOptions := .null
    readTransforms := [] }]

def pumpVersion (version : String) : ProductVersion where
  productId := "pump"
  version := version
  status := .draft
  pointSetIds := ["pump-points"]
  devices := [⟨"pump-1"⟩]
  protocolConnections := [⟨"sim",.simulated,.null⟩]
  collectionTasks := []
  algorithms := []
  dataConfigs := [{
    configId := "telemetry"
    deviceId := "pump-1"
    protocolConnectionId := "sim"
    collection := ⟨1000,1000,0⟩
    points := [{
      pointId := "flow"
      semanticId := "pump.flow"
      address := .object [("kind",.string "simulated"),("value",.string "flow")]
      valueType := .float
      jsonField := "flow" }]
    algorithmIds := []
    visualGraph := ⟨[],[]⟩
    publish := ⟨"cloud"⟩ }]
  commandFlows := []
  mqttUplinks := [.velamq "cloud" "mqtt://mqtt.local:1883" "edge-1"]

def pumpCatalog : List Event := [.catalog (.pointSet pumpPoints),
    .catalog (.edge ⟨"edge-1","Edge",none,[],some "plant",some "pump",none,none⟩),
    .catalog (.product ⟨"pump","plant",none⟩),
    .catalog (.productVersion (pumpVersion "1.0.0")),
    .catalog (.productVersion (pumpVersion "2.0.0"))]

def connectAndApply (running : Option String) (version : String) : Event :=
  .connect ⟨"edge-1","runtime-1",running⟩
    (some ⟨"edge-1",some "runtime-1",some ⟨version,some version⟩⟩)

def publishedTwice : List Event := pumpCatalog ++
    [.transition (fun _ => 1) "pump" "1.0.0" false,connectAndApply none "1.0.0",
      .transition (fun _ => 2) "pump" "2.0.0" false,connectAndApply (some "1.0.0") "2.0.0"]

def rolledBack : List Event :=
  [.transition (fun _ => 3) "pump" "1.0.0" true,connectAndApply (some "2.0.0") "1.0.0"]

theorem published_twice_deploys_intent : CleanRun pumpChecks .initial publishedTwice ∧
      (intent (run pumpChecks publishedTwice) "edge-1").map ReleaseRecord.desiredVersion =
        some "2.0.0" ∧
      DeploysIntent (run pumpChecks publishedTwice) "edge-1" (some "2.0.0") := by
  have hc : CleanRun pumpChecks .initial publishedTwice := by decide +kernel
  refine ⟨hc,by decide +kernel,?_⟩
  exact gateway_deploys_intent pumpChecks publishedTwice []
    (by rw [append_nil]; exact hc) "edge-1" (some "2.0.0")

/-- The rollback was applied, and a reconnecting runtime is sent the newer version again. -/
theorem rollback_redeploys_newer :
    ((run pumpChecks (publishedTwice ++ rolledBack)).ofEdge "edge-1").map
        (fun release => (release.desiredVersion,release.status)) =
      [("1.0.0",.applied),("2.0.0",.applied),("1.0.0",.applied)] ∧
    (intendedPackage (run pumpChecks (publishedTwice ++ rolledBack)) "edge-1"
      (some "1.0.0")).isNone = true ∧
    (deployableConfigPackage (run pumpChecks (publishedTwice ++ rolledBack)).store "edge-1"
      (some "1.0.0")).map EdgeConfigPackage.version = some "2.0.0" ∧
    ¬ DeploysIntent (run pumpChecks (publishedTwice ++ rolledBack)) "edge-1" (some "1.0.0") := by
  have hi : intendedPackage (run pumpChecks (publishedTwice ++ rolledBack)) "edge-1"
      (some "1.0.0") = none := rfl
  have hd : (deployableConfigPackage (run pumpChecks (publishedTwice ++ rolledBack)).store
      "edge-1" (some "1.0.0")).map EdgeConfigPackage.version = some "2.0.0" := by decide +kernel
  refine ⟨by decide +kernel,by rw [hi]; rfl,hd,?_⟩
  intro h
  rw [h.1,hi] at hd
  cases hd

end VelaEdge.Cloud.ReleaseHistory
