import VelaEdge.Cloud.ControlPlane

/-! Overlapping requests on the versions of a product. A request looks at a version, waits for the
database, writes its copy back, and may go on to publish it, which takes another look and another
wait. -/
namespace VelaEdge.Cloud.VersionLifecycle

open Base Core Option Registry ReleaseHistory
open ControlPlane (createdVersion savedVersion)

/-- A publication or rollback about to be written back, with the latest version it was based on. -/
structure Rolling where
  plan : TransitionPlan
  seenLatest : Option String
  target : String
  rollback : Bool

inductive Task where
  | storing (version : ProductVersion)
  | rolling (rolling : Rolling)

structure State where
  store : CloudControlStore
  tasks : OrderedMap Nat Task

def State.initial : State := ⟨.empty,.empty⟩

inductive Event where
  | createProduct (product : Product)
  /-- Whatever other requests do to edges, packages, releases and point sets. -/
  | elsewhere (change : CloudControlStore → CloudControlStore)
  | create (task : Nat) (productId : String) (request : ProductVersion)
  | save (task : Nat) (productId versionId : String) (request : ProductVersion)
  | applyChangeSet (task : Nat) (changeSet : AgentChangeSet)
  | transition (task : Nat) (newId : String → Nat) (productId version : String) (rollback : Bool)
  | finish (task : Nat) (newId : String → Nat)
  | drop (task : Nat)

def latestVersion (store : CloudControlStore) (productId : String) : Option String :=
  (store.product productId).bind Product.latestVersion

variable (rules : VersionRules) (store : CloudControlStore)

def appliedVersion (changeSet : AgentChangeSet) : Except ApiError ProductVersion := do
  bailIf (changeSet.status ≠ .confirmed)
    ⟨.conflict,"ChangeSet must be confirmed before it can be applied"⟩
  bailIf (!(validateAgentChangeSetCandidate rules store changeSet).valid)
    ⟨.conflict,"ChangeSet became stale or invalid; review and confirm it again"⟩
  let version ← (productVersionFromChangeSet rules changeSet).mapError fun message =>
    ⟨.unprocessableEntity,message⟩
  pure { version with status := .draft }

/-- The look at the product before a publication or rollback waits; `none` when there is nothing
to do or the request is refused. -/
def planRolling (newId : String → Nat) (productId target : String) (rollback : Bool) :
    Option Rolling :=
  match planTransition rules.checks store newId productId target rollback with
  | .ok (_,some plan) => some ⟨plan,latestVersion store productId,target,rollback⟩
  | _ => none

def State.start (state : State) (task : Nat) (request : Option Task) : State :=
  match state.tasks.get task, request with
  | none, some waiting => { state with tasks := state.tasks.put task waiting }
  | _, _ => state

def State.become (state : State) (task : Nat) (next : Option Task) : State := match next with
  | some waiting => { state with tasks := state.tasks.put task waiting }
  | none => { state with tasks := state.tasks.delete task }

def publication (newId : String → Nat) (version : ProductVersion) : Option Task :=
  match validatePublishableProductVersion version with
  | .error _ => none
  | .ok () =>
    (planRolling rules store newId version.productId version.version false).map Task.rolling

def step (state : State) : Event → State
  | .createProduct product =>
    match state.store.product product.productId with
    | none => { state with store := state.store.upsertProduct { product with latestVersion := none } }
    | some _ => state
  | .elsewhere change =>
    { state with store := { change state.store with
        products := state.store.products
        productVersions := state.store.productVersions } }
  | .create task productId request =>
    state.start task ((createdVersion rules state.store productId request).toOption.map .storing)
  | .save task productId versionId request =>
    state.start task
      ((savedVersion rules state.store productId versionId request).toOption.map .storing)
  | .applyChangeSet task changeSet =>
    state.start task ((appliedVersion rules state.store changeSet).toOption.map .storing)
  | .transition task newId productId version rollback =>
    state.start task ((planRolling rules state.store newId productId version rollback).map .rolling)
  | .finish task newId =>
    match state.tasks.get task with
    | some (.storing version) =>
      let store := state.store.upsertProductVersion version
      { state with store := store }.become task (publication rules store newId version)
    | some (.rolling rolling) =>
      { state with store := rolling.plan.apply state.store }.become task none
    | none => state
  | .drop task => state.become task none

def run (events : List Event) : State := events.foldl (step rules) .initial

/-- What a request writes back does not run over what others have written since: the version is
not there or still a draft, and the latest version of the product is still the one that was seen.
A rollback may find its target in any state. -/
def cleanStep (state : State) : Event → Bool
  | .finish task _ =>
    match state.tasks.get task with
    | some (.storing version) =>
      (state.store.productVersion version.productId version.version).all fun stored =>
        stored.status = .draft
    | some (.rolling rolling) =>
      latestVersion state.store rolling.plan.product.productId = rolling.seenLatest &&
        (rolling.rollback || (state.store.productVersion rolling.plan.product.productId
          rolling.target).all fun stored => stored.status = .draft)
    | none => true
  | _ => true

def cleanRun : State → List Event → Bool := allAlong (step rules) cleanStep

def content (version : ProductVersion) : ProductVersion := { version with status := .draft }

/-- At most one version of the product is published, and it is the latest. -/
def OnlyLatestPublished (productId : String) : Prop :=
  ∀ version ∈ store.productVersions.values, version.productId = productId →
    version.status = .published → latestVersion store productId = some version.version ∧
        ∀ other ∈ store.productVersions.values, other.productId = productId →
          other.status = .published → other = version

/-! ## One request at a time -/

def alone (newId : String → Nat) (request : Event) : CloudControlStore :=
  ([request,.finish 0 newId,.finish 0 newId].foldl (step rules) ⟨store,.empty⟩).store

variable {req : ProductVersion}

section Alone

variable {rules : ControlPlane.Rules} {state after : ControlPlane.State} {newId : String → Nat}

theorem transition_alone {ver : String}
    (h : ControlPlane.transitionProductVersion rules state newId prod ver rollback = .ok after) :
    alone rules.toVersionRules state.core newId (.transition 0 newId prod ver rollback) =
      after.core := by
  obtain ⟨⟨target,plan⟩,hp,ha⟩ := bind_eq_ok.mp h
  cases plan with
  | none =>
    cases ha
    simp [alone,step,planRolling,hp,State.start]
  | some plan =>
    cases ha
    simp [alone,step,planRolling,hp,State.start,State.become]
    rfl

theorem store_alone {req : Event} {ver : ProductVersion}
    (hr : step rules.toVersionRules ⟨state.core,.empty⟩ req =
      ⟨state.core,OrderedMap.empty.put 0 (.storing ver)⟩)
    (h : ControlPlane.storeProductVersion rules state newId ver = .ok after) :
    alone rules.toVersionRules state.core newId req = after.core := by
  have hs : state.core.upsertProductVersion ver = (state.saveProductVersion ver).core := rfl
  rw [alone,List.foldl_cons,hr]
  unfold ControlPlane.storeProductVersion at h
  dsimp only at h
  split at h
  · next why hre =>
    cases h
    simp [step,publication,hre,State.become,hs]
  · next hc =>
    obtain ⟨⟨target,plan⟩,hp,ha⟩ := bind_eq_ok.mp h
    cases plan with
    | none =>
      cases ha
      simp [step,publication,hc,planRolling,hs,hp,State.become]
    | some plan =>
      cases ha
      simp [step,publication,hc,planRolling,hs,hp,State.become]
      rfl

theorem create_alone
    (h : ControlPlane.createProductVersion rules state newId prod req = .ok after) :
    alone rules.toVersionRules state.core newId (.create 0 prod req) = after.core := by
  obtain ⟨ver,hv,ha⟩ := bind_eq_ok.mp h
  apply store_alone _ ha
  simp only [step,hv]
  rfl

theorem save_alone
    (h : ControlPlane.saveProductVersion rules state newId prod versionId req = .ok after) :
    alone rules.toVersionRules state.core newId (.save 0 prod versionId req) = after.core := by
  obtain ⟨ver,hv,ha⟩ := bind_eq_ok.mp h
  apply store_alone _ ha
  simp only [step,hv]
  rfl

end Alone

/-! ## What overlapping requests keep -/

/-- The version was published once and is stored with the content it has here. -/
def Settled (version : ProductVersion) : Prop :=
  ∃ stored, store.productVersions.get (productVersionKey version) = some stored ∧
    stored.status ≠ .draft ∧ content stored = content version

structure Consistent (store : CloudControlStore) : Prop where
  latest : ∀ version ∈ store.productVersions.values, version.status = .published →
    latestVersion store version.productId = some version.version
  published : ∀ productId name, latestVersion store productId = some name →
    ∃ version, store.productVersion productId name = some version ∧ version.status = .published

structure Ready (store : CloudControlStore) (rolling : Rolling) : Prop where
  latest : rolling.plan.product.latestVersion = some rolling.target
  product : ∀ version ∈ rolling.plan.versions,
    version.productId = rolling.plan.product.productId
  unique : ∀ left ∈ rolling.plan.versions, ∀ right ∈ rolling.plan.versions,
    left.version = right.version → left = right
  target : ∃ version ∈ rolling.plan.versions, version.version = rolling.target
  published : ∀ version ∈ rolling.plan.versions, version.version = rolling.target →
    version.status = .published ∧ (rolling.rollback = true → Settled store version)
  retired : ∀ version ∈ rolling.plan.versions, version.version ≠ rolling.target →
    version.status = .retired ∧ Settled store version
  covers : ∀ name, rolling.seenLatest = some name → name ≠ rolling.target →
    ∃ version ∈ rolling.plan.versions, version.version = name

def Task.Ok : Task → Prop
  | .storing version => version.status = .draft
  | .rolling transition => Ready store transition

structure Invariant (state : State) : Prop where
  consistent : Consistent state.store
  tasks : ∀ number task, state.tasks.get number = some task → task.Ok state.store

variable {name : String}

section Versions

variable {store after : CloudControlStore} {ver : ProductVersion} {rolling : Rolling}

@[simp] theorem productVersionKey_eq_iff : productVersionKey left = productVersionKey right ↔
      left.productId = right.productId ∧ left.version = right.version := by
  rw [productVersionKey,productVersionKey,toLex.injective.eq_iff,Prod.mk.injEq]

theorem mem_of_productVersion (h : store.productVersion prod name = some ver) :
    ver ∈ store.productVersions.values ∧ ver.productId = prod ∧ ver.version = name := by
  have hn := key_of_get h
  have hk := toLex.injective hn
  exact ⟨mem_values_of_get h,congrArg Prod.fst hk,congrArg Prod.snd hk⟩

theorem Consistent.onlyLatestPublished (hs : Consistent store) (prod : String) :
    OnlyLatestPublished store prod := by
  intro ver hv hp hpu
  have hl := hs.latest ver hv hpu
  rw [hp] at hl
  refine ⟨hl,?_⟩
  intro other hot hop ho
  have hsa := hs.latest other hot ho
  rw [hop,hl,some.injEq] at hsa
  exact eq_of_mem_values hot hv (productVersionKey_eq_iff.mpr ⟨hop.trans hp.symm,hsa.symm⟩)

theorem settled_of_mem (hv : ver ∈ store.productVersions.values) (hs : ver.status ≠ .draft)
    (status : ProductVersionStatus) : Settled store { ver with status := status } :=
  ⟨ver,mem_values.mp hv,hs,rfl⟩

theorem Ready.mono (h : Ready store rolling) (hk : ∀ ver, Settled store ver → Settled after ver) :
    Ready after rolling where
  latest := h.latest
  product := h.product
  unique := h.unique
  target := h.target
  published ver hv hn := ⟨(h.published ver hv hn).1,fun hr => hk ver ((h.published ver hv hn).2 hr)⟩
  retired ver hv hn := ⟨(h.retired ver hv hn).1,hk ver (h.retired ver hv hn).2⟩
  covers := h.covers

theorem Task.Ok.mono {task : Task} (h : task.Ok store)
    (hk : ∀ ver, Settled store ver → Settled after ver) : task.Ok after := by
  cases task with
  | storing ver => exact h
  | rolling transition => exact Ready.mono h hk

theorem Settled.content_eq {copy : ProductVersion} (h : Settled store ver)
    (hc : Settled store copy) (hk : productVersionKey copy = productVersionKey ver) :
    content copy = content ver := by
  obtain ⟨stored,hs,-,hsa⟩ := h
  obtain ⟨other,ho,-,hcs⟩ := hc
  rw [hk,hs,some.injEq] at ho
  rw [← hcs,← ho,hsa]

variable {draft : ProductVersion}

theorem Settled.upsert (h : Settled store ver)
    (hc : ∀ stored, store.productVersion draft.productId draft.version = some stored →
      stored.status = .draft) : Settled (store.upsertProductVersion draft) ver := by
  obtain ⟨stored,hs,hst,hsa⟩ := h
  refine ⟨stored,?_,hst,hsa⟩
  rw [CloudControlStore.upsertProductVersion,get_insert,if_neg]
  · exact hs
  · intro hk
    rw [hk] at hs
    exact hst (hc stored hs)

theorem Consistent.upsert (h : Consistent store) (hd : draft.status = .draft)
    (hc : ∀ stored, store.productVersion draft.productId draft.version = some stored →
      stored.status = .draft) :
    Consistent (store.upsertProductVersion draft) where
  latest ver hv hp := by
    rcases mem_values_insert.mp hv with rfl | ⟨-,hv⟩
    · rw [hd] at hp
      cases hp
    · exact h.latest ver hv hp
  published prod name hl := by
    obtain ⟨ver,hv,hp⟩ := h.published prod name hl
    refine ⟨ver,?_,hp⟩
    rw [CloudControlStore.productVersion,CloudControlStore.upsertProductVersion,get_insert,if_neg]
    · exact hv
    · intro hk
      rw [CloudControlStore.productVersion,hk] at hv
      rw [hc ver hv] at hp
      cases hp

section

variable (h : Ready store rolling)
include h

theorem Ready.key_eq_iff (hl : left ∈ rolling.plan.versions) (hr : right ∈ rolling.plan.versions) :
    productVersionKey left = productVersionKey right ↔ left = right := by
  constructor
  · intro hk
    exact h.unique left hl right hr (productVersionKey_eq_iff.mp hk).2
  · rintro rfl
    rfl

variable (hv : ver ∈ rolling.plan.versions)
include hv

theorem Ready.get_apply :
    (rolling.plan.apply store).productVersions.get (productVersionKey ver) = some ver := by
  apply get_insertAll_of_mem hv
  intro item hi hk
  exact (h.key_eq_iff hi hv).mp hk

theorem Ready.status_ne_draft : ver.status ≠ .draft := by
  intro hd
  by_cases hn : ver.version = rolling.target
  · have hs := (h.published ver hv hn).1
    rw [hd] at hs
    cases hs
  · have hs := (h.retired ver hv hn).1
    rw [hd] at hs
    cases hs

end

/-- The write back of a rollout leaves settled versions as they are, unless it publishes from a
draft that was published since. -/
theorem Settled.apply (h : Settled store ver) (hr : Ready store rolling)
    (hcl : rolling.rollback = true ∨
      ∀ stored, store.productVersion rolling.plan.product.productId rolling.target =
        some stored → stored.status = .draft) : Settled (rolling.plan.apply store) ver := by
  by_cases hp : ∃ copy ∈ rolling.plan.versions, productVersionKey copy = productVersionKey ver
  · obtain ⟨copy,hc,hk⟩ := hp
    have hse : Settled store copy := by
      by_cases hn : copy.version = rolling.target
      · rcases hcl with hro | hd
        · exact (hr.published copy hc hn).2 hro
        · -- the target is a draft still, so it is not the settled version
          obtain ⟨stored,hs,hst,-⟩ := h
          rw [← hk,productVersionKey,hr.product copy hc,hn] at hs
          exact absurd (hd stored hs) hst
      · exact (hr.retired copy hc hn).2
    refine ⟨copy,?_,hr.status_ne_draft hc,h.content_eq hse hk⟩
    rw [← hk]
    exact hr.get_apply hc
  · push Not at hp
    obtain ⟨stored,hs,hst,hsa⟩ := h
    refine ⟨stored,?_,hst,hsa⟩
    rw [TransitionPlan.apply,get_insertAll_of_ne _ hp]
    exact hs

private theorem latestVersion_apply (plan : TransitionPlan) (prod : String) :
    latestVersion (plan.apply store) prod =
      if prod = plan.product.productId then plan.product.latestVersion
      else latestVersion store prod := by
  rw [latestVersion,CloudControlStore.product,TransitionPlan.apply,get_insert]
  split
  · rfl
  · rfl

theorem Consistent.apply (h : Consistent store) (hr : Ready store rolling)
    (hl : latestVersion store rolling.plan.product.productId = rolling.seenLatest) :
    Consistent (rolling.plan.apply store) where
  latest ver hv hp := by
    rw [latestVersion_apply]
    rcases mem_values_insertAll hv with hpl | ⟨hst,ho⟩
    · rw [if_pos (hr.product ver hpl),hr.latest]
      by_cases hn : ver.version = rolling.target
      · rw [hn]
      · rw [(hr.retired ver hpl hn).1] at hp
        cases hp
    · have hs := h.latest ver hst hp
      split
      · -- a version published before is among those that are written
        next hpr =>
          rw [hpr,hl] at hs
          have hc : ∃ copy ∈ rolling.plan.versions, copy.version = ver.version := by
            by_cases hn : ver.version = rolling.target
            · rw [hn]
              exact hr.target
            · exact hr.covers _ hs hn
          obtain ⟨copy,hc,hn⟩ := hc
          have hk := productVersionKey_eq_iff.mpr ⟨(hr.product copy hc).trans hpr.symm,hn⟩
          exact absurd hk (ho copy hc)
      · exact hs
  published prod name hn := by
    rw [latestVersion_apply] at hn
    split at hn
    · next hpr =>
      rw [hr.latest,some.injEq] at hn
      obtain ⟨ver,hv,ht⟩ := hr.target
      refine ⟨ver,?_,(hr.published ver hv ht).1⟩
      have hg := hr.get_apply hv
      rw [productVersionKey,hr.product ver hv,ht,hn,← hpr] at hg
      exact hg
    · next hpr =>
      obtain ⟨ver,hv,hp⟩ := h.published prod name hn
      refine ⟨ver,?_,hp⟩
      rw [CloudControlStore.productVersion,TransitionPlan.apply,get_insertAll_of_ne]
      · exact hv
      · intro copy hc hk
        have hot := congrArg Prod.fst (toLex.injective hk)
        exact hpr (hot.symm.trans (hr.product copy hc))

end Versions

variable {rules} {store : CloudControlStore}

theorem planRolling_eq_some (h : planRolling rules store newId prod name rollback = some rolling) :
    ∃ product target, store.product prod = some product ∧
      store.productVersion prod name = some target ∧
      (rollback = true → target.status ≠ .draft) ∧
      rolling.plan.product = { product with latestVersion := some name } ∧
      rolling.plan.versions = (((product.latestVersion.filter (· ≠ name)).bind
        (store.productVersion prod)).toList.map fun ver =>
          { ver with status := .retired }) ++ [{ target with status := .published }] ∧
      rolling.seenLatest = product.latestVersion ∧ rolling.target = name ∧
      rolling.rollback = rollback := by
  unfold planRolling at h
  split at h
  · next ver plan hp =>
    cases h
    simp only [planTransition,bind_eq_ok] at hp
    obtain ⟨product,hpr,target,ht,hp⟩ := hp
    rw [context_eq_ok] at hpr ht
    split at hp
    · cases hp
    · simp only [bind_eq_ok] at hp
      obtain ⟨_,hc,-,-,rollouts,-,hp⟩ := hp
      cases hp
      refine ⟨product,target,hpr,ht,?_,rfl,rfl,?_,rfl,rfl⟩
      · rintro rfl
        exact bailIf_eq_ok.mp hc
      · rw [latestVersion,hpr,bind_some]
  · cases h

private theorem previous_published {product : Product} (ver : ProductVersion) (name : String)
    (hst : Consistent store) (hpr : store.product prod = some product)
    (hv : (product.latestVersion.filter (· ≠ name)).bind (store.productVersion prod) = some ver) :
    ver ∈ store.productVersions.values ∧ ver.productId = prod ∧
      ver.version ≠ name ∧ ver.status ≠ .draft := by
  obtain ⟨other,ho,hg⟩ := bind_eq_some_iff.mp hv
  rw [filter_eq_some_iff,decide_eq_true_eq] at ho
  have hl : latestVersion store prod = some other := by rw [latestVersion,hpr,bind_some,ho.1]
  obtain ⟨stored,hs,hp⟩ := hst.published prod other hl
  rw [hg,some.injEq] at hs
  obtain ⟨hm,hid,hn⟩ := mem_of_productVersion hg
  refine ⟨hm,hid,hn ▸ ho.2,?_⟩
  rw [hs,hp]
  decide

theorem planRolling_ready (hs : Consistent store)
    (h : planRolling rules store newId prod name rollback = some rolling) :
    Ready store rolling := by
  obtain ⟨product,target,hpr,ht,hr,hpl,hve,hse,rfl,rfl⟩ := planRolling_eq_some h
  have hpi : product.productId = prod := key_of_get hpr
  obtain ⟨htm,htp,htn⟩ := mem_of_productVersion ht
  have hl : latestVersion store prod = product.latestVersion := by rw [latestVersion,hpr,bind_some]
  have hp := fun ver => previous_published ver rolling.target hs hpr
  have hc : ∀ copy ∈ rolling.plan.versions, copy = { target with status := .published } ∨
      ∃ ver, (product.latestVersion.filter (· ≠ rolling.target)).bind
        (store.productVersion prod) = some ver ∧ copy = { ver with status := .retired } := by
    intro copy hco
    rw [hve,List.mem_append,List.mem_map,List.mem_singleton] at hco
    rcases hco with ⟨ver,hv,rfl⟩ | rfl
    · exact .inr ⟨ver,mem_toList.mp hv,rfl⟩
    · exact .inl rfl
  constructor
  case latest => rw [hpl]
  case product =>
    intro copy hco
    rw [hpl,hpi]
    rcases hc copy hco with rfl | ⟨ver,hv,rfl⟩
    · exact htp
    · exact (hp ver hv).2.1
  case unique =>
    intro left hle right hri hn
    rcases hc left hle with rfl | ⟨ver,hv,rfl⟩
    · rcases hc right hri with rfl | ⟨ver,hv,rfl⟩
      · rfl
      · exact absurd (hn.symm.trans htn) (hp ver hv).2.2.1
    · rcases hc right hri with rfl | ⟨other,ho,rfl⟩
      · exact absurd (hn.trans htn) (hp ver hv).2.2.1
      · rw [hv,some.injEq] at ho
        rw [ho]
  case target =>
    refine ⟨{ target with status := .published },?_,htn⟩
    rw [hve]
    exact List.mem_append_right _ List.mem_cons_self
  case published =>
    intro copy hco hn
    rcases hc copy hco with rfl | ⟨ver,hv,rfl⟩
    · exact ⟨rfl,fun hb => settled_of_mem htm (hr hb) _⟩
    · exact absurd hn (hp ver hv).2.2.1
  case retired =>
    intro copy hco hn
    rcases hc copy hco with rfl | ⟨ver,hv,rfl⟩
    · exact absurd htn hn
    · obtain ⟨hm,-,-,hst⟩ := hp ver hv
      exact ⟨rfl,settled_of_mem hm hst _⟩
  case covers =>
    intro other ho hne
    rw [hse] at ho
    obtain ⟨ver,hv,-⟩ := hs.published prod other (hl.trans ho)
    refine ⟨{ ver with status := .retired },?_,(mem_of_productVersion hv).2.2⟩
    rw [hve,ho,filter_some,if_pos (decide_eq_true hne),bind_some,hv]
    exact List.mem_append_left _ (List.mem_map_of_mem (mem_toList.mpr rfl))

section Drafts

variable {store : CloudControlStore} {ver : ProductVersion}

theorem createdVersion_draft (h : createdVersion rules store prod req = .ok ver) :
    ver.status = .draft := by
  simp only [createdVersion,bind_eq_ok] at h
  obtain ⟨-,-,hv⟩ := h
  cases hv
  rfl

theorem savedVersion_draft (h : savedVersion rules store prod versionId req = .ok ver) :
    ver.status = .draft := by
  simp only [savedVersion,bind_eq_ok] at h
  obtain ⟨-,-,-,-,-,-,-,-,hv⟩ := h
  cases hv
  rfl

theorem appliedVersion_draft (h : appliedVersion rules store cs = .ok ver) :
    ver.status = .draft := by
  simp only [appliedVersion,bind_eq_ok] at h
  obtain ⟨-,-,-,-,drafted,-,hv⟩ := h
  cases hv
  rfl

theorem ok_of_toOption_map_storing {out : Except ApiError ProductVersion} {task : Task}
    (hd : ∀ ver, out = .ok ver → ver.status = .draft)
    (h : out.toOption.map .storing = some task) : task.Ok store := by
  obtain ⟨ver,hv,rfl⟩ := map_eq_some_iff.mp h
  exact hd ver (toOption_eq_some.mp hv)

theorem ok_of_map_rolling {newId : String → Nat} {prod name : String} {rollback : Bool}
    {task : Task} (hs : Consistent store)
    (h : (planRolling rules store newId prod name rollback).map .rolling = some task) :
    task.Ok store := by
  obtain ⟨rolling,hr,rfl⟩ := map_eq_some_iff.mp h
  exact planRolling_ready hs hr

theorem publication_ok (hs : Consistent store)
    (h : publication rules store newId ver = some task) : task.Ok store := by
  unfold publication at h
  split at h
  · cases h
  · exact ok_of_map_rolling hs h

end Drafts

structure Keeps (state after : State) : Prop where
  invariant : Invariant after
  settled : ∀ version, Settled state.store version → Settled after.store version

section

variable (h : Invariant state)
include h

theorem Invariant.keeps_self : Keeps state state := ⟨h,fun _ hv => hv⟩

theorem Invariant.write (hst : Consistent store)
    (hs : ∀ ver, Settled state.store ver → Settled store ver) :
    Keeps state { state with store := store } where
  invariant := {
    consistent := hst
    tasks := fun number task ht => (h.tasks number task ht).mono hs }
  settled := hs

theorem Invariant.become {next : Option Task} (task : Nat) (hst : Consistent store)
    (hs : ∀ ver, Settled state.store ver → Settled store ver)
    (hn : ∀ waiting, next = some waiting → waiting.Ok store) :
    Keeps state ({ state with store := store }.become task next) := by
  have ht := (h.write hst hs).invariant.tasks
  cases next with
  | none =>
    refine ⟨⟨hst,?_⟩,hs⟩
    intro number waiting hw
    rw [State.become,OrderedMap.get_delete] at hw
    split at hw
    · cases hw
    · exact ht number waiting hw
  | some started =>
    refine ⟨⟨hst,?_⟩,hs⟩
    intro number waiting hw
    rw [State.become,OrderedMap.get_put] at hw
    split at hw
    · exact hn waiting hw
    · exact ht number waiting hw

theorem Invariant.start {req : Option Task} (task : Nat)
    (hr : ∀ waiting, req = some waiting → waiting.Ok state.store) :
    Keeps state (state.start task req) := by
  unfold State.start
  split
  · next waiting _ =>
    exact h.become task h.consistent (fun _ hv => hv) hr
  · exact h.keeps_self

end

theorem Consistent.upsertProduct {prod : Product} (h : Consistent store)
    (ha : store.product prod.productId = none) :
    Consistent (store.upsertProduct { prod with latestVersion := none }) := by
  have hl : latestVersion (store.upsertProduct { prod with latestVersion := none }) =
      latestVersion store := by
    funext productId
    rw [latestVersion,CloudControlStore.product,CloudControlStore.upsertProduct,get_insert]
    split
    · next hp =>
      rw [latestVersion,hp,ha]
      rfl
    · rfl
  constructor
  · rw [hl]
    exact h.latest
  · rw [hl]
    exact h.published

theorem finish_keeps (h : Invariant state) (hc : cleanStep state (.finish task newId) = true) :
    Keeps state (step rules state (.finish task newId)) := by
  unfold cleanStep at hc
  unfold step
  dsimp only at hc ⊢
  cases hta : state.tasks.get task with
  | none => exact h.keeps_self
  | some waiting =>
    have hok := h.tasks task waiting hta
    rw [hta] at hc
    cases waiting with
    | storing ver =>
      have hd : ∀ stored, state.store.productVersion ver.productId ver.version =
          some stored → stored.status = .draft := by
        simpa [all_eq_true] using hc
      have hs := h.consistent.upsert hok hd
      exact h.become task hs (fun _ hv => hv.upsert hd) fun _ hn => publication_ok hs hn
    | rolling rolling =>
      obtain ⟨hl,ht⟩ := (Bool.and_eq_true _ _).mp hc
      have hd : rolling.rollback = true ∨
          ∀ stored, state.store.productVersion rolling.plan.product.productId
            rolling.target = some stored → stored.status = .draft := by
        simpa [all_eq_true] using ht
      exact h.become task (h.consistent.apply hok (of_decide_eq_true hl))
        (fun _ hv => hv.apply hok hd) (fun _ hn => by cases hn)

private theorem step_keeps {ev : Event} (h : Invariant state) (hc : cleanStep state ev = true) :
    Keeps state (step rules state ev) := by
  cases ev with
  | createProduct product =>
    unfold step
    dsimp only
    split
    · next ha =>
      exact h.write (h.consistent.upsertProduct ha) fun _ hv => hv
    · exact h.keeps_self
  | elsewhere change =>
    exact h.write ⟨h.consistent.latest,h.consistent.published⟩ fun _ hv => hv
  | create task prod req =>
    exact h.start task fun _ => ok_of_toOption_map_storing fun _ => createdVersion_draft
  | save task prod versionId req =>
    exact h.start task fun _ => ok_of_toOption_map_storing fun _ => savedVersion_draft
  | applyChangeSet task cs =>
    exact h.start task fun _ => ok_of_toOption_map_storing fun _ => appliedVersion_draft
  | transition task newId prod ver rollback =>
    exact h.start task fun _ => ok_of_map_rolling h.consistent
  | finish task newId => exact finish_keeps h hc
  | drop task =>
    rw [step]
    refine h.become task h.consistent (fun _ hv => hv) ?_
    intro waiting hn
    cases hn

theorem Invariant.initial : Invariant .initial where
  consistent := {
    latest := by
      intro ver hv
      cases hv
    published := by
      intro prod name hn
      cases hn }
  tasks := by
    intro number task ht
    cases ht

theorem Keeps.step {next : State} (h : Keeps state next) (hc : cleanStep next ev = true) :
    Keeps state (step rules next ev) :=
  have hs := step_keeps h.invariant hc
  ⟨hs.invariant,fun ver hv => hs.settled ver (h.settled ver hv)⟩

/-- At every moment at most one version of a product is published, and it is the latest; what was
published once keeps its content. -/
theorem published_versions_stay (rules : VersionRules) (reached later : List Event)
    (hclean : cleanRun rules .initial (reached ++ later) = true) :
    (∀ productId, OnlyLatestPublished (run rules reached).store productId) ∧
      ∀ version ∈ (run rules reached).store.productVersions.values, version.status = .published →
          ∃ stored, (run rules (reached ++ later)).store.productVersion version.productId
            version.version = some stored ∧ content stored = content version := by
  have hs := along_append.mp (allAlong_iff.mp hclean)
  have hr := hs.1.keeps (Keeps _) Keeps.step Invariant.initial.keeps_self
  have hl := hs.2.keeps (Keeps _) Keeps.step hr.invariant.keeps_self
  refine ⟨hr.invariant.consistent.onlyLatestPublished,?_⟩
  intro version hv hp
  have hss : version.status ≠ .draft := by
    rw [hp]
    decide
  obtain ⟨stored,hst,-,hsa⟩ := hl.settled version (settled_of_mem hv hss version.status)
  refine ⟨stored,?_,hsa⟩
  rw [run,List.foldl_append]
  exact hst

def pumpRules : VersionRules where
  checks := pumpChecks
  versionChecks _ _ _ := .ok ()
  decodeVersion document :=
    context ((document.stringAt "version").map pumpVersion) "missing field"

def pumpProduct : List Event :=
  [.elsewhere fun store => store.upsertPointSet pumpPoints,
    .createProduct ⟨"pump","plant",none⟩]

def answered (task : Nat) : List Event := [.finish task fun _ => 0,.finish task fun _ => 0]

def firstPublished : List Event :=
  pumpProduct ++ .create 0 "pump" (pumpVersion "1.0.0") :: answered 0

def rolledBack : List Event :=
  .create 0 "pump" (pumpVersion "2.0.0") :: answered 0 ++
    [.transition 0 (fun _ => 0) "pump" "1.0.0" true,.finish 0 fun _ => 0]

def statuses (state : State) : List (String × ProductVersionStatus) :=
  state.store.productVersions.values.map fun version => (version.version,version.status)

theorem rolled_back_version_stays : statuses (run pumpRules (firstPublished ++ rolledBack)) =
        [("1.0.0",.published),("2.0.0",.retired)] ∧
      OnlyLatestPublished (run pumpRules (firstPublished ++ rolledBack)).store "pump" := by
  refine ⟨by decide +kernel,?_⟩
  exact (published_versions_stay pumpRules (firstPublished ++ rolledBack) []
    (by decide +kernel)).1 "pump"

/-- Two versions created at once are both left published. Two requests that create one version at
once are both accepted, and the later write replaces what the first had published. -/
theorem overlapping_creates_break_lifecycle : statuses (run pumpRules (pumpProduct ++
        [.create 0 "pump" (pumpVersion "1.0.0"),
          .create 1 "pump" (pumpVersion "2.0.0"),
          .finish 0 fun _ => 0,.finish 1 fun _ => 0,
          .finish 0 fun _ => 0,.finish 1 fun _ => 0])) =
        [("1.0.0",.published),("2.0.0",.published)] ∧
      [answered 0,answered 0 ++ answered 1].map (fun answers =>
        (run pumpRules (pumpProduct ++
          [.create 0 "pump" (pumpVersion "1.0.0"),
            .create 1 "pump" { pumpVersion "1.0.0" with
              devices := [⟨"pump-1"⟩,⟨"pump-2"⟩] }] ++ answers)).store.productVersions.values.map
                fun version => (version.status,version.devices.map DeviceInstance.deviceId)) =
        [[(.published,["pump-1"])],[(.published,["pump-1","pump-2"])]] := by
  decide +kernel

end VelaEdge.Cloud.VersionLifecycle
