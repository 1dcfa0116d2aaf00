import VelaEdge.Cloud.ChangeSetRuns
import VelaEdge.Cloud.Restart

/-! What a change set may come to when its requests overlap: it is applied at most once, and only
as a person has reviewed it. -/
namespace VelaEdge.Cloud.ChangeSetRuns

open Base Core VelaEdge.Runtime Option ControlPlane ReleaseHistory
open VersionLifecycle (latestVersion)
open ControlPlane (Caller)

variable (rules : Rules)

/-- What a request writes back does not run over what others have written since: the change set has
the status it was taken with; nobody has stored the version before it is stored, nor touched it or
moved the product to another version before it is published. -/
def cleanStep (state : State) : Event → Bool
  | .finish task _ =>
    match state.tasks.get task with
    | some (.recording seen _ _) => state.status = some seen
    | some (.starting _) => state.status = some .confirmed
    | some (.storing application) => (application.slot state.store).isNone
    | some (.publishing application _ _) =>
      application.slot state.store = some application.version &&
        latestVersion state.store application.version.productId = application.seenLatest
    | _ => true
  | _ => true

def cleanRun : State → List Event → Bool := allAlong (step rules) cleanStep

/-! ## What is asked of the history -/

/-- The last confirmation, which comes right after a valid validation and before no other. -/
structure LastReview (history : List Note) (reviewed : AgentChangeSet) : Prop where
  last : ∃ late early, history = late ++ .confirmed reviewed :: .validated true :: early ∧
    ∀ valid, .validated valid ∉ late
  human : confirmedByHuman reviewed = true

/-- What was reviewed is what is published. It replaces nothing but the draft that was stored for
it where there was nothing, and the product is still at the base of the change set. -/
structure Publishes (rules : Rules) (reviewed : AgentChangeSet)
    (publication : Publication) (version : ProductVersion) : Prop where
  content : productVersionFromChangeSet rules.toVersionRules reviewed = .ok version
  absent : publication.found = none
  draft : publication.before.productVersion version.productId version.version = some version
  published : publication.after.productVersion version.productId version.version =
    some { version with status := .published }
  base : (latestVersion publication.before version.productId).getD "none" = reviewed.baseRevision

def AppliedOnceAsReviewed : List Note → Prop
  | [] => True
  | .published publication :: earlier =>
    (∀ other, .published other ∉ earlier) ∧ .rejected ∉ earlier ∧
      (∃ reviewed version, LastReview earlier reviewed ∧
        Publishes rules reviewed publication version) ∧
      AppliedOnceAsReviewed earlier
  | .applied :: earlier =>
    .applied ∉ earlier ∧ .rejected ∉ earlier ∧ (∃ publication, .published publication ∈ earlier) ∧
      AppliedOnceAsReviewed earlier
  | _ :: earlier => AppliedOnceAsReviewed earlier

/-! ## What clean runs keep -/

def Untouched (history : List Note) : Prop :=
  ∀ note ∈ history, (∃ valid, note = .validated valid) ∨ ∃ reviewed, note = .confirmed reviewed

inductive Move : AgentChangeSetStatus → AgentChangeSet → List Note → Prop
  | validated {seen next} (valid : Bool) (hseen : closed seen = false)
      (hnext : next.status = .draft ∨ next.status = .awaitingConfirmation) :
      Move seen next [.validated valid]
  | confirmed {seen next} (hseen : closed seen = false) (hnext : next.status = .confirmed)
      (hhuman : confirmedByHuman next = true) :
      Move seen next [.confirmed next, .validated true]
  | rejected {seen next} (hseen : closed seen = false) (hnext : next.status = .rejected) :
      Move seen next [.rejected]
  | applied {next} (hnext : next.status = .applied) : Move .applying next [.applied]
  | failed {next} (hnext : next.status = .failed) : Move .applying next [.failed]

structure Planned (rules : Rules) (application : Application) : Prop where
  status : application.changeSet.status = .applying
  content : productVersionFromChangeSet rules.toVersionRules application.changeSet =
    .ok application.version
  base : application.seenLatest.getD "none" = application.changeSet.baseRevision

structure Underway (rules : Rules) (history : List Note) (application : Application) :
    Prop where
  planned : Planned rules application
  unpublished : ∀ publication, .published publication ∉ history

def Task.applies : Task → Bool
  | .recording seen _ _ => seen = .applying
  | .storing _ | .publishing _ _ _ => true
  | _ => false

def Task.copy : Task → Option AgentChangeSet
  | .recording _ next _ => some next
  | .starting application | .storing application | .publishing application _ _ =>
    some application.changeSet
  | .deleting _ _ => none

def Task.Ok (history : List Note) : Task → Prop
  | .recording seen next notes => Move seen next notes ∧
      (next.status = .applied → ∃ publication, .published publication ∈ history)
  | .starting application => Planned rules application
  | .storing application => Underway rules history application
  | .publishing application found plan => Underway rules history application ∧ found = none ∧
      Reaches plan application.version
  | .deleting _ _ => True

structure Consistent (state : State) : Prop where
  sound : AppliedOnceAsReviewed rules state.history
  untouched : state.status.any closed = false → Untouched state.history
  reviewed : ∀ changeSet, state.changeSet = some changeSet →
    changeSet.status = .confirmed ∨ changeSet.status = .applying →
      ∃ reviewed, LastReview state.history reviewed ∧ proposal reviewed = proposal changeSet
  applying : state.status = some .applying → .rejected ∉ state.history ∧ .applied ∉ state.history

structure Fits (state : State) (task : Task) : Prop where
  ok : task.Ok rules state.history
  copy : ∀ copy, task.copy = some copy → state.changeSet.map proposal = some (proposal copy)
  applying : task.applies = true → state.status = some .applying

structure Invariant (state : State) : Prop where
  consistent : Consistent rules state
  fits : ∀ number task, state.tasks.get number = some task → Fits rules state task
  alone : ∀ number other task rival, state.tasks.get number = some task →
    state.tasks.get other = some rival → task.applies = true → rival.applies = true →
      number = other

variable {rules}

/-! ### Requests that are accepted -/

section Requests

variable {store : CloudControlStore} {changeSet next : AgentChangeSet} {task : Task}

/-- A request that has looked at the change set and waits, whatever is done meanwhile. -/
structure Accepted (rules : Rules) (changeSet : AgentChangeSet) (task : Task) :
    Prop where
  ok : ∀ history, task.Ok rules history
  copy : ∀ copy, task.copy = some copy → proposal copy = proposal changeSet
  idle : task.applies = false

theorem Move.accepted (h : Move changeSet.status next notes) (ho : closed changeSet.status = false)
    (hn : proposal next = proposal changeSet) :
    Accepted rules changeSet (.recording changeSet.status next notes) where
  ok history := by
    refine ⟨h,?_⟩
    intro ha
    generalize changeSet.status = seen at h ho
    cases h with
    | validated valid hse hs => simp [ha] at hs
    | confirmed hse hs => simp [ha] at hs
    | rejected hse hs => simp [ha] at hs
    | applied => cases ho
    | failed => cases ho
  copy copy hc := by
    cases hc
    exact hn
  idle := by
    rw [Task.applies,decide_eq_false_iff_not]
    intro hap
    rw [hap] at ho
    cases ho

theorem validateRequest_ok (h : validateRequest rules store changeSet = .ok task) :
    Accepted rules changeSet task := by
  obtain ⟨next,hn,ht⟩ := bind_eq_ok.mp h
  cases ht
  obtain ⟨ho,hs,hp⟩ := recordValidation_ok (mapError_eq_ok.mp hn)
  exact (Move.validated _ ho hs).accepted ho hp

theorem confirmRequest_ok
    (h : confirmRequest rules store changeSet caller coApprover note = .ok task) :
    Accepted rules changeSet task := by
  obtain ⟨⟨next,valid⟩,hn,ht⟩ := bind_eq_ok.mp h
  cases ht
  obtain ⟨ho,hp,hs⟩ := review_ok hn
  cases valid with
  | true => exact (Move.confirmed ho hs.1 hs.2).accepted ho hp
  | false => exact (Move.validated _ ho hs).accepted ho hp

theorem rejectRequest_ok (h : rejectRequest rules changeSet caller note = .ok task) :
    Accepted rules changeSet task := by
  obtain ⟨next,hn,ht⟩ := bind_eq_ok.mp h
  cases ht
  obtain ⟨ho,hs,hp⟩ := reject_ok (mapError_eq_ok.mp hn)
  exact (Move.rejected ho hs).accepted ho hp

theorem applyRequest_ok (h : applyRequest rules store changeSet caller = .ok task) :
    Accepted rules changeSet task := by
  obtain ⟨⟨next,found⟩,hn,ht⟩ := bind_eq_ok.mp h
  cases found with
  | none =>
    cases ht
    obtain ⟨ho,hs,hp⟩ := prepare_blocked hn
    exact (Move.validated _ ho hs).accepted ho hp
  | some ver =>
    cases ht
    obtain ⟨-,hva,hv,ha⟩ := prepare_started hn
    obtain ⟨hs,hp⟩ := startApply_ok ha
    have hd : { ver with status := .draft } = ver := by rw [← productVersionFromChangeSet_draft hv]
    have hc := hv
    rw [← productVersionFromChangeSet_congr hp] at hc
    have hb := (base_of_valid hva hv).trans (congrArg (fun part => part.2.2.1) hp.symm)
    rw [hd]
    refine ⟨fun history => ⟨hs,hc,hb⟩,?_,rfl⟩
    intro copy hco
    cases hco
    exact hp

theorem deleteRequest_ok {ver : String} (h : deleteRequest store prod ver = .ok task) :
    task = .deleting prod ver := by
  obtain ⟨-,-,ht⟩ := bind_eq_ok.mp h
  cases ht
  rfl

end Requests

/-! ### Requests that wait -/

section Waiting

variable {state after : State} {task : Task} {number : Nat}

theorem Fits.grow (h : Fits rules state task) (hi : task.applies = false)
    (hpr : after.changeSet.map proposal = state.changeSet.map proposal)
    (hg : ∀ note ∈ state.history, note ∈ after.history) : Fits rules after task where
  ok := by
    have hok := h.ok
    cases task with
    | recording seen next notes =>
      refine ⟨hok.1,fun hap => ?_⟩
      obtain ⟨pub,hp⟩ := hok.2 hap
      exact ⟨pub,hg _ hp⟩
    | starting app => exact hok
    | storing app => cases hi
    | publishing app found plan => cases hi
    | deleting prod ver => trivial
  copy copy hc := hpr.trans (h.copy copy hc)
  applying ha := by
    rw [hi] at ha
    cases ha

theorem Invariant.others_idle (h : Invariant rules state) (hn : state.tasks.get number = some task)
    (ha : task.applies = true) (other : Nat) (rival : Task) (hne : other ≠ number)
    (ho : state.tasks.get other = some rival) : rival.applies = false := by
  by_contra hrival
  exact hne (h.alone other number rival task ho hn (Bool.not_eq_false _ ▸ hrival) ha)

theorem Invariant.all_idle (h : Invariant rules state) (hs : state.status ≠ some .applying)
    (other : Nat) (rival : Task) (ho : state.tasks.get other = some rival) :
    rival.applies = false := by
  by_contra hrival
  exact hs ((h.fits other rival ho).applying (Bool.not_eq_false _ ▸ hrival))

variable {next : Option Task}

variable (h : Invariant rules state)
include h

theorem Invariant.become (hta : after.tasks = state.tasks) (ha : Consistent rules after)
    (hot : ∀ other rival, other ≠ number → state.tasks.get other = some rival →
      Fits rules after rival) (hn : ∀ waiting, next = some waiting → Fits rules after waiting ∧
      (waiting.applies = true → ∀ other rival, other ≠ number →
        state.tasks.get other = some rival → rival.applies = false)) :
    Invariant rules (after.become number next) := by
  cases next with
  | none =>
    have hg : ∀ other rival, (after.tasks.delete number).get other = some rival →
        other ≠ number ∧ state.tasks.get other = some rival := by
      intro other rival ho
      rw [hta,OrderedMap.get_delete] at ho
      split at ho
      · cases ho
      · next hne => exact ⟨hne,ho⟩
    refine ⟨⟨ha.sound,ha.untouched,ha.reviewed,ha.applying⟩,?_,?_⟩
    · intro other rival ho
      obtain ⟨hne,ho⟩ := hg other rival ho
      have hf := hot other rival hne ho
      exact ⟨hf.ok,hf.copy,hf.applying⟩
    · intro first second task rival hfi hs
      exact h.alone first second task rival (hg first task hfi).2 (hg second rival hs).2
  | some waiting =>
    obtain ⟨hf,hi⟩ := hn waiting rfl
    have hg : ∀ other rival, (after.tasks.put number waiting).get other = some rival →
        other = number ∧ rival = waiting ∨ other ≠ number ∧ state.tasks.get other = some rival := by
      intro other rival ho
      rw [hta,OrderedMap.get_put] at ho
      split at ho
      · next heq => exact .inl ⟨heq,(some.inj ho).symm⟩
      · next hne => exact .inr ⟨hne,ho⟩
    refine ⟨⟨ha.sound,ha.untouched,ha.reviewed,ha.applying⟩,?_,?_⟩
    · intro other rival ho
      rcases hg other rival ho with ⟨-,rfl⟩ | ⟨hne,ho⟩
      · exact ⟨hf.ok,hf.copy,hf.applying⟩
      · have hr := hot other rival hne ho
        exact ⟨hr.ok,hr.copy,hr.applying⟩
    · intro first second task rival hfi hs ht hr
      rcases hg first task hfi with ⟨rfl,rfl⟩ | ⟨hne,hk⟩
      · rcases hg second rival hs with ⟨rfl,-⟩ | ⟨hne,hk⟩
        · rfl
        · rw [hi ht second rival hne hk] at hr
          cases hr
      · rcases hg second rival hs with ⟨rfl,rfl⟩ | ⟨-,hre⟩
        · rw [hi hr first task hne hk] at ht
          cases ht
        · exact h.alone first second task rival hk hre ht hr

theorem Invariant.withVersions (vers : VersionLifecycle.State) :
    Invariant rules { state with versions := vers } where
  consistent := ⟨h.consistent.sound,h.consistent.untouched,h.consistent.reviewed,
    h.consistent.applying⟩
  fits number task ht :=
    let hf := h.fits number task ht
    ⟨hf.ok,hf.copy,hf.applying⟩
  alone := h.alone

theorem Invariant.withTask (hn : ∀ waiting, next = some waiting → Fits rules state waiting ∧
      (waiting.applies = true → ∀ other rival, other ≠ number →
        state.tasks.get other = some rival → rival.applies = false)) :
    Invariant rules (state.become number next) :=
  h.become rfl h.consistent (fun other rival _ ho => h.fits other rival ho) hn

end Waiting

variable {next : AgentChangeSet}

/-! ### What is written to the change set -/

section Writes

variable {state : State} {app : Application} {number : Nat}

section

variable (h : Untouched history)
include h

theorem Untouched.unpublished (pub : Publication) : .published pub ∉ history := by
  intro hm
  rcases h _ hm with ⟨valid,heq⟩ | ⟨reviewed,heq⟩
  · cases heq
  · cases heq

theorem Untouched.undecided : .rejected ∉ history ∧ .applied ∉ history := by
  constructor <;> intro hm <;> rcases h _ hm with ⟨valid,heq⟩ | ⟨reviewed,heq⟩ <;> cases heq

theorem Untouched.validated (valid : Bool) : Untouched (.validated valid :: history) :=
  List.forall_mem_cons.mpr ⟨.inl ⟨valid,rfl⟩,h⟩

end

theorem LastReview.published (h : LastReview history reviewed) (pub : Publication) :
    LastReview (.published pub :: history) reviewed := by
  obtain ⟨⟨late,early,rfl,hl⟩,hh⟩ := h
  refine ⟨⟨.published pub :: late,early,rfl,?_⟩,hh⟩
  intro valid hm
  rcases List.mem_cons.mp hm with heq | hm
  · cases heq
  · exact hl valid hm

private theorem consistent_of_over (hso : AppliedOnceAsReviewed rules (notes ++ state.history))
    (ho : next.status ∈ [.applied,.rejected,.failed]) :
    Consistent rules { state with changeSet := some next, history := notes ++ state.history } where
  sound := hso
  untouched hop := by
    have hc : closed next.status = false := hop
    revert ho hc
    cases next.status <;> simp [closed]
  reviewed cs hcs hr := by
    cases hcs
    rcases hr with hs | hs <;> simp [hs] at ho
  applying ha := by
    rw [some.inj ha] at ho
    simp at ho

theorem Move.consistent (hm : Move seen next notes) (h : Consistent rules state)
    (hst : state.status = some seen)
    (hap : next.status = .applied → ∃ pub, .published pub ∈ state.history) :
    Consistent rules { state with changeSet := some next, history := notes ++ state.history } := by
  have hu : closed seen = false → Untouched state.history := by
    intro hs
    apply h.untouched
    rw [hst]
    exact hs
  cases hm with
  | validated valid hs hn =>
    refine ⟨h.sound,fun _ => (hu hs).validated valid,?_,?_⟩
    · intro cs hcs hr
      cases hcs
      rcases hn with hn | hn <;> simp [hn] at hr
    · intro ha
      have hno := some.inj ha
      rcases hn with hn | hn <;> simp [hn] at hno
  | confirmed hs hn hh =>
    refine ⟨h.sound,?_,?_,?_⟩
    · intro _
      exact List.forall_mem_cons.mpr ⟨.inr ⟨next,rfl⟩,(hu hs).validated true⟩
    · intro cs hcs _
      cases hcs
      exact ⟨next,⟨⟨[],state.history,rfl,by simp⟩,hh⟩,rfl⟩
    · intro ha
      have hno := some.inj ha
      simp [hn] at hno
  | rejected hs hn => exact consistent_of_over h.sound (by simp [hn])
  | applied hn =>
    obtain ⟨hre,ho⟩ := h.applying hst
    exact consistent_of_over ⟨ho,hre,hap hn,h.sound⟩ (by simp [hn])
  | failed hn => exact consistent_of_over h.sound (by simp [hn])

theorem finish_recording (h : Invariant rules state)
    (hn : state.tasks.get number = some (.recording seen next notes))
    (hs : state.status = some seen) :
    Invariant rules ({ state with
      changeSet := some next
      history := notes ++ state.history }.become number none) := by
  have hf := h.fits number _ hn
  obtain ⟨hm,hap⟩ := hf.ok
  have hi : ∀ other rival, other ≠ number → state.tasks.get other = some rival →
      rival.applies = false := by
    intro other rival hne ho
    by_cases ha : seen = .applying
    · exact h.others_idle hn (decide_eq_true ha) other rival hne ho
    · refine h.all_idle ?_ other rival ho
      rw [hs]
      exact fun heq => ha (some.inj heq)
  refine h.become rfl (hm.consistent h.consistent hs hap) ?_ ?_
  · intro other rival hne ho
    exact (h.fits other rival ho).grow (hi other rival hne ho)
      (hf.copy next rfl).symm fun note hno => List.mem_append_right notes hno
  · intro waiting hw
    cases hw

theorem finish_starting (h : Invariant rules state)
    (hn : state.tasks.get number = some (.starting app))
    (hs : state.status = some .confirmed) :
    Invariant rules ({ state with changeSet := some app.changeSet }.become number
      (some (.storing app))) := by
  have hf := h.fits number _ hn
  have hp : Planned rules app := hf.ok
  have hcy := hf.copy _ rfl
  have hu : Untouched state.history := h.consistent.untouched (by rw [hs]; rfl)
  have ha : some app.changeSet.status = some .applying := congrArg some hp.status
  have hi := h.all_idle (by rw [hs]; nofun)
  obtain ⟨cur,hc,hco⟩ := map_eq_some_iff.mp hs
  refine h.become rfl ⟨h.consistent.sound,?_,?_,fun _ => hu.undecided⟩ ?_ ?_
  · intro _
    exact hu
  · intro cs hcs _
    cases hcs
    obtain ⟨reviewed,hr,hpr⟩ := h.consistent.reviewed cur hc (.inl hco)
    rw [hc,map_some,some.injEq] at hcy
    exact ⟨reviewed,hr,hpr.trans hcy⟩
  · intro other rival _ ho
    exact (h.fits other rival ho).grow (hi other rival ho) hcy.symm fun _ hno => hno
  · intro waiting hw
    cases hw
    refine ⟨⟨⟨hp,hu.unpublished⟩,?_,fun _ => ha⟩,fun _ other rival _ ho => hi other rival ho⟩
    intro copy hcd
    cases hcd
    rfl

/-! ### An application under way -/

section

variable (hco : state.changeSet.map proposal = some (proposal app.changeSet))
  (hs : state.status = some .applying)
include hco hs

theorem applied_fits (hpl : Planned rules app) (hp : ∃ pub, .published pub ∈ state.history)
    (h : app.applied rules = some waiting) : Fits rules state waiting := by
  obtain ⟨next,hn,rfl⟩ := map_eq_some_iff.mp h
  obtain ⟨ha,hpr⟩ := finishApply_ok (toOption_eq_some.mp hn)
  refine ⟨⟨?_,fun _ => hp⟩,?_,fun _ => hs⟩
  · rw [hpl.status]
    exact .applied ha
  · intro copy hc
    cases hc
    rw [hco,hpr]

theorem failed_fits {msg : String} (hpl : Planned rules app)
    (h : app.failed rules msg = some waiting) : Fits rules state waiting := by
  obtain ⟨next,hn,rfl⟩ := map_eq_some_iff.mp h
  obtain ⟨hf,hp⟩ := finishApply_ok (toOption_eq_some.mp hn)
  refine ⟨⟨?_,?_⟩,?_,fun _ => hs⟩
  · rw [hpl.status]
    exact .failed hf
  · intro ha
    rw [hf] at ha
    cases ha
  · intro copy hc
    cases hc
    rw [hco,hp]

private theorem publish_fits {store : CloudControlStore} (hu : Underway rules state.history app)
    (h : app.publish rules newId none (store.upsertProductVersion app.version) =
      some waiting) : Fits rules state waiting := by
  unfold Application.publish at h
  split at h
  · exact failed_fits hco hs hu.planned h
  · next hp =>
    exact (planned_some (productVersionFromChangeSet_draft hu.planned.content) hp).elim
  · next hp =>
    cases h
    refine ⟨⟨hu,rfl,planned_reaches hp⟩,?_,fun _ => hs⟩
    intro copy hc
    cases hc
    exact hco

end

theorem finish_storing (h : Invariant rules state)
    (hn : state.tasks.get number = some (.storing app))
    (ha : app.slot state.store = none) :
    Invariant rules (goOn rules state number newId (.storing app)) := by
  have hf := h.fits number _ hn
  refine (h.withVersions _).withTask ?_
  intro waiting hw
  rw [ha] at hw
  have hne : Fits rules state waiting := publish_fits (hf.copy _ rfl) (hf.applying rfl) hf.ok hw
  exact ⟨⟨hne.ok,hne.copy,hne.applying⟩,fun _ => h.others_idle hn rfl⟩

theorem finish_publishing {plan : TransitionPlan} (h : Invariant rules state)
    (hn : state.tasks.get number = some (.publishing app found plan))
    (hsl : app.slot state.store = some app.version)
    (hl : latestVersion state.store app.version.productId = app.seenLatest) :
    Invariant rules (goOn rules state number newId (.publishing app found plan)) := by
  have hf := h.fits number _ hn
  obtain ⟨hu,hfo,hre⟩ := hf.ok
  have hco := hf.copy _ rfl
  have hs := hf.applying rfl
  obtain ⟨cur,hc,ha⟩ := map_eq_some_iff.mp hs
  obtain ⟨reviewed,hrw,hpr⟩ := h.consistent.reviewed cur hc (.inr ha)
  have hsa : proposal reviewed = proposal app.changeSet := by
    rw [hc,map_some,some.injEq] at hco
    exact hpr.trans hco
  have hp : Publishes rules reviewed ⟨found,state.store,plan.apply state.store⟩ app.version := by
    refine ⟨?_,hfo,hsl,hre state.store,?_⟩
    · rw [productVersionFromChangeSet_congr hsa]
      exact hu.planned.content
    · rw [hl,hu.planned.base]
      exact (congrArg (fun part => part.2.2.1) hsa).symm
  obtain ⟨hr,hon⟩ := h.consistent.applying hs
  have hi := h.others_idle hn rfl
  refine h.become rfl ⟨?_,?_,?_,?_⟩ ?_ ?_
  · exact ⟨hu.unpublished,hr,⟨reviewed,app.version,hrw,hp⟩,h.consistent.sound⟩
  · intro hop
    have hcl : state.status.any closed = false := hop
    rw [hs] at hcl
    cases hcl
  · intro cs hcs hd
    obtain ⟨last,hla,hk⟩ := h.consistent.reviewed cs hcs hd
    exact ⟨last,hla.published _,hk⟩
  · intro _
    simp [hr,hon]
  · intro other rival hne ho
    exact (h.fits other rival ho).grow (hi other rival hne ho) rfl
      fun note hno => List.mem_cons_of_mem _ hno
  · intro waiting hw
    refine ⟨applied_fits ?_ ?_ hu.planned ⟨_,List.mem_cons_self⟩ hw,fun _ => hi⟩
    · exact hco
    · exact hs

end Writes

/-! ### Runs -/

section Runs

variable {state : State} {number : Nat}

theorem deleting_fits {ver : String} : Fits rules state (.deleting prod ver) where
  ok := trivial
  copy copy hc := by cases hc
  applying ha := by cases ha

theorem Accepted.fits (h : Accepted rules cs task) (hcs : state.changeSet = some cs) :
    Fits rules state task where
  ok := h.ok state.history
  copy copy hc := by rw [hcs,map_some,h.copy copy hc]
  applying ha := by
    rw [h.idle] at ha
    cases ha

section

variable (h : Invariant rules state)
include h

theorem Invariant.start {req : Except ApiError Task}
    (hr : ∀ task, req = .ok task → Fits rules state task ∧ task.applies = false) :
    Invariant rules (state.start number req) := by
  unfold State.start
  split
  · refine h.withTask ?_
    intro waiting hw
    cases hw
    obtain ⟨hf,hi⟩ := hr _ rfl
    refine ⟨hf,fun ha => ?_⟩
    rw [hi] at ha
    cases ha
  · exact h

theorem Invariant.startLoaded {req : AgentChangeSet → Except ApiError Task}
    (hr : ∀ cs task, req cs = .ok task → Accepted rules cs task) :
    Invariant rules (state.start number (step.loaded state req)) := by
  refine h.start ?_
  intro task ht
  obtain ⟨cs,hcs,ht⟩ := bind_eq_ok.mp ht
  have ha := hr cs task ht
  exact ⟨ha.fits (context_eq_ok.mp hcs),ha.idle⟩

theorem Invariant.draft (hn : state.changeSet = none)
    (hd : drafted rules state.store changeSetId target baseRevision ops risk = .ok cs) :
    Invariant rules { state with
      changeSet := some cs
      history := .validated (isValid cs) :: state.history } := by
  obtain ⟨draft,-,hre⟩ := bind_eq_ok.mp hd
  obtain ⟨-,hs,-⟩ := recordValidation_ok (mapError_eq_ok.mp hre)
  have hu : Untouched state.history := by
    apply h.consistent.untouched
    rw [State.status,hn]
    rfl
  have hc : ∀ other task, state.tasks.get other = some task → task.copy = none := by
    intro other task ht
    cases hco : task.copy with
    | none => rfl
    | some copy =>
      have hp := (h.fits other task ht).copy copy hco
      rw [hn] at hp
      cases hp
  refine ⟨⟨h.consistent.sound,fun _ => hu.validated _,?_,?_⟩,?_,h.alone⟩
  · intro cur hcu hr
    cases hcu
    rcases hs with hs | hs <;> simp [hs] at hr
  · intro ha
    have hno := some.inj ha
    rcases hs with hs | hs <;> simp [hs] at hno
  · intro other task ht
    cases task with
    | deleting prod ver => exact deleting_fits
    | recording seen next notes => cases hc other _ ht
    | starting app => cases hc other _ ht
    | storing app => cases hc other _ ht
    | publishing app found plan => cases hc other _ ht

theorem finish_invariant (hc : cleanStep state (.finish number newId) = true) :
    Invariant rules (step rules state (.finish number newId)) := by
  unfold cleanStep at hc
  unfold step
  dsimp only at hc ⊢
  cases hn : state.tasks.get number with
  | none => exact h
  | some waiting =>
    rw [hn] at hc
    cases waiting with
    | recording seen next notes =>
      exact finish_recording h hn (of_decide_eq_true hc)
    | starting app => exact finish_starting h hn (of_decide_eq_true hc)
    | storing app =>
      exact finish_storing h hn (isNone_iff_eq_none.mp hc)
    | publishing app found plan =>
      obtain ⟨hs,hl⟩ := (Bool.and_eq_true _ _).mp hc
      exact finish_publishing h hn (of_decide_eq_true hs) (of_decide_eq_true hl)
    | deleting prod ver =>
      dsimp [goOn]
      refine (h.withVersions _).withTask ?_
      intro next hne
      cases hne

private theorem refuse_invariant : Invariant rules (step rules state (.refuse number why)) := by
  refine h.withTask ?_
  intro waiting hw
  obtain ⟨task,ht,hg⟩ := bind_eq_some_iff.mp hw
  have hf := h.fits number task ht
  cases task with
  | storing app =>
    have hu : Underway rules state.history app := hf.ok
    exact ⟨failed_fits (hf.copy _ rfl) (hf.applying rfl) hu.planned hg,
      fun _ => h.others_idle ht rfl⟩
  | publishing app found plan =>
    exact ⟨failed_fits (hf.copy _ rfl) (hf.applying rfl) hf.ok.1.planned hg,
      fun _ => h.others_idle ht rfl⟩
  | recording seen next notes => cases hg
  | starting app => cases hg
  | deleting prod ver => cases hg

private theorem step_invariant {ev : Event} (hc : cleanStep state ev = true) :
    Invariant rules (step rules state ev) := by
  cases ev with
  | versions ev => exact h.withVersions _
  | deleteVersion task prod ver =>
    refine h.start ?_
    intro waiting hw
    cases deleteRequest_ok hw
    exact ⟨deleting_fits,rfl⟩
  | draft changeSetId target baseRevision ops risk =>
    unfold step
    dsimp only
    split
    · next hn hd => exact h.draft hn hd
    · exact h
  | validate task => exact h.startLoaded fun _ _ => validateRequest_ok
  | confirm task caller coApprover note => exact h.startLoaded fun _ _ => confirmRequest_ok
  | reject task caller note => exact h.startLoaded fun _ _ => rejectRequest_ok
  | apply task caller => exact h.startLoaded fun _ _ => applyRequest_ok
  | finish task newId => exact finish_invariant h hc
  | refuse task why => exact refuse_invariant h
  | drop task =>
    rw [step]
    refine h.withTask ?_
    intro waiting hw
    cases hw

end

theorem Invariant.initial : Invariant rules .initial where
  consistent := {
    sound := trivial
    untouched := fun _ => List.forall_mem_nil _
    reviewed := fun _ hcs => by cases hcs
    applying := fun ha => by cases ha }
  fits _ _ ht := by cases ht
  alone _ _ _ _ ht := by cases ht

end Runs

/-- However the requests overlap, as long as none runs over what another has written, the change
set is applied at most once, after a person has confirmed what was last found valid, and never
after it was rejected; what is published is what was reviewed. -/
theorem applied_once_as_reviewed (rules : Rules) (events : List Event)
    (hclean : cleanRun rules .initial events = true) :
    AppliedOnceAsReviewed rules (run rules events).history :=
  have hs := (allAlong_iff.mp hclean).keeps (Invariant rules) (fun h hc => step_invariant h hc)
    .initial
  hs.consistent.sound

/-! ## The pump -/

def pumpDocument (version : String) : Json :=
  .object [("algorithms",.array []),("collectionTasks",.array []),("commandFlows",.array []),
    ("createdAt",.string "1970-01-01T00:00:00Z"),
    ("dataConfigs",.array [.object [("algorithm_ids",.array []),
      ("collection",.object [("period_ms",.number (.posInt 1000)),
        ("retry_count",.number (.posInt 0)),("timeout_ms",.number (.posInt 1000))]),
      ("config_id",.string "telemetry"),("device_id",.string "pump-1"),("enabled",.bool true),
      ("name",.string "Telemetry"),
      ("points",.array [.object [
        ("address",.object [("kind",.string "simulated"),("value",.string "flow")]),
        ("json_field",.string "flow"),("point_id",.string "flow"),
        ("semantic_id",.string "pump.flow"),("unit",.null),("value_type",.string "Float")]]),
      ("protocol_connection_id",.string "sim"),
      ("publish",.object [("payload",.object [("include_quality",.bool true),
        ("mode",.string "Object"),("timestamp_field",.string "ts")]),
        ("qos",.number (.posInt 1)),("sink_id",.string "cloud"),
        ("topic_template",.string "telemetry")]),
      ("visual_graph",.object [("edges",.array []),("nodes",.array [])])]]),
    ("deviceModels",.array []),
    ("devices",.array [.object [("device_id",.string "pump-1"),
      ("device_type",.string "pump")]]),
    ("mqttUplinks",.array [.object [("batch_size",.number (.posInt 100)),
      ("broker",.string "mqtt://mqtt.local:1883"),("client_id",.string "edge-1"),
      ("flush_interval_ms",.number (.posInt 1000)),("qos",.number (.posInt 1)),
      ("sink_id",.string "cloud"),
      ("topic_template",.string "edge/\x7bedge_id\x7d/device/\x7bdevice_id\x7d/telemetry")]]),
    ("pointSetIds",.array [.string "pump-points"]),("productId",.string "pump"),
    ("protocolConnections",.array [.object [("connection_id",.string "sim"),("endpoint",.null),
      ("protocol",.string "Simulated")]]),
    ("status",.string "draft"),("version",.string version)]

def pumpRules : Rules := { Restart.pumpRules with
    decodeVersion := fun document =>
      if document = pumpDocument "2.0.0" then .ok (pumpVersion "2.0.0")
      else .error "missing field" }

def confirmedChange (baseRevision : String) : List Event :=
  [.draft "change-1" ⟨"plant",some "pump",some "2.0.0",[]⟩ baseRevision
      [⟨"operation-1",.create,.productVersion,"pump:2.0.0",none,some (pumpDocument "2.0.0")⟩]
      .low,
    .confirm 0 Restart.operator none none,.finish 0 fun _ => 0]

def answers (task : Nat) : List Event := List.replicate 4 (.finish task fun _ => 0)

def pumpProduct : List Event := VersionLifecycle.pumpProduct.map .versions

def created (version : ProductVersion) : List Event :=
  (.create 0 "pump" version :: VersionLifecycle.answered 0).map .versions

def Note.stage : Note → AgentChangeSetStatus
  | .validated valid => if valid then .awaitingConfirmation else .draft
  | .confirmed _ => .confirmed
  | .rejected => .rejected
  | .published _ => .applying
  | .applied => .applied
  | .failed => .failed

def stages (events : List Event) : List AgentChangeSetStatus :=
  (run pumpRules events).history.map Note.stage

/-- For each publication what the version was stored over, and the latest version before. -/
def publications (events : List Event) : List (Option ProductVersionStatus × Option String) :=
  (run pumpRules events).history.filterMap fun note =>
    match note with
    | .published publication =>
      some (publication.found.map ProductVersion.status,latestVersion publication.before "pump")
    | _ => none

def reviewedChange : List Event :=
  pumpProduct ++ created (pumpVersion "1.0.0") ++ confirmedChange "1.0.0" ++
    .apply 1 Restart.operator ::
    created { pumpVersion "3.0.0" with mqttUplinks := [] } ++ answers 1

theorem pump_change_applied_as_reviewed :
    stages reviewedChange = [.applied,.applying,.confirmed,.awaitingConfirmation,
        .awaitingConfirmation] ∧
      AppliedOnceAsReviewed pumpRules (run pumpRules reviewedChange).history := by
  refine ⟨by decide +kernel,?_⟩
  exact applied_once_as_reviewed pumpRules reviewedChange (by decide +kernel)

/-- Two applications at once publish the version twice, the second over what the first has
published. One that overlaps a rejection publishes the version although the rejection was
accepted. Others may store the version first, or move the product away from the base of the change
set, and it is published all the same. -/
theorem overlapping_applications_break_review : stages (pumpProduct ++ confirmedChange "none" ++
        [.apply 0 Restart.operator,.apply 1 Restart.operator] ++ answers 0 ++ answers 1) =
        [.applied,.applying,.applied,.applying,.confirmed,.awaitingConfirmation,
          .awaitingConfirmation] ∧
      publications (pumpProduct ++ confirmedChange "none" ++
        [.apply 0 Restart.operator,.apply 1 Restart.operator] ++ answers 0 ++ answers 1) =
        [(some .published,some "2.0.0"),(none,none)] ∧
      stages (pumpProduct ++ confirmedChange "none" ++
        [.apply 0 Restart.operator,.reject 1 Restart.operator "not now",.finish 1 fun _ => 0] ++
          answers 0) =
        [.applied,.applying,.rejected,.confirmed,.awaitingConfirmation,.awaitingConfirmation] ∧
      publications (pumpProduct ++ confirmedChange "none" ++
        .apply 0 Restart.operator :: created (pumpVersion "2.0.0") ++ answers 0) =
        [(some .published,some "2.0.0")] ∧
      publications (pumpProduct ++ confirmedChange "none" ++
        .apply 0 Restart.operator :: created (pumpVersion "1.0.0") ++ answers 0) =
        [(none,some "1.0.0")] := by
  decide +kernel

end VelaEdge.Cloud.ChangeSetRuns

