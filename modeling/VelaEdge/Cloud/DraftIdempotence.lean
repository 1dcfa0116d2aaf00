import VelaEdge.Cloud.DraftRuns

/-! Drafting is idempotent as long as drafts of one key do not overlap: what each step keeps, and
what follows for whole runs. -/
namespace VelaEdge.Cloud.DraftRuns

open Base Core VelaEdge.Runtime List Registry
open ControlPlane (Caller requestView)

variable {ext : Externals} {state : State}

/-! ## What other requests write -/

def SameCommand (copy stored : AgentCommandCandidate) : Prop :=
  copy.candidateId = stored.candidateId ∧ copy.command = stored.command

section

variable {cand copy : AgentCommandCandidate}

include cand copy

theorem recordValidation_command
    {rep : AgentValidationReport} (h : cand.recordValidation rep = .ok copy) :
    SameCommand copy cand := by
  obtain ⟨_,_,hc⟩ := bind_eq_ok.mp h
  cases hc
  exact ⟨rfl,rfl⟩

theorem confirm_command (h : cand.confirm evidence = .ok copy) : SameCommand copy cand := by
  simp only [AgentCommandCandidate.confirm,bind_eq_ok] at h
  obtain ⟨_,_,_,_,_,_,_,_,_,_,hc⟩ := h
  cases hc
  exact ⟨rfl,rfl⟩

theorem reject_command
    (h : cand.reject ext rejectedBy note now = .ok copy) : SameCommand copy cand := by
  simp only [AgentCommandCandidate.reject,bind_eq_ok] at h
  obtain ⟨_,_,_,_,_,_,hc⟩ := h
  cases hc
  exact ⟨rfl,rfl⟩

theorem startDispatch_command (h : cand.startDispatch = .ok copy) : SameCommand copy cand := by
  obtain ⟨_,_,hc⟩ := bind_eq_ok.mp h
  cases hc
  exact ⟨rfl,rfl⟩

theorem finishDispatch_command
    {status : AgentCommandCandidateStatus} (h : cand.finishDispatch status res = .ok copy) :
    SameCommand copy cand := by
  obtain ⟨_,_,hc⟩ := bind_eq_ok.mp h
  cases hc
  exact ⟨rfl,rfl⟩

end

def written : CommandApproval.Task → AgentCommandCandidate
  | .writing copy _ => copy
  | .starting dispatch => dispatch.copy
  | .publishing dispatch => dispatch.copy
  | .sent dispatch => dispatch.copy

variable {req : CommandApproval.Request}

theorem start_command {stored : AgentCommandCandidate} (h : req.start ext stored seen = some task) :
    SameCommand (written task) stored := by
  rcases CommandApproval.start_cases ext h with
    ⟨_,_,hc,rfl⟩ | ⟨_,checked,_,_,hv,hc,rfl⟩ | ⟨_,_,_,_,hc,rfl⟩ | ⟨_,hc,rfl⟩
  · exact recordValidation_command hc
  · obtain ⟨hid,hco⟩ := recordValidation_command hv
    exact (confirm_command hc).imp (·.trans hid) (·.trans hco)
  · exact reject_command hc
  · exact startDispatch_command hc

theorem finish_command {dispatch : CommandApproval.Dispatch}
    (h : dispatch.finish ext now res = some task) :
    SameCommand (written task) dispatch.copy := by
  obtain ⟨_,_,⟨hc,rfl⟩ | ⟨hc,rfl⟩⟩ := CommandApproval.finish_cases ext h
  all_goals exact finishDispatch_command hc

/-- What such a request has read is written over the same command, whatever became of it since. -/
theorem writeMemory_written {stored prev : AgentCommandCandidate}
    (h : req.start ext stored seen = some task)
    (hg : state.candidates.get stored.candidateId = some prev)
    (hs : prev.command = stored.command) :
    step ext state (.writeMemory (written task)) =
      state.withCandidates (state.candidates.insert (written task)) := by
  obtain ⟨hid,hc⟩ := start_command h
  rw [step,hid,hg]
  dsimp only
  rw [if_pos (hc.trans hs.symm)]

/-! ## Steps -/

section

variable (h : Sound state)

include h

variable {cid : String}

theorem Sound.known_free (hf : commands state.rows cid = none) :
    commands state.candidates cid = none := by
  cases hg : commands state.candidates cid with
  | none => rfl
  | some cmd =>
    rw [h.invariant.stored _ _ hg] at hf
    cases hf

theorem Sound.becomeDrafted (task : Nat) {cand : AgentCommandCandidate}
    (hf : Free (commands state.rows) cand.command.key none)
    (hk : ∀ number other, number ≠ task → state.tasks.get number = some other →
      cand.command.key ≠ other.key) (hu : state.isUnused cand.candidateId = true)
    (ht : cand.command.Trimmed) : Sound (state.become task (.drafted cand)) := by
  obtain ⟨hr,hi⟩ := isUnused_iff.mp hu
  have hok : (Task.drafted cand).Ok (commands state.candidates) (commands state.rows)
      state.database.isSome := by
    refine ⟨⟨hf.key,fun id hid => ?_⟩,ht⟩
    cases hid
    exact hr
  refine h.withTasks (h.invariant.put task hok ?_) _
  intro number other hne hg
  refine ⟨hk number other hne hg,fun id hid => ?_⟩
  cases hid
  exact hi number other hg

theorem Sound.create {req : CreateAgentCommandCandidateRequest}
    (hc : cleanStep state (.create task principal req) = true) :
    Sound (step ext state (.create task principal req)) := by
  rw [step]
  split
  · exact h.withTasks h.invariant _
  · split
    · exact h.withTasks h.invariant _
    · next hn =>
      have hf : state.isFree req.key = true := by
        rw [cleanStep] at hc
        split at hc
        · next hk =>
          obtain ⟨cand,hm,hke⟩ := isKnown_iff.mp hk
          rw [← hke,h.byIdempotency hm] at hn
          cases hn
        · exact hc
      obtain ⟨hr,ht⟩ := isFree_iff.mp hf
      have hok : (Task.asked req).Ok (commands state.candidates) (commands state.rows)
          state.database.isSome := hr
      refine h.withTasks (h.invariant.put task hok ?_) _
      intro number other _ hg
      refine ⟨ht number other hg,fun id hid => ?_⟩
      cases hid

theorem Sound.draft (hc : cleanStep state (.draft task cid) = true) :
    Sound (step ext state (.draft task cid)) := by
  rw [step]
  split
  · next req hg =>
    have hw : Free (commands state.rows) req.key none := h.invariant.waiting _ _ hg
    split
    · exact h.fail task _
    · next draft hd =>
      cases draft with
      | duplicate old =>
        -- Nobody else has stored this key since the request looked for it.
        obtain ⟨hm,hk⟩ := executeDraft_duplicate hd
        have hr := h.invariant.stored _ _ (commands_of_mem hm)
        exact absurd (requestedKey_of_request hk) (hw.key _ _ hr)
      | drafted cand =>
        obtain ⟨hk,rfl,ht⟩ := executeDraft_drafted hd
        have hs := requestedKey_of_request hk
        refine h.becomeDrafted task (hs ▸ hw) ?_ hc ht
        intro number other hne ho
        have ha := h.invariant.apart task number _ other hg ho hne.symm
        exact hs ▸ ha.1
  · exact h

theorem Sound.callTool {callContext args : Json}
    (hc : cleanStep state (.callTool task callContext args cid refusal) = true) :
    Sound (step ext state (.callTool task callContext args cid refusal)) := by
  rw [step]
  split
  · exact h.withTasks h.invariant _
  · next cand hd =>
    obtain ⟨hke,rfl,htr⟩ := executeDraft_drafted hd
    rw [cleanStep,hke,Option.all_some] at hc
    split at hc
    · next hk =>
      -- A trimmed key would have been found.
      obtain ⟨old,hm,hs⟩ := isKnown_iff.mp hk
      simp only [Bool.and_eq_true] at hc
      have hf := h.byIdempotency hm
      rw [hs] at hf
      rw [executeDraft_of_existing hke hc.1.1 hc.1.2 hf] at hd
      cases hd
    · rw [Bool.and_eq_true] at hc
      obtain ⟨hr,ht⟩ := isFree_iff.mp hc.1
      exact h.becomeDrafted task hr (fun number other _ hg => ht number other hg) hc.2 htr
  · split
    · exact h.withTasks h.invariant _
    · exact h.withTasks h.invariant _

theorem Sound.validate (task : Nat) (caller : Caller) :
    Sound (step ext state (.validate task caller)) := by
  rw [step]
  split
  · next cand hg =>
    dsimp only
    split
    · next validated hv =>
      obtain ⟨hid,hc⟩ := recordValidation_command hv
      have hok : (Task.validated validated).Ok (commands state.candidates)
          (commands state.rows) state.database.isSome := by
        obtain ⟨hf,ht⟩ := h.invariant.waiting _ _ hg
        rw [Task.Ok,hc,hid]
        exact ⟨hf,ht⟩
      apply h.withTasks (h.invariant.advance hg hok _ _) _
      · exact congrArg Command.key hc
      · exact congrArg some hid
    · exact h.fail task _
  · exact h

end

section Constructors

variable {memory : MemoryStore} {tasks : OrderedMap Nat Task} {answers : List (Nat × Answer)}

theorem sound_volatile (h : Invariant (commands memory.agentCommandCandidates)
    (commands memory.agentCommandCandidates) false tasks) : Sound ⟨memory,none,tasks,answers⟩ :=
  ⟨fun _ hs => (nomatch hs),h⟩

theorem sound_persistent {sqlite : SqliteCloudStore}
    {rows : Registry AgentCommandCandidate.candidateId}
    (hr : Mirrors Format.agentCommandCandidate sqlite.agentCommandCandidates rows)
    (h : Invariant (commands memory.agentCommandCandidates) (commands rows) true tasks) :
    Sound ⟨memory,some sqlite,tasks,answers⟩ := by
  have hs : State.rows ⟨memory,some sqlite,tasks,answers⟩ = rows := hr.rebuild_eq
  refine ⟨fun table ht => ?_,?_⟩
  · cases ht
    rw [hs]
    exact hr
  · rw [hs]
    exact h

end Constructors

theorem Sound.upsert (h : Sound state) {after : SqliteCloudStore}
    (hd : state.database = some sqlite)
    (ha : sqlite.upsertAgentCommandCandidate cand = .ok after) :
    Mirrors Format.agentCommandCandidate after.agentCommandCandidates (state.rows.insert cand) := by
  obtain ⟨_,_,hp⟩ := bind_eq_ok.mp ha
  cases hp
  exact (h.mirrored sqlite hd).put cand

theorem persist_eq_ok
    (h : persistAgentCommandCandidateTransition (some sqlite) cand refusal = .ok database) :
    ∃ after, sqlite.upsertAgentCommandCandidate cand = .ok after ∧ database = some after := by
  obtain ⟨_,_,hs⟩ := bind_eq_ok.mp h
  rw [map_eq_pure_bind] at hs
  obtain ⟨after,ha,hsa⟩ := bind_eq_ok.mp hs
  exact ⟨after,mapError_eq_ok.mp ha,(Except.ok.inj hsa).symm⟩

variable {ev : Event}

section

variable (h : Sound state)

include h

variable (task : Nat) (refusal : Option String)

theorem Sound.store : Sound (step ext state (.store task refusal)) := by
  rw [step]
  split
  · next cand hg =>
    obtain ⟨hf,ht⟩ := h.invariant.waiting _ _ hg
    have hk := h.known_free (hf.id _ rfl)
    split
    · next database hp =>
      obtain ⟨memory,database,tasks,answers⟩ := state
      cases database with
      | none =>
        cases hp
        have hok : (Task.stored cand).Ok (commands memory.agentCommandCandidates)
            (commands memory.agentCommandCandidates) false := ⟨ht,hk,hf⟩
        exact sound_volatile (h.invariant.advance hg hok rfl rfl)
      | some sqlite =>
        obtain ⟨after,haf,rfl⟩ := persist_eq_ok hp
        refine sound_persistent (h.upsert rfl haf) ?_
        rw [commands_insert,← OrderedMap.put_delete]
        have ha := h.invariant.apart_delete hg
        apply ((h.invariant.delete task).insertRow hf ht ha).put
        · exact ⟨ht,hk,Function.update_self _ _ _⟩
        · exact fun number other _ ho => ha number other ho
    · exact h.fail task _
  · exact h

theorem Sound.remember : Sound (step ext state (.remember task refusal)) := by
  rw [step]
  split
  · next cand hg =>
    dsimp only
    have hs : Sound { state.withCandidates (state.candidates.insert cand) with
        tasks := state.tasks.delete task } := by
      obtain ⟨ht,_,hr⟩ := h.invariant.waiting _ _ hg
      have ha := h.invariant.apart_delete hg
      have hd := h.invariant.delete task
      have hc := commands_insert state.candidates cand
      obtain ⟨memory,database,tasks,answers⟩ := state
      cases database with
      | none =>
        have hi := (hd.insertRow hr ht ha).insertKnown (Function.update_self _ _ _) ha
        exact sound_volatile (hc ▸ hi)
      | some sqlite =>
        have hi := hd.insertKnown hr ha
        exact sound_persistent (h.mirrored sqlite rfl) (hc ▸ hi)
    split
    · exact hs.withTasks hs.invariant _
    · exact hs.withTasks hs.invariant _
  · exact h

theorem Sound.drop : Sound (step ext state (.drop task)) := by
  rw [step_drop]
  exact h.withTasks (h.invariant.delete task) _

variable (copy : AgentCommandCandidate)

theorem Sound.writeRow : Sound (step ext state (.writeRow copy)) := by
  rw [step]
  split
  · next sqlite prev hd hg =>
    split
    · next hs =>
      split
      · next after ha =>
        have hr := h.upsert hd ha
        have hi := h.invariant
        rw [hd,← commands_insert_of_same hg hs] at hi
        exact sound_persistent hr hi
      · exact h
    · exact h
  · exact h

theorem Sound.writeMemory : Sound (step ext state (.writeMemory copy)) := by
  rw [step]
  split
  · next prev hg =>
    split
    · next hs =>
      have hc := commands_insert_of_same hg hs
      have hi := h.invariant
      obtain ⟨memory,database,tasks,answers⟩ := state
      cases database with
      | none =>
        apply sound_volatile
        rw [hc]
        exact hi
      | some sqlite =>
        apply sound_persistent (h.mirrored sqlite rfl)
        rw [hc]
        exact hi
    · exact h
  · exact h

theorem Sound.configure (memory : MemoryStore) (database : SqliteCloudStore) :
    Sound (step ext state (.configure memory database)) := by
  have hi := h.invariant
  obtain ⟨prev,table,tasks,answers⟩ := state
  cases table with
  | none => exact sound_volatile hi
  | some sqlite => exact sound_persistent (h.mirrored sqlite rfl) hi

theorem Sound.restart : Sound (step ext state .restart) := by
  have hi := h.invariant
  obtain ⟨memory,database,tasks,answers⟩ := state
  cases database with
  | none =>
    apply sound_volatile
    apply Invariant.start
    · exact fun _ _ hg => nomatch hg
    · exact fun _ _ _ _ hg => nomatch hg
  | some sqlite =>
    exact sound_persistent (h.mirrored sqlite rfl) (Invariant.start hi.trimmed hi.unique)

theorem Sound.step (hc : cleanStep state ev = true) : Sound (step ext state ev) := by
  cases ev with
  | create task principal req => exact h.create hc
  | draft task cid => exact h.draft hc
  | callTool task callContext args cid refusal => exact h.callTool hc
  | validate task caller => exact h.validate task caller
  | store task refusal => exact h.store task refusal
  | remember task refusal => exact h.remember task refusal
  | drop task => exact h.drop task
  | writeRow copy => exact h.writeRow copy
  | writeMemory copy => exact h.writeMemory copy
  | configure memory database => exact h.configure memory database
  | restart => exact h.restart

end

theorem sound_initial (persistent : Bool) : Sound (.initial persistent) := by
  cases persistent with
  | false =>
    apply sound_volatile
    apply Invariant.start
    · exact fun _ _ hg => nomatch hg
    · exact fun _ _ _ _ hg => nomatch hg
  | true =>
    apply sound_persistent Mirrors.empty
    apply Invariant.start
    · exact fun _ _ hg => nomatch hg
    · exact fun _ _ _ _ hg => nomatch hg

/-! ## Idempotence -/

def State.existing (state : State) : List AgentCommandCandidate := state.candidates.values ++
    state.database.toList.flatMap fun sqlite =>
      sqlite.agentCommandCandidates.entries.map fun entry => entry.2.document

variable (ext) in
structure Idempotent (state : State) : Prop where
  atMostOne : ∀ candidate ∈ state.existing, ∀ other ∈ state.existing,
    candidate.command.key = other.command.key → candidate.candidateId = other.candidateId
  /-- A request for a candidate that is known gets it, and nothing else happens. -/
  answersExisting : ∀ event task, ∀ candidate ∈ state.candidates.values,
    event.arrival = some (task, candidate.command.key) → cleanStep state event = true →
      step ext state event = state.answer task (.existing candidate)
  /-- Draft requests leave the candidates alone that there are. -/
  keepsExisting : ∀ event, event.isDraft = true → cleanStep state event = true →
    ∀ candidate ∈ state.existing, candidate ∈ (step ext state event).existing

section

variable (h : Sound state)
include h

theorem Sound.answersExisting (hm : cand ∈ state.candidates.values)
    (ha : ev.arrival = some (task,cand.command.key)) (hc : cleanStep state ev = true) :
    DraftRuns.step ext state ev = state.answer task (.existing cand) := by
  have hf := h.byIdempotency hm
  have hkn : state.isKnown cand.command.key = true := isKnown_iff.mpr ⟨cand,hm,rfl⟩
  cases ev with
  | create number principal req =>
    obtain ⟨rfl,hk⟩ := Prod.mk.inj (Option.some.inj ha)
    rw [cleanStep,hk,if_pos hkn] at hc
    rw [DraftRuns.step]
    cases hac : effectiveActor principal "console-operator" with
    | error msg =>
      rw [hac] at hc
      cases hc
    | ok actor =>
      dsimp only
      rw [hk,hf]
  | callTool number callContext args cid refusal =>
    obtain ⟨key,hk,hs⟩ := Option.map_eq_some_iff.mp ha
    obtain ⟨rfl,rfl⟩ := Prod.mk.inj hs
    rw [cleanStep,hk,Option.all_some,if_pos hkn] at hc
    simp only [Bool.and_eq_true,Option.isNone_iff_eq_none] at hc
    obtain ⟨⟨hw,ht⟩,rfl⟩ := hc
    rw [DraftRuns.step,executeDraft_of_existing hk hw ht hf]
  | _ => cases ha

theorem Sound.existing_of_rows (hm : cand ∈ state.rows.values) : cand ∈ state.existing := by
  cases hd : state.database with
  | none =>
    rw [State.rows,hd] at hm
    exact mem_append_left _ hm
  | some sqlite =>
    apply mem_append_right
    have hr := (h.mirrored sqlite hd).reads cand.candidateId
    rw [mem_values.mp hm] at hr
    obtain ⟨row,hro,rfl⟩ := Option.map_eq_some_iff.mp hr
    rw [hd,Option.toList_some,flatMap_singleton]
    exact mem_map.mpr ⟨_,(OrderedMap.get_eq_some_iff _ _ _).mp hro,rfl⟩

theorem Sound.mem_existing : cand ∈ state.existing ↔
      cand ∈ state.candidates.values ∨ cand ∈ state.rows.values := by
  constructor
  · intro hm
    rcases mem_append.mp hm with hk | hr
    · exact Or.inl hk
    · simp only [mem_flatMap,Option.mem_toList,mem_map] at hr
      obtain ⟨sqlite,hd,entry,he,rfl⟩ := hr
      exact Or.inr (mem_values_of_get ((h.mirrored sqlite hd).get_of_entry he))
  · rintro (hk | hr)
    · exact mem_append_left _ hk
    · exact h.existing_of_rows hr

theorem Sound.mem_rows (hm : cand ∈ state.existing) :
    commands state.rows cand.candidateId = some cand.command := by
  rcases h.mem_existing.mp hm with hk | hr
  · exact h.invariant.stored _ _ (commands_of_mem hk)
  · exact commands_of_mem hr

end

structure Keeps (before after : State) : Prop where
  known : ∀ candidate ∈ before.candidates.values, candidate ∈ after.candidates.values
  rows : ∀ candidate ∈ before.rows.values, candidate ∈ after.rows.values

theorem keeps_of_frame {after : State} (hm : after.memory = state.memory)
    (hd : after.database = state.database) : Keeps state after := by
  have hk : after.candidates = state.candidates := by rw [State.candidates,hm]; rfl
  have hr : after.rows = state.rows := by rw [State.rows,State.rows,hd,hk]
  exact ⟨fun _ hme => hk ▸ hme,fun _ hme => hr ▸ hme⟩

theorem mem_insert_of_unused {value : AgentCommandCandidate}
    (hu : commands reg value.candidateId = none) (hm : cand ∈ reg.values) :
    cand ∈ (reg.insert value).values := by
  rw [mem_values_insert]
  refine Or.inr ⟨fun hs => ?_,hm⟩
  have hc := commands_of_mem hm
  rw [hs,hu] at hc
  cases hc

theorem Sound.keeps_store (h : Sound state) (task : Nat) (refusal : Option String) :
    Keeps state (DraftRuns.step ext state (.store task refusal)) := by
  rw [DraftRuns.step]
  split
  · next cand hg =>
    obtain ⟨hf,_⟩ := h.invariant.waiting _ _ hg
    split
    · next database hp =>
      cases hd : state.database with
      | none =>
        rw [hd] at hp
        cases hp
        exact keeps_of_frame rfl hd.symm
      | some sqlite =>
        rw [hd] at hp
        obtain ⟨after,ha,rfl⟩ := persist_eq_ok hp
        have hr := (h.upsert hd ha).rebuild_eq
        refine ⟨fun _ hm => hm,fun other hm => ?_⟩
        have hi := mem_insert_of_unused (hf.id _ rfl) hm
        rw [← hr] at hi
        exact hi
    · exact keeps_of_frame rfl rfl
  · exact keeps_of_frame rfl rfl

theorem Sound.keeps_remember (h : Sound state) (task : Nat) (refusal : Option String) :
    Keeps state (DraftRuns.step ext state (.remember task refusal)) := by
  rw [DraftRuns.step]
  split
  · next cand hg =>
    obtain ⟨_,hu,_⟩ := h.invariant.waiting _ _ hg
    have hk : ∀ other ∈ state.candidates.values, other ∈ (state.candidates.insert cand).values :=
      fun other hm => mem_insert_of_unused hu hm
    have hs : Keeps state { state.withCandidates (state.candidates.insert cand) with
        tasks := state.tasks.delete task } := by
      refine ⟨hk,fun other hm => ?_⟩
      obtain ⟨memory,database,tasks,answers⟩ := state
      cases database with
      | none => exact hk other hm
      | some sqlite => exact hm
    dsimp only
    split
    · exact ⟨hs.known,hs.rows⟩
    · exact ⟨hs.known,hs.rows⟩
  · exact keeps_of_frame rfl rfl

theorem Sound.keeps (h : Sound state) (hd : ev.isDraft = true) :
    Keeps state (DraftRuns.step ext state ev) := by
  cases ev with
  | create task principal req =>
    rw [DraftRuns.step]
    split
    · exact keeps_of_frame rfl rfl
    · split
      · exact keeps_of_frame rfl rfl
      · exact keeps_of_frame rfl rfl
  | draft task cid =>
    rw [DraftRuns.step]
    split
    · split
      · exact keeps_of_frame rfl rfl
      · exact keeps_of_frame rfl rfl
    · exact keeps_of_frame rfl rfl
  | callTool task callContext args cid refusal =>
    rw [DraftRuns.step]
    split
    · exact keeps_of_frame rfl rfl
    · exact keeps_of_frame rfl rfl
    · split
      · exact keeps_of_frame rfl rfl
      · exact keeps_of_frame rfl rfl
  | validate task caller =>
    rw [DraftRuns.step]
    split
    · dsimp only
      split
      · exact keeps_of_frame rfl rfl
      · exact keeps_of_frame rfl rfl
    · exact keeps_of_frame rfl rfl
  | store task refusal => exact h.keeps_store task refusal
  | remember task refusal => exact h.keeps_remember task refusal
  | _ => cases hd

/-- In a run of drafts one at a time, every request for a candidate that is known gets it as it is,
and no key has two candidates. -/
theorem drafting_idempotent (ext : Externals) (persistent : Bool) (events : List Event)
    (h : cleanRun ext (.initial persistent) events = true) :
    Idempotent ext (DraftRuns.run ext (.initial persistent) events) := by
  have hs : Sound (DraftRuns.run ext _ events) :=
    (allAlong_iff.mp h).keeps Sound (fun h hc => h.step hc) (sound_initial persistent)
  refine ⟨?_,?_,?_⟩
  · intro cand hm other ho hke
    exact hs.invariant.unique _ _ _ _ (hs.mem_rows hm) (hs.mem_rows ho) hke
  · intro ev task cand hm ha hc
    exact hs.answersExisting hm ha hc
  · intro ev hd hc cand hm
    have hk : Keeps _ (DraftRuns.step ext _ ev) := hs.keeps hd
    rw [hs.mem_existing] at hm
    rw [(hs.step hc).mem_existing]
    exact hm.imp (hk.known cand) (hk.rows cand)

/-! ## Drafts for a valve -/

open ApprovedPlan (valveView gatedFlow valveExternals)

def valvePlant : MemoryStore := { MemoryStore.empty with
    toCloudControlStore := (valveView (gatedFlow []) .boolean).store }

def openingRequest (idempotencyKey : String) : CreateAgentCommandCandidateRequest where
  projectId := "plant"
  edgeId := "edge-1"
  flowId := "valve-commands"
  pointId := "valve"
  deviceId := none
  value := .bool true
  title := "Open the valve"
  rationale := "The level is high"
  idempotencyKey := idempotencyKey

def setup : Event := .configure valvePlant .empty

def post (task : Nat) (idempotencyKey : String) : Event :=
  .create task ⟨true,"operator"⟩ (openingRequest idempotencyKey)

def call (task : Nat) (candidateId idempotencyKey : String) : Event :=
  .callTool task (openingRequest idempotencyKey).callContext
    (openingRequest idempotencyKey).arguments candidateId none

def finish (task : Nat) : List Event :=
  [.validate task ⟨"operator",0,"6c1f"⟩,.store task none,.remember task none]

def runValve (persistent : Bool) (events : List Event) : State :=
  run (valveExternals .null) (.initial persistent) (setup :: events)

def State.summary (state : State) : List (String × String × AgentCommandCandidateStatus) :=
  state.candidates.values.map fun candidate =>
    (candidate.candidateId,candidate.idempotencyKey,candidate.status)

def State.lastAnswer (state : State) : Option (Nat × Option String) :=
  state.answers.head?.map fun (task,answer) =>
    (task,match answer with
      | .existing candidate => some candidate.candidateId
      | .created candidate => some candidate.candidateId
      | .failed _ => none)

/-- A draft over the API, and the same again over MCP and the API. -/
def drafts : List Event :=
  [post 1 " open ",.draft 1 "c1"] ++ finish 1 ++ [call 2 "c2" "open",post 3 "open"]

theorem valve_drafted_once :
    ((runValve true drafts).summary = [("c1","open",.awaitingConfirmation)] ∧
        (runValve true drafts).answers.map Prod.fst = [3,2,1]) ∧
      Idempotent (valveExternals .null) (runValve true drafts) :=
  ⟨by decide +kernel,drafting_idempotent (valveExternals .null) true (setup :: drafts)
    (by decide +kernel)⟩

def paddedDrafts : List Event :=
  [call 1 "c1" " open "] ++ finish 1 ++ [call 2 "c2" " open "] ++ finish 2

/-- Two requests to the API that both look before either has stored its candidate. -/
def overlappingDrafts : List Event :=
  [post 1 "open",post 2 "open",.draft 1 "c1",.draft 2 "c2"] ++ finish 1 ++ finish 2

def confirmedOpening : AgentCommandCandidate := { ApprovedPlan.valveCommand (.bool true) with
    candidateId := "c2"
    idempotencyKey := "open" }

/-- A request to the API looks, then a call over MCP drafts the candidate, which is confirmed, and
then the request goes on. -/
def overtakenDraft (rest : List Event) : List Event :=
  [post 1 "open",call 2 "c2" "open"] ++ finish 2 ++ [.writeMemory confirmedOpening] ++ rest

/-- Without a database the key gets two candidates, with one the later request fails; and a draft
that is overtaken takes back the confirmation of the other's candidate. -/
theorem drafts_repeat_fail_and_revoke : (runValve false paddedDrafts).summary =
        [("c1","open",.awaitingConfirmation),("c2","open",.awaitingConfirmation)] ∧
      (runValve true paddedDrafts).lastAnswer = some (2,none) ∧
      (runValve false overlappingDrafts).summary =
        [("c1","open",.awaitingConfirmation),("c2","open",.awaitingConfirmation)] ∧
      (runValve true overlappingDrafts).lastAnswer = some (2,none) ∧
      (runValve false (overtakenDraft [])).summary = [("c2","open",.confirmed)] ∧
      (runValve false (overtakenDraft ([.draft 1 "c1"] ++ finish 1))).summary =
        [("c2","open",.awaitingConfirmation)] := by
  decide +kernel

end VelaEdge.Cloud.DraftRuns
