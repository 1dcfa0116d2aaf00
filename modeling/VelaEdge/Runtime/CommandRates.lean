import VelaEdge.Base.SlidingWindow
import VelaEdge.Runtime.CommandAnswers

/-! The persistent command rate limit: runs of safety checks against one store, with restarts and
other work on the store in between. The windows that the store keeps stand for all the checks
accepted so far, so no interval of a gate's window length sees more commands than the gate allows. -/
namespace VelaEdge.Runtime.CommandRates

open Base Base.SlidingWindow Core Runtime.LocalDb List
open OrderedMap CommandAnswers
  VelaEdge.Runtime.CommandExecution

/-- A safety gate of a flow on an edge: what a stored window belongs to. -/
structure Gate where
  edgeId : String
  flowId : String
  nodeId : String
deriving DecidableEq

structure SafetyCheck where
  edgeId : String
  plan : CommandExecutionPlan
  now : Time

namespace SafetyCheck

variable (check : SafetyCheck)

def gate (limit : CommandRateLimit) : Gate :=
  ⟨check.edgeId,check.plan.flow.flowId,limit.gateId⟩

def gates : List Gate := (commandRateLimits check.plan).map check.gate

/-- The time as the store keeps it, in whole milliseconds. -/
def nowMs : Int := check.now / 1000000

end SafetyCheck

/-- Work on the store that leaves the rate windows alone: claims and completions of commands,
configurations, the outbox. -/
structure OtherWork where
  batch : List (OrderedMap.WriteOp String StoredValue)
  outside : ∀ op ∈ batch, Text.hasPrefix commandRatePrefix op.key = false

inductive Event where
  | check (check : SafetyCheck)
  | restart
  | other (work : OtherWork)

structure State where
  db : Db
  accepted : List SafetyCheck

def State.initial : State := ⟨.empty,[]⟩

variable (ext : Externals) (gate : Gate)

def Gate.key : String := commandRateKey ext gate.edgeId gate.flowId gate.nodeId

def step (state : State) : Event → State
  | .check check =>
    match enforcePersistentCommandSafety ext check.edgeId check.plan check.now state.db with
    | .ok (db,()) => ⟨db,state.accepted ++ [check]⟩
    | .error _ => state
  -- a restarted runtime opens the same store, and the check reads nothing else
  | .restart => state
  | .other work => { state with db := state.db.write work.batch }

variable (events : List Event)

def run : State := events.foldl (step ext) .initial

def checks : List SafetyCheck := events.filterMap fun
    | .check check => some check
    | _ => none

def namedGates : List Gate := (checks events).flatMap SafetyCheck.gates

def acceptedTimes (accepted : List SafetyCheck) : List Int :=
  (accepted.filter fun check => gate ∈ check.gates).map SafetyCheck.nowMs

variable {stored : CommandRateLimit → List Int}

/-! What one check does to the windows. -/

section Check

variable {db : Db} {edge flow : String} {nowMs : Int} {limits : List CommandRateLimit}

def exhausted (nowMs : Int) (stored : CommandRateLimit → List Int) (limit : CommandRateLimit) :
    Bool :=
  limit.maxCommands ≤ (recent limit.windowMs nowMs (stored limit)).length

def charged (nowMs : Int) (stored : CommandRateLimit → List Int) (limit : CommandRateLimit) :
    List Int :=
  recent limit.windowMs nowMs (stored limit) ++ [nowMs]

private theorem admitCommand_eq (h : ∀ limit ∈ limits,
      rateWindow db (commandRateKey ext edge flow limit.gateId) = .ok (stored limit)) :
    admitCommand ext db edge flow nowMs limits = .ok
      (match limits.find? (exhausted nowMs stored) with
        | some limit => .error limit
        | none => .ok (limits.map fun limit =>
          (commandRateKey ext edge flow limit.gateId,charged nowMs stored limit))) := by
  induction limits with
  | nil => rfl
  | cons limit limits ih =>
    rw [admitCommand,h limit mem_cons_self,
      ih fun other ho => h other (mem_cons_of_mem _ ho),ok_bind,List.find?_cons]
    by_cases hf : exhausted nowMs stored limit = true
    · rw [hf]
      exact if_pos (of_decide_eq_true hf)
    · rw [Bool.eq_false_of_not_eq_true hf]
      refine (if_neg fun hle => hf (decide_eq_true hle)).trans ?_
      cases limits.find? (exhausted nowMs stored) <;> rfl

theorem consumeCommandRateSlots_eq (h : ∀ limit ∈ limits,
      rateWindow db (commandRateKey ext edge flow limit.gateId) = .ok (stored limit)) :
    consumeCommandRateSlots ext db edge flow limits acceptedAt = .ok
      (match limits.find? (exhausted (acceptedAt / 1000000) stored) with
        | some limit => (db,.rejected limit)
        | none => (db.write (limits.map fun limit => .put
            (commandRateKey ext edge flow limit.gateId)
            (.rateWindow (charged (acceptedAt / 1000000) stored limit))),.accepted)) := by
  rw [consumeCommandRateSlots,admitCommand_eq ext h,ok_bind]
  cases limits.find? (exhausted (acceptedAt / 1000000) stored) with
  | some limit => rfl
  | none =>
    dsimp only
    rw [map_map]
    rfl

end Check

/-! Runs of checks. -/

section Runs

variable {ext : Externals} {settings : Gate → CommandRateLimit} {gates : List Gate}
  {seen : List SafetyCheck} {kept : Gate → List Int} {state : State} {check : SafetyCheck}

/-- A check not before those seen, of gates with the given settings. -/
structure Follows (settings : Gate → CommandRateLimit) (gates : List Gate)
    (seen : List SafetyCheck) (check : SafetyCheck) : Prop where
  later : ∀ earlier ∈ seen, earlier.now ≤ check.now
  named : ∀ limit ∈ commandRateLimits check.plan, check.gate limit ∈ gates
  fixed : ∀ limit ∈ commandRateLimits check.plan, limit = settings (check.gate limit)

/-- The stored windows stand for the accepted checks, and these respect the limits. -/
structure Tracks (ext : Externals) (settings : Gate → CommandRateLimit) (gates : List Gate)
    (seen : List SafetyCheck) (kept : Gate → List Int) (state : State) : Prop where
  stored : ∀ gate ∈ gates, rateWindow state.db (gate.key ext) = .ok (kept gate)
  covers : ∀ gate ∈ gates, Covers (settings gate).windowMs (seen.map SafetyCheck.nowMs) (kept gate)
    (acceptedTimes gate state.accepted)
  limited : ∀ gate ∈ gates, Limited (settings gate).windowMs (settings gate).maxCommands
    (acceptedTimes gate state.accepted)
  known : ∀ accepted ∈ state.accepted, accepted ∈ seen

def KeysApart (ext : Externals) (gates : List Gate) : Prop :=
  ∀ gate ∈ gates, ∀ other ∈ gates, gate.key ext = other.key ext → gate = other

variable {gate : Gate}

theorem SafetyCheck.mem_gates :
    gate ∈ check.gates ↔ ∃ limit ∈ commandRateLimits check.plan, check.gate limit = gate :=
  mem_map

@[simp] theorem acceptedTimes_append (accepted : List SafetyCheck) :
    acceptedTimes gate (accepted ++ [check]) =
      acceptedTimes gate accepted ++ if gate ∈ check.gates then [check.nowMs] else [] := by
  unfold acceptedTimes
  rw [filter_append,map_append]
  by_cases hg : gate ∈ check.gates <;> simp [hg]

theorem Follows.nowMs_le (h : Follows settings gates seen check) :
    ∀ time ∈ seen.map SafetyCheck.nowMs, time ≤ check.nowMs := by
  intro time ht
  obtain ⟨earlier,he,rfl⟩ := mem_map.mp ht
  exact Int.ediv_le_ediv (by decide) (h.later earlier he)

theorem tracks_initial : Tracks ext settings gates [] (fun _ => []) .initial where
  stored _ _ := rfl
  covers _ _ := covers_refl _ _ _
  limited _ _ := limited_nil _ _
  known _ h := h

namespace Tracks

section

variable (h : Tracks ext settings gates seen kept state)
include h

theorem wait : Tracks ext settings gates (seen ++ [check]) kept state where
  stored := h.stored
  covers gate hg := (h.covers gate hg).mono (by
    rw [map_append]
    exact subset_append_left _ _)
  limited := h.limited
  known accepted ha := mem_append_left _ (h.known accepted ha)

theorem consume (hc : Follows settings gates seen check) :
    consumeCommandRateSlots ext state.db check.edgeId check.plan.flow.flowId
        (commandRateLimits check.plan) check.now = .ok
      (match (commandRateLimits check.plan).find?
          (exhausted check.nowMs (fun limit => kept (check.gate limit))) with
        | some limit => (state.db,.rejected limit)
        | none => (state.db.write ((commandRateLimits check.plan).map fun limit => .put
            ((check.gate limit).key ext)
            (.rateWindow (charged check.nowMs (fun limit => kept (check.gate limit)) limit))),
          .accepted)) :=
  consumeCommandRateSlots_eq ext fun limit hl =>
    h.stored (check.gate limit) (hc.named limit hl)

end

def extend (settings : Gate → CommandRateLimit) (check : SafetyCheck) (kept : Gate → List Int)
    (gate : Gate) : List Int :=
  if gate ∈ check.gates then
    recent (settings gate).windowMs check.nowMs (kept gate) ++ [check.nowMs]
  else kept gate

section

variable (hk : KeysApart ext gates)

include hk

theorem get_charged (hc : Follows settings gates seen check) (hg : gate ∈ gates)
    (hn : gate ∈ check.gates) :
    (state.db.write ((commandRateLimits check.plan).map fun limit => .put
        ((check.gate limit).key ext) (.rateWindow
          (charged check.nowMs (fun limit => kept (check.gate limit)) limit)))).get
      (gate.key ext) = some (.rateWindow (extend settings check kept gate)) := by
  have hv : ∀ limit ∈ commandRateLimits check.plan, check.gate limit = gate →
      charged check.nowMs (fun limit => kept (check.gate limit)) limit =
        extend settings check kept gate := by
    rintro limit hl rfl
    rw [charged,extend,if_pos hn,← hc.fixed limit hl]
  apply get_write_of_agreed
  · obtain ⟨limit,hl,heq⟩ := SafetyCheck.mem_gates.mp hn
    refine mem_map.mpr ⟨limit,hl,?_⟩
    rw [hv limit hl heq,heq]
  · intro op hop hke
    obtain ⟨limit,hl,rfl⟩ := mem_map.mp hop
    have heq := hk _ (hc.named limit hl) _ hg hke
    rw [hv limit hl heq,heq]

private theorem get_uncharged (hc : Follows settings gates seen check) (hg : gate ∈ gates)
    (hn : gate ∉ check.gates) (win : CommandRateLimit → List Int) :
    (state.db.write ((commandRateLimits check.plan).map fun limit => .put
        ((check.gate limit).key ext) (.rateWindow (win limit)))).get (gate.key ext) =
      state.db.get (gate.key ext) := by
  apply get_write_of_untouched
  intro op hop hke
  obtain ⟨limit,hl,rfl⟩ := mem_map.mp hop
  exact hn (SafetyCheck.mem_gates.mpr ⟨limit,hl,hk _ (hc.named limit hl) _ hg hke⟩)

variable (h : Tracks ext settings gates seen kept state)
include h

variable (hc : Follows settings gates seen check)
include hc

theorem accept (hf : (commandRateLimits check.plan).find?
      (exhausted check.nowMs (fun limit => kept (check.gate limit))) = none) :
    Tracks ext settings gates (seen ++ [check]) (extend settings check kept)
      ⟨state.db.write ((commandRateLimits check.plan).map fun limit => .put
        ((check.gate limit).key ext) (.rateWindow
          (charged check.nowMs (fun limit => kept (check.gate limit)) limit))),
        state.accepted ++ [check]⟩ where
  stored gate hg := by
    unfold rateWindow
    by_cases hn : gate ∈ check.gates
    · rw [get_charged hk hc hg hn]
    · rw [get_uncharged hk hc hg hn,extend,if_neg hn]
      exact h.stored gate hg
  covers gate hg := by
    have hw : Tracks ext settings gates (seen ++ [check]) kept state := h.wait
    have hco := hw.covers gate hg
    rw [acceptedTimes_append]
    unfold extend
    by_cases hn : gate ∈ check.gates
    · rw [if_pos hn,if_pos hn]
      exact (hco.prune (by simp)).record check.nowMs
    · rw [if_neg hn,if_neg hn,append_nil]
      exact hco
  limited gate hg := by
    rw [acceptedTimes_append]
    by_cases hn : gate ∈ check.gates
    · rw [if_pos hn]
      apply (h.limited gate hg).record
      · intro time ht
        obtain ⟨accepted,ha,rfl⟩ := mem_map.mp ht
        exact hc.nowMs_le _ (mem_map_of_mem (h.known accepted (mem_of_mem_filter ha)))
      · -- the gate had a slot in the stored window, hence among the accepted checks
        obtain ⟨limit,hl,rfl⟩ := SafetyCheck.mem_gates.mp hn
        have hs := List.find?_eq_none.mp hf limit hl
        rw [exhausted,decide_eq_true_eq,not_le] at hs
        rw [← h.covers _ hg _ hc.nowMs_le,← hc.fixed limit hl]
        exact hs
    · rw [if_neg hn,append_nil]
      exact h.limited gate hg
  known accepted ha := by
    rcases mem_append.mp ha with ho | hne
    · exact mem_append_left _ (h.known accepted ho)
    · exact mem_append_right _ hne

theorem afterCheck :
    ∃ kept, Tracks ext settings gates (seen ++ [check]) kept (step ext state (.check check)) := by
  have hco := h.consume hc
  dsimp [step,enforcePersistentCommandSafety]
  cases enforceCommandSources check.plan.safetyGates with
  | error why => exact ⟨kept,h.wait⟩
  | ok =>
    rw [ok_bind,hco,ok_bind]
    cases hf : (commandRateLimits check.plan).find?
        (exhausted check.nowMs (fun limit => kept (check.gate limit))) with
    | some limit => exact ⟨kept,h.wait⟩
    | none => exact ⟨_,h.accept hk hc hf⟩

end

theorem other (h : Tracks ext settings gates seen kept state) (work : OtherWork) :
    Tracks ext settings gates seen kept { state with db := state.db.write work.batch } where
  stored gate hg := by
    unfold rateWindow
    rw [get_write_of_untouched]
    · exact h.stored gate hg
    · rintro op hop hk
      have hi := commandRateKey_inside ext gate.edgeId gate.flowId gate.nodeId
      have ho := work.outside op hop
      rw [hk,Gate.key,hi] at ho
      cases ho
  covers := h.covers
  limited := h.limited
  known := h.known

end Tracks

theorem checks_append (evs : List Event) (ev : Event) :
    checks (evs ++ [ev]) = checks evs ++ checks [ev] :=
  filterMap_append

@[simp] theorem run_append (evs : List Event) (ev : Event) :
    run ext (evs ++ [ev]) = step ext (run ext evs) ev := by
  simp [run]

structure Orderly (settings : Gate → CommandRateLimit) (gates : List Gate)
    (checks : List SafetyCheck) : Prop where
  sorted : checks.Pairwise (fun earlier later => earlier.now ≤ later.now)
  named : ∀ check ∈ checks, ∀ limit ∈ commandRateLimits check.plan, check.gate limit ∈ gates
  fixed : ∀ check ∈ checks, ∀ limit ∈ commandRateLimits check.plan,
    limit = settings (check.gate limit)

theorem Orderly.initial {checks : List SafetyCheck} (h : Orderly settings gates (checks ++ more)) :
    Orderly settings gates checks where
  sorted := (pairwise_append.mp h.sorted).1
  named check hc := h.named check (mem_append_left _ hc)
  fixed check hc := h.fixed check (mem_append_left _ hc)

theorem Orderly.follows (h : Orderly settings gates (seen ++ check :: more)) :
    Follows settings gates seen check where
  later earlier he := (pairwise_append.mp h.sorted).2.2 earlier he check mem_cons_self
  named := h.named check (mem_append_right _ mem_cons_self)
  fixed := h.fixed check (mem_append_right _ mem_cons_self)

theorem run_tracks (hke : KeysApart ext gates) (h : Orderly settings gates (checks evs)) :
    ∃ kept, Tracks ext settings gates (checks evs) kept (run ext evs) := by
  induction evs using List.reverseRecOn with
  | nil => exact ⟨_,tracks_initial⟩
  | append_singleton evs ev ih =>
    rw [checks_append] at h ⊢
    obtain ⟨kept,hk⟩ := ih h.initial
    rw [run_append]
    cases ev with
    | check check => exact hk.afterCheck hke h.follows
    | restart =>
      refine ⟨kept,?_⟩
      rw [show checks [.restart] = [] from rfl,append_nil]
      exact hk
    | other work =>
      refine ⟨kept,?_⟩
      rw [show checks [.other work] = [] from rfl,append_nil]
      exact hk.other work

end Runs

/-! The windows of different gates. -/

def Gate.scope : Bytes := scopedId gate.edgeId gate.flowId gate.nodeId

private theorem scope_inj {gate other : Gate} (he : '\x00' ∉ gate.edgeId.toList)
    (hoe : '\x00' ∉ other.edgeId.toList) (hf : '\x00' ∉ gate.flowId.toList)
    (hof : '\x00' ∉ other.flowId.toList) (h : gate.scope = other.scope) : gate = other := by
  obtain ⟨edge,flow,nid⟩ := gate
  obtain ⟨otherEdgeId,otherFlowId,otherNodeId⟩ := other
  have hb := String.toByteArray_inj.mp (ByteArray.ext (Array.toList_inj.mp h))
  have ht : edge ++ "\x00" ++ (flow ++ "\x00" ++ nid) =
      otherEdgeId ++ "\x00" ++ (otherFlowId ++ "\x00" ++ otherNodeId) := by
    simpa only [String.append_assoc] using hb
  obtain ⟨rfl,hr⟩ := Text.separated_inj (by rfl) he hoe ht
  obtain ⟨rfl,rfl⟩ := Text.separated_inj (by rfl) hf hof hr
  rfl

theorem keysApart {gates : List Gate}
    (hi : ∀ gate ∈ gates, '\x00' ∉ gate.edgeId.toList ∧ '\x00' ∉ gate.flowId.toList)
    (hd : ∀ gate ∈ gates, ∀ other ∈ gates,
      sha256Hex ext gate.scope = sha256Hex ext other.scope → gate.scope = other.scope) :
    KeysApart ext gates := by
  intro gate hg other ho hk
  have hdi := (String.append_right_inj _).mp hk
  exact scope_inj (hi gate hg).1 (hi other ho).1 (hi gate hg).2 (hi other ho).2
    (hd gate hg other ho hdi)

private theorem orderly_of_fixed
    (hso : (checks evs).Pairwise (fun earlier later => earlier.now ≤ later.now))
    (hs : ∀ check ∈ checks evs, ∀ limit ∈ commandRateLimits check.plan,
      limit = settings (check.gate limit)) :
    Orderly settings (namedGates evs) (checks evs) where
  sorted := hso
  named check hc _ hl := mem_flatMap.mpr ⟨check,hc,mem_map_of_mem hl⟩
  fixed := hs

/-- No interval of a gate's window length, in whole milliseconds, sees more commands accepted than
the gate allows; and each check of the run finds its windows and charges all of its gates or none,
whatever restarts and other work on the store lie between the checks. -/
theorem accepted_within_rate_limits (settings : Gate → CommandRateLimit) (events : List Event)
    (hsorted : (checks events).Pairwise (fun earlier later => earlier.now ≤ later.now))
    (hsettings : ∀ check ∈ checks events, ∀ limit ∈ commandRateLimits check.plan,
      limit = settings (check.gate limit))
    (hids : ∀ gate ∈ namedGates events, '\x00' ∉ gate.edgeId.toList ∧ '\x00' ∉ gate.flowId.toList)
    (hdigests : ∀ gate ∈ namedGates events, ∀ other ∈ namedGates events,
      sha256Hex ext gate.scope = sha256Hex ext other.scope → gate.scope = other.scope) :
    (∀ gate start, (during (settings gate).windowMs start
        (acceptedTimes gate (run ext events).accepted)).length ≤ (settings gate).maxCommands) ∧
    ∀ reached check later, events = reached ++ .check check :: later →
      ∃ after decision, consumeCommandRateSlots ext (run ext reached).db check.edgeId
          check.plan.flow.flowId (commandRateLimits check.plan) check.now = .ok (after,decision) ∧
        match decision with
        | .rejected _ => ∀ gate ∈ check.gates,
            after.get (gate.key ext) = (run ext reached).db.get (gate.key ext)
        | .accepted => ∀ gate ∈ check.gates, ∃ earlier,
            rateWindow after (gate.key ext) = .ok (earlier ++ [check.nowMs]) := by
  have hke := keysApart ext hids hdigests
  have ho := orderly_of_fixed hsorted hsettings
  constructor
  · obtain ⟨kept,hk⟩ := run_tracks hke ho
    intro gate start
    by_cases hg : gate ∈ namedGates events
    · exact hk.limited gate hg start
    · -- no check names the gate
      have hno : acceptedTimes gate (run ext events).accepted = [] := by
        rw [acceptedTimes,map_eq_nil_iff,filter_eq_nil_iff]
        intro check hch hn
        exact hg (mem_flatMap.mpr ⟨check,hk.known check hch,of_decide_eq_true hn⟩)
      rw [hno]
      exact Nat.zero_le _
  · rintro reached check later rfl
    have hc : checks (reached ++ .check check :: later) =
        checks reached ++ check :: checks later := by simp [checks]
    rw [hc] at ho
    obtain ⟨kept,hk⟩ := run_tracks hke ho.initial
    refine ⟨_,_,hk.consume ho.follows,?_⟩
    cases (commandRateLimits check.plan).find?
        (exhausted check.nowMs (fun limit => kept (check.gate limit))) with
    | some limit => exact fun _ _ => rfl
    | none =>
      intro gate hn
      obtain ⟨limit,hl,hg⟩ := SafetyCheck.mem_gates.mp hn
      have hi := hg ▸ ho.follows.named limit hl
      refine ⟨recent (settings gate).windowMs check.nowMs (kept gate),?_⟩
      unfold rateWindow
      rw [Tracks.get_charged hke ho.follows hi hn,Tracks.extend,if_pos hn]

def valveLimit : CommandRateLimit := ⟨"gate",1,1000⟩

def valvePlan : CommandExecutionPlan where
  flow := plantFlow "open-valve" "valve"
  commandId := "c-1"
  commandSource := none
  writes := []
  replyNodeIds := ["reply"]
  safetyGates := [⟨"gate","requestedBy",none,[],some 1,some 1000⟩]

def valveExternals : Externals := { plantExternals with
    sha256 := fun _ => digestBytes
      0xd0c121b7ad99d85202208df177f33d20cf9ccb9d911f5aab652b7b9c16002610 }

/-- A second opening too early, a restart, and one a second after the first. -/
def valveEvents : List Event :=
  [.check ⟨"edge-1",valvePlan,500000000⟩,.check ⟨"edge-1",valvePlan,1400000000⟩,.restart,
    .check ⟨"edge-1",valvePlan,1500000000⟩]

theorem valve_within_rate_limit :
    ((run valveExternals valveEvents).accepted.map fun check => check.now) =
      [500000000,1500000000] ∧
    (∀ gate start, (during valveLimit.windowMs start
      (acceptedTimes gate (run valveExternals valveEvents).accepted)).length ≤ 1) := by
  refine ⟨by decide +kernel,?_⟩
  exact (accepted_within_rate_limits valveExternals (fun _ => valveLimit) valveEvents
    (by decide +kernel) (by decide +kernel) (by decide +kernel) (by decide +kernel)).1

/-- Both commands are accepted within one second: their times are 0.9995 s and 1.999 s, which the
store keeps as 999 ms and 1999 ms. -/
theorem valve_opened_twice_in_a_second :
    ((run valveExternals [.check ⟨"edge-1",valvePlan,999500000⟩,
        .check ⟨"edge-1",valvePlan,1999000000⟩]).accepted.map fun check => check.now) =
      [999500000,1999000000] ∧
    commandRateLimits valvePlan = [⟨"gate",1,1000⟩] ∧
    (1999000000 : Time) < 999500000 + milliseconds 1000 := by
  refine ⟨by decide +kernel,rfl,by decide⟩

end VelaEdge.Runtime.CommandRates
