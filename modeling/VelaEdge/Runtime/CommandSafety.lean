import Mathlib.Data.Prod.Lex
import VelaEdge.Runtime.CommandRates
import VelaEdge.Runtime.CommandReach

/-! The safety check of a runtime without a store, which keeps its rate windows in memory, next to
the one against the store. On times in whole milliseconds both windows stand for the same accepted
commands, so the two checks give the same answers. -/
namespace VelaEdge.Runtime.CommandSafety

open Base Base.SlidingWindow Core Runtime.LocalDb List
  VelaEdge.Runtime.CommandExecution VelaEdge.Runtime.CommandRates

/-- When each gate last let commands through, by flow and node id. -/
abbrev RateWindows := OrderedMap (String ×ₗ String) (List Time)

def rateKey (flowId nodeId : String) : String ×ₗ String := toLex (flowId,nodeId)

def executions (windows : RateWindows) (key : String ×ₗ String) : List Time :=
  (windows.get key).getD []

/-- Entries that have left the window are popped from the front. -/
def popExpired (window now : Int) (accepted : List Time) : List Time :=
  accepted.dropWhile fun acceptedAt => window ≤ max 0 (now - acceptedAt)

def rateLimitExceeded (limit : CommandRateLimit) : String :=
  s!"safety gate {limit.gateId} rate limit exceeded: {limit.maxCommands} commands per {
    limit.windowMs}ms"

/-- The first loop over the gates. What it pops stays popped, also when a gate rejects. -/
def checkRates (flowId : String) (now : Time) :
    List PlannedCommandSafetyGate → RateWindows → RateWindows × Except String Unit
  | [], windows => (windows,.ok ())
  | gate :: gates, windows =>
    match gate.maxCommands, gate.windowMs with
    | some maxCommands, some windowMs =>
      let key := rateKey flowId gate.nodeId
      let remaining := popExpired (milliseconds windowMs) now (executions windows key)
      if maxCommands ≤ remaining.length then
        (windows.put key remaining, .error (rateLimitExceeded ⟨gate.nodeId,maxCommands,windowMs⟩))
      else checkRates flowId now gates (windows.put key remaining)
    | _, _ => checkRates flowId now gates windows

def chargeRates (flowId : String) (now : Time) :
    List PlannedCommandSafetyGate → RateWindows → RateWindows
  | [], windows => windows
  | gate :: gates, windows =>
    let key := rateKey flowId gate.nodeId
    chargeRates flowId now gates (if gate.maxCommands.isSome && gate.windowMs.isSome then
        windows.put key (executions windows key ++ [now])
      else windows)

def enforceCommandSafety (plan : CommandExecutionPlan) (now : Time) (windows : RateWindows) :
    RateWindows × Except String Unit :=
  match enforceCommandSources plan.safetyGates with
  | .error reason => (windows,.error reason)
  | .ok () =>
    match checkRates plan.flow.flowId now plan.safetyGates windows with
    | (windows,.error reason) => (windows,.error reason)
    | (windows,.ok ()) => (chargeRates plan.flow.flowId now plan.safetyGates windows,.ok ())

structure CheckedCommand where
  plan : CommandExecutionPlan
  now : Time

def CheckedCommand.check (edgeId : String) (command : CheckedCommand) : SafetyCheck :=
  ⟨edgeId,command.plan,command.now⟩

def memoryAnswers : RateWindows → List CheckedCommand → List (Except String Unit)
  | _, [] => []
  | windows, command :: commands =>
    let (windows,answer) := enforceCommandSafety command.plan command.now windows
    answer :: memoryAnswers windows commands

def storeAnswers (ext : Externals) (edgeId : String) :
    Db → List CheckedCommand → List (Except String Unit)
  | _, [] => []
  | db, command :: commands =>
    match enforcePersistentCommandSafety ext edgeId command.plan command.now db with
    | .ok (db,()) => .ok () :: storeAnswers ext edgeId db commands
    | .error reason => .error reason :: storeAnswers ext edgeId db commands

/-! Both loops see a gate only through its limit. -/

def checkLimits (flowId : String) (now : Time) :
    List CommandRateLimit → RateWindows → RateWindows × Except String Unit
  | [], windows => (windows,.ok ())
  | limit :: limits, windows =>
    let key := rateKey flowId limit.gateId
    let remaining := popExpired (milliseconds limit.windowMs) now (executions windows key)
    if limit.maxCommands ≤ remaining.length then
      (windows.put key remaining,.error (rateLimitExceeded limit))
    else checkLimits flowId now limits (windows.put key remaining)

def chargeLimits (flowId : String) (now : Time) (limits : List CommandRateLimit)
    (windows : RateWindows) : RateWindows :=
  limits.foldl (fun windows limit => windows.put (rateKey flowId limit.gateId)
    (executions windows (rateKey flowId limit.gateId) ++ [now])) windows

variable (plan : CommandExecutionPlan)

theorem checkRates_eq (now : Time) (wins : RateWindows) :
    checkRates plan.flow.flowId now plan.safetyGates wins =
      checkLimits plan.flow.flowId now (commandRateLimits plan) wins := by
  unfold commandRateLimits
  induction plan.safetyGates generalizing wins with
  | nil => rfl
  | cons gate gates ih =>
    rw [checkRates,filterMap_cons]
    cases gate.maxCommands with
    | none => exact ih wins
    | some maxCommands =>
      cases gate.windowMs with
      | none => exact ih wins
      | some windowMs =>
        dsimp [checkLimits]
        rw [ih]

theorem chargeRates_eq (now : Time) (wins : RateWindows) :
    chargeRates plan.flow.flowId now plan.safetyGates wins =
      chargeLimits plan.flow.flowId now (commandRateLimits plan) wins := by
  unfold commandRateLimits
  induction plan.safetyGates generalizing wins with
  | nil => rfl
  | cons gate gates ih =>
    rw [chargeRates,filterMap_cons]
    cases gate.maxCommands with
    | none => exact ih wins
    | some maxCommands =>
      cases gate.windowMs with
      | none => exact ih wins
      | some windowMs => exact ih _

theorem executions_put (wins : RateWindows) (key other : String ×ₗ String) (accepted : List Time) :
    executions (wins.put key accepted) other =
      if other = key then accepted else executions wins other := by
  unfold executions
  rw [OrderedMap.get_put]
  split <;> rfl

theorem executions_chargeLimits {limits : List CommandRateLimit}
    (hn : (limits.map fun limit => limit.gateId).Nodup) (wins : RateWindows)
    (key : String ×ₗ String) :
    executions (chargeLimits flow now limits wins) key = executions wins key ++
      if key ∈ limits.map (fun limit => rateKey flow limit.gateId) then [now] else [] := by
  induction limits generalizing wins with
  | nil => simp [chargeLimits]
  | cons limit limits ih =>
    rw [map_cons,nodup_cons] at hn
    have hc : chargeLimits flow now (limit :: limits) wins =
        chargeLimits flow now limits (wins.put (rateKey flow limit.gateId)
          (executions wins (rateKey flow limit.gateId) ++ [now])) := rfl
    rw [hc,ih hn.2,executions_put,map_cons]
    by_cases hk : key = rateKey flow limit.gateId
    · have hl : key ∉ limits.map (fun limit => rateKey flow limit.gateId) := by
        intro hm
        obtain ⟨other,ho,heq⟩ := mem_map.mp hm
        have hs : other.gateId = limit.gateId := congrArg (fun key => (ofLex key).2) (heq.trans hk)
        exact hn.1 (hs ▸ mem_map_of_mem ho)
      rw [if_pos hk,if_neg hl,if_pos (hk ▸ mem_cons_self),append_nil,hk]
    · rw [if_neg hk]
      simp [hk]

variable {cmds : List CheckedCommand}

/-! Both windows stand for the accepted commands. -/

section Answers

variable {ext : Externals} {settings : Gate → CommandRateLimit} {gates : List Gate}
  {edge : String} {seen accepted : List SafetyCheck} {windows : RateWindows}
  {check : SafetyCheck}

def gateKey (gate : Gate) : String ×ₗ String := rateKey gate.flowId gate.nodeId

structure Remembers (settings : Gate → CommandRateLimit) (gates : List Gate)
    (seen accepted : List SafetyCheck) (windows : RateWindows) : Prop where
  covers : ∀ gate ∈ gates, Covers (milliseconds (settings gate).windowMs)
    (seen.map fun check => check.now) (executions windows (gateKey gate))
    ((acceptedTimes gate accepted).map milliseconds)
  sorted : ∀ key, (executions windows key).Pairwise (· ≤ ·)
  known : ∀ key, ∀ time ∈ executions windows key, ∃ check ∈ seen, check.now = time

def spent (accepted : List SafetyCheck) (check : SafetyCheck) (limit : CommandRateLimit) : Bool :=
  limit.maxCommands ≤
    (recent limit.windowMs check.nowMs (acceptedTimes (check.gate limit) accepted)).length

theorem popExpired_eq_recent {win : Int} {times : List Time} (hs : times.Pairwise (· ≤ ·))
    (hn : ∀ time ∈ times, time ≤ now) : popExpired win now times = recent win now times := by
  apply dropWhile_eq_recent hs
  intro time ht
  rw [decide_eq_true_eq,max_eq_right (sub_nonneg.mpr (hn time ht))]

theorem remembers_empty : Remembers settings gates [] [] .empty where
  covers _ _ := covers_refl _ _ _
  sorted _ := .nil
  known _ _ h := absurd h (not_mem_nil)

namespace Remembers

section

variable (h : Remembers settings gates seen accepted windows)

include h

theorem wait : Remembers settings gates (seen ++ [check]) accepted windows where
  covers gate hg := (h.covers gate hg).mono (by
    rw [map_append]
    exact subset_append_left _ _)
  sorted := h.sorted
  known key time ht := by
    obtain ⟨earlier,he,heq⟩ := h.known key time ht
    exact ⟨earlier,mem_append_left _ he,heq⟩

variable (hl : ∀ earlier ∈ seen, earlier.now ≤ check.now)
include hl

theorem le_now (key : String ×ₗ String) : ∀ time ∈ executions windows key, time ≤ check.now := by
  intro time ht
  obtain ⟨earlier,he,rfl⟩ := h.known key time ht
  exact hl earlier he

theorem prune (he : ∀ gate ∈ gates, gate.edgeId = edge) (hc : check ∈ seen) {gate : Gate}
    (hg : gate ∈ gates) :
    Remembers settings gates seen accepted (windows.put (gateKey gate)
      (popExpired (milliseconds (settings gate).windowMs) check.now
        (executions windows (gateKey gate)))) where
  covers other ho := by
    rw [executions_put]
    split
    · next heq =>
      have hs : other = gate := by
        obtain ⟨otherEdge,otherFlow,otherNode⟩ := other
        obtain ⟨gateEdge,gateFlow,gateNode⟩ := gate
        cases (he _ ho).trans (he _ hg).symm
        cases heq
        rfl
      rw [hs,popExpired_eq_recent (h.sorted _) (h.le_now hl _)]
      exact (h.covers gate hg).prune (mem_map_of_mem hc)
    · exact h.covers other ho
  sorted key := by
    rw [executions_put]
    split
    · exact (h.sorted _).sublist (dropWhile_sublist _)
    · exact h.sorted key
  known key time ht := by
    rw [executions_put] at ht
    split at ht
    · exact h.known _ time ((dropWhile_sublist _).subset ht)
    · exact h.known key time ht

theorem checkLimits (hed : ∀ gate ∈ gates, gate.edgeId = edge) (hch : check ∈ seen)
    (hw : check.now = milliseconds check.nowMs)
    (hn : ∀ limit ∈ limits, check.gate limit ∈ gates)
    (hf : ∀ limit ∈ limits, limit = settings (check.gate limit)) :
    Remembers settings gates seen accepted
        (checkLimits check.plan.flow.flowId check.now limits windows).1 ∧
      (checkLimits check.plan.flow.flowId check.now limits windows).2 =
        match limits.find? (spent accepted check) with
        | some limit => .error (rateLimitExceeded limit)
        | none => .ok () := by
  induction limits generalizing windows with
  | nil => exact ⟨h,rfl⟩
  | cons limit limits ih =>
    have hg := hn limit mem_cons_self
    have hp := h.prune hl hed hch hg
    rw [← hf limit mem_cons_self] at hp
    -- what is left of the window is what is recent among the accepted commands
    have hle : (popExpired (milliseconds limit.windowMs) check.now
        (executions windows (rateKey check.plan.flow.flowId limit.gateId))).length =
        (recent limit.windowMs check.nowMs (acceptedTimes (check.gate limit) accepted)).length := by
      change (popExpired _ _ (executions windows (gateKey (check.gate limit)))).length = _
      have hc := h.covers _ hg check.now (by
        intro time ht
        obtain ⟨earlier,he,rfl⟩ := mem_map.mp ht
        exact hl earlier he)
      rw [← hf limit mem_cons_self] at hc
      rw [popExpired_eq_recent (h.sorted _) (h.le_now hl _),hc,hw]
      exact (congrArg length (recent_map_mul (by decide) _ _)).trans (length_map _)
    have hr := ih hp (fun other ho => hn other (mem_cons_of_mem _ ho))
      fun other ho => hf other (mem_cons_of_mem _ ho)
    rw [CommandSafety.checkLimits,find?_cons]
    by_cases hs : spent accepted check limit = true
    · have hfu := of_decide_eq_true hs
      rw [← hle] at hfu
      rw [hs]
      dsimp only
      rw [if_pos hfu]
      exact ⟨hp,rfl⟩
    · have hfr := fun hfu => hs (decide_eq_true hfu)
      rw [← hle] at hfr
      rw [Bool.eq_false_of_not_eq_true hs]
      dsimp only
      rw [if_neg hfr]
      exact hr

theorem chargeLimits (he : ∀ gate ∈ gates, gate.edgeId = check.edgeId) (hc : check ∈ seen)
    (hw : check.now = milliseconds check.nowMs)
    (hn : ((commandRateLimits check.plan).map fun limit => limit.gateId).Nodup) :
    Remembers settings gates seen (accepted ++ [check])
      (chargeLimits check.plan.flow.flowId check.now (commandRateLimits check.plan) windows) where
  covers gate hg := by
    have hk : gateKey gate ∈ (commandRateLimits check.plan).map
        (fun limit => rateKey check.plan.flow.flowId limit.gateId) ↔ gate ∈ check.gates := by
      rw [SafetyCheck.mem_gates,mem_map]
      refine exists_congr fun limit => and_congr_right fun _ => ?_
      obtain ⟨gateEdge,gateFlow,gateNode⟩ := gate
      cases he _ hg
      constructor
      · intro heq
        cases heq
        rfl
      · intro heq
        cases heq
        rfl
    rw [executions_chargeLimits hn,acceptedTimes_append]
    by_cases hm : gate ∈ check.gates
    · rw [if_pos (hk.mpr hm),if_pos hm,map_append,map_singleton,← hw]
      exact (h.covers gate hg).record check.now
    · rw [if_neg (fun hin => hm (hk.mp hin)),if_neg hm,append_nil,append_nil]
      exact h.covers gate hg
  sorted key := by
    rw [executions_chargeLimits hn,pairwise_append]
    refine ⟨h.sorted key,?_,?_⟩
    · split
      · exact pairwise_singleton _ _
      · exact .nil
    · intro time ht now hno
      split at hno
      · rw [mem_singleton.mp hno]
        exact h.le_now hl key time ht
      · cases hno
  known key time ht := by
    rw [executions_chargeLimits hn,mem_append] at ht
    rcases ht with ho | hne
    · exact h.known key time ho
    · split at hne
      · exact ⟨check,hc,(mem_singleton.mp hne).symm⟩
      · cases hne

end

end Remembers

private theorem find_exhausted (h : Tracks ext settings gates seen kept state)
    (hc : Follows settings gates seen check) :
    (commandRateLimits check.plan).find?
        (exhausted check.nowMs (fun limit => kept (check.gate limit))) =
      (commandRateLimits check.plan).find? (spent state.accepted check) := by
  rw [← head?_filter,← head?_filter]
  congr 1
  apply filter_congr
  intro limit hl
  unfold exhausted spent
  have hco := h.covers _ (hc.named limit hl) _ hc.nowMs_le
  rw [← hc.fixed limit hl] at hco
  rw [hco]

theorem check_agrees (hk : KeysApart ext gates) (hed : ∀ gate ∈ gates, gate.edgeId = check.edgeId)
    (ht : Tracks ext settings gates seen kept state)
    (hr : Remembers settings gates seen state.accepted windows)
    (hc : Follows settings gates seen check) (hw : check.now = milliseconds check.nowMs)
    (hn : ((commandRateLimits check.plan).map fun limit => limit.gateId).Nodup) :
    ∃ after,
      (∃ db kept, enforcePersistentCommandSafety ext check.edgeId check.plan check.now state.db =
          .ok (db,()) ∧
        enforceCommandSafety check.plan check.now windows = (after,.ok ()) ∧
        Tracks ext settings gates (seen ++ [check]) kept ⟨db,state.accepted ++ [check]⟩ ∧
        Remembers settings gates (seen ++ [check]) (state.accepted ++ [check]) after) ∨
      ∃ why, enforcePersistentCommandSafety ext check.edgeId check.plan check.now state.db =
          .error why ∧
        enforceCommandSafety check.plan check.now windows = (after,.error why) ∧
        Remembers settings gates (seen ++ [check]) state.accepted after := by
  have hl : ∀ earlier ∈ seen ++ [check], earlier.now ≤ check.now := by
    intro earlier he
    rcases mem_append.mp he with ho | hne
    · exact hc.later earlier ho
    · rw [mem_singleton.mp hne]
  have hm : check ∈ seen ++ [check] := mem_append_right _ mem_cons_self
  have hwa : Remembers settings gates (seen ++ [check]) state.accepted windows := hr.wait
  obtain ⟨hp,ha⟩ := hwa.checkLimits hl hed hm hw hc.named hc.fixed
  have hco := ht.consume hc
  unfold enforceCommandSafety enforcePersistentCommandSafety
  cases enforceCommandSources check.plan.safetyGates with
  | error why => exact ⟨windows,.inr ⟨why,rfl,rfl,hwa⟩⟩
  | ok =>
    rw [ok_bind,hco,ok_bind,checkRates_eq]
    rcases hloop : checkLimits check.plan.flow.flowId check.now (commandRateLimits check.plan)
      windows with ⟨checked,answer⟩
    rw [hloop] at hp ha
    cases hf : (commandRateLimits check.plan).find? (spent state.accepted check) with
    | some limit =>
      rw [hf] at ha
      cases ha
      rw [(find_exhausted ht hc).trans hf]
      exact ⟨checked,.inr ⟨rateLimitExceeded limit,rfl,rfl,hp⟩⟩
    | none =>
      rw [hf] at ha
      cases ha
      have hfr := (find_exhausted ht hc).trans hf
      rw [hfr]
      refine ⟨_,.inl ⟨_,_,rfl,rfl,ht.accept hk hc hfr,?_⟩⟩
      rw [chargeRates_eq]
      exact hp.chargeLimits hl hed hm hw hn

theorem answers_agree (hk : KeysApart ext gates) (he : ∀ gate ∈ gates, gate.edgeId = edge)
    (ht : Tracks ext settings gates seen kept state)
    (hr : Remembers settings gates seen state.accepted windows)
    (ho : Orderly settings gates (seen ++ cmds.map (CheckedCommand.check edge)))
    (hw : ∀ cmd ∈ cmds, cmd.now % 1000000 = 0)
    (hn : ∀ cmd ∈ cmds, ((commandRateLimits cmd.plan).map fun limit => limit.gateId).Nodup) :
    memoryAnswers windows cmds = storeAnswers ext edge state.db cmds := by
  induction cmds generalizing seen kept state windows with
  | nil => rfl
  | cons cmd cmds ih =>
    rw [map_cons] at ho
    have hno : (cmd.check edge).now = milliseconds (cmd.check edge).nowMs :=
      (Int.ediv_mul_cancel (Int.dvd_of_emod_eq_zero (hw cmd mem_cons_self))).symm
    have hl := fun later hl => hw later (mem_cons_of_mem cmd hl)
    have hln := fun later hl => hn later (mem_cons_of_mem cmd hl)
    obtain ⟨after,h | h⟩ := check_agrees hk he ht hr ho.follows hno (hn cmd mem_cons_self)
    · obtain ⟨db,kept,hs,hm,ht,hr⟩ := h
      rw [append_cons] at ho
      have hre := ih ht hr ho hl hln
      dsimp only [CheckedCommand.check] at hs hm
      rw [memoryAnswers,hm,storeAnswers,hs]
      dsimp only
      rw [hre]
    · obtain ⟨why,hs,hm,hr⟩ := h
      rw [append_cons] at ho
      have hre := ih ht.wait hr ho hl hln
      dsimp only [CheckedCommand.check] at hs hm
      rw [memoryAnswers,hm,storeAnswers,hs]
      dsimp only
      rw [hre]

end Answers

/-! What the planner guarantees of the gates of a command. -/

section Planned

open Runtime.Command

variable {ext : Externals} {pkg : EdgeConfigPackage} {flow : String} {body : Bytes}
  {now : Time} {plan : CommandExecutionPlan}

variable (h : planCommandExecution ext pkg flow body now = .ok plan)
include h

private theorem planned_gates_nodup : (plan.safetyGates.map fun gate => gate.nodeId).Nodup := by
  obtain ⟨doc,walk,planned⟩ := planned_of_ok ext h
  rw [← planned.gates,planned.walkedAll.gates]
  exact planned.contributions_nodup _ _ gatesAt_nodeIds

theorem planned_limits_nodup : ((commandRateLimits plan).map fun limit => limit.gateId).Nodup := by
  refine Nodup.sublist ?_ (planned_gates_nodup h)
  unfold commandRateLimits
  induction plan.safetyGates with
  | nil => exact Sublist.refl _
  | cons gate gates ih =>
    rw [filterMap_cons,map_cons]
    split
    · exact ih.cons _
    · next limit hl =>
      split at hl
      · cases hl
        exact ih.cons_cons _
      · cases hl

end Planned

def gatesOf (edgeId : String) (commands : List CheckedCommand) : List Gate :=
  commands.flatMap fun command => (command.check edgeId).gates

private theorem gatesOf_edgeId : ∀ gate ∈ gatesOf edge cmds, gate.edgeId = edge := by
  intro gate hg
  obtain ⟨cmd,_,hn⟩ := mem_flatMap.mp hg
  obtain ⟨limit,_,rfl⟩ := SafetyCheck.mem_gates.mp hn
  rfl

/-- From empty windows, the limiter in memory and the one against the store give the same answer to
each of a sequence of commands with times in whole milliseconds, each naming its gates once. -/
theorem limiters_agree (ext : Externals) (settings : Gate → CommandRateLimit) (edgeId : String)
    (commands : List CheckedCommand)
    (hsorted : commands.Pairwise (fun earlier later => earlier.now ≤ later.now))
    (hwhole : ∀ command ∈ commands, command.now % 1000000 = 0)
    (hsettings : ∀ command ∈ commands, ∀ limit ∈ commandRateLimits command.plan,
      limit = settings ((command.check edgeId).gate limit))
    (hnodup : ∀ command ∈ commands,
      ((commandRateLimits command.plan).map fun limit => limit.gateId).Nodup)
    (hids : ∀ gate ∈ gatesOf edgeId commands,
      '\x00' ∉ gate.edgeId.toList ∧ '\x00' ∉ gate.flowId.toList)
    (hdigests : ∀ gate ∈ gatesOf edgeId commands, ∀ other ∈ gatesOf edgeId commands,
      sha256Hex ext gate.scope = sha256Hex ext other.scope → gate.scope = other.scope) :
    memoryAnswers .empty commands = storeAnswers ext edgeId .empty commands := by
  have ho : Orderly settings (gatesOf edgeId commands)
      ([] ++ commands.map (CheckedCommand.check edgeId)) := by
    rw [nil_append]
    refine ⟨pairwise_map.mpr hsorted,?_,?_⟩
    · intro check hch limit hl
      obtain ⟨command,hc,rfl⟩ := mem_map.mp hch
      exact mem_flatMap.mpr ⟨command,hc,mem_map_of_mem hl⟩
    · intro check hch limit hl
      obtain ⟨command,hc,rfl⟩ := mem_map.mp hch
      exact hsettings command hc limit hl
  exact answers_agree (keysApart ext hids hdigests) gatesOf_edgeId tracks_initial remembers_empty
    ho hwhole hnodup

def valveCommands : List CheckedCommand :=
  [⟨valvePlan,500000000⟩,⟨valvePlan,1400000000⟩,⟨valvePlan,1500000000⟩]

theorem valve_limiters_agree :
    (memoryAnswers .empty valveCommands).map Except.isOk = [true,false,true] ∧
    memoryAnswers .empty valveCommands =
      storeAnswers valveExternals "edge-1" .empty valveCommands :=
  ⟨by decide +kernel,limiters_agree valveExternals (fun _ => valveLimit) "edge-1" valveCommands
    (by decide +kernel) (by decide +kernel) (by decide +kernel) (by decide +kernel)
    (by decide +kernel) (by decide +kernel)⟩

/-- Less than a second after the first opening, only the store has let its whole milliseconds
pass. -/
theorem valve_limiters_differ :
    (memoryAnswers .empty [⟨valvePlan,999500000⟩,⟨valvePlan,1999000000⟩]).map Except.isOk =
      [true,false] ∧
    (storeAnswers valveExternals "edge-1" .empty
      [⟨valvePlan,999500000⟩,⟨valvePlan,1999000000⟩]).map Except.isOk = [true,true] := by
  exact ⟨by decide +kernel,by decide +kernel⟩

end VelaEdge.Runtime.CommandSafety
