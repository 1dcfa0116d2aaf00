import VelaEdge.Base.OrderedMap
import VelaEdge.Runtime.Command

/-! The runtime's embedded store: configurations, the MQTT outbox and its receipts, command audit
records and command rate windows, each under its own family of keys in one ordered map. A function
that fails returns no new store: each makes its single write last. -/
namespace VelaEdge.Runtime

open Base Core List Text

structure CommandRateLimit where
  gateId : String
  maxCommands : Nat
  windowMs : Nat
deriving DecidableEq

inductive CommandRateDecision where
  | accepted
  | rejected (limit : CommandRateLimit)
deriving DecidableEq

inductive CommandAuditState where
  | processing
  | succeeded
  | failed
deriving DecidableEq

structure CommandAuditRecord where
  edgeId : String
  flowId : String
  commandId : String
  source : Option String
  payloadDigest : String
  state : CommandAuditState
  acceptedAt : Time
  completedAt : Option Time
  writes : List CommandWriteRecord
  error : Option String
  replies : List MqttPublishMessage
deriving DecidableEq

def CommandAuditRecord.executionReport (record : CommandAuditRecord) :
    Option CommandExecutionReport :=
  let completed (status : CommandExecutionStatus) : CommandExecutionReport := {
    flowId := record.flowId
    commandId := record.commandId
    source := record.source
    status := status
    writes := record.writes
    error := record.error
    completedAt := record.completedAt.getD record.acceptedAt
    duplicate := true
    replies := record.replies }
  match record.state with
  | .processing => none
  | .succeeded => some (completed .succeeded)
  | .failed => some (completed .failed)

inductive CommandClaim where
  | started (record : CommandAuditRecord)
  | duplicate (record : CommandAuditRecord)
  | inProgress (record : CommandAuditRecord)
  | conflict (record : CommandAuditRecord)

structure MqttOutboxEntry where
  sequence : Nat
  enqueuedAt : Time
  attempts : Nat
  lastError : Option String
  message : MqttPublishMessage
deriving DecidableEq

structure MqttPublishAcknowledgement where
  sequence : Nat
  acknowledgedAt : Time
  sinkId : String
  broker : String
  clientId : String
  topic : String
  qos : Nat
  payloadBytes : Nat
deriving DecidableEq

inductive StoredValue where
  | desiredConfig (package : EdgeConfigPackage)
  | activeVersion (version : String)
  | counter (value : Nat)
  | outboxEntry (entry : MqttOutboxEntry)
  | acknowledgement (receipt : MqttPublishAcknowledgement)
  | commandAudit (record : CommandAuditRecord)
  | rateWindow (acceptedAtMs : List Int)

abbrev Db := OrderedMap String StoredValue

variable {record : CommandAuditRecord}

namespace LocalDb

def desiredConfigPrefix : String := "desired-config"
def activeConfigPrefix : String := "active-config"
def mqttOutboxPrefix : String := "mqtt-outbox/"
def mqttOutboxSequenceKey : String := "mqtt-outbox-sequence"
def mqttAckPrefix : String := "mqtt-ack/"
def mqttAckCountKey : String := "mqtt-ack-count"
def mqttAckRetention : Nat := 1000
def commandAuditPrefix : String := "command-audit/"
def commandRatePrefix : String := "command-rate/"

def u64Max : Nat := 2 ^ 64 - 1
def u32Max : Nat := 2 ^ 32 - 1

def desiredConfigKey (edgeId version : String) : String :=
  desiredConfigPrefix ++ "/" ++ edgeId ++ "/" ++ version

def activeConfigKey (edgeId : String) : String :=
  activeConfigPrefix ++ "/" ++ edgeId

def mqttOutboxKey (sequence : Nat) : String := mqttOutboxPrefix ++ padded 20 sequence

def mqttAckKey (sequence : Nat) : String := mqttAckPrefix ++ padded 20 sequence

def hexDigits (byte : UInt8) : List Char :=
  [Nat.digitChar (byte.toNat / 16),Nat.digitChar (byte.toNat % 16)]

variable (ext : Externals)

def sha256Hex (payload : Bytes) : String := String.ofList ((ext.sha256 payload).flatMap hexDigits)

/-- The three ids behind a command key, separated by a zero byte. -/
def scopedId (edgeId flowId localId : String) : Bytes :=
  (edgeId ++ "\x00" ++ flowId ++ "\x00" ++ localId).toUTF8.data.toList

def commandAuditKey (edgeId flowId commandId : String) : String :=
  commandAuditPrefix ++ sha256Hex ext (scopedId edgeId flowId commandId)

def commandRateKey (edgeId flowId gateId : String) : String :=
  commandRatePrefix ++ sha256Hex ext (scopedId edgeId flowId gateId)

/-! Command audit records. -/

def commandAuditByKey (db : Db) (key : String) : Except String (Option CommandAuditRecord) :=
  match db.get key with
  | none => .ok none
  | some (.commandAudit record) => .ok (some record)
  | some _ => .error "failed to decode command audit record"

def commandAudit (db : Db) (edgeId flowId commandId : String) :
    Except String (Option CommandAuditRecord) :=
  commandAuditByKey db (commandAuditKey ext edgeId flowId commandId)

def claimedRecord (edgeId flowId commandId : String) (payload : Bytes) (now : Time) :
    CommandAuditRecord where
  edgeId := edgeId
  flowId := flowId
  commandId := commandId
  source := none
  payloadDigest := sha256Hex ext payload
  state := .processing
  acceptedAt := now
  completedAt := none
  writes := []
  error := none
  replies := []

def claimCommand (db : Db) (edgeId flowId commandId : String) (payload : Bytes) (now : Time) :
    Except String (Db × CommandClaim) := do
  bailIf (isBlank edgeId || isBlank flowId || isBlank commandId)
    "edge id, command flow id and command id are required"
  let key := commandAuditKey ext edgeId flowId commandId
  match ← commandAuditByKey db key with
  | some existing =>
    if existing.payloadDigest ≠ sha256Hex ext payload then pure (db,.conflict existing)
    else
      match existing.state with
      | .processing => pure (db,.inProgress existing)
      | .succeeded | .failed => pure (db,.duplicate existing)
  | none =>
    let record := claimedRecord ext edgeId flowId commandId payload now
    pure (db.put key (.commandAudit record),.started record)

def completedRecord (record : CommandAuditRecord) (report : CommandExecutionReport) :
    CommandAuditRecord :=
  { record with
    state := match report.status with
      | .succeeded => .succeeded
      | .failed => .failed
    completedAt := some report.completedAt
    writes := report.writes
    source := report.source
    error := report.error
    replies := report.replies }

def completeCommand (db : Db) (edgeId : String) (payload : Bytes)
    (report : CommandExecutionReport) : Except String (Db × CommandAuditRecord) := do
  let key := commandAuditKey ext edgeId report.flowId report.commandId
  let record ← context (← commandAuditByKey db key) "command must be claimed before completion"
  bailIf (record.payloadDigest ≠ sha256Hex ext payload)
    s!"command {report.commandId} payload conflicts with its claimed payload"
  bailIf (record.state ≠ .processing) s!"command {report.commandId} has already completed"
  pure (db.put key (.commandAudit (completedRecord record report)),completedRecord record report)

/-! Command rate windows. -/

def rateWindow (db : Db) (key : String) : Except String (List Int) := match db.get key with
  | none => .ok []
  | some (.rateWindow acceptedAtMs) => .ok acceptedAtMs
  | some _ => .error "failed to decode command rate window"

/-- The windows after one more command, or the first limit it would exceed. Every window is read
from the store, also when two limits share a key. -/
def admitCommand (db : Db) (edgeId flowId : String) (nowMs : Int) :
    List CommandRateLimit → Except String (Except CommandRateLimit (List (String × List Int)))
  | [] => .ok (.ok [])
  | limit :: limits => do
      let key := commandRateKey ext edgeId flowId limit.gateId
      let window := (← rateWindow db key).filter (fun previous => nowMs - previous < limit.windowMs)
      if limit.maxCommands ≤ window.length then pure (.error limit)
      else
        match ← admitCommand db edgeId flowId nowMs limits with
        | .error rejected => pure (.error rejected)
        | .ok windows => pure (.ok ((key,window ++ [nowMs]) :: windows))

def consumeCommandRateSlots (db : Db) (edgeId flowId : String) (limits : List CommandRateLimit)
    (acceptedAt : Time) : Except String (Db × CommandRateDecision) := do
  match ← admitCommand ext db edgeId flowId (acceptedAt / 1000000) limits with
  | .error limit => pure (db,.rejected limit)
  | .ok windows =>
    pure (db.write (windows.map fun (key,window) => .put key (.rateWindow window)),.accepted)

/-! Desired and active configurations. -/

def putDesiredConfig (db : Db) (package : EdgeConfigPackage) : Except String Db := do
  bailIf (isBlank package.edgeId) "edge id is required"
  bailIf (isBlank package.version) "config version is required"
  pure (db.put (desiredConfigKey package.edgeId package.version) (.desiredConfig package))

def desiredConfig (db : Db) (edgeId version : String) : Except String (Option EdgeConfigPackage) :=
  match db.get (desiredConfigKey edgeId version) with
  | none => .ok none
  | some (.desiredConfig package) => .ok (some package)
  | some _ => .error "failed to decode desired config package"

def promoteActiveConfig (db : Db) (edgeId version : String) : Except String Db := do
  let found ← desiredConfig db edgeId version
  bailIf (found.isNone)
    s!"desired config not found for edge `{edgeId}` version `{version}`"
  pure (db.put (activeConfigKey edgeId) (.activeVersion version))

def activeVersion (db : Db) (edgeId : String) : Except String (Option String) :=
  match db.get (activeConfigKey edgeId) with
  | none => .ok none
  | some (.activeVersion version) => .ok (some version)
  | some _ => .error "active config version is not UTF-8"

def activeConfig (db : Db) (edgeId : String) : Except String (Option EdgeConfigPackage) := do
  match ← activeVersion db edgeId with
  | none => pure none
  | some version => desiredConfig db edgeId version

variable {key : String}

/-! What the command operations can do to a store. -/

@[simp] theorem commandAuditByKey_none :
    commandAuditByKey db key = .ok none ↔ db.get key = none := by
  unfold commandAuditByKey
  split <;> simp_all

@[simp] theorem commandAuditByKey_some :
    commandAuditByKey db key = .ok (some record) ↔ db.get key = some (.commandAudit record) := by
  unfold commandAuditByKey
  split <;> simp_all

inductive Claims (db : Db) (edgeId flowId commandId : String) (payload : Bytes) (now : Time) :
    Db → CommandClaim → Prop
  | started : db.get (commandAuditKey ext edgeId flowId commandId) = none →
      Claims db edgeId flowId commandId payload now
        (db.put (commandAuditKey ext edgeId flowId commandId)
          (.commandAudit (claimedRecord ext edgeId flowId commandId payload now)))
        (.started (claimedRecord ext edgeId flowId commandId payload now))
  | conflict (record : CommandAuditRecord) :
      db.get (commandAuditKey ext edgeId flowId commandId) = some (.commandAudit record) →
      record.payloadDigest ≠ sha256Hex ext payload →
      Claims db edgeId flowId commandId payload now db (.conflict record)
  | inProgress (record : CommandAuditRecord) :
      db.get (commandAuditKey ext edgeId flowId commandId) = some (.commandAudit record) →
      record.payloadDigest = sha256Hex ext payload → record.state = .processing →
      Claims db edgeId flowId commandId payload now db (.inProgress record)
  | duplicate (record : CommandAuditRecord) :
      db.get (commandAuditKey ext edgeId flowId commandId) = some (.commandAudit record) →
      record.payloadDigest = sha256Hex ext payload → record.state ≠ .processing →
      Claims db edgeId flowId commandId payload now db (.duplicate record)

theorem claims_of_ok {after : Db}
    (h : claimCommand ext db edge flow cid body now = .ok (after,claim)) :
    Claims ext db edge flow cid body now after claim := by
  unfold claimCommand at h
  obtain ⟨_,-,h⟩ := bind_eq_ok.mp h
  obtain ⟨old,he,h⟩ := bind_eq_ok.mp h
  cases old with
  | none =>
    cases h
    exact .started (commandAuditByKey_none.mp he)
  | some record =>
    rw [commandAuditByKey_some] at he
    dsimp only at h
    split at h
    · next hd =>
      cases h
      exact .conflict record he hd
    · next hd =>
      rw [not_ne_iff] at hd
      cases hs : record.state with
      | processing =>
        rw [hs] at h
        cases h
        exact .inProgress record he hd hs
      | succeeded =>
        rw [hs] at h
        cases h
        exact .duplicate record he hd (by simp [hs])
      | failed =>
        rw [hs] at h
        cases h
        exact .duplicate record he hd (by simp [hs])

variable {rep : CommandExecutionReport}

theorem completeCommand_eq {db : Db}
    (hr : db.get (commandAuditKey ext edge rep.flowId rep.commandId) =
      some (.commandAudit record)) (hd : record.payloadDigest = sha256Hex ext body)
    (hs : record.state = .processing) :
    completeCommand ext db edge body rep =
      .ok (db.put (commandAuditKey ext edge rep.flowId rep.commandId)
        (.commandAudit (completedRecord record rep)),completedRecord record rep) := by
  unfold completeCommand
  simp [commandAuditByKey_some.mpr hr,bailIf,hd,hs]

theorem completedRecord_executionReport (hf : record.flowId = rep.flowId)
    (hc : record.commandId = rep.commandId) :
    (completedRecord record rep).executionReport = some { rep with duplicate := true } := by
  unfold completedRecord CommandAuditRecord.executionReport
  cases hs : rep.status <;> simp [hf,hc,← hs]

theorem completedRecord_state (record : CommandAuditRecord) (rep : CommandExecutionReport) :
    (completedRecord record rep).state ≠ .processing := by
  unfold completedRecord
  cases rep.status <;> simp

private theorem admitCommand_own {nowMs : Int}
    (h : admitCommand ext db edge flow nowMs limits = .ok (.ok wins)) :
    ∀ win ∈ wins, ∃ limit ∈ limits, win.1 = commandRateKey ext edge flow limit.gateId := by
  induction limits generalizing wins with
  | nil =>
    cases h
    simp
  | cons limit limits ih =>
    unfold admitCommand at h
    obtain ⟨stored,-,h⟩ := bind_eq_ok.mp h
    dsimp only at h
    split at h
    · cases h
    · obtain ⟨rest,hr,h⟩ := bind_eq_ok.mp h
      cases rest with
      | error rejected => cases h
      | ok rest =>
        cases h
        intro win hw
        rcases mem_cons.mp hw with rfl | hw
        · exact ⟨limit,mem_cons_self,rfl⟩
        · obtain ⟨other,ho,hk⟩ := ih hr win hw
          exact ⟨other,mem_cons_of_mem _ ho,hk⟩

theorem consumeCommandRateSlots_writes {after : Db}
    (h : consumeCommandRateSlots ext db edge flow limits acceptedAt = .ok (after,decision)) :
    ∃ batch, after = db.write batch ∧ ∀ op ∈ batch, ∃ limit ∈ limits,
      op.key = commandRateKey ext edge flow limit.gateId := by
  unfold consumeCommandRateSlots at h
  obtain ⟨admitted,ha,h⟩ := bind_eq_ok.mp h
  cases admitted with
  | error limit =>
    cases h
    exact ⟨[],rfl,by simp⟩
  | ok wins =>
    cases h
    refine ⟨_,rfl,?_⟩
    intro op hop
    obtain ⟨win,hw,rfl⟩ := mem_map.mp hop
    exact admitCommand_own ext ha win hw

@[simp] theorem commandRateKey_inside (edge flow gateId : String) :
    hasPrefix commandRatePrefix (commandRateKey ext edge flow gateId) = true :=
  hasPrefix_append _ _

@[simp] theorem commandAuditKey_inside (edge flow cid : String) :
    hasPrefix commandAuditPrefix (commandAuditKey ext edge flow cid) = true :=
  hasPrefix_append _ _

theorem outside_audit_of_rate (h : hasPrefix commandRatePrefix key = true) :
    hasPrefix commandAuditPrefix key = false :=
  hasPrefix_disjoint h (by decide) (by decide)

end LocalDb
end VelaEdge.Runtime
