import VelaEdge.Runtime.Iec104
import VelaEdge.Runtime.PointWrites

/-! One collection of a data config: its attempts, each of which visits every connection that has
the id of the config, the circuit breaker that is asked before a visit, and what is recorded after
it. -/
namespace VelaEdge.Runtime.CollectionRetries

open Base Core LocalDb PointCollection List
open PointWrites (keepsAdapter)
open ProtocolCircuitBreaker (allowRequest recordSuccess recordFailure close)

/-! ## Preparing the adapter -/

/-- The checks of points that adapters make besides those of an accepted package. -/
structure AdapterChecks extends FieldChecks where
  validateBacnetPoint : Json → TelemetryType → PointAccess → Json → Except String Unit
  parseNodeId : String → Except String Unit
  parseOpcUaBrowsePath : String → Except String Unit

/-- Every mapping is one of the connection and passes the check of its point. -/
def checkMappings (protocol : String) (check : TelemetryPointMapping → Except String Unit)
    (connection : ProtocolConnection) (mappings : List TelemetryPointMapping) :
    Except String Unit :=
  mappings.forM fun mapping => do
    bailIf (mapping.protocolConnectionId ≠ connection.connectionId)
      s!"{protocol} point {mapping.pointId} references connection {
        mapping.protocolConnectionId} instead of {connection.connectionId}"
    check mapping

variable (checks : AdapterChecks)

def checkOpcUaAddress (mapping : TelemetryPointMapping) : Except String Unit :=
  let value := addressField mapping.address "value"
  match addressField mapping.address "kind" with
  | "node_id" => (checks.parseNodeId value).mapError fun _ =>
      s!"invalid OPC UA NodeId {value} for point {mapping.pointId}"
  | "browse_path" => (checks.parseOpcUaBrowsePath value).mapError fun _ =>
      s!"invalid OPC UA BrowsePath for point {mapping.pointId}"
  | _ => .error s!"OPC UA point {mapping.pointId} requires node_id or browse_path address kind"

variable (connection : ProtocolConnection) (mappings : List TelemetryPointMapping)

def validateMappings : Except String Unit :=
  match connection.protocol with
  | .iec104 => Iec104.validateMappings connection mappings
  | .opcUa => checkMappings "OPC UA" (checkOpcUaAddress checks) connection mappings
  | .bacnetIp =>
    checkMappings "BACnet/IP" (fun mapping => do
      bailIf (addressField mapping.address "kind" ≠ "bacnet_object_property")
        s!"BACnet/IP point {mapping.pointId} requires bacnet_object_property address kind"
      (checks.validateBacnetPoint mapping.address mapping.valueType mapping.access
        mapping.protocolOptions).mapError fun _ => s!"invalid BACnet/IP point {mapping.pointId}")
      connection mappings
  | .siemensS7 =>
    checkMappings "Siemens S7" (fun mapping =>
      (checks.validateSiemensS7Point mapping.address mapping.valueType mapping.access).mapError
        fun _ => s!"invalid Siemens S7 point {mapping.pointId}") connection mappings
  | .omronFins =>
    checkMappings "Omron FINS" (fun mapping =>
      (checks.validateOmronFinsPoint mapping.address mapping.valueType mapping.access).mapError
        fun _ => s!"invalid Omron FINS point {mapping.pointId}") connection mappings
  | _ => .ok ()

/-- An adapter that is kept checks its connection when it is created, and the mappings whenever it
is given some. The others are created for one read and check nothing before it. -/
def prepareAdapter : Except String Unit :=
  if keepsAdapter connection.protocol then do
    checks.validateConnection connection
    validateMappings checks connection mappings
  else .ok ()

/-! ## Visits and attempts -/

/-- The breaker of a connection id, and how often a collection was tried there, refused by the
breaker, and recorded as a success or failure. -/
structure Connection where
  breaker : ProtocolCircuitBreaker
  attempts : Nat
  rejections : Nat
  successes : Nat
  failures : Nat

/-- What one visit meets: the times at which the breaker is asked and told, and what the read
returns, if the timeout does not cancel it. -/
structure Pass where
  asked : Time
  read : Option (Except String Unit)
  ended : Time

inductive Outcome where
  | collected
  | rejected
  | failed
deriving DecidableEq

-- whether the adapter takes the mappings
variable (prepared : Except String Unit)

/-- A refusal of the mappings leaves the function at once. -/
def visit (pass : Pass) (conn : Connection) : Connection × Outcome :=
  match conn.breaker.allowRequest pass.asked, prepared, pass.read with
  | (breaker,false), _, _ => ({ conn with
      breaker := breaker
      attempts := conn.attempts + 1
      rejections := conn.rejections + 1 },.rejected)
  | (breaker,true), .error _, _ =>
    ({ conn with breaker := breaker, attempts := conn.attempts + 1 },.failed)
  | (breaker,true), .ok (), some (.ok ()) => ({ conn with
      breaker := breaker.recordSuccess
      attempts := conn.attempts + 1
      successes := conn.successes + 1 },.collected)
  | (breaker,true), .ok (), _ => ({ conn with
      breaker := breaker.recordFailure pass.ended
      attempts := conn.attempts + 1
      failures := conn.failures + 1 },.failed)

/-- The visits of one attempt, as the states after each; the first that fails ends it. -/
def visits (passes : Nat → Pass) :
    List (Except String Unit) → Nat → Connection → List Connection × Outcome
  | [], _, _ => ([],.collected)
  | prepared :: rest, index, conn =>
    match visit prepared (passes index) conn with
    | (next,.collected) =>
      let (later,outcome) := visits passes rest (index + 1) next
      (next :: later,outcome)
    | (next,outcome) => ([next],outcome)

/-- The adapters of the connections that have mappings among the selected ones. -/
def adapters (connections : List ProtocolConnection) (selected : List TelemetryPointMapping) :
    List (Except String Unit) :=
  (connections.filter fun connection => mappingsForConnection selected connection ≠ []).map
    fun connection => prepareAdapter checks connection (mappingsForConnection selected connection)

/-- The retry loop over the visits of each attempt, as the states after each visit. -/
def retry (adapters : List (Except String Unit)) (passes : Nat → Nat → Pass) :
    Nat → Nat → Connection → List Connection
  | 0, _, _ => []
  | left + 1, index, conn =>
    let (states,outcome) := visits (passes index) adapters 0 conn
    let last := states.getLastD conn
    states ++ if outcome = .failed ∧ last.breaker.state ≠ .opened then
      retry adapters passes left (index + 1) last else []

def collectWithRecovery (package : EdgeConfigPackage) (config : DataConfig)
    (passes : Nat → Nat → Pass) (conn : Connection) : List Connection :=
  retry (adapters checks package.protocolConnections (dataConfigMappings package config)) passes
    (min (config.collection.retryCount + 1) u32Max) 0 conn

def Connection.Accounted (conn : Connection) : Prop :=
  conn.attempts = conn.successes + conn.failures + conn.rejections

/-- What a collection may do: not more visits than attempts, none once the breaker is open, and a
record for each. -/
structure Respects (retryCount : Nat) (states : List Connection) : Prop where
  bounded : states.length ≤ retryCount + 1
  stopped : states.Pairwise fun earlier _ => earlier.breaker.state ≠ .opened
  accounted : ∀ state ∈ states, state.Accounted

/-! ## One visit -/

section Visit

variable {prepared} {pass : Pass} {conn next : Connection}

theorem visit_accounted (h : visit (.ok ()) pass conn = (next,outcome)) (ha : conn.Accounted) :
    next.Accounted := by
  unfold Connection.Accounted at ha ⊢
  unfold visit at h
  split at h
  case h_2 => contradiction
  all_goals
    cases h
    dsimp only
    omega

private theorem visit_collected (h : visit prepared pass conn = (next,.collected)) :
    next.breaker.state ≠ .opened := by
  have ha := conn.breaker.allowRequest_passes pass.asked
  unfold visit at h
  split at h
  case h_3 breaker hb hr =>
    cases h
    rw [hb] at ha
    exact ProtocolCircuitBreaker.recordSuccess_state (ha rfl)
  all_goals cases h

end Visit

/-! ## A collection whose adapters take the mappings -/

section Collection

variable (adapters : List (Except String Unit))

private theorem visits_length (passes : Nat → Pass) (index : Nat) (conn : Connection) :
    (visits passes adapters index conn).1.length ≤ adapters.length := by
  fun_induction visits passes adapters index conn with
  | case1 => exact Nat.le_refl 0
  | case2 prepared rest index conn next hv later outcome hl ih =>
    rw [hl] at ih
    simpa using ih
  | case3 => simp

/-- A visit is followed by another only when it has collected. -/
theorem visits_stopped (passes : Nat → Pass) (index : Nat) (conn : Connection) :
    let states := (visits passes adapters index conn).1
    states.Pairwise (fun earlier _ => earlier.breaker.state ≠ .opened) ∧
      ((states.getLastD conn).breaker.state ≠ .opened →
        ∀ state ∈ states, state.breaker.state ≠ .opened) := by
  fun_induction visits passes adapters index conn with
  | case1 => simp
  | case2 prepared rest index conn next hv later outcome hl ih =>
    rw [hl] at ih
    have hn := visit_collected hv
    refine ⟨pairwise_cons.mpr ⟨fun _ _ => hn,ih.1⟩,fun hs => ?_⟩
    rw [getLastD_cons] at hs
    exact forall_mem_cons.mpr ⟨hn,ih.2 hs⟩
  | case3 => simp

/-- A single adapter makes one visit an attempt. -/
theorem retry_length (ho : adapters.length ≤ 1) (passes : Nat → Nat → Pass) (left index : Nat)
    (conn : Connection) : (retry adapters passes left index conn).length ≤ left := by
  induction left generalizing index conn with
  | zero => rfl
  | succ left ih =>
    have hl := visits_length adapters (passes index) 0 conn
    simp only [retry,length_append]
    split
    · have hn := ih (index + 1) ((visits (passes index) adapters 0 conn).1.getLastD conn)
      omega
    · simp only [length_nil]
      omega

variable {adapters} (hr : ∀ prepared ∈ adapters, prepared = .ok ())

include hr

private theorem visits_accounted (passes : Nat → Pass) (index : Nat) {conn : Connection}
    (h : conn.Accounted) : ∀ state ∈ (visits passes adapters index conn).1, state.Accounted := by
  fun_induction visits passes adapters index conn with
  | case1 => simp
  | case2 prepared rest index conn next hv later outcome hl ih =>
    obtain ⟨rfl,hrest⟩ := forall_mem_cons.mp hr
    have hn := visit_accounted hv h
    rw [hl] at ih
    exact forall_mem_cons.mpr ⟨hn,ih hrest hn⟩
  | case3 prepared rest index conn next outcome hc hv =>
    obtain ⟨rfl,-⟩ := forall_mem_cons.mp hr
    simpa using visit_accounted hv h

theorem retry_respects (passes : Nat → Nat → Pass) (left index : Nat) {conn : Connection}
    (h : conn.Accounted) :
    (retry adapters passes left index conn).Pairwise
      (fun earlier _ => earlier.breaker.state ≠ .opened) ∧
    ∀ state ∈ retry adapters passes left index conn, state.Accounted := by
  induction left generalizing index conn with
  | zero => simp [retry]
  | succ left ih =>
    obtain ⟨hp,hs⟩ := visits_stopped adapters (passes index) 0 conn
    have ha := visits_accounted hr (passes index) 0 h
    simp only [retry]
    split
    · next hgo =>
      have hl : ((visits (passes index) adapters 0 conn).1.getLastD conn).Accounted := by
        rcases mem_cons.mp (getLastD_mem_cons ..) with he | hm
        · rw [he]
          exact h
        · exact ha _ hm
      obtain ⟨hpl,hal⟩ := ih (index + 1) hl
      refine ⟨pairwise_append.mpr ⟨hp,hpl,fun state hm _ _ => hs hgo.2 state hm⟩,?_⟩
      intro state hm
      exact (mem_append.mp hm).elim (ha state) (hal state)
    · rw [append_nil]
      exact ⟨hp,ha⟩

end Collection

/-! ## What goes wrong otherwise -/

section Necessary

variable {adapters : List (Except String Unit)} {conn : Connection}

/-- A breaker that is closed before the first collection. -/
def Connection.initial (settings : ProtocolCircuitBreakerConfig) : Connection :=
  ⟨⟨settings,.closed,0,0,none⟩,0,0,0,0⟩

def answering : Pass := ⟨0,some (.ok ()),0⟩

def silent : Pass := ⟨0,none,0⟩

def disabled : ProtocolCircuitBreakerConfig := ⟨false,5,30000,1⟩

section

variable (hd : conn.breaker.config.enabled = false)
include hd

theorem visit_answering : ∃ next, visit (.ok ()) answering conn = (next,.collected) ∧
      next.breaker.config.enabled = false := by
  simp [visit,answering,allowRequest,recordSuccess,close,hd]

private theorem visit_silent :
    ∃ next, visit (.ok ()) silent conn = (next,.failed) ∧ next.breaker.state = .closed ∧
      next.breaker.config.enabled = false := by
  simp [visit,silent,allowRequest,recordFailure,close,hd]

private theorem visits_refused (index : Nat) (ha : conn.Accounted)
    (h : ∃ prepared ∈ adapters, prepared ≠ .ok ()) :
    ∃ state ∈ (visits (fun _ => answering) adapters index conn).1, ¬ state.Accounted := by
  induction adapters generalizing index conn with
  | nil => simp at h
  | cons prepared rest ih =>
    cases prepared with
    | error why =>
      unfold Connection.Accounted at ha ⊢
      simp [visits,visit,allowRequest,hd]
      omega
    | ok =>
      obtain ⟨next,hv,hn⟩ := visit_answering hd
      obtain ⟨state,hm,hna⟩ := ih hn (index + 1) (visit_accounted hv ha) (by simpa using h)
      exact ⟨state,by simp [visits,hv,hm],hna⟩

/-- The second of two visits fails in every attempt. -/
theorem retry_doubles (rest : List (Except String Unit)) (left index : Nat) :
    (retry (.ok () :: .ok () :: rest) (fun _ visit => if visit = 0 then answering else silent)
      left index conn).length = 2 * left := by
  induction left generalizing index conn with
  | zero => rfl
  | succ left ih =>
    obtain ⟨first,hf,hfd⟩ := visit_answering hd
    obtain ⟨second,hs,hsc,hsd⟩ := visit_silent hfd
    simp [retry,visits,hf,hs,hsc,ih hsd (index + 1)]
    omega

end

/-- For every state of the breaker and everything that the visits may meet. -/
theorem retry_respects_iff (hn : adapters ≠ []) (retryCount : Nat) :
    (∀ conn passes, conn.Accounted →
      Respects retryCount (retry adapters passes (retryCount + 1) 0 conn)) ↔
    (∀ prepared ∈ adapters, prepared = .ok ()) ∧ adapters.length = 1 := by
  constructor
  · intro h
    have ha : (Connection.initial disabled).Accounted := rfl
    have hr := fun passes => h (.initial disabled) passes ha
    have hready : ∀ prepared ∈ adapters, prepared = .ok () := by
      by_contra hne
      push Not at hne
      obtain ⟨state,hm,hna⟩ := visits_refused rfl 0 ha hne
      exact hna ((hr fun _ _ => answering).accounted state (mem_append_left _ hm))
    refine ⟨hready,?_⟩
    match adapters, hn with
    | [_], _ => rfl
    | first :: second :: rest, _ =>
      obtain ⟨rfl,rfl,-⟩ : first = .ok () ∧ second = .ok () ∧ True := by simp_all
      have hb := (hr fun _ visit => if visit = 0 then answering else silent).bounded
      rw [retry_doubles rfl rest (retryCount + 1) 0] at hb
      omega
  · rintro ⟨hready,hl⟩ conn passes ha
    obtain ⟨hp,hac⟩ := retry_respects hready passes (retryCount + 1) 0 ha
    exact ⟨retry_length adapters hl.le passes (retryCount + 1) 0 conn,hp,hac⟩

end Necessary

/-! ## Data configs of an accepted package -/

section Applied

variable {checks} {connection} {mappings} {package : EdgeConfigPackage} {config : DataConfig}

/-- The connections with the id of a data config. -/
def addressed (package : EdgeConfigPackage) (config : DataConfig) : List ProtocolConnection :=
  package.protocolConnections.filter fun connection =>
    connection.connectionId = config.protocolConnectionId

theorem adapters_dataConfig (hp : config.points ≠ []) :
    adapters checks package.protocolConnections (dataConfigMappings package config) =
      (addressed package config).map fun connection =>
        prepareAdapter checks connection (dataConfigMappings package config) := by
  have hm : ∀ connection : ProtocolConnection,
      mappingsForConnection (dataConfigMappings package config) connection =
        if connection.connectionId = config.protocolConnectionId then
          dataConfigMappings package config else [] := by
    intro connection
    unfold mappingsForConnection dataConfigMappings
    split
    · next he => simp [filter_eq_self,dataConfigMapping,he]
    · next he => simp [dataConfigMapping,Ne.symm he]
  have hd : dataConfigMappings package config ≠ [] := by simpa [dataConfigMappings] using hp
  have hf : (package.protocolConnections.filter fun connection =>
      mappingsForConnection (dataConfigMappings package config) connection ≠ []) =
      addressed package config :=
    filter_congr fun connection _ => by simp [hm,hd]
  rw [adapters,hf]
  refine map_congr_left fun connection hc => ?_
  rw [hm,if_pos (by simpa [addressed] using (mem_filter.mp hc).2)]

variable (applied : AppliedEdgeConfig checks.toFieldChecks)

private theorem applied_connection (h : connection ∈ applied.package.protocolConnections) :
    checks.validateConnection connection = .ok () := by
  obtain ⟨_,hc,-⟩ := bind_eq_ok.mp applied.valid
  have hv := forM_eq_ok.mp hc connection h
  unfold AppliedConfig.checkConnection at hv
  cases hk : checks.validateConnection connection with
  | error why => simp [hk] at hv
  | ok => rfl

/-- Of the connections of an accepted package only the mappings are left to refuse. -/
theorem prepareAdapter_applied (h : connection ∈ applied.package.protocolConnections) :
    prepareAdapter checks connection mappings = validateMappings checks connection mappings := by
  unfold prepareAdapter
  split
  · rw [applied_connection applied h,ok_bind]
  · next hk =>
    unfold validateMappings
    cases hp : connection.protocol <;> simp [keepsAdapter,hp] at hk ⊢

private theorem applied_config (h : config ∈ applied.package.dataConfigs) :
    config.points ≠ [] ∧ config.collection.retryCount ≤ maxDataConfigRetryCount ∧
      addressed applied.package config ≠ [] := by
  have hv := applied.valid
  simp only [AppliedConfig.validateConfigReferences,bind_eq_ok] at hv
  obtain ⟨_,-,_,-,_,-,_,hv,-⟩ := hv
  have hk := forM_eq_ok.mp hv config h
  simp only [AppliedConfig.checkDataConfig,bind_eq_ok,bailIf_eq_ok] at hk
  obtain ⟨_,-,_,hp,_,-,_,-,_,hr,_,-,_,hc,-⟩ := hk
  refine ⟨by simpa using hp,Nat.le_of_not_lt hr,?_⟩
  simpa [addressed,AppliedConfig.hasConnection] using hc

/-- The collections of a data config are in order, whatever the breaker has seen and the devices do,
exactly when one connection has its id and takes the mappings made for it. -/
theorem collection_respects_iff (h : config ∈ applied.package.dataConfigs) :
    (∀ conn passes, conn.Accounted → Respects config.collection.retryCount
      (collectWithRecovery checks applied.package config passes conn)) ↔
    (∀ connection ∈ addressed applied.package config,
      validateMappings checks connection (dataConfigMappings applied.package config) = .ok ()) ∧
    (addressed applied.package config).length = 1 := by
  obtain ⟨hp,hr,ha⟩ := applied_config applied h
  have hready : adapters checks applied.package.protocolConnections
      (dataConfigMappings applied.package config) =
        (addressed applied.package config).map fun connection =>
          validateMappings checks connection (dataConfigMappings applied.package config) := by
    rw [adapters_dataConfig hp]
    exact map_congr_left fun connection hc => prepareAdapter_applied applied (mem_filter.mp hc).1
  have hl : min (config.collection.retryCount + 1) u32Max = config.collection.retryCount + 1 := by
    unfold maxDataConfigRetryCount at hr
    unfold u32Max
    omega
  have hi := retry_respects_iff (by simpa using ha : (addressed applied.package config).map
    (fun connection => validateMappings checks connection
      (dataConfigMappings applied.package config)) ≠ []) config.collection.retryCount
  rw [forall_mem_map,length_map] at hi
  simpa only [collectWithRecovery,hready,hl] using hi

end Applied

def tankChecks : AdapterChecks :=
  { lenientChecks with
    validateBacnetPoint _ _ _ _ := .ok ()
    parseNodeId _ := .ok ()
    parseOpcUaBrowsePath _ := .ok () }

def levelAddress : Json := .object [("kind",.string "iec104_ioa"),("value",.string "1:1001")]

/-- Collected once a second, without a retry. -/
def levelConfig : DataConfig where
  configId := "telemetry"
  deviceId := "tank-1"
  protocolConnectionId := "plc"
  collection := ⟨1000,1000,0⟩
  points := [⟨"level","tank.level",levelAddress,.float,"level"⟩]
  algorithmIds := []
  visualGraph := ⟨[],[]⟩
  publish := ⟨"cloud"⟩

def tank (connections : List ProtocolConnection) : EdgeConfigPackage :=
  { EdgeConfigPackage.new "edge-1" "v1" with
    devices := [⟨"tank-1"⟩]
    protocolConnections := connections
    mqttUplinks := [.velamq "cloud" "mqtt://mqtt.local:1883" "edge-1"]
    pointMappings := [⟨"level","tank-1","tank.level","plc",levelAddress,.float,.readWrite,
      .object [("iec104",.object [("controlType",.string "C_SE_NC_1")])],none,[],none,1000⟩]
    dataConfigs := [levelConfig] }

def simulatedTank : AppliedEdgeConfig tankChecks.toFieldChecks :=
  ⟨tank [⟨"plc",.simulated,.null⟩],rfl,rfl,rfl⟩

theorem simulated_collection_respects : levelConfig ∈ simulatedTank.package.dataConfigs ∧
    ∀ conn passes, conn.Accounted →
      Respects 0 (collectWithRecovery tankChecks simulatedTank.package levelConfig passes conn) := by
  have hm : levelConfig ∈ simulatedTank.package.dataConfigs := mem_cons_self
  refine ⟨hm,(collection_respects_iff simulatedTank hm).mpr ⟨?_,rfl⟩⟩
  intro connection hc
  cases mem_singleton.mp hc
  rfl

def telecontrolledTank : AppliedEdgeConfig tankChecks.toFieldChecks :=
  ⟨tank [⟨"plc",.iec104,.null⟩],rfl,rfl,rfl⟩

def doubledTank : AppliedEdgeConfig tankChecks.toFieldChecks :=
  ⟨tank [⟨"plc",.simulated,.null⟩,⟨"plc",.modbusTcp,.null⟩],rfl,rfl,rfl⟩

/-- The package's own mapping is valid; the one the data config makes of it has lost the options of
a writable point, and the adapter refuses it. Two connections of one id are visited both. -/
theorem tank_collections_unaccounted :
    let collect (applied : AppliedEdgeConfig tankChecks.toFieldChecks) :=
      collectWithRecovery tankChecks applied.package levelConfig (fun _ _ => answering)
        (.initial ⟨true,5,30000,1⟩)
    validateMappings tankChecks ⟨"plc",.iec104,.null⟩ telecontrolledTank.package.pointMappings =
      .ok () ∧
    (collect telecontrolledTank).map (fun state =>
      (state.attempts,state.successes + state.failures + state.rejections)) = [(1,0)] ∧
    (collect doubledTank).length = levelConfig.collection.retryCount + 2 := by
  exact ⟨by decide +kernel,by decide +kernel,by decide +kernel⟩

end VelaEdge.Runtime.CollectionRetries
