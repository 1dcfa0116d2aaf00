import VelaEdge.Runtime.MqttUplink

/-! The persistent MQTT session: which uplinks it can connect, which command topics it listens to,
and when a new configuration replaces it. -/
namespace VelaEdge.Runtime.MqttSession

open Base Core LocalDb MqttUplink Text OrderedMap

structure MqttBrokerTarget where
  host : String
  port : Nat
  tls : Bool
deriving DecidableEq

def schemeDefaults (scheme : String) : Except String (Bool × Nat) :=
  let lower := toAsciiLowercase scheme
  if lower = "mqtt" ∨ lower = "tcp" then .ok (false,1883)
  else if lower = "mqtts" ∨ lower = "ssl" then .ok (true,8883)
  else .error s!"unsupported mqtt broker scheme: {scheme}"

/-- The host and port of an authority; without both parts the whole of it is the host. -/
def splitAuthority (authority : String) (defaultPort : Nat) : Except String (String × Nat) :=
  match rsplitOnce ':' authority with
  | none => .ok (authority,defaultPort)
  | some (host,port) =>
    if host = "" ∨ port = "" then .ok (authority,defaultPort)
    else (context (parseBelow 65536 port) s!"invalid mqtt broker port: {port}").map fun port =>
      (host,port)

def parseMqttBrokerTarget (broker : String) : Except String MqttBrokerTarget := do
  let (scheme,rest) ← context (splitOnce "://" (trim broker))
    "mqtt broker must include a scheme such as mqtt:// or mqtts://"
  let (tls,defaultPort) ← schemeDefaults scheme
  let authority := ((split '/' rest).head?).getD ""
  bailIf (authority = "") "mqtt broker host is required"
  bailIf (authority.toList.contains '@') "mqtt broker credentials must be configured separately"
  let (host,port) ← splitAuthority authority defaultPort
  pure ⟨host,port,tls⟩

def checkCredentials : Option String → Option String → Except String Unit
  | none, none => .ok ()
  | some username, some passwordEnv =>
    bailIf (isBlank username || isBlank passwordEnv)
      "mqtt username and password environment reference must be configured together"
  | _, _ => .error "mqtt username and password environment reference must be configured together"

def checkLastWill : Option MqttLastWillConfig → Except String Unit
  | none => .ok ()
  | some will => do
      bailIf (isBlank will.topic) "mqtt last will topic must not be empty"
      validateQos will.qos
      bailIf (will.userProperties.any fun property => isBlank property.key)
        "mqtt last will user property key must not be empty"

def validateUplink (uplink : MqttUplinkConfig) : Except String Unit := do
  bailIf (isBlank uplink.sinkId) "mqtt uplink sink id is required"
  bailIf (isBlank uplink.broker) "mqtt uplink broker is required"
  bailIf (isBlank uplink.clientId) "mqtt uplink client id is required"
  bailIf (uplink.keepAliveSeconds < 5) "mqtt keep alive must be at least 5 seconds"
  checkCredentials uplink.username uplink.passwordEnv
  bailIf (uplink.tlsCaPath.any isBlank) "mqtt TLS CA path must not be empty"
  bailIf (uplink.receiveMaximum = some 0) "mqtt receive maximum must be greater than zero"
  bailIf (uplink.maximumPacketSizeBytes = some 0)
    "mqtt maximum packet size must be greater than zero"
  bailIf (uplink.userProperties.any fun property => isBlank property.key)
    "mqtt user property key must not be empty"
  checkLastWill uplink.lastWill
  validateQos uplink.qos

structure HostEnvironment where
  environmentVariable : String → Option String
  readFile : String → Option Bytes

variable (env : HostEnvironment)

def checkPassword : Option String → Except String Unit
  | none => .ok ()
  | some passwordEnv => (context (env.environmentVariable passwordEnv)
      s!"mqtt password environment variable is not available: {passwordEnv}").map fun _ => ()

def checkCertificate (tls : Bool) : Option String → Except String Unit
  | none => .ok ()
  | some path => do
      bailIf (tls = false) "mqtt TLS CA path requires an mqtts:// broker"
      let certificate ← context (env.readFile path) s!"read mqtt TLS CA certificate: {path}"
      bailIf (certificate = []) s!"mqtt TLS CA certificate is empty: {path}"

def validateUplinkEnvironment (uplink : MqttUplinkConfig) (tls : Bool) : Except String Unit := do
  validateUplink uplink
  checkPassword env uplink.passwordEnv
  checkCertificate env tls uplink.tlsCaPath

/-- Both protocol versions make the same checks before they open a connection. -/
def connectFromUplinkWithCommands (uplink : MqttUplinkConfig) :
    Except String RumqttcMqttPublisher := do
  validateUplink uplink
  let target ← parseMqttBrokerTarget uplink.broker
  validateUplinkEnvironment env uplink target.tls
  pure (.connected uplink)

def connectUplinks (publishers : OrderedMap String RumqttcMqttPublisher) :
    List MqttUplinkConfig → Except String (OrderedMap String RumqttcMqttPublisher)
  | [] => .ok publishers
  | uplink :: uplinks => do
      bailIf ((publishers.get uplink.sinkId).isSome) s!"duplicate mqtt sink id: {uplink.sinkId}"
      let publisher ← connectFromUplinkWithCommands env uplink
      connectUplinks (publishers.put uplink.sinkId publisher) uplinks

def connectWithSubscriptions (uplinks : List MqttUplinkConfig) :
    Except String MultiBrokerMqttPublisher := do
  bailIf (uplinks = []) "at least one mqtt uplink is required"
  let publishers ← connectUplinks env empty uplinks
  pure ⟨publishers,[]⟩

/-! Command topics. -/

structure CommandSubscription where
  flowId : String
  filter : String
  qos : Nat
deriving DecidableEq

abbrev CommandSubscriptions := OrderedMap String (List CommandSubscription)

def commandSubscription (edgeId : String) (flow : CommandFlowConfig) : CommandSubscription where
  flowId := flow.flowId
  filter := replace flow.subscribeTopic "\x7bedge_id\x7d" edgeId
  qos := flow.qos

def collectSubscriptions (package : EdgeConfigPackage) (subscriptions : CommandSubscriptions) :
    List CommandFlowConfig → Except String CommandSubscriptions
  | [] => .ok subscriptions
  | flow :: flows =>
    if !flow.enabled then collectSubscriptions package subscriptions flows
    else do
      bailIf (package.mqttUplinks.all fun uplink => uplink.sinkId ≠ flow.mqttConnectionId)
        s!"command MQTT connection not found: {flow.mqttConnectionId}"
      collectSubscriptions package (subscriptions.put flow.mqttConnectionId
        ((subscriptions.get flow.mqttConnectionId).getD [] ++
          [commandSubscription package.edgeId flow])) flows

def commandSubscriptionsBySink (package : EdgeConfigPackage) : Except String CommandSubscriptions :=
  collectSubscriptions package empty package.commandFlows

def matchLevels : List String → List String → Bool
  | [], topic => topic.isEmpty
  | level :: levels, topic =>
    if level = "#" then levels.isEmpty
    else
      match topic with
      | [] => false
      | first :: rest => (level = "+" || first = level) && matchLevels levels rest

def mqttTopicMatches (filter topic : String) : Bool :=
  if filter = "" ∨ topic = "" then false
  else if hasPrefix "$" topic ∧ (hasPrefix "#" filter ∨ hasPrefix "+" filter) then
    false
  else matchLevels (split '/' filter) (split '/' topic)

/-- Level by level; a last `#` stands for the parent level and for all levels below it. -/
inductive CoversLevels : List String → List String → Prop
  | done : CoversLevels [] []
  | deeper (names : List String) : CoversLevels ["#"] names
  | any (name : String) (h : CoversLevels levels names) :
      CoversLevels ("+" :: levels) (name :: names)
  | same (hn : name ≠ "#") (h : CoversLevels levels names) :
      CoversLevels (name :: levels) (name :: names)

/-- The relation of the MQTT specification between topic filters and topic names. -/
structure CoversTopic (filter topic : String) : Prop where
  filter_named : filter ≠ ""
  topic_named : topic ≠ ""
  reserved : hasPrefix "$" topic = true →
    hasPrefix "#" filter = false ∧ hasPrefix "+" filter = false
  levels : CoversLevels (split '/' filter) (split '/' topic)

private theorem coversLevels_of_match (h : matchLevels levels names = true) :
    CoversLevels levels names := by
  induction levels generalizing names with
  | nil =>
    rw [List.isEmpty_iff.mp h]
    exact .done
  | cons level levels ih =>
    unfold matchLevels at h
    split at h
    · next hl =>
      rw [hl,List.isEmpty_iff.mp h]
      exact .deeper names
    · next hl =>
      cases names with
      | nil => cases h
      | cons name names =>
        rw [Bool.and_eq_true,Bool.or_eq_true,decide_eq_true_eq,decide_eq_true_eq] at h
        rcases h with ⟨rfl | rfl,h⟩
        · exact .any name (ih h)
        · exact .same hl (ih h)

private theorem match_of_coversLevels (h : CoversLevels levels names) :
    matchLevels levels names = true := by
  induction h with
  | done => rfl
  | deeper names => cases names <;> rfl
  | any name _ ih => simpa [matchLevels] using ih
  | same hn _ ih => simpa [matchLevels,hn] using ih

theorem topicMatches_iff_covers (filter topic : String) :
    mqttTopicMatches filter topic = true ↔ CoversTopic filter topic := by
  unfold mqttTopicMatches
  constructor
  · intro h
    split_ifs at h with hn hr
    rw [not_or] at hn
    refine ⟨hn.1,hn.2,fun hd => ?_,coversLevels_of_match h⟩
    rw [not_and,not_or,Bool.not_eq_true,Bool.not_eq_true] at hr
    exact hr hd
  · intro h
    rw [if_neg (not_or.mpr ⟨h.filter_named,h.topic_named⟩),if_neg]
    · exact match_of_coversLevels h.levels
    · rintro ⟨hd,hs⟩
      simp [h.reserved hd] at hs

example : mqttTopicMatches "edge/+/command/#" "edge/edge-1/command" = true := by decide
example : mqttTopicMatches "edge/+/command" "edge/edge-1" = false := by decide

def routeCommandMessage (sinkId : String) (subscriptions : List CommandSubscription)
    (topic : String) (payload : Bytes) : Option MqttCommandMessage :=
  let flowIds := (subscriptions.filter fun subscription =>
    mqttTopicMatches subscription.filter topic).map fun subscription => subscription.flowId
  if flowIds = [] then none else some ⟨sinkId,topic,payload,flowIds⟩

/-! The session that outlives a configuration, or does not. -/

structure PersistentMqttPublisher where
  uplinks : List MqttUplinkConfig
  commandSubscriptions : CommandSubscriptions
  publisher : Option MultiBrokerMqttPublisher
  connectionGeneration : Nat

variable (mqtt : PersistentMqttPublisher)

namespace PersistentMqttPublisher

def new : PersistentMqttPublisher := ⟨[],empty,none,0⟩

def nextGeneration : Nat :=
  min (mqtt.connectionGeneration + 1) u64Max

/-- Without uplinks there is no session; a session for other uplinks or subscriptions is replaced
by a new one. -/
def configureWithSubscriptions (uplinks : List MqttUplinkConfig)
    (subscriptions : CommandSubscriptions) : Except String PersistentMqttPublisher :=
  if uplinks = [] then
    .ok ⟨[],empty,none,
      if mqtt.publisher.isSome then mqtt.nextGeneration else mqtt.connectionGeneration⟩
  else if mqtt.publisher.isNone ∨ mqtt.uplinks ≠ uplinks ∨
      mqtt.commandSubscriptions.entries ≠ subscriptions.entries then do
    let publisher ← connectWithSubscriptions env uplinks
    pure ⟨uplinks,subscriptions,some publisher,mqtt.nextGeneration⟩
  else .ok mqtt

def configure (uplinks : List MqttUplinkConfig) : Except String PersistentMqttPublisher :=
  mqtt.configureWithSubscriptions env uplinks empty

def configurePackage (package : EdgeConfigPackage) : Except String PersistentMqttPublisher := do
  let subscriptions ← commandSubscriptionsBySink package
  mqtt.configureWithSubscriptions env package.mqttUplinks subscriptions

def queued : List MqttCommandMessage := match mqtt.publisher with
  | some session => session.commandMessages
  | none => []

def tryRecvCommand : Option (MqttCommandMessage × PersistentMqttPublisher) :=
  match mqtt.publisher with
  | none => none
  | some session =>
    match session.commandMessages with
    | [] => none
    | message :: rest =>
      some (message,{ mqtt with publisher := some { session with commandMessages := rest } })

def receive (sinkId topic : String) (payload : Bytes) :
    Option (MqttCommandMessage × PersistentMqttPublisher) :=
  match mqtt.publisher with
  | none => none
  | some session =>
    if (session.publishers.get sinkId).isNone then none
    else (routeCommandMessage sinkId ((mqtt.commandSubscriptions.get sinkId).getD []) topic
      payload).map fun message => (message,{ mqtt with publisher := some { session with
        commandMessages := session.commandMessages ++ [message] } })

end PersistentMqttPublisher

end VelaEdge.Runtime.MqttSession
