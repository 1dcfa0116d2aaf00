import VelaEdge.Cloud.ReleaseHistory

/-! The cloud checks a package before it is released and the runtime checks it again before it is
applied. The two validators are compared section by section: what passes in the cloud passes in
the runtime, up to the checks that only the runtime makes. -/
namespace VelaEdge.Cloud.ReleaseAcceptance

open Base Core VelaEdge.Runtime Runtime.AppliedConfig List
open Cloud.ConfigValidator Cloud.ReleaseService

variable {checks : PackageChecks} {package : EdgeConfigPackage}

structure RuntimeOnlyPointChecks (checks : PackageChecks) (package : EdgeConfigPackage)
    (mapping : TelemetryPointMapping) : Prop where
  readTransforms :
    checks.validatePointReadTransforms mapping.readTransforms mapping.valueType = .ok ()
  iec101 : ∀ connection ∈ findConnection package mapping.protocolConnectionId,
    connection.protocol = .iec101 →
      checks.validateIec101Point mapping.address mapping.valueType mapping.access
        mapping.protocolOptions = .ok ()
  iec104 : ∀ connection ∈ findConnection package mapping.protocolConnectionId,
    connection.protocol = .iec104 →
      checks.validateIec104Point mapping.address mapping.valueType mapping.access
        mapping.protocolOptions = .ok ()

/-- What the runtime asks of a package beyond what the cloud asks. -/
structure RuntimeOnlyChecks (checks : PackageChecks) (package : EdgeConfigPackage) : Prop where
  edgeId_present : Text.isBlank package.edgeId = false
  version_present : Text.isBlank package.version = false
  points : ∀ mapping ∈ package.pointMappings, RuntimeOnlyPointChecks checks package mapping
  visualGraphs : ∀ config ∈ package.dataConfigs,
    checks.validateDataConfigVisualGraph config = .ok ()

@[simp] theorem checkConnection_iff : checkConnection checks.toFieldChecks conn = .ok () ↔
      connectionErrors checks conn = [] := by
  unfold checkConnection connectionErrors
  rw [reportError_eq_nil]
  cases checks.validateConnection conn <;> simp

theorem checkPoint_iff (h : mappingErrors checks package mapping = []) :
    checkPoint checks.toFieldChecks package mapping = .ok () ↔
      RuntimeOnlyPointChecks checks package mapping := by
  simp only [mappingErrors,append_eq_nil_iff,reportError_eq_nil,
    PackageChecks.validateModbusPointOptions,bind_eq_ok] at h
  obtain ⟨⟨⟨_,ha,-⟩,hp⟩,-⟩ := h
  cases hc : findConnection package mapping.protocolConnectionId with
  | none => simp [hc] at hp
  | some conn =>
    simp only [hc] at hp
    simp only [checkPoint,ha,hc,ok_bind,context_some,bind_eq_ok]
    constructor
    · rintro ⟨_,ht,hpo⟩
      refine ⟨ht,?_,?_⟩
      · intro found hf hk
        rw [hc,Option.mem_some_iff] at hf
        subst hf
        rwa [hk] at hpo
      · intro found hf hk
        rw [hc,Option.mem_some_iff] at hf
        subst hf
        rwa [hk] at hpo
    · intro hpo
      refine ⟨(),hpo.readTransforms,?_⟩
      -- the two PLC protocols are checked on both sides, the two IEC ones by hypothesis
      split
      · next hk =>
        rw [hk] at hp
        exact reportError_eq_nil.mp hp
      · next hk =>
        rw [hk] at hp
        exact reportError_eq_nil.mp hp
      · next hk => exact hpo.iec101 conn hc hk
      · next hk => exact hpo.iec104 conn hc hk
      · rfl

private theorem checkTaskPoint_of_cloud (h : taskPointErrors package task pid = []) :
    checkTaskPoint package task pid = .ok () := by
  unfold taskPointErrors at h
  unfold checkTaskPoint
  cases hp : findPoint package pid with
  | none => simp [hp] at h
  | some mapping =>
    simp only [hp,append_eq_nil_iff,report_eq_nil] at h
    simp only [context_some,ok_bind,bind_eq_ok,bailIf_eq_ok]
    exact ⟨(),h.1,h.2⟩

theorem checkTask_of_cloud (h : taskErrors package task = []) :
    checkTask package task = .ok () := by
  simp only [taskErrors,append_eq_nil_iff,report_eq_nil,flatMap_eq_nil_iff] at h
  obtain ⟨⟨⟨⟨ht,hd⟩,hi⟩,hp⟩,he⟩ := h
  split at hd
  · cases hd
  · rw [report_eq_nil] at hd
    simp only [checkTask,bind_eq_ok,bailIf_eq_ok,forM_eq_ok]
    exact ⟨(),ht,(),hi,(),hd,(),hp,fun pid hpi => checkTaskPoint_of_cloud (he pid hpi)⟩

/-- Both loops have taken the same JSON fields: the cloud refuses a blank one, and only such a
field would not be taken there. -/
theorem checkDataPoints_of_cloud {points : List DataConfigPoint}
    (h : dataPointsErrors package cfg taken points = []) :
    checkDataPoints package cfg taken points = .ok () := by
  induction points generalizing taken with
  | nil => rfl
  | cons point points ih =>
    rw [dataPointsErrors,append_eq_nil_iff] at h
    obtain ⟨hp,hr⟩ := h
    split at hr
    · cases hr
    · rw [append_eq_nil_iff,report_eq_nil] at hr
      obtain ⟨hfi,hpo⟩ := hr
      unfold dataPointErrors at hp
      split at hp
      · cases hp
      · cases hf : findPoint package point.pointId with
        | none => simp [hf] at hp
        | some mapping =>
          simp only [hf,append_eq_nil_iff,report_eq_nil] at hp
          obtain ⟨⟨hd,hc⟩,hre⟩ := hp
          simp only [checkDataPoints,hf,context_some,ok_bind,bind_eq_ok,bailIf_eq_ok]
          exact ⟨(),hd,(),hc,(),hre,(),hfi,ih hpo⟩

private theorem checkDataConfig_iff (h : dataConfigErrors package cfg = []) :
    checkDataConfig checks.toFieldChecks package cfg = .ok () ↔
      checks.validateDataConfigVisualGraph cfg = .ok () := by
  simp only [dataConfigErrors,append_eq_nil_iff,report_eq_nil,flatMap_eq_nil_iff] at h
  obtain ⟨⟨⟨⟨⟨⟨⟨⟨⟨hid,hd⟩,hc⟩,hs⟩,hp⟩,ht⟩,hr⟩,hpo⟩,he⟩,ha⟩ := h
  split at hd
  · cases hd
  · split at hc
    · cases hc
    · rw [report_eq_nil] at hd hc
      simp only [checkDataConfig,bind_eq_ok,bailIf_eq_ok]
      constructor
      · rintro ⟨_,-,_,-,_,-,_,-,_,-,_,-,_,-,_,-,_,-,_,-,hg⟩
        exact hg
      · intro hg
        refine ⟨(),hid,(),hpo,(),hp,(),ht,(),hr,(),hd,(),
          hc,(),hs,(),checkDataPoints_of_cloud he,(),?_,hg⟩
        exact forM_eq_ok.mpr fun algorithmId hm => bailIf_eq_ok.mpr (ha algorithmId hm)

private theorem checkCommandFlow_of_cloud (h : commandFlowErrors checks package flow = []) :
    checkCommandFlow checks.toFieldChecks package flow = .ok () := by
  simp only [commandFlowErrors,append_eq_nil_iff,report_eq_nil,reportError_eq_nil] at h
  obtain ⟨⟨hc,hs⟩,hf⟩ := h
  simp only [checkCommandFlow,bind_eq_ok,bailIf_eq_ok]
  exact ⟨(),hc,(),hs,hf⟩

private theorem validateConfigReferences_iff (h : Passes checks package) :
    validateConfigReferences checks.toFieldChecks package = .ok () ↔
      (∀ mapping ∈ package.pointMappings, RuntimeOnlyPointChecks checks package mapping) ∧
        ∀ cfg ∈ package.dataConfigs, checks.validateDataConfigVisualGraph cfg = .ok () := by
  simp only [validateConfigReferences,bind_eq_ok]
  constructor
  · rintro ⟨_,-,_,hp,_,-,_,hc,-⟩
    constructor
    · intro mapping hm
      exact (checkPoint_iff (h.mappings mapping hm)).mp (forM_eq_ok.mp hp mapping hm)
    · intro cfg hm
      exact (checkDataConfig_iff (h.dataConfigs cfg hm)).mp (forM_eq_ok.mp hc cfg hm)
  · rintro ⟨hp,hg⟩
    refine ⟨(),forM_eq_ok.mpr ?_,(),forM_eq_ok.mpr ?_,(),forM_eq_ok.mpr ?_,(),
      forM_eq_ok.mpr ?_,forM_eq_ok.mpr ?_⟩
    · intro conn hm
      exact checkConnection_iff.mpr (h.connections conn hm)
    · intro mapping hm
      exact (checkPoint_iff (h.mappings mapping hm)).mpr (hp mapping hm)
    · intro task hm
      exact checkTask_of_cloud (h.tasks task hm)
    · intro cfg hm
      exact (checkDataConfig_iff (h.dataConfigs cfg hm)).mpr (hg cfg hm)
    · intro flow hm
      exact checkCommandFlow_of_cloud (h.commandFlows flow hm)

private theorem passes_of_prepareRelease {rel : ReleaseRecord}
    (h : prepareRelease checks rid package = .ok rel) : Passes checks package := by
  unfold prepareRelease at h
  split at h
  · next hv => exact (validatePackage_eq_nil checks).mp hv
  · cases h

/-- A package the cloud is ready to release is applied by the runtime exactly when it also passes
the checks that only the runtime makes. -/
theorem released_package_applies_iff (checks : PackageChecks) (package : EdgeConfigPackage)
    (releaseId : Nat) (release : ReleaseRecord)
    (hrelease : prepareRelease checks releaseId package = .ok release) :
    (∃ applied, apply checks.toFieldChecks package = .ok applied) ↔
      RuntimeOnlyChecks checks package := by
  rw [apply_succeeds_iff,validateConfigReferences_iff (passes_of_prepareRelease hrelease)]
  constructor
  · rintro ⟨he,hv,hp,hg⟩
    exact ⟨he,hv,hp,hg⟩
  · intro h
    exact ⟨h.edgeId_present,h.version_present,h.points,h.visualGraphs⟩

/-! ## A breaker on an IEC 104 line -/

/-- The telecontrol checks as they are; the other checks accept what the breaker has. -/
def breakerChecks : PackageChecks := { ReleaseHistory.pumpChecks with
    validatePointAccess := Core.validatePointAccess
    validateIec101Point := Core.validateIec101Point
    validateIec104Point := Core.validateIec104Point
    parseIec104PointAddress := fun value => (Core.parseIec104PointAddress value).map fun _ => () }

def breakerPackage (options : Json) : EdgeConfigPackage :=
  { EdgeConfigPackage.new "substation-1" "1.0.0" with
    devices := [⟨"breaker"⟩]
    protocolConnections := [⟨"line",.iec104,.null⟩]
    pointMappings := [{
      pointId := "closed"
      deviceId := "breaker"
      semanticId := "closed"
      protocolConnectionId := "line"
      address := .object [("kind",.string "iec104_ioa"),("value",.string "1:1001")]
      valueType := .boolean
      access := .readWrite
      protocolOptions := options
      range := none
      readTransforms := [] }] }

def singleCommand : Json :=
  .object [("iec104",.object [("controlType",.string "C_SC_NA_1")])]

theorem single_command_breaker_applies :
    prepareRelease breakerChecks 1 (breakerPackage singleCommand) =
        .ok ⟨1,"substation-1","1.0.0",none,.pending⟩ ∧
      ∃ applied, apply breakerChecks.toFieldChecks (breakerPackage singleCommand) = .ok applied := by
  refine ⟨rfl,(released_package_applies_iff breakerChecks _ 1 _ rfl).mpr ⟨rfl,rfl,?_,?_⟩⟩
  · intro mapping hm
    cases mem_singleton.mp hm
    refine ⟨rfl,?_,?_⟩
    · intro conn hf hk
      cases hf
      cases hk
    · intro conn hf _
      rfl
  · intro cfg hm
    cases hm

/-- Without a control type the cloud releases the breaker and the runtime refuses it. -/
theorem breaker_without_control_type_refused :
    prepareRelease breakerChecks 1 (breakerPackage .null) =
        .ok ⟨1,"substation-1","1.0.0",none,.pending⟩ ∧
      apply breakerChecks.toFieldChecks (breakerPackage .null) =
        .error "writable IEC 104 points require a controlType" :=
  ⟨rfl,rfl⟩

end VelaEdge.Cloud.ReleaseAcceptance
