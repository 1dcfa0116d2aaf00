import VelaEdge.Cloud.CommandCandidate
import VelaEdge.Cloud.Release

/-! A new product version that an agent drafted: the states its change set goes through, and the
checks of a version before it is stored. -/
namespace VelaEdge.Cloud

open Base Core VelaEdge.Runtime ReleaseService Text

def validateCatalogId (label value : String) : Except ApiError Unit := do
  bailIf (isBlank value) ⟨.badRequest,s!"{label} is required"⟩
  bailIf (!(trim value).toList.all fun c =>
      c.isAlphanum || c = '-' || c = '_' || c = '.')
    ⟨.badRequest,s!"{label} contains unsupported characters"⟩

abbrev VersionChecks := CloudControlStore → Product → ProductVersion → Except ApiError Unit

def validateProductVersionRequest (versionChecks : VersionChecks) (store : CloudControlStore)
    (productId : String) (request : ProductVersion) (updating : Bool) : Except ApiError Unit := do
  validateCatalogId "productId" productId
  validateCatalogId "version" request.version
  let product ← context (store.product productId) ⟨.notFound,"missing product"⟩
  bailIf (!updating ∧ (store.productVersion productId request.version).isSome)
    ⟨.conflict,"product version already exists"⟩
  versionChecks store product request

/-- The version a request asks for; it is a draft whatever the request says. -/
def buildProductVersion (productId : String) (request : ProductVersion) : ProductVersion :=
  { request with productId := productId, status := .draft }

inductive AgentResourceKind where
  | project
  | product
  | productVersion
  | pointSet
  | protocolConnection
  | collectionFlow
  | commandFlow
  | mqttSink
  | edgeBinding
deriving DecidableEq

inductive AgentChangeOperationKind where
  | create
  | update
  | delete
deriving DecidableEq

inductive AgentChangeSetStatus where
  | draft
  | awaitingConfirmation
  | confirmed
  | applying
  | applied
  | rejected
  | failed
deriving DecidableEq

inductive AgentChangeSetError where
  | emptyChangeSet
  | invalidOperation (operationId : String)
  | validationRequired
  | humanConfirmationRequired
  | reviewNoteRequired
  | invalidTransition (source : AgentChangeSetStatus) (action : String)
deriving DecidableEq

structure AgentChangeOperation where
  operationId : String
  kind : AgentChangeOperationKind
  resourceKind : AgentResourceKind
  resourceId : String
  before : Option Json
  after : Option Json

def AgentChangeOperation.validateShape (operation : AgentChangeOperation) :
    Except AgentChangeSetError Unit :=
  let valid := match operation.kind with
    | .create => operation.before.isNone && operation.after.isSome
    | .update => operation.before.isSome && operation.after.isSome
    | .delete => operation.before.isSome && operation.after.isNone
  bailIf (!valid || isBlank operation.resourceId) (.invalidOperation operation.operationId)

structure AgentChangeTarget where
  projectId : String
  productId : Option String
  productVersion : Option String
  edgeIds : List String
deriving DecidableEq

structure ChangeSetReport extends AgentValidationReport where
  affectedEdges : List String
deriving DecidableEq

structure AgentChangeSet where
  changeSetId : String
  target : AgentChangeTarget
  baseRevision : String
  operations : List AgentChangeOperation
  risk : AgentRiskLevel
  status : AgentChangeSetStatus
  validation : Option ChangeSetReport
  confirmation : Option AgentConfirmationEvidence
  result : Option Json

namespace AgentChangeSet

def new (changeSetId : String) (target : AgentChangeTarget) (baseRevision : String)
    (operations : List AgentChangeOperation) (risk : AgentRiskLevel) :
    Except AgentChangeSetError AgentChangeSet := do
  bailIf operations.isEmpty .emptyChangeSet
  operations.forM AgentChangeOperation.validateShape
  pure {
    changeSetId := changeSetId
    target := target
    baseRevision := baseRevision
    operations := operations
    risk := risk
    status := .draft
    validation := none
    confirmation := none
    result := none }

variable (changeSet : AgentChangeSet)

def isClosed : Bool :=
  changeSet.status ∈ [.applying,.applied,.rejected,.failed]

def recordValidation (report : ChangeSetReport) : Except AgentChangeSetError AgentChangeSet := do
  bailIf changeSet.isClosed (.invalidTransition changeSet.status "record_validation")
  pure { changeSet with
    status := if report.valid then .awaitingConfirmation else .draft
    validation := some report
    confirmation := none }

def confirm (changeSet : AgentChangeSet) (evidence : AgentConfirmationEvidence) :
    Except AgentChangeSetError AgentChangeSet := do
  bailIf (changeSet.status ≠ .awaitingConfirmation)
    (.invalidTransition changeSet.status "confirm")
  bailIf (!changeSet.validation.any fun report => report.valid) .validationRequired
  bailIf (!evidence.isHuman) .humanConfirmationRequired
  -- only the higher risks need a note here, and none needs a second person
  bailIf (changeSet.risk ∈ [.high,.critical] ∧ isBlank (evidence.note.getD ""))
    .reviewNoteRequired
  pure { changeSet with confirmation := some evidence, status := .confirmed }

def startApply : Except AgentChangeSetError AgentChangeSet := do
  bailIf (changeSet.status ≠ .confirmed) (.invalidTransition changeSet.status "start_apply")
  pure { changeSet with status := .applying }

def reject (ext : Externals) (changeSet : AgentChangeSet) (rejectedBy note : String) (now : Time) :
    Except AgentChangeSetError AgentChangeSet := do
  bailIf changeSet.isClosed (.invalidTransition changeSet.status "reject")
  bailIf (isBlank rejectedBy || hasPrefix "agent:" rejectedBy ||
      hasPrefix "model:" rejectedBy) .humanConfirmationRequired
  bailIf (isBlank note) .reviewNoteRequired
  pure { changeSet with
    status := .rejected
    confirmation := none
    result := some (.object [("note",.string note),("rejectedAt",.string (ext.renderTime now)),
      ("rejectedBy",.string rejectedBy)]) }

def finishApply (status : AgentChangeSetStatus) (result : Json) :
    Except AgentChangeSetError AgentChangeSet := do
  bailIf (changeSet.status ≠ .applying) (.invalidTransition changeSet.status "finish_apply")
  pure { changeSet with status := status, result := some result }

def markApplied (result : Json) : Except AgentChangeSetError AgentChangeSet :=
  changeSet.finishApply .applied result

def markFailed (result : Json) : Except AgentChangeSetError AgentChangeSet :=
  changeSet.finishApply .failed result

end AgentChangeSet

def AgentChangeSetStatus.name : AgentChangeSetStatus → String
  | .draft => "Draft"
  | .awaitingConfirmation => "AwaitingConfirmation"
  | .confirmed => "Confirmed"
  | .applying => "Applying"
  | .applied => "Applied"
  | .rejected => "Rejected"
  | .failed => "Failed"

def AgentChangeSetError.message : AgentChangeSetError → String
  | .emptyChangeSet => "change set must contain at least one operation"
  | .invalidOperation operationId =>
    s!"change operation `{operationId}` does not match its operation kind"
  | .validationRequired => "change set validation must pass before confirmation"
  | .humanConfirmationRequired =>
    "change set confirmation must be provided by a human operator"
  | .reviewNoteRequired => "high-risk and critical change sets require a reviewer note"
  | .invalidTransition source action =>
    s!"cannot perform `{action}` while change set is in `{source.name}` state"

def agentChangeSetError (cause : AgentChangeSetError) : ApiError := let status := match cause with
    | .invalidTransition _ _ | .validationRequired => .conflict
    | .emptyChangeSet | .invalidOperation _ | .humanConfirmationRequired
    | .reviewNoteRequired => .badRequest
  ⟨status,cause.message⟩

def StatusCode.asU16 : StatusCode → Nat
  | .badRequest => 400
  | .notFound => 404
  | .conflict => 409
  | .unprocessableEntity => 422
  | .internalServerError => 500

/-- What the handling of a version rests on: the checks of packages and of versions, and how the
document of a version is read. -/
structure VersionRules where
  checks : PackageChecks
  versionChecks : VersionChecks
  decodeVersion : Json → Except String ProductVersion

variable (rules : VersionRules)

def productVersionFromChangeSet (changeSet : AgentChangeSet) : Except String ProductVersion := do
  let operation ← match changeSet.operations with
    | [operation] => .ok operation
    | _ => .error "only one product version operation is supported per ChangeSet"
  operation.validateShape.mapError AgentChangeSetError.message
  bailIf (operation.resourceKind ≠ .productVersion)
    "ChangeSet operation must target a product version"
  bailIf (operation.kind = .delete)
    "product version deletion is not supported by Agent ChangeSets"
  let after ← context operation.after "ChangeSet operation omitted target product version"
  let version ← (rules.decodeVersion after).mapError fun cause =>
    s!"invalid target product version: {cause}"
  let productId ← context changeSet.target.productId "ChangeSet target productId is required"
  let targetVersion ← context changeSet.target.productVersion
    "ChangeSet target productVersion is required"
  bailIf (version.productId ≠ productId ∨ version.version ≠ targetVersion)
    "ChangeSet operation does not match its product target"
  bailIf (operation.resourceId ≠ s!"{productId}:{targetVersion}")
    "ChangeSet operation resourceId does not match its product target"
  pure { version with status := .draft }

def requestIssues (code path : String) : Except ApiError Unit → List AgentValidationIssue
  | .ok () => []
  | .error cause => [⟨.error,s!"{code}_{cause.status.asU16}",path,cause.message⟩]

variable (store : CloudControlStore)

def edgeIssues (version : ProductVersion) (edgeId : String) : List AgentValidationIssue :=
  let path := s!"target.edgeIds.{edgeId}"
  match materializeProductConfigPackage store edgeId version with
  | .error cause =>
    [⟨.error,s!"package_validation_{cause.status.asU16}",path,cause.message⟩]
  | .ok package =>
    (ConfigValidator.validatePackage rules.checks package).map fun cause =>
      ⟨.error,"release_preflight_failed",path,cause.message⟩

def productIssues (changeSet : AgentChangeSet) (version : ProductVersion) (product : Product)
    (currentEdges : List String) : List AgentValidationIssue :=
  let expectedBase := product.latestVersion.getD "none"
  let issues :=
    (if product.projectId ≠ changeSet.target.projectId then
      [⟨.error,"project_scope_mismatch","target.projectId",
        "product is outside the ChangeSet project scope"⟩] else []) ++
    (if changeSet.baseRevision ≠ expectedBase then
      [⟨.error,"stale_base_revision","baseRevision",
        s!"ChangeSet base `{changeSet.baseRevision}` does not match active product version `{
          expectedBase}`"⟩] else []) ++
    (if currentEdges ≠ changeSet.target.edgeIds then
      [⟨.warning,"edge_binding_changed","target.edgeIds",
        "product edge bindings changed after this ChangeSet was drafted"⟩] else []) ++
    requestIssues "product_validation" "operations[0].after"
      (validateProductVersionRequest rules.versionChecks store version.productId version false) ++
    requestIssues "publish_validation" "operations[0].after"
      (validatePublishableProductVersion version)
  if issues.any fun issue => issue.severity = .error then issues
  else issues ++ currentEdges.flatMap (edgeIssues rules store version)

def validateAgentChangeSetCandidate (changeSet : AgentChangeSet) : ChangeSetReport :=
  match productVersionFromChangeSet rules changeSet with
  | .error message =>
    ⟨.new [⟨.error,"invalid_change_set","operations",message⟩],[]⟩
  | .ok version =>
    match store.product version.productId with
    | none =>
      ⟨.new [⟨.error,"missing_product","target.productId",
        s!"product `{version.productId}` does not exist"⟩],[]⟩
    | some product =>
      let currentEdges := (rolloutEdges store version.productId).map EdgeNode.edgeId
      ⟨.new (productIssues rules store changeSet version product currentEdges),currentEdges⟩

def appliedResult (ext : Externals) (version : ProductVersion) (report : Option ChangeSetReport)
    (actor : String) (now : Time) : Json :=
  .object [("affectedEdges",.array (((report.map ChangeSetReport.affectedEdges).getD []).map
      .string)),
    ("appliedAt",.string (ext.renderTime now)),("appliedBy",.string actor),
    ("productId",.string version.productId),("productVersion",.string version.version),
    ("runtimeSync",.string "notified")]

end VelaEdge.Cloud
