import VelaEdge.Runtime.Command

/-! A device command that an agent drafted: what it asks for, and the states it goes through
from the draft to its dispatch. -/
namespace VelaEdge.Cloud

open Base Core VelaEdge.Runtime Text

inductive AgentRiskLevel where
  | low
  | medium
  | high
  | critical
deriving DecidableEq

structure AgentCommandTarget where
  projectId : String
  edgeId : String
  productId : Option String
  productVersion : Option String
  flowId : String
  protocolConnectionId : String
  deviceId : String
  pointId : String
deriving DecidableEq

inductive AgentCommandCandidateStatus where
  | draft
  | awaitingConfirmation
  | confirmed
  | dispatching
  | dispatched
  | rejected
  | failed
deriving DecidableEq

inductive AgentCommandCandidateError where
  | missingTargetField (field : String)
  | idempotencyKeyRequired
  | validationRequired
  | humanConfirmationRequired
  | reviewNoteRequired
  | twoPersonConfirmationRequired
  | invalidTransition (source : AgentCommandCandidateStatus) (action : String)
deriving DecidableEq

def AgentCommandTarget.validate (target : AgentCommandTarget) :
    Except AgentCommandCandidateError Unit :=
  [("projectId",target.projectId),("edgeId",target.edgeId),("flowId",target.flowId),
    ("protocolConnectionId",target.protocolConnectionId),("deviceId",target.deviceId),
    ("pointId",target.pointId)].forM fun (field,value) =>
      bailIf (isBlank value) (.missingTargetField field)

inductive AgentValidationSeverity where
  | info
  | warning
  | error
deriving DecidableEq

structure AgentValidationIssue where
  severity : AgentValidationSeverity
  code : String
  path : String
  message : String
deriving DecidableEq

structure AgentValidationReport where
  valid : Bool
  issues : List AgentValidationIssue
deriving DecidableEq

def AgentValidationReport.new (issues : List AgentValidationIssue) : AgentValidationReport where
  valid := !issues.any fun issue => issue.severity = .error
  issues := issues

structure AgentConfirmationEvidence where
  confirmedBy : String
  coApprover : Option String
  note : Option String
  confirmedAt : Time
deriving DecidableEq

def isHuman (actor : String) : Bool :=
  actor ≠ "" && !hasPrefix "agent:" actor && !hasPrefix "model:" actor

namespace AgentConfirmationEvidence

def isHuman (evidence : AgentConfirmationEvidence) : Bool :=
  Cloud.isHuman (trim evidence.confirmedBy)

def distinctApprovers (evidence : AgentConfirmationEvidence) : Nat :=
  let approvers := ((evidence.confirmedBy :: evidence.coApprover.toList).map trim).filter
    Cloud.isHuman
  approvers.eraseDups.length

end AgentConfirmationEvidence

structure AgentCommandCandidate where
  candidateId : String
  target : AgentCommandTarget
  value : Json
  idempotencyKey : String
  risk : AgentRiskLevel
  status : AgentCommandCandidateStatus
  validation : Option AgentValidationReport
  confirmation : Option AgentConfirmationEvidence
  result : Option Json
deriving DecidableEq

variable (candidate : AgentCommandCandidate)

namespace AgentCommandCandidate

def drafted (candidateId : String) (target : AgentCommandTarget) (value : Json)
    (idempotencyKey : String) (risk : AgentRiskLevel) : AgentCommandCandidate where
  candidateId := candidateId
  target := target
  value := value
  idempotencyKey := idempotencyKey
  risk := risk
  status := .draft
  validation := none
  confirmation := none
  result := none

def new (candidateId : String) (target : AgentCommandTarget) (value : Json)
    (idempotencyKey : String) (risk : AgentRiskLevel) :
    Except AgentCommandCandidateError AgentCommandCandidate := do
  target.validate
  bailIf (isBlank idempotencyKey) .idempotencyKeyRequired
  pure (drafted candidateId target value idempotencyKey risk)

def isClosed : Bool :=
  candidate.status ∈ [.dispatching,.dispatched,.rejected,.failed]

/-- The candidate with a new validation report: an earlier confirmation no longer counts. -/
def validated (report : AgentValidationReport) : AgentCommandCandidate :=
  { candidate with
    status := if report.valid then .awaitingConfirmation else .draft
    validation := some report
    confirmation := none }

def recordValidation (report : AgentValidationReport) :
    Except AgentCommandCandidateError AgentCommandCandidate := do
  bailIf candidate.isClosed (.invalidTransition candidate.status "record_validation")
  pure (candidate.validated report)

def confirm (candidate : AgentCommandCandidate) (evidence : AgentConfirmationEvidence) :
    Except AgentCommandCandidateError AgentCommandCandidate := do
  bailIf (candidate.status ≠ .awaitingConfirmation)
    (.invalidTransition candidate.status "confirm")
  bailIf (!candidate.validation.any AgentValidationReport.valid) .validationRequired
  bailIf (!evidence.isHuman) .humanConfirmationRequired
  bailIf (isBlank (evidence.note.getD "")) .reviewNoteRequired
  bailIf (candidate.risk = .critical ∧ evidence.distinctApprovers < 2)
    .twoPersonConfirmationRequired
  pure { candidate with confirmation := some evidence, status := .confirmed }

def reject (ext : Externals) (candidate : AgentCommandCandidate) (rejectedBy note : String)
    (now : Time) : Except AgentCommandCandidateError AgentCommandCandidate := do
  bailIf candidate.isClosed (.invalidTransition candidate.status "reject")
  -- unlike a confirmation, the rejection looks for the markers without trimming the name
  bailIf (isBlank rejectedBy || hasPrefix "agent:" rejectedBy ||
      hasPrefix "model:" rejectedBy) .humanConfirmationRequired
  bailIf (isBlank note) .reviewNoteRequired
  pure { candidate with
    status := .rejected
    confirmation := none
    result := some (.object [("note",.string note),("rejectedAt",.string (ext.renderTime now)),
      ("rejectedBy",.string rejectedBy)]) }

def startDispatch : Except AgentCommandCandidateError AgentCommandCandidate := do
  bailIf (candidate.status ≠ .confirmed) (.invalidTransition candidate.status "start_dispatch")
  pure { candidate with status := .dispatching }

def finishDispatch (status : AgentCommandCandidateStatus) (result : Json) :
    Except AgentCommandCandidateError AgentCommandCandidate := do
  bailIf (candidate.status ≠ .dispatching) (.invalidTransition candidate.status "finish_dispatch")
  pure { candidate with status := status, result := some result }

def markDispatched (result : Json) : Except AgentCommandCandidateError AgentCommandCandidate :=
  candidate.finishDispatch .dispatched result

def markFailed (result : Json) : Except AgentCommandCandidateError AgentCommandCandidate :=
  candidate.finishDispatch .failed result

end AgentCommandCandidate

end VelaEdge.Cloud
