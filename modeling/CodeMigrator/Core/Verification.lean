import CodeMigrator.Core.Paths
import CodeMigrator.Lib.Json

/-!
# Verification results

`core/models/verification.py` with the enumerations it uses: the result of a check and the
diagnostics that were read from its output. Texts that no validator of the source constrains,
such as digests and codes, are texts here.
-/

namespace CodeMigrator
open Lib

/-- `CheckStatus`. -/
inductive CheckStatus where
  | passed | failed | timedOut | outputLimitExceeded | infrastructureError
  deriving DecidableEq, Repr

def CheckStatus.value : CheckStatus → String
  | passed => "PASSED"
  | failed => "FAILED"
  | timedOut => "TIMED_OUT"
  | outputLimitExceeded => "OUTPUT_LIMIT_EXCEEDED"
  | infrastructureError => "INFRASTRUCTURE_ERROR"

/-- `DiagnosticSeverity`. -/
inductive DiagnosticSeverity where
  | error | warning
  deriving DecidableEq, Repr

def DiagnosticSeverity.value : DiagnosticSeverity → String
  | error => "Error"
  | warning => "Warning"

/-- `AttributionReliability`. -/
inductive AttributionReliability where
  | reliable | uncertain | dynamic
  deriving DecidableEq, Repr

/-- `DiagnosticTarget`: `FileLine`, `TestIdentity` or `Unknown`. -/
inductive DiagnosticTarget where
  | fileLine (filePath : RepoRelativePath) (line : Int)
  | testIdentity (testName : String)
  | unknown
  deriving DecidableEq

/-- `DiagnosticMapping`. -/
structure DiagnosticMapping where
  severity : DiagnosticSeverity
  target : DiagnosticTarget
  code : String
  messageHash : String
  deriving DecidableEq

/-- An Error diagnostic whose target is unknown. -/
def DiagnosticMapping.isUnknownError (diagnostic : DiagnosticMapping) : Bool :=
  diagnostic.severity == .error && diagnostic.target == .unknown

/-- `CheckResult`. -/
structure CheckResult where
  checkId : UUID
  invocationHash : String
  status : CheckStatus
  diagnostics : List DiagnosticMapping
  deriving DecidableEq

/-- `RepairEvidence`. -/
structure RepairEvidence where
  candidateSliceSet : List SliceId
  reliability : AttributionReliability
  strongCoupling : Bool
  crossGenerationRecurrence : Bool
  conservationSignalSummary : List (String × Json)
  deriving DecidableEq

/-- `DerivedVerificationGuard`. -/
structure DerivedVerificationGuard where
  allRequiredChecksPassed : Bool
  errorUnknownCount : Nat
  deriving DecidableEq

end CodeMigrator
