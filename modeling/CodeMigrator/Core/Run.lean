import CodeMigrator.Core.Enums
import CodeMigrator.Core.Ids
import CodeMigrator.Lib.Json

/-!
# Run contracts

`core/models/run.py`, the subjects and the integration intent of
`core/models/verification.py`, `ActiveDispatch` (`core/models/slice.py`), `Advice`
(`core/models/advice.py`), and the checkpoint receipt of `workspace/checkpoint.py`.
-/

namespace CodeMigrator
open Lib

/-! ## Creation -/

/-- `validate_branch_prefix` (`core/paths.py`). -/
def isBranchPrefix (value : String) : Bool :=
  let chars := value.toList
  value != "" && chars.all (fun c => c.toNat < 128) && chars.length ≤ 32 &&
    !(startsWith value "/" || endsWith value "/" || decide (List.IsInfix "//".toList chars)) &&
    !(split value '/').any (fun segment => [".", "..", ".git"].contains segment) &&
    chars.all (fun c => c.isLower || c.isDigit || c == '-' || c == '/')

structure BranchPrefix where
  text : String
  safe : isBranchPrefix text = true
  deriving DecidableEq

/-- `ArtifactRef` (`core/models/common.py`). -/
structure ArtifactRef where
  sha256 : String
  size : Int
  mediaType : String
  deriving DecidableEq

/-- `FrozenArtifactBundle`. -/
structure FrozenArtifactBundle where
  spec : ArtifactRef
  understandingDossier : ArtifactRef
  targetProjectBlueprint : ArtifactRef
  migrationRulebook : ArtifactRef
  deriving DecidableEq

/-- `CreateRunSource`: a `RemoteRepository` or a `RegisteredProject`. -/
inductive CreateRunSource where
  | remoteRepository (repositoryUrl baseRef : String)
  | registeredProject (projectId snapshotId : UUID)
  deriving DecidableEq

/-- `CreateRun`. -/
structure CreateRun where
  source : CreateRunSource
  branchPrefix : BranchPrefix
  frozenArtifacts : FrozenArtifactBundle
  deriving DecidableEq

/-! ## Dispatches -/

/-- `ExecutionSubject`: a `LocalCandidate`, `ProspectiveIntegration` or
`FinalVerified`. -/
inductive ExecutionSubject where
  | localCandidate (sliceId : SliceId) (generation : CandidateGeneration)
      (candidateCommitOid : String)
  | prospectiveIntegration (sliceId : SliceId) (generation : CandidateGeneration)
      (expectedVerifiedOid prospectiveCommitOid : String)
  | finalVerified (verifiedCommitOid : String)
  deriving DecidableEq

/-- `_subject_commit_oid`. -/
def ExecutionSubject.commitOid : ExecutionSubject → String
  | localCandidate _ _ candidateCommitOid => candidateCommitOid
  | prospectiveIntegration _ _ _ prospectiveCommitOid => prospectiveCommitOid
  | finalVerified verifiedCommitOid => verifiedCommitOid

/-- `ActiveDispatch`. -/
structure ActiveDispatch where
  dispatchAttemptId : UUID
  subject : ExecutionSubject
  checkId : UUID
  testedCommitOid : String
  testedCommitMatchesSubject : testedCommitOid = subject.commitOid
  deriving DecidableEq

/-- `IntegrationIntent`. -/
structure IntegrationIntent where
  runId : RunId
  sliceId : SliceId
  generation : CandidateGeneration
  expectedVerifiedOid : String
  prospectiveCommitOid : String
  guardSha256 : String
  verificationFingerprint : String
  idempotencyKey : String
  deriving DecidableEq

/-! ## Advice -/

/-- `Advice`; its payload is an open JSON object. -/
structure Advice where
  adviceId : UUID
  kind : AdviceKind
  runId : RunId
  role : ResidentRole
  payload : List (String × Json)
  proposalHash : String
  deriving DecidableEq

/-! ## Checkpoints -/

/-- `SliceCandidate` (`core/models/slice.py`). -/
structure SliceCandidate where
  runId : RunId
  sliceId : SliceId
  generation : CandidateGeneration
  baseVerifiedOid : String
  candidateCommitOid : String
  deriving DecidableEq

/-- `CheckpointManifest`. -/
structure CheckpointManifest where
  sliceCandidate : SliceCandidate
  fileCount : Nat
  totalBytes : Nat
  fileSetDigest : Sha256
  scopeCheckPassed : Bool
  deriving DecidableEq

/-- `CheckpointReceipt`. -/
structure CheckpointReceipt where
  runId : RunId
  sliceId : SliceId
  generation : CandidateGeneration
  expectedCandidateOid : String
  newCandidateOid : String
  manifest : CheckpointManifest
  idempotencyKey : Sha256
  deriving DecidableEq

/-- `CasObject` (`runtime/cas.py`). -/
structure CasObject where
  digest : Sha256
  size : Nat
  deriving DecidableEq

end CodeMigrator
