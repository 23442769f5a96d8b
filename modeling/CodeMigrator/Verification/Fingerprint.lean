import CodeMigrator.Lib.JsonShapes
import CodeMigrator.Lib.KeyedSort
import CodeMigrator.Verification.Checks

/-!
# Verification fingerprints

`verification/fingerprint.py`: the semantic document of a check result, the fingerprint of a list
of results, and the comparison of the results of two layers on one commit. The keys of a document
stand in order here, which neither the equality of dictionaries nor the encoder looks at. The
encoder `dumps` and the digest are parameters; the encoder refuses a document with `none`.
-/

namespace CodeMigrator
open Lib

/-- `_target_semantics`. -/
def targetSemantics : DiagnosticTarget → Json
  | .fileLine path line =>
    .obj [("file_path", .str path.text), ("kind", .str "FILE_LINE"), ("line", .int line)]
  | .testIdentity name => .obj [("kind", .str "TEST_IDENTITY"), ("test_name", .str name)]
  | .unknown => .obj [("kind", .str "UNKNOWN")]

/-- The document of a diagnostic. -/
def diagnosticSemantics (diagnostic : DiagnosticMapping) : Json :=
  .obj [("code", .str diagnostic.code), ("message_hash", .str diagnostic.messageHash),
    ("severity", .str diagnostic.severity.value), ("target", targetSemantics diagnostic.target)]

/-- The document of a result with its sorted diagnostics. -/
def resultSemantics (result : ResultEvidence) (diagnostics : List Json) : Json :=
  .obj ([("check_id", .str result.checkId.str), ("diagnostics", .arr diagnostics)] ++
    (result.disposition.map fun disposition => ("disposition", Json.str disposition)).toList ++
    [("invocation_hash", .str result.unwrap.invocationHash),
      ("status", .str result.unwrap.status.value)])

/-- `StabilityComparison`. -/
structure StabilityComparison where
  nondeterministic : Bool
  reason : Option String
  comparedCheckIds : List String
  deriving DecidableEq

section Encoder

variable {β δ : Type} [LinearOrder β] [DecidableEq δ] (dumps : Json → Option β) (sha256 : β → δ)

/-- `canonical_json_bytes` on a document. -/
def canonicalJsonBytes (document : Json) : Except String β :=
  match dumps document with
  | none => .error "value is not canonicalizable JSON"
  | some bytes => .ok bytes

/-- `diagnostics` of `semantic_check_result`. -/
def semanticDiagnostics (diagnostics : List DiagnosticMapping) : Except String (List Json) := do
  let keyed ← (diagnostics.map diagnosticSemantics).mapM fun item =>
    (canonicalJsonBytes dumps item).map fun bytes => (bytes, item)
  return sortKeyed keyed

/-- `semantic_check_result`. -/
def semanticCheckResult (result : ResultEvidence) : Except String Json :=
  (semanticDiagnostics dumps result.unwrap.diagnostics).map (resultSemantics result)

/-- The document of which the fingerprint is the digest. -/
def fingerprintPayload (testedCommitOid frozenRequiredChecksSha256 : String)
    (semanticResults : List Json) : Json :=
  .obj [("frozen_required_checks_sha256", .str frozenRequiredChecksSha256),
    ("semantic_results", .arr semanticResults), ("tested_commit_oid", .str testedCommitOid)]

/-- `verification_fingerprint`. -/
def verificationFingerprint (testedCommitOid frozenRequiredChecksSha256 : String)
    (results : List ResultEvidence) : Except String δ :=
  if ¬ (results.map (·.checkId)).Nodup then
    .error "duplicate CheckId blocks verification fingerprinting"
  else do
    let keyed ← results.mapM fun result =>
      (semanticCheckResult dumps result).map fun document => (result.checkId.value.val, document)
    let bytes ← canonicalJsonBytes dumps
      (fingerprintPayload testedCommitOid frozenRequiredChecksSha256 (sortKeyed keyed))
    return sha256 bytes

/-- `shared`: the ids that both lists have, in the order of their texts. -/
def sharedIds (finalChecks prospectiveChecks : List ResultEvidence) : List UUID :=
  ((finalChecks.map (·.checkId)).filter
    (· ∈ prospectiveChecks.map (·.checkId))).insertionSort (fun left right => left.value ≤ right.value)

/-- The comparison of the shared results one by one, until two differ. -/
def anyDifferent (finalChecks prospectiveChecks : List ResultEvidence) :
    List UUID → Except String Bool
  | [] => .ok false
  | id :: ids =>
    match finalChecks.find? (·.checkId = id), prospectiveChecks.find? (·.checkId = id) with
    | some final, some prospective => do
        let left ← semanticCheckResult dumps final
        let right ← semanticCheckResult dumps prospective
        if left ≠ right then return true else anyDifferent finalChecks prospectiveChecks ids
    | _, _ => anyDifferent finalChecks prospectiveChecks ids

/-- `drifted`: by the fingerprints where the frozen checks are equal, and one by one otherwise. -/
def stabilityDrifted (testedCommitOid : String) (finalChecks : List ResultEvidence)
    (finalFrozenHash : String) (prospectiveChecks : List ResultEvidence)
    (prospectiveFrozenHash prospectiveTestedCommitOid : String) : Except String Bool :=
  if finalFrozenHash = prospectiveFrozenHash then do
    let finalFp ← verificationFingerprint dumps sha256 testedCommitOid finalFrozenHash finalChecks
    let prospectiveFp ← verificationFingerprint dumps sha256 prospectiveTestedCommitOid
      prospectiveFrozenHash prospectiveChecks
    return decide (finalFp ≠ prospectiveFp)
  else anyDifferent dumps finalChecks prospectiveChecks (sharedIds finalChecks prospectiveChecks)

/-- `compare_stability`. -/
def compareStability (testedCommitOid : String) (finalChecks : List ResultEvidence)
    (finalFrozenHash : String) (prospectiveChecks : List ResultEvidence)
    (prospectiveFrozenHash prospectiveTestedCommitOid : String) :
    Except String StabilityComparison :=
  if ¬ (finalChecks.map (·.checkId)).Nodup then
    .error "duplicate CheckId blocks Final stability comparison"
  else if ¬ (prospectiveChecks.map (·.checkId)).Nodup then
    .error "duplicate CheckId blocks Prospective stability comparison"
  else if testedCommitOid ≠ prospectiveTestedCommitOid then .ok ⟨false, none, []⟩
  else if sharedIds finalChecks prospectiveChecks = [] then .ok ⟨false, none, []⟩
  else
    (stabilityDrifted dumps sha256 testedCommitOid finalChecks finalFrozenHash prospectiveChecks
      prospectiveFrozenHash prospectiveTestedCommitOid).map fun drifted =>
        { nondeterministic := drifted
          reason := if drifted then some FailureReason.nondeterministicVerification.value else none
          comparedCheckIds := (sharedIds finalChecks prospectiveChecks).map (·.str) }

end Encoder

end CodeMigrator
