import CodeMigrator.Core.Run

/-!
# Advice adoption

`evaluate_advice` of `runtime/advice.py` and the recovery plan of
`runtime/recovery.py`, the two decisions that the Run actor takes from outside its
own state.
-/

namespace CodeMigrator
open Lib

/-- `AdviceDisposition`. -/
inductive AdviceDisposition where
  | autoAdopted | confirmationRequired | discarded
  deriving DecidableEq, Repr

/-- `AdviceValidationContext`. -/
structure AdviceValidationContext where
  expectedSubjects : List String
  attributionCandidates : List UUID
  jointDomainMembers : List UUID
  maxFanout : Nat
  maxFanoutIsPositive : 1 ≤ maxFanout

/-- The context of an actor that is given none. -/
def AdviceValidationContext.default : AdviceValidationContext := ⟨[], [], [], 3, by decide⟩

/-- `AdviceValidationResult`. -/
structure AdviceValidationResult where
  disposition : AdviceDisposition
  reason : String
  proposalHash : String
  deriving DecidableEq

section Evaluate

variable (repr : Json → String)

/-- `_uuid_set`; `none` is a value that is no list of UUIDs. -/
def uuidSet (value : Option Json) : Option (List UUID) :=
  match value with
  | some (.arr items) => items.mapM (fun item => UUID.parse (item.text repr))
  | _ => none

/-- `_validate_explore`; `none` means that nothing is wrong. -/
def validateExplore (advice : Advice) (context : AdviceValidationContext) : Option String :=
  match Json.field? advice.payload "assignments" with
  | some (.obj assignments) =>
    let subjects := assignments.map Prod.fst
    let targets := assignments.map Prod.snd
    if context.expectedSubjects = [] then some "EXPECTED_SUBJECTS_REQUIRED"
    else if ¬ (subjects ⊆ context.expectedSubjects ∧ context.expectedSubjects ⊆ subjects) then
      some "ASSIGNMENT_COVERAGE_MISMATCH"
    else if targets.any (fun target =>
        match target with
        | .str text => text == ""
        | _ => true) then
      some "ASSIGNMENT_TARGET_REQUIRED"
    else if targets.any (fun target => context.maxFanout < targets.count target) then
      some "ASSIGNMENT_FANOUT_EXCEEDED"
    else none
  | _ => some "ASSIGNMENTS_REQUIRED"

/-- `_validate_repair`, given the set of slices; `none` means that nothing is wrong. -/
def checkRepairSet (context : AdviceValidationContext) : Option (List UUID) → Option String
  | none => some "REPAIR_SET_REQUIRED"
  | some repairSet =>
    if repairSet = [] then some "REPAIR_SET_REQUIRED"
    else if context.attributionCandidates = [] then some "ATTRIBUTION_CANDIDATES_REQUIRED"
    else if ¬ repairSet ⊆ context.attributionCandidates then some "REPAIR_SET_NOT_IN_CANDIDATES"
    else if context.jointDomainMembers ≠ [] ∧
        ¬ (repairSet ⊆ context.jointDomainMembers ∧ context.jointDomainMembers ⊆ repairSet) then
      some "JOINT_DOMAIN_MISMATCH"
    else none

/-- `_validate_repair`. -/
def validateRepair (advice : Advice) (context : AdviceValidationContext) : Option String :=
  checkRepairSet context (uuidSet repr (Json.field? advice.payload "repair_set"))

/-- The verdict of a mechanical check. -/
def checkedAdvice (expectedHash : String) : Option String → AdviceValidationResult
  | some reason => ⟨.discarded, reason, expectedHash⟩
  | none => ⟨.autoAdopted, "MECHANICALLY_VALID", expectedHash⟩

/-- `evaluate_advice`, given what the checks of an exploration and of a repair say. `expectedHash`
is `advice_proposal_hash(advice)`; `none` stands for the exception of its canonical JSON, or of
`compare_digest` on a text that is not ASCII. -/
def judgeAdvice (expectedHash : Option String) (proposalHash : String) (kind : AdviceKind)
    (explore repair : Option String) : Option AdviceValidationResult :=
  match expectedHash with
  | none => none
  | some expectedHash =>
    if proposalHash.toList.any (fun c => 128 ≤ c.toNat) then none
    else if proposalHash ≠ expectedHash then
      some ⟨.discarded, "PROPOSAL_HASH_MISMATCH", expectedHash⟩
    else
      match kind with
      | .routeSuggestion | .planRevision | .askUser =>
        some ⟨.confirmationRequired, "BOUNDARY_ADVICE", expectedHash⟩
      | .exploreReassignment => some (checkedAdvice expectedHash explore)
      | .repairDecision => some (checkedAdvice expectedHash repair)

/-- `evaluate_advice`. -/
def evaluateAdvice (expectedHash : Option String) (advice : Advice)
    (context : AdviceValidationContext) : Option AdviceValidationResult :=
  judgeAdvice expectedHash advice.proposalHash advice.kind (validateExplore advice context)
    (validateRepair repr advice context)

end Evaluate

/-! ## Recovery -/

/-- `RecoveryTrigger`. -/
inductive RecoveryTrigger where
  | startup | interruption | intentGap
  deriving DecidableEq, Repr

/-- `RecoveryTrigger(value)`. -/
def RecoveryTrigger.ofValue (value : String) : Option RecoveryTrigger :=
  if value = "startup" then some .startup
  else if value = "interruption" then some .interruption
  else if value = "intent_gap" then some .intentGap
  else none

/-- `RecoveryPlan`. -/
structure RecoveryPlan where
  trigger : RecoveryTrigger
  events : List String
  reportHalted : Bool
  deriving DecidableEq

/-- `RecoveryCoordinator.trigger`. -/
def RecoveryCoordinator.trigger (trigger : RecoveryTrigger)
    (activeDispatchIds missingIntentIds : List String) (checkpointCorrupt refDrift : Bool) :
    RecoveryPlan :=
  { trigger := trigger
    events := ["recovery.actor_rebuilt"] ++
      activeDispatchIds.map (fun item => "dispatch.interrupted:" ++ item) ++
      ["git.refs.reconciled", "receipts.repaired"] ++
      missingIntentIds.map (fun item => "integration.intent.retry:" ++ item) ++
      (if checkpointCorrupt then ["checkpoint.discarded"] else []) ++
      (if refDrift then ["recovery.ref_drift"] else []) ++ ["recovery.completed"]
    reportHalted := refDrift }

end CodeMigrator
