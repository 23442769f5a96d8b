import CodeMigrator.Core.Enums
import CodeMigrator.Core.Ids

/-!
# Agent run records

`runtime/agent_runs.py` and `SliceGenerationRef` (`core/models/context.py`). The
checks of `AgentRun.__post_init__` are the predicate `AgentRunFields.Valid`, which an
`AgentRun` carries.
-/

namespace CodeMigrator
open Lib

/-- `SliceGenerationRef`. -/
structure SliceGenerationRef where
  sliceId : SliceId
  generation : CandidateGeneration
  baselineCandidateOid : Option String
  deriving DecidableEq

/-- `_TERMINAL_EXITS`; a state without an entry has no exit. -/
def SessionState.terminalExits : SessionState → Option (List SessionExit)
  | closed => some [.completed, .segmentStopped]
  | failed => some [.failed, .budgetExhausted]
  | invalidated => some [.invalidated]
  | _ => none

/-- `re.fullmatch` of `logical_task_key`: a letter or digit, then at most 255 letters,
digits and characters of `.`, `_`, `:`, `/` and `-`. -/
def isTaskKey (key : String) : Bool :=
  match key.toList with
  | [] => false
  | first :: rest =>
    first.isAlphanum && rest.length ≤ 255 &&
      rest.all (fun c => c.isAlphanum || ['.', '_', ':', '/', '-'].contains c)

/-- The fields of `AgentRun`, before its constructor has checked them. -/
structure AgentRunFields where
  agentRunId : AgentRunId
  ownerKind : String
  ownerId : UUID
  logicalTaskKey : String
  phase : Phase
  sessionKind : SessionKind
  threadId : String
  modelBindingSha256 : String
  contextSha256 : String
  toolsetSha256 : String
  templateSha256 : String
  sliceRef : Option SliceGenerationRef
  writeScopeSha256 : Option String
  checkpointSha256 : Option String
  candidateCheckpointSha256 : Option String
  resultSha256 : Option String
  usageSha256 : Option String
  retryOf : Option AgentRunId
  continuationOf : Option AgentRunId
  restartedFrom : Option AgentRunId
  state : SessionState
  exit : Option SessionExit
  deriving DecidableEq

namespace AgentRunFields

/-- The nine digests, absent ones left out. -/
def digests (fields : AgentRunFields) : List String :=
  [fields.modelBindingSha256, fields.contextSha256, fields.toolsetSha256, fields.templateSha256] ++
    [fields.writeScopeSha256, fields.checkpointSha256, fields.candidateCheckpointSha256,
      fields.resultSha256, fields.usageSha256].filterMap id

/-- The records this one descends from. -/
def lineage (fields : AgentRunFields) : List AgentRunId :=
  [fields.retryOf, fields.continuationOf, fields.restartedFrom].filterMap id

/-- The exit is one that the state admits: one of its terminal exits, or none. -/
def exitMatches (fields : AgentRunFields) : Bool :=
  match fields.state.terminalExits with
  | none => fields.exit == none
  | some expected => expected.any (fun exit => fields.exit == some exit)

/-- The checks of `AgentRun.__post_init__`. -/
structure Valid (fields : AgentRunFields) : Prop where
  ownerKind : fields.ownerKind = "run" ∨ fields.ownerKind = "draft"
  taskKey : isTaskKey fields.logicalTaskKey = true
  thread : (UUID.parse fields.threadId).isSome = true
  digests : ∀ digest ∈ fields.digests, isSha256 digest = true
  exit : fields.exitMatches = true
  lineage : fields.lineage.length ≤ 1
  notOwnAncestor : fields.agentRunId ∉ fields.lineage

instance (fields : AgentRunFields) : Decidable fields.Valid :=
  decidable_of_iff
    ((fields.ownerKind = "run" ∨ fields.ownerKind = "draft") ∧
      isTaskKey fields.logicalTaskKey = true ∧ (UUID.parse fields.threadId).isSome = true ∧
      (∀ digest ∈ fields.digests, isSha256 digest = true) ∧ fields.exitMatches = true ∧
      fields.lineage.length ≤ 1 ∧ fields.agentRunId ∉ fields.lineage)
    ⟨fun ⟨h1, h2, h3, h4, h5, h6, h7⟩ => ⟨h1, h2, h3, h4, h5, h6, h7⟩,
      fun ⟨h1, h2, h3, h4, h5, h6, h7⟩ => ⟨h1, h2, h3, h4, h5, h6, h7⟩⟩

end AgentRunFields

/-- `AgentRun`. -/
structure AgentRun extends AgentRunFields where
  valid : toAgentRunFields.Valid
  deriving DecidableEq

/-- The constructor call `AgentRun(...)`; `none` is its `ValueError`. -/
def AgentRun.construct (fields : AgentRunFields) : Option AgentRun :=
  if valid : fields.Valid then some ⟨fields, valid⟩ else none

/-- `AgentRun.owner_key`. -/
def AgentRun.ownerKey (record : AgentRun) : String × UUID × String :=
  (record.ownerKind, record.ownerId, record.logicalTaskKey)

/-- `AgentRun.is_terminal`. -/
def AgentRun.isTerminal (record : AgentRun) : Bool := record.state.terminalExits.isSome

/-- `AgentRun.same_creation_identity`. -/
def AgentRun.sameCreationIdentity (record other : AgentRun) : Bool :=
  record.ownerKind = other.ownerKind ∧ record.ownerId = other.ownerId ∧
    record.logicalTaskKey = other.logicalTaskKey ∧ record.phase = other.phase ∧
    record.sessionKind = other.sessionKind ∧ record.sliceRef = other.sliceRef ∧
    record.modelBindingSha256 = other.modelBindingSha256 ∧
    record.contextSha256 = other.contextSha256 ∧ record.toolsetSha256 = other.toolsetSha256 ∧
    record.templateSha256 = other.templateSha256 ∧
    record.writeScopeSha256 = other.writeScopeSha256 ∧ record.retryOf = other.retryOf ∧
    record.continuationOf = other.continuationOf ∧ record.restartedFrom = other.restartedFrom ∧
    (record.agentRunId ≠ other.agentRunId ∨ record.threadId = other.threadId)

/-- `AgentRun.same_frozen_identity`. -/
def AgentRun.sameFrozenIdentity (record other : AgentRun) : Bool :=
  record.agentRunId = other.agentRunId ∧ record.threadId = other.threadId ∧
    record.sameCreationIdentity other

/-- `re.fullmatch(r"[a-z][a-z0-9._-]{0,63}", category)`. -/
def isReceiptCategory (category : String) : Bool :=
  match category.toList with
  | [] => false
  | first :: rest =>
    first.isLower && rest.length ≤ 63 &&
      rest.all (fun c => c.isLower || c.isDigit || ['.', '_', '-'].contains c)

/-- `AgentRunReceipt`. -/
structure AgentRunReceipt where
  receiptId : UUID
  agentRunId : AgentRunId
  category : String
  categoryIsToken : isReceiptCategory category = true
  deriving DecidableEq

theorem AgentRun.construct_self (record : AgentRun) :
    AgentRun.construct record.toAgentRunFields = some record := by
  simp only [AgentRun.construct, record.valid, dite_true]

theorem AgentRun.construct_fields {fields : AgentRunFields} {record : AgentRun}
    (built : AgentRun.construct fields = some record) : record.toAgentRunFields = fields := by
  unfold AgentRun.construct at built
  split at built
  · rw [← Option.some.inj built]
  · simp at built

end CodeMigrator
