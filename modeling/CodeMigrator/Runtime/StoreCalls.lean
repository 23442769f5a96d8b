import CodeMigrator.Lib.Transition
import CodeMigrator.Runtime.WorkflowRefinement

/-!
# Calls of the runtime store

`InMemoryRuntimeStore` (`runtime/store.py`) under every sequence of its calls, whoever
makes them: the calls that write a Run, the receipts of agent runs of a Run or a Draft,
the two halves of an integration, and the calls that register agent runs and
references. `StoreChange` says once what a call can do to the store.
-/

namespace CodeMigrator
open Lib

/-! ## Evolution segments -/

/-- `EvolutionSegmentDraft`. -/
structure EvolutionSegmentDraft where
  runId : RunId
  sliceId : SliceId
  summaryText : String
  templateSha256 : String

/-- `EvolutionSegment`. -/
structure EvolutionSegment where
  runId : RunId
  entryIndex : Nat
  sliceId : SliceId
  summaryText : String
  templateSha256 : String

/-- The store with the evolution segments of its Runs. -/
structure EvolvingStore extends RuntimeStore where
  evolution : Dict RunId (List EvolutionSegment)

/-- `InMemoryRuntimeStore()`. -/
def EvolvingStore.empty : EvolvingStore := { RuntimeStore.empty with evolution := .empty }

/-- `_validate_evolution_draft`: the text of the exception. -/
def validateEvolutionDraft (draft : EvolutionSegmentDraft) (expectedRunId : RunId) :
    Option String :=
  if draft.runId ≠ expectedRunId then some "context evolution run identity does not match state"
  else if draft.summaryText.toList.all isSpace then
    some "context evolution summary must be non-empty"
  else if RuntimeStore.isHexText 64 draft.templateSha256 = false then
    some "context evolution template digest is invalid"
  else none

/-- `_next_in_memory_evolution`. -/
def nextInMemoryEvolution (draft : Option EvolutionSegmentDraft) (runId : RunId)
    (entries : Dict RunId (List EvolutionSegment)) :
    Except RuntimeFailure (Option EvolutionSegment) :=
  match draft with
  | none => .ok none
  | some draft =>
    let previous := (entries.get? runId).getD []
    match validateEvolutionDraft draft runId with
    | some message => .error (.storeCommitError message)
    | none =>
      if previous.head?.any (fun first => first.templateSha256 ≠ draft.templateSha256) then
        .error (.storeCommitError "context evolution template is frozen per Run")
      else if previous.any (fun entry => entry.sliceId = draft.sliceId) then
        .error (.storeCommitError "context evolution slice has already been appended")
      else
        .ok (some ⟨runId, previous.length, draft.sliceId, draft.summaryText,
          draft.templateSha256⟩)

namespace RuntimeStore

/-- The event ledger of a Run. -/
def ledger (store : RuntimeStore) (runId : RunId) : List RuntimeEvent :=
  ((store.load runId).map (·.events)).getD []

/-- `list_pending_integration_intents`. -/
def listPendingIntegrationIntents (store : RuntimeStore) (runId : RunId) :
    List IntegrationIntent :=
  (store.integrationIntents.entries.filter
    (fun entry => entry.1.1 = runId ∧ entry.1 ∉ store.integrationReceipts.keys)).map (·.2)

/-- `list_integration_receipts`. -/
def listIntegrationReceipts (store : RuntimeStore) (runId : RunId) : List IntegrationReceipt :=
  ((store.integrationReceipts.entries.filter (fun entry => entry.1.1 = runId)).map
    (·.2)).insertionSort (fun left right => left.eventSequence ≤ right.eventSequence)

end RuntimeStore

/-! ## Calls -/

/-- The calls of the store. -/
inductive StoreCall where
  | create (state : RunState) (events : List EventSpec) (evolution : Option EvolutionSegmentDraft)
  | commit (state : RunState) (events : List EventSpec) (evolution : Option EvolutionSegmentDraft)
  | commitAgentRunReceipt (record : AgentRun) (receipt : AgentRunReceipt)
      (state : Option RunState) (events : List EventSpec)
      (casReferences : List (String × CasObject))
  | commitIntegrationReceipt (state : RunState) (intent : IntegrationIntent)
      (verifiedCommitOid : String) (events : List EventSpec)
  | persistIntegrationIntent (intent : IntegrationIntent)
  | createOrGetAgentRun (record : AgentRun)
  | addCasReference (object : CasObject) (ownerKind : String) (ownerId : UUID)
      (referenceKey : String)
  | failNextCommit

/-- The Run that a call is for. -/
def StoreCall.runId? : StoreCall → Option RunId
  | create state _ _ | commit state _ _ => some state.runId
  | commitAgentRunReceipt record _ _ _ _ =>
    if record.ownerKind = "run" then some record.ownerId else none
  | commitIntegrationReceipt _ intent _ _ | persistIntegrationIntent intent => some intent.runId
  | createOrGetAgentRun _ | addCasReference _ _ _ _ | failNextCommit => none

/-- A call with what the secret registry says during it. -/
structure StoreInput where
  call : StoreCall
  rejects : EventData → Bool

namespace EvolvingStore

/-- The result of a call on the store's other dictionaries. -/
def lift {β : Type} (store : EvolvingStore) (result : StoreResult β) :
    EvolvingStore × Except RuntimeFailure Unit :=
  ({ store with toRuntimeStore := result.1 }, result.2.map fun _ => ())

/-- `_write`. -/
def write (store : EvolvingStore) (rejects : EventData → Bool) (state : RunState)
    (events : List EventSpec) (evolution : Option EvolutionSegmentDraft) :
    EvolvingStore × Except RuntimeFailure Unit :=
  if store.failNext then
    ({ store with failNext := false }, .error (.storeCommitError "injected commit failure"))
  else
    let previous := store.ledger state.runId
    match RuntimeStore.materialize rejects (previous.length + 1) events with
    | none => (store, .error (.storeCommitError "observation rejected"))
    | some materialized =>
      match nextInMemoryEvolution evolution state.runId store.evolution with
      | .error failure => (store, .error failure)
      | .ok entry =>
        ({ store with
            snapshots := store.snapshots.set state.runId ⟨state, previous ++ materialized⟩
            evolution :=
              match entry with
              | none => store.evolution
              | some entry => store.evolution.set state.runId
                  ((store.evolution.get? state.runId).getD [] ++ [entry])
            commitCount := store.commitCount + 1 }, .ok ())

/-- One call: the store afterwards, and whether it raises. -/
def apply (digest : IntegrationIntent → String → Sha256) (store : EvolvingStore)
    (input : StoreInput) : EvolvingStore × Except RuntimeFailure Unit :=
  match input.call with
  | .create state events evolution =>
    if (store.load state.runId).isSome then
      (store, .error (.storeCommitError "run already exists"))
    else store.write input.rejects state events evolution
  | .commit state events evolution =>
    if (store.load state.runId).isNone then
      (store, .error (.storeCommitError "run does not exist"))
    else store.write input.rejects state events evolution
  | .commitAgentRunReceipt record receipt state events casReferences =>
    store.lift (store.commitAgentRunReceipt input.rejects record receipt state events
      casReferences)
  | .commitIntegrationReceipt state intent verifiedCommitOid events =>
    store.lift (store.commitIntegrationReceipt input.rejects digest state intent verifiedCommitOid
      events)
  | .persistIntegrationIntent intent => store.lift (store.persistIntegrationIntent intent)
  | .createOrGetAgentRun record => store.lift (store.createOrGetAgentRun record)
  | .addCasReference object ownerKind ownerId referenceKey =>
    store.lift (store.addCasReference object ownerKind ownerId referenceKey)
  | .failNextCommit => ({ store with failNext := true }, .ok ())

/-- The store after a call. -/
def step (digest : IntegrationIntent → String → Sha256) (store : EvolvingStore)
    (input : StoreInput) : EvolvingStore :=
  (store.apply digest input).1

end EvolvingStore

/-! ## What a call can do -/

namespace RuntimeStore

/-- The two stores hold the same facts; the injected failure and the commit counter may
differ. -/
structure SameFacts (before after : RuntimeStore) : Prop where
  snapshots : after.snapshots = before.snapshots
  agentRuns : after.agentRuns = before.agentRuns
  agentRunKeys : after.agentRunKeys = before.agentRunKeys
  agentThreads : after.agentThreads = before.agentThreads
  agentReceipts : after.agentReceipts = before.agentReceipts
  integrationIntents : after.integrationIntents = before.integrationIntents
  integrationReceipts : after.integrationReceipts = before.integrationReceipts
  casRefs : after.casRefs = before.casRefs

theorem SameFacts.refl (store : RuntimeStore) : SameFacts store store :=
  ⟨rfl, rfl, rfl, rfl, rfl, rfl, rfl, rfl⟩

/-- The snapshot of a Run whose ledger grows by the events. -/
def grown (store : RuntimeStore) (runId : RunId) (state : RunState) (events : List EventSpec) :
    RuntimeSnapshot :=
  ⟨state, store.ledger runId ++ numbered ((store.ledger runId).length + 1) events⟩

theorem grown_eq_extend {store : RuntimeStore} {runId : RunId} {previous : RuntimeSnapshot}
    (stored : store.load runId = some previous) (state : RunState) (events : List EventSpec) :
    store.grown runId state events = previous.extend state events := by
  simp only [grown, ledger, stored, Option.map_some, Option.getD_some, RuntimeSnapshot.extend]

theorem materialize_some {rejects : EventData → Bool} {first : Nat} {events : List EventSpec}
    {materialized : List RuntimeEvent}
    (accepted : materialize rejects first events = some materialized) :
    materialized = numbered first events := by
  unfold materialize at accepted
  split at accepted
  · cases accepted
  · exact (Option.some.inj accepted).symm

end RuntimeStore

/-- What a call for a Run (or for none) does to the Runs and the integration ledger: it
leaves them, appends to the ledger of that Run, stores an intent, or stores a receipt
together with its events. -/
inductive StoreChange (store : RuntimeStore) : Option RunId → RuntimeStore → Prop where
  | other (runId : Option RunId) (after : RuntimeStore)
      (snapshots : after.snapshots = store.snapshots)
      (intents : after.integrationIntents = store.integrationIntents)
      (receipts : after.integrationReceipts = store.integrationReceipts) :
      StoreChange store runId after
  | write (runId : RunId) (state : RunState) (events : List EventSpec) (after : RuntimeStore)
      (snapshots : after.snapshots =
        store.snapshots.set runId (store.grown runId state events))
      (intents : after.integrationIntents = store.integrationIntents)
      (receipts : after.integrationReceipts = store.integrationReceipts) :
      StoreChange store (some runId) after
  | intend (intent : IntegrationIntent) (after : RuntimeStore)
      (absent : store.integrationIntents.get? (intent.runId, intent.idempotencyKey) = none)
      (settled : ∀ key ∈ store.integrationIntents.keys, key.1 = intent.runId →
        key ∈ store.integrationReceipts.keys)
      (snapshots : after.snapshots = store.snapshots)
      (intents : after.integrationIntents =
        store.integrationIntents.set (intent.runId, intent.idempotencyKey) intent)
      (receipts : after.integrationReceipts = store.integrationReceipts) :
      StoreChange store (some intent.runId) after
  | integrate (state : RunState) (events : List EventSpec) (receipt : IntegrationReceipt)
      (after : RuntimeStore) (previous : RuntimeSnapshot)
      (absent : store.integrationReceipts.get?
        (receipt.intent.runId, receipt.intent.idempotencyKey) = none)
      (intended : store.integrationIntents.get?
        (receipt.intent.runId, receipt.intent.idempotencyKey) = some receipt.intent)
      (head : store.headDiffers receipt.intent = false)
      (stored : store.load receipt.intent.runId = some previous)
      (sequence : receipt.eventSequence = previous.events.length + 1)
      (grows : events ≠ [])
      (snapshots : after.snapshots =
        store.snapshots.set receipt.intent.runId (previous.extend state events))
      (intents : after.integrationIntents = store.integrationIntents)
      (receipts : after.integrationReceipts = store.integrationReceipts.set
        (receipt.intent.runId, receipt.intent.idempotencyKey) receipt) :
      StoreChange store (some receipt.intent.runId) after

section Changes

variable {store : RuntimeStore} {rejects : EventData → Bool} {after : RuntimeStore}
  {runId : Option RunId}

theorem StoreChange.of_same (same : RuntimeStore.SameFacts store after) (runId : Option RunId) :
    StoreChange store runId after :=
  .other runId after same.snapshots same.integrationIntents same.integrationReceipts

/-- What one call does: it raises and keeps every fact, or it changes the store for the Run
that it is for. -/
def CallOutcome {β : Type} (store : RuntimeStore) (runId : Option RunId) (result : StoreResult β) :
    Prop :=
  StoreChange store runId result.1 ∧
    ∀ failure, result.2 = .error failure → RuntimeStore.SameFacts store result.1

theorem CallOutcome.raised {β : Type} {outcome : Except RuntimeFailure β}
    (same : RuntimeStore.SameFacts store after) : CallOutcome store runId (after, outcome) :=
  ⟨.of_same same runId, fun _ _ => same⟩

theorem CallOutcome.returned {β : Type} {value : β} (change : StoreChange store runId after) :
    CallOutcome store runId (after, .ok value) :=
  ⟨change, fun _ raised => by cases raised⟩

theorem replayAgentRunReceipt_outcome (runId : Option RunId) (existing : AgentRunReceipt)
    (record : AgentRun) (receipt : AgentRunReceipt) (casReferences : List (String × CasObject)) :
    CallOutcome store runId (store.replayAgentRunReceipt existing record receipt casReferences) := by
  unfold RuntimeStore.replayAgentRunReceipt
  split
  · exact .raised (.refl store)
  · exact .raised (.refl store)

theorem validateAgentReceipt_ownedByRun {current : Option AgentRun} {record : AgentRun}
    {receipt : AgentRunReceipt} {state : RunState} {events : List EventSpec}
    {casReferences : List (String × CasObject)}
    (valid : RuntimeStore.validateAgentReceipt current record receipt (some state) events
      casReferences = none) : record.ownerKind = "run" := by
  by_contra other
  unfold RuntimeStore.validateAgentReceipt at valid
  have draft : record.ownerKind ≠ "run" ∧ ((some state : Option RunState) ≠ none ∨ events ≠ []) :=
    ⟨other, .inl (Option.some_ne_none state)⟩
  simp only [if_pos draft] at valid
  repeat' split at valid
  all_goals cases valid

theorem commitAgentRunReceipt_outcome (record : AgentRun) (receipt : AgentRunReceipt)
    (state : Option RunState)
    (owner : state ≠ none → record.ownerKind = "run" → runId = some record.ownerId)
    (events : List EventSpec) (casReferences : List (String × CasObject)) :
    CallOutcome store runId
      (store.commitAgentRunReceipt rejects record receipt state events casReferences) := by
  unfold RuntimeStore.commitAgentRunReceipt
  split
  · exact replayAgentRunReceipt_outcome _ _ _ _ _
  split
  · exact .raised (.refl store)
  rename_i valid
  split
  · exact .raised (.refl store)
  split
  · exact .raised ⟨rfl, rfl, rfl, rfl, rfl, rfl, rfl, rfl⟩
  cases state with
  | none => exact .returned (.other _ _ rfl rfl rfl)
  | some state =>
    dsimp only [RuntimeStore.ownerSnapshots]
    cases written : store.ownerSnapshot rejects state events with
    | error failure => exact .raised (.refl store)
    | ok snapshot =>
      dsimp only [Except.map]
      obtain ⟨previous, stored, rfl⟩ := RuntimeStore.ownerSnapshot_ok written
      have ownedByRun := validateAgentReceipt_ownedByRun valid
      have own := (RuntimeStore.validateAgentReceipt_none valid).2 ownedByRun
      rw [owner (Option.some_ne_none state) ownedByRun, ← RuntimeStore.grown_eq_extend stored, own]
      exact .returned (.write record.ownerId state events _ rfl rfl rfl)

theorem persistIntegrationIntent_outcome (intent : IntegrationIntent) :
    CallOutcome store (some intent.runId) (store.persistIntegrationIntent intent) := by
  simp only [RuntimeStore.persistIntegrationIntent]
  split
  · exact .raised (.refl store)
  split
  · exact .raised (.refl store)
  split
  · split
    · exact .raised (.refl store)
    · exact .raised (.refl store)
  rename_i absent
  split
  · exact .raised (.refl store)
  rename_i settled
  split
  · exact .raised (.refl store)
  refine .returned (.intend intent _ absent ?_ rfl rfl rfl)
  intro key member own
  by_contra pending
  have different : key.2 ≠ intent.idempotencyKey := by
    intro same
    obtain ⟨other, found⟩ := (Dict.mem_keys_iff _ key).mp member
    rw [show key = (intent.runId, intent.idempotencyKey) from Prod.ext own same, absent] at found
    cases found
  exact settled (List.any_eq_true.mpr ⟨key, member, decide_eq_true ⟨own, different, pending⟩⟩)

theorem validateIntegrationEvents_ne_nil {intent : IntegrationIntent} {verifiedCommitOid : String}
    {events : List EventSpec}
    (valid : RuntimeStore.validateIntegrationEvents intent verifiedCommitOid events = none) :
    events ≠ [] := by
  rintro rfl
  cases valid

theorem replayIntegrationReceipt_outcome (runId : Option RunId) (existing : IntegrationReceipt)
    (intent : IntegrationIntent) (verifiedCommitOid : String) :
    CallOutcome store runId
      (store.replayIntegrationReceipt existing intent verifiedCommitOid) := by
  simp only [RuntimeStore.replayIntegrationReceipt]
  split
  · exact .raised (.refl store)
  split
  · exact .raised (.refl store)
  split
  · exact .raised (.refl store)
  · exact .raised (.refl store)

theorem commitIntegrationReceipt_outcome (digest : IntegrationIntent → String → Sha256)
    (state : RunState) (intent : IntegrationIntent) (verifiedCommitOid : String)
    (events : List EventSpec) :
    CallOutcome store (some intent.runId)
      (store.commitIntegrationReceipt rejects digest state intent verifiedCommitOid events) := by
  simp only [RuntimeStore.commitIntegrationReceipt]
  split
  · exact replayIntegrationReceipt_outcome _ _ _ _
  rename_i absent
  split
  · exact .raised (.refl store)
  split
  · exact .raised (.refl store)
  rename_i intended
  split
  · exact .raised (.refl store)
  split
  · exact .raised (.refl store)
  rename_i head
  split
  · exact .raised (.refl store)
  rename_i previous stored
  split
  · exact .raised (.refl store)
  split
  · exact .raised (.refl store)
  rename_i valid
  split
  · exact .raised ⟨rfl, rfl, rfl, rfl, rfl, rfl, rfl, rfl⟩
  split
  · exact .raised (.refl store)
  rename_i materialized accepted
  cases RuntimeStore.materialize_some accepted
  exact .returned (.integrate state events ⟨intent, verifiedCommitOid, _, _, _, _⟩ _ previous absent
    (not_not.mp intended) (Bool.not_eq_true _ ▸ head) stored rfl
    (validateIntegrationEvents_ne_nil valid) rfl rfl rfl)

theorem createOrGetAgentRun_outcome (runId : Option RunId) (record : AgentRun) :
    CallOutcome store runId (store.createOrGetAgentRun record) := by
  unfold RuntimeStore.createOrGetAgentRun
  repeat' split
  all_goals first
    | exact .raised (.refl store)
    | exact .returned (.other _ _ rfl rfl rfl)

theorem addCasReference_outcome (runId : Option RunId) (object : CasObject) (ownerKind : String)
    (ownerId : UUID) (referenceKey : String) :
    CallOutcome store runId (store.addCasReference object ownerKind ownerId referenceKey) := by
  unfold RuntimeStore.addCasReference
  split
  · exact .raised ⟨rfl, rfl, rfl, rfl, rfl, rfl, rfl, rfl⟩
  split
  · exact .raised (.refl store)
  · exact .returned (.other _ _ rfl rfl rfl)

end Changes

section Apply

variable (digest : IntegrationIntent → String → Sha256) (store : EvolvingStore)

/-- Nothing of the store but its injected failure and its counter has changed. -/
def EvolvingStore.SameFacts (before after : EvolvingStore) : Prop :=
  RuntimeStore.SameFacts before.toRuntimeStore after.toRuntimeStore ∧
    after.evolution = before.evolution

/-- What one call does. -/
structure AppliedCall (runId : Option RunId)
    (result : EvolvingStore × Except RuntimeFailure Unit) : Prop where
  change : StoreChange store.toRuntimeStore runId result.1.toRuntimeStore
  raised : ∀ failure, result.2 = .error failure → store.SameFacts result.1

variable {store}

theorem AppliedCall.lift {β : Type} {runId : Option RunId} {result : StoreResult β}
    (outcome : CallOutcome store.toRuntimeStore runId result) :
    AppliedCall store runId (store.lift result) := by
  obtain ⟨after, value⟩ := result
  refine ⟨outcome.1, ?_⟩
  intro failure raised
  cases value with
  | error other => exact ⟨outcome.2 other rfl, rfl⟩
  | ok value => cases raised

theorem AppliedCall.refuse (runId : Option RunId) (failure : RuntimeFailure) :
    AppliedCall store runId (store, .error failure) :=
  ⟨.of_same (.refl _) runId, fun _ _ => ⟨.refl _, rfl⟩⟩

theorem AppliedCall.write (rejects : EventData → Bool) (state : RunState)
    (events : List EventSpec) (evolution : Option EvolutionSegmentDraft) :
    AppliedCall store (some state.runId) (store.write rejects state events evolution) := by
  simp only [EvolvingStore.write]
  split
  · have same : RuntimeStore.SameFacts store.toRuntimeStore
        { store.toRuntimeStore with failNext := false } :=
      ⟨rfl, rfl, rfl, rfl, rfl, rfl, rfl, rfl⟩
    exact ⟨.of_same same _, fun _ _ => ⟨same, rfl⟩⟩
  split
  · exact .refuse _ _
  rename_i materialized accepted
  split
  · exact .refuse _ _
  cases RuntimeStore.materialize_some accepted
  refine ⟨.write state.runId state events _ rfl rfl rfl, ?_⟩
  intro failure raised
  cases raised

theorem apply_outcome (input : StoreInput) :
    AppliedCall store input.call.runId? (store.apply digest input) := by
  obtain ⟨call, rejects⟩ := input
  cases call with
  | create state events evolution =>
    simp only [EvolvingStore.apply]
    split
    · exact .refuse _ _
    · exact .write rejects state events evolution
  | commit state events evolution =>
    simp only [EvolvingStore.apply]
    split
    · exact .refuse _ _
    · exact .write rejects state events evolution
  | commitAgentRunReceipt record receipt state events casReferences =>
    refine .lift (commitAgentRunReceipt_outcome record receipt state ?_ events casReferences)
    intro present ownedByRun
    cases state with
    | none => exact absurd rfl present
    | some state => exact if_pos ownedByRun
  | commitIntegrationReceipt state intent verifiedCommitOid events =>
    exact .lift (commitIntegrationReceipt_outcome digest state intent verifiedCommitOid events)
  | persistIntegrationIntent intent => exact .lift (persistIntegrationIntent_outcome intent)
  | createOrGetAgentRun record => exact .lift (createOrGetAgentRun_outcome _ record)
  | addCasReference object ownerKind ownerId referenceKey =>
    exact .lift (addCasReference_outcome _ object ownerKind ownerId referenceKey)
  | failNextCommit =>
    refine ⟨.other _ _ rfl rfl rfl, ?_⟩
    intro failure raised
    cases raised

end Apply

/-! ## The event ledger -/

/-- The events of every Run are numbered 1, 2, 3 and so on. -/
def LedgersNumbered (store : EvolvingStore) : Prop :=
  ∀ runId snapshot, store.load runId = some snapshot →
    snapshot.events.map (·.sequence) = List.range' 1 snapshot.events.length

/-- What a call keeps: every ledger is a prefix of what it becomes, the Runs that the call is
not for stay as they are, and a call that raises leaves every fact of the store. -/
structure LedgersKept (digest : IntegrationIntent → String → Sha256) (store : EvolvingStore)
    (input : StoreInput) : Prop where
  grows : ∀ runId, store.ledger runId <+: (store.step digest input).ledger runId
  others : ∀ runId, input.call.runId? ≠ some runId →
    (store.step digest input).load runId = store.load runId
  raised : ∀ failure, (store.apply digest input).2 = .error failure →
    store.SameFacts (store.step digest input)

section Ledger

variable {store after : RuntimeStore} {runId : Option RunId}

theorem StoreChange.load_cases (change : StoreChange store runId after) (run : RunId) :
    after.load run = store.load run ∨
      runId = some run ∧ ∃ state events, after.load run = some (store.grown run state events) := by
  have written : ∀ {target : RunId} {snapshot : RuntimeSnapshot},
      after.snapshots = store.snapshots.set target snapshot →
      after.load run = if run = target then some snapshot else store.load run := by
    intro target snapshot snapshots
    rw [RuntimeStore.load, snapshots, Dict.get?_set]
    rfl
  cases change with
  | other _ _ snapshots =>
    left
    rw [RuntimeStore.load, snapshots]
    rfl
  | intend intent _ absent settled snapshots =>
    left
    rw [RuntimeStore.load, snapshots]
    rfl
  | write target state events _ snapshots =>
    rw [written snapshots]
    by_cases same : run = target
    · subst same
      exact .inr ⟨rfl, state, events, if_pos rfl⟩
    · exact .inl (if_neg same)
  | integrate state events receipt _ previous absent intended head stored sequence grows snapshots =>
    rw [written snapshots, ← RuntimeStore.grown_eq_extend stored]
    by_cases same : run = receipt.intent.runId
    · subst same
      exact .inr ⟨rfl, state, events, if_pos rfl⟩
    · exact .inl (if_neg same)

theorem StoreChange.ledger_prefix (change : StoreChange store runId after) (run : RunId) :
    store.ledger run <+: after.ledger run := by
  rcases change.load_cases run with same | ⟨-, state, events, grown⟩
  · rw [RuntimeStore.ledger, RuntimeStore.ledger, same]
  · rw [show after.ledger run = _ from congrArg (fun found => (found.map (·.events)).getD []) grown]
    exact List.prefix_append _ _

theorem numbered_sequences (first : Nat) (events : List EventSpec) :
    (RuntimeStore.numbered first events).map (·.sequence) = List.range' first events.length := by
  simp only [RuntimeStore.numbered, List.map_map, Function.comp_def]
  exact List.zipIdx_map_snd _ _

theorem grown_sequences {run : RunId}
    (numbered : (store.ledger run).map (·.sequence) = List.range' 1 (store.ledger run).length)
    (state : RunState) (events : List EventSpec) :
    (store.grown run state events).events.map (·.sequence) =
      List.range' 1 (store.grown run state events).events.length := by
  have length : (RuntimeStore.numbered ((store.ledger run).length + 1) events).length =
      events.length := by
    rw [RuntimeStore.numbered, List.length_map, List.length_zipIdx]
  simp only [RuntimeStore.grown, List.map_append, List.length_append, numbered, numbered_sequences,
    length]
  rw [← List.range'_append_1, Nat.add_comm 1]

end Ledger

section Integrity

variable {digest : IntegrationIntent → String → Sha256} {store : EvolvingStore}

theorem LedgersNumbered.step (numbered : LedgersNumbered store) (input : StoreInput) :
    LedgersNumbered (store.step digest input) := by
  intro run snapshot found
  have ledger : (store.ledger run).map (·.sequence) = List.range' 1 (store.ledger run).length := by
    cases before : store.load run with
    | none =>
      rw [RuntimeStore.ledger, before]
      rfl
    | some previous =>
      rw [RuntimeStore.ledger, before]
      exact numbered run previous before
  rcases (apply_outcome digest input).change.load_cases run with same | ⟨-, state, events, grown⟩
  · rw [show (store.step digest input).load run = _ from same] at found
    exact numbered run snapshot found
  · rw [show (store.step digest input).load run = _ from grown] at found
    cases found
    exact grown_sequences ledger state events

theorem ledgersKept (digest : IntegrationIntent → String → Sha256) (store : EvolvingStore)
    (input : StoreInput) : LedgersKept digest store input := by
  have applied : AppliedCall store input.call.runId? (store.apply digest input) :=
    apply_outcome digest input
  refine ⟨fun run => applied.change.ledger_prefix run, ?_, applied.raised⟩
  intro run foreign
  rcases applied.change.load_cases run with same | ⟨own, -⟩
  · exact same
  · exact absurd own foreign

/-- Over every sequence of calls on the store the events of every Run are numbered from 1
without a gap, no call shortens or rewrites a ledger or touches another Run, and a call
that raises changes no fact. -/
theorem event_ledger_integrity (digest : IntegrationIntent → String → Sha256)
    (inputs : List StoreInput) :
    Always (EvolvingStore.step digest) LedgersNumbered .empty inputs ∧
      Along (EvolvingStore.step digest) (LedgersKept digest) .empty inputs := by
  have empty : LedgersNumbered .empty := by
    intro run snapshot found
    cases found
  constructor
  · rw [always_iff empty]
    exact along_of_invariant LedgersNumbered (fun _ input numbered => numbered.step input)
      (fun _ input numbered => numbered.step input) empty inputs
  · exact along_of_invariant (fun _ => True) (fun _ _ _ => trivial)
      (fun store input _ => ledgersKept digest store input) trivial inputs

end Integrity

end CodeMigrator
