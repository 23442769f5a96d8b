import CodeMigrator.Runtime.ApiCommands

/-!
# Atomicity of API commands

What a command does that raises, and what is left of it after the rollback. The callbacks drop
a created Run whether or not it was there before, and no callback drops its evolution segment;
`ApiStore.SameTables` therefore holds after the rollback exactly when no create that the store
accepted was for a Run that it had or came with a segment.
-/

namespace CodeMigrator
open Lib

/-- A create that the store accepted: the Run and the staged segment. -/
abbrev AcceptedCreate := RunId × Option EvolutionSegmentDraft

/-- The create of an operation, when it was accepted. -/
def ApiOperation.accepted {α ε : Type} (operation : ApiOperation α ε)
    (answer : Except ApiFailure ApiReply) : List AcceptedCreate :=
  match operation, answer with
  | .create state _ evolution, .ok _ => [(state.runId, evolution)]
  | _, _ => []

namespace ApiStore

variable {α ε φ δ ω ρ : Type}

/-! ## Rollback -/

theorem load_rollback (undos : List (Undo δ)) (store : ApiStore φ δ ρ) (runId : RunId) :
    (undos.foldl undo store).load runId =
      if runId ∈ undos.filterMap Undo.runId? then none else store.load runId := by
  induction undos generalizing store with
  | nil => simp
  | cons first undos ih =>
    rw [List.foldl_cons, ih]
    cases first with
    | popSnapshot dropped =>
      simp only [List.filterMap_cons, Undo.runId?, List.mem_cons]
      by_cases later : runId ∈ undos.filterMap Undo.runId?
      · simp [later]
      · simp only [later, or_false, if_false]
        exact Dict.get?_erase _ _ _
    | rollbackDraftFact key appended => simp [Undo.runId?, undo]

theorem draft_rollback (undos : List (Undo δ)) (store : ApiStore φ δ ρ) :
    (undos.foldl undo store).draft = (undos.filterMap Undo.fact?).foldl
      (fun tables fact => tables.rollbackDraftFact fact.1 fact.2) store.draft := by
  induction undos generalizing store with
  | nil => rfl
  | cons first undos ih =>
    rw [List.foldl_cons, ih]
    cases first with
    | popSnapshot dropped => rfl
    | rollbackDraftFact key appended => rfl

theorem rest_rollback (undos : List (Undo δ)) (store : ApiStore φ δ ρ) :
    (undos.foldl undo store).evolution = store.evolution ∧
      (undos.foldl undo store).apiCommands = store.apiCommands ∧
      (undos.foldl undo store).graphStartHandoffs = store.graphStartHandoffs ∧
      (undos.foldl undo store).draftGraphStartHandoffs = store.draftGraphStartHandoffs := by
  induction undos generalizing store with
  | nil => exact ⟨rfl, rfl, rfl, rfl⟩
  | cons first undos ih =>
    rw [List.foldl_cons]
    cases first with
    | popSnapshot dropped => exact ih _
    | rollbackDraftFact key appended => exact ih _

/-! ## One operation -/

/-- A created Run: the others and everything else stay, and a staged segment is added. -/
structure Created (store : ApiStore φ δ ρ) (runId : RunId)
    (evolution : Option EvolutionSegmentDraft) (after : ApiStore φ δ ρ) : Prop where
  draft : after.draft = store.draft
  apiCommands : after.apiCommands = store.apiCommands
  graphStarts : after.graphStartHandoffs = store.graphStartHandoffs
  draftGraphStarts : after.draftGraphStartHandoffs = store.draftGraphStartHandoffs
  runs : ∀ other, other ≠ runId → after.load other = store.load other
  unevolved : evolution = none → ∀ other, after.evolutionSegments other = store.evolutionSegments other
  evolved : ∀ other, ∃ added, after.evolutionSegments other = store.evolutionSegments other ++ added
  segment : evolution ≠ none → ∃ entry,
    after.evolutionSegments runId = store.evolutionSegments runId ++ [entry]

theorem createInTransaction_cases (store : ApiStore φ δ ρ) (rejects : EventData → Bool)
    (state : RunState) (events : List EventSpec) (evolution : Option EvolutionSegmentDraft) :
    (∃ failNext failure, store.createInTransaction rejects state events evolution =
      ({ store with failNext := failNext }, .error failure)) ∨
    ∃ after snapshot, store.createInTransaction rejects state events evolution =
      (after, .ok snapshot) ∧ store.Created state.runId evolution after := by
  unfold createInTransaction EvolvingStore.write
  by_cases fails : store.failNext
  · rw [if_pos fails]
    exact .inl ⟨false, _, rfl⟩
  rw [if_neg fails]
  dsimp only
  cases RuntimeStore.materialize rejects _ events with
  | none => exact .inl ⟨store.failNext, _, rfl⟩
  | some materialized =>
    dsimp only
    cases staged : nextInMemoryEvolution evolution state.runId store.evolution with
    | error failure => exact .inl ⟨store.failNext, failure, rfl⟩
    | ok entry =>
      refine .inr ⟨_, _, rfl, rfl, rfl, rfl, rfl, ?_, ?_, ?_, ?_⟩
      · intro other other_ne
        exact (Dict.get?_set _ _ _ _).trans (if_neg other_ne)
      · rintro rfl other
        cases staged
        rfl
      · intro other
        cases entry with
        | none => exact ⟨[], (List.append_nil _).symm⟩
        | some entry =>
          simp only [evolutionSegments, Dict.get?_set]
          by_cases same : other = state.runId
          · exact ⟨[entry], by rw [if_pos same, same]; rfl⟩
          · exact ⟨[], by rw [if_neg same, List.append_nil]⟩
      · intro given
        cases entry with
        | none =>
          cases evolution with
          | none => exact absurd rfl given
          | some draft =>
            unfold nextInMemoryEvolution at staged
            dsimp only at staged
            split at staged
            · cases staged
            · split at staged
              · cases staged
              · split at staged
                · cases staged
                · cases staged
        | some entry =>
          refine ⟨entry, ?_⟩
          simp only [evolutionSegments, Dict.get?_set, if_true]
          rfl

/-- The tables of Drafts with the fact that the transaction has added, if any. -/
def DraftUnderway (before tables : DraftTables φ δ)
    (facts : List (DraftFactKey × List (DraftSessionEvent δ))) (holdsLock : Bool) : Prop :=
  (holdsLock = false ∧ tables = before ∧ facts = []) ∨
    (holdsLock = true ∧ ∃ fact : PreparedFact φ δ, before.facts.get? fact.key = none ∧
      tables = before.insertFact fact ∧
      facts = [(fact.key, DraftTables.appendedEvents
        ((before.eventsOf fact.receipt.draftId).length + 1) fact.eventData)])

section Perform

variable [DecidableEq φ] [DecidableEq δ] (codec : ApiCodec α ε φ δ)

theorem perform_cases (rejects : EventData → Bool) (store : ApiStore φ δ ρ)
    (transaction : ApiTransaction δ) (operation : ApiOperation α ε) :
    (∃ failNext answer, operation.accepted answer = [] ∧
      store.perform codec rejects transaction operation =
        ({ store with failNext := failNext }, transaction, answer)) ∨
    (∃ after answer runId evolution, operation.accepted answer = [(runId, evolution)] ∧
      store.Created runId evolution after ∧
      store.perform codec rejects transaction operation =
        (after, { transaction with
          afterRollback := transaction.afterRollback ++ [.popSnapshot runId] }, answer)) ∨
    (∃ (fact : PreparedFact φ δ) (answer : Except ApiFailure ApiReply),
      operation.accepted answer = [] ∧
      transaction.holdsLock = false ∧ store.draft.facts.get? fact.key = none ∧
      store.perform codec rejects transaction operation =
        ({ store with draft := store.draft.insertFact fact },
          ⟨transaction.afterRollback ++ [.rollbackDraftFact fact.key (DraftTables.appendedEvents
            ((store.draft.eventsOf fact.receipt.draftId).length + 1) fact.eventData)], true⟩,
          answer)) := by
  cases operation with
  | create state events evolution =>
    simp only [perform]
    obtain ⟨failNext, failure, refused⟩ | ⟨after, snapshot, accepted, created⟩ :=
      store.createInTransaction_cases rejects state events evolution
    · rw [refused]
      exact .inl ⟨failNext, _, rfl, rfl⟩
    · rw [accepted]
      exact .inr (.inl ⟨after, _, state.runId, evolution, rfl, created, rfl⟩)
  | commitDraftOwnerFact call =>
    simp only [perform]
    cases codec.prepareFact call with
    | error failure => exact .inl ⟨store.failNext, _, rfl, rfl⟩
    | ok fact =>
      dsimp only
      by_cases held : transaction.holdsLock
      · rw [if_pos held]
        exact .inl ⟨store.failNext, _, rfl, rfl⟩
      rw [if_neg held]
      unfold commitDraftFact
      obtain ⟨failure, raised⟩ | ⟨-, -, same⟩ | ⟨absent, -, -, added⟩ :=
        store.draft.commit_cases store.failNext fact
      · rw [raised]
        cases failure with
        | injected message => exact .inl ⟨false, _, rfl, rfl⟩
        | storeCommitError message => exact .inl ⟨store.failNext, _, rfl, rfl⟩
        | draftLedgerChanged message => exact .inl ⟨store.failNext, _, rfl, rfl⟩
        | draftOwnerFrozen message => exact .inl ⟨store.failNext, _, rfl, rfl⟩
      · rw [same]
        exact .inl ⟨store.failNext, _, rfl, rfl⟩
      · rw [added]
        exact .inr (.inr ⟨fact, _, rfl, by simpa using held, absent, rfl⟩)

/-! ## A whole command -/

/-- The creates of a command that the store accepts. -/
def acceptedCreates (rejects : EventData → Bool) : ApiCommand α ε ω → ApiStore φ δ ρ →
    ApiTransaction δ → List AcceptedCreate
  | .done _, _, _ => []
  | .raise _, _, _ => []
  | .call operation next, store, transaction =>
    let result := store.perform codec rejects transaction operation
    operation.accepted result.2.2 ++ acceptedCreates rejects (next result.2.2) result.1 result.2.1

end Perform

/-- A command that has begun in `before` and has made the accepted creates. -/
structure Underway (before store : ApiStore φ δ ρ) (transaction : ApiTransaction δ)
    (accepted : List AcceptedCreate) : Prop where
  apiCommands : store.apiCommands = before.apiCommands
  graphStarts : store.graphStartHandoffs = before.graphStartHandoffs
  draftGraphStarts : store.draftGraphStartHandoffs = before.draftGraphStartHandoffs
  dropped : transaction.afterRollback.filterMap Undo.runId? = accepted.map Prod.fst
  runs : ∀ runId, runId ∉ accepted.map Prod.fst → store.load runId = before.load runId
  evolved : ∀ runId, ∃ added,
    store.evolutionSegments runId = before.evolutionSegments runId ++ added
  unevolved : (∀ runId, store.evolutionSegments runId = before.evolutionSegments runId) ↔
    ∀ create ∈ accepted, create.2 = none
  draft : DraftUnderway before.draft store.draft (transaction.afterRollback.filterMap Undo.fact?)
    transaction.holdsLock

theorem Underway.start (before : ApiStore φ δ ρ) : Underway before before ⟨[], false⟩ [] where
  apiCommands := rfl
  graphStarts := rfl
  draftGraphStarts := rfl
  dropped := rfl
  runs _ _ := rfl
  evolved _ := ⟨[], (List.append_nil _).symm⟩
  unevolved := by simp
  draft := .inl ⟨rfl, rfl, rfl⟩

variable {transaction : ApiTransaction δ}

theorem Underway.created {before store after : ApiStore φ δ ρ} {accepted : List AcceptedCreate}
    (underway : Underway before store transaction accepted) {runId : RunId}
    {evolution : Option EvolutionSegmentDraft} (created : store.Created runId evolution after) :
    Underway before after { transaction with
      afterRollback := transaction.afterRollback ++ [.popSnapshot runId] }
      (accepted ++ [(runId, evolution)]) where
  apiCommands := created.apiCommands.trans underway.apiCommands
  graphStarts := created.graphStarts.trans underway.graphStarts
  draftGraphStarts := created.draftGraphStarts.trans underway.draftGraphStarts
  dropped := by simp [Undo.runId?, underway.dropped]
  runs other apart := by
    simp only [List.map_append, List.map_cons, List.map_nil, List.mem_append, List.mem_singleton,
      not_or] at apart
    rw [created.runs other apart.2]
    exact underway.runs other apart.1
  evolved other := by
    obtain ⟨first, before_eq⟩ := underway.evolved other
    obtain ⟨second, after_eq⟩ := created.evolved other
    exact ⟨first ++ second, by rw [after_eq, before_eq, List.append_assoc]⟩
  unevolved := by
    constructor
    · intro same
      -- neither the earlier creates nor this one may have added a segment
      have earlier : ∀ other, store.evolutionSegments other = before.evolutionSegments other := by
        intro other
        obtain ⟨first, before_eq⟩ := underway.evolved other
        obtain ⟨second, after_eq⟩ := created.evolved other
        have whole := same other
        rw [after_eq, before_eq, List.append_assoc] at whole
        have added : first ++ second = [] := by simpa using whole
        rw [before_eq, (List.append_eq_nil_iff.mp added).1, List.append_nil]
      intro create member
      rcases List.mem_append.mp member with old | new
      · exact underway.unevolved.mp earlier create old
      · rw [List.mem_singleton.mp new]
        by_contra given
        obtain ⟨entry, segment⟩ := created.segment given
        rw [same runId, earlier runId] at segment
        have lengths := congrArg List.length segment
        simp at lengths
    · intro bare other
      rw [created.unevolved (bare (runId, evolution) (by simp)) other]
      refine underway.unevolved.mpr ?_ other
      intro create member
      exact bare create (List.mem_append_left _ member)
  draft := by
    rw [created.draft]
    simpa [Undo.fact?, List.filterMap_cons] using underway.draft

theorem Underway.added {before store : ApiStore φ δ ρ} {accepted : List AcceptedCreate}
    (underway : Underway before store transaction accepted) (free : transaction.holdsLock = false)
    {fact : PreparedFact φ δ} (absent : store.draft.facts.get? fact.key = none) :
    Underway before { store with draft := store.draft.insertFact fact }
      ⟨transaction.afterRollback ++ [.rollbackDraftFact fact.key (DraftTables.appendedEvents
        ((store.draft.eventsOf fact.receipt.draftId).length + 1) fact.eventData)], true⟩ accepted where
  apiCommands := underway.apiCommands
  graphStarts := underway.graphStarts
  draftGraphStarts := underway.draftGraphStarts
  dropped := by simpa [Undo.runId?, List.filterMap_cons] using underway.dropped
  runs := underway.runs
  evolved := underway.evolved
  unevolved := underway.unevolved
  draft := by
    obtain ⟨-, same, none⟩ | ⟨held, -⟩ := underway.draft
    · rw [same] at absent ⊢
      exact .inr ⟨rfl, fact, absent, rfl, by simp [Undo.fact?, none]⟩
    · rw [free] at held
      cases held

section Execute

variable [DecidableEq φ] [DecidableEq δ] {codec : ApiCodec α ε φ δ}

variable (codec) in
theorem runCommand_underway (rejects : EventData → Bool) (command : ApiCommand α ε ω)
    {before store : ApiStore φ δ ρ} {transaction : ApiTransaction δ}
    {accepted : List AcceptedCreate} (underway : Underway before store transaction accepted) :
    Underway before (runCommand codec rejects command store transaction).1
      (runCommand codec rejects command store transaction).2.1
      (accepted ++ acceptedCreates codec rejects command store transaction) := by
  induction command generalizing store transaction accepted with
  | done value => simpa [runCommand, acceptedCreates] using underway
  | raise failure => simpa [runCommand, acceptedCreates] using underway
  | call operation next ih =>
    simp only [runCommand, acceptedCreates]
    rw [← List.append_assoc]
    apply ih
    obtain ⟨failNext, answer, none, performed⟩ |
        ⟨after, answer, runId, evolution, one, created, performed⟩ |
        ⟨fact, answer, none, free, absent, performed⟩ :=
      store.perform_cases codec rejects transaction operation
    · rw [performed, none, List.append_nil]
      exact ⟨underway.apiCommands, underway.graphStarts, underway.draftGraphStarts,
        underway.dropped, underway.runs, underway.evolved, underway.unevolved, underway.draft⟩
    · rw [performed, one]
      exact underway.created created
    · rw [performed, none, List.append_nil]
      exact underway.added free absent

end Execute

/-! ## After the rollback -/

/-- The Draft tables of every history: numbered events, and no events without their fact. -/
structure DraftsSound (tables : DraftTables φ δ) : Prop where
  numbered : ∀ draftId, DraftTables.Numbered (tables.eventsOf draftId)
  specced : ∀ key, tables.facts.get? key = none → tables.eventSpecs.get? key = none

/-- The same facts and events of Drafts. -/
structure SameDrafts (before after : DraftTables φ δ) : Prop where
  facts : ∀ key, after.facts.get? key = before.facts.get? key
  specs : ∀ key, after.eventSpecs.get? key = before.eventSpecs.get? key
  events : ∀ draftId, after.eventsOf draftId = before.eventsOf draftId

/-- The same Runs with their events, evolution segments, Draft facts and events, outcomes and
handoffs. -/
structure SameTables (before after : ApiStore φ δ ρ) : Prop where
  runs : ∀ runId, after.load runId = before.load runId
  evolution : ∀ runId, after.evolutionSegments runId = before.evolutionSegments runId
  drafts : SameDrafts before.draft after.draft
  apiCommands : after.apiCommands = before.apiCommands
  graphStarts : after.graphStartHandoffs = before.graphStartHandoffs
  draftGraphStarts : after.draftGraphStartHandoffs = before.draftGraphStartHandoffs

theorem DraftsSound.empty : DraftsSound (DraftTables.empty : DraftTables φ δ) where
  numbered _ := rfl
  specced _ _ := rfl

theorem DraftsSound.insertFact {tables : DraftTables φ δ} (sound : DraftsSound tables)
    (fact : PreparedFact φ δ) : DraftsSound (tables.insertFact fact) where
  numbered draftId := by
    rw [DraftTables.eventsOf_insertFact]
    by_cases same : draftId = fact.receipt.draftId
    · rw [if_pos same]
      exact (sound.numbered draftId).append fact.eventData
    · rw [if_neg same]
      exact sound.numbered draftId
  specced key absent := by
    change (tables.facts.set fact.key _).get? key = none at absent
    show (tables.eventSpecs.set fact.key _).get? key = none
    rw [Dict.get?_set] at absent ⊢
    by_cases same : key = fact.key
    · rw [if_pos same] at absent
      cases absent
    · rw [if_neg same] at absent ⊢
      exact sound.specced key absent

theorem DraftsSound.of_same {before after : DraftTables φ δ} (sound : DraftsSound before)
    (same : SameDrafts before after) : DraftsSound after where
  numbered draftId := by
    rw [same.events]
    exact sound.numbered draftId
  specced key absent := by
    rw [same.facts] at absent
    rw [same.specs]
    exact sound.specced key absent

theorem DraftUnderway.rollback {before tables : DraftTables φ δ} (sound : DraftsSound before)
    {facts : List (DraftFactKey × List (DraftSessionEvent δ))} {holdsLock : Bool}
    (underway : DraftUnderway before tables facts holdsLock) :
    SameDrafts before (facts.foldl (fun tables fact => tables.rollbackDraftFact fact.1 fact.2)
      tables) := by
  obtain ⟨-, rfl, rfl⟩ | ⟨-, fact, absent, rfl, rfl⟩ := underway
  · exact ⟨fun _ => rfl, fun _ => rfl, fun _ => rfl⟩
  have last : (before.insertFact fact).eventsOf fact.key.1 = before.eventsOf fact.key.1 ++
      DraftTables.appendedEvents ((before.eventsOf fact.key.1).length + 1) fact.eventData := by
    rw [DraftTables.eventsOf_insertFact]
    exact if_pos rfl
  have numbered := (sound.insertFact fact).numbered fact.key.1
  rw [last] at numbered
  obtain ⟨facts, specs, events⟩ := DraftTables.rollbackDraftFact_spec last numbered
  refine ⟨fun key => ?_, fun key => ?_, fun draftId => ?_⟩
  · refine (facts key).trans ?_
    by_cases same : key = fact.key
    · rw [if_pos same, same, absent]
    · rw [if_neg same]
      exact (Dict.get?_set _ _ _ _).trans (if_neg same)
  · refine (specs key).trans ?_
    by_cases same : key = fact.key
    · rw [if_pos same, same, sound.specced _ absent]
    · rw [if_neg same]
      exact (Dict.get?_set _ _ _ _).trans (if_neg same)
  · refine (events draftId).trans ?_
    by_cases same : draftId = fact.key.1
    · rw [if_pos same, same]
    · rw [if_neg same, DraftTables.eventsOf_insertFact]
      exact if_neg same

theorem Underway.rollback_iff {before store : ApiStore φ δ ρ} {accepted : List AcceptedCreate}
    (sound : DraftsSound before.draft) (underway : Underway before store transaction accepted) :
    SameTables before (store.rollback transaction) ↔
      ∀ create ∈ accepted, before.load create.1 = none ∧ create.2 = none := by
  have runs := load_rollback transaction.afterRollback store
  have drafts := draft_rollback transaction.afterRollback store
  obtain ⟨evolution, apiCommands, graphStarts, draftGraphStarts⟩ :=
    rest_rollback transaction.afterRollback store
  have segments : ∀ runId, (store.rollback transaction).evolutionSegments runId =
      store.evolutionSegments runId := by
    intro runId
    exact congrArg (fun entries => (Dict.get? entries runId).getD []) evolution
  rw [underway.dropped] at runs
  constructor
  · intro same create member
    constructor
    · rw [← same.runs create.1]
      refine (runs create.1).trans (if_pos ?_)
      exact List.mem_map_of_mem member
    · refine underway.unevolved.mp (fun runId => ?_) create member
      rw [← segments runId]
      exact same.evolution runId
  · intro fresh
    refine ⟨fun runId => ?_, fun runId => ?_, ?_, ?_, ?_, ?_⟩
    · refine (runs runId).trans ?_
      by_cases created : runId ∈ accepted.map Prod.fst
      · rw [if_pos created]
        obtain ⟨create, member, rfl⟩ := List.mem_map.mp created
        exact (fresh create member).1.symm
      · rw [if_neg created]
        exact underway.runs runId created
    · rw [segments runId]
      exact underway.unevolved.mpr (fun create member => (fresh create member).2) runId
    · have restored := underway.draft.rollback sound
      rw [← drafts] at restored
      exact restored
    · exact apiCommands.trans underway.apiCommands
    · exact graphStarts.trans underway.graphStarts
    · exact draftGraphStarts.trans underway.draftGraphStarts

/-! ## Histories -/

/-- The other calls of the store: a Draft fact outside of a transaction, the calls for Runs,
and the ends of graph starts. -/
inductive OtherCall (α ε : Type) where
  | commitDraftOwnerFact (call : DraftCall α ε)
  | store (input : StoreInput)
  | markGraphStartStarted (runId : RunId) (receiptKey : String)
  | markDraftGraphStartStarted (draftId : UUID) (receiptKey : String)

/-- A call of the store; an API command comes with the time at its start. -/
inductive Input (α ε ω ρ : Type) where
  | executeApiCommand (call : ApiCall α ε ω ρ) (now : Nat)
  | other (call : OtherCall α ε)

section Histories

variable [DecidableEq φ] [DecidableEq δ] (codec : ApiCodec α ε φ δ)

/-- The store after another call. -/
def other (store : ApiStore φ δ ρ) : OtherCall α ε → ApiStore φ δ ρ
  | .commitDraftOwnerFact call =>
    match codec.prepareFact call with
    | .error _ => store
    | .ok fact => (store.commitDraftFact fact).1
  | .store input => { store with toEvolvingStore := store.toEvolvingStore.step codec.intentDigest input }
  | .markGraphStartStarted runId receiptKey =>
    if store.graphStartHandoffs.get? runId ≠ some receiptKey then store
    else { store with graphStartHandoffs := store.graphStartHandoffs.erase runId }
  | .markDraftGraphStartStarted draftId receiptKey =>
    if (store.draftGraphStartHandoffs.get? (draftId, receiptKey)).isNone then store
    else
      { store with
        draftGraphStartHandoffs := store.draftGraphStartHandoffs.set (draftId, receiptKey) .started }

/-- The store after a call. -/
def step (store : ApiStore φ δ ρ) : Input α ε ω ρ → ApiStore φ δ ρ
  | .executeApiCommand call now => (store.executeApiCommand codec call now).1
  | .other call => store.other codec call

/-- Every create of the command that the store accepts is for a Run that the store does not
have before the call, and stages no evolution segment. -/
def CreatesNew (store : ApiStore φ δ ρ) (call : ApiCall α ε ω ρ) : Prop :=
  ∀ create ∈ acceptedCreates codec call.rejects call.command store ⟨[], false⟩,
    store.load create.1 = none ∧ create.2 = none

/-- A call that raises leaves the tables what they were exactly when its command creates new
Runs without segments. -/
def AtomicWhenNew (store : ApiStore φ δ ρ) : Input α ε ω ρ → Prop
  | .executeApiCommand call now =>
    ∀ failure, (store.executeApiCommand codec call now).2 = .error failure →
      (SameTables store (store.executeApiCommand codec call now).1 ↔ store.CreatesNew codec call)
  | .other _ => True

variable {codec} {store : ApiStore φ δ ρ}

theorem executeApiCommand_raised {call : ApiCall α ε ω ρ} {now : Nat} {failure : ApiFailure}
    (raised : (store.executeApiCommand codec call now).2 = .error failure) :
    (store.executeApiCommand codec call now).1 =
      (runCommand codec call.rejects call.command store ⟨[], false⟩).1.rollback
        (runCommand codec call.rejects call.command store ⟨[], false⟩).2.1 := by
  unfold executeApiCommand at raised ⊢
  cases live : store.liveOutcome call.scope now with
  | some entry =>
    rw [live] at raised
    dsimp only at raised
    split at raised
    · cases raised
    · cases raised
  | none =>
    rw [live] at raised
    dsimp only at raised ⊢
    unfold runApiCommand at raised ⊢
    dsimp only at raised ⊢
    split at raised
    · rfl
    · cases raised

theorem commitDraftFact_spec (store : ApiStore φ δ ρ) (fact : PreparedFact φ δ) :
    ((store.commitDraftFact fact).1.draft = store.draft ∨
      (store.commitDraftFact fact).1.draft = store.draft.insertFact fact) ∧
    (store.commitDraftFact fact).1.apiCommands = store.apiCommands := by
  unfold commitDraftFact
  obtain ⟨failure, raised⟩ | ⟨-, -, same⟩ | ⟨-, -, -, added⟩ :=
    store.draft.commit_cases store.failNext fact
  · rw [raised]
    cases failure with
    | injected message => exact ⟨.inl rfl, rfl⟩
    | storeCommitError message => exact ⟨.inl rfl, rfl⟩
    | draftLedgerChanged message => exact ⟨.inl rfl, rfl⟩
    | draftOwnerFrozen message => exact ⟨.inl rfl, rfl⟩
  · rw [same]
    exact ⟨.inl rfl, rfl⟩
  · rw [added]
    exact ⟨.inr rfl, rfl⟩

theorem other_spec (call : OtherCall α ε) :
    (DraftsSound store.draft → DraftsSound (store.other codec call).draft) ∧
      (store.other codec call).apiCommands = store.apiCommands := by
  cases call with
  | commitDraftOwnerFact call =>
    unfold other
    dsimp only
    cases codec.prepareFact call with
    | error failure => exact ⟨id, rfl⟩
    | ok fact =>
      obtain ⟨drafts, outcomes⟩ := store.commitDraftFact_spec fact
      refine ⟨fun sound => ?_, outcomes⟩
      show DraftsSound (store.commitDraftFact fact).1.draft
      rcases drafts with same | added
      · rw [same]
        exact sound
      · rw [added]
        exact sound.insertFact fact
  | store input => exact ⟨id, rfl⟩
  | markGraphStartStarted runId receiptKey =>
    unfold other
    dsimp only
    split
    · exact ⟨id, rfl⟩
    · exact ⟨id, rfl⟩
  | markDraftGraphStartStarted draftId receiptKey =>
    unfold other
    dsimp only
    split
    · exact ⟨id, rfl⟩
    · exact ⟨id, rfl⟩

theorem executeApiCommand_sound (sound : DraftsSound store.draft) (call : ApiCall α ε ω ρ)
    (now : Nat) : DraftsSound (store.executeApiCommand codec call now).1.draft := by
  have underway := runCommand_underway codec call.rejects call.command
    (Underway.start store)
  unfold executeApiCommand
  cases store.liveOutcome call.scope now with
  | some entry =>
    dsimp only
    split
    · exact sound
    · exact sound
  | none =>
    dsimp only
    unfold runApiCommand
    dsimp only
    split
    · show DraftsSound (ApiStore.rollback _ _).draft
      unfold ApiStore.rollback
      rw [draft_rollback]
      exact sound.of_same (underway.draft.rollback sound)
    · obtain ⟨-, same, -⟩ | ⟨-, fact, -, added, -⟩ := underway.draft
      · show DraftsSound (runCommand codec call.rejects call.command store ⟨[], false⟩).1.draft
        rw [same]
        exact sound
      · show DraftsSound (runCommand codec call.rejects call.command store ⟨[], false⟩).1.draft
        rw [added]
        exact sound.insertFact fact

theorem step_sound (sound : DraftsSound store.draft) (input : Input α ε ω ρ) :
    DraftsSound (store.step codec input).draft := by
  cases input with
  | executeApiCommand call now => exact executeApiCommand_sound sound call now
  | other call => exact (other_spec call).1 sound

variable (codec) in
/-- In every history, an API command that raises leaves the tables what they were exactly when
the creates that were accepted are for new Runs and without evolution segments. -/
theorem raising_command_undone (inputs : List (Input α ε ω ρ)) :
    Along (step codec) (AtomicWhenNew codec) (empty : ApiStore φ δ ρ) inputs := by
  refine along_of_invariant (fun store => DraftsSound store.draft)
    (fun store input sound => step_sound sound input) ?_ .empty inputs
  intro store input sound
  cases input with
  | executeApiCommand call now =>
    intro failure raised
    rw [executeApiCommand_raised raised]
    have underway := runCommand_underway codec call.rejects call.command
      (Underway.start store)
    exact underway.rollback_iff sound
  | other call => trivial

end Histories

end ApiStore

/-! ## A command that creates a Run and raises -/

namespace SampleApi

def digest : Sha256 := .zeros

def codec : ApiCodec Unit Unit Unit Unit where
  encode _ := some (digest, ())
  prepare _ := .ok []
  sha256 _ := digest
  intentDigest _ _ := digest

def runId : RunId := ⟨1⟩

/-- The segment of a slice for the Run. -/
def segment : EvolutionSegmentDraft :=
  ⟨runId, ⟨2⟩, "port the parser", "0000000000000000000000000000000000000000000000000000000000000000"⟩

/-- A command that creates the Run and then raises. -/
def creating (evolution : Option EvolutionSegmentDraft) : ApiCall Unit Unit Unit Unit where
  principalId := "user"
  route := "/runs"
  key := "first"
  canonicalBody := []
  statusCode := 201
  command := .call (.create (RunState.default runId) [] evolution) fun _ => .raise (.raised "stop")
  projectResponse _ := .ok ()
  ownerReceipt _ := .ok none
  createDraftGraphHandoff := false
  rejects _ := false

/-- The store with the Run. -/
def occupied : ApiStore Unit Unit Unit :=
  runFrom (ApiStore.step codec) .empty
    ([.other (.store ⟨.create (RunState.default runId) [] none, fun _ => false⟩)] :
      List (ApiStore.Input Unit Unit Unit Unit))

end SampleApi

open SampleApi in
/-- The rollback drops a Run that was there before, and leaves the segment of a new one. -/
theorem raising_command_kept_changes :
    ((occupied.executeApiCommand codec (creating none) 0).2 = .error (.raised "stop") ∧
      ¬ ApiStore.SameTables occupied (occupied.executeApiCommand codec (creating none) 0).1) ∧
    ((ApiStore.empty.executeApiCommand codec (creating (some segment)) 0).2 =
        .error (.raised "stop") ∧
      ¬ ApiStore.SameTables .empty
        (ApiStore.empty.executeApiCommand codec (creating (some segment)) 0).1) := by
  have dropped : (occupied.load runId).isSome = true ∧
      ((occupied.executeApiCommand codec (creating none) 0).1.load runId).isSome = false := by
    decide
  have left : ((ApiStore.empty.executeApiCommand codec (creating (some segment)) 0
      ).1.evolutionSegments runId).length = 1 := by
    decide
  refine ⟨⟨rfl, ?_⟩, ⟨rfl, ?_⟩⟩
  · intro same
    rw [same.runs runId, dropped.1] at dropped
    cases dropped.2
  · intro same
    rw [same.evolution runId] at left
    cases left

end CodeMigrator
