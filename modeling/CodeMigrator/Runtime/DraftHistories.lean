import CodeMigrator.Runtime.DraftFacts

/-!
# Histories of Draft facts

Sequences of `commit_draft_owner_fact`, outside and inside of transactions that commit or
roll back. A transaction that has added a fact holds the store's lock until it ends, so that
no other commit comes between the fact and its rollback.
-/

namespace CodeMigrator
open Lib

/-! ## What a commit can do -/

namespace DraftTables

section Commit

variable {φ δ : Type} [DecidableEq φ] [DecidableEq δ]

theorem commit_cases (tables : DraftTables φ δ) (fails : Bool) (fact : PreparedFact φ δ) :
    (∃ failure, tables.commitDraftFactLocked fails fact = (tables, .error failure)) ∨
    (tables.facts.get? fact.key = some (fact.receipt, fact.payload) ∧
      tables.eventSpecs.get? fact.key = some fact.eventData ∧
      tables.commitDraftFactLocked fails fact = (tables, .ok ⟨fact.receipt, [], false⟩)) ∨
    (tables.facts.get? fact.key = none ∧
      (fact.receipt.category ∈ draftMutableLedgerCategories →
        tables.facts.get? (fact.receipt.draftId, freezeKey) = none) ∧
      (fact.receipt.category = "draft.freeze" → ∀ expected,
        fact.expectedExistingFacts = some expected →
        tables.receiptsOf fact.receipt.draftId = sortedReceipts expected) ∧
      tables.commitDraftFactLocked fails fact = (tables.insertFact fact,
        .ok ⟨fact.receipt, appendedEvents ((tables.eventsOf fact.receipt.draftId).length + 1)
          fact.eventData, true⟩)) := by
  unfold commitDraftFactLocked
  cases known : tables.facts.get? fact.key with
  | some previous =>
    dsimp only
    by_cases differs : previous.1 ≠ fact.receipt ∨ previous.2 ≠ fact.payload ∨
        tables.eventSpecs.get? fact.key ≠ some fact.eventData
    · rw [if_pos differs]
      exact .inl ⟨_, rfl⟩
    · rw [if_neg differs]
      rw [not_or, not_or, not_not, not_not, not_not] at differs
      obtain ⟨receipt, payload, specs⟩ := differs
      refine .inr (.inl ⟨?_, specs, ?_⟩)
      · rw [← receipt, ← payload]
      · rw [receipt]
  | none =>
    dsimp only
    split
    · exact .inl ⟨_, rfl⟩
    rename_i agrees
    split
    · exact .inl ⟨_, rfl⟩
    rename_i unfrozen
    split
    · exact .inl ⟨_, rfl⟩
    refine .inr (.inr ⟨rfl, ?_, ?_, rfl⟩)
    · intro isMutable
      by_contra frozen
      exact unfrozen ⟨isMutable, Option.isSome_iff_ne_none.mpr frozen⟩
    · intro isFreeze expected given
      by_contra different
      apply agrees
      rw [given]
      exact ⟨isFreeze, by simpa using different⟩

theorem commit_known {tables : DraftTables φ δ} (fails : Bool) {fact : PreparedFact φ δ}
    {previous : DraftOwnerReceipt × φ} {specs : List (String × δ)}
    (known : tables.facts.get? fact.key = some previous)
    (stored : tables.eventSpecs.get? fact.key = some specs) :
    (previous = (fact.receipt, fact.payload) ∧ specs = fact.eventData →
      tables.commitDraftFactLocked fails fact = (tables, .ok ⟨previous.1, [], false⟩)) ∧
    (¬ (previous = (fact.receipt, fact.payload) ∧ specs = fact.eventData) →
      tables.commitDraftFactLocked fails fact =
        (tables, .error (.storeCommitError "Draft owner fact replay mismatch"))) := by
  unfold commitDraftFactLocked
  rw [known, stored]
  dsimp only
  constructor
  · rintro ⟨rfl, rfl⟩
    simp
  · intro differs
    rw [if_pos]
    by_contra same
    rw [not_or, not_or, not_not, not_not, not_not] at same
    apply differs
    obtain ⟨receipt, payload, specs⟩ := same
    exact ⟨Prod.ext receipt payload, Option.some.inj specs⟩

end Commit

variable {φ δ : Type} {earlier appended : List (DraftSessionEvent δ)}

/-! ## Sequence numbers -/

/-- The events are numbered from one. -/
def Numbered (events : List (DraftSessionEvent δ)) : Prop :=
  events.map (·.sequence) = List.range' 1 events.length

theorem appendedEvents_sequences (first : Nat) (eventData : List (String × δ)) :
    (appendedEvents first eventData).map (·.sequence) = List.range' first eventData.length := by
  apply List.ext_getElem?
  intro index
  simp only [appendedEvents, List.getElem?_map, List.getElem?_mapIdx, Option.map_map]
  by_cases bound : index < eventData.length
  · simp [bound]
  · rw [List.getElem?_eq_none (by omega), List.getElem?_eq_none (by simpa using bound)]
    rfl

theorem length_appendedEvents (first : Nat) (eventData : List (String × δ)) :
    (appendedEvents first eventData).length = eventData.length := by
  simp [appendedEvents]

theorem Numbered.append {events : List (DraftSessionEvent δ)} (numbered : Numbered events)
    (eventData : List (String × δ)) :
    Numbered (events ++ appendedEvents (events.length + 1) eventData) := by
  unfold Numbered at numbered ⊢
  rw [List.map_append, numbered, appendedEvents_sequences, List.length_append,
    length_appendedEvents, Nat.add_comm events.length 1, List.range'_append_1]

theorem filter_appended (numbered : Numbered (earlier ++ appended)) :
    Numbered earlier ∧ (earlier ++ appended).filter
      (fun event => event.sequence ∉ appended.map (·.sequence)) = earlier := by
  unfold Numbered at numbered ⊢
  rw [List.map_append, List.length_append, ← List.range'_append_1] at numbered
  obtain ⟨first, second⟩ := List.append_inj numbered (by simp)
  refine ⟨first, ?_⟩
  rw [List.filter_append]
  have kept : earlier.filter (fun event => event.sequence ∉ appended.map (·.sequence)) = earlier := by
    apply List.filter_eq_self.mpr
    intro event member
    have low : event.sequence ∈ List.range' 1 earlier.length := by
      rw [← first]
      exact List.mem_map_of_mem member
    rw [second]
    rw [List.mem_range'_1] at low
    simp only [List.mem_range'_1, decide_eq_true_eq]
    omega
  have removed : appended.filter (fun event => event.sequence ∉ appended.map (·.sequence)) = [] := by
    apply List.filter_eq_nil_iff.mpr
    intro event member
    simpa using ⟨event, member, rfl⟩
  rw [kept, removed, List.append_nil]

/-! ## Insertion and rollback -/

theorem eventsOf_insertFact (tables : DraftTables φ δ) (fact : PreparedFact φ δ) (draftId : UUID) :
    (tables.insertFact fact).eventsOf draftId =
      if draftId = fact.receipt.draftId then
        tables.eventsOf draftId ++
          appendedEvents ((tables.eventsOf draftId).length + 1) fact.eventData
      else tables.eventsOf draftId := by
  simp only [eventsOf, insertFact, Dict.get?_set]
  by_cases same : draftId = fact.receipt.draftId
  · rw [if_pos same, if_pos same, same]
    rfl
  · rw [if_neg same, if_neg same]

theorem rollbackDraftFact_spec {tables : DraftTables φ δ} {key : DraftFactKey}
    (last : tables.eventsOf key.1 = earlier ++ appended) (numbered : Numbered (earlier ++ appended)) :
    (∀ query, (tables.rollbackDraftFact key appended).facts.get? query =
        if query = key then none else tables.facts.get? query) ∧
      (∀ query, (tables.rollbackDraftFact key appended).eventSpecs.get? query =
        if query = key then none else tables.eventSpecs.get? query) ∧
      ∀ draftId, (tables.rollbackDraftFact key appended).eventsOf draftId =
        if draftId = key.1 then earlier else tables.eventsOf draftId := by
  refine ⟨fun query => Dict.get?_erase _ _ _, fun query => Dict.get?_erase _ _ _, ?_⟩
  intro draftId
  have kept := (filter_appended numbered).2
  simp only [rollbackDraftFact, last, kept]
  unfold eventsOf at last ⊢
  dsimp only
  by_cases untouched : (tables.events.get? key.1).isNone = true ∨ appended = []
  · rw [if_pos untouched]
    by_cases same : draftId = key.1
    · rw [if_pos same, same, last]
      rcases untouched with missing | nothing
      · rw [Option.isNone_iff_eq_none.mp missing] at last
        have both : earlier ++ appended = [] := last.symm
        rw [both, (List.append_eq_nil_iff.mp both).1]
      · rw [nothing, List.append_nil]
    · rw [if_neg same]
  · rw [if_neg untouched]
    by_cases none : earlier = []
    · rw [if_pos none, Dict.get?_erase]
      by_cases same : draftId = key.1
      · rw [if_pos same, if_pos same, none]
        rfl
      · rw [if_neg same, if_neg same]
    · rw [if_neg none, Dict.get?_set]
      by_cases same : draftId = key.1
      · rw [if_pos same, if_pos same]
        rfl
      · rw [if_neg same, if_neg same]

end DraftTables

/-! ## Histories -/

/-- The tables, the flag of an injected failure, and the fact of a transaction that has not
ended, with its events; such a transaction holds the lock. -/
structure DraftStore (φ δ : Type) where
  tables : DraftTables φ δ
  failNext : Bool
  pending : Option (DraftFactKey × List (DraftSessionEvent δ))

/-- What can happen: a commit, outside or inside of a transaction, the end of the transaction,
or `fail_next_commit`. -/
inductive DraftInput (α ε : Type) where
  | commit (call : DraftCall α ε) (inTransaction : Bool)
  | finish (committed : Bool)
  | failNextCommit

namespace DraftStore

variable {α ε φ δ : Type}

/-- `InMemoryRuntimeStore()`. -/
def empty : DraftStore φ δ := ⟨.empty, false, none⟩

/-- The end of the transaction. -/
def finish (store : DraftStore φ δ) (committed : Bool) : DraftStore φ δ :=
  match store.pending with
  | none => store
  | some (key, appended) =>
    { store with
      tables := if committed then store.tables else store.tables.rollbackDraftFact key appended
      pending := none }

section Step

variable [DecidableEq φ] [DecidableEq δ] (codec : DraftCodec α ε φ δ)

/-- `commit_draft_owner_fact`; without an answer it waits for the lock. -/
def commitDraftOwnerFact (store : DraftStore φ δ) (call : DraftCall α ε) (inTransaction : Bool) :
    DraftStore φ δ × Option (Except DraftFailure DraftOwnerReceipt) :=
  match codec.prepareFact call with
  | .error failure => (store, some (.error failure))
  | .ok fact =>
    if store.pending.isSome then (store, none)
    else
      match store.tables.commitDraftFactLocked store.failNext fact with
      | (_, .error (.injected message)) =>
        ({ store with failNext := false }, some (.error (.injected message)))
      | (_, .error failure) => (store, some (.error failure))
      | (tables, .ok committed) =>
        ({ store with
            tables := tables
            pending :=
              if inTransaction ∧ committed.created then some (fact.key, committed.appended)
              else none }, some (.ok committed.receipt))

/-- The step of an input. -/
def step (store : DraftStore φ δ) : DraftInput α ε → DraftStore φ δ
  | .commit call inTransaction => (store.commitDraftOwnerFact codec call inTransaction).1
  | .finish committed => store.finish committed
  | .failNextCommit => { store with failNext := true }

end Step

/-- A fact with its events that no open transaction can roll back. -/
def Committed (store : DraftStore φ δ) (key : DraftFactKey) (fact : DraftOwnerReceipt × φ)
    (specs : List (String × δ)) : Prop :=
  store.tables.facts.get? key = some fact ∧ store.tables.eventSpecs.get? key = some specs ∧
    store.pending.map Prod.fst ≠ some key

/-- Committed facts stay what they are. -/
def FactsKept (earlier later : DraftStore φ δ) : Prop :=
  ∀ key fact specs, earlier.Committed key fact specs → later.Committed key fact specs

/-- The events of every Draft are numbered from one. -/
def EventsNumbered (store : DraftStore φ δ) : Prop :=
  ∀ draftId, DraftTables.Numbered (store.tables.eventsOf draftId)

/-- The fact and the events of the call are those that the store has. -/
def SameFact (codec : DraftCodec α ε φ δ) (call : DraftCall α ε) (previous : DraftOwnerReceipt × φ)
    (specs : List (String × δ)) : Prop :=
  ∃ fact, codec.prepareFact call = .ok fact ∧ previous = (fact.receipt, fact.payload) ∧
    specs = fact.eventData

section Rules

variable [DecidableEq φ] [DecidableEq δ] (codec : DraftCodec α ε φ δ)

/-- The replay of a committed fact: the same fact gets the same receipt, and any other one
raises; neither changes the store. -/
def ReplaySound (store : DraftStore φ δ) (call : DraftCall α ε) (inTransaction : Bool) : Prop :=
  ∀ previous specs, store.pending = none →
    store.Committed (call.draftId, call.receiptKey) previous specs →
    (SameFact codec call previous specs →
      store.commitDraftOwnerFact codec call inTransaction = (store, some (.ok previous.1))) ∧
    (¬ SameFact codec call previous specs → ∃ failure,
      store.commitDraftOwnerFact codec call inTransaction = (store, some (.error failure)))

/-- The facts that a commit may add: none of a mutable category after the freeze, and a freeze
only over the facts that its caller has seen. -/
def AdditionSound (store : DraftStore φ δ) (call : DraftCall α ε) (inTransaction : Bool) : Prop :=
  ∀ key stored,
    (store.commitDraftOwnerFact codec call inTransaction).1.tables.facts.get? key = some stored →
    store.tables.facts.get? key = none →
    (stored.1.category ∈ draftMutableLedgerCategories →
      store.tables.facts.get? (key.1, freezeKey) = none) ∧
    (stored.1.category = "draft.freeze" → ∀ expected, call.expectedExistingFacts = some expected →
      expected.Perm (store.tables.receiptsOf key.1))

/-- A commit that returns has stored the fact of its call. -/
def AnswerSound (store : DraftStore φ δ) (call : DraftCall α ε) (inTransaction : Bool) : Prop :=
  ∀ receipt,
    (store.commitDraftOwnerFact codec call inTransaction).2 = some (.ok receipt) →
    ∃ fact, codec.prepareFact call = .ok fact ∧ receipt = fact.receipt ∧
      (store.commitDraftOwnerFact codec call inTransaction).1.tables.facts.get? fact.key =
        some (fact.receipt, fact.payload) ∧
      (store.commitDraftOwnerFact codec call inTransaction).1.tables.eventSpecs.get? fact.key =
        some fact.eventData

/-- The rules of every commit. -/
def CommitSound (store : DraftStore φ δ) : DraftInput α ε → Prop
  | .commit call inTransaction =>
    store.ReplaySound codec call inTransaction ∧ store.AdditionSound codec call inTransaction ∧
      store.AnswerSound codec call inTransaction
  | .finish _ | .failNextCommit => True

end Rules

/-! ## The invariant -/

/-- The events are numbered, and those of the open transaction are the last ones of their
Draft. -/
structure DraftSound (store : DraftStore φ δ) : Prop where
  numbered : store.EventsNumbered
  pendingLast : ∀ key appended, store.pending = some (key, appended) →
    ∃ earlier, store.tables.eventsOf key.1 = earlier ++ appended

theorem DraftSound.empty : DraftSound (DraftStore.empty : DraftStore φ δ) where
  numbered _ := rfl
  pendingLast _ _ isSome := by cases isSome

theorem finish_spec {store : DraftStore φ δ} (sound : store.DraftSound) (committed : Bool) :
    (store.finish committed).DraftSound ∧ store.FactsKept (store.finish committed) := by
  unfold finish
  cases opened : store.pending with
  | none => exact ⟨sound, fun _ _ _ stored => stored⟩
  | some pending =>
    obtain ⟨key, appended⟩ := pending
    obtain ⟨earlier, last⟩ := sound.pendingLast key appended opened
    have numbered := sound.numbered key.1
    rw [last] at numbered
    obtain ⟨facts, specs, events⟩ := DraftTables.rollbackDraftFact_spec last numbered
    cases committed with
    | true =>
      refine ⟨⟨sound.numbered, fun _ _ isSome => by cases isSome⟩, ?_⟩
      rintro other fact specs ⟨found, stored, -⟩
      exact ⟨found, stored, by simp⟩
    | false =>
      refine ⟨⟨fun draftId => ?_, fun _ _ isSome => by cases isSome⟩, ?_⟩
      · show DraftTables.Numbered ((store.tables.rollbackDraftFact key appended).eventsOf draftId)
        rw [events]
        by_cases same : draftId = key.1
        · rw [if_pos same]
          exact (DraftTables.filter_appended numbered).1
        · rw [if_neg same]
          exact sound.numbered draftId
      · rintro other fact specs' ⟨found, stored, apart⟩
        have other_ne : other ≠ key := by
          rintro rfl
          exact apart (by rw [opened]; rfl)
        refine ⟨?_, ?_, by simp⟩
        · show (store.tables.rollbackDraftFact key appended).facts.get? other = some fact
          rw [facts, if_neg other_ne, found]
        · show (store.tables.rollbackDraftFact key appended).eventSpecs.get? other = some specs'
          rw [specs, if_neg other_ne, stored]

section Steps

variable [DecidableEq φ] [DecidableEq δ] {codec : DraftCodec α ε φ δ}

variable (codec) in
theorem commitDraftOwnerFact_cases (store : DraftStore φ δ) (call : DraftCall α ε)
    (inTransaction : Bool) :
    (∃ failNext failure, store.commitDraftOwnerFact codec call inTransaction =
      ({ store with failNext := failNext }, some (.error failure))) ∨
    (store.pending.isSome ∧ store.commitDraftOwnerFact codec call inTransaction = (store, none)) ∨
    (∃ fact, codec.prepareFact call = .ok fact ∧ store.pending = none ∧
      store.tables.facts.get? fact.key = some (fact.receipt, fact.payload) ∧
      store.tables.eventSpecs.get? fact.key = some fact.eventData ∧
      store.commitDraftOwnerFact codec call inTransaction = (store, some (.ok fact.receipt))) ∨
    (∃ fact, codec.prepareFact call = .ok fact ∧ store.pending = none ∧
      store.tables.facts.get? fact.key = none ∧
      (fact.receipt.category ∈ draftMutableLedgerCategories →
        store.tables.facts.get? (fact.receipt.draftId, freezeKey) = none) ∧
      (fact.receipt.category = "draft.freeze" → ∀ expected,
        fact.expectedExistingFacts = some expected →
        store.tables.receiptsOf fact.receipt.draftId = sortedReceipts expected) ∧
      store.commitDraftOwnerFact codec call inTransaction =
        ({ store with
            tables := store.tables.insertFact fact
            pending :=
              if inTransaction then
                some (fact.key, DraftTables.appendedEvents
                  ((store.tables.eventsOf fact.receipt.draftId).length + 1) fact.eventData)
              else none }, some (.ok fact.receipt))) := by
  unfold commitDraftOwnerFact
  cases prepared : codec.prepareFact call with
  | error failure => exact .inl ⟨store.failNext, failure, rfl⟩
  | ok fact =>
    dsimp only
    by_cases held : store.pending.isSome
    · rw [if_pos held]
      exact .inr (.inl ⟨held, rfl⟩)
    · rw [if_neg held]
      have free : store.pending = none := by simpa using held
      obtain ⟨failure, raised⟩ | ⟨known, specs, same⟩ | ⟨absent, unfrozen, agrees, added⟩ :=
        store.tables.commit_cases store.failNext fact
      · rw [raised]
        left
        cases failure with
        | injected message => exact ⟨false, .injected message, rfl⟩
        | storeCommitError message => exact ⟨store.failNext, .storeCommitError message, rfl⟩
        | draftLedgerChanged message => exact ⟨store.failNext, .draftLedgerChanged message, rfl⟩
        | draftOwnerFrozen message => exact ⟨store.failNext, .draftOwnerFrozen message, rfl⟩
      · rw [same]
        refine .inr (.inr (.inl ⟨fact, rfl, free, known, specs, ?_⟩))
        simp [← free]
      · rw [added]
        refine .inr (.inr (.inr ⟨fact, rfl, free, absent, unfrozen, agrees, ?_⟩))
        simp

theorem commitDraftOwnerFact_keeps {store : DraftStore φ δ} (sound : store.DraftSound)
    (call : DraftCall α ε) (inTransaction : Bool) :
    (store.commitDraftOwnerFact codec call inTransaction).1.DraftSound ∧
      store.FactsKept (store.commitDraftOwnerFact codec call inTransaction).1 := by
  obtain ⟨failNext, failure, raised⟩ | ⟨-, waits⟩ | ⟨fact, -, -, -, -, found⟩ |
    ⟨fact, -, free, absent, -, -, added⟩ :=
      store.commitDraftOwnerFact_cases codec call inTransaction
  · rw [raised]
    exact ⟨⟨sound.numbered, sound.pendingLast⟩, fun _ _ _ stored => stored⟩
  · rw [waits]
    exact ⟨sound, fun _ _ _ stored => stored⟩
  · rw [found]
    exact ⟨sound, fun _ _ _ stored => stored⟩
  · rw [added]
    refine ⟨⟨fun draftId => ?_, ?_⟩, ?_⟩
    · show DraftTables.Numbered ((store.tables.insertFact fact).eventsOf draftId)
      rw [DraftTables.eventsOf_insertFact]
      by_cases same : draftId = fact.receipt.draftId
      · rw [if_pos same]
        exact (sound.numbered draftId).append fact.eventData
      · rw [if_neg same]
        exact sound.numbered draftId
    · intro key appended opened
      have given : inTransaction = true := by
        by_contra outside
        simp [outside] at opened
      simp only [given, if_true, Option.some.injEq, Prod.mk.injEq] at opened
      obtain ⟨rfl, rfl⟩ := opened
      refine ⟨store.tables.eventsOf fact.receipt.draftId, ?_⟩
      show (store.tables.insertFact fact).eventsOf fact.receipt.draftId = _
      rw [DraftTables.eventsOf_insertFact, if_pos rfl]
    · rintro key stored specs ⟨found, listed, -⟩
      have key_ne : key ≠ fact.key := by
        rintro rfl
        rw [absent] at found
        cases found
      refine ⟨?_, ?_, ?_⟩
      · show (store.tables.facts.set fact.key _).get? key = some stored
        rw [Dict.get?_set, if_neg key_ne, found]
      · show (store.tables.eventSpecs.set fact.key _).get? key = some specs
        rw [Dict.get?_set, if_neg key_ne, listed]
      · by_cases given : inTransaction
        · simpa [given] using key_ne.symm
        · simp [given]

theorem step_keeps {store : DraftStore φ δ} (sound : store.DraftSound) (input : DraftInput α ε) :
    (store.step codec input).DraftSound ∧ store.FactsKept (store.step codec input) := by
  cases input with
  | commit call inTransaction => exact commitDraftOwnerFact_keeps sound call inTransaction
  | finish committed => exact finish_spec sound committed
  | failNextCommit =>
    exact ⟨⟨sound.numbered, sound.pendingLast⟩, fun _ _ _ stored => stored⟩

/-! ## The rules hold -/

theorem replaySound (store : DraftStore φ δ) (call : DraftCall α ε) (inTransaction : Bool) :
    store.ReplaySound codec call inTransaction := by
  intro previous specs free ⟨known, stored, _⟩
  unfold commitDraftOwnerFact
  cases prepared : codec.prepareFact call with
  | error failure =>
    refine ⟨?_, fun _ => ⟨failure, rfl⟩⟩
    rintro ⟨fact, isOk, -⟩
    rw [prepared] at isOk
    cases isOk
  | ok fact =>
    rw [← (DraftCodec.prepareFact_receipt prepared).1] at known stored
    obtain ⟨same, differs⟩ := DraftTables.commit_known store.failNext known stored
    dsimp only
    rw [if_neg (by simp [free])]
    constructor
    · rintro ⟨other, isOk, equal⟩
      rw [prepared] at isOk
      cases isOk
      rw [same equal]
      simp [← free]
    · intro unequal
      rw [differs (fun equal => unequal ⟨fact, prepared, equal⟩)]
      exact ⟨_, rfl⟩

theorem additionSound (store : DraftStore φ δ) (call : DraftCall α ε) (inTransaction : Bool) :
    store.AdditionSound codec call inTransaction := by
  intro key stored found absent
  obtain ⟨failNext, failure, raised⟩ | ⟨-, waits⟩ | ⟨fact, -, -, -, -, same⟩ |
    ⟨fact, prepared, -, -, unfrozen, agrees, added⟩ :=
      store.commitDraftOwnerFact_cases codec call inTransaction
  · rw [raised, absent] at found
    cases found
  · rw [waits, absent] at found
    cases found
  · rw [same, absent] at found
    cases found
  · rw [added] at found
    change (store.tables.facts.set fact.key _).get? key = some stored at found
    rw [Dict.get?_set] at found
    by_cases isNew : key = fact.key
    · rw [if_pos isNew] at found
      cases found
      subst isNew
      refine ⟨unfrozen, ?_⟩
      intro isFreeze expected given
      have seen := agrees isFreeze expected
        ((DraftCodec.prepareFact_receipt prepared).2.2.trans given)
      show expected.Perm (store.tables.receiptsOf fact.receipt.draftId)
      rw [seen]
      exact (List.perm_insertionSort _ expected).symm
    · rw [if_neg isNew, absent] at found
      cases found

theorem answerSound (store : DraftStore φ δ) (call : DraftCall α ε) (inTransaction : Bool) :
    store.AnswerSound codec call inTransaction := by
  intro receipt answered
  obtain ⟨failNext, failure, raised⟩ | ⟨-, waits⟩ | ⟨fact, prepared, -, known, specs, same⟩ |
    ⟨fact, prepared, -, -, -, -, added⟩ :=
      store.commitDraftOwnerFact_cases codec call inTransaction
  · rw [raised] at answered
    cases answered
  · rw [waits] at answered
    cases answered
  · rw [same] at answered ⊢
    cases answered
    exact ⟨fact, prepared, rfl, known, specs⟩
  · rw [added] at answered ⊢
    cases answered
    refine ⟨fact, prepared, rfl, ?_, ?_⟩
    · show (store.tables.facts.set fact.key _).get? fact.key = _
      rw [Dict.get?_set, if_pos rfl]
    · show (store.tables.eventSpecs.set fact.key _).get? fact.key = _
      rw [Dict.get?_set, if_pos rfl]

theorem commitSound (store : DraftStore φ δ) (input : DraftInput α ε) :
    store.CommitSound codec input := by
  cases input with
  | commit call inTransaction =>
    exact ⟨store.replaySound call inTransaction, store.additionSound call inTransaction,
      store.answerSound call inTransaction⟩
  | finish committed => trivial
  | failNextCommit => trivial

variable (codec) in
/-- In every history of commits and transactions committed facts stay, every commit follows
the rules, and the events of every Draft are numbered from one. -/
theorem draft_ledger_sound (inputs : List (DraftInput α ε)) :
    Throughout (step codec) FactsKept empty inputs ∧
      Along (step codec) (CommitSound codec) empty inputs ∧
      Always (step codec) EventsNumbered empty inputs := by
  have keeps : ∀ (store : DraftStore φ δ) (input : DraftInput α ε), store.DraftSound →
      (store.step codec input).DraftSound := fun store input sound => (step_keeps sound input).1
  refine ⟨?_, ?_, ?_⟩
  · rw [throughout_iff (fun _ _ _ _ stored => stored)
      (fun _ _ _ first second key fact specs stored =>
        second key fact specs (first key fact specs stored))]
    exact along_of_invariant DraftSound keeps (fun store input sound => (step_keeps sound input).2)
      .empty inputs
  · exact along_of_invariant DraftSound keeps (fun store input _ => store.commitSound input)
      .empty inputs
  · intro earlier rest _
    exact (runFrom_invariant DraftSound keeps .empty earlier).numbered

end Steps

end DraftStore

end CodeMigrator
