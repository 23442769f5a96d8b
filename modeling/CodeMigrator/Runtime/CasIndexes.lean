import CodeMigrator.Runtime.Cas

/-!
# Indexes and their references

What the calls of the store do to the references and to the checkpoint and pending-write
indexes. `IndexesSound` is the invariant: an index is found under its own key, and the
reference under its name is its own and has its object.
-/

namespace CodeMigrator
open Lib

/-- An index of either kind. -/
inductive IndexEntry where
  | checkpoint (index : CheckpointIndex)
  | pendingWrite (index : PendingWriteIndex)

namespace IndexEntry

/-- The reference that keeps the object of an index. -/
def reference : IndexEntry → ReferenceKey
  | checkpoint index => index.reference
  | pendingWrite index => index.reference

def object : IndexEntry → CasObject
  | checkpoint index => index.object
  | pendingWrite index => index.object

def threadId : IndexEntry → String
  | checkpoint index => index.threadId
  | pendingWrite index => index.threadId

/-- The dictionary and the key under which an index is recorded. -/
def identity : IndexEntry →
    (String × String × String) ⊕ (String × String × String × String × Int)
  | checkpoint index => .inl index.key
  | pendingWrite index => .inr index.key

end IndexEntry

/-- The store has the index. -/
def IndexedStore.Records (store : IndexedStore) : IndexEntry → Prop
  | .checkpoint index => store.checkpoints.get? index.key = some index
  | .pendingWrite index => store.pendingWrites.get? index.key = some index

/-- Every index is recorded under its own key and has its own reference. -/
structure IndexesSound (store : IndexedStore) : Prop where
  checkpointKeys : ∀ key index, store.checkpoints.get? key = some index → index.key = key
  pendingKeys : ∀ key index, store.pendingWrites.get? key = some index → index.key = key
  referenced : ∀ entry, store.Records entry →
    store.casRefs.get? entry.reference = some entry.object
  distinct : ∀ entry other, store.Records entry → store.Records other →
    entry.reference = other.reference → entry = other

/-- The index that a publication records. -/
def Publication.entry (object : CasObject) : Publication → Option IndexEntry
  | reference _ => none
  | checkpoint address parentCheckpointId => some (.checkpoint ⟨address, parentCheckpointId, object⟩)
  | pendingWrite address taskId writeIndex =>
    some (.pendingWrite ⟨address, taskId, writeIndex, object⟩)

/-- The publication is an index under the reference of another index. -/
def Collides (store : IndexedStore) (publication : Publication) (object : CasObject) : Prop :=
  ∃ entry other, publication.entry object = some entry ∧ store.Records other ∧
    other.reference = entry.reference ∧ other.identity ≠ entry.identity

section Store

variable {store : IndexedStore} {value : CasObject}

theorem IndexesSound.of_references (sound : IndexesSound store)
    {casRefs : Dict ReferenceKey CasObject} {after : IndexedStore}
    (checkpoints : after.checkpoints = store.checkpoints)
    (pendingWrites : after.pendingWrites = store.pendingWrites)
    (refs : after.casRefs = casRefs)
    (kept : ∀ entry, store.Records entry → casRefs.get? entry.reference = some entry.object) :
    IndexesSound after := by
  have same : ∀ entry, after.Records entry ↔ store.Records entry := by
    intro entry
    cases entry with
    | checkpoint index => simp only [IndexedStore.Records, checkpoints]
    | pendingWrite index => simp only [IndexedStore.Records, pendingWrites]
  refine ⟨?_, ?_, ?_, ?_⟩
  · rw [checkpoints]
    exact sound.checkpointKeys
  · rw [pendingWrites]
    exact sound.pendingKeys
  · intro entry recorded
    rw [refs]
    exact kept entry ((same entry).mp recorded)
  · intro entry other recorded known
    exact sound.distinct entry other ((same entry).mp recorded) ((same other).mp known)

theorem IndexesSound.of_recorded (sound : IndexesSound store) {after : IndexedStore}
    (added : IndexEntry)
    (checkpointKeys : ∀ key index, after.checkpoints.get? key = some index → index.key = key)
    (pendingKeys : ∀ key index, after.pendingWrites.get? key = some index → index.key = key)
    (records : ∀ entry, after.Records entry →
      entry = added ∨ store.Records entry ∧ entry.identity ≠ added.identity)
    (refs : ∀ query, after.casRefs.get? query =
      if query = added.reference then some added.object else store.casRefs.get? query)
    (apart : ∀ other, store.Records other → other.identity ≠ added.identity →
      other.reference ≠ added.reference) : IndexesSound after := by
  refine ⟨checkpointKeys, pendingKeys, ?_, ?_⟩
  · intro entry recorded
    rw [refs]
    rcases records entry recorded with rfl | ⟨earlier, different⟩
    · rw [if_pos rfl]
    · rw [if_neg (apart entry earlier different)]
      exact sound.referenced entry earlier
  · intro entry other recorded known same
    rcases records entry recorded with rfl | ⟨earlier, different⟩
    · rcases records other known with rfl | ⟨earlier, different⟩
      · rfl
      · exact absurd same.symm (apart other earlier different)
    · rcases records other known with rfl | ⟨also, _⟩
      · exact absurd same (apart entry earlier different)
      · exact sound.distinct entry other earlier also same

/-! ## Store calls -/

theorem RuntimeStore.referenceConflict_none {store : RuntimeStore} {ownerKind referenceKey : String}
    {ownerId : UUID} {object existing : CasObject}
    (accepted : store.referenceConflict ownerKind ownerId (referenceKey, object) = none)
    (found : store.casRefs.get? (ownerKind, ownerId, referenceKey) = some existing) :
    existing = object := by
  by_contra different
  simp only [RuntimeStore.referenceConflict, found, if_pos different] at accepted
  cases accepted

theorem record_reference_sound (sound : IndexesSound store) (key : ReferenceKey)
    (object : CasObject) : IndexesSound (Publication.record store object (.reference key)).1 := by
  obtain ⟨ownerKind, ownerId, referenceKey⟩ := key
  simp only [Publication.record, RuntimeStore.addCasReference, RuntimeStore.fail]
  by_cases fails : store.failNext = true
  · simp only [if_pos fails]
    exact sound.of_references rfl rfl rfl sound.referenced
  simp only [if_neg fails]
  cases conflict : store.referenceConflict ownerKind ownerId (referenceKey, object) with
  | some message => exact sound
  | none =>
    refine sound.of_references rfl rfl rfl ?_
    intro entry recorded
    have kept := sound.referenced entry recorded
    rw [Dict.get?_set]
    by_cases same : entry.reference = (ownerKind, ownerId, referenceKey)
    · rw [same] at kept
      rw [if_pos same, RuntimeStore.referenceConflict_none conflict kept]
    · rw [if_neg same]
      exact kept

theorem record_checkpoint_sound (sound : IndexesSound store) (index : CheckpointIndex)
    (apart : ∀ other, store.Records other → other.identity ≠ (IndexEntry.checkpoint index).identity →
      other.reference ≠ index.reference) :
    IndexesSound (store.publishCheckpointIndex index).1 := by
  simp only [IndexedStore.publishCheckpointIndex, IndexedStore.fail]
  by_cases fails : store.failNext = true
  · simp only [if_pos fails]
    exact sound.of_references rfl rfl rfl sound.referenced
  simp only [if_neg fails]
  cases existing : store.checkpoints.get? index.key with
  | some known =>
    dsimp only
    split
    · exact sound
    · exact sound
  | none =>
    dsimp only
    split
    · exact sound
    refine sound.of_recorded (.checkpoint index) ?_ sound.pendingKeys ?_ ?_ apart
    · intro key other found
      rw [Dict.get?_set] at found
      split at found
      · rename_i same
        rw [same, Option.some.inj found]
      · exact sound.checkpointKeys key other found
    · intro entry recorded
      cases entry with
      | pendingWrite other => exact .inr ⟨recorded, Sum.inr_ne_inl⟩
      | checkpoint other =>
        simp only [IndexedStore.Records, Dict.get?_set] at recorded
        by_cases same : other.key = index.key
        · rw [if_pos same] at recorded
          rw [Option.some.inj recorded]
          exact .inl rfl
        · rw [if_neg same] at recorded
          exact .inr ⟨recorded, fun equal => same (Sum.inl.inj equal)⟩
    · intro query
      rw [Dict.get?_set]
      rfl

theorem replaced_reference {existing index : PendingWriteIndex} (keys : existing.key = index.key)
    (owner : IndexedStore.ownedByAnother index.toThreadAddress existing.toThreadAddress = false) :
    existing.reference = index.reference := by
  simp only [PendingWriteIndex.key, Prod.mk.injEq] at keys
  obtain ⟨thread, ns, checkpoint, task, position⟩ := keys
  simp [IndexedStore.ownedByAnother, thread] at owner
  simp only [PendingWriteIndex.reference, thread, ns, checkpoint, task, position, owner]

theorem record_pendingWrite_sound (sound : IndexesSound store) (index : PendingWriteIndex)
    (apart : ∀ other, store.Records other →
      other.identity ≠ (IndexEntry.pendingWrite index).identity →
      other.reference ≠ index.reference) :
    IndexesSound (store.publishPendingWriteIndex index).1 := by
  -- the two branches that write differ in how they come to the new reference
  have written : ∀ casRefs : Dict ReferenceKey CasObject,
      (∀ query, casRefs.get? query =
        if query = index.reference then some index.object else store.casRefs.get? query) →
      IndexesSound { store with
        pendingWrites := store.pendingWrites.set index.key index
        casRefs := casRefs } := by
    intro casRefs refs
    refine sound.of_recorded (.pendingWrite index) sound.checkpointKeys ?_ ?_ refs apart
    · intro key other found
      rw [Dict.get?_set] at found
      split at found
      · rename_i same
        rw [same, Option.some.inj found]
      · exact sound.pendingKeys key other found
    · intro entry recorded
      cases entry with
      | checkpoint other => exact .inr ⟨recorded, Sum.inl_ne_inr⟩
      | pendingWrite other =>
        simp only [IndexedStore.Records, Dict.get?_set] at recorded
        by_cases same : other.key = index.key
        · rw [if_pos same] at recorded
          rw [Option.some.inj recorded]
          exact .inl rfl
        · rw [if_neg same] at recorded
          exact .inr ⟨recorded, fun equal => same (Sum.inr.inj equal)⟩
  simp only [IndexedStore.publishPendingWriteIndex, IndexedStore.fail]
  split
  · exact sound
  rename_i owner
  rw [not_or] at owner
  cases existing : store.pendingWrites.get? index.key with
  | none =>
    dsimp only
    split
    · exact sound.of_references rfl rfl rfl sound.referenced
    · exact written _ (fun query => Dict.get?_set _ _ _ _)
  | some known =>
    dsimp only
    split
    · exact sound
    split
    · exact sound.of_references rfl rfl rfl sound.referenced
    split
    · exact sound
    have same : known.reference = index.reference := by
      apply replaced_reference (sound.pendingKeys _ _ existing)
      have member : known ∈ store.pendingWrites.values :=
        (Dict.mem_values_iff _ _).mpr ⟨_, existing⟩
      simp only [List.any_eq_true, not_exists, not_and, Bool.not_eq_true] at owner
      exact owner.2 known member
    refine written _ ?_
    intro query
    rw [Dict.get?_set, Dict.get?_erase, same]
    split
    · rfl
    · rfl

/-- A publication that does not collide keeps the indexes sound. -/
theorem record_sound (sound : IndexesSound store) {publication : Publication} {object : CasObject}
    (free : ¬ Collides store publication object) :
    IndexesSound (publication.record store object).1 := by
  have apart : ∀ entry, publication.entry object = some entry → ∀ other, store.Records other →
      other.identity ≠ entry.identity → other.reference ≠ entry.reference := by
    intro entry made other recorded different same
    exact free ⟨entry, other, made, recorded, same, different⟩
  cases publication with
  | reference key => exact record_reference_sound sound key object
  | checkpoint address parentCheckpointId => exact record_checkpoint_sound sound _ (apart _ rfl)
  | pendingWrite address taskId writeIndex => exact record_pendingWrite_sound sound _ (apart _ rfl)

theorem record_refs {publication : Publication} {object : CasObject} {key : ReferenceKey}
    (found : (publication.record store object).1.casRefs.get? key = some value) :
    value = object ∨ store.casRefs.get? key = some value := by
  have set_ : ∀ {refs : Dict ReferenceKey CasObject} {target : ReferenceKey},
      (refs.set target object).get? key = some value →
      value = object ∨ refs.get? key = some value := by
    intro refs target set
    rw [Dict.get?_set] at set
    split at set
    · exact .inl (Option.some.inj set).symm
    · exact .inr set
  cases publication with
  | reference target =>
    obtain ⟨ownerKind, ownerId, referenceKey⟩ := target
    simp only [Publication.record, RuntimeStore.addCasReference, RuntimeStore.fail] at found
    repeat' split at found
    all_goals first
      | exact .inr found
      | exact set_ found
  | checkpoint address parentCheckpointId =>
    simp only [Publication.record, IndexedStore.publishCheckpointIndex, IndexedStore.fail] at found
    repeat' split at found
    all_goals first
      | exact .inr found
      | exact set_ found
  | pendingWrite address taskId writeIndex =>
    simp only [Publication.record, IndexedStore.publishPendingWriteIndex,
      IndexedStore.fail] at found
    repeat' split at found
    all_goals first
      | exact .inr found
      | exact set_ found
      | skip
    rcases set_ found with added | earlier
    · exact .inl added
    · rw [Dict.get?_erase] at earlier
      split at earlier
      · cases earlier
      · exact .inr earlier

/-- So does the release of a reference that no entry records. -/
theorem release_sound (sound : IndexesSound store) {key : ReferenceKey}
    (foreign : ∀ entry, store.Records entry → entry.reference ≠ key) :
    IndexesSound (store.releaseCasReference key).1 := by
  unfold IndexedStore.releaseCasReference
  split
  · exact sound
  · refine sound.of_references rfl rfl rfl ?_
    intro entry recorded
    rw [Dict.get?_erase, if_neg (foreign entry recorded)]
    exact sound.referenced entry recorded

theorem release_refs {key query : ReferenceKey}
    (found : (store.releaseCasReference key).1.casRefs.get? query = some value) :
    store.casRefs.get? query = some value := by
  unfold IndexedStore.releaseCasReference at found
  split at found
  · exact found
  · dsimp only at found
    rw [Dict.get?_erase] at found
    split at found
    · cases found
    · exact found

theorem release_kept {key query : ReferenceKey} (found : store.casRefs.get? query = some value)
    (different : query ≠ key) :
    (store.releaseCasReference key).1.casRefs.get? query = some value := by
  unfold IndexedStore.releaseCasReference
  split
  · exact found
  · dsimp only
    rw [Dict.get?_erase, if_neg different]
    exact found

theorem release_last {key : ReferenceKey} {last : CasObject}
    (released : (store.releaseCasReference key).2 = some last) :
    store.casRefs.get? key = some last ∧
      ∀ query value, (store.releaseCasReference key).1.casRefs.get? query = some value →
        value.digest ≠ last.digest := by
  unfold IndexedStore.releaseCasReference at released ⊢
  cases found : store.casRefs.get? key with
  | none =>
    rw [found] at released
    cases released
  | some object =>
    rw [found] at released
    dsimp only at released ⊢
    split at released
    · cases released
    · rename_i unique
      cases released
      refine ⟨rfl, ?_⟩
      intro query value kept same
      apply unique
      rw [List.any_eq_true]
      exact ⟨value, (Dict.mem_values_iff _ _).mpr ⟨query, kept⟩, by simpa using same⟩

theorem mem_threadIndexes (sound : IndexesSound store) {threadId : String} {entry : IndexEntry}
    (recorded : store.Records entry) (key : ReferenceKey)
    (member : key ∈ (store.threadIndexes threadId).map (·.2.1)) (same : entry.reference = key) :
    entry.threadId = threadId := by
  obtain ⟨item, listed, rfl⟩ := List.mem_map.mp member
  rcases List.mem_append.mp listed with first | second
  · obtain ⟨index, found, rfl⟩ := List.mem_map.mp first
    rw [List.mem_filter, Dict.mem_values_iff] at found
    obtain ⟨⟨place, stored⟩, thread⟩ := found
    have known : store.Records (.checkpoint index) := by
      simp only [IndexedStore.Records, sound.checkpointKeys place index stored, stored]
    rw [sound.distinct entry _ recorded known same]
    simpa [IndexEntry.threadId] using thread
  · obtain ⟨index, found, rfl⟩ := List.mem_map.mp second
    rw [List.mem_filter, Dict.mem_values_iff] at found
    obtain ⟨⟨place, stored⟩, thread⟩ := found
    have known : store.Records (.pendingWrite index) := by
      simp only [IndexedStore.Records, sound.pendingKeys place index stored, stored]
    rw [sound.distinct entry _ recorded known same]
    simpa [IndexEntry.threadId] using thread

theorem deleteCheckpointThread_sound (sound : IndexesSound store)
    (threadId graphFamily ownerKind : String) (ownerId : UUID) :
    IndexesSound (store.deleteCheckpointThread threadId graphFamily ownerKind ownerId).1 ∧
      ∀ key value, (store.deleteCheckpointThread threadId graphFamily ownerKind
        ownerId).1.casRefs.get? key = some value → store.casRefs.get? key = some value := by
  simp only [IndexedStore.deleteCheckpointThread]
  split
  · exact ⟨sound, fun _ _ found => found⟩
  have remaining : ∀ entry, IndexedStore.Records { store with
        checkpoints := store.checkpoints.filterValues (·.threadId ≠ threadId)
        pendingWrites := store.pendingWrites.filterValues (·.threadId ≠ threadId)
        casRefs := ((store.threadIndexes threadId).map (·.2.1)).foldl Dict.erase store.casRefs }
      entry → store.Records entry ∧ entry.threadId ≠ threadId := by
    intro entry recorded
    cases entry with
    | checkpoint index =>
      simp only [IndexedStore.Records, Dict.get?_filterValues] at recorded
      exact ⟨recorded.1, by simpa [IndexEntry.threadId] using recorded.2⟩
    | pendingWrite index =>
      simp only [IndexedStore.Records, Dict.get?_filterValues] at recorded
      exact ⟨recorded.1, by simpa [IndexEntry.threadId] using recorded.2⟩
  refine ⟨⟨?_, ?_, ?_, ?_⟩, ?_⟩
  · intro key index found
    exact sound.checkpointKeys key index ((Dict.get?_filterValues _ _ _ _).mp found).1
  · intro key index found
    exact sound.pendingKeys key index ((Dict.get?_filterValues _ _ _ _).mp found).1
  · intro entry recorded
    obtain ⟨earlier, elsewhere⟩ := remaining entry recorded
    dsimp only
    rw [Dict.get?_foldl_erase, if_neg]
    · exact sound.referenced entry earlier
    · intro member
      exact elsewhere (mem_threadIndexes sound earlier _ member rfl)
  · intro entry other recorded known
    exact sound.distinct entry other (remaining entry recorded).1 (remaining other known).1
  · intro key value found
    rw [Dict.get?_foldl_erase] at found
    split at found
    · cases found
    · exact found

end Store

end CodeMigrator
