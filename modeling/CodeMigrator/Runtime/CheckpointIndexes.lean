import CodeMigrator.Runtime.CasLiveness

/-!
# Histories of the checkpoint indexes

The calls that `CasCheckpointSaver` (`runtime/checkpointer.py`) makes on the indexes of
`InMemoryRuntimeStore`, in any order: the publication of checkpoints and of pending writes,
and the deletion of a thread.
-/

namespace CodeMigrator
open Lib

/-- The calls on the indexes. -/
inductive IndexCall where
  | publishCheckpoint (index : CheckpointIndex)
  | publishPendingWrite (index : PendingWriteIndex)
  | deleteThread (threadId graphFamily ownerKind : String) (ownerId : UUID)

/-- The store after a call. -/
def indexStep (store : IndexedStore) : IndexCall → IndexedStore
  | .publishCheckpoint index => (store.publishCheckpointIndex index).1
  | .publishPendingWrite index => (store.publishPendingWriteIndex index).1
  | .deleteThread threadId graphFamily ownerKind ownerId =>
    (store.deleteCheckpointThread threadId graphFamily ownerKind ownerId).1

/-- The digest of every index is referenced. -/
def IndexesReferenced (store : IndexedStore) : Prop :=
  (∀ index ∈ store.checkpoints.values, index.object.digest ∈ store.referencedDigests) ∧
    ∀ index ∈ store.pendingWrites.values, index.object.digest ∈ store.referencedDigests

/-- A deletion returns objects that no remaining reference names. -/
def DeletesUnreferenced (store : IndexedStore) : IndexCall → Prop
  | .deleteThread threadId graphFamily ownerKind ownerId => ∀ objects,
      (store.deleteCheckpointThread threadId graphFamily ownerKind ownerId).2 = .ok objects →
      ∀ object ∈ objects, object.digest ∉
        (store.deleteCheckpointThread threadId graphFamily ownerKind ownerId).1.referencedDigests
  | _ => True

/-- A published index does not take the reference of an index that is stored under another
key. -/
def ReferencesApart (store : IndexedStore) : IndexCall → Prop
  | .publishCheckpoint index => ∀ other, store.Records other →
      other.identity ≠ (IndexEntry.checkpoint index).identity → other.reference ≠ index.reference
  | .publishPendingWrite index => ∀ other, store.Records other →
      other.identity ≠ (IndexEntry.pendingWrite index).identity → other.reference ≠ index.reference
  | .deleteThread .. => True

section Calls

variable {store : IndexedStore}

theorem IndexesSound.step (sound : IndexesSound store) {call : IndexCall}
    (apart : ReferencesApart store call) : IndexesSound (indexStep store call) := by
  cases call with
  | publishCheckpoint index => exact record_checkpoint_sound sound index apart
  | publishPendingWrite index => exact record_pendingWrite_sound sound index apart
  | deleteThread threadId graphFamily ownerKind ownerId =>
    exact (deleteCheckpointThread_sound sound threadId graphFamily ownerKind ownerId).1

theorem IndexesSound.indexesReferenced (sound : IndexesSound store) : IndexesReferenced store := by
  have named : ∀ entry, store.Records entry → entry.object.digest ∈ store.referencedDigests := by
    intro entry recorded
    refine List.mem_map.mpr ⟨entry.object, ?_, rfl⟩
    exact (Dict.mem_values_iff _ _).mpr ⟨_, sound.referenced entry recorded⟩
  constructor
  · intro index member
    obtain ⟨key, found⟩ := (Dict.mem_values_iff _ _).mp member
    apply named (.checkpoint index)
    simp only [IndexedStore.Records, sound.checkpointKeys key index found, found]
  · intro index member
    obtain ⟨key, found⟩ := (Dict.mem_values_iff _ _).mp member
    apply named (.pendingWrite index)
    simp only [IndexedStore.Records, sound.pendingKeys key index found, found]

theorem deletes_unreferenced (store : IndexedStore) (call : IndexCall) :
    DeletesUnreferenced store call := by
  cases call with
  | publishCheckpoint index => trivial
  | publishPendingWrite index => trivial
  | deleteThread threadId graphFamily ownerKind ownerId =>
    intro objects returned object member
    unfold IndexedStore.deleteCheckpointThread at returned ⊢
    dsimp only at returned ⊢
    split at returned
    · cases returned
    · rename_i owned
      cases returned
      rw [if_neg owned]
      obtain ⟨digest, found⟩ := (Dict.mem_values_iff _ _).mp member
      have listed := Dict.mem_of_get?_ofPairs found
      obtain ⟨item, dead, same⟩ := List.mem_map.mp listed
      cases same
      exact of_decide_eq_true (List.mem_filter.mp dead).2

/-- From a store without indexes, as long as no published index takes the reference of
another one, every index is referenced; a deletion returns unreferenced objects in any case. -/
theorem checkpoint_indexes_referenced (start : IndexedStore)
    (noCheckpoints : start.checkpoints = .empty) (noPendingWrites : start.pendingWrites = .empty)
    (calls : List IndexCall) :
    (Along indexStep ReferencesApart start calls → Always indexStep IndexesReferenced start calls) ∧
      Along indexStep DeletesUnreferenced start calls := by
  have unrecorded : ∀ entry, ¬ start.Records entry := by
    intro entry recorded
    cases entry with
    | checkpoint index =>
      rw [IndexedStore.Records, noCheckpoints] at recorded
      cases recorded
    | pendingWrite index =>
      rw [IndexedStore.Records, noPendingWrites] at recorded
      cases recorded
  have sound : IndexesSound start := by
    refine ⟨?_, ?_, ?_, ?_⟩
    · intro key index found
      rw [noCheckpoints] at found
      cases found
    · intro key index found
      rw [noPendingWrites] at found
      cases found
    · exact fun entry recorded => absurd recorded (unrecorded entry)
    · exact fun entry _ recorded => absurd recorded (unrecorded entry)
  constructor
  · intro apart earlier rest split
    exact (always_of_along IndexesSound (fun _ _ sound => sound.step) sound apart earlier rest
      split).indexesReferenced
  · exact along_of_invariant (fun _ => True) (fun _ _ _ => trivial)
      (fun store call _ => deletes_unreferenced store call) trivial calls

end Calls

namespace SampleCheckpoints

open SampleCas (first second)

/-- A thread that `UUID` accepts. -/
def threadId : String := "00000000-0000-0000-0000-000000000001"

/-- A checkpoint of the thread. -/
def checkpoint (checkpointNs checkpointId : String) (digest : Sha256) : CheckpointIndex :=
  { graphFamily := "run", ownerKind := "run", ownerId := ⟨1⟩, threadId := threadId
    checkpointNs := checkpointNs, checkpointId := checkpointId, parentCheckpointId := none
    object := ⟨digest, 1⟩ }

/-- Two checkpoints, one of which is deleted with its thread. -/
def apartCalls : List IndexCall :=
  [.publishCheckpoint (checkpoint "" "a" first), .publishCheckpoint (checkpoint "" "b" second),
    .deleteThread threadId "run" "run" ⟨1⟩]

/-- The names of two checkpoints, joined with colons, are the same. -/
def collidingCalls : List IndexCall :=
  [.publishCheckpoint (checkpoint "a" "b:c" first), .publishCheckpoint (checkpoint "a:b" "c" second)]

end SampleCheckpoints

open SampleCheckpoints in
theorem checkpoint_indexes_referenced_apart :
    Always indexStep IndexesReferenced .empty apartCalls ∧
      Along indexStep DeletesUnreferenced .empty apartCalls := by
  have referenced := checkpoint_indexes_referenced .empty rfl rfl apartCalls
  refine ⟨referenced.1 ⟨?_, ?_, trivial, trivial⟩, referenced.2⟩
  · intro other recorded
    cases other with
    | checkpoint index => cases recorded
    | pendingWrite index => cases recorded
  · intro other recorded different same
    cases other with
    | pendingWrite index => cases recorded
    | checkpoint index =>
      have stored : index = checkpoint "" "a" SampleCas.first := by
        have found : (indexStep .empty (.publishCheckpoint
            (checkpoint "" "a" SampleCas.first))).checkpoints.get? index.key = some index := recorded
        have only : ∀ key value, (indexStep .empty (.publishCheckpoint
            (checkpoint "" "a" SampleCas.first))).checkpoints.get? key = some value →
            value = checkpoint "" "a" SampleCas.first := by
          intro key value at_
          have member := (Dict.mem_values_iff _ _).mpr ⟨key, at_⟩
          exact List.mem_singleton.mp member
        exact only _ _ found
      rw [stored] at same
      revert same
      decide

open SampleCheckpoints in
/-- The second checkpoint overwrites the reference of the first one, which stays stored. -/
theorem checkpoint_reference_overwritten :
    (UUID.parse threadId).isSome = true ∧
      checkpoint "a" "b:c" SampleCas.first ∈
        (runFrom indexStep .empty collidingCalls).checkpoints.values ∧
      (runFrom indexStep .empty collidingCalls).referencedDigests = [SampleCas.second] ∧
      ¬ IndexesReferenced (runFrom indexStep .empty collidingCalls) := by
  have stored : checkpoint "a" "b:c" SampleCas.first ∈
      (runFrom indexStep .empty collidingCalls).checkpoints.values := by decide
  have digests : (runFrom indexStep .empty collidingCalls).referencedDigests =
      [SampleCas.second] := by decide
  refine ⟨by decide, stored, digests, ?_⟩
  intro referenced
  have named := referenced.1 _ stored
  rw [digests] at named
  revert named
  decide

end CodeMigrator
