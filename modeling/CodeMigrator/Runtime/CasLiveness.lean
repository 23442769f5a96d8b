import CodeMigrator.Lib.Transition
import CodeMigrator.Runtime.CasIndexes

/-!
# Referenced objects stay readable

Under which interleavings every reference and every index of the store points to a file
that is there. A process that adds a reference holds the lock of its digest, and so does
a process that is about to delete a file, which it found without references. `release`
is the exception: it takes the lock of the digest that it read before locking, and
deletes the one that it pops. The invariant is about the processes that hold locks, with
the step lemmas following the lock: a step under the lock of a digest touches the file
of that digest only, and adds references to it only.
-/

namespace CodeMigrator
open Lib

/-! ## The system -/

/-- The object is there: `read` returns its body. -/
def Readable (sha256 : Body → Sha256) (files : Dict Sha256 Body) (object : CasObject) : Prop :=
  (CasSystem.read sha256 files object).isSome = true

/-- No reference has the digest. -/
def Unreferenced (store : IndexedStore) (digest : Sha256) : Prop :=
  ∀ key object, store.casRefs.get? key = some object → object.digest ≠ digest

/-- What a process knows from its steps under the lock of `digest`: the object that it
records is stored, and the file that it deletes is the locked one and unreferenced. -/
def WorkSound (sha256 : Body → Sha256) (files : Dict Sha256 Body) (store : IndexedStore)
    (digest : Sha256) : Work → Prop
  | .storing body _ _ => sha256 body = digest
  | .recording object _ _ => object.digest = digest ∧ Readable sha256 files object
  | .deleting target _ => target = digest ∧ Unreferenced store digest
  | _ => True

/-- The invariant of the system. -/
structure CasSound (sha256 : Body → Sha256) (system : CasSystem) : Prop where
  readable : ∀ key object, system.store.casRefs.get? key = some object →
    Readable sha256 system.files object
  indexes : IndexesSound system.store
  locked : ∀ id digest work, system.processes.get? id = some (.holding digest work) →
    system.locks.get? digest = some id
  works : ∀ id digest work, system.processes.get? id = some (.holding digest work) →
    WorkSound sha256 system.files system.store digest work

/-- Every reference and every index points to an object that is there. -/
structure CasLive (sha256 : Body → Sha256) (system : CasSystem) : Prop where
  references : ∀ key object, system.store.casRefs.get? key = some object →
    Readable sha256 system.files object
  checkpoints : ∀ key index, system.store.checkpoints.get? key = some index →
    Readable sha256 system.files index.object
  pendingWrites : ∀ key index, system.store.pendingWrites.get? key = some index →
    Readable sha256 system.files index.object

section System

variable {sha256 : Body → Sha256} {system : CasSystem} {files after : Dict Sha256 Body}
  {store : IndexedStore} {id : Nat} {rest : List (Body × Publication)}

theorem CasSound.live (sound : CasSound sha256 system) : CasLive sha256 system := by
  refine ⟨sound.readable, ?_, ?_⟩
  · intro key index found
    have recorded : system.store.Records (.checkpoint index) := by
      simp only [IndexedStore.Records, sound.indexes.checkpointKeys key index found, found]
    exact sound.readable _ _ (sound.indexes.referenced _ recorded)
  · intro key index found
    have recorded : system.store.Records (.pendingWrite index) := by
      simp only [IndexedStore.Records, sound.indexes.pendingKeys key index found, found]
    exact sound.readable _ _ (sound.indexes.referenced _ recorded)

theorem Readable.congr {object : CasObject}
    (same : after.get? object.digest = files.get? object.digest)
    (readable : Readable sha256 files object) : Readable sha256 after object := by
  unfold Readable CasSystem.read at *
  rw [same]
  exact readable

/-- What a process knows under its lock stays true while the file of its digest stays and
no references to it are added. -/
theorem WorkSound.frame {later : IndexedStore} {digest : Sha256} {work : Work}
    (sound : WorkSound sha256 files store digest work)
    (same : after.get? digest = files.get? digest)
    (refs : ∀ key object, later.casRefs.get? key = some object → object.digest = digest →
      ∃ earlier, store.casRefs.get? earlier = some object) :
    WorkSound sha256 after later digest work := by
  cases work with
  | recording object publication rest =>
    obtain ⟨own, readable⟩ := sound
    refine ⟨own, readable.congr ?_⟩
    rw [own]
    exact same
  | deleting target next =>
    obtain ⟨own, unreferenced⟩ := sound
    refine ⟨own, ?_⟩
    intro key object found named
    obtain ⟨earlier, known⟩ := refs key object found named
    exact unreferenced earlier object known named
  | storing body publication rest => exact sound
  | popping key => trivial
  | inspecting digests => trivial
  | querying aged digests => trivial
  | unlocking next => trivial

section

variable (sound : CasSound sha256 system)
include sound

theorem CasSound.apart {other : Nat} {digest held : Sha256} {work doing : Work}
    (current : system.processes.get? id = some (.holding digest work))
    (running : system.processes.get? other = some (.holding held doing)) (different : other ≠ id) :
    held ≠ digest := by
  intro same
  have mine := sound.locked id digest work current
  have theirs := sound.locked other held doing running
  rw [same, mine] at theirs
  exact different (Option.some.inj theirs).symm

/-- A step under the lock of a digest: other files stay, and other digests get no new
references. -/
theorem CasSound.work {digest : Sha256} {work next : Work}
    (current : system.processes.get? id = some (.holding digest work))
    (indexes : IndexesSound store)
    (others : ∀ other, other ≠ digest → files.get? other = system.files.get? other)
    (own : ∀ key object, store.casRefs.get? key = some object → object.digest = digest →
      Readable sha256 files object)
    (refs : ∀ key object, store.casRefs.get? key = some object → object.digest ≠ digest →
      ∃ earlier, system.store.casRefs.get? earlier = some object)
    (works : WorkSound sha256 files store digest next) :
    CasSound sha256 ({ system with files := files, store := store }.become id
      (.holding digest next)) := by
  refine ⟨?_, indexes, ?_, ?_⟩
  · intro key object found
    by_cases named : object.digest = digest
    · exact own key object found named
    · obtain ⟨earlier, known⟩ := refs key object found named
      exact (sound.readable earlier object known).congr (others _ named)
  · intro other held doing running
    simp only [CasSystem.become, Dict.get?_set] at running
    split at running
    · rename_i same
      cases running
      rw [same]
      exact sound.locked id digest work current
    · exact sound.locked other held doing running
  · intro other held doing running
    simp only [CasSystem.become, Dict.get?_set] at running
    split at running
    · cases running
      exact works
    · rename_i different
      have apart := sound.apart current running different
      refine (sound.works other held doing running).frame (others held apart) ?_
      intro key object found named
      exact refs key object found (by rw [named]; exact apart)

theorem CasSound.task (id : Nat) (indexes : IndexesSound store)
    (refs : ∀ key object, store.casRefs.get? key = some object →
      system.store.casRefs.get? key = some object) (next : Task) :
    CasSound sha256 ({ system with store := store }.become id (.free next)) := by
  refine ⟨?_, indexes, ?_, ?_⟩
  · intro key object found
    exact sound.readable key object (refs key object found)
  · intro other held doing running
    simp only [CasSystem.become, Dict.get?_set] at running
    split at running
    · cases running
    · exact sound.locked other held doing running
  · intro other held doing running
    simp only [CasSystem.become, Dict.get?_set] at running
    split at running
    · cases running
    · refine (sound.works other held doing running).frame rfl ?_
      intro key object found named
      exact ⟨key, refs key object found⟩

theorem CasSound.free (id : Nat) (next : Task) : CasSound sha256 (system.become id (.free next)) :=
  sound.task id sound.indexes (fun _ _ found => found) next

theorem CasSound.acquire (id : Nat) {digest : Sha256} {work : Work}
    (works : WorkSound sha256 system.files system.store digest work) :
    CasSound sha256 (system.acquire id digest work) := by
  unfold CasSystem.acquire
  cases lock : system.locks.get? digest with
  | some holder => exact sound
  | none =>
    refine ⟨sound.readable, sound.indexes, ?_, ?_⟩
    · intro other held doing running
      simp only [CasSystem.become, Dict.get?_set] at running ⊢
      split at running
      · rename_i same
        cases running
        rw [if_pos rfl, same]
      · have theirs := sound.locked other held doing running
        have apart : held ≠ digest := by
          intro same
          rw [same, lock] at theirs
          cases theirs
        rw [if_neg apart]
        exact theirs
    · intro other held doing running
      simp only [CasSystem.become, Dict.get?_set] at running
      split at running
      · cases running
        exact works
      · exact sound.works other held doing running

theorem CasSound.unlock {digest : Sha256} {work : Work}
    (current : system.processes.get? id = some (.holding digest work)) (next : Task) :
    CasSound sha256 (system.unlock id digest next) := by
  unfold CasSystem.unlock
  refine ⟨sound.readable, sound.indexes, ?_, ?_⟩
  · intro other held doing running
    simp only [CasSystem.become, Dict.get?_set] at running ⊢
    split at running
    · cases running
    · rename_i different
      rw [Dict.get?_erase, if_neg (sound.apart current running different)]
      exact sound.locked other held doing running
  · intro other held doing running
    simp only [CasSystem.become, Dict.get?_set] at running
    split at running
    · cases running
    · exact sound.works other held doing running

theorem CasSound.proceed {digest : Sha256} {work next : Work}
    (current : system.processes.get? id = some (.holding digest work))
    (works : WorkSound sha256 system.files system.store digest next) :
    CasSound sha256 (system.become id (.holding digest next)) :=
  sound.work current sound.indexes (fun _ _ => rfl) (fun key object found _ =>
    sound.readable key object found) (fun key _ found _ => ⟨key, found⟩) works

end

/-! ## Steps -/

theorem putFile_cases {body : Body} {object : CasObject}
    (stored : CasSystem.putFile sha256 files body = some (after, object)) :
    object.digest = sha256 body ∧ Readable sha256 after object ∧
      (after = files ∨ files.get? (sha256 body) = none ∧ after = files.set (sha256 body) body) := by
  simp only [CasSystem.putFile] at stored
  cases present : files.get? (sha256 body) with
  | none =>
    rw [present] at stored
    cases stored
    refine ⟨rfl, ?_, .inr ⟨rfl, rfl⟩⟩
    simp [Readable, CasSystem.read]
  | some earlier =>
    rw [present] at stored
    obtain ⟨found, readable, made⟩ := Option.map_eq_some_iff.mp stored
    cases made
    refine ⟨rfl, ?_, .inl rfl⟩
    rw [Readable, readable]
    rfl

theorem CasSound.storing (sound : CasSound sha256 system) {digest : Sha256} {body : Body}
    {publication : Publication}
    (current : system.processes.get? id = some (.holding digest (.storing body publication rest)))
    (old : Bool) :
    CasSound sha256 (system.runWork sha256 id digest old (.storing body publication rest)) := by
  have own : sha256 body = digest := sound.works id digest _ current
  simp only [CasSystem.runWork]
  split
  · exact sound.proceed current trivial
  rename_i files object stored
  obtain ⟨named, readable, placed⟩ := putFile_cases stored
  rw [own] at named placed
  refine sound.work current sound.indexes ?_ ?_ (fun key _ found _ => ⟨key, found⟩)
    ⟨named, readable⟩
  · intro other different
    rcases placed with rfl | ⟨-, rfl⟩
    · rfl
    · rw [Dict.get?_set, if_neg different]
  · intro key known found same
    rcases placed with rfl | ⟨absent, -⟩
    · exact sound.readable key known found
    · -- a file that was not there had no references
      have present := sound.readable key known found
      rw [Readable, CasSystem.read, same, absent] at present
      cases present

theorem CasSound.recording (sound : CasSound sha256 system) {digest : Sha256} {object : CasObject}
    {publication : Publication}
    (current : system.processes.get? id =
      some (.holding digest (.recording object publication rest)))
    (free : ¬ Collides system.store publication object) (old : Bool) :
    CasSound sha256 (system.runWork sha256 id digest old (.recording object publication rest)) := by
  obtain ⟨own, readable⟩ := sound.works id digest _ current
  have indexes := record_sound sound.indexes free
  have refs : ∀ key value, (publication.record system.store object).1.casRefs.get? key = some value →
      value = object ∨ system.store.casRefs.get? key = some value := fun _ _ => record_refs
  simp only [CasSystem.runWork]
  rcases recorded : publication.record system.store object with ⟨store, outcome⟩
  rw [recorded] at indexes refs
  have step : ∀ next, CasSound sha256 ({ system with store := store }.become id
      (.holding digest (.unlocking next))) := by
    intro next
    refine sound.work current indexes (fun _ _ => rfl) ?_ ?_ trivial
    · intro key value found _
      rcases refs key value found with rfl | earlier
      · exact readable
      · exact sound.readable key value earlier
    · intro key value found different
      rcases refs key value found with rfl | earlier
      · exact absurd own different
      · exact ⟨key, earlier⟩
  cases outcome with
  | error failure => exact step .done
  | ok value => exact step (.publishing rest)

/-- `release` pops the last reference to an object, without the lock of that object. -/
def ReleasesUnlocked (store : IndexedStore) (digest : Sha256) (key : ReferenceKey) : Prop :=
  ∃ object, store.casRefs.get? key = some object ∧ object.digest ≠ digest ∧
    ∀ other value, store.casRefs.get? other = some value → other ≠ key →
      value.digest ≠ object.digest

/-- `release` pops the reference of an index. -/
def ReleasesIndexed (store : IndexedStore) (key : ReferenceKey) : Prop :=
  ∃ entry, store.Records entry ∧ entry.reference = key

theorem CasSound.popping (sound : CasSound sha256 system) {digest : Sha256} {key : ReferenceKey}
    (current : system.processes.get? id = some (.holding digest (.popping key)))
    (locked : ¬ ReleasesUnlocked system.store digest key)
    (unindexed : ¬ ReleasesIndexed system.store key) (old : Bool) :
    CasSound sha256 (system.runWork sha256 id digest old (.popping key)) := by
  have indexes : IndexesSound (system.store.releaseCasReference key).1 := by
    apply release_sound sound.indexes
    intro entry recorded same
    exact unindexed ⟨entry, recorded, same⟩
  have refs : ∀ query value, (system.store.releaseCasReference key).1.casRefs.get? query = some value →
      system.store.casRefs.get? query = some value := fun _ _ => release_refs
  have step : ∀ next, WorkSound sha256 system.files (system.store.releaseCasReference key).1 digest
      next → CasSound sha256 ({ system with
        store := (system.store.releaseCasReference key).1 }.become id (.holding digest next)) := by
    intro next works
    exact sound.work current indexes (fun _ _ => rfl)
      (fun query value found _ => sound.readable query value (refs query value found))
      (fun query value found _ => ⟨query, refs query value found⟩) works
  simp only [CasSystem.runWork]
  rcases released : system.store.releaseCasReference key with ⟨store, last⟩
  cases last with
  | none =>
    have next := step (.unlocking .done) trivial
    rw [released] at next
    exact next
  | some last =>
    obtain ⟨found, unique⟩ := release_last (congrArg Prod.snd released)
    have own : last.digest = digest := by
      by_contra different
      refine locked ⟨last, found, different, ?_⟩
      intro other value known elsewhere
      exact unique other value (release_kept known elsewhere)
    have next := step (.deleting last.digest .done) ⟨own, by rw [← own]; exact unique⟩
    rw [released] at next
    exact next

theorem CasSound.querying (sound : CasSound sha256 system) {digest : Sha256} {aged : Bool}
    {digests : List Sha256}
    (current : system.processes.get? id = some (.holding digest (.querying aged digests)))
    (old : Bool) :
    CasSound sha256 (system.runWork sha256 id digest old (.querying aged digests)) := by
  simp only [CasSystem.runWork]
  split
  · exact sound.proceed current trivial
  · rename_i unlisted
    refine sound.proceed current ⟨rfl, ?_⟩
    intro key object found named
    apply unlisted
    rw [IndexedStore.referencedDigests, List.mem_map]
    exact ⟨object, (Dict.mem_values_iff _ _).mpr ⟨key, found⟩, named⟩

theorem CasSound.deleting (sound : CasSound sha256 system) {digest target : Sha256} {next : Task}
    (current : system.processes.get? id = some (.holding digest (.deleting target next)))
    (old : Bool) :
    CasSound sha256 (system.runWork sha256 id digest old (.deleting target next)) := by
  obtain ⟨own, unreferenced⟩ := sound.works id digest _ current
  refine sound.work current sound.indexes ?_ ?_ (fun key object found _ => ⟨key, found⟩) trivial
  · intro other different
    rw [Dict.get?_erase, own, if_neg different]
  · intro key object found named
    exact absurd named (unreferenced key object found)

/-- The input is a step that can leave a reference or an index without its object: `release`
pops the last reference to another object than the one it has locked or pops the reference
of an index, or an index is published under the reference of another index. -/
def Endangers (system : CasSystem) : CasInput → Prop
  | .advance id _ =>
    (∃ digest key, system.processes.get? id = some (.holding digest (.popping key)) ∧
      (ReleasesUnlocked system.store digest key ∨ ReleasesIndexed system.store key)) ∨
    (∃ digest object publication rest, system.processes.get? id =
        some (.holding digest (.recording object publication rest)) ∧
      Collides system.store publication object)
  | _ => False

theorem CasSound.runTask (sound : CasSound sha256 system) (id : Nat) (task : Task) :
    CasSound sha256 (system.runTask sha256 id task) := by
  unfold CasSystem.runTask
  split
  · exact sound.free id .done
  · exact sound.free id .done
  · exact sound.free id .done
  · exact sound.acquire id rfl
  · split
    · exact sound.free id .done
    · exact sound.free id _
  · exact sound.acquire id trivial
  · rename_i threadId graphFamily ownerKind ownerId
    obtain ⟨indexes, refs⟩ := deleteCheckpointThread_sound sound.indexes threadId graphFamily
      ownerKind ownerId
    split
    · rename_i store failure deleted
      rw [deleted] at indexes refs
      exact sound.task id indexes refs _
    · rename_i store candidates deleted
      rw [deleted] at indexes refs
      exact sound.task id indexes refs _
  · refine sound.acquire id ?_
    split
    · trivial
    · trivial

theorem CasSound.step (sound : CasSound sha256 system) (input : CasInput)
    (safe : ¬ Endangers system input) : CasSound sha256 (casStep sha256 system input) := by
  cases input with
  | begin id operation =>
    simp only [casStep]
    split
    · exact sound
    · exact sound.free id _
  | raise id =>
    simp only [casStep]
    split
    · exact sound
    · exact sound.free id .done
    · rename_i digest work current
      exact sound.unlock current .done
  | advance id old =>
    simp only [Endangers, not_or, not_exists, not_and] at safe
    simp only [casStep]
    split
    · exact sound
    · exact sound.runTask id _
    · rename_i digest work current
      cases work with
      | storing body publication rest => exact sound.storing current old
      | recording object publication rest =>
        exact sound.recording current (safe.2 digest object publication rest current) old
      | popping key =>
        obtain ⟨locked, unindexed⟩ := safe.1 digest key current
        exact sound.popping current locked unindexed old
      | inspecting digests =>
        simp only [CasSystem.runWork]
        split
        · exact sound.proceed current trivial
        · exact sound.proceed current trivial
      | querying aged digests => exact sound.querying current old
      | deleting target next => exact sound.deleting current old
      | unlocking next => exact sound.unlock current next

end System

/-- No operation is running, and the store and the files fit together. -/
structure CasSettled (sha256 : Body → Sha256) (system : CasSystem) : Prop where
  idle : ∀ id, system.processes.get? id = none
  readable : ∀ key object, system.store.casRefs.get? key = some object →
    Readable sha256 system.files object
  indexes : IndexesSound system.store

theorem CasSettled.sound {sha256 : Body → Sha256} {system : CasSystem}
    (settled : CasSettled sha256 system) : CasSound sha256 system := by
  refine ⟨settled.readable, settled.indexes, ?_, ?_⟩
  · intro id digest work current
    rw [settled.idle id] at current
    cases current
  · intro id digest work current
    rw [settled.idle id] at current
    cases current

/-- Every reference and every index points to an object that is there, after every
interleaving of the operations in which no step endangers one. -/
theorem cas_objects_live (sha256 : Body → Sha256) (start : CasSystem)
    (settled : CasSettled sha256 start) (inputs : List CasInput)
    (safe : Along (casStep sha256) (fun system input => ¬ Endangers system input) start inputs) :
    Always (casStep sha256) (CasLive sha256) start inputs := by
  have always : Always (casStep sha256) (CasSound sha256) start inputs :=
    always_of_along (CasSound sha256) (fun _ input sound unharmed => sound.step input unharmed)
      settled.sound safe
  intro earlier rest split
  exact (always earlier rest split).live

namespace SampleCas

/-- A digest that repeats one character. -/
def digest (character : Char) (valid : isSha256 (String.ofList (List.replicate 64 character)) = true) :
    Sha256 := ⟨String.ofList (List.replicate 64 character), valid⟩

def first : Sha256 := digest '1' (by decide +kernel)
def second : Sha256 := digest '2' (by decide +kernel)

/-- A digest function that tells two bodies apart. -/
def sha256 (body : Body) : Sha256 := if body = [1] then first else second

def key : ReferenceKey := ("run", ⟨1⟩, "report")
def otherKey : ReferenceKey := ("run", ⟨1⟩, "summary")

def address : ThreadAddress :=
  ⟨"run", "run", ⟨1⟩, "00000000-0000-0000-0000-000000000001", "", "c0"⟩

/-- Nothing is stored and nothing runs. -/
def start : CasSystem := ⟨.empty, .empty, .empty, .empty⟩

/-- The process takes some steps. -/
def steps (id count : Nat) : List CasInput := List.replicate count (.advance id true)

theorem start_settled : CasSettled sha256 start := by
  refine ⟨fun _ => rfl, ?_, ⟨?_, ?_, ?_, ?_⟩⟩
  · intro key object found
    cases found
  · intro key index found
    cases found
  · intro key index found
    cases found
  · intro entry recorded
    cases entry with
    | checkpoint index => cases recorded
    | pendingWrite index => cases recorded
  · intro entry other recorded
    cases entry with
    | checkpoint index => cases recorded
    | pendingWrite index => cases recorded

/-- Two writers of one body, of which the second has to wait, a checkpoint, and the release
of both references. -/
def calmRun : List CasInput :=
  [.begin 0 (.put [1] key), .begin 1 (.put [1] otherKey)] ++ steps 0 1 ++ steps 1 1 ++
    steps 0 4 ++ steps 1 5 ++ [.begin 2 (.release key), .begin 3 (.release otherKey)] ++
    steps 2 2 ++ steps 3 2 ++ steps 2 2 ++ steps 3 4 ++ [.begin 4 (.aput address none [2])] ++
    steps 4 5

/-- The step pops a reference to the digest that it has locked, or records an object, while
the store has no indexes. -/
def isCalm (system : CasSystem) : CasInput → Bool
  | .advance id _ =>
    match system.processes.get? id with
    | some (.holding digest (.popping key)) =>
      (system.store.casRefs.get? key).all (fun object => object.digest = digest) &&
        system.store.checkpoints.entries.isEmpty && system.store.pendingWrites.entries.isEmpty
    | some (.holding _ (.recording ..)) =>
      system.store.checkpoints.entries.isEmpty && system.store.pendingWrites.entries.isEmpty
    | _ => true
  | _ => true

theorem not_records {store : IndexedStore} (checkpoints : store.checkpoints.entries.isEmpty = true)
    (pendingWrites : store.pendingWrites.entries.isEmpty = true) (entry : IndexEntry) :
    ¬ store.Records entry := by
  rw [List.isEmpty_iff] at checkpoints pendingWrites
  cases entry with
  | checkpoint index => simp [IndexedStore.Records, Dict.get?, checkpoints, Dict.lookup]
  | pendingWrite index => simp [IndexedStore.Records, Dict.get?, pendingWrites, Dict.lookup]

theorem isCalm_safe (system : CasSystem) (input : CasInput) (calm : isCalm system input = true) :
    ¬ Endangers system input := by
  cases input with
  | begin id operation => exact False.elim
  | raise id => exact False.elim
  | advance id old =>
    rintro (⟨digest, key, current, danger⟩ | ⟨digest, object, publication, rest, current, danger⟩)
    · simp only [isCalm, current, Bool.and_eq_true] at calm
      obtain ⟨⟨locked, checkpoints⟩, pendingWrites⟩ := calm
      rcases danger with ⟨object, found, different, -⟩ | ⟨entry, recorded, -⟩
      · rw [found] at locked
        exact different (by simpa using locked)
      · exact not_records checkpoints pendingWrites entry recorded
    · simp only [isCalm, current, Bool.and_eq_true] at calm
      obtain ⟨entry, other, -, recorded, -⟩ := danger
      exact not_records calm.1 calm.2 other recorded

end SampleCas

open SampleCas in
theorem cas_objects_live_calm :
    Always (casStep SampleCas.sha256) (CasLive SampleCas.sha256) start calmRun ∧
      (runFrom (casStep SampleCas.sha256) start calmRun).files.keys = [second] := by
  have calm : Along (casStep SampleCas.sha256) (fun system input => isCalm system input = true) start
      calmRun := by decide +kernel
  refine ⟨cas_objects_live SampleCas.sha256 start start_settled calmRun ?_, by decide +kernel⟩
  exact calm.imp fun system input _ => isCalm_safe system input

namespace SampleCas

/-- A release reads the key, which is then released and set to another body by others. It
locks the digest that it read, pops the new object as the last one of its digest, and
deletes it after a third writer has referred to it. -/
def repointedRun : List CasInput :=
  [.begin 0 (.put [1] key)] ++ steps 0 5 ++ [.begin 1 (.release key)] ++ steps 1 1 ++
    [.begin 2 (.release key)] ++ steps 2 5 ++ [.begin 3 (.put [2] key)] ++ steps 3 5 ++
    steps 1 1 ++ [.begin 4 (.put [2] otherKey)] ++ steps 4 2 ++ steps 1 1 ++ steps 4 2 ++ steps 1 1

end SampleCas

open SampleCas in
/-- A reference to a deleted object. -/
theorem released_object_still_referenced :
    (runFrom (casStep SampleCas.sha256) start repointedRun).store.casRefs.get? otherKey =
        some ⟨second, 1⟩ ∧
      (runFrom (casStep SampleCas.sha256) start repointedRun).files.get? second = none ∧
      ¬ Always (casStep SampleCas.sha256) (CasLive SampleCas.sha256) start repointedRun := by
  have referenced : (runFrom (casStep SampleCas.sha256) start repointedRun).store.casRefs.get?
      otherKey = some ⟨second, 1⟩ := by decide +kernel
  have deleted : (runFrom (casStep SampleCas.sha256) start repointedRun).files.get? second = none := by
    decide +kernel
  refine ⟨referenced, deleted, ?_⟩
  intro live
  have readable := (live repointedRun [] (List.append_nil _).symm).references otherKey _ referenced
  rw [Readable, CasSystem.read, deleted] at readable
  cases readable

end CodeMigrator
