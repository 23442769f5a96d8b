import CodeMigrator.Workspace.CheckpointRun

/-!
# What a checkpoint keeps

An invariant of the stores that the operations of a checkpoint keep one by one holds however a call
of `checkpoint` ends. One of them is that a ref which names another commit than the expected one
still names it: a ref that has advanced stays where it is.
-/

namespace CodeMigrator
open Lib

namespace CheckpointService
open Lib.Process
open OutputRepository (commitAt)

variable {setup : CheckpointSetup} {fates : CheckpointFates} {time : Nat} {request : CheckpointRequest}
  {inv : CheckpointWorld → Prop}

theorem outlived_of {α : Type} {P : CheckpointWorld → Prop}
    {ended : Except (Stop CheckpointError) α × CheckpointWorld} (holds : P ended.2)
    (restarts : P ended.2 → P ended.2.restart) : P (outlived ended) := by
  rcases ended with ⟨(error | _) | value, after⟩
  · exact holds
  · exact restarts holds
  · exact holds

theorem loadPending_keeps
    (pending : ∀ world pending, inv world → inv { world with pending := pending }) :
    Keeps inv (loadPending fates request) := by
  refine (keeps_ask _).bind fun held => ?_
  cases held with
  | some pending => exact keeps_pure _
  | none =>
    refine (keeps_ask _).meeting.bind fun intent => ?_
    split
    · exact keeps_pure _
    · exact Keeps.bind (keeps_change fun _ kept => pending _ _ kept) fun _ => keeps_pure _

theorem cachedReceipt_keeps : Keeps inv (cachedReceipt fates request) := by
  refine (keeps_ask _).bind fun held => ?_
  cases held with
  | some receipt => exact keeps_pure _
  | none => exact (keeps_ask _).meeting

/-- The operations of a checkpoint keep an invariant. -/
structure Preserved (setup : CheckpointSetup) (fates : CheckpointFates) (time : Nat)
    (request : CheckpointRequest) (inv : CheckpointWorld → Prop) : Prop where
  intents : ∀ world intents, inv world → inv { world with intents := intents }
  pending : ∀ world pending, inv world → inv { world with pending := pending }
  locals : ∀ world locals, inv world → inv { world with locals := locals }
  stored : ∀ world receipt, inv world →
    inv { world with storedReceipts := world.storedReceipts.set (keyOf request) receipt }
  held : ∀ world receipt, inv world →
    inv { world with receipts := world.receipts.set (keyOf request) receipt }
  known : ∀ path, Keeps inv (managing (WorkspaceManager.requireKnown path))
  begins : ∀ fate path, Keeps inv (managing (WorkspaceManager.beginCheckpoint fate path))
  aborts : ∀ fate path, Keeps inv (managing (WorkspaceManager.abortCheckpoint fate path))
  freezes : ∀ fate path, Keeps inv (managing (WorkspaceManager.freeze fate path))
  closes : ∀ fates path, Keeps inv (managing (WorkspaceManager.close fates path))
  resolves : ∀ fate path, Keeps inv (currentCandidateOid setup fate path)
  creates : ∀ workspace manifest files,
    Keeps inv (createCheckpoint setup fates time workspace manifest files)
  advances : ∀ path newOid,
    Keeps inv (advanceCandidateRef setup fates path request.expectedCandidateOid newOid)

namespace Preserved

variable {inv : CheckpointWorld → Prop} (preserved : Preserved setup fates time request inv)
include preserved

section

variable (workspace : WorkspaceHandle)
include workspace

theorem commitFiles (manifest : CheckpointManifest) (files : List WorkspaceFileFact) :
    Keeps inv (commitFiles setup fates time request workspace manifest files) := by
  refine Keeps.bind (keeps_change fun _ kept => preserved.pending _ _ kept) fun _ => ?_
  refine Keeps.bind (Keeps.meeting (keeps_change fun _ kept => preserved.intents _ _ kept)) fun _ => ?_
  refine Keeps.bind (Keeps.meeting (keeps_change fun _ kept => preserved.intents _ _ kept)) fun _ => ?_
  refine (preserved.creates _ _ _).bind fun newOid => ?_
  refine Keeps.bind (keeps_change fun world kept => ?_) fun _ => ?_
  · have marked := preserved.locals world { world.locals with commitCreated := true } kept
    exact preserved.pending _ _ marked
  · refine Keeps.bind (Keeps.meeting (keeps_change fun _ kept => ?_)) fun _ => keeps_pure _
    exact preserved.intents _ _ kept

theorem ensureCommit (manifest : CheckpointManifest) (files : List WorkspaceFileFact)
    (pending : Option (GitOid × CheckpointManifest)) :
    Keeps inv (ensureCommit setup fates time request workspace manifest files pending) := by
  cases pending with
  | none => exact preserved.commitFiles _ _ _
  | some pending =>
    rw [CheckpointService.ensureCommit]
    split
    · exact keeps_pure _
    · exact preserved.commitFiles _ _ _

theorem settleConflict (newOid : GitOid) :
    Keeps inv (settleConflict setup fates request workspace newOid) := by
  refine Keeps.bind (Keeps.catching ((preserved.resolves _ _).bind fun _ => keeps_pure _)
    fun _ => keeps_pure _) fun actual => (keeps_ask _).bind fun _ => ?_
  split
  · exact keeps_pure _
  · split
    · exact (preserved.aborts _ _).bind fun _ => keeps_pure _
    · refine Keeps.bind (keeps_change fun _ kept => preserved.pending _ _ kept) fun _ => ?_
      refine Keeps.bind (Keeps.meeting (keeps_change fun _ kept => ?_)) fun _ => ?_
      · exact preserved.intents _ _ kept
      · exact (preserved.freezes _ _).bind fun _ => keeps_pure _

theorem advance (newOid : GitOid) : Keeps inv (advance setup fates request workspace newOid) := by
  refine Keeps.catching ((preserved.advances _ _).bind fun _ => keeps_pure _) fun error => ?_
  split
  · exact preserved.settleConflict _ _
  · exact keeps_raise _

theorem finish (receipt : CheckpointReceipt) :
    Keeps inv (finish fates request workspace receipt) := by
  refine Keeps.bind (keeps_change fun _ kept => preserved.locals _ _ kept) fun _ => ?_
  refine (preserved.freezes _ _).bind fun _ => ?_
  refine Keeps.bind (Keeps.meeting (keeps_change fun _ kept => preserved.stored _ _ kept)) fun _ => ?_
  refine Keeps.bind (Keeps.meeting (keeps_change fun _ kept => preserved.intents _ _ kept)) fun _ => ?_
  refine Keeps.bind (keeps_change fun _ kept => ?_) fun _ => keeps_pure _
  exact preserved.pending _ _ (preserved.held _ _ kept)

theorem inspect : Keeps inv (inspect fates request workspace) := by
  refine (keeps_pure _).meeting.bind fun _ => (keeps_ask _).meeting.bind fun tree => ?_
  split
  · exact keeps_raise _
  · refine (preserved.known _).bind fun _ => (keeps_ask _).bind fun operations => ?_
    refine (keeps_pure _).meeting.bind fun _ => ?_
    exact Keeps.bind (keeps_change fun _ kept => preserved.locals _ _ kept) fun _ => keeps_pure _

theorem gate (inspection : Inspection) : Keeps inv (gate fates workspace inspection) := by
  rw [CheckpointService.gate]
  split
  · exact (preserved.aborts _ _).bind fun _ => (preserved.closes _ _).bind fun _ => keeps_pure _
  · split
    · exact (preserved.aborts _ _).bind fun _ => keeps_pure _
    · exact keeps_pure _

theorem attempt (pending : Option (GitOid × CheckpointManifest)) :
    Keeps inv (attempt setup fates time request workspace pending) := by
  refine (preserved.inspect _).bind fun inspection => (preserved.gate _ _).bind fun refused => ?_
  cases refused with
  | some rejection => exact keeps_pure _
  | none =>
    refine (preserved.ensureCommit _ _ _ _).bind fun newOid => ?_
    refine (preserved.advance _ _).bind fun refused => ?_
    cases refused with
    | some rejection => exact keeps_pure _
    | none => exact preserved.finish _ _

theorem recoverFailed : Keeps inv (recoverFailed fates workspace) := by
  refine (keeps_ask _).bind fun locals => Keeps.bind ?_ fun _ => Keeps.bind ?_ fun _ => keeps_pure _
  · split
    · exact keeps_pure _
    · exact (keeps_pure _).meeting
  · refine Keeps.catching ((preserved.aborts _ _).bind fun _ => keeps_pure _) fun error => ?_
    split
    · exact keeps_pure _
    · exact keeps_raise _

end

theorem begin : Keeps inv (begin? fates request) := by
  refine Keeps.catching ((preserved.begins _ _).bind fun _ => keeps_pure _) fun error => ?_
  split
  · exact keeps_pure _
  · exact keeps_raise _

theorem checkpoint : Keeps inv (checkpoint setup fates time request) := by
  refine cachedReceipt_keeps.bind fun cached => ?_
  cases cached with
  | some receipt =>
    exact Keeps.bind (keeps_change fun _ kept => preserved.held _ _ kept) fun _ => keeps_pure _
  | none =>
    refine (loadPending_keeps preserved.pending).bind fun pending => ?_
    refine Keeps.bind (keeps_change fun _ kept => preserved.locals _ _ kept) fun _ => ?_
    refine preserved.begin.bind fun current => ?_
    cases current with
    | none => exact keeps_pure _
    | some workspace =>
      exact (preserved.attempt _ _).catching fun _ => preserved.recoverFailed _

end Preserved

variable {inv : CheckpointWorld → Prop}

theorem currentCandidateOid_keeps (fate : Fate) (path : WorkspacePath) :
    Keeps inv (currentCandidateOid setup fate path) := by
  refine (keeps_ask _).meeting.bind fun current => ?_
  cases current with
  | none => exact keeps_raise _
  | some oid => exact keeps_pure _

theorem createCheckpoint_keeps
    (commits : ∀ world oid commit, inv world →
      inv { world with repository := OutputRepository.withCommit world.repository oid commit })
    (workspace : WorkspaceHandle) (manifest : CheckpointManifest) (files : List WorkspaceFileFact) :
    Keeps inv (createCheckpoint setup fates time workspace manifest files) := by
  rw [createCheckpoint]
  split
  · exact keeps_raise _
  · refine (currentCandidateOid_keeps _ _).bind fun current => ?_
    split
    · exact keeps_raise _
    · refine (keeps_ask _).meeting.bind fun built => ?_
      cases built with
      | none => exact keeps_raise _
      | some tree =>
        refine Keeps.bind (Keeps.meeting (keeps_change fun _ kept => ?_)) fun _ => keeps_pure _
        exact commits _ _ _ kept

/-! ## A ref that has advanced -/

variable {ref : String} {oid : GitOid}

/-- The ref names the commit. -/
def Names (ref : String) (oid : GitOid) (world : CheckpointWorld) : Prop :=
  commitAt world.repository ref = some oid

theorem managing_names {α : Type} (body : Managing α) : Keeps (Names ref oid) (managing body) := by
  intro world named
  rw [managing, after_relabel, after_within]
  unfold After
  rcases body world.manager with ⟨(⟨error⟩ | _) | value, manager⟩
  · exact named
  · exact named
  · exact ⟨named, trivial⟩

theorem currentCandidateOid_names (fate : Fate) (path : WorkspacePath) {world : CheckpointWorld}
    (named : Names ref oid world) :
    (currentCandidateOid setup fate path).After (.keeping (Names ref oid)
      fun current => Names (candidateRef setup path) current) world := by
  rw [currentCandidateOid, after_bind]
  refine after_meeting_look rfl (fun _ => ?_) (fun _ _ => named) (fun _ _ => named)
  rw [after_ask]
  cases found : commitAt world.repository (candidateRef setup path) with
  | none => exact named
  | some current => exact ⟨named, found⟩

theorem withCommit_names (world : CheckpointWorld) (created : GitOid) (commit : GitCommit)
    (named : Names ref oid world) : Names ref oid
      { world with repository := OutputRepository.withCommit world.repository created commit } := by
  obtain ⟨held, present⟩ := Option.filter_eq_some_iff.mp named
  obtain ⟨found, there⟩ := Option.isSome_iff_exists.mp present
  rw [Names, commitAt, OutputRepository.withCommit_refs, held, Option.filter_some,
    OutputRepository.withCommit_keeps there]
  rfl

theorem moveCandidateRef_names (path : WorkspacePath) (current newOid : GitOid)
    (other : ref ≠ candidateRef setup path) :
    Keeps (Names ref oid) (moveCandidateRef setup fates path current newOid) := by
  refine (keeps_ask _).bind fun present => Keeps.bind ?_ fun _ => ?_
  · refine Keeps.meeting ?_
    split
    · exact keeps_pure _
    · exact keeps_raise _
  · refine Keeps.meeting ((keeps_ask _).bind fun held => ?_)
    split
    · exact keeps_raise _
    · refine keeps_change fun world named => ?_
      rw [Names, commitAt, Dict.get?_set, if_neg other]
      exact named

theorem advanceCandidateRef_names (path : WorkspacePath) (newOid : GitOid) {expectedOid : String}
    (elsewhere : oid.text ≠ expectedOid) :
    Keeps (Names ref oid) (advanceCandidateRef setup fates path expectedOid newOid) := by
  intro world named
  refine keeping_bind (currentCandidateOid_names _ _ named) fun current world named resolved => ?_
  split
  · exact named
  · next same =>
      split
      · exact ⟨named, trivial⟩
      · -- the ref to be moved names the expected commit
        have other : ref ≠ candidateRef setup path := by
          rintro rfl
          have equal : oid = current := Option.some.inj (named.symm.trans resolved)
          rw [equal] at elsewhere
          exact same elsewhere
        refine (Keeps.bind (keeps_ask _).meeting fun parents => ?_) world named
        split
        · exact keeps_raise _
        · exact moveCandidateRef_names _ _ _ other

theorem checkpoint_names (elsewhere : oid.text ≠ request.expectedCandidateOid) :
    Keeps (Names ref oid) (checkpoint setup fates time request) := by
  have preserved : Preserved setup fates time request (Names ref oid) :=
    { intents := fun _ _ named => named
      pending := fun _ _ named => named
      locals := fun _ _ named => named
      stored := fun _ _ named => named
      held := fun _ _ named => named
      known := fun _ => managing_names _
      begins := fun _ _ => managing_names _
      aborts := fun _ _ => managing_names _
      freezes := fun _ _ => managing_names _
      closes := fun _ _ => managing_names _
      resolves := currentCandidateOid_keeps
      creates := createCheckpoint_keeps withCommit_names
      advances := fun _ _ => advanceCandidateRef_names _ _ elsewhere }
  exact preserved.checkpoint

end CheckpointService

end CodeMigrator
