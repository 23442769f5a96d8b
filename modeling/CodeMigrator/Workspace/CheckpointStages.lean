import CodeMigrator.Workspace.CheckpointRun

/-!
# The stages of a checkpoint

For a checkpoint that nothing stands in the way of: what intent, pending commit, candidate ref and
receipt can be between two of its calls, and what each part of `checkpoint` makes of them when its
calls run, raise or are the last ones of their process.
-/

namespace CodeMigrator
open Lib

namespace WorkspaceManager
open Lib.Process

variable {manager : WorkspaceManager} {path : WorkspacePath}
  {ends : Ends WorkspaceManager ManagerError WorkspaceHandle} {allowed : List WorkspaceState}

/-! ## Changes of the workspace state -/

/-- The manager after a handle has been persisted. -/
def recorded (manager : WorkspaceManager) (workspace : WorkspaceHandle) : WorkspaceManager :=
  manager.storeRecord ⟨workspace, manager.ledger workspace.path⟩

/-- The manager after a handle has been persisted and taken into memory. -/
def settled (manager : WorkspaceManager) (workspace : WorkspaceHandle) : WorkspaceManager :=
  { manager.recorded workspace with
    handles := manager.handles.set workspace.path workspace }

/-- A change of the state of a known workspace. -/
theorem after_setting {workspace : WorkspaceHandle} {fate : Fate} {state : WorkspaceState}
    (known : manager.handles.get? path = some workspace)
    (refused : workspace.state ∉ allowed → ends.raises .state manager)
    (runs : workspace.state ∈ allowed → fate = .runs →
      ends.returns { workspace with state := state }
        (manager.settled { workspace with state := state }))
    (raises : workspace.state ∈ allowed → ∀ applied, fate = .raises applied →
      ends.raises .port
        (if applied then manager.recorded { workspace with state := state } else manager))
    (dies : workspace.state ∈ allowed → ∀ applied, fate = .dies applied →
      ends.dies (if applied then manager.recorded { workspace with state := state } else manager)) :
    (require path allowed >>= fun workspace => setState fate workspace state).After ends manager := by
  rw [require, requireKnown, after_bind, after_bind, after_bind, after_ask, known]
  dsimp only
  rw [after_pure]
  dsimp only
  by_cases member : workspace.state ∈ allowed
  · rw [if_pos member, after_pure]
    dsimp only
    rw [setState, after_bind]
    refine after_meeting (fun ran => ?_) (raises member) (dies member)
    rw [after_change]
    dsimp only
    rw [after_bind, after_change]
    exact runs member ran
  · rw [if_neg member, after_raise]
    exact refused member

theorem after_setting_unknown {fate : Fate} {state : WorkspaceState}
    (unknown : manager.handles.get? path = none) (refused : ends.raises .state manager) :
    (require path allowed >>= fun workspace => setState fate workspace state).After ends manager := by
  rw [require, requireKnown, after_bind, after_bind, after_bind, after_ask, unknown]
  exact refused

end WorkspaceManager

namespace CheckpointService
open Lib.Process OutputRepository

variable {setup : CheckpointSetup} {fates : CheckpointFates} {time : Nat}
  {request : CheckpointRequest} {world : CheckpointWorld}

theorem after_managing {α : Type} {body : Managing α} {ends : Ends CheckpointWorld CheckpointError α} :
    (managing body).After ends world ↔
      body.After ⟨fun value manager => ends.returns value { world with manager := manager },
        fun error manager => ends.raises (.manager error) { world with manager := manager },
        fun manager => ends.dies { world with manager := manager }⟩ world.manager := by
  rw [managing, after_relabel, after_within]

theorem after_currentCandidateOid {ends : Ends CheckpointWorld CheckpointError GitOid} {fate : Fate}
    {path : WorkspacePath} {head : GitOid}
    (here : commitAt world.repository (candidateRef setup path) = some head)
    (runs : fate = .runs → ends.returns head world)
    (raises : ∀ applied, fate = .raises applied → ends.raises .conflict world)
    (dies : ∀ applied, fate = .dies applied → ends.dies world) :
    (currentCandidateOid setup fate path).After ends world := by
  rw [currentCandidateOid, after_bind]
  refine after_meeting_look rfl (fun ran => ?_) raises dies
  rw [after_ask, here]
  exact runs ran

end CheckpointService

/-! ## The checkpoint and its stores -/

open CheckpointService OutputRepository in
/-- A checkpoint that nothing stands in the way of: the excludes are valid, the difference of the
content from the base is within the scope, and the content can be turned into a tree. -/
structure AcceptableCheckpoint where
  setup : CheckpointSetup
  request : CheckpointRequest
  content : LinkedTree
  expected : GitOid
  expectedText : expected.text = request.expectedCandidateOid
  excludes : request.buildExcludes.all validateRelativePath = true
  accepted : (inspectionOf request request.handle.baseVerifiedOid [] content).violations = []
  tree : GitTree
  built : buildWorkspaceTree setup content
    (inspectionOf request request.handle.baseVerifiedOid [] content).files = some tree

/-- What the stores and the memory of the service hold under one key, with the repository. -/
structure CheckpointStores where
  repository : GitRepository
  intent : Option CheckpointIntent
  pending : Option (GitOid × CheckpointManifest)
  stored : Option CheckpointReceipt
  held : Option CheckpointReceipt

namespace CheckpointStores
open CheckpointService

/-- The stores that a new process finds. -/
def restart (stores : CheckpointStores) : CheckpointStores :=
  { stores with pending := none, held := none }

/-- The pending commit that `checkpoint` goes on with. -/
def remembered (stores : CheckpointStores) : Option (GitOid × CheckpointManifest) :=
  match stores.pending with
  | some pending => some pending
  | none => stores.intent.bind intentCommit

/-- The pending commit in memory is the one of the stored intent. -/
def Recorded (stores : CheckpointStores) : Prop :=
  ∀ pending, stores.pending = some pending → stores.intent.bind intentCommit = some pending

theorem Recorded.remembered {stores : CheckpointStores} (recorded : Recorded stores) :
    stores.restart.remembered = stores.remembered := by
  cases held : stores.pending with
  | none => rw [CheckpointStores.remembered, CheckpointStores.remembered, held, restart]
  | some pending =>
    rw [CheckpointStores.remembered, CheckpointStores.remembered, held, restart]
    exact recorded pending held

end CheckpointStores

namespace AcceptableCheckpoint
open CheckpointService OutputRepository Lib.Process

variable (point : AcceptableCheckpoint)

/-- The workspace of the checkpoint. -/
def path : WorkspacePath := point.request.handle.path

/-- The base of the workspace. -/
def base : String := point.request.handle.baseVerifiedOid

/-- The key of the checkpoint. -/
def key : CheckpointKey := keyOf point.request

/-- The files of the checkpoint. -/
def files : List WorkspaceFileFact := (inspectionOf point.request point.base [] point.content).files

/-- Its manifest. -/
def manifest : CheckpointManifest where
  sliceCandidate := ⟨point.path.runId, point.path.sliceId, point.path.generation, point.base,
    point.request.expectedCandidateOid⟩
  fileCount := point.files.length
  totalBytes := (point.files.map (·.size)).sum
  fileSetDigest := point.setup.digest (fileMap point.files)
  scopeCheckPassed := true

/-- Its commit, made at some time. -/
def commit (time : Nat) : GitCommit :=
  ⟨point.tree, [point.expected], checkpointMessage point.path, time⟩

/-- The name of its commit. -/
def commitOid (time : Nat) : GitOid := point.setup.commitOid (point.commit time)

/-- The stores of a world. -/
def stores (world : CheckpointWorld) : CheckpointStores :=
  ⟨world.repository, world.intents.get? point.key, world.pending.get? point.key,
    world.storedReceipts.get? point.key, world.receipts.get? point.key⟩

/-- The commit that the candidate ref names. -/
def head (stores : CheckpointStores) : Option GitOid :=
  commitAt stores.repository (candidateRef point.setup point.path)

/-- A commit whose only parent is the expected one. -/
def OnTop (repository : GitRepository) (oid : GitOid) : Prop :=
  ∃ commit, repository.commits.get? oid = some commit ∧ commit.parents = [point.expected]

/-- The pending commit is one of these files. -/
def Remembers (stores : CheckpointStores) (oid : GitOid) : Prop :=
  ∃ manifest, stores.remembered = some (oid, manifest) ∧
    manifest.fileSetDigest = point.manifest.fileSetDigest

/-- Objects are named by their content: the expected commit is not its own parent, and what has the
name of a checkpoint commit is on top of the expected one. So are the commits of the intent and of
the memory, and the intent names the one in memory if it names any. -/
structure Sound (stores : CheckpointStores) : Prop where
  own : ¬ point.OnTop stores.repository point.expected
  named : ∀ time commit, stores.repository.commits.get? (point.commitOid time) = some commit →
    commit.parents = [point.expected]
  intent : ∀ pending, stores.intent.bind intentCommit = some pending →
    point.OnTop stores.repository pending.1
  pending : ∀ pending, stores.pending = some pending → point.OnTop stores.repository pending.1
  coherent : ∀ pending, stores.pending = some pending →
    stores.intent.bind intentCommit = some pending ∨ stores.intent.bind intentCommit = none

/-- There is no receipt. -/
def Unreceipted (stores : CheckpointStores) : Prop := stores.stored = none ∧ stores.held = none

/-- The ref is still at the expected commit. -/
structure Unadvanced (stores : CheckpointStores) : Prop where
  head : point.head stores = some point.expected
  unreceipted : Unreceipted stores

/-- The ref has advanced to the pending commit. -/
structure Advanced (stores : CheckpointStores) (oid : GitOid) : Prop where
  head : point.head stores = some oid
  onTop : point.OnTop stores.repository oid
  remembers : point.Remembers stores oid
  unreceipted : Unreceipted stores

/-- There is a receipt for the commit that the ref names. -/
structure Done (stores : CheckpointStores) (receipt : CheckpointReceipt) : Prop where
  stored : stores.stored = some receipt
  held : ∀ other, stores.held = some other → other = receipt
  advanced : ∃ oid, point.head stores = some oid ∧ point.OnTop stores.repository oid ∧
    receipt.newCandidateOid = oid.text

/-- The stages of a checkpoint. -/
def Staged (stores : CheckpointStores) : Prop :=
  point.Unadvanced stores ∨ (∃ oid, point.Advanced stores oid) ∨
    ∃ receipt, point.Done stores receipt

/-- The ledger does not cross the scope. -/
def Allowed (operations : List WorkspaceFileOperation) : Prop :=
  ∀ operation ∈ operations, operationAllowed operation point.request.scope = true

/-- The workspace with its content, its record and its handle. -/
structure Managed (manager : WorkspaceManager) : Prop where
  directory : manager.directories.get? point.path = some point.content
  record : ∀ record, manager.records.get? point.path = some record →
    record.handle.path = point.path ∧ record.handle.baseVerifiedOid = point.base ∧
      point.Allowed record.operations
  handle : ∀ workspace, manager.handles.get? point.path = some workspace →
    workspace.path = point.path ∧ workspace.baseVerifiedOid = point.base
  ledger : point.Allowed (manager.ledger point.path)

/-- The workspace is known and in a state. -/
def At (manager : WorkspaceManager) (state : WorkspaceState) : Prop :=
  ∃ workspace, manager.handles.get? point.path = some workspace ∧ workspace.state = state

variable {point} {stores : CheckpointStores} {manager : WorkspaceManager}
  {allowed : List WorkspaceState} {state : WorkspaceState} {time : Nat}
  {ends : Ends CheckpointWorld CheckpointError GitOid} {before : CheckpointWorld}

/-! ## Stages and restarts -/

theorem Sound.restart (sound : point.Sound stores) : point.Sound stores.restart where
  own := sound.own
  named := sound.named
  intent := sound.intent
  pending := fun _ held => nomatch held
  coherent := fun _ held => nomatch held

theorem Unadvanced.restart (unadvanced : point.Unadvanced stores) : point.Unadvanced stores.restart :=
  ⟨unadvanced.head, unadvanced.unreceipted.1, rfl⟩

theorem Done.restart {receipt : CheckpointReceipt} (done : point.Done stores receipt) :
    point.Done stores.restart receipt :=
  ⟨done.stored, fun _ held => (nomatch held), done.advanced⟩

/-- A new process finds the checkpoint in one of its stages. -/
theorem Staged.restart (staged : point.Staged stores) (recorded : stores.Recorded) :
    point.Staged stores.restart := by
  rcases staged with unadvanced | ⟨oid, advanced⟩ | ⟨receipt, done⟩
  · exact .inl unadvanced.restart
  · refine .inr (.inl ⟨oid, advanced.head, advanced.onTop, ?_, advanced.unreceipted.1, rfl⟩)
    rw [Remembers, recorded.remembered]
    exact advanced.remembers
  · exact .inr (.inr ⟨receipt, done.restart⟩)

theorem Sound.ne (sound : point.Sound stores) {oid : GitOid} (onTop : point.OnTop stores.repository oid) :
    oid ≠ point.expected := by
  rintro rfl
  exact sound.own onTop

theorem text_ne {left right : GitOid} (different : left ≠ right) : left.text ≠ right.text := by
  intro same
  apply different
  cases left
  cases right
  cases same
  rfl

/-! ## The manager's part -/

theorem Managed.recorded (managed : point.Managed manager) {workspace : WorkspaceHandle}
    (place : workspace.path = point.path) (base : workspace.baseVerifiedOid = point.base) :
    point.Managed (manager.recorded workspace) where
  directory := managed.directory
  record := by
    intro record stored
    rw [WorkspaceManager.recorded, WorkspaceManager.storeRecord, Dict.get?_set, if_pos place.symm]
      at stored
    cases stored
    exact ⟨place, base, by rw [place]; exact managed.ledger⟩
  handle := managed.handle
  ledger := managed.ledger

theorem Managed.settled (managed : point.Managed manager) {workspace : WorkspaceHandle}
    (place : workspace.path = point.path) (base : workspace.baseVerifiedOid = point.base) :
    point.Managed (manager.settled workspace) where
  directory := managed.directory
  record := (managed.recorded place base).record
  handle := by
    intro other held
    rw [WorkspaceManager.settled, Dict.get?_set, if_pos place.symm] at held
    cases held
    exact ⟨place, base⟩
  ledger := managed.ledger

theorem at_settled {workspace : WorkspaceHandle} (place : workspace.path = point.path) :
    point.At (manager.settled workspace) workspace.state := by
  refine ⟨workspace, ?_, rfl⟩
  rw [WorkspaceManager.settled, Dict.get?_set, if_pos place.symm]

theorem after_change_state {ends : Ends WorkspaceManager ManagerError WorkspaceHandle} {fate : Fate}
    {before : WorkspaceState} (managed : point.Managed manager) (here : point.At manager before)
    (member : before ∈ allowed)
    (runs : fate = .runs → ∀ workspace after, workspace.path = point.path →
      workspace.baseVerifiedOid = point.base → point.Managed after → point.At after state →
      ends.returns workspace after)
    (raises : ∀ applied, fate = .raises applied → ∀ after, point.Managed after →
      point.At after before → ends.raises .port after)
    (dies : ∀ applied, fate = .dies applied → ∀ after, point.Managed after → ends.dies after) :
    (WorkspaceManager.require point.path allowed >>= fun workspace =>
      WorkspaceManager.setState fate workspace state).After ends manager := by
  obtain ⟨workspace, known, isState⟩ := here
  obtain ⟨place, base⟩ := managed.handle workspace known
  have kept : ∀ applied : Bool, point.Managed (if applied then
      manager.recorded { workspace with state := state } else manager) := by
    intro applied
    cases applied with
    | false => exact managed
    | true => exact managed.recorded place base
  refine WorkspaceManager.after_setting known (fun refused => ?_) (fun _ ran => ?_)
    (fun _ applied raised => ?_) (fun _ applied died => dies applied died _ (kept applied))
  · rw [isState] at refused
    exact absurd member refused
  · exact runs ran _ _ place base (managed.settled place base) (at_settled place)
  · refine raises applied raised _ (kept applied) ?_
    cases applied with
    | false => exact ⟨workspace, known, isState⟩
    | true => exact ⟨workspace, known, isState⟩

/-! ## The gate -/

/-- The process dies at one of the calls, where it gets that far. -/
def Mortal (fates : CheckpointFates) : Prop := ∃ call applied, fates call = .dies applied

/-- One of the calls does not run, where the process gets that far. -/
def Troubled (fates : CheckpointFates) : Prop := ∃ call, fates call ≠ .runs

theorem Mortal.troubled {fates : CheckpointFates} (mortal : Mortal fates) : Troubled fates := by
  obtain ⟨call, applied, died⟩ := mortal
  exact ⟨call, by rw [died]; exact nofun⟩

theorem Troubled.of_raises {fates : CheckpointFates} {call : CheckpointCall} {applied : Bool}
    (raised : fates call = .raises applied) : Troubled fates :=
  ⟨call, by rw [raised]; exact nofun⟩

theorem healthy_untroubled : ¬ Troubled CheckpointFates.healthy :=
  fun ⟨_, stopped⟩ => stopped rfl

/-- A change out of one state, wherever the workspace is. -/
theorem after_change_from {ends : Ends WorkspaceManager ManagerError WorkspaceHandle}
    {fates : CheckpointFates} {call : CheckpointCall} {before : WorkspaceState}
    (managed : point.Managed manager)
    (runs : point.At manager before → ∀ workspace after, workspace.path = point.path →
      workspace.baseVerifiedOid = point.base → point.Managed after → point.At after state →
      ends.returns workspace after)
    (refused : ¬ point.At manager before → ends.raises .state manager)
    (raises : Troubled fates → ∀ after, point.Managed after → ends.raises .port after)
    (dies : Mortal fates → ∀ after, point.Managed after → ends.dies after) :
    (WorkspaceManager.require point.path [before] >>= fun workspace =>
      WorkspaceManager.setState (fates call) workspace state).After ends manager := by
  by_cases here : point.At manager before
  · exact after_change_state managed here (List.mem_singleton.mpr rfl) (fun _ => runs here)
      (fun _ raised after managed _ => raises (.of_raises raised) after managed)
      (fun _ died => dies ⟨_, _, died⟩)
  cases known : manager.handles.get? point.path with
  | none => exact WorkspaceManager.after_setting_unknown known (refused here)
  | some workspace =>
    have other : workspace.state ∉ [before] := fun member =>
      here ⟨workspace, known, List.mem_singleton.mp member⟩
    exact WorkspaceManager.after_setting known (fun _ => refused here)
      (fun member => absurd member other) (fun member => absurd member other)
      (fun member => absurd member other)

/-- The calls of the gate run. -/
def Inspected (fates : CheckpointFates) : Prop :=
  fates .quiesce = .runs ∧ fates .diff = .runs ∧ fates .audit = .runs

theorem inspection_clean {operations : List WorkspaceFileOperation}
    (allowed : point.Allowed operations) :
    inspectionOf point.request point.base operations point.content = ⟨[], [], point.files⟩ := by
  have none : operations.filter
      (fun operation => !operationAllowed operation point.request.scope) = [] := by
    apply List.filter_eq_nil_iff.mpr
    intro operation member
    rw [allowed operation member]
    decide
  have accepted := point.accepted
  unfold inspectionOf scopeViolations at accepted ⊢
  rw [none]
  exact congrArg (fun found => (⟨[], found, point.files⟩ : Inspection)) accepted

variable {world : CheckpointWorld} {fates : CheckpointFates} {workspace : WorkspaceHandle}

/-- The gate lists the files of the checkpoint, and nothing against them. -/
theorem after_inspect {ends : Ends CheckpointWorld CheckpointError Inspection}
    (managed : point.Managed world.manager) (here : point.At world.manager state)
    (place : workspace.path = point.path) (base : workspace.baseVerifiedOid = point.base)
    (runs : Inspected fates → ends.returns ⟨[], [], point.files⟩
      { world with locals.auditEmitted := true })
    (raises : ¬ Inspected fates → ∀ error, ends.raises error world)
    (dies : Mortal fates → ends.dies world) :
    (inspect fates point.request workspace).After ends world := by
  obtain ⟨held, known, -⟩ := here
  have content : world.content workspace.path = point.content := by
    rw [CheckpointWorld.content, place, managed.directory]
    rfl
  rw [inspect, after_bind]
  refine after_meeting_look rfl (fun quiesced => ?_)
    (fun _ raised => raises (fun all => by rw [all.1] at raised; cases raised) _)
    (fun _ died => dies ⟨_, _, died⟩)
  rw [after_pure]
  dsimp only
  rw [after_bind]
  refine after_meeting_look rfl (fun compared => ?_)
    (fun _ raised => raises (fun all => by rw [all.2.1] at raised; cases raised) _)
    (fun _ died => dies ⟨_, _, died⟩)
  rw [after_ask, content]
  dsimp only
  rw [if_neg (by rw [point.excludes]; decide), after_bind, after_managing,
    WorkspaceManager.requireKnown, after_bind, after_ask, place, known]
  dsimp only
  rw [after_pure]
  dsimp only
  rw [after_bind, after_ask]
  dsimp only
  rw [after_bind]
  refine after_meeting_look rfl (fun audited => ?_)
    (fun _ raised => raises (fun all => by rw [all.2.2] at raised; cases raised) _)
    (fun _ died => dies ⟨_, _, died⟩)
  rw [after_pure]
  dsimp only
  rw [after_bind, after_change]
  dsimp only
  rw [after_pure, base, inspection_clean managed.ledger]
  exact runs ⟨quiesced, compared, audited⟩

/-! ## The commit -/

/-- The commit is in the repository. -/
def committed (point : AcceptableCheckpoint) (time : Nat) (repository : GitRepository) :
    GitRepository :=
  withCommit repository (point.commitOid time) (point.commit time)

theorem commitAt_committed {repository : GitRepository} {ref : String} {oid : GitOid}
    (here : commitAt repository ref = some oid) :
    commitAt (point.committed time repository) ref = some oid := by
  obtain ⟨named, present⟩ := Option.filter_eq_some_iff.mp here
  obtain ⟨found, there⟩ := Option.isSome_iff_exists.mp present
  rw [commitAt, committed, withCommit_refs, named, Option.filter_some, withCommit_keeps there]
  rfl

theorem OnTop.committed {repository : GitRepository} {oid : GitOid}
    (onTop : point.OnTop repository oid) : point.OnTop (point.committed time repository) oid := by
  obtain ⟨found, there, parents⟩ := onTop
  exact ⟨found, withCommit_keeps there _ _, parents⟩

/-- The stores with the commit. -/
def withCommitted (point : AcceptableCheckpoint) (time : Nat) (stores : CheckpointStores) :
    CheckpointStores :=
  { stores with repository := point.committed time stores.repository }

theorem Unadvanced.committed (unadvanced : point.Unadvanced stores) (time : Nat) :
    point.Unadvanced (point.withCommitted time stores) :=
  ⟨commitAt_committed unadvanced.head, unadvanced.unreceipted⟩

theorem Sound.committed (sound : point.Sound stores) (unadvanced : point.Unadvanced stores)
    (time : Nat) : point.Sound (point.withCommitted time stores) where
  own := by
    rintro ⟨found, there, parents⟩
    rcases of_withCommit there with before | ⟨same, rfl⟩
    · exact sound.own ⟨found, before, parents⟩
    · -- the expected commit is there already
      obtain ⟨-, present⟩ := Option.filter_eq_some_iff.mp unadvanced.head
      obtain ⟨old, before⟩ := Option.isSome_iff_exists.mp present
      exact sound.own ⟨old, before, sound.named time old (by rw [← same, before])⟩
  named := by
    intro other found there
    rcases of_withCommit there with before | ⟨-, rfl⟩
    · exact sound.named other found before
    · rfl
  intent := fun pending named => (sound.intent pending named).committed
  pending := fun pending held => (sound.pending pending held).committed
  coherent := sound.coherent

theorem onTop_committed (sound : point.Sound stores) (unadvanced : point.Unadvanced stores)
    (time : Nat) : point.OnTop (point.committed time stores.repository) (point.commitOid time) := by
  obtain ⟨found, there⟩ := Option.isSome_iff_exists.mp
    (withCommit_present stores.repository (point.commitOid time) (point.commit time))
  exact ⟨found, there, (sound.committed unadvanced time).named time found there⟩

/-- The calls of `create_checkpoint` run. -/
def Created (fates : CheckpointFates) : Prop :=
  fates .createResolve = .runs ∧ fates .buildTree = .runs ∧ fates .commitTree = .runs

/-- The commit is made; a call that raises may have made it. -/
theorem after_createCheckpoint (managed : point.Managed world.manager)
    (head : point.head (point.stores world) = some point.expected)
    (place : workspace.path = point.path) (base : workspace.baseVerifiedOid = point.base)
    (runs : Created fates → ends.returns (point.commitOid time)
      { world with repository := point.committed time world.repository })
    (raises : ¬ Created fates → ∀ error repository, repository = world.repository ∨
      repository = point.committed time world.repository →
        ends.raises error { world with repository := repository })
    (dies : Mortal fates → ∀ repository, repository = world.repository ∨
      repository = point.committed time world.repository →
        ends.dies { world with repository := repository }) :
    (createCheckpoint point.setup fates time workspace point.manifest point.files).After ends world := by
  have fits : manifestMatches point.setup workspace point.manifest point.files = true := by
    simp [manifestMatches, manifest, place, base]
  have content : world.content workspace.path = point.content := by
    rw [CheckpointWorld.content, place, managed.directory]
    rfl
  rw [createCheckpoint, if_neg (by rw [fits]; decide), after_bind]
  refine @after_currentCandidateOid _ _ _ _ _ point.expected (by rw [place]; exact head)
    (fun resolved => ?_)
    (fun _ raised => raises (fun all => by rw [all.1] at raised; cases raised) _ _ (.inl rfl))
    (fun _ died => dies ⟨_, _, died⟩ _ (.inl rfl))
  have same : point.expected.text = point.manifest.sliceCandidate.candidateCommitOid :=
    point.expectedText
  dsimp only
  rw [if_neg (not_not.mpr same), after_bind]
  refine after_meeting_look rfl (fun built => ?_)
    (fun _ raised => raises (fun all => by rw [all.2.1] at raised; cases raised) _ _ (.inl rfl))
    (fun _ died => dies ⟨_, _, died⟩ _ (.inl rfl))
  rw [after_ask, content, show buildWorkspaceTree point.setup point.content point.files =
    some point.tree from point.built]
  dsimp only
  rw [after_bind, place]
  refine after_meeting (fun made => ?_) (fun applied raised => ?_) (fun applied died => ?_)
  · rw [after_change]
    exact runs ⟨resolved, built, made⟩
  · have refused : ¬ Created fates := fun all => by rw [all.2.2] at raised; cases raised
    cases applied with
    | false => exact raises refused _ _ (.inl rfl)
    | true => exact raises refused _ _ (.inr rfl)
  · cases applied with
    | false => exact dies ⟨_, _, died⟩ _ (.inl rfl)
    | true => exact dies ⟨_, _, died⟩ _ (.inr rfl)

/-! ## The stores after a change -/

theorem stores_erasePending (world : CheckpointWorld) :
    point.stores { world with pending := world.pending.erase (keyOf point.request) } =
      { point.stores world with pending := none } :=
  congrArg (fun pending => { point.stores world with pending := pending })
    (Dict.get?_erase_self world.pending point.key)

theorem stores_setPending (world : CheckpointWorld) (pending : GitOid × CheckpointManifest) :
    point.stores { world with pending := world.pending.set (keyOf point.request) pending } =
      { point.stores world with pending := some pending } :=
  congrArg (fun pending => { point.stores world with pending := pending })
    (Dict.get?_set_self world.pending point.key pending)

theorem stores_eraseIntent (world : CheckpointWorld) :
    point.stores { world with intents := world.intents.erase (keyOf point.request) } =
      { point.stores world with intent := none } :=
  congrArg (fun intent => { point.stores world with intent := intent })
    (Dict.get?_erase_self world.intents point.key)

theorem stores_setIntent (world : CheckpointWorld) (intent : CheckpointIntent) :
    point.stores { world with intents := world.intents.set (keyOf point.request) intent } =
      { point.stores world with intent := some intent } :=
  congrArg (fun intent => { point.stores world with intent := intent })
    (Dict.get?_set_self world.intents point.key intent)

theorem Sound.setIntent (sound : point.Sound stores) (empty : stores.pending = none)
    {intent : Option CheckpointIntent}
    (onTop : ∀ pending, intent.bind intentCommit = some pending →
      point.OnTop stores.repository pending.1) :
    point.Sound { stores with intent := intent } where
  own := sound.own
  named := sound.named
  intent := onTop
  pending := sound.pending
  coherent := fun _ held => by rw [empty] at held; cases held

theorem Sound.forget (sound : point.Sound stores) : point.Sound { stores with pending := none } where
  own := sound.own
  named := sound.named
  intent := sound.intent
  pending := fun _ held => nomatch held
  coherent := fun _ held => nomatch held

theorem Sound.setPending (sound : point.Sound stores) {pending : GitOid × CheckpointManifest}
    (onTop : point.OnTop stores.repository pending.1) {intent : Option CheckpointIntent}
    (names : intent.bind intentCommit = some pending ∨ intent.bind intentCommit = none) :
    point.Sound { stores with intent := intent, pending := some pending } where
  own := sound.own
  named := sound.named
  intent := by
    intro other named
    rcases names with same | none
    · rw [same] at named
      cases named
      exact onTop
    · rw [none] at named
      cases named
  pending := by
    rintro other held
    cases held
    exact onTop
  coherent := by
    rintro other held
    cases held
    exact names

/-- The ref is still at the expected commit, and the manager is as before. -/
structure Left (point : AcceptableCheckpoint) (before after : CheckpointWorld) : Prop where
  manager : after.manager = before.manager
  sound : point.Sound (point.stores after)
  unadvanced : point.Unadvanced (point.stores after)

/-- Neither memory nor the intent names a commit. -/
structure Unnamed (stores : CheckpointStores) : Prop where
  pending : stores.pending = none
  intent : stores.intent.bind intentCommit = none

theorem Left.forgets (left : point.Left before world) :
    point.Left before { world with pending := world.pending.erase (keyOf point.request) } := by
  refine ⟨left.manager, ?_, left.unadvanced.head, left.unadvanced.unreceipted⟩
  rw [stores_erasePending]
  exact left.sound.forget

theorem Left.drops (left : point.Left before world) (empty : (point.stores world).pending = none) :
    point.Left before { world with intents := world.intents.erase (keyOf point.request) } := by
  refine ⟨left.manager, ?_, left.unadvanced.head, left.unadvanced.unreceipted⟩
  rw [stores_eraseIntent]
  exact left.sound.setIntent empty fun _ named => nomatch named

theorem Left.saves (left : point.Left before world) (empty : (point.stores world).pending = none)
    {intent : CheckpointIntent} (bare : intentCommit intent = none) :
    point.Left before { world with intents := world.intents.set (keyOf point.request) intent } := by
  refine ⟨left.manager, ?_, left.unadvanced.head, left.unadvanced.unreceipted⟩
  rw [stores_setIntent]
  refine left.sound.setIntent empty fun _ named => ?_
  rw [Option.bind_some, bare] at named
  cases named

theorem Left.commits (left : point.Left before world) (time : Nat) :
    point.Left before { world with repository := point.committed time world.repository } :=
  ⟨left.manager, left.sound.committed left.unadvanced time, left.unadvanced.committed time⟩

theorem Left.holds {before : CheckpointWorld} (left : point.Left before world)
    {pending : GitOid × CheckpointManifest} (onTop : point.OnTop world.repository pending.1)
    (unnamed : Unnamed (point.stores world)) :
    point.Left before
      { world with pending := world.pending.set (keyOf point.request) pending } := by
  refine ⟨left.manager, ?_, left.unadvanced.head, left.unadvanced.unreceipted⟩
  rw [stores_setPending]
  exact left.sound.setPending onTop (.inr unnamed.intent)

theorem Left.names (left : point.Left before world) {pending : GitOid × CheckpointManifest}
    (held : (point.stores world).pending = some pending) {intent : CheckpointIntent}
    (names : intentCommit intent = some pending) :
    point.Left before { world with intents := world.intents.set (keyOf point.request) intent } := by
  refine ⟨left.manager, ?_, left.unadvanced.head, left.unadvanced.unreceipted⟩
  have kept := @Sound.setPending _ _ left.sound pending (left.sound.pending _ held) (some intent)
    (.inl names)
  rw [stores_setIntent]
  rw [← held] at kept
  exact kept

/-- The calls of a new commit run. -/
def Committed (fates : CheckpointFates) : Prop :=
  fates .dropIntent = .runs ∧ fates .saveIntent = .runs ∧ Created fates ∧ fates .saveCommit = .runs

/-- A new commit is recorded as pending, and the ref is where it was. -/
theorem after_commitFiles (managed : point.Managed world.manager)
    (sound : point.Sound (point.stores world)) (unadvanced : point.Unadvanced (point.stores world))
    (place : workspace.path = point.path) (base : workspace.baseVerifiedOid = point.base)
    (runs : Committed fates → ∀ after, point.Left world after →
      point.Remembers (point.stores after) (point.commitOid time) →
      point.OnTop (point.stores after).repository (point.commitOid time) →
      (point.stores after).Recorded → ends.returns (point.commitOid time) after)
    (raises : ¬ Committed fates → ∀ error after, point.Left world after → ends.raises error after)
    (dies : Mortal fates → ∀ after, point.Left world after → ends.dies after) :
    (commitFiles point.setup fates time point.request workspace point.manifest point.files).After
      ends world := by
  have start : point.Left world world := ⟨rfl, sound, unadvanced⟩
  rw [commitFiles]
  dsimp only
  -- memory forgets the pending commit
  rw [after_bind, after_change]
  dsimp only
  have forgot := start.forgets
  have empty := congrArg CheckpointStores.pending (@stores_erasePending point world)
  generalize { world with pending := world.pending.erase (keyOf point.request) } = forgetting
    at forgot empty
  -- the store forgets the intent
  have dropped := forgot.drops empty
  rw [after_bind]
  refine after_meeting_change (point.Left world) forgot dropped (fun ranDrop => ?_)
    (fun _ raised => raises (fun all => by rw [all.1] at raised; cases raised) _)
    (fun _ dead => dies ⟨_, _, dead⟩)
  dsimp only
  have empty : (point.stores
      { forgetting with intents := forgetting.intents.erase (keyOf point.request) }).pending = none :=
    empty
  generalize { forgetting with intents := forgetting.intents.erase (keyOf point.request) } =
    dropping at dropped empty
  -- the intent is saved without a commit
  generalize unnamed : (CheckpointIntent.mk workspace.path point.request.expectedCandidateOid
    point.manifest (idempotencyKey point.setup point.request workspace.path point.manifest) none) =
      intent
  have bare : intentCommit intent = none := by rw [← unnamed]; rfl
  have saved := dropped.saves empty bare
  rw [after_bind]
  refine after_meeting_change (point.Left world) dropped saved (fun ranSave => ?_)
    (fun _ raised => raises (fun all => by rw [all.2.1] at raised; cases raised) _)
    (fun _ dead => dies ⟨_, _, dead⟩)
  dsimp only
  have unnamed : Unnamed (point.stores
      { dropping with intents := dropping.intents.set (keyOf point.request) intent }) := by
    rw [stores_setIntent]
    exact ⟨empty, bare⟩
  generalize { dropping with intents := dropping.intents.set (keyOf point.request) intent } =
    saving at saved unnamed
  -- the commit is created
  have made : ∀ repository, repository = saving.repository ∨
      repository = point.committed time saving.repository →
        point.Left world { saving with repository := repository } := by
    rintro repository (rfl | rfl)
    · exact saved
    · exact saved.commits time
  rw [after_bind]
  refine after_createCheckpoint (by rw [saved.manager]; exact managed) saved.unadvanced.head place
    base (fun created => ?_)
    (fun refused error repository either => raises (fun all => refused all.2.2.1) error _
      (made repository either))
    (fun mortal repository either => dies mortal _ (made repository either))
  have onTop := onTop_committed saved.sound saved.unadvanced time
  have made := saved.commits time
  dsimp only
  have unnamed : Unnamed (point.stores { saving with
      repository := point.committed time saving.repository }) := ⟨unnamed.pending, unnamed.intent⟩
  generalize hold : { saving with repository := point.committed time saving.repository } = making
    at made unnamed
  have onTop : point.OnTop making.repository (point.commitOid time) := by rw [← hold]; exact onTop
  -- memory holds the commit
  rw [after_bind, after_change]
  dsimp only
  have took : point.Left world { making with
      locals.commitCreated := true
      pending := making.pending.set (keyOf point.request) (point.commitOid time, point.manifest) } := by
    have held := @Left.holds _ _ _ made (point.commitOid time, point.manifest) onTop unnamed
    exact ⟨held.manager, held.sound, held.unadvanced⟩
  have holds : (point.stores { making with
      locals.commitCreated := true
      pending := making.pending.set (keyOf point.request)
        (point.commitOid time, point.manifest) }).pending =
          some (point.commitOid time, point.manifest) := Dict.get?_set_self making.pending _ _
  generalize { making with
      locals.commitCreated := true
      pending := making.pending.set (keyOf point.request) (point.commitOid time, point.manifest) } =
    taking at took holds
  -- the intent is saved with the commit
  generalize named : (CheckpointIntent.mk workspace.path point.request.expectedCandidateOid
    point.manifest (idempotencyKey point.setup point.request workspace.path point.manifest)
      (some (point.commitOid time))) = final
  have names : intentCommit final = some (point.commitOid time, point.manifest) := by
    rw [← named]
    rfl
  have finished := took.names holds names
  rw [after_bind]
  refine after_meeting_change (point.Left world) took finished (fun ranCommit => ?_)
    (fun _ raised => raises (fun all => by rw [all.2.2.2] at raised; cases raised) _)
    (fun _ dead => dies ⟨_, _, dead⟩)
  dsimp only
  rw [after_pure]
  refine runs ⟨ranDrop, ranSave, created, ranCommit⟩ _ finished ?_ (took.sound.pending _ holds) ?_
  · rw [stores_setIntent]
    exact ⟨point.manifest, by rw [CheckpointStores.remembered, holds], rfl⟩
  · rw [stores_setIntent]
    intro pending held
    cases holds.symm.trans held
    exact names

/-- A commit of these files that the ref is still to advance to, or has advanced to. -/
structure Pending (point : AcceptableCheckpoint) (stores : CheckpointStores) (oid : GitOid) :
    Prop where
  remembers : point.Remembers stores oid
  onTop : point.OnTop stores.repository oid
  stage : point.Unadvanced stores ∨ point.Advanced stores oid

/-- There is a commit of these files already. -/
def Reuses (point : AcceptableCheckpoint) (stores : CheckpointStores) : Prop :=
  ∃ oid, point.Remembers stores oid

/-- A commit of these files is there or is made. -/
def Prepared (point : AcceptableCheckpoint) (fates : CheckpointFates) (stores : CheckpointStores) :
    Prop :=
  point.Reuses stores ∨ Committed fates

/-- The commit to advance to: the pending one of these files, or a new one. -/
theorem after_ensureCommit (managed : point.Managed world.manager)
    (sound : point.Sound (point.stores world))
    (stage : point.Unadvanced (point.stores world) ∨ ∃ oid, point.Advanced (point.stores world) oid)
    (loaded : (point.stores world).remembered = (point.stores world).pending)
    (place : workspace.path = point.path) (base : workspace.baseVerifiedOid = point.base)
    (runs : point.Prepared fates (point.stores world) → ∀ oid after, after.manager = world.manager →
      point.Sound (point.stores after) → point.Pending (point.stores after) oid →
      (point.Reuses (point.stores world) ∧ after = world ∨
        ¬ point.Reuses (point.stores world) ∧ point.Unadvanced (point.stores after) ∧
          (point.stores after).Recorded) → ends.returns oid after)
    (raises : ¬ point.Prepared fates (point.stores world) → ∀ error after, point.Left world after →
      ends.raises error after)
    (dies : Mortal fates → ∀ after, point.Left world after → ends.dies after) :
    (ensureCommit point.setup fates time point.request workspace point.manifest point.files
      (point.stores world).pending).After ends world := by
  -- without a commit of these files the ref has not advanced
  have anew : ¬ point.Reuses (point.stores world) →
      (commitFiles point.setup fates time point.request workspace point.manifest point.files).After
        ends world := by
    intro none
    have unadvanced : point.Unadvanced (point.stores world) := by
      rcases stage with unadvanced | ⟨oid, advanced⟩
      · exact unadvanced
      · exact absurd ⟨oid, advanced.remembers⟩ none
    refine after_commitFiles managed sound unadvanced place base ?_ ?_ dies
    · intro committed after left remembers onTop recorded
      exact runs (.inr committed) _ after left.manager left.sound
        ⟨remembers, onTop, .inl left.unadvanced⟩ (.inr ⟨none, left.unadvanced, recorded⟩)
    · intro refused
      exact raises fun prepared => prepared.elim none refused
  cases held : (point.stores world).pending with
  | none =>
    refine anew ?_
    rintro ⟨oid, manifest, remembered, -⟩
    rw [loaded, held] at remembered
    cases remembered
  | some pending =>
    obtain ⟨oid, manifest⟩ := pending
    rw [ensureCommit]
    by_cases same : manifest.fileSetDigest = point.manifest.fileSetDigest
    · rw [if_pos same, after_pure]
      have remembers : point.Remembers (point.stores world) oid :=
        ⟨manifest, loaded.trans held, same⟩
      refine runs (.inl ⟨oid, remembers⟩) oid world rfl sound
        ⟨remembers, sound.pending _ held, ?_⟩ (.inl ⟨⟨oid, remembers⟩, rfl⟩)
      rcases stage with unadvanced | ⟨other, advanced⟩
      · exact .inl unadvanced
      · obtain ⟨_, remembered, -⟩ := advanced.remembers
        rw [loaded, held] at remembered
        cases remembered
        exact .inr advanced
    · rw [if_neg same]
      refine anew ?_
      rintro ⟨other, _, remembered, equal⟩
      rw [loaded, held] at remembered
      cases remembered
      exact same equal

end AcceptableCheckpoint

end CodeMigrator
