import CodeMigrator.Workspace.CheckpointCall
import CodeMigrator.Workspace.CheckpointMoves

/-!
# A checkpoint is called again

After an infrastructure failure the next call of the same process returns a receipt, and the ref has
advanced exactly once, unless the failing calls stranded the workspace.
-/

namespace CodeMigrator
open Lib

namespace AcceptableCheckpoint
open CheckpointService Lib.Process

variable {point : AcceptableCheckpoint} {stores : CheckpointStores} {world : CheckpointWorld}
  {fates : CheckpointFates} {workspace : WorkspaceHandle} {time : Nat}
  {ends : Ends CheckpointWorld CheckpointError GitOid} {oid : GitOid}

/-! ## Where nothing fails -/

theorem healthy_not_misled : ¬ point.Misled .healthy stores := by
  rintro ⟨-, -, -, applied, raised⟩
  cases raised

theorem healthy_not_strands : ¬ point.Strands .healthy stores := by
  rintro (⟨-, -, -, -, -, unsaved⟩ | forgets)
  · cases unsaved
  · exact healthy_not_misled forgets.1

theorem healthy_returns (managed : point.Managed world.manager) (sound : point.Sound (point.stores world))
    (staged : point.Staged (point.stores world))
    (goes : point.At world.manager .iterating ∨ ∃ receipt, point.Done (point.stores world) receipt) :
    ∃ receipt last, checkpoint point.setup .healthy time point.request world =
      (.ok (.receipt receipt), last) ∧ point.Kept (point.stores world) last ∧
        point.Done (point.stores last) receipt := by
  have untroubled := healthy_untroubled
  let Returned : CheckpointOutcome → CheckpointWorld → Prop := fun outcome last =>
    ∃ receipt, outcome = .receipt receipt ∧ point.Kept (point.stores world) last ∧
      point.Done (point.stores last) receipt
  have returned : (checkpoint point.setup .healthy time point.request).After
      ⟨Returned, fun _ _ => False, fun _ => False⟩ world := by
    rcases goes with iterating | ⟨receipt, done⟩
    · exact after_checkpoint managed sound staged
        { receipt := fun receipt last kept done => ⟨receipt, rfl, kept, done⟩
          unready := fun elsewhere => absurd iterating elsewhere
          retry := fun troubled => absurd troubled untroubled
          fails := fun troubled => absurd troubled untroubled
          strands := fun strands => absurd strands healthy_not_strands
          raises := fun troubled => absurd troubled untroubled
          dies := fun mortal => absurd mortal.troubled untroubled }
    · refine after_checkpoint_done ⟨managed, sound, done⟩ ?_ (fun stopped => stopped rfl) nofun
      intro last receipted
      exact ⟨receipt, rfl, receipted.kept, receipted.done⟩
  obtain ⟨outcome, last, ran, receipt, rfl, kept, done⟩ := returned.returned
  exact ⟨receipt, last, ran, kept, done⟩

/-! ## Where the workspace is stranded -/

/-- A call does not return a receipt. -/
def Refused : Ends CheckpointWorld CheckpointError CheckpointOutcome :=
  ⟨fun outcome _ => ∀ receipt, outcome ≠ .receipt receipt, fun _ _ => True, fun _ => True⟩

theorem createCheckpoint_ahead (head : point.head (point.stores world) = some oid)
    (ahead : oid ≠ point.expected) (place : workspace.path = point.path)
    (files : List WorkspaceFileFact)
    (raises : ∀ error after, after.manager = world.manager → ends.raises error after)
    (dies : ∀ after, ends.dies after) :
    (createCheckpoint point.setup fates time workspace point.manifest files).After ends world := by
  rw [createCheckpoint]
  split
  · exact raises _ _ rfl
  · rw [after_bind]
    refine @after_currentCandidateOid _ _ _ _ _ oid (by rw [place]; exact head) (fun _ => ?_)
      (fun _ _ => raises _ _ rfl) (fun _ _ => dies _)
    have other : oid.text ≠ point.manifest.sliceCandidate.candidateCommitOid := by
      rw [show point.manifest.sliceCandidate.candidateCommitOid = point.expected.text
        from point.expectedText.symm]
      exact text_ne ahead
    dsimp only
    rw [if_pos other]
    exact raises _ _ rfl

theorem commitFiles_ahead (head : point.head (point.stores world) = some oid)
    (ahead : oid ≠ point.expected) (place : workspace.path = point.path)
    (files : List WorkspaceFileFact)
    (raises : ∀ error after, after.manager = world.manager → ends.raises error after)
    (dies : ∀ after, ends.dies after) :
    (commitFiles point.setup fates time point.request workspace point.manifest files).After
      ends world := by
  rw [commitFiles]
  dsimp only
  rw [after_bind, after_change]
  dsimp only
  rw [after_bind]
  refine after_meeting (fun _ => ?_) (fun applied _ => raises _ _ ?_) (fun _ _ => dies _)
  rotate_left
  · cases applied with
    | false => rfl
    | true => rfl
  rw [after_change]
  dsimp only
  rw [after_bind]
  refine after_meeting (fun _ => ?_) (fun applied _ => raises _ _ ?_) (fun _ _ => dies _)
  rotate_left
  · cases applied with
    | false => rfl
    | true => rfl
  rw [after_change]
  dsimp only
  rw [after_bind]
  refine createCheckpoint_ahead ?_ ahead place files (fun _ _ same => raises _ _ same) (fun _ => dies _)
  exact head

theorem stuck_refused (stuck : point.Stuck world) :
    (checkpoint point.setup fates time point.request).After Refused world := by
  obtain ⟨managed, sound, either⟩ := stuck
  have unreceipted : Unreceipted (point.stores world) := by
    rcases either with ⟨unreceipted, -⟩ | ⟨forgotten, -⟩
    · exact unreceipted
    · exact forgotten.unreceipted
  rw [checkpoint, after_bind, cachedReceipt, after_bind, after_ask,
    show world.receipts.get? (keyOf point.request) = none from unreceipted.2]
  dsimp only
  refine after_meeting_look rfl (fun _ => ?_) (fun _ _ => trivial) (fun _ _ => trivial)
  rw [after_ask, show world.storedReceipts.get? (keyOf point.request) = none from unreceipted.1]
  dsimp only
  rw [checkpointAnew, after_bind]
  refine after_loadPending sound (fun loading unmanaged same _ => ?_) (fun _ => trivial)
    (fun _ => trivial)
  have managed : point.Managed loading.manager := by rw [unmanaged]; exact managed
  dsimp only
  rw [after_bind, after_change]
  dsimp only
  rw [after_bind]
  refine after_begin managed ?_ (fun _ _ held => by cases held) (fun _ _ _ _ => trivial) (fun _ _ _ => trivial)
  intro iterating workspace manager place base managed here
  rw [unmanaged] at iterating
  rcases either with ⟨-, frozen⟩ | ⟨forgotten, -⟩
  · cases frozen.unique iterating
  · obtain ⟨oid, head, ahead⟩ := forgotten.head
    have head : point.head (point.stores loading) = some oid := by
      rw [same]
      exact head
    dsimp only
    rw [forgotten.forgotten, after_catching, CheckpointService.attempt, after_bind]
    have recovered : ∀ after, point.Managed after.manager →
        (recoverFailed fates workspace).After Refused after :=
      fun after managed => after_recoverFailed managed place (fun _ _ _ _ _ _ held => by cases held)
        (fun _ _ _ _ => trivial) (fun _ _ _ => trivial)
    refine after_inspect managed here place base (fun _ => ?_) (fun _ _ => recovered _ managed)
      (fun _ => trivial)
    dsimp only
    rw [after_bind, gate, if_neg (not_not.mpr rfl), if_neg (not_not.mpr rfl), after_pure]
    dsimp only
    have same : manifestOf point.setup workspace point.request.expectedCandidateOid point.files =
        point.manifest := by
      rw [manifestOf, manifest, place, base]
    rw [same, after_bind, ensureCommit]
    refine commitFiles_ahead ?_ ahead place _ (fun _ after same => recovered after ?_)
      (fun _ => trivial)
    · exact head
    · rw [same]
      exact managed

/-! ## The retry -/

/-- A checkpoint that nothing stands in the way of may begin. -/
structure Ready (point : AcceptableCheckpoint) (world : CheckpointWorld) : Prop where
  managed : point.Managed world.manager
  sound : point.Sound (point.stores world)
  staged : point.Staged (point.stores world)
  iterating : point.At world.manager .iterating

/-- From world to world the ref advances exactly once, from the expected commit to this one. -/
def AdvancesOnce (point : AcceptableCheckpoint) (worlds : List CheckpointWorld) (oid : GitOid) :
    Prop :=
  oid ≠ point.expected ∧ ∃ behind ahead, worlds.map (fun world => point.head (point.stores world)) =
    List.replicate behind (some point.expected) ++ List.replicate (ahead + 1) (some oid)

/-- The ref of the earlier world is at the expected commit, or where it is in the later one. -/
def Follows (point : AcceptableCheckpoint) (earlier later : CheckpointWorld) : Prop :=
  point.head (point.stores earlier) = some point.expected ∨
    ∃ oid, oid ≠ point.expected ∧ point.head (point.stores earlier) = some oid ∧
      point.head (point.stores later) = some oid

theorem AdvancesOnce.one (ahead : oid ≠ point.expected)
    (head : point.head (point.stores world) = some oid) : point.AdvancesOnce [world] oid :=
  ⟨ahead, 0, 0, by rw [List.map_singleton, head]; rfl⟩

theorem AdvancesOnce.cons {earlier later : CheckpointWorld} {worlds : List CheckpointWorld}
    {oid : GitOid} (once : point.AdvancesOnce (later :: worlds) oid)
    (follows : point.Follows earlier later) : point.AdvancesOnce (earlier :: later :: worlds) oid := by
  obtain ⟨ahead, behind, after, heads⟩ := once
  refine ⟨ahead, ?_⟩
  rw [List.map_cons, heads]
  rcases follows with start | ⟨other, moved, before, same⟩
  · exact ⟨behind + 1, after, by rw [start]; rfl⟩
  · -- the later world is not behind, so none of the others is
    rw [List.map_cons, same] at heads
    cases behind with
    | zero =>
      obtain ⟨equal, -⟩ := List.cons.inj heads
      cases equal
      exact ⟨0, after + 1, by rw [before]; rfl⟩
    | succ behind =>
      obtain ⟨equal, -⟩ := List.cons.inj heads
      cases equal
      exact absurd rfl moved

/-- The next call of the process returns a receipt, and the ref has advanced exactly once, to the
commit of the receipt. -/
def Retried (point : AcceptableCheckpoint) (later : Nat) (world middle : CheckpointWorld) : Prop :=
  ∃ receipt oid last,
    checkpoint point.setup .healthy later point.request middle = (.ok (.receipt receipt), last) ∧
      receipt.newCandidateOid = oid.text ∧ point.OnTop last.repository oid ∧
        point.AdvancesOnce [world, middle, last] oid

theorem Staged.head (staged : point.Staged stores) :
    point.head stores = some point.expected ∨
      ∃ oid, point.head stores = some oid ∧ point.OnTop stores.repository oid := by
  rcases staged with unadvanced | ⟨oid, advanced⟩ | ⟨receipt, done⟩
  · exact .inl unadvanced.head
  · exact .inr ⟨oid, advanced.head, advanced.onTop⟩
  · obtain ⟨oid, head, onTop, -⟩ := done.advanced
    exact .inr ⟨oid, head, onTop⟩

theorem head_stays (ahead : oid ≠ point.expected)
    (head : point.head (point.stores world) = some oid) :
    point.head (point.stores (checkpoint point.setup fates time point.request world).2) = some oid := by
  have elsewhere : oid.text ≠ point.request.expectedCandidateOid := by
    rw [← point.expectedText]
    exact text_ne ahead
  exact (checkpoint_names elsewhere).kept head

theorem follows_call (sound : point.Sound (point.stores world)) (staged : point.Staged (point.stores world)) :
    point.Follows world (checkpoint point.setup fates time point.request world).2 := by
  rcases staged.head with start | ⟨oid, head, onTop⟩
  · exact .inl start
  · have ahead := sound.ne onTop
    exact .inr ⟨oid, ahead, head, head_stays ahead head⟩

theorem failure_left (ready : point.Ready world) {rejection : CheckpointRejection}
    {middle : CheckpointWorld} (failed : checkpoint point.setup fates time point.request world =
      (.ok (.rejection rejection), middle)) (infrastructure : rejection.infrastructureFailure = true) :
    ¬ point.Strands fates (point.stores world) ∧ point.Kept (point.stores world) middle ∧
        (point.At middle.manager .iterating ∨ ∃ receipt, point.Done (point.stores middle) receipt) ∨
      point.Strands fates (point.stores world) ∧ point.Stuck middle := by
  let Left : CheckpointOutcome → CheckpointWorld → Prop := fun outcome middle =>
    ∀ rejection, outcome = .rejection rejection → rejection.infrastructureFailure = true →
      ¬ point.Strands fates (point.stores world) ∧ point.Kept (point.stores world) middle ∧
          (point.At middle.manager .iterating ∨ ∃ receipt, point.Done (point.stores middle) receipt) ∨
        point.Strands fates (point.stores world) ∧ point.Stuck middle
  have left : (checkpoint point.setup fates time point.request).After
      ⟨Left, fun _ _ => True, fun _ => True⟩ world := by
    obtain ⟨managed, sound, staged, iterating⟩ := ready
    exact after_checkpoint managed sound staged
      { receipt := fun _ _ _ _ _ => nofun
        unready := fun elsewhere => absurd iterating elsewhere
        retry := by
          rintro - rejection after retryable - _ ⟨rfl⟩ infrastructure
          rw [retryable] at infrastructure
          cases infrastructure
        fails := fun _ safe _ after kept goes _ _ _ => .inl ⟨safe, kept, goes⟩
        strands := fun strands _ after _ stuck _ _ _ => .inr ⟨strands, stuck⟩
        raises := fun _ _ _ _ => trivial
        dies := fun _ _ _ => trivial }
  rw [After, failed] at left
  exact left rejection rfl infrastructure

/-- After an infrastructure failure the next call of the same process returns a receipt, and the ref
has advanced exactly once, if and only if the failing calls did not strand the workspace. -/
theorem infrastructure_failure_retried_iff (point : AcceptableCheckpoint) (fates : CheckpointFates)
    (time later : Nat) (world middle : CheckpointWorld) (rejection : CheckpointRejection)
    (ready : point.Ready world) (failed : checkpoint point.setup fates time point.request world =
      (.ok (.rejection rejection), middle))
    (infrastructure : rejection.infrastructureFailure = true) :
    point.Retried later world middle ↔ ¬ point.Strands fates (point.stores world) := by
  constructor
  · rintro ⟨receipt, oid, last, ran, -⟩ strands
    rcases failure_left ready failed infrastructure with ⟨safe, -⟩ | ⟨-, stuck⟩
    · exact safe strands
    · have refused := @stuck_refused _ _ .healthy later stuck
      rw [After, ran] at refused
      exact refused receipt rfl
  · intro safe
    rcases failure_left ready failed infrastructure with ⟨-, kept, goes⟩ | ⟨strands, -⟩
    · obtain ⟨receipt, last, ran, kept', done⟩ :=
        @healthy_returns _ _ later kept.managed kept.sound kept.staged goes
      obtain ⟨oid, head, onTop, names⟩ := done.advanced
      have ahead := kept'.sound.ne onTop
      have first := @follows_call _ _ fates time ready.sound ready.staged
      have second := @follows_call _ _ .healthy later kept.sound kept.staged
      rw [failed] at first
      rw [ran] at second
      exact ⟨receipt, oid, last, ran, names, onTop, ((AdvancesOnce.one ahead head).cons second).cons first⟩
    · exact absurd strands safe

end AcceptableCheckpoint

/-! ## A receipt that is not saved -/

namespace SampleCheckpoint
open CheckpointService AcceptableCheckpoint

/-- The base of the run. -/
def expected : GitOid := SampleOids.first

/-- The name of the checkpoint commit. -/
def candidate : GitOid := SampleOids.second

/-- A digest. -/
def digest : Sha256 := .zeros

/-- The workspace of a slice, in its iteration. -/
def workspace : WorkspaceHandle := ⟨⟨⟨1⟩, ⟨2⟩, 0⟩, .iterating, expected.text, none⟩

/-- A checkpoint of an empty workspace. -/
def point : AcceptableCheckpoint where
  setup := ⟨fun _ => "", fun _ => digest, fun _ => expected, fun _ => candidate, ⟨⟨1⟩⟩⟩
  request := ⟨workspace, ⟨⟨[], []⟩⟩, fun _ _ => ⟨[], []⟩, expected.text, []⟩
  content := Dict.empty
  expected := expected
  expectedText := rfl
  excludes := rfl
  accepted := rfl
  tree := Dict.empty
  built := rfl

/-- Nothing has happened yet. -/
def world : CheckpointWorld where
  manager := {
    directories := Dict.empty.set workspace.path Dict.empty
    records := Dict.empty.set workspace.path ⟨workspace, []⟩
    handles := Dict.empty.set workspace.path workspace
    operations := Dict.empty.set workspace.path [] }
  intents := Dict.empty
  storedReceipts := Dict.empty
  receipts := Dict.empty
  pending := Dict.empty
  repository := {
    commits := Dict.empty.set expected ⟨Dict.empty, [], "base", 0⟩
    refs := Dict.empty.set (candidateRef point.setup workspace.path) expected }
  locals := ⟨false, false, false⟩

/-- One call raises, without an effect. -/
def failing (call : CheckpointCall) : CheckpointFates :=
  fun other => if other = call then .raises false else .runs

theorem ready : point.Ready world where
  managed := by
    refine ⟨rfl, ?_, ?_, ?_⟩
    · rintro record ⟨rfl⟩
      exact ⟨rfl, rfl, nofun⟩
    · rintro held ⟨rfl⟩
      exact ⟨rfl, rfl⟩
    · exact nofun
  sound := by
    refine ⟨?_, nofun, nofun, nofun, nofun⟩
    rintro ⟨commit, ⟨rfl⟩, parents⟩
    cases parents
  staged := .inl ⟨rfl, rfl, rfl⟩
  iterating := ⟨workspace, rfl, rfl⟩

/-- What the handler returns before the ref has advanced. -/
def failed (commitCreated refAdvanced : Bool) : CheckpointRejection :=
  ⟨.checkpointWriteFailed, "checkpoint failed without exposing host details", [], commitCreated,
    refAdvanced, false, true⟩

/-- After a failure of the intent the next call returns a receipt. -/
theorem failed_intent_retried : point.Retried 1 world
    (checkpoint point.setup (failing .saveIntent) 0 point.request world).2 := by
  have safe : ¬ point.Strands (failing .saveIntent) (point.stores world) := by
    rintro (⟨-, prepared, -⟩ | ⟨⟨-, prepared, -⟩, -⟩)
    all_goals
      rcases prepared with ⟨oid, manifest, remembered, -⟩ | ⟨-, saved, -⟩
      · cases remembered
      · cases saved
  exact (infrastructure_failure_retried_iff point (failing .saveIntent) 0 1 world _
    (failed false false) ready rfl rfl).mpr safe

/-- The world after the receipt was not saved. -/
def stranded : CheckpointWorld :=
  (checkpoint point.setup (failing .saveReceipt) 0 point.request world).2

/-- A receipt that is not saved once leaves a frozen workspace, and the next call is refused. -/
theorem unsaved_receipt_stranded : point.Ready world ∧
    checkpoint point.setup (failing .saveReceipt) 0 point.request world =
      (.ok (.rejection (failed true true)), stranded) ∧ ¬ point.Retried 1 world stranded := by
  refine ⟨ready, rfl, ?_⟩
  rintro ⟨receipt, oid, last, ran, -⟩
  have refused : (checkpoint point.setup .healthy 1 point.request stranded).1 =
      .ok (.rejection notReady) := rfl
  rw [ran] at refused
  cases refused

end SampleCheckpoint

end CodeMigrator
