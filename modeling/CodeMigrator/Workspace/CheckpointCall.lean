import CodeMigrator.Workspace.CheckpointRef

/-!
# A call of `checkpoint`

What a whole call leaves behind when nothing stands in the way of the checkpoint: a receipt, stores
that the next call can go on with, or stores that no call of this process gets out of.
-/

namespace CodeMigrator
open Lib

namespace AcceptableCheckpoint
open CheckpointService Lib.Process

variable {point : AcceptableCheckpoint} {stores : CheckpointStores} {world : CheckpointWorld}
  {fates : CheckpointFates} {workspace : WorkspaceHandle} {before : CheckpointStores}
  {after : CheckpointWorld}

/-! ## What goes wrong -/

/-- The call comes to advance the ref, and takes it for forked because it cannot be read. -/
def Misled (point : AcceptableCheckpoint) (fates : CheckpointFates) (stores : CheckpointStores) :
    Prop :=
  Inspected fates ∧ point.Prepared fates stores ∧ point.Misread fates stores

/-- The ref advances and the workspace is frozen, but the receipt is not saved. -/
def LosesReceipt (point : AcceptableCheckpoint) (fates : CheckpointFates)
    (stores : CheckpointStores) : Prop :=
  Inspected fates ∧ point.Prepared fates stores ∧ ¬ point.Misread fates stores ∧
    point.MovedAfter fates stores ∧ fates .persistFrozen = .runs ∧ fates .saveReceipt = .raises false

/-- A ref taken for forked freezes the workspace, or it has advanced and the commit is forgotten. -/
def Forgets (point : AcceptableCheckpoint) (fates : CheckpointFates) (stores : CheckpointStores) :
    Prop :=
  point.Misled fates stores ∧
    (fates .dropForked = .runs ∧ fates .persistFrozen = .runs ∨
      point.MovedAfter fates stores ∧
        (fates .dropForked ≠ .raises false ∨ point.Reuses stores ∧ ¬ stores.Recorded))

/-- The failing calls leave no way back to this process. -/
def Strands (point : AcceptableCheckpoint) (fates : CheckpointFates) (stores : CheckpointStores) :
    Prop :=
  point.LosesReceipt fates stores ∨ point.Forgets fates stores

/-! ## What is left behind -/

/-- The call leaves one of the stages; so it does for a new process, where the store knew a commit of
these files before the call if the memory did. -/
structure Kept (point : AcceptableCheckpoint) (before : CheckpointStores) (after : CheckpointWorld) :
    Prop where
  managed : point.Managed after.manager
  sound : point.Sound (point.stores after)
  staged : point.Staged (point.stores after)
  restarted : (point.Reuses before → before.Recorded) → point.Staged (point.stores after).restart

/-- The ref has advanced to a commit that nothing remembers. -/
structure Forgotten (point : AcceptableCheckpoint) (stores : CheckpointStores) : Prop where
  unreceipted : Unreceipted stores
  forgotten : stores.remembered = none
  head : ∃ oid, point.head stores = some oid ∧ oid ≠ point.expected

/-- There is no receipt, and the workspace is frozen or the commit is forgotten. -/
structure Stuck (point : AcceptableCheckpoint) (world : CheckpointWorld) : Prop where
  managed : point.Managed world.manager
  sound : point.Sound (point.stores world)
  stuck : Unreceipted (point.stores world) ∧ point.At world.manager .frozen ∨
    point.Forgotten (point.stores world) ∧ point.At world.manager .iterating

theorem Kept.of_unadvanced (managed : point.Managed after.manager)
    (sound : point.Sound (point.stores after)) (unadvanced : point.Unadvanced (point.stores after)) :
    point.Kept before after :=
  ⟨managed, sound, .inl unadvanced, fun _ => .inl unadvanced.restart⟩

theorem Kept.of_left (managed : point.Managed world.manager) (left : point.Left world after) :
    point.Kept before after :=
  .of_unadvanced (by rw [left.manager]; exact managed) left.sound left.unadvanced

theorem Receipted.kept {receipt : CheckpointReceipt} (receipted : point.Receipted receipt after) :
    point.Kept before after :=
  ⟨receipted.managed, receipted.sound, .inr (.inr ⟨receipt, receipted.done⟩),
    fun _ => .inr (.inr ⟨receipt, receipted.done.restart⟩)⟩

theorem Kept.of_advanced {oid : GitOid} (managed : point.Managed after.manager)
    (sound : point.Sound (point.stores after)) (advanced : point.Advanced (point.stores after) oid)
    (recorded : (point.Reuses before → before.Recorded) → (point.stores after).Recorded) :
    point.Kept before after :=
  ⟨managed, sound, .inr (.inl ⟨oid, advanced⟩),
    fun known => Staged.restart (.inr (.inl ⟨oid, advanced⟩)) (recorded known)⟩

theorem Kept.manager (kept : point.Kept before after) {manager : WorkspaceManager}
    (managed : point.Managed manager) : point.Kept before { after with manager := manager } :=
  ⟨managed, kept.sound, kept.staged, kept.restarted⟩

theorem Kept.of_same (managed : point.Managed after.manager) (sound : point.Sound before)
    (stage : point.Unadvanced before ∨ ∃ oid, point.Advanced before oid)
    (same : point.stores after = before) : point.Kept before after := by
  subst same
  rcases stage with unadvanced | ⟨oid, advanced⟩
  · exact .of_unadvanced managed sound unadvanced
  · exact .of_advanced managed sound advanced fun known => known ⟨oid, advanced.remembers⟩

theorem Carried.recorded {before : CheckpointWorld} (carried : point.Carried before after)
    (recorded : (point.stores before).Recorded) : (point.stores after).Recorded := by
  intro pending held
  rw [carried.intent]
  rw [carried.pending] at held
  exact recorded pending held

theorem Carried.trans {first second third : CheckpointWorld} (before : point.Carried first second)
    (after : point.Carried second third) : point.Carried first third :=
  ⟨after.managed, after.sound, after.intent.trans before.intent, after.pending.trans before.pending⟩

theorem misread_congr {others : CheckpointStores} (same : point.Behind stores ↔ point.Behind others) :
    point.Misread fates stores ↔ point.Misread fates others := by
  simp only [Misread, Conflicts, same]

theorem movedAfter_congr {others : CheckpointStores}
    (same : point.Behind stores ↔ point.Behind others) :
    point.MovedAfter fates stores ↔ point.MovedAfter fates others := by
  simp only [MovedAfter, same]

/-! ## The handler -/

/-- The handler returns a rejection, and reopens the workspace if it was in the checkpoint. -/
theorem after_recoverFailed {ends : Ends CheckpointWorld CheckpointError CheckpointOutcome}
    (managed : point.Managed world.manager) (place : workspace.path = point.path)
    (returns : ∀ rejection manager, point.Managed manager →
      (point.At world.manager .checkpointing → point.At manager .iterating) →
      (¬ point.At world.manager .checkpointing → manager = world.manager) →
        ends.returns (.rejection rejection) { world with manager := manager })
    (raises : Troubled fates → ∀ error manager, point.Managed manager →
      ends.raises error { world with manager := manager })
    (dies : Mortal fates → ∀ manager, point.Managed manager →
      ends.dies { world with manager := manager }) :
    (recoverFailed fates workspace).After ends world := by
  -- the workspace goes back to its iteration, or it was not in the checkpoint
  have recovering : ((catching (managing
        (WorkspaceManager.abortCheckpoint (fates .persistRecovered) workspace.path) >>= fun _ =>
          pure ()) (fun error => if error = .manager .state then pure () else raise error) :
        Checkpointing Unit) >>= fun _ => (pure (.rejection ⟨.checkpointWriteFailed,
          "checkpoint failed without exposing host details", [], world.locals.commitCreated,
          world.locals.refAdvanced, false, true⟩) : Checkpointing CheckpointOutcome)).After
            ends world := by
    rw [after_bind, after_catching, after_bind, after_managing, place]
    refine after_change_from managed ?_ ?_ ?_ dies
    · intro here _ manager _ _ managed arrived
      exact returns _ manager managed (fun _ => arrived) (fun elsewhere => absurd here elsewhere)
    · intro elsewhere
      dsimp only
      rw [if_pos rfl]
      exact returns _ _ managed (fun arrived => absurd arrived elsewhere) (fun _ => rfl)
    · intro troubled manager managed
      dsimp only
      rw [if_neg (by decide), after_raise]
      exact raises troubled _ manager managed
  rw [recoverFailed, after_bind, after_ask]
  dsimp only
  rw [after_bind]
  split
  · rw [after_pure]
    exact recovering
  · refine after_meeting_look rfl (fun _ => recovering)
      (fun _ raised => raises (.of_raises raised) _ _ managed)
      (fun _ died => dies ⟨_, _, died⟩ _ managed)

/-! ## The `try` -/

theorem Unread.stage {middle : CheckpointWorld} {oid : GitOid}
    (pending : point.Pending (point.stores world) oid) (sound : point.Sound (point.stores world))
    (ref : point.RefAfter fates oid world middle) (unread : point.Unread fates middle after) :
    (point.MovedAfter fates (point.stores world) ∧
      (fates .dropForked ≠ .raises false ∨ ¬ (point.stores world).Recorded) ∧
        point.Forgotten (point.stores after)) ∨
    (¬ (point.MovedAfter fates (point.stores world) ∧
      (fates .dropForked ≠ .raises false ∨ ¬ (point.stores world).Recorded)) ∧
        (point.Unadvanced (point.stores after) ∨ point.Advanced (point.stores after) oid)) := by
  obtain ⟨⟨repository, rfl⟩, refSound, onTop, ⟨moved, advanced⟩ | ⟨unmoved, unadvanced⟩⟩ := ref
  · have head : point.head (point.stores after) = some oid := by
      rw [AcceptableCheckpoint.head, stores, unread.repository]
      exact advanced.head
    have onTop : point.OnTop (point.stores after).repository oid := by
      rw [stores, unread.repository]
      exact onTop
    have lost : (point.stores after).intent.bind intentCommit = none →
        point.Forgotten (point.stores after) := by
      intro unnamed
      refine ⟨unread.unreceipted, ?_, oid, head, refSound.ne advanced.onTop⟩
      rw [CheckpointStores.remembered, unread.forgotten]
      exact unnamed
    rcases unread.intent with ⟨held, same⟩ | ⟨dropped, gone⟩
    · by_cases recorded : (point.stores world).Recorded
      · -- the intent still names the commit
        refine .inr ⟨?_, .inr ⟨head, onTop, ?_, unread.unreceipted⟩⟩
        · rintro ⟨-, dropped | unrecorded⟩
          · exact dropped held
          · exact unrecorded recorded
        · obtain ⟨manifest, remembered, digest⟩ := pending.remembers
          refine ⟨manifest, ?_, digest⟩
          rw [CheckpointStores.remembered, unread.forgotten, same]
          rw [← recorded.remembered] at remembered
          exact remembered
      · refine .inl ⟨moved, .inr recorded, lost ?_⟩
        rw [same]
        -- a commit in memory that the intent does not name is not named by it at all
        obtain ⟨other, unnamed⟩ := not_forall.mp recorded
        obtain ⟨kept, differs⟩ := Classical.not_imp.mp unnamed
        exact (sound.coherent other kept).resolve_left differs
    · exact .inl ⟨moved, .inl dropped, lost (by rw [gone]; rfl)⟩
  · refine .inr ⟨fun both => unmoved both.1, .inl ⟨?_, unread.unreceipted⟩⟩
    rw [AcceptableCheckpoint.head, stores, unread.repository]
    exact unadvanced.head

theorem runs_of_untroubled (untroubled : ¬ Troubled fates) (call : CheckpointCall) :
    fates call = .runs := by
  by_contra stopped
  exact untroubled ⟨call, stopped⟩

theorem uninspected_troubled (uninspected : ¬ Inspected fates) : Troubled fates := by
  by_contra untroubled
  have runs := runs_of_untroubled untroubled
  exact uninspected ⟨runs _, runs _, runs _⟩

theorem unprepared_troubled (unprepared : ¬ point.Prepared fates stores) : Troubled fates := by
  by_contra untroubled
  have runs := runs_of_untroubled untroubled
  exact unprepared (.inr ⟨runs _, runs _, ⟨runs _, runs _, runs _⟩, runs _⟩)

theorem unmoved_troubled (unmoved : ¬ point.MovedAfter fates stores) : Troubled fates := by
  by_contra untroubled
  have runs := runs_of_untroubled untroubled
  exact unmoved (.inr ⟨runs _, runs _, runs _, .inl (runs _)⟩)

theorem not_strands (read : ¬ point.Misled fates stores) (saved : ¬ point.LosesReceipt fates stores) :
    ¬ point.Strands fates stores := by
  rintro (loses | forgets)
  · exact saved loses
  · exact read forgets.1

/-- How the `try` may end, with the stores before it. -/
structure Attempted (point : AcceptableCheckpoint) (fates : CheckpointFates)
    (before : CheckpointStores) (ends : Ends CheckpointWorld CheckpointError CheckpointOutcome) :
    Prop where
  receipt : ∀ receipt after, point.Kept before after → point.Done (point.stores after) receipt →
    ends.returns (.receipt receipt) after
  retry : Troubled fates → ∀ rejection after, rejection.infrastructureFailure = false →
    point.Kept before after → ends.returns (.rejection rejection) after
  forks : point.Forgets fates before → ∀ rejection after, point.Managed after.manager →
    point.Sound (point.stores after) → Unreceipted (point.stores after) →
    point.At after.manager .frozen → ends.returns (.rejection rejection) after
  fails : Troubled fates → ¬ point.Strands fates before → ∀ error after, point.Kept before after →
    (point.At after.manager .checkpointing ∨ ∃ receipt, point.Done (point.stores after) receipt) →
    ends.raises error after
  loses : point.LosesReceipt fates before → ∀ error after, point.Kept before after →
    Unreceipted (point.stores after) → point.At after.manager .frozen → ends.raises error after
  forgets : point.Forgets fates before → ∀ error after, point.Managed after.manager →
    point.Sound (point.stores after) → point.Forgotten (point.stores after) →
    point.At after.manager .checkpointing → ends.raises error after
  dies : Mortal fates → ∀ after, (¬ point.Misled fates before → point.Kept before after) →
    ends.dies after

/-- There is a commit of these files: what decides the fate of the ref is as before, and the commit
is recorded if it was or if it is new. -/
structure Supplied (point : AcceptableCheckpoint) (before after : CheckpointStores) : Prop where
  behind : point.Behind after ↔ point.Behind before
  recorded : after.Recorded ↔ (point.Reuses before → before.Recorded)

namespace Supplied

variable {before : CheckpointStores} (supplied : point.Supplied before (point.stores world))
include supplied

theorem kept (carried : point.Carried world after)
    (stage : point.Unadvanced (point.stores after) ∨ ∃ oid, point.Advanced (point.stores after) oid) :
    point.Kept before after := by
  rcases stage with unadvanced | ⟨oid, advanced⟩
  · exact .of_unadvanced carried.managed carried.sound unadvanced
  · exact .of_advanced carried.managed carried.sound advanced
      fun known => carried.recorded (supplied.recorded.mpr known)

theorem misread : point.Misread fates (point.stores world) ↔ point.Misread fates before :=
  misread_congr supplied.behind

theorem moved : point.MovedAfter fates (point.stores world) ↔ point.MovedAfter fates before :=
  movedAfter_congr supplied.behind

theorem unrecorded : ¬ (point.stores world).Recorded ↔ point.Reuses before ∧ ¬ before.Recorded := by
  rw [supplied.recorded, Classical.not_imp]

end Supplied

variable {ends : Ends CheckpointWorld CheckpointError CheckpointOutcome} {before : CheckpointStores}
  {receipt : CheckpointReceipt} {time : Nat}

theorem Attempted.finishes {middle : CheckpointWorld} {oid : GitOid}
    (attempted : point.Attempted fates before ends)
    (supplied : point.Supplied before (point.stores middle)) (inspected : Inspected fates)
    (prepared : point.Prepared fates before) (clean : ¬ point.Misread fates before)
    (moved : point.MovedAfter fates before) (carried : point.Carried middle world)
    (here : point.At world.manager .checkpointing) (place : workspace.path = point.path)
    (advanced : point.Advanced (point.stores world) oid)
    (names : receipt.newCandidateOid = oid.text) :
    (finish fates point.request workspace receipt).After ends world := by
  have read : ¬ point.Misled fates before := fun misled => clean misled.2.2
  have kept : ∀ after, point.Carried world after → point.Advanced (point.stores after) oid →
      point.Kept before after :=
    fun after carried' advanced => supplied.kept (carried.trans carried') (.inr ⟨oid, advanced⟩)
  refine after_finish carried.managed here place carried.sound advanced names ?_ ?_ ?_ ?_ ?_
  · intro after receipted
    exact attempted.receipt receipt after receipted.kept receipted.done
  · intro unfrozen error after carried' here advanced
    exact attempted.fails ⟨_, unfrozen⟩ (not_strands read fun loses => unfrozen loses.2.2.2.2.1)
      error after (kept after carried' advanced) (.inl here)
  · intro froze unsaved error after carried' here advanced
    exact attempted.loses ⟨inspected, prepared, clean, moved, froze, unsaved⟩ error after
      (kept after carried' advanced) advanced.unreceipted here
  · intro troubled saved error after receipted
    exact attempted.fails troubled (not_strands read fun loses => saved loses.2.2.2.2.2) error after
      receipted.kept (.inr ⟨receipt, receipted.done⟩)
  · rintro mortal after (⟨carried', advanced⟩ | receipted)
    · exact attempted.dies mortal after fun _ => kept after carried' advanced
    · exact attempted.dies mortal after fun _ => receipted.kept

theorem Attempted.unread {middle after : CheckpointWorld} {oid : GitOid}
    (attempted : point.Attempted fates before ends)
    (supplied : point.Supplied before (point.stores world))
    (pending : point.Pending (point.stores world) oid) (sound : point.Sound (point.stores world))
    (misled : point.Misled fates before)
    (stopped : ¬ (fates .dropForked = .runs ∧ fates .persistFrozen = .runs))
    (ref : point.RefAfter fates oid world middle) (unread : point.Unread fates middle after)
    (here : point.At after.manager .checkpointing) (error : CheckpointError) :
    ends.raises error after := by
  rcases unread.stage pending sound ref with ⟨moved, lost, forgotten⟩ | ⟨safe, stage⟩
  · exact attempted.forgets
      ⟨misled, .inr ⟨supplied.moved.mp moved, lost.imp_right supplied.unrecorded.mp⟩⟩ error after
      unread.managed unread.sound forgotten here
  · obtain ⟨-, -, -, applied, raised⟩ := id misled
    refine attempted.fails (.of_raises raised) ?_ error after ?_ (.inl here)
    · rintro (loses | ⟨-, both | ⟨moved, lost⟩⟩)
      · exact loses.2.2.1 misled.2.2
      · exact stopped both
      · exact safe ⟨supplied.moved.mpr moved, lost.imp_right supplied.unrecorded.mpr⟩
    · rcases stage with unadvanced | advanced
      · exact .of_unadvanced unread.managed unread.sound unadvanced
      · refine .of_advanced unread.managed unread.sound advanced fun _ held there => ?_
        rw [unread.forgotten] at there
        cases there

/-- The `try` from any stage without a receipt. -/
theorem after_attempt (managed : point.Managed world.manager)
    (here : point.At world.manager .checkpointing) (place : workspace.path = point.path)
    (base : workspace.baseVerifiedOid = point.base) (sound : point.Sound (point.stores world))
    (stage : point.Unadvanced (point.stores world) ∨ ∃ oid, point.Advanced (point.stores world) oid)
    (loaded : (point.stores world).remembered = (point.stores world).pending)
    (attempted : point.Attempted fates (point.stores world) ends) :
    (attempt point.setup fates time point.request workspace (point.stores world).pending).After
      ends world := by
  rw [attempt, after_bind]
  refine after_inspect managed here place base (fun inspected => ?_) (fun uninspected error => ?_)
    (fun mortal => attempted.dies mortal world fun _ => .of_same managed sound stage rfl)
  rotate_left
  · exact attempted.fails (uninspected_troubled uninspected)
      (not_strands (fun misled => uninspected misled.1) fun loses => uninspected loses.1) error world
      (.of_same managed sound stage rfl) (.inl here)
  dsimp only
  rw [after_bind, gate, if_neg (not_not.mpr rfl), if_neg (not_not.mpr rfl), after_pure]
  dsimp only
  have same : manifestOf point.setup workspace point.request.expectedCandidateOid point.files =
      point.manifest := by
    rw [manifestOf, manifest, place, base]
  rw [same, after_bind]
  have audited : point.stores { world with locals.auditEmitted := true } = point.stores world := rfl
  have managed : point.Managed { world with locals.auditEmitted := true }.manager := managed
  have here : point.At { world with locals.auditEmitted := true }.manager .checkpointing := here
  generalize { world with locals.auditEmitted := true } = auditing at audited managed here
  rw [← audited] at sound stage loaded attempted ⊢
  refine after_ensureCommit managed sound stage loaded place base ?_ ?_ ?_
  · intro prepared oid middle unmanaged soundThen pending origin
    have supplied : point.Supplied (point.stores auditing) (point.stores middle) := by
      rcases origin with ⟨reuses, rfl⟩ | ⟨fresh, unadvanced, recorded⟩
      · exact ⟨Iff.rfl, fun recorded _ => recorded, fun known => known reuses⟩
      · refine ⟨⟨fun _ => ?_, fun _ => unadvanced.behind⟩,
          fun _ reuses => absurd reuses fresh, fun _ => recorded⟩
        rcases stage with before | ⟨other, advanced⟩
        · exact before.behind
        · exact absurd ⟨other, advanced.remembers⟩ fresh
    have misled : point.Misread fates (point.stores middle) →
        point.Misled fates (point.stores auditing) :=
      fun misread => ⟨inspected, prepared, supplied.misread.mp misread⟩
    dsimp only
    rw [after_bind]
    refine after_advance (by rw [unmanaged]; exact managed) (by rw [unmanaged]; exact here) place
      soundThen pending ?_ ?_ ?_ ?_ ?_ ?_
    · intro clean moved after carried here advanced
      exact attempted.finishes supplied inspected prepared
        (fun misread => clean (supplied.misread.mpr misread)) (supplied.moved.mp moved) carried here
        place advanced rfl
    · intro unmoved rejection after retryable carried unadvanced
      exact attempted.retry (unmoved_troubled unmoved) rejection after retryable
        (supplied.kept carried (.inl unadvanced))
    · intro clean unmoved error after carried here unadvanced
      exact attempted.fails (unmoved_troubled unmoved)
        (not_strands (fun misled => clean (supplied.misread.mpr misled.2.2))
          fun loses => unmoved (supplied.moved.mpr loses.2.2.2.1)) error after
        (supplied.kept carried (.inl unadvanced)) (.inl here)
    · intro misread dropped froze rejection last after ref unread here
      exact attempted.forks ⟨misled misread, .inl ⟨dropped, froze⟩⟩ rejection after unread.managed
        unread.sound unread.unreceipted here
    · intro misread stopped error last after ref unread here
      exact attempted.unread supplied pending soundThen (misled misread) stopped ref unread here error
    · intro mortal after carried
      refine attempted.dies mortal after fun clean => ?_
      obtain ⟨carried, stage⟩ := carried fun misread => clean (misled misread)
      exact supplied.kept carried (stage.imp_right fun advanced => ⟨_, advanced⟩)
  · intro unprepared error after left
    exact attempted.fails (unprepared_troubled unprepared)
      (not_strands (fun misled => unprepared misled.2.1) fun loses => unprepared loses.2.1) error
      after (.of_left managed left) (.inl (by rw [left.manager]; exact here))
  · intro mortal after left
    exact attempted.dies mortal after fun _ => .of_left managed left

/-! ## The call -/

/-- The pending commit of the memory or else of the stored intent is loaded. -/
theorem after_loadPending {ends : Ends CheckpointWorld CheckpointError (Option (GitOid × CheckpointManifest))}
    (sound : point.Sound (point.stores world))
    (runs : ∀ after, after.manager = world.manager → point.stores after =
        { point.stores world with pending := (point.stores world).remembered } →
      point.Sound (point.stores after) → ends.returns (point.stores world).remembered after)
    (raises : Troubled fates → ends.raises .port world) (dies : Mortal fates → ends.dies world) :
    (loadPending fates point.request).After ends world := by
  rw [loadPending, after_bind, after_ask]
  cases held : (point.stores world).pending with
  | some pending =>
    rw [show world.pending.get? (keyOf point.request) = some pending from held]
    dsimp only
    rw [after_pure]
    have remembered : (point.stores world).remembered = some pending := by
      rw [CheckpointStores.remembered, held]
    rw [remembered] at runs
    refine runs world rfl ?_ sound
    rw [← held]
  | none =>
    rw [show world.pending.get? (keyOf point.request) = none from held]
    dsimp only
    have remembered : (point.stores world).remembered =
        (point.stores world).intent.bind intentCommit := by
      rw [CheckpointStores.remembered, held]
    rw [after_bind]
    refine after_meeting_look rfl (fun _ => ?_) (fun _ raised => raises (.of_raises raised))
      (fun _ died => dies ⟨_, _, died⟩)
    rw [after_ask]
    dsimp only
    cases named : (point.stores world).intent.bind intentCommit with
    | none =>
      rw [show (world.intents.get? (keyOf point.request)).bind intentCommit = none from named]
      dsimp only
      rw [after_pure]
      rw [remembered, named] at runs
      refine runs world rfl ?_ sound
      rw [← held]
    | some pending =>
      rw [show (world.intents.get? (keyOf point.request)).bind intentCommit = some pending
        from named]
      dsimp only
      rw [after_bind, after_change]
      dsimp only
      rw [after_pure]
      rw [remembered, named] at runs
      have taken : (world.pending.set (keyOf point.request) pending).get? point.key =
          some pending := by
        rw [Dict.get?_set]
        exact if_pos rfl
      have same : point.stores
          { world with pending := world.pending.set (keyOf point.request) pending } =
            { point.stores world with pending := some pending } := by
        rw [← taken]
        rfl
      refine runs _ rfl same ?_
      rw [same]
      exact sound.setPending (sound.intent pending named) (.inl named)

theorem strands_congr {others : CheckpointStores} (behind : point.Behind stores ↔ point.Behind others)
    (reuses : point.Reuses stores ↔ point.Reuses others) (recorded : stores.Recorded ↔ others.Recorded) :
    point.Strands fates stores ↔ point.Strands fates others := by
  simp only [Strands, LosesReceipt, Forgets, Misled, Prepared, misread_congr behind,
    movedAfter_congr behind, reuses, recorded]

/-- The stores once the pending commit has been loaded. -/
structure Loaded (before after : CheckpointStores) : Prop where
  same : after = { before with pending := before.remembered }

theorem Loaded.remembered {after : CheckpointStores} (loaded : Loaded before after) :
    after.remembered = before.remembered := by
  rw [loaded.same, CheckpointStores.remembered]
  cases held : before.remembered with
  | some pending => rfl
  | none =>
    have unnamed : before.intent.bind intentCommit = none := by
      cases memory : before.pending with
      | none => rw [← held, CheckpointStores.remembered, memory]
      | some pending =>
        rw [CheckpointStores.remembered, memory] at held
        cases held
    exact unnamed

theorem Loaded.reuses {after : CheckpointStores} (loaded : Loaded before after) :
    point.Reuses after ↔ point.Reuses before := by
  simp only [Reuses, Remembers, loaded.remembered]

theorem Loaded.recorded {after : CheckpointStores} (loaded : Loaded before after) :
    after.Recorded ↔ before.Recorded := by
  have named : ∀ pending, before.remembered = some pending →
      before.pending = some pending ∨ before.intent.bind intentCommit = some pending := by
    intro pending remembered
    rw [CheckpointStores.remembered] at remembered
    split at remembered
    · next held => exact .inl (held.trans remembered)
    · exact .inr remembered
  obtain ⟨rfl⟩ := loaded
  constructor
  · intro recorded pending held
    refine recorded pending ?_
    change before.remembered = some pending
    rw [CheckpointStores.remembered, held]
  · intro recorded pending remembered
    exact (named pending remembered).elim (recorded pending) id

theorem Loaded.stage {after : CheckpointStores} (loaded : Loaded before after)
    (stage : point.Unadvanced before ∨ ∃ oid, point.Advanced before oid) :
    point.Unadvanced after ∨ ∃ oid, point.Advanced after oid := by
  have remembered := loaded.remembered
  obtain ⟨rfl⟩ := loaded
  rcases stage with unadvanced | ⟨oid, advanced⟩
  · exact .inl ⟨unadvanced.head, unadvanced.unreceipted⟩
  · refine .inr ⟨oid, advanced.head, advanced.onTop, ?_, advanced.unreceipted⟩
    rw [Remembers, remembered]
    exact advanced.remembers

theorem Loaded.strands {after : CheckpointStores} (loaded : Loaded before after) :
    point.Strands fates after ↔ point.Strands fates before := by
  refine strands_congr ?_ loaded.reuses loaded.recorded
  rw [loaded.same]
  exact Iff.rfl

theorem Loaded.misled {after : CheckpointStores} (loaded : Loaded before after) :
    point.Misled fates after ↔ point.Misled fates before := by
  have behind : point.Behind after ↔ point.Behind before := by
    rw [loaded.same]
    exact Iff.rfl
  simp only [Misled, Prepared, misread_congr behind, loaded.reuses]

theorem Kept.of_loaded {after : CheckpointStores} (loaded : Loaded before after)
    {last : CheckpointWorld} (kept : point.Kept after last) : point.Kept before last :=
  ⟨kept.managed, kept.sound, kept.staged, fun known => kept.restarted fun reuses =>
    loaded.recorded.mpr (known (loaded.reuses.mp reuses))⟩

/-- The checkpoint begins only in a workspace that is iterating. -/
theorem after_begin {ends : Ends CheckpointWorld CheckpointError (Option WorkspaceHandle)}
    (managed : point.Managed world.manager)
    (begins : point.At world.manager .iterating → ∀ workspace manager, workspace.path = point.path →
      workspace.baseVerifiedOid = point.base → point.Managed manager →
      point.At manager .checkpointing → ends.returns (some workspace) { world with manager := manager })
    (unready : ¬ point.At world.manager .iterating → ends.returns none world)
    (raises : Troubled fates → ∀ error manager, point.Managed manager →
      ends.raises error { world with manager := manager })
    (dies : Mortal fates → ∀ manager, point.Managed manager →
      ends.dies { world with manager := manager }) :
    (begin? fates point.request).After ends world := by
  rw [begin?, after_catching, after_bind, after_managing]
  refine after_change_from managed begins ?_ ?_ dies
  · intro elsewhere
    dsimp only
    rw [if_pos rfl]
    exact unready elsewhere
  · intro troubled manager managed
    dsimp only
    rw [if_neg (by decide), after_raise]
    exact raises troubled _ manager managed

theorem At.unique {manager : WorkspaceManager} {left right : WorkspaceState}
    (here : point.At manager left) (there : point.At manager right) : left = right := by
  obtain ⟨held, known, rfl⟩ := here
  obtain ⟨other, same, rfl⟩ := there
  cases known.symm.trans same
  rfl

/-- How a call without a cached receipt may end, with the stores before it. -/
structure Called (point : AcceptableCheckpoint) (fates : CheckpointFates) (before : CheckpointWorld)
    (ends : Ends CheckpointWorld CheckpointError CheckpointOutcome) : Prop where
  receipt : ∀ receipt after, point.Kept (point.stores before) after →
    point.Done (point.stores after) receipt → ends.returns (.receipt receipt) after
  unready : ¬ point.At before.manager .iterating → ∀ after,
    point.Kept (point.stores before) after → ends.returns (.rejection notReady) after
  retry : Troubled fates → ∀ rejection after, rejection.infrastructureFailure = false →
    point.Kept (point.stores before) after → ends.returns (.rejection rejection) after
  fails : Troubled fates → ¬ point.Strands fates (point.stores before) → ∀ rejection after,
    point.Kept (point.stores before) after →
    (point.At after.manager .iterating ∨ ∃ receipt, point.Done (point.stores after) receipt) →
    ends.returns (.rejection rejection) after
  strands : point.Strands fates (point.stores before) → ∀ rejection after,
    (¬ point.Misled fates (point.stores before) → point.Kept (point.stores before) after) →
    point.Stuck after → ends.returns (.rejection rejection) after
  raises : Troubled fates → ∀ error after,
    (¬ point.Misled fates (point.stores before) → point.Kept (point.stores before) after) →
    ends.raises error after
  dies : Mortal fates → ∀ after,
    (¬ point.Misled fates (point.stores before) → point.Kept (point.stores before) after) →
    ends.dies after

theorem Called.attempted (called : point.Called fates world ends)
    (loaded : Loaded (point.stores world) before) (place : workspace.path = point.path) :
    point.Attempted fates before
      ⟨ends.returns, fun _ => (recoverFailed fates workspace).After ends, ends.dies⟩ where
  receipt := fun found after left done => called.receipt found after (.of_loaded loaded left) done
  retry := fun troubled rejection after retryable left =>
    called.retry troubled rejection after retryable (.of_loaded loaded left)
  forks := fun forgets rejection after managed sound unreceipted frozen =>
    called.strands (loaded.strands.mp (.inr forgets)) rejection after
      (fun clean => absurd (loaded.misled.mp forgets.1) clean)
      ⟨managed, sound, .inl ⟨unreceipted, frozen⟩⟩
  fails := by
    intro troubled safe error after left either
    have kept : ∀ manager, point.Managed manager →
        point.Kept (point.stores world) { after with manager := manager } :=
      fun manager managed => .of_loaded loaded (left.manager managed)
    refine after_recoverFailed left.managed place ?_ ?_ ?_
    · intro rejection manager managed recovered _
      exact called.fails troubled (fun strands => safe (loaded.strands.mpr strands)) rejection _
        (kept manager managed) (either.imp recovered id)
    · exact fun _ error manager managed => called.raises troubled error _ fun _ => kept manager managed
    · exact fun mortal manager managed => called.dies mortal _ fun _ => kept manager managed
  loses := by
    intro loses error after left unreceipted frozen
    have kept : ∀ manager, point.Managed manager →
        point.Kept (point.stores world) { after with manager := manager } :=
      fun manager managed => .of_loaded loaded (left.manager managed)
    refine after_recoverFailed left.managed place ?_ ?_ ?_
    · intro rejection manager managed _ unmoved
      -- a frozen workspace stays frozen
      have same : manager = after.manager :=
        unmoved fun checkpointing => by cases frozen.unique checkpointing
      exact called.strands (loaded.strands.mp (.inl loses)) rejection _ (fun _ => kept manager managed)
        ⟨managed, left.sound, .inl ⟨unreceipted, by rw [same]; exact frozen⟩⟩
    · exact fun troubled error manager managed =>
        called.raises troubled error _ fun _ => kept manager managed
    · exact fun mortal manager managed => called.dies mortal _ fun _ => kept manager managed
  forgets := by
    intro forgets error after managed sound forgotten here
    have misled := loaded.misled.mp forgets.1
    refine after_recoverFailed managed place ?_ ?_ ?_
    · intro rejection manager managed recovered _
      exact called.strands (loaded.strands.mp (.inr forgets)) rejection _
        (fun clean => absurd misled clean) ⟨managed, sound, .inr ⟨forgotten, recovered here⟩⟩
    · exact fun troubled error _ _ => called.raises troubled error _ fun clean => absurd misled clean
    · exact fun mortal _ _ => called.dies mortal _ fun clean => absurd misled clean
  dies := fun mortal after left => called.dies mortal after fun clean =>
    .of_loaded loaded (left fun misled => clean (loaded.misled.mp misled))

/-- A call from any stage without a receipt. -/
theorem after_checkpointAnew (managed : point.Managed world.manager)
    (sound : point.Sound (point.stores world))
    (stage : point.Unadvanced (point.stores world) ∨ ∃ oid, point.Advanced (point.stores world) oid)
    (called : point.Called fates world ends) :
    (checkpointAnew point.setup fates time point.request).After ends world := by
  rw [checkpointAnew, after_bind]
  refine after_loadPending sound ?_
    (fun troubled => called.raises troubled _ world fun _ => .of_same managed sound stage rfl)
    (fun mortal => called.dies mortal world fun _ => .of_same managed sound stage rfl)
  intro loading unmanaged same soundThen
  have loaded : Loaded (point.stores world) (point.stores loading) := ⟨same⟩
  have managed : point.Managed loading.manager := by rw [unmanaged]; exact managed
  have stage := loaded.stage stage
  dsimp only
  rw [after_bind, after_change]
  dsimp only
  rw [after_bind, show (point.stores world).remembered = (point.stores loading).pending by rw [same]]
  have audited : point.stores
      { loading with locals := ⟨(point.stores loading).pending.isSome, false, false⟩ } =
        point.stores loading := rfl
  have managed : point.Managed
      { loading with locals := ⟨(point.stores loading).pending.isSome, false, false⟩ }.manager :=
    managed
  have unmanaged : { loading with
      locals := ⟨(point.stores loading).pending.isSome, false, false⟩ }.manager = world.manager :=
    unmanaged
  generalize { loading with locals := ⟨(point.stores loading).pending.isSome, false, false⟩ } =
    starting at audited managed unmanaged
  rw [← audited] at soundThen stage loaded ⊢
  have same : ∀ manager, point.Managed manager →
      point.Kept (point.stores world) { starting with manager := manager } :=
    fun manager managed => .of_loaded loaded (.of_same managed soundThen stage rfl)
  refine after_begin managed ?_ ?_ (fun troubled _ manager managed => ?_)
    (fun mortal manager managed => ?_)
  rotate_left
  · intro elsewhere
    rw [unmanaged] at elsewhere
    exact called.unready elsewhere starting (same starting.manager managed)
  · exact called.raises troubled _ _ fun _ => same manager managed
  · exact called.dies mortal _ fun _ => same manager managed
  intro _ workspace manager place base managed here
  have begun : point.stores { starting with manager := manager } = point.stores starting := rfl
  have managed : point.Managed { starting with manager := manager }.manager := managed
  have here : point.At { starting with manager := manager }.manager .checkpointing := here
  dsimp only
  rw [after_catching]
  generalize { starting with manager := manager } = beginning at begun managed here
  rw [← begun] at soundThen stage loaded ⊢
  refine after_attempt managed here place base soundThen stage ?_ (called.attempted loaded place)
  rw [loaded.remembered, loaded.same]

/-- A call finds the receipt. -/
theorem after_checkpoint_done (receipted : point.Receipted receipt world)
    (returns : ∀ after, point.Receipted receipt after → ends.returns (.receipt receipt) after)
    (raises : fates .readReceipt ≠ .runs → ends.raises .port world)
    (dies : ∀ applied, fates .readReceipt = .dies applied → ends.dies world) :
    (checkpoint point.setup fates time point.request).After ends world := by
  have again := returns _ receipted.holds
  rw [checkpoint, after_bind, cachedReceipt, after_bind, after_ask]
  cases memory : (point.stores world).held with
  | some other =>
    have same := receipted.done.held other memory
    rw [show world.receipts.get? (keyOf point.request) = some receipt by rw [← same]; exact memory]
    dsimp only
    rw [after_pure]
    dsimp only
    rw [after_bind, after_change]
    exact again
  | none =>
    rw [show world.receipts.get? (keyOf point.request) = none from memory]
    dsimp only
    refine after_meeting_look rfl (fun _ => ?_) (fun _ raised => ?_)
      (fun applied died => dies applied died)
    · rw [after_ask, show world.storedReceipts.get? (keyOf point.request) = some receipt
        from receipted.done.stored]
      dsimp only
      rw [after_bind, after_change]
      exact again
    · exact raises (by rw [raised]; exact nofun)

/-- A call from any stage. -/
theorem after_checkpoint (managed : point.Managed world.manager)
    (sound : point.Sound (point.stores world)) (staged : point.Staged (point.stores world))
    (called : point.Called fates world ends) :
    (checkpoint point.setup fates time point.request).After ends world := by
  have opened : (point.Unadvanced (point.stores world) ∨
      ∃ oid, point.Advanced (point.stores world) oid) →
      (checkpoint point.setup fates time point.request).After ends world := by
    intro stage
    have unreceipted : Unreceipted (point.stores world) := by
      rcases stage with unadvanced | ⟨oid, advanced⟩
      · exact unadvanced.unreceipted
      · exact advanced.unreceipted
    have same := Kept.of_same managed sound stage rfl
    rw [checkpoint, after_bind, cachedReceipt, after_bind, after_ask,
      show world.receipts.get? (keyOf point.request) = none from unreceipted.2]
    dsimp only
    refine after_meeting_look rfl (fun _ => ?_)
      (fun _ raised => called.raises (.of_raises raised) _ _ fun _ => same)
      (fun _ died => called.dies ⟨_, _, died⟩ _ fun _ => same)
    rw [after_ask, show world.storedReceipts.get? (keyOf point.request) = none from unreceipted.1]
    exact after_checkpointAnew managed sound stage called
  rcases staged with unadvanced | advanced | ⟨receipt, done⟩
  · exact opened (.inl unadvanced)
  · exact opened (.inr advanced)
  · have receipted : point.Receipted receipt world := ⟨managed, sound, done⟩
    exact after_checkpoint_done receipted
      (fun after receipted => called.receipt receipt after receipted.kept receipted.done)
      (fun stopped => called.raises ⟨_, stopped⟩ _ world fun _ => receipted.kept)
      (fun _ died => called.dies ⟨_, _, died⟩ world fun _ => receipted.kept)

end AcceptableCheckpoint

end CodeMigrator
