import CodeMigrator.Workspace.CheckpointRetry

/-!
# A checkpoint across restarts

Calls of `checkpoint` that fail or die, new processes and recoveries in any order: what they leave
behind, what a healthy call makes of it after a restart, and which receipt every later call returns.
-/

namespace CodeMigrator
open Lib

/-- What happens to a checkpoint: a call, the start of a new process, or a recovery. -/
inductive CheckpointEvent where
  | checkpoint (fates : CheckpointFates) (time : Nat)
  | restart
  | recover (fates : ManagerFates) (candidateOid : Option String)

namespace AcceptableCheckpoint
open CheckpointService Lib.Process

variable (point : AcceptableCheckpoint)

/-- `WorkspaceManager.recover` for the workspace of the checkpoint. -/
def recovering (fates : ManagerFates) (candidateOid : Option String) : Checkpointing WorkspaceHandle :=
  managing (WorkspaceManager.recover fates point.path point.base candidateOid)

/-- The world after an event. -/
def step (world : CheckpointWorld) : CheckpointEvent → CheckpointWorld
  | .checkpoint fates time => outlived (checkpoint point.setup fates time point.request world)
  | .restart => world.restart
  | .recover fates candidateOid => outlived (point.recovering fates candidateOid world)

/-- A call does not take the ref for forked because it cannot be read, and does not reuse a commit
that only the memory knows. -/
def Steady (world : CheckpointWorld) : CheckpointEvent → Prop
  | .checkpoint fates _ => ¬ point.Misled fates (point.stores world) ∧
      (point.Reuses (point.stores world) → (point.stores world).Recorded)
  | _ => True

/-- What holds of every world that such events reach. -/
structure Restartable (world : CheckpointWorld) : Prop where
  managed : point.Managed world.manager
  sound : point.Sound (point.stores world)
  staged : point.Staged (point.stores world)
  restarted : point.Staged (point.stores world).restart

variable {point} {world : CheckpointWorld} {fates : CheckpointFates} {time : Nat}
  {candidateOid : Option String} {receipt : CheckpointReceipt}

/-! ## New processes and recoveries -/

theorem Managed.restart {manager : WorkspaceManager} (managed : point.Managed manager) :
    point.Managed manager.restart where
  directory := managed.directory
  record := managed.record
  handle := fun _ held => nomatch held
  ledger := fun _ member => nomatch member

theorem Restartable.restart (restartable : point.Restartable world) :
    point.Restartable world.restart where
  managed := restartable.managed.restart
  sound := restartable.sound.restart
  staged := restartable.restarted
  restarted := restartable.restarted

theorem Restartable.manager (restartable : point.Restartable world) {manager : WorkspaceManager}
    (managed : point.Managed manager) : point.Restartable { world with manager := manager } :=
  ⟨managed, restartable.sound, restartable.staged, restartable.restarted⟩

theorem Managed.manage {manager : WorkspaceManager} (managed : point.Managed manager)
    {workspace : WorkspaceHandle} {operations : List WorkspaceFileOperation}
    (place : workspace.path = point.path) (base : workspace.baseVerifiedOid = point.base)
    (allowed : point.Allowed operations) : point.Managed (manager.manage workspace operations) where
  directory := managed.directory
  record := managed.record
  handle := by
    intro other held
    rw [WorkspaceManager.manage, Dict.get?_set, if_pos place.symm] at held
    cases held
    exact ⟨place, base⟩
  ledger := by
    rw [WorkspaceManager.ledger, WorkspaceManager.manage, Dict.get?_set, if_pos place.symm]
    exact allowed

theorem reattached {manager : WorkspaceManager} (managed : point.Managed manager)
    {attached : WorkspaceStateRecord}
    (found : WorkspaceManager.reattach point.path point.base candidateOid
      (manager.records.get? point.path) = some attached) :
    attached.handle.path = point.path ∧ attached.handle.baseVerifiedOid = point.base ∧
      attached.handle.state = .iterating ∧ point.Allowed attached.operations := by
  cases stored : manager.records.get? point.path with
  | none =>
    rw [stored] at found
    cases found
    exact ⟨rfl, rfl, rfl, nofun⟩
  | some record =>
    obtain ⟨place, base, allowed⟩ := managed.record record stored
    rw [stored, WorkspaceManager.reattach] at found
    split at found
    · cases found
    · cases found
      exact ⟨place, base, rfl, allowed⟩

theorem after_recover {manager : WorkspaceManager}
    {ends : Ends WorkspaceManager ManagerError WorkspaceHandle} {fates : ManagerFates}
    (managed : point.Managed manager)
    (returns : ∀ workspace after, point.Managed after →
      (manager.handles.get? point.path = none → point.At after .iterating) →
        ends.returns workspace after)
    (raises : ¬ (fates = .healthy ∧ candidateOid = none) → ∀ error after, point.Managed after →
      ends.raises error after)
    (dies : fates ≠ .healthy → ∀ after, point.Managed after → ends.dies after) :
    (WorkspaceManager.recover fates point.path point.base candidateOid).After ends manager := by
  have unwell : ∀ {call : ManagerCall} {fate : Fate}, fates call = fate → fate ≠ .runs →
      fates ≠ .healthy := by
    rintro call fate met stopped rfl
    exact stopped met.symm
  rw [WorkspaceManager.recover, after_bind, after_ask]
  cases known : manager.handles.get? point.path with
  | some existing =>
    dsimp only
    split
    · next mismatch =>
        refine raises ?_ _ manager managed
        rintro ⟨-, rfl⟩
        exact absurd mismatch.1 (by decide)
    · exact returns existing manager managed fun unknown => by rw [known] at unknown; cases unknown
  | none =>
    dsimp only
    rw [after_bind, after_ask, managed.directory]
    dsimp only
    rw [if_neg (by simp), after_bind]
    refine after_meeting_look rfl (fun _ => ?_)
      (fun _ raised => raises (fun both => unwell raised nofun both.1) _ manager managed)
      (fun _ died => dies (unwell died nofun) manager managed)
    rw [after_ask]
    dsimp only
    cases found : WorkspaceManager.reattach point.path point.base candidateOid
        (manager.records.get? point.path) with
    | none =>
      refine raises ?_ _ manager managed
      rintro ⟨-, rfl⟩
      cases stored : manager.records.get? point.path with
      | none =>
        rw [stored] at found
        cases found
      | some record =>
        obtain ⟨place, base, -⟩ := managed.record record stored
        rw [stored, WorkspaceManager.reattach, if_neg (by simp [place, base])] at found
        cases found
    | some attached =>
      obtain ⟨place, base, iterating, allowed⟩ := reattached managed found
      dsimp only
      rw [after_bind]
      refine after_meeting_look rfl (fun _ => ?_)
        (fun _ raised => raises (fun both => unwell raised nofun both.1) _ manager managed)
        (fun _ died => dies (unwell died nofun) manager managed)
      rw [after_pure]
      dsimp only
      rw [after_bind, after_change]
      dsimp only
      have taken := managed.manage place base allowed
      have here : point.At (manager.manage attached.handle attached.operations) .iterating := by
        refine ⟨attached.handle, ?_, iterating⟩
        rw [WorkspaceManager.manage, Dict.get?_set, if_pos place.symm]
      rw [after_bind]
      refine after_meeting_change point.Managed taken (taken.recorded place base) (fun _ => ?_)
        (fun _ raised after managed => raises (fun both => unwell raised nofun both.1) _ after managed)
        (fun _ died after managed => dies (unwell died nofun) after managed)
      exact returns _ _ (taken.recorded place base) fun _ => here

/-! ## Events -/

theorem Kept.restartable {before : CheckpointStores} (kept : point.Kept before world)
    (recorded : point.Reuses before → before.Recorded) : point.Restartable world :=
  ⟨kept.managed, kept.sound, kept.staged, kept.restarted recorded⟩

theorem checkpoint_restartable (restartable : point.Restartable world)
    (clean : ¬ point.Misled fates (point.stores world))
    (recorded : point.Reuses (point.stores world) → (point.stores world).Recorded) :
    point.Restartable (checkpoint point.setup fates time point.request world).2 := by
  have kept : ∀ {after : CheckpointWorld}, point.Kept (point.stores world) after →
      point.Restartable after := fun kept => kept.restartable recorded
  have left : (checkpoint point.setup fates time point.request).After
      (.keeping point.Restartable fun _ _ => True) world :=
    after_checkpoint restartable.managed restartable.sound restartable.staged
      { receipt := fun _ _ left _ => ⟨kept left, trivial⟩
        unready := fun _ _ left => ⟨kept left, trivial⟩
        retry := fun _ _ _ _ left => ⟨kept left, trivial⟩
        fails := fun _ _ _ _ left _ => ⟨kept left, trivial⟩
        strands := fun _ _ _ left _ => ⟨kept (left clean), trivial⟩
        raises := fun _ _ _ left => kept (left clean)
        dies := fun _ _ left => kept (left clean) }
  exact left.kept

theorem recovering_managed (managed : point.Managed world.manager) (fates : ManagerFates)
    (candidateOid : Option String) : ∃ manager, point.Managed manager ∧
      (point.recovering fates candidateOid world).2 = { world with manager := manager } := by
  have recovered : (point.recovering fates candidateOid).After (.keeping (fun after =>
      ∃ manager, point.Managed manager ∧ after = { world with manager := manager })
        fun _ _ => True) world := by
    rw [recovering, after_managing]
    exact after_recover managed (fun _ manager managed _ => ⟨⟨manager, managed, rfl⟩, trivial⟩)
      (fun _ _ manager managed => ⟨manager, managed, rfl⟩)
      (fun _ manager managed => ⟨manager, managed, rfl⟩)
  exact recovered.kept

theorem step_restartable {event : CheckpointEvent} (restartable : point.Restartable world)
    (steady : point.Steady world event) : point.Restartable (point.step world event) := by
  cases event with
  | checkpoint fates time =>
    exact outlived_of (checkpoint_restartable restartable steady.1 steady.2) Restartable.restart
  | restart => exact restartable.restart
  | recover fates candidateOid =>
    obtain ⟨manager, managed, same⟩ := recovering_managed restartable.managed fates candidateOid
    refine outlived_of ?_ Restartable.restart
    rw [same]
    exact restartable.manager managed

theorem Receipted.restart (receipted : point.Receipted receipt world) :
    point.Receipted receipt world.restart :=
  ⟨receipted.managed.restart, receipted.sound.restart, receipted.done.restart⟩

theorem step_receipted (world : CheckpointWorld) (event : CheckpointEvent)
    (receipted : point.Receipted receipt world) :
    point.Receipted receipt (point.step world event) := by
  cases event with
  | checkpoint fates time =>
    have again : (checkpoint point.setup fates time point.request).After
        (.keeping (point.Receipted receipt) fun _ _ => True) world :=
      after_checkpoint_done receipted (fun _ receipted => ⟨receipted, trivial⟩)
        (fun _ => receipted) (fun _ _ => receipted)
    exact outlived_of again.kept Receipted.restart
  | restart => exact receipted.restart
  | recover fates candidateOid =>
    obtain ⟨manager, managed, same⟩ := recovering_managed receipted.managed fates candidateOid
    refine outlived_of ?_ Receipted.restart
    rw [same]
    exact ⟨managed, receipted.sound, receipted.done⟩

/-! ## After a restart -/

/-- The checkpoint has not advanced the ref yet. -/
structure Begun (point : AcceptableCheckpoint) (world : CheckpointWorld) : Prop where
  managed : point.Managed world.manager
  sound : point.Sound (point.stores world)
  unadvanced : point.Unadvanced (point.stores world)

/-- Whatever happens afterwards, a call that returns anything returns the receipt, it does so where
the receipt can be read, and the ref stays at its commit. -/
def Repeats (point : AcceptableCheckpoint) (receipt : CheckpointReceipt) (oid : GitOid)
    (last : CheckpointWorld) : Prop :=
  ∀ later : List CheckpointEvent,
    point.head (point.stores (runFrom point.step last later)) = some oid ∧
      ∀ fates time,
        (∀ outcome after, checkpoint point.setup fates time point.request
          (runFrom point.step last later) = (.ok outcome, after) → outcome = .receipt receipt) ∧
        (fates .readReceipt = .runs → ∃ after, checkpoint point.setup fates time point.request
          (runFrom point.step last later) = (.ok (.receipt receipt), after))

/-- The next call returns a receipt for the commit that the ref names, the ref has advanced exactly
once since the first of the worlds, and all repetitions return the same receipt. -/
def Completes (point : AcceptableCheckpoint) (time : Nat) (worlds : List CheckpointWorld)
    (recovered : CheckpointWorld) : Prop :=
  ∃ receipt oid last,
    checkpoint point.setup .healthy time point.request recovered = (.ok (.receipt receipt), last) ∧
      receipt.newCandidateOid = oid.text ∧ point.head (point.stores last) = some oid ∧
      point.OnTop last.repository oid ∧ point.AdvancesOnce (worlds ++ [recovered, last]) oid ∧
      point.Repeats receipt oid last

theorem eq_of_text {left right : GitOid} (same : left.text = right.text) : left = right := by
  by_contra different
  exact text_ne different same

theorem Receipted.repeats {oid : GitOid} (receipted : point.Receipted receipt world)
    (names : receipt.newCandidateOid = oid.text) : point.Repeats receipt oid world := by
  intro later
  have receipted := runFrom_invariant (point.Receipted receipt) step_receipted receipted later
  generalize runFrom point.step world later = reached at receipted
  obtain ⟨named, head, -, text⟩ := receipted.done.advanced
  refine ⟨?_, fun fates time => ?_⟩
  · rw [head, eq_of_text (names.symm.trans text)]
  · have again : ∀ {P Q : Prop}, (fates .readReceipt ≠ .runs → P) → (fates .readReceipt ≠ .runs → Q) →
        (checkpoint point.setup fates time point.request).After
          ⟨fun outcome _ => outcome = .receipt receipt, fun _ _ => P, fun _ => Q⟩ reached :=
      fun raises dies => after_checkpoint_done receipted (fun _ _ => rfl) raises
        fun _ died => dies (by rw [died]; exact nofun)
    constructor
    · intro outcome after ran
      have ended := again (fun _ => trivial) (fun _ => trivial)
      rw [After, ran] at ended
      exact ended
    · intro reads
      obtain ⟨outcome, after, ran, rfl⟩ :=
        (again (fun stopped => stopped reads) (fun stopped => stopped reads)).returned
      exact ⟨after, ran⟩

theorem follows_step (restartable : point.Restartable world) (event : CheckpointEvent) :
    point.Follows world (point.step world event) := by
  have stays : point.Follows world world := by
    rcases restartable.staged.head with start | ⟨oid, head, onTop⟩
    · exact .inl start
    · exact .inr ⟨oid, restartable.sound.ne onTop, head, head⟩
  cases event with
  | checkpoint fates time =>
    have follows := @follows_call _ _ fates time restartable.sound restartable.staged
    exact outlived_of follows id
  | restart => exact stays
  | recover fates candidateOid =>
    obtain ⟨manager, -, same⟩ := recovering_managed restartable.managed fates candidateOid
    refine outlived_of ?_ id
    rw [same]
    exact stays

theorem advancesOnce_run {oid : GitOid} {history : List CheckpointEvent} {tail : List CheckpointWorld}
    (restartable : point.Restartable world) (steady : Along point.step point.Steady world history)
    (once : point.AdvancesOnce (runFrom point.step world history :: tail) oid) :
    point.AdvancesOnce (history.scanl point.step world ++ tail) oid := by
  induction history generalizing world with
  | nil => exact once
  | cons event history ih =>
    have rest := ih (step_restartable restartable steady.1) steady.2 once
    rw [List.scanl_cons]
    have follows := follows_step restartable event
    cases history with
    | nil => exact rest.cons follows
    | cons next history =>
      rw [List.scanl_cons] at rest ⊢
      exact rest.cons follows

/-- After any calls that fail or die, restarts and recoveries, a restarted process recovers the
workspace, and its next call returns a receipt for the commit that the ref names; the ref has advanced
exactly once, and every repetition returns the same receipt. -/
theorem checkpoint_survives_restarts (point : AcceptableCheckpoint) (world : CheckpointWorld)
    (history : List CheckpointEvent) (begun : point.Begun world)
    (steady : Along point.step point.Steady world history) :
    (∃ found recovered, point.recovering .healthy none
      (runFrom point.step world history).restart = (.ok found, recovered)) ∧
    ∀ fates candidateOid found recovered time, point.recovering fates candidateOid
      (runFrom point.step world history).restart = (.ok found, recovered) →
        point.Completes time (history.scanl point.step world) recovered := by
  have start : point.Restartable world := ⟨begun.managed, begun.sound, .inl begun.unadvanced,
    .inl begun.unadvanced.restart⟩
  have left : point.Restartable (runFrom point.step world history) :=
    always_of_along point.Restartable
      (fun _ _ restartable steady => step_restartable restartable steady) start steady history []
      (List.append_nil history).symm
  have crashed := left.restart
  have unknown : (runFrom point.step world history).restart.manager.handles.get? point.path = none :=
    rfl
  constructor
  · have returned : (point.recovering .healthy none).After
        ⟨fun _ _ => True, fun _ _ => False, fun _ => False⟩
        (runFrom point.step world history).restart := by
      rw [recovering, after_managing]
      exact after_recover crashed.managed (fun _ _ _ _ => trivial)
        (fun ill _ _ _ => ill ⟨rfl, rfl⟩) (fun ill _ _ => ill rfl)
    obtain ⟨found, recovered, ran, -⟩ := returned.returned
    exact ⟨found, recovered, ran⟩
  · intro fates candidateOid found recovered time ran
    have returned : (point.recovering fates candidateOid).After
        ⟨fun _ after => ∃ manager, point.Managed manager ∧ point.At manager .iterating ∧
          after = { (runFrom point.step world history).restart with manager := manager },
          fun _ _ => True, fun _ => True⟩ (runFrom point.step world history).restart := by
      rw [recovering, after_managing]
      exact after_recover crashed.managed
        (fun _ manager managed here => ⟨manager, managed, here unknown, rfl⟩)
        (fun _ _ _ _ => trivial) (fun _ _ _ => trivial)
    rw [After, ran] at returned
    obtain ⟨manager, managed, iterating, rfl⟩ := returned
    have ready := crashed.manager managed
    obtain ⟨receipt, last, ran, kept, done⟩ :=
      @healthy_returns _ _ time ready.managed ready.sound ready.staged (.inl iterating)
    obtain ⟨oid, head, onTop, names⟩ := done.advanced
    -- the restart and the recovery leave the ref where it was
    have first : point.Follows (runFrom point.step world history)
        { (runFrom point.step world history).restart with manager := manager } := by
      rcases left.staged.head with still | ⟨other, there, onTop⟩
      · exact .inl still
      · exact .inr ⟨other, left.sound.ne onTop, there, there⟩
    have second := @follows_call _ _ .healthy time ready.sound ready.staged
    rw [ran] at second
    have once := (AdvancesOnce.one (kept.sound.ne onTop) head).cons second
    exact ⟨receipt, oid, last, ran, names, head, onTop,
      advancesOnce_run start steady (once.cons first),
      Receipted.repeats ⟨kept.managed, kept.sound, done⟩ names⟩

end AcceptableCheckpoint

/-! ## A commit that only the memory knows -/

namespace SampleCheckpoint
open CheckpointService AcceptableCheckpoint

/-- The process dies in one call, which has no effect. -/
def dying (call : CheckpointCall) : CheckpointFates :=
  fun other => if other = call then .dies false else .runs

theorem begun : point.Begun world := ⟨ready.managed, ready.sound, rfl, rfl, rfl⟩

/-- The process dies where the receipt is saved. -/
def unreceipted : List CheckpointEvent := [.checkpoint (dying .saveReceipt) 0]

/-- The second save of the intent fails, and the process of the retry dies where the receipt is
saved. -/
def unrecorded : List CheckpointEvent :=
  [.checkpoint (failing .saveCommit) 0, .checkpoint (dying .saveReceipt) 0]

/-- The workspace is recovered after these events. -/
def recovered (history : List CheckpointEvent) : CheckpointWorld :=
  (point.recovering .healthy none (runFrom point.step world history).restart).2

/-- The next process completes the checkpoint of one that died. -/
theorem dead_process_completed :
    point.Completes 1 (unreceipted.scanl point.step world) (recovered unreceipted) := by
  have steady : Along point.step point.Steady world unreceipted := by
    refine ⟨⟨?_, fun _ _ held => nomatch held⟩, trivial⟩
    rintro ⟨-, -, -, applied, raised⟩
    cases raised
  exact (checkpoint_survives_restarts point world unreceipted begun steady).2 .healthy none _ _ 1 rfl

set_option maxRecDepth 2000 in
/-- A commit that only the memory knew is lost with the process once the ref has advanced to it. -/
theorem unrecorded_commit_lost : point.Begun world ∧
    (point.recovering .healthy none (runFrom point.step world unrecorded).restart).1 =
      .ok workspace ∧
    ¬ point.Completes 1 (unrecorded.scanl point.step world) (recovered unrecorded) := by
  refine ⟨begun, rfl, ?_⟩
  rintro ⟨receipt, oid, last, ran, -⟩
  have refused : (checkpoint point.setup .healthy 1 point.request (recovered unrecorded)).1 =
      .ok (.rejection (failed false false)) := rfl
  rw [ran] at refused
  cases refused

end SampleCheckpoint

end CodeMigrator
