import CodeMigrator.Lib.Sequence
import CodeMigrator.Runtime.ProjectExecution

/-!
# The phases of a project migration

A report says `COMPLETED` when no error is recorded and no file has failed. A run that passes
through `EXECUTE` leaves no file pending, and one that passes through `VERIFY` leaves checks
beside an empty list of errors; here each phase is shown to keep what the phases before it have
established, down to the report.
-/

namespace CodeMigrator
open Lib

namespace ProjectMigrationRunner
open Lib.Process

/-- Every file has succeeded. -/
def Succeeded (files : List FileState) : Prop := ∀ item ∈ files, item.status = .succeeded

/-- Every file has its target. -/
def Present (target : Option FileTree) (files : List FileState) : Prop :=
  ∀ item ∈ files, target.any (fun tree => (tree.files.get? item.targetPath).isSome) = true

/-- A check has passed. -/
def Passed (checks : List VerificationCheck) (action : String) : Prop :=
  ∃ check ∈ checks, check.action = action ∧ check.status = "PASSED"

/-- The checks that a state owes have passed. -/
def Checked (state : MigrationState) : Prop :=
  Passed state.checks "COMPILE" ∧
    (hasTests state.files = true → Passed state.checks "TEST")

/-- What `COMPLETED` is to mean of the checkpoint and the target beside a report. -/
def Complete (checkpoint : Option MigrationState) (target : Option FileTree) : Prop :=
  ∃ state, checkpoint = some state ∧ Succeeded state.files ∧ Present target state.files ∧
    Checked state

/-- Unless an error is recorded that no later phase takes back, no file is pending. -/
def Covered (state : MigrationState) : Prop :=
  (∀ error ∈ state.errors, clearable error = true) →
    ∀ item ∈ state.files, item.status ≠ .pending

/-- A checkpoint that has been verified or reported: its files have succeeded unless an error is
recorded that verification does not take back, and without errors its checks have passed. -/
def Settled (state : MigrationState) : Prop :=
  state.phase = .verify ∨ state.phase = .report →
    ((∀ error ∈ state.errors, clearable error = true) →
      Succeeded state.files) ∧ (state.errors = [] → Checked state)

/-- What lasts of a world is sound: its checkpoint is settled, and the reports told so far were
true. -/
structure Sound (world : ProjectWorld) : Prop where
  settled : ∀ state, world.checkpoint = some state → Settled state
  reports : ∀ report checkpoint tree, .reported report checkpoint tree ∈ world.history →
    report.status = .completed → Complete checkpoint (some tree)

/-- A world in which a report may be written. -/
structure Reportable (world : ProjectWorld) : Prop where
  succeeded : (∀ error ∈ world.state.errors, clearable error = true) →
    Succeeded world.state.files
  done : world.state.errors = [] → Checked world.state ∧ Present world.target world.state.files

variable {tools : RunnerTools} {world : ProjectWorld}
  {verificationRunner : Option (FileTree → Except Raised VerificationResult)}
  {start : ProjectMigrationPhase}

/-! ## Small facts -/

theorem safeError_sticky (raised : Raised) : clearable raised.safeError = false := by
  cases raised <;> decide

theorem fileFailureError_sticky : clearable fileFailureError = false := by decide

theorem succeeded_of_covered {state : MigrationState} (covered : Covered state)
    (failed : state.failedFiles = [])
    (clear : ∀ error ∈ state.errors, clearable error = true) : Succeeded state.files := by
  intro item member
  have notPending := covered clear item member
  have notFailed : item.status ≠ .failed := by
    intro status
    simp only [MigrationState.failedFiles, List.map_eq_nil_iff, List.filter_eq_nil_iff] at failed
    exact failed item member (by simpa using status)
  cases status : item.status with
  | succeeded => rfl
  | pending => exact absurd status notPending
  | failed => exact absurd status notFailed

theorem settled_of_phase {state : MigrationState} (verify : state.phase ≠ .verify)
    (report : state.phase ≠ .report) : Settled state := by
  rintro (phase | phase)
  · exact absurd phase verify
  · exact absurd phase report

theorem Present.after_write {tree : FileTree} {files : List FileState}
    (present : Present (some tree) files) (path : String) (content : ByteArray) (fault : IoFault) :
    Present (some (tree.writeAtomic path content fault).1) files := by
  intro item member
  obtain ⟨data, found⟩ := Option.isSome_iff_exists.mp (present item member)
  obtain ⟨kept, still⟩ := writeAtomic_present path content fault found
  exact Option.isSome_iff_exists.mpr ⟨kept, still⟩

/-! ## What keeps a world sound -/

theorem Sound.of_same {other : ProjectWorld} (sound : Sound world)
    (checkpoint : other.checkpoint = world.checkpoint) (history : other.history = world.history) :
    Sound other := by
  constructor
  · rw [checkpoint]
    exact sound.settled
  · rw [history]
    exact sound.reports

theorem Sound.tell {other : ProjectWorld} {events : List ProjectEvent} (sound : Sound world)
    (checkpoint : other.checkpoint = world.checkpoint) (history : other.history = world.history ++ events)
    (quiet : ∀ report state tree, ProjectEvent.reported report state tree ∉ events) : Sound other := by
  constructor
  · rw [checkpoint]
    exact sound.settled
  · intro report state tree member
    rw [history, List.mem_append] at member
    rcases member with before | new
    · exact sound.reports report state tree before
    · exact absurd new (quiet report state tree)

theorem Sound.save (sound : Sound world) (settled : Settled world.state) :
    Sound { world with checkpoint := some world.state } := by
  constructor
  · intro state same
    obtain rfl := Option.some.inj same
    exact settled
  · exact sound.reports

theorem save_sound (sound : Sound world) (settled : Settled world.state) :
    writeState.After (.keeping Sound (fun _ reached => ∃ rest, reached =
      { world with weather := rest, checkpoint := some world.state })) world :=
  writeState_keeping (fun _ => sound.of_same rfl rfl)
    (fun _ => (sound.save settled).of_same rfl rfl) (fun rest => ⟨rest, rfl⟩)

theorem told_subset {event other : ProjectEvent} {fault : IoFault} {outcome : Except PathError Unit}
    (member : other ∈ told event fault outcome) : other = event := by
  unfold told at member
  split at member
  · simpa using member
  · split at member
    · simpa using member
    · cases member
  · cases member

theorem carried_sound (contents : Dict String ByteArray)
    (translator : Option (String → String → Except Raised TranslationResult)) :
    Carried tools contents translator [] (fun world => Sound world ∧ world.state.phase = .execute) where
  since := fun _ _ => List.nil_prefix
  weather := fun _ _ kept => ⟨kept.1.of_same rfl rfl, kept.2⟩
  turns := fun _ _ kept => ⟨kept.1.of_same rfl rfl, kept.2⟩
  setFile := fun _ _ _ _ kept => ⟨kept.1.of_same rfl rfl, kept.2⟩
  marked := fun _ _ _ _ _ _ kept => ⟨kept.1.of_same rfl rfl, kept.2⟩
  saved := by
    intro world kept
    refine ⟨kept.1.save (settled_of_phase ?_ ?_), kept.2⟩
    · simp [kept.2]
    · simp [kept.2]
  written := by
    intro world tree item content fault _ _ _ kept
    refine ⟨kept.1.tell rfl rfl ?_, kept.2⟩
    intro report state target member
    cases told_subset member

/-! ## Verification -/

/-- Whether a file is what it was, but for its target hash. -/
structure Rehashed (item after : FileState) : Prop where
  identity : after.identity = item.identity
  status : after.status = item.status

theorem Rehashed.refl (item : FileState) : Rehashed item item := ⟨rfl, rfl⟩

theorem compileFiles_facts (tree : FileTree) (files : List FileState) :
    List.Forall₂ Rehashed files (compileFiles tools tree files).1 ∧
      ((compileFiles tools tree files).2 = .passed → ∀ item ∈ (compileFiles tools tree files).1,
        item.status = .succeeded → (tree.files.get? item.targetPath).isSome = true) := by
  induction files with
  | nil => exact ⟨.nil, fun _ _ none_ => absurd none_ List.not_mem_nil⟩
  | cons item items ih =>
    have rest : List.Forall₂ Rehashed items items := List.forall₂_same.mpr (fun item _ => .refl item)
    obtain ⟨same, read⟩ := ih
    unfold compileFiles
    split
    · next open_ =>
      refine ⟨.cons (.refl item) same, ?_⟩
      intro passed other member succeeded
      rcases List.mem_cons.mp member with rfl | later
      · exact absurd succeeded open_
      · exact read passed other later succeeded
    split
    · exact ⟨.cons (.refl item) rest, fun passed => by cases passed⟩
    next content found =>
    split
    · refine ⟨.cons ⟨rfl, rfl⟩ same, ?_⟩
      intro passed other member succeeded
      rcases List.mem_cons.mp member with rfl | later
      · exact Option.isSome_iff_exists.mpr ⟨content, FileTree.readAll_ok found⟩
      · exact read passed other later succeeded
    · exact ⟨.cons ⟨rfl, rfl⟩ rest, fun passed => by cases passed⟩

theorem Rehashed.succeeded {files after : List FileState} (same : List.Forall₂ Rehashed files after)
    (succeeded : Succeeded files) : Succeeded after := by
  intro item member
  obtain ⟨old, was, rehashed⟩ := forall₂_origin same member
  rw [rehashed.status]
  exact succeeded old was

theorem Rehashed.hasTests {files after : List FileState} (same : List.Forall₂ Rehashed files after) :
    hasTests after = ProjectMigrationRunner.hasTests files := by
  induction same with
  | nil => rfl
  | cons first _ ih =>
    have path := congrArg FileIdentity.sourcePath first.identity
    simp only [FileState.identity] at path
    simp only [ProjectMigrationRunner.hasTests, List.any_cons, path] at ih ⊢
    rw [ih]

/-- What the verification of a target leaves of a state. -/
structure Verified (tree : FileTree) (state after : MigrationState) : Prop where
  phase : after.phase = .verify
  files : List.Forall₂ Rehashed state.files after.files
  errors : ∀ error ∈ state.errors, error ∈ after.errors
  clean : after.errors = [] → Checked after ∧ ∀ item ∈ after.files, item.status = .succeeded →
    (tree.files.get? item.targetPath).isSome = true

theorem testCheck_silent {tree : FileTree} {check : VerificationCheck}
    (done : testCheck tools verificationRunner tree = .ok (check, none)) :
    check.action = "TEST" ∧ check.status = "PASSED" := by
  unfold testCheck at done
  split at done
  · cases done
  split at done
  · split at done
    · cases done
    · cases done
  obtain ⟨rfl, quiet⟩ := Prod.mk.inj (Except.ok.inj done)
  refine ⟨rfl, ?_⟩
  by_contra notPassed
  rw [if_neg notPassed] at quiet
  split at quiet
  · cases quiet
  split at quiet
  · cases quiet
  · cases quiet

theorem verifyTarget_facts {tree : FileTree} {state after : MigrationState}
    (done : verifyTarget tools verificationRunner tree state = .ok after) :
    Verified tree state after := by
  obtain ⟨same, read⟩ := @compileFiles_facts tools tree state.files
  unfold verifyTarget at done
  generalize compileFiles tools tree state.files = compiled at done same read
  rcases compiled with ⟨files, outcome⟩
  cases outcome with
  | missing path =>
    obtain rfl := Except.ok.inj done
    exact ⟨rfl, same, fun error member => by simp [member], fun none_ => by simp at none_⟩
  | broken =>
    obtain rfl := Except.ok.inj done
    exact ⟨rfl, same, fun error member => by simp [member], fun none_ => by simp at none_⟩
  | passed =>
    have compiled : Passed [⟨"COMPILE", "PASSED", some 0, noOutput tools⟩] "COMPILE" :=
      ⟨_, List.mem_singleton_self _, rfl, rfl⟩
    simp only at done
    split at done
    · cases outcome : testCheck tools verificationRunner tree with
      | error raised =>
        rw [outcome] at done
        cases done
      | ok result =>
        rw [outcome] at done
        obtain rfl := Except.ok.inj done
        refine ⟨rfl, same, fun error member => by simp [member], ?_⟩
        intro none_
        rcases result with ⟨check, error⟩
        simp only [List.append_eq_nil_iff, Option.toList_eq_nil_iff] at none_
        obtain ⟨-, rfl⟩ := none_
        refine ⟨⟨⟨_, List.mem_cons_self, rfl, rfl⟩, ?_⟩, read rfl⟩
        intro _
        exact ⟨check, by simp, testCheck_silent outcome⟩
    · next none_ =>
      obtain rfl := Except.ok.inj done
      refine ⟨rfl, same, fun error member => member, ?_⟩
      intro _
      refine ⟨⟨compiled, ?_⟩, read rfl⟩
      intro tests
      rw [Rehashed.hasTests same] at tests
      exact absurd tests none_

theorem Reportable.settled (reportable : Reportable world) : Settled world.state :=
  fun _ => ⟨reportable.succeeded, fun none_ => (reportable.done none_).1⟩

theorem reportable_of_sticky {error : String} (member : error ∈ world.state.errors)
    (sticky : clearable error = false) : Reportable world where
  succeeded := by
    intro clear
    rw [clear error member] at sticky
    cases sticky
  done := by
    intro none_
    rw [none_] at member
    cases member

/-- The state with which verification starts. -/
def cleared (state : MigrationState) : MigrationState :=
  { state with checks := [], errors := state.errors.filter (fun error => !clearable error) }

theorem runVerify_keeping (verificationRunner : Option (FileTree → Except Raised VerificationResult))
    (sound : Sound world) (covered : Covered world.state) (failed : world.state.failedFiles = []) :
    (runVerify tools verificationRunner).After (.keeping Sound (fun _ => Reportable)) world := by
  have saved : ∀ reached, Sound reached → Reportable reached →
      writeState.After (.keeping Sound (fun _ => Reportable)) reached := by
    intro reached sound reportable
    refine keeping_weaken (save_sound sound reportable.settled) ?_
    rintro _ _ - ⟨rest, rfl⟩
    exact ⟨reportable.succeeded, reportable.done⟩
  unfold runVerify
  refine keeping_bind (m := fun _ reached => reached = { world with state := cleared world.state })
    (keeping_change (sound.of_same rfl rfl) rfl) ?_
  rintro _ _ sound rfl
  refine keeping_bind (m := fun seen reached => seen = reached ∧
    reached = { world with state := cleared world.state }) (keeping_ask sound ⟨rfl, rfl⟩) ?_
  rintro _ _ sound ⟨rfl, rfl⟩
  split
  · refine keeping_bind (m := fun _ => Reportable) (keeping_change (sound.of_same rfl rfl) ?_) ?_
    · exact reportable_of_sticky (List.mem_append_right _ (List.mem_singleton_self _)) (by decide)
    · exact fun _ reached sound reportable => saved reached sound reportable
  next tree target =>
  refine keeping_bind (m := fun state reached =>
    reached = { world with state := cleared world.state } ∧
      verifyTarget tools verificationRunner tree (cleared world.state) = .ok state)
    (keeping_ofExcept sound (fun _ same => ⟨rfl, same⟩)) ?_
  rintro state _ sound ⟨rfl, done⟩
  have verified := verifyTarget_facts done
  refine keeping_bind (m := fun _ => Reportable) (keeping_change ?_ ?_) ?_
  · refine sound.tell rfl rfl ?_
    intro report checkpoint other member
    simp at member
  · have succeeded : (∀ error ∈ state.errors, clearable error = true) → Succeeded state.files := by
      intro clear
      refine @Rehashed.succeeded world.state.files _ verified.files
        (succeeded_of_covered covered failed ?_)
      intro error member
      by_contra sticky
      -- what verification keeps, it does not take back
      have kept := verified.errors error (List.mem_filter.mpr ⟨member, by simpa using sticky⟩)
      exact sticky (clear error kept)
    refine ⟨succeeded, ?_⟩
    intro none_
    obtain ⟨checked, present⟩ := verified.clean none_
    refine ⟨checked, ?_⟩
    have all := succeeded (by rw [none_]; simp)
    change Present world.target state.files
    rw [show world.target = some tree from target]
    exact fun item member => present item member (all item member)
  · exact fun _ reached sound reportable => saved reached sound reportable

/-! ## Reports -/

/-- A report beside its checkpoint. -/
structure Reported (world : ProjectWorld) : Prop where
  checkpoint : world.checkpoint = some world.state
  phase : world.state.phase = .report
  reportable : Reportable world

theorem Reported.complete (reported : Reported world) (clean : world.state.errors = []) :
    Complete world.checkpoint world.target := by
  obtain ⟨checked, present⟩ := reported.reportable.done clean
  refine ⟨world.state, reported.checkpoint, ?_, present, checked⟩
  exact reported.reportable.succeeded (by rw [clean]; simp)

theorem runReport_keeping (sound : Sound world) (reportable : Reportable world) :
    (runReport tools).After (.keeping Sound (fun _ => Reported)) world := by
  have atReport : Reportable { world with state := { world.state with phase := .report } } :=
    ⟨reportable.succeeded, reportable.done⟩
  unfold runReport
  refine keeping_bind (m := fun _ reached => reached =
    { world with state := { world.state with phase := .report } })
    (keeping_change (sound.of_same rfl rfl) rfl) ?_
  rintro _ _ sound rfl
  refine keeping_bind (save_sound sound atReport.settled) ?_
  rintro _ _ sound ⟨rest, rfl⟩
  refine keeping_bind (m := fun report reached => reached = _ ∧ report = targetReport reached.state)
    (keeping_ask sound ⟨rfl, rfl⟩) ?_
  rintro _ _ sound ⟨rfl, rfl⟩
  have present : ∀ {target : Option FileTree} {files : List FileState}, Present target files →
      Present (some (target.getD ⟨.empty, ∅⟩)) files := by
    intro target files present item member
    cases target with
    | none => cases present item member
    | some tree => exact present item member
  refine keeping_bind (m := fun _ reached => Reported reached ∧
      reached.state = { world.state with phase := .report })
    (makeTarget_keeping (fun _ => sound.of_same rfl rfl) (fun _ => sound.of_same rfl rfl) ?_) ?_
  · exact fun _ => ⟨⟨rfl, rfl, atReport.succeeded,
      fun none_ => ⟨(atReport.done none_).1, present (atReport.done none_).2⟩⟩, rfl⟩
  rintro _ reached sound ⟨reported, state⟩
  refine writeTarget_keeping (fun _ => sound.of_same rfl rfl) ?_
  intro rest fault tree target
  have still : ∀ content, reached.state.errors = [] → Present
      (some (tree.writeAtomic "codemigrator-report.json" content fault).1) reached.state.files := by
    intro content none_
    have present := (reported.reportable.done none_).2
    rw [target] at present
    exact present.after_write _ _ _
  refine ⟨⟨sound.settled, ?_⟩, ?_⟩
  · intro report checkpoint other member completed
    rcases List.mem_append.mp member with before | new
    · exact sound.reports report checkpoint other before completed
    -- the report that is told here stands beside the state that was just saved
    obtain ⟨rfl, rfl, rfl⟩ := ProjectEvent.reported.inj (told_subset new)
    have clean : reached.state.errors = [] := by
      rw [state]
      simp only [targetReport, reportOn] at completed
      split at completed
      · next both => exact both.1
      · cases completed
    refine ⟨reached.state, reported.checkpoint, ?_, still _ clean, (reported.reportable.done clean).1⟩
    exact reported.reportable.succeeded (by rw [clean]; simp)
  · intro _
    exact ⟨reported.checkpoint, reported.phase, reported.reportable.succeeded,
      fun none_ => ⟨(reported.reportable.done none_).1, still _ none_⟩⟩

/-- What a returned report is to be worth. -/
def Worth (report : ProjectMigrationReport) (world : ProjectWorld) : Prop :=
  report.status = .completed → Complete world.checkpoint world.target

theorem publishReport_keeping (request : ProjectMigrationRequest) (sound : Sound world)
    (reported : Reported world) : (publishReport request).After (.keeping Sound Worth) world := by
  unfold publishReport
  refine keeping_bind (m := fun status reached =>
    status = publishedStatus world.state ∧ reached = world) (keeping_ask sound ⟨rfl, rfl⟩) ?_
  rintro _ here sound ⟨rfl, rfl⟩
  refine keeping_bind (m := fun _ reached =>
    reached.checkpoint = here.checkpoint ∧ reached.target = here.target)
    (keeping_change (sound.of_same rfl rfl) ⟨rfl, rfl⟩) ?_
  rintro _ reached sound ⟨checkpoint, target⟩
  refine keeping_bind (m := fun _ after => after = reached) (keeping_ask sound rfl) ?_
  rintro state _ sound rfl
  refine keeping_pure sound ?_
  intro completed
  have clean : here.state.errors = [] := by
    simp only [reportOn, publishedStatus] at completed
    split at completed
    · next both => exact both.2
    · cases completed
  rw [checkpoint, target]
  exact reported.complete clean

/-! ## The phases -/

/-- What a run that starts at a phase finds done. -/
structure Prepared (start : ProjectMigrationPhase) (world : ProjectWorld) : Prop where
  covered : ProjectMigrationPhase.execute.index < start.index → Covered world.state
  done : ProjectMigrationPhase.verify.index < start.index → world.state.errors = [] →
    world.state.failedFiles = [] → Checked world.state ∧ Present world.target world.state.files

theorem prepared_of_early (world : ProjectWorld)
    (early : start.index ≤ ProjectMigrationPhase.execute.index) : Prepared start world where
  covered := fun later => absurd later (by omega)
  done := by
    intro later
    have : ProjectMigrationPhase.execute.index < ProjectMigrationPhase.verify.index := by decide
    omega

theorem upTo_keeping {inv : ProjectWorld → Prop} {done : Unit → ProjectWorld → Prop}
    {phase : ProjectMigrationPhase} {body : Migration Unit} (kept : inv world)
    (runs : start.index ≤ phase.index → body.After (.keeping inv done) world)
    (skips : phase.index < start.index → done () world) :
    (upTo start phase body).After (.keeping inv done) world := by
  unfold upTo
  split
  · next early => exact runs early
  · exact keeping_pure kept (skips (by omega))

theorem index_le_report (start : ProjectMigrationPhase) :
    start.index ≤ ProjectMigrationPhase.report.index := by
  cases start <;> decide

theorem savePhase_sound {update : MigrationState → MigrationState} (sound : Sound world)
    (verify : (update world.state).phase ≠ .verify) (report : (update world.state).phase ≠ .report) :
    (setState update >>= fun _ => writeState).After (.keeping Sound (fun _ _ => True)) world := by
  refine keeping_bind (m := fun _ reached => reached.state = update world.state)
    (keeping_change (sound.of_same rfl rfl) rfl) ?_
  intro _ reached sound same
  refine keeping_weaken (save_sound sound ?_) (fun _ _ _ _ => trivial)
  rw [same]
  exact settled_of_phase verify report

theorem runAnalysis_keeping (snapshot : SourceSnapshot) (sound : Sound world) :
    (runAnalysis tools snapshot).After (.keeping Sound (fun _ _ => True)) world := by
  unfold runAnalysis
  refine keeping_bind (m := fun _ _ => True) (keeping_ask sound trivial) ?_
  intro _ reached sound _
  split
  · exact keeping_pure sound trivial
  refine keeping_bind (m := fun _ _ => True) (keeping_ofExcept sound (fun _ _ => trivial)) ?_
  intro _ reached sound _
  exact savePhase_sound sound (by simp) (by simp)

theorem runPlan_keeping (sound : Sound world) :
    runPlan.After (.keeping Sound (fun _ _ => True)) world := by
  unfold runPlan
  refine keeping_bind (m := fun _ _ => True) (keeping_ask sound trivial) ?_
  intro _ reached sound _
  split
  · exact keeping_pure sound trivial
  split
  · exact keeping_raise sound
  · exact savePhase_sound sound (by simp) (by simp)

/-- After `EXECUTE` no file is pending unless an error is recorded. -/
theorem runExecute_sound (contents : Dict String ByteArray)
    (translator : Option (String → String → Except Raised TranslationResult)) (maxParallelism : Int)
    (sound : Sound world) :
    (runExecute tools contents translator maxParallelism).After
      (.keeping Sound (fun _ reached => Covered reached.state)) world := by
  refine keeping_weaken (runExecute_keeping (carried_sound contents translator) maxParallelism
    (fun _ => sound.of_same rfl rfl) (fun _ => sound.of_same rfl rfl)
    (fun _ => ⟨sound.of_same rfl rfl, rfl⟩) (fun _ kept => kept.1) sound) ?_
  rintro _ reached - ⟨-, notPending⟩
  exact fun _ => notPending

/-- The phases from a start that the world is prepared for. -/
theorem runPhases_keeping (request : ProjectMigrationRequest) (snapshot : SourceSnapshot)
    (start : ProjectMigrationPhase) (sound : Sound world) (prepared : Prepared start world) :
    (runPhases tools request snapshot start).After (.keeping Sound Worth) world := by
  unfold runPhases
  refine keeping_bind (m := fun _ => Prepared start) (upTo_keeping sound ?_ (fun _ => prepared)) ?_
  · intro early
    exact keeping_weaken (runAnalysis_keeping snapshot sound)
      (fun _ reached _ _ => prepared_of_early reached (early.trans (by decide)))
  intro _ _ sound prepared
  refine keeping_bind (m := fun _ => Prepared start) (upTo_keeping sound ?_ (fun _ => prepared)) ?_
  · intro early
    exact keeping_weaken (runPlan_keeping sound)
      (fun _ reached _ _ => prepared_of_early reached (early.trans (by decide)))
  intro _ _ sound prepared
  refine keeping_bind (m := fun _ reached => Covered reached.state ∧ Prepared start reached)
    (upTo_keeping sound ?_ (fun late => ⟨prepared.covered late, prepared⟩)) ?_
  · intro early
    exact keeping_weaken (runExecute_sound _ _ _ sound)
      (fun _ reached _ covered => ⟨covered, prepared_of_early reached early⟩)
  rintro _ world sound ⟨covered, prepared⟩
  refine keeping_bind (m := fun failed reached => failed = world.state.failedFiles ∧ reached = world)
    (keeping_ask sound ⟨rfl, rfl⟩) ?_
  rintro _ here sound ⟨rfl, rfl⟩
  -- either way a report is due
  have due : ∀ reached, Sound reached → Reportable reached →
      (runReport tools >>= fun _ => publishReport request).After (.keeping Sound Worth) reached := by
    intro reached sound reportable
    exact keeping_bind (runReport_keeping sound reportable)
      (fun _ after sound reported => publishReport_keeping request sound reported)
  split
  · refine keeping_bind (m := fun _ => Reportable) (keeping_change (sound.of_same rfl rfl) ?_)
      (fun _ reached sound reportable => due reached sound reportable)
    refine @reportable_of_sticky _ fileFailureError ?_ fileFailureError_sticky
    change fileFailureError ∈ (if _ then _ else _ : MigrationState).errors
    split
    · next member => exact member
    · exact List.mem_append_right _ (List.mem_singleton_self _)
  · next none_ =>
    have failed : here.state.failedFiles = [] := by simpa using none_
    rw [show upTo start .report (runReport tools) = runReport tools from if_pos (index_le_report start)]
    refine keeping_bind (m := fun _ => Reportable) (upTo_keeping sound ?_ ?_)
      (fun _ reached sound reportable => due reached sound reportable)
    · exact fun _ => runVerify_keeping request.verificationRunner sound covered failed
    · intro late
      exact ⟨succeeded_of_covered covered failed, fun clean => prepared.done late clean failed⟩

end ProjectMigrationRunner

end CodeMigrator
