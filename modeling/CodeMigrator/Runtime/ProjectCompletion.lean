import CodeMigrator.Lib.Transition
import CodeMigrator.Runtime.ProjectInvariants

/-!
# What a completed migration says

A resumed run that skips `EXECUTE` or `VERIFY` takes over what it finds in its checkpoint. Where
it finds enough, over any invocations on one state directory, every `COMPLETED` report stands
beside a checkpoint whose files have all succeeded, are present and have been checked.
-/

namespace CodeMigrator
open Lib

namespace ProjectMigrationRunner
open Lib.Process

variable {tools : RunnerTools} {world : ProjectWorld} {request : ProjectMigrationRequest}
  {state : MigrationState}

/-! ## Loading -/

/-- What an invocation that skips phases has to find in the checkpoint, once the files in place
are adopted. -/
def Ready (tools : RunnerTools) (fromPhase : Option String) (checkpoint : MigrationState)
    (target : Option FileTree) : Prop :=
  let state := adoptValidTargetFiles tools.toMigrationTools checkpoint target
  (fromPhase = some "VERIFY" ∨ fromPhase = some "REPORT" → Covered state) ∧
    (fromPhase = some "REPORT" → state.errors = [] → state.failedFiles = [] →
      Checked state ∧ Present target state.files)

theorem adoptFile_status (tree : FileTree) (item : FileState) :
    (adoptFile tools.toMigrationTools tree item).status = .succeeded ∨
      adoptFile tools.toMigrationTools tree item = item := by
  unfold adoptFile
  split
  · exact .inl rfl
  · exact .inr rfl

theorem adoptFile_sourcePath (tree : FileTree) (item : FileState) :
    (adoptFile tools.toMigrationTools tree item).sourcePath = item.sourcePath := by
  unfold adoptFile
  split
  · rfl
  · rfl

theorem hasTests_map {files : List FileState} {update : FileState → FileState}
    (same : ∀ item, (update item).sourcePath = item.sourcePath) :
    hasTests (files.map update) = hasTests files := by
  simp only [hasTests, List.any_map, Function.comp_def, same]

theorem Settled.adopt {state : MigrationState} (settled : Settled state) (target : Option FileTree) :
    Settled (adoptValidTargetFiles tools.toMigrationTools state target) := by
  cases target with
  | none => exact settled
  | some tree =>
    intro phase
    obtain ⟨succeeded, checked⟩ := settled phase
    refine ⟨?_, ?_⟩
    · intro clear item member
      obtain ⟨old, was, rfl⟩ := List.mem_map.mp member
      rcases adoptFile_status tree old with adopted | same
      · exact adopted
      · rw [same]
        exact succeeded clear old was
    · intro clean
      refine ⟨(checked clean).1, ?_⟩
      intro tests
      refine (checked clean).2 ?_
      rw [← tests]
      exact (hasTests_map (adoptFile_sourcePath tree)).symm

theorem reconcile_kept {state : MigrationState} {target : Option FileTree}
    (kept : (reconcileTargetFiles tools.toMigrationTools state target).phase ≠ .execute) :
    (reconcileTargetFiles tools.toMigrationTools state target = state) ∧
      ∀ item ∈ state.files, item.status = .succeeded →
        target.any (fun tree => (tree.files.get? item.targetPath).isSome) = true := by
  cases target with
  | none =>
    simp only [reconcileTargetFiles] at kept ⊢
    split at kept
    · exact absurd rfl kept
    next none_ =>
    rw [if_neg none_]
    have open_ : ∀ item ∈ state.files, item.status ≠ .succeeded := by
      intro item member succeeded
      refine none_ (List.any_eq_true.mpr ⟨resetFile item, ?_, by simp [resetFile]⟩)
      exact List.mem_map.mpr ⟨item, member, if_pos succeeded⟩
    refine ⟨?_, fun item member succeeded => absurd succeeded (open_ item member)⟩
    have same : state.files.map (fun item => if item.status = .succeeded then resetFile item else item) =
        state.files := by
      refine (List.map_congr_left ?_).trans (List.map_id' _)
      exact fun item member => if_neg (open_ item member)
    rw [same]
  | some tree =>
    simp only [reconcileTargetFiles] at kept ⊢
    split at kept
    · exact absurd rfl kept
    next none_ =>
    rw [if_neg none_]
    have fresh : ∀ item ∈ state.files, stale tools.toMigrationTools tree item = false := by
      simpa using none_
    have same : state.files.map (fun item =>
        if stale tools.toMigrationTools tree item then resetFile item else item) = state.files := by
      refine (List.map_congr_left ?_).trans (List.map_id' _)
      exact fun item member => if_neg (by simp [fresh item member])
    rw [same]
    refine ⟨rfl, ?_⟩
    intro item member succeeded
    have read := fresh item member
    simp only [stale, succeeded, decide_true, Bool.true_and] at read
    split at read
    · cases read
    · next content found =>
      exact Option.isSome_iff_exists.mpr ⟨content, FileTree.readAll_ok found⟩

theorem startPhase_fromPhase {start : ProjectMigrationPhase} {text : String}
    (from_ : request.fromPhase = some text) (started : startPhase request state = .ok start) :
    start.text = text := by
  unfold startPhase at started
  rw [from_] at started
  simp only at started
  split at started
  · cases started
  split at started
  · next phase found =>
    obtain rfl := Except.ok.inj started
    simpa using List.find?_some found
  · cases started

theorem behind_execute {phase : ProjectMigrationPhase}
    (late : ProjectMigrationPhase.execute.index < phase.index) : phase = .verify ∨ phase = .report := by
  revert late
  cases phase <;> decide

theorem behind_verify {phase : ProjectMigrationPhase}
    (late : ProjectMigrationPhase.verify.index < phase.index) : phase = .report := by
  revert late
  cases phase <;> decide

theorem startPhase_resume {start : ProjectMigrationPhase} (none_ : request.fromPhase = none)
    (resume : request.resume = true) (started : startPhase request state = .ok start)
    (late : ProjectMigrationPhase.execute.index < start.index) :
    (state.phase = .verify ∨ state.phase = .report) ∧
      (ProjectMigrationPhase.verify.index < start.index → state.phase = .report) := by
  unfold startPhase at started
  rw [none_, resume] at started
  simp only [not_true_eq_false, if_false] at started
  split at started
  · next atReport =>
    exact ⟨.inr atReport.1, fun _ => atReport.1⟩
  · obtain rfl := Except.ok.inj started
    exact ⟨behind_execute late, behind_verify⟩

/-- What a resumed run loads is its checkpoint with the files in place adopted, and reconciled
when the run names no phase. -/
theorem loadOrInitialize_resume {fromPhase : Option String} {snapshot : SourceSnapshot}
    {checkpoint : Option MigrationState} {target : Option FileTree}
    (loaded : loadOrInitialize tools true fromPhase snapshot checkpoint target = .ok state) :
    ∃ stored, checkpoint = some stored ∧ resumable tools snapshot stored = .ok () ∧
      state = if fromPhase = none then
        reconcileTargetFiles tools.toMigrationTools
          (adoptValidTargetFiles tools.toMigrationTools stored target) target
        else adoptValidTargetFiles tools.toMigrationTools stored target := by
  unfold loadOrInitialize at loaded
  rw [if_pos rfl] at loaded
  split at loaded
  · cases loaded
  next stored =>
  obtain ⟨_, accepted, loaded⟩ := except_bind_eq_ok loaded
  exact ⟨stored, rfl, accepted, (Except.ok.inj loaded).symm⟩

theorem load_prepared {snapshot : SourceSnapshot} {start : ProjectMigrationPhase}
    {after : ProjectWorld} (sound : Sound world)
    (ready : ∀ stored, world.checkpoint = some stored → resumable tools snapshot stored = .ok () →
      Ready tools request.fromPhase stored world.target) (resume : request.resume = true)
    (loaded : loadOrInitialize tools true request.fromPhase snapshot world.checkpoint world.target =
      .ok state) (state_ : after.state = state) (target : after.target = world.target)
    (started : startPhase request state = .ok start) : Prepared start after := by
  obtain ⟨stored, found, accepted, rfl⟩ := loadOrInitialize_resume loaded
  have settled := @Settled.adopt tools _ (sound.settled stored found) world.target
  obtain ⟨covered, done⟩ := ready stored found accepted
  cases from_ : request.fromPhase with
  | some text =>
    rw [from_, if_neg (by simp)] at started state_
    rw [from_] at covered done
    have named := startPhase_fromPhase from_ started
    constructor
    · intro late
      rw [state_]
      refine covered ?_
      rcases behind_execute late with rfl | rfl
      · exact .inl (by rw [← named]; rfl)
      · exact .inr (by rw [← named]; rfl)
    · intro late
      rw [state_, target]
      refine done ?_
      obtain rfl := behind_verify late
      rw [← named]
      rfl
  | none =>
    rw [from_, if_pos rfl] at started state_
    -- a run that starts behind `EXECUTE` was not sent back by the reconciliation
    have late_facts : ProjectMigrationPhase.execute.index < start.index → _ :=
      startPhase_resume from_ resume started
    have kept : ProjectMigrationPhase.execute.index < start.index → _ := fun late =>
      @reconcile_kept tools (adoptValidTargetFiles tools.toMigrationTools stored world.target)
        world.target (by
          obtain ⟨phase, -⟩ := late_facts late
          rcases phase with phase | phase
          · simp [phase]
          · simp [phase])
    have succeeded : ProjectMigrationPhase.execute.index < start.index → _ := fun late =>
      settled (by
        have phase := (late_facts late).1
        rwa [(kept late).1] at phase)
    constructor
    · intro late clear item member
      rw [state_, (kept late).1] at clear member
      rw [(succeeded late).1 clear item member]
      decide
    · intro later clean _
      have late : ProjectMigrationPhase.execute.index < start.index :=
        lt_trans (by decide) later
      rw [state_, (kept late).1] at clean ⊢
      rw [target]
      refine ⟨(succeeded late).2 clean, ?_⟩
      intro item member
      refine (kept late).2 item member ((succeeded late).1 ?_ item member)
      rw [clean]
      simp

/-! ## The run -/

theorem runLoaded_keeping (request : ProjectMigrationRequest) (snapshot : SourceSnapshot)
    (sound : Sound world)
    (prepared : request.resume = true → ∀ start, startPhase request world.state = .ok start →
      Prepared start world) :
    (runLoaded tools request snapshot).After (.keeping Sound Worth) world := by
  refine keeping_catching ?_ ?_
  · refine keeping_bind (m := fun _ reached =>
      ∀ start, startPhase request reached.state = .ok start → Prepared start reached) ?_ ?_
    · split
      · next resume => exact keeping_pure sound (prepared resume)
      · next fresh =>
        refine keeping_weaken (savePhase_sound sound (by simp) (by simp)) ?_
        intro _ reached _ _ start started
        refine prepared_of_early reached ?_
        unfold startPhase at started
        split at started
        · rw [if_pos fresh] at started
          cases started
        · rw [if_pos fresh] at started
          obtain rfl := Except.ok.inj started
          decide
    intro _ reached sound prepared
    refine keeping_bind (m := fun state after => state = reached.state ∧ after = reached)
      (keeping_ask sound ⟨rfl, rfl⟩) ?_
    rintro _ here sound ⟨rfl, rfl⟩
    refine keeping_bind (m := fun _ after => after = here) (keeping_ofExcept sound (fun _ _ => rfl)) ?_
    rintro _ _ sound rfl
    refine keeping_bind (m := fun start => Prepared start)
      (keeping_ofExcept sound (fun start started => prepared start started)) ?_
    exact fun start after sound prepared => runPhases_keeping request snapshot start sound prepared
  · intro raised reached sound
    split
    · refine keeping_bind (m := fun _ => Reportable) (keeping_change (sound.of_same rfl rfl) ?_) ?_
      · exact reportable_of_sticky (List.mem_append_right _ (List.mem_singleton_self _))
          (safeError_sticky raised)
      intro _ _ sound reportable
      refine keeping_bind (m := fun _ => Reportable) ?_ ?_
      · refine keeping_weaken (save_sound sound reportable.settled) ?_
        rintro _ _ - ⟨rest, rfl⟩
        exact ⟨reportable.succeeded, reportable.done⟩
      intro _ _ sound reportable
      exact keeping_bind (runReport_keeping sound reportable)
        (fun _ after sound reported => publishReport_keeping request sound reported)
    · exact keeping_raise sound

/-- An invocation that finds what it skips keeps its world sound, and its report is worth what
it says. -/
theorem run_keeping (request : ProjectMigrationRequest) (sound : Sound world)
    (ready : request.resume = true → ∀ snapshot stored, preflight request.source = .ok snapshot →
      world.checkpoint = some stored → resumable tools snapshot stored = .ok () →
      Ready tools request.fromPhase stored world.target) :
    (run tools request).After (.keeping Sound Worth) world := by
  refine run_keeping_of sound ?_ ?_
  · intro report failed completed
    rw [failed] at completed
    cases completed
  intro _ snapshot state walked loaded
  have soundReached : Sound { world with
      state := state
      history := world.history ++ adoptions tools request.resume world.checkpoint world.target } := by
    refine sound.tell rfl rfl ?_
    intro report checkpoint tree member
    unfold adoptions at member
    split at member
    · obtain ⟨item, -, some_⟩ := List.mem_filterMap.mp member
      obtain ⟨content, -, same⟩ := Option.map_eq_some_iff.mp some_
      cases same
    · cases member
  refine ⟨soundReached, runLoaded_keeping request snapshot soundReached ?_⟩
  intro resume start started
  rw [resume] at loaded
  exact load_prepared sound (fun stored => ready resume snapshot stored walked) resume loaded rfl rfl
    started

/-! ## Runs on a state directory -/

/-- What happens to a state directory and a target: an invocation with its weather and the
turns of its workers, or a change of the target from outside. -/
inductive ProjectStep where
  | invoke (request : ProjectMigrationRequest) (weather : List Weather) (turns : List Nat)
  | change (target : Option FileTree)

/-- The world an invocation starts in: nothing but its disk lasts. -/
def invoked (world : ProjectWorld) (weather : List Weather) (turns : List Nat) : ProjectWorld :=
  { world with weather := weather, turns := turns }

/-- The world after a step. -/
def step (tools : RunnerTools) (world : ProjectWorld) : ProjectStep → ProjectWorld
  | .invoke request weather turns => (run tools request (invoked world weather turns)).2
  | .change target => { world with target := target }

/-- The report that a step returns. -/
def returned (tools : RunnerTools) (world : ProjectWorld) : ProjectStep → Option ProjectMigrationReport
  | .invoke request weather turns => (run tools request (invoked world weather turns)).1.toOption
  | .change _ => none

/-- A resumption that skips `EXECUTE` finds nothing pending, unless an error stays, and one that
skips `VERIFY` as well finds checks and targets, unless it has something else to report. -/
def SkipsOnlyDone (tools : RunnerTools) (world : ProjectWorld) : ProjectStep → Prop
  | .invoke request _ _ => request.resume = true → ∀ snapshot stored,
      preflight request.source = .ok snapshot → world.checkpoint = some stored →
      resumable tools snapshot stored = .ok () → Ready tools request.fromPhase stored world.target
  | .change _ => True

/-- Every `COMPLETED` report of a step, returned or written to the target, is one of a complete
migration. -/
def Honest (tools : RunnerTools) (world : ProjectWorld) (input : ProjectStep) : Prop :=
  (∀ report, returned tools world input = some report → report.status = .completed →
    Complete (step tools world input).checkpoint (step tools world input).target) ∧
  ∀ report checkpoint tree, .reported report checkpoint tree ∈ (step tools world input).history →
    report.status = .completed → Complete checkpoint (some tree)

theorem step_honest (sound : Sound world) {input : ProjectStep}
    (skips : SkipsOnlyDone tools world input) :
    Sound (step tools world input) ∧ Honest tools world input := by
  cases input with
  | change target =>
    have kept : Sound (step tools world (.change target)) := sound.of_same rfl rfl
    refine ⟨kept, ?_, kept.reports⟩
    intro report none_
    cases none_
  | invoke request weather turns =>
    have ended := @run_keeping tools (invoked world weather turns) request (sound.of_same rfl rfl) skips
    have both : Sound (run tools request (invoked world weather turns)).2 ∧
        ∀ report, (run tools request (invoked world weather turns)).1 = .ok report →
          Worth report (run tools request (invoked world weather turns)).2 := by
      unfold After at ended
      generalize run tools request (invoked world weather turns) = outcome at ended
      rcases outcome with ⟨(⟨error⟩ | _) | report, reached⟩
      · exact ⟨ended, fun _ same => by cases same⟩
      · exact ⟨ended, fun _ same => by cases same⟩
      · refine ⟨ended.1, ?_⟩
        intro other same
        obtain rfl := Except.ok.inj same
        exact ended.2
    refine ⟨both.1, ?_, both.1.reports⟩
    intro report came completed
    refine both.2 report ?_ completed
    unfold returned at came
    simp only at came
    cases result : (run tools request (invoked world weather turns)).1 with
    | error stop =>
      rw [result] at came
      cases came
    | ok other =>
      rw [result] at came
      exact congrArg _ (Option.some.inj came)

/-- A state directory before its first run. -/
structure Untouched (world : ProjectWorld) : Prop where
  checkpoint : world.checkpoint = none
  history : world.history = []

theorem Untouched.sound (untouched : Untouched world) : Sound world where
  settled := by
    intro state same
    rw [untouched.checkpoint] at same
    cases same
  reports := by
    intro report checkpoint tree member
    rw [untouched.history] at member
    cases member

/-- Over any invocations on one state directory, fresh, failed, interrupted or resumed, with any
changes of the target between them, in which every resumption that skips phases finds their
work done, every `COMPLETED` report is one of a complete migration. -/
theorem completed_reports_complete (tools : RunnerTools) (start : ProjectWorld)
    (untouched : Untouched start) (inputs : List ProjectStep)
    (skips : Along (step tools) (SkipsOnlyDone tools) start inputs) :
    Along (step tools) (Honest tools) start inputs := by
  exact along_of_along Sound (fun _ _ sound first => (step_honest sound first).1)
    (fun _ _ sound first => (step_honest sound first).2) untouched.sound skips

instance (state : MigrationState) : Decidable (Covered state) := inferInstanceAs (Decidable (_ → _))

instance (checks : List VerificationCheck) (action : String) : Decidable (Passed checks action) :=
  inferInstanceAs (Decidable (∃ check ∈ checks, _))

instance (state : MigrationState) : Decidable (Checked state) := inferInstanceAs (Decidable (_ ∧ _))

instance (target : Option FileTree) (files : List FileState) : Decidable (Present target files) :=
  inferInstanceAs (Decidable (∀ item ∈ files, _))

instance (fromPhase : Option String) (checkpoint : MigrationState) (target : Option FileTree) :
    Decidable (Ready tools fromPhase checkpoint target) := inferInstanceAs (Decidable (_ ∧ _))

end ProjectMigrationRunner

namespace SampleProject
open ProjectMigrationRunner

/-- The digests of the contents below. -/
def sha256 (content : ByteArray) : Sha256 :=
  if content.data = #[110, 111, 116, 101, 115, 10] then
    ⟨"444e0fffbd825e9610ff5b199485707a0c895339ae80c15cc8a8aee41b106fda", by decide⟩
  else .ofNothing

/-- A source directory with one file, which is copied. -/
def source : SourceDirectory :=
  ⟨true, false, false, [("notes.txt", .file ⟨#[110, 111, 116, 101, 115, 10]⟩)]⟩

def tools : RunnerTools :=
  { sha256 := sha256
    parses := fun _ => true
    digestContents := fun _ =>
      ⟨"a251a3e0df258f8a606a14987db1bd4fb869b94d2c08d8d29d9079392849af86", by decide⟩
    descriptorDigest := sha256 .empty
    analyze := fun _ => .ok (.ofPairs [("capability", .str "TEXT_FALLBACK")])
    json := fun report => ⟨#[if report.status = .completed then 67 else 70]⟩ }

/-- Before the first run. -/
def start : ProjectWorld :=
  { target := none
    checkpoint := none
    state := freshState tools ⟨.empty, []⟩
    weather := []
    turns := []
    history := [] }

def fresh : ProjectMigrationRequest :=
  { source := source
    target := "target"
    stateDir := "state"
    resume := false
    fromPhase := none
    translator := none
    verificationRunner := none
    maxParallelism := 1 }

def resumption (fromPhase : Option String) : ProjectMigrationRequest :=
  { fresh with resume := true, fromPhase := fromPhase }

/-- The process dies after its first write, which is that of `state.json`. -/
def interrupted : ProjectStep := .invoke fresh [⟨.none, true⟩] []

def resumed (fromPhase : Option String) : ProjectStep := .invoke (resumption fromPhase) [] []

/-- The first run dies before its analysis; the resumption that only reports says `COMPLETED` of
a file that was never written, and no check was made. -/
theorem unexecuted_report_completes :
    ¬ ∀ inputs, Along (ProjectMigrationRunner.step tools) (Honest tools) start inputs := by
  intro always
  obtain ⟨-, ⟨honest, -⟩, -⟩ := always [interrupted, resumed (some "REPORT")]
  have status : (returned tools (ProjectMigrationRunner.step tools start interrupted)
      (resumed (some "REPORT"))).map
      (·.status) = some .completed := by decide
  obtain ⟨report, came, completed⟩ := Option.map_eq_some_iff.mp status
  obtain ⟨state, saved, succeeded, -⟩ := honest report came completed
  have pending : (ProjectMigrationRunner.step tools
      (ProjectMigrationRunner.step tools start interrupted) (resumed (some "REPORT"))).checkpoint.map
      (fun state => state.files.map (·.status)) = some [.pending] := by decide
  rw [saved] at pending
  have files : state.files.map (·.status) = [.pending] := Option.some.inj pending
  obtain ⟨item, member, isPending⟩ : ∃ item ∈ state.files, item.status = .pending := by
    have first : FileStatus.pending ∈ state.files.map (·.status) := by
      rw [files]
      exact List.mem_singleton_self _
    simpa using first
  rw [succeeded item member] at isPending
  cases isPending

/-- The interrupted run is resumed, verified again and reported again. -/
theorem completed_reports_complete_resumed :
    Along (ProjectMigrationRunner.step tools) (Honest tools) start
      [interrupted, resumed none, resumed (some "VERIFY"), resumed (some "REPORT")] := by
  have skips : ∀ {world : ProjectWorld} {fromPhase : Option String},
      (∀ stored ∈ world.checkpoint, Ready tools fromPhase stored world.target) →
      SkipsOnlyDone tools world (resumed fromPhase) :=
    fun ready _ _ stored _ found _ => ready stored found
  refine completed_reports_complete tools start ⟨rfl, rfl⟩ _ ⟨?_, skips ?_, skips ?_, skips ?_, trivial⟩
  · exact fun resume => by cases resume
  · decide
  · decide
  · decide

end SampleProject

end CodeMigrator
