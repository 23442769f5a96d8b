import CodeMigrator.Runtime.ProjectPhases

/-!
# Invariants of a project migration

What has to be shown of a property of worlds so that a whole run keeps it, whatever its phases,
its errors and its end: that it survives each of the few things that a run does to a world.
-/

namespace CodeMigrator
open Lib

namespace ProjectMigrationRunner
open Lib.Process

/-- A property that survives what a run does besides executing and verifying. -/
structure Kept (tools : RunnerTools) (inv : ProjectWorld → Prop) : Prop where
  weather : ∀ world rest, inv world → inv { world with weather := rest }
  state : ∀ world state, List.Forall₂ Unmarked world.state.files state.files → inv world →
    inv { world with state := state }
  saved : ∀ world, inv world → inv { world with checkpoint := some world.state }
  made : ∀ world, inv world → inv { world with target := some (world.target.getD ⟨.empty, ∅⟩) }
  reported : ∀ world tree report fault, world.target = some tree → inv world →
    let written := tree.writeAtomic "codemigrator-report.json" (tools.json report) fault
    inv { world with
      target := some written.1
      history := world.history ++
        told (.reported report world.checkpoint written.1) fault written.2 }

/-- A property that survives whatever a run does. -/
structure Upheld (tools : RunnerTools) (contents : Dict String ByteArray)
    (translator : Option (String → String → Except Raised TranslationResult))
    (base : List ProjectEvent) (inv : ProjectWorld → Prop) : Prop extends
    Kept tools inv, Carried tools contents translator base inv where
  setFile := fun world _ _ unmarked holds => state world _ (unmarked_modify unmarked) holds
  verified : ∀ world tree checks, inv world →
    inv { world with history := world.history ++ [.verified tree checks] }

variable {tools : RunnerTools} {contents : Dict String ByteArray}
  {translator : Option (String → String → Except Raised TranslationResult)} {base : List ProjectEvent}
  {inv : ProjectWorld → Prop} {world : ProjectWorld} {request : ProjectMigrationRequest}

/-! ## The functions of a run -/

theorem unmarked_of_eq {files after : List FileState} (same : after = files) :
    List.Forall₂ Unmarked files after := by
  rw [same]
  exact List.forall₂_same.mpr (fun item _ => .refl item)

theorem Kept.setState (kept : Kept tools inv) {update : MigrationState → MigrationState}
    (same : (update world.state).files = world.state.files) (holds : inv world) :
    (setState update).After (.keeping inv (fun _ _ => True)) world :=
  keeping_change (kept.state world _ (unmarked_of_eq same) holds) trivial

theorem Kept.writeState (kept : Kept tools inv) (holds : inv world) :
    writeState.After (.keeping inv (fun _ reached => reached.checkpoint.isSome = true)) world :=
  writeState_keeping (fun rest => kept.weather world rest holds)
    (fun rest => kept.saved _ (kept.weather world rest holds)) (fun _ => rfl)

theorem Kept.makeTarget (kept : Kept tools inv) (holds : inv world) :
    makeTarget.After (.keeping inv (fun _ _ => True)) world :=
  makeTarget_keeping (fun rest => kept.weather world rest holds)
    (fun rest => kept.made _ (kept.weather world rest holds)) (fun _ => trivial)

theorem keeping_then {α β : Type} {first : Migration α} {next : α → Migration β}
    {m : α → ProjectWorld → Prop} (before : first.After (.keeping inv m) world)
    (after : ∀ value world, inv world → (next value).After (.keeping inv (fun _ _ => True)) world) :
    (first >>= next).After (.keeping inv (fun _ _ => True)) world :=
  keeping_bind before (fun value world holds _ => after value world holds)

theorem Kept.runReport (kept : Kept tools inv) (holds : inv world) :
    (runReport tools).After (.keeping inv (fun _ _ => True)) world := by
  unfold ProjectMigrationRunner.runReport
  refine keeping_then (kept.setState rfl holds) ?_
  intro _ _ holds
  refine keeping_then (kept.writeState holds) ?_
  intro _ _ holds
  refine keeping_then (m := fun _ _ => True) (keeping_ask holds trivial) ?_
  intro report _ holds
  refine keeping_then (kept.makeTarget holds) ?_
  intro _ world holds
  refine writeTarget_keeping (fun rest => kept.weather world rest holds) ?_
  intro rest fault tree target
  exact ⟨kept.reported { world with weather := rest } tree report fault target
    (kept.weather world rest holds), fun _ => trivial⟩

theorem Kept.publishReport (kept : Kept tools inv) (request : ProjectMigrationRequest)
    (holds : inv world) : (publishReport request).After (.keeping inv (fun _ _ => True)) world := by
  unfold ProjectMigrationRunner.publishReport
  refine keeping_then (m := fun _ _ => True) (keeping_ask holds trivial) ?_
  intro status _ holds
  refine keeping_then (kept.setState ?_ holds) ?_
  · split
    · rfl
    · rfl
  intro _ _ holds
  refine keeping_then (m := fun _ _ => True) (keeping_ask holds trivial) ?_
  exact fun _ _ holds => keeping_pure holds trivial

theorem Kept.conclude (kept : Kept tools inv) (request : ProjectMigrationRequest) (holds : inv world) :
    (ProjectMigrationRunner.runReport tools >>= fun _ =>
      ProjectMigrationRunner.publishReport request).After (.keeping inv (fun _ _ => True)) world :=
  keeping_then (kept.runReport holds) (fun _ _ holds => kept.publishReport request holds)

theorem Upheld.runAnalysis (upheld : Upheld tools contents translator base inv) (snapshot : SourceSnapshot)
    (holds : inv world) :
    (runAnalysis tools snapshot).After (.keeping inv (fun _ _ => True)) world := by
  unfold ProjectMigrationRunner.runAnalysis
  refine keeping_then (m := fun _ _ => True) (keeping_ask holds trivial) ?_
  intro _ _ holds
  split
  · exact keeping_pure holds trivial
  refine keeping_then (m := fun _ _ => True) (keeping_ofExcept holds (fun _ _ => trivial)) ?_
  intro _ _ holds
  refine keeping_then (upheld.setState rfl holds) ?_
  exact fun _ _ holds => keeping_weaken (upheld.writeState holds) (fun _ _ _ _ => trivial)

theorem Upheld.runPlan (upheld : Upheld tools contents translator base inv) (holds : inv world) :
    runPlan.After (.keeping inv (fun _ _ => True)) world := by
  unfold ProjectMigrationRunner.runPlan
  refine keeping_then (m := fun _ _ => True) (keeping_ask holds trivial) ?_
  intro _ _ holds
  split
  · exact keeping_pure holds trivial
  split
  · exact keeping_raise holds
  refine keeping_then (upheld.setState rfl holds) ?_
  exact fun _ _ holds => keeping_weaken (upheld.writeState holds) (fun _ _ _ _ => trivial)

theorem Upheld.runExecute (upheld : Upheld tools contents translator base inv) (maxParallelism : Int)
    (holds : inv world) :
    (runExecute tools contents translator maxParallelism).After (.keeping inv (fun _ _ => True)) world := by
  refine keeping_weaken (runExecute_keeping upheld.toCarried maxParallelism
    (fun rest => upheld.weather world rest holds)
    (fun rest => upheld.made _ (upheld.weather world rest holds)) ?_ (fun _ holds => holds) holds)
    (fun _ _ _ _ => trivial)
  intro rest
  have made := upheld.made _ (upheld.weather world rest holds)
  exact upheld.state { world with weather := rest, target := some (world.target.getD ⟨.empty, ∅⟩) }
    (executing world.state) (unmarked_of_eq rfl) made

theorem Rehashed.unmarked {files after : List FileState} (same : List.Forall₂ Rehashed files after) :
    List.Forall₂ Unmarked files after :=
  same.imp (fun _ _ rehashed => ⟨rehashed.identity, fun succeeded => rehashed.status ▸ succeeded⟩)

theorem Upheld.runVerify (upheld : Upheld tools contents translator base inv)
    (verificationRunner : Option (FileTree → Except Raised VerificationResult)) (holds : inv world) :
    (runVerify tools verificationRunner).After (.keeping inv (fun _ _ => True)) world := by
  unfold ProjectMigrationRunner.runVerify
  refine keeping_then (upheld.setState rfl holds) ?_
  intro _ world holds
  refine keeping_bind (m := fun seen reached => seen = reached) (keeping_ask holds rfl) ?_
  rintro world _ holds rfl
  split
  · refine keeping_then (upheld.setState rfl holds) ?_
    exact fun _ _ holds => keeping_weaken (upheld.writeState holds) (fun _ _ _ _ => trivial)
  next tree target =>
  refine keeping_bind (m := fun state reached => reached = world ∧
    verifyTarget tools verificationRunner tree world.state = .ok state)
    (keeping_ofExcept holds (fun _ same => ⟨rfl, same⟩)) ?_
  rintro state _ holds ⟨rfl, done⟩
  refine keeping_then (m := fun _ _ => True) (keeping_change ?_ trivial) ?_
  · exact upheld.verified _ tree state.checks
      (upheld.state _ state (Rehashed.unmarked (verifyTarget_facts done).files) holds)
  · exact fun _ _ holds => keeping_weaken (upheld.writeState holds) (fun _ _ _ _ => trivial)

theorem upTo_upheld {start phase : ProjectMigrationPhase} {body : Migration Unit} (holds : inv world)
    (runs : body.After (.keeping inv (fun _ _ => True)) world) :
    (upTo start phase body).After (.keeping inv (fun _ _ => True)) world :=
  upTo_keeping holds (fun _ => runs) (fun _ => trivial)

/-- The phases of a run keep what is upheld. -/
theorem Upheld.runPhases {snapshot : SourceSnapshot}
    (upheld : Upheld tools snapshot.contents request.translator base inv)
    (start : ProjectMigrationPhase) (holds : inv world) :
    (runPhases tools request snapshot start).After (.keeping inv (fun _ _ => True)) world := by
  unfold ProjectMigrationRunner.runPhases
  refine keeping_then (upTo_upheld holds (upheld.runAnalysis snapshot holds)) ?_
  intro _ _ holds
  refine keeping_then (upTo_upheld holds (upheld.runPlan holds)) ?_
  intro _ _ holds
  refine keeping_then (upTo_upheld holds (upheld.runExecute _ holds)) ?_
  intro _ _ holds
  refine keeping_then (m := fun _ _ => True) (keeping_ask holds trivial) ?_
  intro _ world holds
  split
  · refine keeping_then (upheld.setState ?_ holds) (fun _ _ holds => upheld.conclude request holds)
    split
    · rfl
    · rfl
  · refine keeping_then (upTo_upheld holds (upheld.runVerify request.verificationRunner holds)) ?_
    intro _ _ holds
    exact keeping_then (upTo_upheld holds (upheld.runReport holds))
      (fun _ _ holds => upheld.publishReport request holds)

theorem runLoaded_upheld {snapshot : SourceSnapshot} (kept : Kept tools inv)
    (upheld : Upheld tools snapshot.contents request.translator base
      (fun world => inv world ∧ world.checkpoint.isSome = true))
    (resumed : request.resume = true → world.checkpoint.isSome = true) (holds : inv world) :
    (runLoaded tools request snapshot).After (.keeping inv (fun _ _ => True)) world := by
  refine keeping_catching ?_ ?_
  · refine keeping_bind (m := fun _ reached => reached.checkpoint.isSome = true) ?_ ?_
    · split
      · next resume => exact keeping_pure holds (resumed resume)
      · exact keeping_bind (kept.setState rfl holds) (fun _ _ holds _ => kept.writeState holds)
    intro _ _ holds there
    refine keeping_bind (m := fun _ reached => reached.checkpoint.isSome = true)
      (keeping_ask holds there) ?_
    intro state _ holds there
    refine keeping_bind (m := fun _ reached => reached.checkpoint.isSome = true)
      (keeping_ofExcept holds (fun _ _ => there)) ?_
    intro _ _ holds there
    refine keeping_bind (m := fun _ reached => reached.checkpoint.isSome = true)
      (keeping_ofExcept holds (fun _ _ => there)) ?_
    intro start world holds there
    refine (upheld.runPhases start ⟨holds, there⟩).weaken ⟨?_, ?_, ?_⟩
    · exact fun _ _ both => ⟨both.1.1, trivial⟩
    · exact fun _ _ both => both.1
    · exact fun _ both => both.1
  · intro raised _ holds
    split
    · refine keeping_then (kept.setState rfl holds) ?_
      intro _ _ holds
      exact keeping_then (kept.writeState holds) (fun _ _ holds => kept.conclude request holds)
    · exact keeping_raise holds

/-- A run keeps what loading gives and the phases keep. -/
theorem run_keeping_of {done : ProjectMigrationReport → ProjectWorld → Prop} (here : inv world)
    (refused : ∀ report : ProjectMigrationReport, report.status = .failed → done report world)
    (loaded : request.source.holdsStateDir = false → ∀ snapshot state,
      preflight request.source = .ok snapshot →
      loadOrInitialize tools request.resume request.fromPhase snapshot world.checkpoint world.target =
        .ok state →
      let reached := { world with
        state := state
        history := world.history ++ adoptions tools request.resume world.checkpoint world.target }
      inv reached ∧ (runLoaded tools request snapshot).After (.keeping inv done) reached) :
    (run tools request).After (.keeping inv done) world := by
  unfold run
  split
  · exact keeping_pure here (refused _ rfl)
  next apart =>
  split
  · exact keeping_pure here (refused _ rfl)
  next snapshot walked =>
  refine keeping_bind (m := fun seen reached => seen = world ∧ reached = world)
    (keeping_ask here ⟨rfl, rfl⟩) ?_
  rintro _ there holds ⟨rfl, rfl⟩
  split
  · exact keeping_pure holds (refused _ rfl)
  next state found =>
  obtain ⟨starts, runs⟩ := loaded (by simpa using apart) snapshot state walked found
  refine keeping_bind (m := fun _ reached => reached = _) (keeping_change starts rfl) ?_
  rintro _ _ - rfl
  exact runs

end ProjectMigrationRunner

end CodeMigrator
