import CodeMigrator.Workspace.Rebuilds

/-!
# What a failed `provision` leaves

The calls of `WorkspaceManager.provision` may all raise. What it has made before its guarded
section (the directory with its files) stays when one of them does, and the guarded section takes
back what it can.
-/

namespace CodeMigrator
open Lib

/-- Fates of calls that run or raise, with or without their effect. -/
def ManagerFates.raising (faults : ManagerCall → Option Bool) : ManagerFates := fun call =>
  match faults call with
  | none => .runs
  | some applied => .raises applied

namespace WorkspaceManager
open Lib.Process

/-- Nothing is there of the generation: no directory, record, handle and ledger. -/
structure Absent (path : WorkspacePath) (manager : WorkspaceManager) : Prop where
  directory : manager.directories.get? path = none
  record : manager.records.get? path = none
  handle : manager.handles.get? path = none
  operations : manager.operations.get? path = none

/-- When `provision` raises it leaves nothing of the generation, and provisioning the generation
again succeeds for files that can be written. -/
def AllOrNothing (faults : ManagerCall → Option Bool) (path : WorkspacePath) (baseVerifiedOid : String)
    (files : Dict String ByteArray) (candidateOid : Option String) (manager : WorkspaceManager) :
    Prop :=
  ∀ error after, provision (.raising faults) path baseVerifiedOid files candidateOid manager =
      (.error (.raised error), after) →
    Absent path after ∧
      ∀ base valid oid, Writable valid → ∃ workspace later,
        provision .healthy path base valid oid after = (.ok workspace, later)

/-- The calls of the guarded section succeed, or its cleanup does: the directory is removed and no
record stays. -/
def GuardHolds (faults : ManagerCall → Option Bool) (path : WorkspacePath)
    (manager : WorkspaceManager) : Prop :=
  faults .createVolume = none ∧ faults .saveState = none ∨
    faults .undoDirectory = none ∧
      (faults .undoState ≠ some false ∨
        manager.records.get? path = none ∧
          (faults .createVolume = none → faults .saveState ≠ some true))

/-- Whether `provision` is all or nothing: there is no workspace yet, and either the directory is
not made and nothing else is there of the generation, or all files can be written and the root is
opened, and the guarded section holds. -/
def ProvisionSafe (faults : ManagerCall → Option Bool) (path : WorkspacePath)
    (files : Dict String ByteArray) (manager : WorkspaceManager) : Prop :=
  manager.directories.get? path = none ∧
    match faults .makeDirectory with
    | some applied => applied = false ∧ Absent path manager
    | none =>
      (Writable files ∧ ∀ entry ∈ files.entries, faults (.writeFile entry.1) = none) ∧
        faults .openRoot = none ∧ GuardHolds faults path manager

variable {faults : ManagerCall → Option Bool} {path : WorkspacePath} {manager : WorkspaceManager}
  {α : Type}

theorem meeting_raising (call : ManagerCall) (error : ManagerError) (body : Managing α)
    (manager : WorkspaceManager) :
    meeting (ManagerFates.raising faults call) error body manager =
      match faults call with
      | none => body manager
      | some applied =>
        (.error (.raised error), if applied then (body manager).2 else manager) := by
  unfold ManagerFates.raising meeting
  cases faults call with
  | none => rfl
  | some applied => rfl

theorem meeting_run {call : ManagerCall} (runs : faults call = none) (error : ManagerError)
    (body : Managing α) (manager : WorkspaceManager) :
    meeting (ManagerFates.raising faults call) error body manager = body manager := by
  rw [meeting_raising, runs]

theorem meeting_raise {call : ManagerCall} {applied : Bool} (raises : faults call = some applied)
    (error : ManagerError) (body : Managing α) (manager : WorkspaceManager) :
    meeting (ManagerFates.raising faults call) error body manager =
      (.error (.raised error), if applied then (body manager).2 else manager) := by
  rw [meeting_raising, raises]

/-! ## The files -/

theorem writeFile_raising (faults : ManagerCall → Option Bool) {tree : LinkedTree} (present : manager.directories.get? path = some tree)
    (entry : String × ByteArray) :
    (((validateRelativePath entry.1 = true ∧ blocked tree entry.1 = false) ∧
        faults (.writeFile entry.1) = none) ∧
      writeFile (.raising faults) path entry manager =
        (.ok (), manager.setDirectory path (tree.set entry.1 (.file entry.2)))) ∨
    (¬ ((validateRelativePath entry.1 = true ∧ blocked tree entry.1 = false) ∧
        faults (.writeFile entry.1) = none) ∧
      ∃ error after, writeFile (.raising faults) path entry manager =
          (.error (.raised error), after) ∧ after.directories.get? path ≠ none) := by
  by_cases invalid : validateRelativePath entry.1 = false
  · refine .inr ⟨fun good => by simp [invalid] at good, .value, manager, ?_, by simp [present]⟩
    rw [writeFile, if_pos invalid]
    rfl
  have started : writeFile (.raising faults) path entry manager =
      (if blocked tree entry.1 then raise .port
      else meeting (ManagerFates.raising faults (.writeFile entry.1)) .port
        (change (setDirectory path (tree.set entry.1 (.file entry.2))))) manager := by
    rw [writeFile, if_neg invalid, ask_bind, present, Option.getD_some]
  by_cases isBlocked : blocked tree entry.1 = true
  · refine .inr ⟨fun good => by simp [isBlocked] at good, .port, manager, ?_, by simp [present]⟩
    rw [started, if_pos isBlocked]
    rfl
  rw [if_neg isBlocked] at started
  cases fault : faults (.writeFile entry.1) with
  | none =>
    refine .inl ⟨⟨⟨by simpa using invalid, by simpa using isBlocked⟩, rfl⟩, ?_⟩
    rw [started, meeting_run fault]
    rfl
  | some applied =>
    refine .inr ⟨fun good => by simp at good, .port, _, started.trans (meeting_raise fault _ _ _), ?_⟩
    cases applied
    · simp [present]
    · simp [change, setDirectory]

theorem writeFiles_raising (faults : ManagerCall → Option Bool) {tree : LinkedTree} {entries : List (String × ByteArray)}
    (present : manager.directories.get? path = some tree) :
    ((Admits tree entries ∧ ∀ entry ∈ entries, faults (.writeFile entry.1) = none) ∧
      ∃ directories, each (writeFile (.raising faults) path) entries manager =
          (.ok (), { manager with directories := directories }) ∧ directories.get? path ≠ none) ∨
    (¬ (Admits tree entries ∧ ∀ entry ∈ entries, faults (.writeFile entry.1) = none) ∧
      ∃ error after, each (writeFile (.raising faults) path) entries manager =
          (.error (.raised error), after) ∧ after.directories.get? path ≠ none) := by
  induction entries generalizing manager tree with
  | nil => exact .inl ⟨⟨trivial, by simp⟩, manager.directories, rfl, by simp [present]⟩
  | cons entry entries ih =>
    rw [each_cons]
    rcases writeFile_raising faults present entry with
      ⟨⟨good, runs⟩, wrote⟩ | ⟨bad, error, after, failed, stays⟩
    · have now : (manager.setDirectory path (tree.set entry.1 (.file entry.2))).directories.get?
          path = some (tree.set entry.1 (.file entry.2)) := by
        simp [setDirectory]
      rw [bind_of_ok wrote]
      rcases ih now with ⟨⟨admitted, others⟩, directories, ran, stays⟩ |
        ⟨refused, error, after, failed, stays⟩
      · refine .inl ⟨⟨⟨good, admitted⟩, ?_⟩, directories, ran, stays⟩
        intro other member
        rcases List.mem_cons.mp member with rfl | later
        · exact runs
        · exact others other later
      · refine .inr ⟨fun all => refused ⟨all.1.2, ?_⟩, error, after, failed, stays⟩
        exact fun other later => all.2 other (List.mem_cons_of_mem _ later)
    · refine .inr ⟨fun all => bad ⟨all.1.1, all.2 entry List.mem_cons_self⟩, error, after,
        bind_of_error failed, stays⟩

/-! ## The guarded section -/

theorem undo_raising (faults : ManagerCall → Option Bool) {workspace : WorkspaceHandle} (managed : manager.handles.get? path = some workspace)
    (error : ManagerError) :
    ∃ reason after, (undoProvision (.raising faults) path >>= fun _ =>
        (raise error : Managing Unit)) manager = (.error (.raised reason), after) ∧
      (Absent path after ↔ faults .undoDirectory = none ∧
        (faults .undoState ≠ some false ∨ manager.records.get? path = none)) := by
  have volume : catching (meeting (ManagerFates.raising faults .undoVolume) ManagerError.port (pure ()))
      (fun _ => pure ()) manager = (.ok (), manager) := by
    unfold catching
    rw [meeting_raising]
    cases faults .undoVolume with
    | none => rfl
    | some applied => cases applied <;> rfl
  have begun : undoProvision (.raising faults) path manager =
      (meeting (ManagerFates.raising faults .undoDirectory) .port (change (removeDirectory path)) >>=
        fun _ => change (forget path) >>= fun _ =>
          meeting (ManagerFates.raising faults .undoState) .port (change (deleteRecord path))) manager := by
    rw [undoProvision, bind_of_ok volume]
  cases directory : faults .undoDirectory with
  | some applied =>
    refine ⟨_, _, bind_of_error (begun.trans (bind_of_error (meeting_raise directory _ _ _))), fun absent => ?_, fun clean => by simp at clean⟩
    have gone := absent.handle
    cases applied
    · exact absurd (managed.symm.trans gone) (by simp)
    · exact absurd (managed.symm.trans gone) (by simp)
  | none =>
    have removed : undoProvision (.raising faults) path manager =
        meeting (ManagerFates.raising faults .undoState) .port (change (deleteRecord path))
          (forget path (removeDirectory path manager)) := by
      have went : meeting (ManagerFates.raising faults .undoDirectory) ManagerError.port
          (change (removeDirectory path)) manager = (.ok (), removeDirectory path manager) :=
        meeting_run directory _ _ _
      rw [begun, bind_of_ok went, change_bind]
    cases state : faults .undoState with
    | none =>
      have ran := removed.trans (meeting_run state _ _ _)
      refine ⟨error, _, bind_of_ok ran, fun _ => ⟨rfl, .inl (by simp)⟩, fun _ => ?_⟩
      constructor
      all_goals simp [deleteRecord, forget, removeDirectory, Dict.get?_erase]
    | some applied =>
      refine ⟨_, _, bind_of_error (removed.trans (meeting_raise state _ _ _)), ?_⟩
      cases applied
      · simp only [ne_eq, not_true_eq_false, false_or, true_and]
        refine ⟨fun absent => absent.record, fun none => ?_⟩
        constructor
        · simp [forget, removeDirectory, Dict.get?_erase]
        · exact none
        · simp [forget, removeDirectory, Dict.get?_erase]
        · simp [forget, removeDirectory, Dict.get?_erase]
      · refine ⟨fun _ => ⟨rfl, .inl (by simp)⟩, fun _ => ?_⟩
        constructor
        all_goals simp [change, deleteRecord, forget, removeDirectory, Dict.get?_erase]

theorem guarded_raising (faults : ManagerCall → Option Bool) {workspace : WorkspaceHandle} (place : workspace.path = path)
    (managed : manager.handles.get? path = some workspace) :
    let guarded := catching
      (meeting (ManagerFates.raising faults .createVolume) .port (pure ()) >>= fun _ =>
        persist (ManagerFates.raising faults .saveState) workspace)
      (fun error => undoProvision (.raising faults) path >>= fun _ => raise error) >>= fun _ =>
      pure workspace
    (∃ after, guarded manager = (.ok workspace, after) ∧ GuardHolds faults path manager) ∨
      ∃ reason after, guarded manager = (.error (.raised reason), after) ∧
        (Absent path after ↔ GuardHolds faults path manager) := by
  intro guarded
  cases volume : faults .createVolume with
  | some applied =>
    have raised : (meeting (ManagerFates.raising faults .createVolume) .port (pure ()) >>= fun _ =>
        persist (ManagerFates.raising faults .saveState) workspace) manager =
        (.error (.raised .port), manager) := by
      rw [bind_of_error (meeting_raise volume _ _ _)]
      cases applied <;> rfl
    obtain ⟨reason, after, undone, absent⟩ := undo_raising faults managed .port
    refine .inr ⟨reason, after, bind_of_error ?_, absent.trans ?_⟩
    · unfold catching
      rw [raised]
      exact undone
    · simp [GuardHolds, volume]
  | none =>
    have persisted : (meeting (ManagerFates.raising faults .createVolume) .port (pure ()) >>= fun _ =>
        persist (ManagerFates.raising faults .saveState) workspace) manager =
        persist (ManagerFates.raising faults .saveState) workspace manager :=
      bind_of_ok (meeting_run volume _ _ _)
    cases saved : faults .saveState with
    | none =>
      refine .inl ⟨manager.storeRecord ⟨workspace, manager.ledger workspace.path⟩, ?_,
        .inl ⟨volume, saved⟩⟩
      have ran : catching
          (meeting (ManagerFates.raising faults .createVolume) .port (pure ()) >>= fun _ =>
            persist (ManagerFates.raising faults .saveState) workspace)
          (fun error => undoProvision (.raising faults) path >>= fun _ => raise error) manager =
          (.ok (), manager.storeRecord ⟨workspace, manager.ledger workspace.path⟩) := by
        unfold catching
        rw [persisted, persist, meeting_run saved]
        rfl
      exact bind_of_ok ran
    | some applied =>
      have raised : (meeting (ManagerFates.raising faults .createVolume) .port (pure ()) >>= fun _ =>
          persist (ManagerFates.raising faults .saveState) workspace) manager =
          (.error (.raised .port), if applied then
            manager.storeRecord ⟨workspace, manager.ledger workspace.path⟩ else manager) :=
        persisted.trans (meeting_raise saved _ _ _)
      have held : (if applied then manager.storeRecord ⟨workspace, manager.ledger workspace.path⟩
          else manager).handles.get? path = some workspace := by
        cases applied
        · exact managed
        · exact managed
      obtain ⟨reason, after, undone, absent⟩ := undo_raising faults held .port
      refine .inr ⟨reason, after, bind_of_error ?_, absent.trans ?_⟩
      · unfold catching
        rw [raised]
        exact undone
      · cases applied
        · simp [GuardHolds, volume, saved]
        · simp [GuardHolds, volume, saved, storeRecord, place]

/-! ## The whole call -/

theorem Absent.again (absent : Absent path manager) (base : String)
    {valid : Dict String ByteArray} (oid : Option String) (writable : Writable valid) :
    ∃ workspace later, provision .healthy path base valid oid manager = (.ok workspace, later) := by
  obtain ⟨later, ran, -⟩ := @provision_writable _ _ base valid oid absent.directory writable
  exact ⟨_, later, ran⟩

theorem allOrNothing_iff_of_run {base : String} {files : Dict String ByteArray} {oid : Option String}
    {condition : Prop}
    (ran : (∃ workspace after, provision (.raising faults) path base files oid manager =
        (.ok workspace, after) ∧ condition) ∨
      ∃ reason after, provision (.raising faults) path base files oid manager =
        (.error (.raised reason), after) ∧ (Absent path after ↔ condition)) :
    AllOrNothing faults path base files oid manager ↔ condition := by
  rcases ran with ⟨workspace, final, ran, holds⟩ | ⟨reason, final, ran, absent⟩
  · refine ⟨fun _ => holds, fun _ error after raised => ?_⟩
    cases ran.symm.trans raised
  · constructor
    · intro nothing
      exact absent.mp (nothing reason final ran).1
    · intro holds error after raised
      cases ran.symm.trans raised
      have gone := absent.mpr holds
      exact ⟨gone, fun base valid oid writable => gone.again base oid writable⟩

/-- `provision` is all or nothing exactly where it is safe. -/
theorem allOrNothing_iff (faults : ManagerCall → Option Bool) (path : WorkspacePath)
    (baseVerifiedOid : String) (files : Dict String ByteArray) (candidateOid : Option String)
    (manager : WorkspaceManager) :
    AllOrNothing faults path baseVerifiedOid files candidateOid manager ↔
      ProvisionSafe faults path files manager := by
  apply allOrNothing_iff_of_run
  unfold ProvisionSafe
  cases existing : manager.directories.get? path with
  | some tree =>
    refine .inr ⟨.state, manager, ?_, fun absent => ?_, fun safe => by simp at safe⟩
    · rw [provision, ask_bind, existing]
      rfl
    · cases existing.symm.trans absent.directory
  | none =>
    have begun : provision (.raising faults) path baseVerifiedOid files candidateOid manager =
        (meeting (ManagerFates.raising faults .makeDirectory) .port
            (change (setDirectory path Dict.empty)) >>= fun _ =>
          each (writeFile (.raising faults) path) files.entries >>= fun _ =>
            meeting (ManagerFates.raising faults .openRoot) .port (pure ()) >>= fun _ =>
              change (manage ⟨path, .provisioned, baseVerifiedOid, candidateOid⟩ []) >>= fun _ =>
                catching
                  (meeting (ManagerFates.raising faults .createVolume) .port (pure ()) >>= fun _ =>
                    persist (ManagerFates.raising faults .saveState)
                      ⟨path, .provisioned, baseVerifiedOid, candidateOid⟩)
                  (fun error => undoProvision (.raising faults) path >>= fun _ => raise error) >>=
                  fun _ => pure ⟨path, .provisioned, baseVerifiedOid, candidateOid⟩) manager := by
      rw [provision, ask_bind, existing]
      rfl
    rw [begun]
    simp only [true_and]
    cases directory : faults .makeDirectory with
    | some applied =>
      refine .inr ⟨_, _, bind_of_error (meeting_raise directory _ _ _), ?_⟩
      cases applied
      · simp
      · simp only [if_true, Bool.true_eq_false, false_and, iff_false]
        intro absent
        have gone := absent.directory
        simp [change, setDirectory] at gone
    | none =>
      have made : meeting (ManagerFates.raising faults .makeDirectory) ManagerError.port
          (change (setDirectory path Dict.empty)) manager =
          (.ok (), manager.setDirectory path Dict.empty) := meeting_run directory _ _ _
      have now : (manager.setDirectory path Dict.empty).directories.get? path = some Dict.empty := by
        simp [setDirectory]
      rw [bind_of_ok made]
      dsimp only
      rw [← admits_empty_iff]
      have filesRun := @writeFiles_raising path _ faults _ files.entries now
      rcases filesRun with
        ⟨stand, directories, wrote, stays⟩ | ⟨refused, reason, after, failed, stays⟩
      · rw [bind_of_ok wrote]
        cases root : faults .openRoot with
        | some applied =>
          refine .inr ⟨_, _, bind_of_error (meeting_raise root _ _ _), fun absent => ?_,
            fun safe => by simp at safe⟩
          have gone := absent.directory
          cases applied
          · exact absurd gone stays
          · exact absurd gone stays
        | none =>
          have opened : meeting (ManagerFates.raising faults .openRoot) ManagerError.port
              (pure ()) { manager.setDirectory path Dict.empty with directories := directories } =
              (.ok (), { manager.setDirectory path Dict.empty with directories := directories }) :=
            meeting_run root _ _ _
          rw [bind_of_ok opened, change_bind]
          have guarded := @guarded_raising path
            (manage ⟨path, .provisioned, baseVerifiedOid, candidateOid⟩ []
              { manager.setDirectory path Dict.empty with directories := directories }) faults
            ⟨path, .provisioned, baseVerifiedOid, candidateOid⟩ rfl (by simp [manage])
          rcases guarded with ⟨final, ran, holds⟩ | ⟨reason, final, ran, absent⟩
          · exact .inl ⟨_, final, ran, stand, rfl, holds⟩
          · exact .inr ⟨reason, final, ran,
              absent.trans ⟨fun holds => ⟨stand, rfl, holds⟩, fun safe => safe.2.2⟩⟩
      · refine .inr ⟨reason, after, bind_of_error failed, fun absent => ?_, fun safe => ?_⟩
        · exact absurd absent.directory stays
        · exact absurd safe.1 refused

namespace SampleProvision

def place : WorkspacePath := ⟨⟨1⟩, ⟨2⟩, 0⟩

/-- A map with a path that leads out of the workspace. -/
def files : Dict String ByteArray := ⟨[("../x", ByteArray.empty)], by simp⟩

theorem initial_absent : Absent place initial := ⟨rfl, rfl, rfl, rfl⟩

/-- An invalid path leaves the new directory behind. -/
theorem directory_left_behind : ¬ ∀ (faults : ManagerCall → Option Bool) (path : WorkspacePath)
    (baseVerifiedOid : String) (files : Dict String ByteArray) (candidateOid : Option String)
    (manager : WorkspaceManager), Absent path manager →
    AllOrNothing faults path baseVerifiedOid files candidateOid manager := by
  intro all
  have ran : provision (.raising fun _ => none) place "base" files none initial =
      (.error (.raised .value), initial.setDirectory place Dict.empty) := rfl
  have absent := (all (fun _ => none) place "base" files none initial initial_absent _ _ ran).1
  have gone := absent.directory
  simp [setDirectory] at gone

end SampleProvision

end WorkspaceManager

end CodeMigrator
