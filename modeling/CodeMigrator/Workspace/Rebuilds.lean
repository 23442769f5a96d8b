import CodeMigrator.Workspace.Lifecycle
import Mathlib.Data.List.Pairwise

/-!
# Rebuilding a workspace from a candidate

What `rebuild_from_candidate` of `workspace/lifecycle.py` returns after any history of the
workspaces. It takes a workspace that names the requested candidate as it is, whatever has been
written to it since.
-/

namespace CodeMigrator
open Lib

namespace WorkspaceManager
open Lib.Process

/-! ## The specification -/

/-- The content of a directory is exactly these files. -/
def HasExactly (manager : WorkspaceManager) (path : WorkspacePath) (files : Dict String ByteArray) :
    Prop :=
  ∃ tree, manager.directories.get? path = some tree ∧
    ∀ relative, tree.get? relative = (files.get? relative).map .file

/-- A workspace starts from a candidate: it is managed, names the candidate, has its files and has
recorded nothing. -/
structure StartsFrom (manager : WorkspaceManager) (path : WorkspacePath) (candidateOid : String)
    (files : Dict String ByteArray) (workspace : WorkspaceHandle) : Prop where
  place : workspace.path = path
  managed : manager.handles.get? path = some workspace
  candidate : workspace.candidateOid = some candidateOid
  files : HasExactly manager path files
  ledger : manager.ledger path = []

/-- `rebuild_from_candidate` returns a workspace that starts from the candidate. -/
def Restarts (manager : WorkspaceManager) (workspace : WorkspaceHandle) (candidateOid : String)
    (files : Dict String ByteArray) : Prop :=
  ∃ result after,
    rebuildFromCandidate .healthy workspace candidateOid files manager = (.ok result, after) ∧
      StartsFrom after workspace.path candidateOid files result

/-- The files can be written to an empty directory: their paths are valid, and none is below
another. -/
structure Writable (files : Dict String ByteArray) : Prop where
  valid : ∀ relative data, files.get? relative = some data → validateRelativePath relative = true
  apart : ∀ relative data other content, files.get? relative = some data →
    files.get? other = some content → ¬ Below relative other

/-- A workspace that names the requested candidate has its files and an empty ledger; for any
other one the files can be written. -/
def CleanOrOther (manager : WorkspaceManager) (path : WorkspacePath) (recorded : Option String)
    (operations : List WorkspaceFileOperation) (candidateOid : String)
    (files : Dict String ByteArray) : Prop :=
  if recorded = some candidateOid then HasExactly manager path files ∧ operations = []
  else Writable files

/-- The workspace is known, or its directory is there and its record, if there is one, has the
same base; and it is clean or does not name the requested candidate. -/
def Restartable (manager : WorkspaceManager) (workspace : WorkspaceHandle) (candidateOid : String)
    (files : Dict String ByteArray) : Prop :=
  candidateOid ≠ "" ∧
    match manager.handles.get? workspace.path with
    | some current =>
      CleanOrOther manager workspace.path current.candidateOid (manager.ledger workspace.path)
        candidateOid files
    | none =>
      (manager.directories.get? workspace.path).isSome ∧
        match manager.records.get? workspace.path with
        | some record =>
          record.handle.baseVerifiedOid = workspace.baseVerifiedOid ∧
            CleanOrOther manager workspace.path record.handle.candidateOid record.operations
              candidateOid files
        | none => Writable files

/-! ## Writing the files -/

/-- Neither path is below the other. -/
def Apart (left right : String) : Prop := ¬ Below left right ∧ ¬ Below right left

theorem not_below_self (name : String) : ¬ Below name name := by
  intro below
  have short := below.length_le
  rw [List.length_append] at short
  exact Nat.not_succ_le_self _ short

variable {tree : LinkedTree} {entries : List (String × ByteArray)} {files : Dict String ByteArray}

theorem blocked_iff {relative : String} :
    blocked tree relative = false ↔ ∀ other ∈ tree.keys, Apart relative other := by
  rw [blocked, List.any_eq_false]
  refine forall_congr' fun other => imp_congr_right fun _ => ?_
  rw [Bool.or_eq_true, startsWith_slash_iff, startsWith_slash_iff, not_or]
  exact Iff.rfl

/-- The files can be written one after the other to a directory. -/
def Admits : LinkedTree → List (String × ByteArray) → Prop
  | _, [] => True
  | tree, entry :: entries =>
    (validateRelativePath entry.1 = true ∧ blocked tree entry.1 = false) ∧
      Admits (tree.set entry.1 (.file entry.2)) entries

/-- The directory after the files have been written. -/
def written (tree : LinkedTree) (entries : List (String × ByteArray)) : LinkedTree :=
  entries.foldl (fun tree entry => tree.set entry.1 (.file entry.2)) tree

theorem mem_keys_set {name other : String} {node : WorkspaceNode} :
    other ∈ (tree.set name node).keys ↔ other = name ∨ other ∈ tree.keys := by
  rw [Dict.mem_keys_iff, Dict.mem_keys_iff]
  by_cases same : other = name
  · simp [same]
  · simp [same]

theorem admits_iff :
    Admits tree entries ↔ (∀ entry ∈ entries, validateRelativePath entry.1 = true) ∧
      (∀ entry ∈ entries, ∀ other ∈ tree.keys, Apart entry.1 other) ∧
        entries.Pairwise (fun left right => Apart right.1 left.1) := by
  induction entries generalizing tree with
  | nil => simp [Admits]
  | cons entry entries ih =>
    rw [Admits, ih, blocked_iff, List.pairwise_cons]
    constructor
    · rintro ⟨⟨valid, apart⟩, valids, aparts, pairs⟩
      refine ⟨?_, ?_, ?_, pairs⟩
      · intro other member
        rcases List.mem_cons.mp member with rfl | later
        · exact valid
        · exact valids other later
      · intro other member
        rcases List.mem_cons.mp member with rfl | later
        · exact apart
        · exact fun name here => aparts other later name (mem_keys_set.mpr (.inr here))
      · exact fun other later => aparts other later entry.1 (mem_keys_set.mpr (.inl rfl))
    · rintro ⟨valids, aparts, first, pairs⟩
      refine ⟨⟨valids entry List.mem_cons_self, aparts entry List.mem_cons_self⟩, ?_, ?_, pairs⟩
      · exact fun other later => valids other (List.mem_cons_of_mem entry later)
      · intro other later name here
        rcases mem_keys_set.mp here with rfl | before
        · exact first other later
        · exact aparts other (List.mem_cons_of_mem entry later) name before

theorem admits_empty_iff : Admits Dict.empty files.entries ↔ Writable files := by
  have symmetric : Std.Symm (fun left right : String × ByteArray => Apart right.1 left.1) :=
    ⟨fun _ _ apart => ⟨apart.2, apart.1⟩⟩
  rw [admits_iff]
  constructor
  · rintro ⟨valid, -, pairs⟩
    refine ⟨fun relative data found => valid _ ((files.get?_eq_some_iff _ _).mp found), ?_⟩
    intro relative data other content found present
    have all := pairs.forall_of_forall (fun entry _ => ⟨not_below_self _, not_below_self _⟩)
    exact (all ((files.get?_eq_some_iff _ _).mp present)
      ((files.get?_eq_some_iff _ _).mp found)).1
  · intro writable
    have found : ∀ entry ∈ files.entries, files.get? entry.1 = some entry.2 :=
      fun entry member => (files.get?_eq_some_iff _ _).mpr member
    refine ⟨fun entry member => writable.valid _ _ (found entry member), ?_, ?_⟩
    · exact fun _ _ other absurdity => absurd absurdity List.not_mem_nil
    · apply List.pairwise_of_forall_mem_list
      intro left here right there
      exact ⟨writable.apart _ _ _ _ (found right there) (found left here),
        writable.apart _ _ _ _ (found left here) (found right there)⟩

theorem written_get? (tree : LinkedTree) (distinct : (entries.map Prod.fst).Nodup)
    (relative : String) :
    (written tree entries).get? relative =
      match Dict.lookup relative entries with
      | some data => some (.file data)
      | none => tree.get? relative := by
  induction entries generalizing tree with
  | nil => rfl
  | cons entry entries ih =>
    obtain ⟨name, data⟩ := entry
    rw [List.map_cons, List.nodup_cons] at distinct
    rw [written, List.foldl_cons, ← written, ih _ distinct.2, Dict.lookup]
    by_cases same : name = relative
    · subst same
      have absent : Dict.lookup name entries = none := by
        cases found : Dict.lookup name entries with
        | none => rfl
        | some other =>
          have member := Dict.lookup_some_mem found
          exact absurd (List.mem_map.mpr ⟨_, member, rfl⟩) distinct.1
      rw [absent, if_pos rfl]
      simp
    · rw [if_neg same]
      cases Dict.lookup relative entries with
      | some other => rfl
      | none => simp [Ne.symm same]

theorem written_exactly (files : Dict String ByteArray) (relative : String) :
    (written Dict.empty files.entries).get? relative = (files.get? relative).map .file := by
  rw [written_get? Dict.empty files.nodup, Dict.get?]
  cases found : Dict.lookup relative files.entries with
  | some data => rw [Dict.get?, found]; rfl
  | none => rw [Dict.get?, found]; rfl

variable {manager : WorkspaceManager} {path : WorkspacePath}

@[simp] theorem healthy_apply (call : ManagerCall) : ManagerFates.healthy call = .runs := rfl

theorem each_cons {body : String × ByteArray → Managing Unit} (entry : String × ByteArray)
    (entries : List (String × ByteArray)) :
    each body (entry :: entries) = body entry >>= fun _ => each body entries := rfl

theorem writeFiles_admitted (present : manager.directories.get? path = some tree)
    (admitted : Admits tree entries) :
    ∃ directories, each (writeFile .healthy path) entries manager =
        (.ok (), { manager with directories := directories }) ∧
      directories.get? path = some (written tree entries) := by
  induction entries generalizing manager tree with
  | nil => exact ⟨manager.directories, rfl, present⟩
  | cons entry entries ih =>
    obtain ⟨⟨valid, free⟩, rest⟩ := admitted
    have wrote : writeFile .healthy path entry manager =
        (.ok (), manager.setDirectory path (tree.set entry.1 (.file entry.2))) := by
      rw [writeFile, if_neg (by rw [valid]; decide), ask_bind, present, Option.getD_some,
        if_neg (by rw [free]; decide)]
      rfl
    have now : (manager.setDirectory path (tree.set entry.1 (.file entry.2))).directories.get?
        path = some (tree.set entry.1 (.file entry.2)) := by
      simp [setDirectory]
    obtain ⟨directories, ran, final⟩ := ih now rest
    refine ⟨directories, ?_, final⟩
    rw [each_cons, bind_of_ok wrote, ran]
    rfl

theorem writeFiles_refused (present : manager.directories.get? path = some tree)
    (refused : ¬ Admits tree entries) :
    ∃ error after, each (writeFile .healthy path) entries manager =
      (.error (.raised error), after) := by
  induction entries generalizing manager tree with
  | nil => exact absurd trivial refused
  | cons entry entries ih =>
    rw [each_cons]
    by_cases valid : validateRelativePath entry.1 = false
    · have wrote : writeFile .healthy path entry manager =
          (.error (.raised .value), manager) := by
        rw [writeFile, if_pos valid]
        rfl
      exact ⟨_, _, bind_of_error wrote⟩
    · have tried : writeFile .healthy path entry manager =
          if blocked tree entry.1 then (.error (.raised .port), manager)
          else (.ok (), manager.setDirectory path (tree.set entry.1 (.file entry.2))) := by
        rw [writeFile, if_neg valid, ask_bind, present, Option.getD_some]
        split
        · rfl
        · rfl
      by_cases free : blocked tree entry.1 = true
      · rw [if_pos free] at tried
        exact ⟨_, _, bind_of_error tried⟩
      · rw [if_neg free] at tried
        have now : (manager.setDirectory path
            (tree.set entry.1 (.file entry.2))).directories.get? path =
              some (tree.set entry.1 (.file entry.2)) := by
          simp [setDirectory]
        have later : ¬ Admits (tree.set entry.1 (.file entry.2)) entries :=
          fun admitted => refused ⟨⟨by simpa using valid, by simpa using free⟩, admitted⟩
        obtain ⟨error, after, ran⟩ := ih now later
        exact ⟨error, after, (bind_of_ok tried).trans ran⟩

/-! ## Healthy calls -/

/-- What a close leaves. -/
def closed (path : WorkspacePath) (manager : WorkspaceManager) : WorkspaceManager :=
  forget path (deleteRecord path
    (if (manager.directories.get? path).isSome then removeDirectory path manager else manager))

theorem closed_directory : (closed path manager).directories.get? path = none := by
  cases present : manager.directories.get? path with
  | none => simp [closed, present, forget, deleteRecord]
  | some tree => simp [closed, present, forget, deleteRecord, removeDirectory, Dict.get?_erase]

theorem close_healthy {workspace : WorkspaceHandle}
    (known : manager.handles.get? path = some workspace) :
    close .healthy path manager = (.ok (), closed path manager) := by
  rw [close, ask_bind, known]
  dsimp only [healthy_apply, meeting_runs]
  rw [pure_bind_at, pure_bind_at, ask_bind, closed]
  by_cases present : (manager.directories.get? path).isSome
  · rw [if_pos present, if_pos present]
    rfl
  · rw [if_neg present, if_neg present]
    rfl

theorem provision_writable {baseVerifiedOid : String} {files : Dict String ByteArray}
    {candidateOid : Option String} (absent : manager.directories.get? path = none)
    (writable : Writable files) :
    ∃ after, provision .healthy path baseVerifiedOid files candidateOid manager =
        (.ok ⟨path, .provisioned, baseVerifiedOid, candidateOid⟩, after) ∧
      after.handles.get? path = some ⟨path, .provisioned, baseVerifiedOid, candidateOid⟩ ∧
        HasExactly after path files ∧ after.ledger path = [] := by
  have now : (manager.setDirectory path Dict.empty).directories.get? path = some Dict.empty := by
    simp [setDirectory]
  obtain ⟨directories, ran, final⟩ := writeFiles_admitted now (admits_empty_iff.mpr writable)
  let workspace : WorkspaceHandle := ⟨path, .provisioned, baseVerifiedOid, candidateOid⟩
  let managed := manage workspace [] { manager with directories := directories }
  refine ⟨managed.storeRecord ⟨workspace, managed.ledger path⟩, ?_, ?_,
    ⟨_, final, written_exactly files⟩, ?_⟩
  · rw [provision, ask_bind, absent]
    dsimp only [healthy_apply, meeting_runs]
    rw [if_neg (by simp), change_bind, bind_of_ok ran, pure_bind_at, change_bind]
    rfl
  · simp [managed, workspace, storeRecord, manage]
  · simp [managed, workspace, storeRecord, manage, ledger]

theorem provision_refused {baseVerifiedOid : String} {files : Dict String ByteArray}
    {candidateOid : Option String} (absent : manager.directories.get? path = none)
    (refused : ¬ Writable files) :
    ∃ error after, provision .healthy path baseVerifiedOid files candidateOid manager =
      (.error (.raised error), after) := by
  have now : (manager.setDirectory path Dict.empty).directories.get? path = some Dict.empty := by
    simp [setDirectory]
  obtain ⟨error, after, ran⟩ :=
    writeFiles_refused now (fun admitted => refused (admits_empty_iff.mp admitted))
  refine ⟨error, after, ?_⟩
  rw [provision, ask_bind, absent]
  dsimp only [healthy_apply, meeting_runs]
  rw [if_neg (by simp), change_bind, bind_of_error ran]

theorem requireKnown_known {workspace : WorkspaceHandle}
    (known : manager.handles.get? path = some workspace) :
    requireKnown path manager = (.ok workspace, manager) := by
  rw [requireKnown, ask_bind, known]
  rfl

theorem rebuild_writable {workspace known : WorkspaceHandle} {candidateOid : String}
    (managed : manager.handles.get? workspace.path = some known) (writable : Writable files) :
    ∃ result after,
      rebuild .healthy workspace files (some candidateOid) manager = (.ok result, after) ∧
        StartsFrom after workspace.path candidateOid files result := by
  obtain ⟨after, ran, held, exactly, ledger⟩ := @provision_writable
    (closed workspace.path manager) workspace.path workspace.baseVerifiedOid files
    (some candidateOid) closed_directory writable
  refine ⟨⟨workspace.path, .provisioned, workspace.baseVerifiedOid, some candidateOid⟩, after, ?_,
    ⟨rfl, held, rfl, exactly, ledger⟩⟩
  rw [rebuild, bind_of_ok (requireKnown_known managed)]
  exact (bind_of_ok (close_healthy managed)).trans ran

theorem rebuild_refused {workspace known : WorkspaceHandle} {files : Dict String ByteArray}
    {candidateOid : String} (managed : manager.handles.get? workspace.path = some known)
    (refused : ¬ Writable files) :
    ∃ error after, rebuild .healthy workspace files (some candidateOid) manager =
      (.error (.raised error), after) := by
  obtain ⟨error, after, ran⟩ := @provision_refused (closed workspace.path manager) workspace.path
    workspace.baseVerifiedOid files (some candidateOid) closed_directory refused
  refine ⟨error, after, ?_⟩
  rw [rebuild, bind_of_ok (requireKnown_known managed)]
  exact (bind_of_ok (close_healthy managed)).trans ran

theorem rebuild_unknown {workspace : WorkspaceHandle} {candidateOid : Option String}
    (unknown : manager.handles.get? workspace.path = none) :
    rebuild .healthy workspace files candidateOid manager = (.error (.raised .state), manager) := by
  rw [rebuild, requireKnown]
  refine bind_of_error ?_
  rw [ask_bind, unknown]
  rfl

theorem takes_current_iff {current : WorkspaceHandle} {candidateOid : String}
    {files : Dict String ByteArray} (managed : manager.handles.get? current.path = some current) :
    (∃ result after,
      (if current.candidateOid = some candidateOid then pure current
        else rebuild .healthy current files (some candidateOid)) manager = (.ok result, after) ∧
      StartsFrom after current.path candidateOid files result) ↔
      CleanOrOther manager current.path current.candidateOid (manager.ledger current.path)
        candidateOid files := by
  rw [CleanOrOther]
  by_cases same : current.candidateOid = some candidateOid
  · rw [if_pos same, if_pos same]
    constructor
    · rintro ⟨result, after, ran, starts⟩
      cases ran
      exact ⟨starts.files, starts.ledger⟩
    · rintro ⟨exactly, ledger⟩
      exact ⟨current, manager, rfl, rfl, managed, same, exactly, ledger⟩
  · rw [if_neg same, if_neg same]
    constructor
    · rintro ⟨result, after, ran, -⟩
      by_contra refused
      obtain ⟨error, other, raised⟩ :=
        @rebuild_refused manager current current files candidateOid managed refused
      rw [ran] at raised
      cases raised
    · exact rebuild_writable managed

theorem recover_attached {attached : WorkspaceStateRecord} {baseVerifiedOid : String}
    (unknown : manager.handles.get? path = none)
    (present : (manager.directories.get? path).isSome)
    (found : reattach path baseVerifiedOid none (manager.records.get? path) = some attached) :
    ∃ after, recover .healthy path baseVerifiedOid none manager = (.ok attached.handle, after) ∧
      after.handles.get? attached.handle.path = some attached.handle ∧
        after.directories = manager.directories ∧
          after.ledger attached.handle.path = attached.operations := by
  refine ⟨(manage attached.handle attached.operations manager).storeRecord
    ⟨attached.handle, (manage attached.handle attached.operations manager).ledger
      attached.handle.path⟩, ?_, ?_, rfl, ?_⟩
  · rw [recover, ask_bind, unknown]
    dsimp only [healthy_apply, meeting_runs]
    rw [ask_bind, if_neg (by simpa [← Option.isSome_iff_ne_none] using present), ask_bind, found]
    rfl
  · simp [storeRecord, manage]
  · simp [storeRecord, manage, ledger]

theorem recover_mismatch {baseVerifiedOid : String} (unknown : manager.handles.get? path = none)
    (present : (manager.directories.get? path).isSome)
    (found : reattach path baseVerifiedOid none (manager.records.get? path) = none) :
    recover .healthy path baseVerifiedOid none manager = (.error (.raised .state), manager) := by
  rw [recover, ask_bind, unknown]
  dsimp only [healthy_apply, meeting_runs]
  rw [ask_bind, if_neg (by simpa [← Option.isSome_iff_ne_none] using present), ask_bind, found]
  rfl

theorem rebuildFromCandidate_found {workspace current : WorkspaceHandle} {candidateOid : String}
    {after : WorkspaceManager} (given : candidateOid ≠ "")
    (found : findCurrent .healthy workspace manager = (.ok (some current), after)) :
    rebuildFromCandidate .healthy workspace candidateOid files manager =
      (if current.candidateOid = some candidateOid then pure current
        else rebuild .healthy current files (some candidateOid)) after := by
  rw [rebuildFromCandidate, if_neg given]
  exact bind_of_ok found

theorem recovers_iff {attached : WorkspaceStateRecord} {workspace : WorkspaceHandle}
    {candidateOid : String} {files : Dict String ByteArray} (given : candidateOid ≠ "")
    (unknown : manager.handles.get? workspace.path = none)
    (present : (manager.directories.get? workspace.path).isSome)
    (found : reattach workspace.path workspace.baseVerifiedOid none
      (manager.records.get? workspace.path) = some attached)
    (place : attached.handle.path = workspace.path) :
    Restarts manager workspace candidateOid files ↔
      CleanOrOther manager workspace.path attached.handle.candidateOid attached.operations
        candidateOid files := by
  obtain ⟨after, ran, managed, directories, ledger⟩ := recover_attached unknown present found
  have current : findCurrent .healthy workspace manager = (.ok (some attached.handle), after) := by
    rw [findCurrent, ask_bind, unknown]
    dsimp only
    rw [ask_bind, if_pos present, bind_of_ok ran]
    rfl
  have taken := @takes_current_iff after attached.handle candidateOid files managed
  rw [place] at taken ledger
  have exactly : HasExactly after workspace.path files ↔ HasExactly manager workspace.path files := by
    rw [HasExactly, HasExactly, directories]
  rw [ledger, CleanOrOther, exactly, ← CleanOrOther] at taken
  rw [← taken, Restarts, rebuildFromCandidate_found given current]

theorem restarts_iff (consistent : Consistent manager) (workspace : WorkspaceHandle)
    (candidateOid : String) (files : Dict String ByteArray) :
    Restarts manager workspace candidateOid files ↔
      Restartable manager workspace candidateOid files := by
  by_cases given : candidateOid = ""
  · refine iff_of_false ?_ fun restartable => restartable.1 given
    rintro ⟨result, after, ran, -⟩
    rw [rebuildFromCandidate, if_pos given] at ran
    cases ran
  rw [Restartable, and_iff_right given]
  cases known : manager.handles.get? workspace.path with
  | some current =>
    have place := consistent.handles _ _ known
    have found : findCurrent .healthy workspace manager = (.ok (some current), manager) := by
      rw [findCurrent, ask_bind, known]
      rfl
    have taken := @takes_current_iff manager current candidateOid files (by rw [place, known])
    rw [place] at taken
    dsimp only
    rw [← taken, Restarts, rebuildFromCandidate_found given found]
  | none =>
    dsimp only
    by_cases present : (manager.directories.get? workspace.path).isSome
    · rw [and_iff_right present]
      cases stored : manager.records.get? workspace.path with
      | none =>
        have attached : reattach workspace.path workspace.baseVerifiedOid none
            (manager.records.get? workspace.path) =
              some ⟨⟨workspace.path, .iterating, workspace.baseVerifiedOid, none⟩, []⟩ := by
          rw [stored]
          rfl
        rw [recovers_iff given known present attached rfl, CleanOrOther, if_neg (by simp)]
      | some record =>
        have place := consistent.records _ _ stored
        dsimp only
        by_cases base : record.handle.baseVerifiedOid = workspace.baseVerifiedOid
        · have attached : reattach workspace.path workspace.baseVerifiedOid none
              (manager.records.get? workspace.path) =
                some { record with handle := { record.handle with state := .iterating } } := by
            rw [stored, reattach, if_neg (by simp [place, base])]
          have recovered := @recovers_iff _ _ _ _ files given known present attached place
          rw [and_iff_right base]
          exact recovered
        · have refused : reattach workspace.path workspace.baseVerifiedOid none
              (manager.records.get? workspace.path) = none := by
            rw [stored, reattach, if_pos (.inr (.inl base))]
          refine iff_of_false ?_ fun restartable => base restartable.1
          rintro ⟨result, after, ran, -⟩
          rw [rebuildFromCandidate, if_neg given] at ran
          have failed : findCurrent .healthy workspace manager =
              (.error (.raised .state), manager) := by
            rw [findCurrent, ask_bind, known]
            dsimp only
            rw [ask_bind, if_pos present, bind_of_error (recover_mismatch known present refused)]
          rw [show RebuildFates.healthy.recovering = ManagerFates.healthy from rfl,
            bind_of_error failed] at ran
          cases ran
    · refine iff_of_false ?_ fun restartable => present restartable.1
      rintro ⟨result, after, ran, -⟩
      have found : findCurrent .healthy workspace manager = (.ok none, manager) := by
        rw [findCurrent, ask_bind, known]
        dsimp only
        rw [ask_bind, if_neg present]
        rfl
      rw [rebuildFromCandidate, if_neg given,
        show RebuildFates.healthy.recovering = ManagerFates.healthy from rfl, bind_of_ok found] at ran
      dsimp only at ran
      rw [rebuild_unknown known] at ran
      cases ran

/-- After every history a rebuild from a candidate starts from it if and only if the workspace can
be found, and is clean or does not name the candidate yet. -/
theorem rebuild_from_candidate_iff (history : List Event) (workspace : WorkspaceHandle)
    (candidateOid : String) (files : Dict String ByteArray) :
    Restarts (runFrom step initial history) workspace candidateOid files ↔
      Restartable (runFrom step initial history) workspace candidateOid files :=
  restarts_iff (consistent_after history) workspace candidateOid files

end WorkspaceManager

/-! ## A dirty workspace and a lost directory -/

namespace SampleRebuilds
open WorkspaceManager

/-- The workspace of a slice. -/
def path : WorkspacePath := ⟨⟨1⟩, ⟨2⟩, 0⟩

/-- Its handle after it was provisioned from a candidate without files. -/
def workspace : WorkspaceHandle := ⟨path, .provisioned, "base", some "candidate"⟩

/-- The workspace is provisioned. -/
def provisioned : Event := .call (.provision .healthy path "base" Dict.empty (some "candidate"))

/-- The session writes a file and crashes. -/
def dirtied : List Event :=
  [provisioned, .disk path (some (Dict.empty.set "notes.py" (.file ⟨#[1]⟩))), .restart]

/-- The directory is lost with the process. -/
def lost : List Event := [provisioned, .disk path none, .restart]

/-- The file is still there after the rebuild, and a lost directory is not rebuilt. -/
theorem dirty_workspace_returned :
    ¬ Restarts (runFrom WorkspaceManager.step initial dirtied) workspace "candidate" Dict.empty ∧
      ¬ Restarts (runFrom WorkspaceManager.step initial lost) workspace "candidate" Dict.empty := by
  constructor
  · rw [restarts_iff (consistent_after dirtied)]
    rintro ⟨-, restartable⟩
    have unknown : (runFrom WorkspaceManager.step initial dirtied).handles.get? workspace.path = none := rfl
    have stored : (runFrom WorkspaceManager.step initial dirtied).records.get? workspace.path =
        some ⟨workspace, []⟩ := rfl
    rw [unknown, stored] at restartable
    obtain ⟨-, -, clean⟩ := restartable
    have named : workspace.candidateOid = some "candidate" := rfl
    rw [CleanOrOther, if_pos named] at clean
    obtain ⟨⟨tree, present, exactly⟩, -⟩ := clean
    cases present
    exact absurd (exactly "notes.py") (by simp)
  · rw [restarts_iff (consistent_after lost)]
    rintro ⟨-, restartable⟩
    have unknown : (runFrom WorkspaceManager.step initial lost).handles.get? workspace.path = none := rfl
    rw [unknown] at restartable
    exact absurd restartable.1 (by decide)

end SampleRebuilds

end CodeMigrator
