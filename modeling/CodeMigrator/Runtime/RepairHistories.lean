import CodeMigrator.Lib.Sequence
import CodeMigrator.Runtime.GeneratedRepairs

/-!
# Histories of repairs

Repairs and adoptions of the files of one migration, with changes of its directories from outside
between them. The ledger grows by one record for each repair. An adoption looks at the first
record of its file, so it succeeds exactly where the first repair of the file has written what is
in place.
-/

namespace CodeMigrator
open Lib Lib.Process ProjectMigrationRunner

/-- What a repair has written for a source file. -/
structure Repair where
  sourcePath : String
  content : ByteArray

/-- The target of a repair. -/
def Repair.targetPath (repair : Repair) : String := CodeMigrator.targetPath repair.sourcePath

section Histories

variable (tools : RunnerTools)

/-- A world is reached after these repairs: each call has returned, and in between the directories
of the source and the target may have changed. -/
inductive RepairHistory (start : RepairWorld) : List Repair → RepairWorld → Prop
  | start : RepairHistory start [] start
  | repaired {done : List Repair} {world after : RepairWorld} {call : RepairCall}
      {result : TranslationResult} (history : RepairHistory start done world)
      (returned : repairGeneratedFile tools call world = (.ok result, after)) :
      RepairHistory start (done ++ [⟨call.sourcePath, result.content.toUTF8⟩]) after
  | adopted {done : List Repair} {world after : RepairWorld} {path : String}
      (history : RepairHistory start done world)
      (returned : adoptRepairedFile tools path world = (.ok (), after)) :
      RepairHistory start done after
  | outside {done : List Repair} {world : RepairWorld} (source : SourceDirectory)
      (target : Option FileTree) (history : RepairHistory start done world) :
      RepairHistory start done { world with source := source, target := target }

/-- The adoption of a path returns, its file is marked with the hash of the content, and the
other files are as they were. -/
def Adopts (path : String) (content : ByteArray) (world : RepairWorld) : Prop :=
  ∃ after state before item later, adoptRepairedFile tools path world = (.ok (), after) ∧
    world.checkpoint = some state ∧ state.files = before ++ item :: later ∧
    item.targetPath = path ∧ (∀ other ∈ before, other.targetPath ≠ path) ∧
    after.checkpoint = some { state with
      files := before ++ { item with
        status := .succeeded
        targetSha256 := some (tools.sha256 content)
        error := none } :: later }

/-- There is a pipeline checkpoint, and the first repair of the file at a path has written a
content with this hash. -/
def FirstRepairStands (done : List Repair) (path : String) (content : ByteArray)
    (world : RepairWorld) : Prop :=
  world.pipeline ≠ none ∧ ∃ state item first, world.checkpoint = some state ∧
    state.files.find? (·.targetPath = path) = some item ∧
    done.find? (fun repair => repair.sourcePath = item.sourcePath ∧ repair.targetPath = path) =
      some first ∧
    tools.sha256 first.content = tools.sha256 content

/-- The ledger entry of a repair: its file is the first one of the source path. -/
def RecordOf (identities : List FileIdentity) (repair : Repair) (entry : Json) : Prop :=
  ∃ item feedback, entry = .obj (repairRecord tools item repair.sourcePath feedback repair.content) ∧
    identities.find? (·.sourcePath = repair.sourcePath) = some item.identity ∧
    item.kind = .translate ∧ item.targetPath = repair.targetPath

/-- What holds of the state directory after these repairs. -/
structure RepairsRecorded (start : RepairWorld) (done : List Repair) (world : RepairWorld) : Prop where
  identities : world.checkpoint.map MigrationState.identities =
    start.checkpoint.map MigrationState.identities
  entries : ∃ entries, existingRepairs world.ledger = .ok entries ∧
    (done ≠ [] → world.ledger = some (.arr entries)) ∧
    List.Forall₂ (RecordOf tools ((start.checkpoint.map MigrationState.identities).getD []))
      done entries
  readable : done ≠ [] → ∀ checkpoint ∈ world.pipeline,
    validStageProgression checkpoint.stages PipelineStage.order = true
  parsed : ∀ repair ∈ done, ∃ text, repair.content = (text ++ "\n").toUTF8 ∧ tools.parses text = true

variable {tools} {world after : RepairWorld} {path : String} {item : FileState}
  {result : TranslationResult}

/-! ## Repairs -/

theorem normalizedRepair_record (item : FileState) (sourcePath feedback : String)
    (content : ByteArray) :
    normalizedRepair (repairRecord tools item sourcePath feedback content) =
      .ok (.obj (repairRecord tools item sourcePath feedback content)) := by
  have complete : repairIdentityKeys.all (fun key =>
      (Json.field? (repairRecord tools item sourcePath feedback content) key).any isText) = true := by
    rfl
  have kept : (repairRecord tools item sourcePath feedback content).filter (fun field =>
      (repairIdentityKeys ++ ["feedback_sha256", "repair_count"]).contains field.1) =
        repairRecord tools item sourcePath feedback content := by
    rfl
  have named : repairIdentityKeys.all (fun key =>
      (Json.field? (repairRecord tools item sourcePath feedback content) key).isSome) = true := by
    rfl
  rw [normalizedRepair, if_neg (by rw [named]; decide), if_neg (by rw [complete]; decide), kept]

theorem recordGeneratedRepairs_returned {record : List (String × Json)} {entry : Json}
    (normalized : normalizedRepair record = .ok entry)
    (returned : recordGeneratedRepairs [record] world = (.ok (), after)) :
    ∃ existing, existingRepairs world.ledger = .ok existing ∧
      (∀ checkpoint ∈ world.pipeline,
        validStageProgression checkpoint.stages PipelineStage.order = true) ∧
      after = { world with
        ledger := some (.arr (existing ++ [entry]))
        pipeline := world.pipeline.map PipelineCheckpoint.withRepairs } := by
  obtain ⟨entries, _, first, returned⟩ := bind_eq_ok returned
  obtain ⟨same, rfl⟩ := ofExcept_eq_ok first
  obtain rfl : entries = [entry] := by
    simpa [normalized] using same.symm
  rw [ask_bind] at returned
  obtain ⟨existing, _, second, returned⟩ := bind_eq_ok returned
  obtain ⟨found, rfl⟩ := ofExcept_eq_ok second
  refine ⟨existing, found, ?_⟩
  rw [change_bind, ask_bind] at returned
  cases stored : world.pipeline with
  | none =>
    simp only [stored] at returned
    exact ⟨by simp, (Prod.mk.inj returned).2.symm⟩
  | some checkpoint =>
    simp only [stored] at returned
    obtain ⟨checked, _, read, returned⟩ := bind_eq_ok returned
    obtain ⟨valid, rfl⟩ := ofExcept_eq_ok read
    unfold PipelineCheckpoint.read at valid
    split at valid
    next inOrder =>
      obtain rfl := Except.ok.inj valid
      refine ⟨?_, (Prod.mk.inj returned).2.symm⟩
      intro other member
      rw [← Option.some.inj member]
      exact inOrder
    · cases valid

theorem repairedItem_returned {sourcePath : String}
    (returned : repairedItem tools world sourcePath = .ok item) :
    ∃ state, world.checkpoint = some state ∧
      state.files.find? (·.sourcePath = sourcePath) = some item ∧ item.kind = .translate ∧
      item.targetPath = targetPath sourcePath := by
  unfold repairedItem at returned
  split at returned
  · cases returned
  split at returned
  · split at returned <;> cases returned
  split at returned
  · cases returned
  next state saved =>
  split at returned
  · cases returned
  split at returned
  · cases returned
  next found first =>
  split at returned
  · cases returned
  next translated =>
  split at returned
  · cases returned
  split at returned
  · cases returned
  split at returned
  · cases returned
  next named =>
    obtain rfl := Except.ok.inj returned
    exact ⟨state, saved, first, not_not.mp translated, not_not.mp named⟩

theorem repairedContent_returned {call : RepairCall}
    (returned : repairedContent tools world call = .ok result) :
    ∃ text, result.content = text ++ "\n" ∧ tools.parses text = true := by
  unfold repairedContent at returned
  obtain ⟨_, -, returned⟩ := except_bind_eq_ok returned
  obtain ⟨_, -, returned⟩ := except_bind_eq_ok returned
  obtain ⟨_, -, returned⟩ := except_bind_eq_ok returned
  obtain ⟨_, -, returned⟩ := except_bind_eq_ok returned
  obtain ⟨answer, -, returned⟩ := except_bind_eq_ok returned
  obtain ⟨content, checked, returned⟩ := except_bind_eq_ok returned
  obtain rfl := Except.ok.inj returned
  cases valid : validatedTranslation tools answer (targetPath call.sourcePath) with
  | error error =>
    rw [valid] at checked
    cases checked
  | ok text =>
    rw [valid] at checked
    obtain rfl := Except.ok.inj checked
    unfold validatedTranslation at valid
    split at valid
    · cases valid
    dsimp only at valid
    split at valid
    · cases valid
    split at valid
    next parses => exact ⟨_, (Except.ok.inj valid).symm, parses⟩
    · cases valid

theorem repairGeneratedFile_returned {call : RepairCall}
    (returned : repairGeneratedFile tools call world = (.ok result, after)) :
    ∃ item existing, repairedItem tools world call.sourcePath = .ok item ∧
      repairedContent tools world call = .ok result ∧
      existingRepairs world.ledger = .ok existing ∧
      (∀ checkpoint ∈ world.pipeline,
        validStageProgression checkpoint.stages PipelineStage.order = true) ∧
      after.checkpoint = world.checkpoint ∧
      after.ledger = some (.arr (existing ++ [.obj (repairRecord tools item call.sourcePath
        call.verificationFeedback result.content.toUTF8)])) ∧
      after.pipeline = world.pipeline.map PipelineCheckpoint.withRepairs := by
  unfold repairGeneratedFile at returned
  rw [ask_bind] at returned
  obtain ⟨item, _, first, returned⟩ := bind_eq_ok returned
  obtain ⟨isItem, rfl⟩ := ofExcept_eq_ok first
  rw [ask_bind] at returned
  obtain ⟨made, _, second, returned⟩ := bind_eq_ok returned
  obtain ⟨isContent, rfl⟩ := ofExcept_eq_ok second
  obtain ⟨_, written, wrote, returned⟩ := bind_eq_ok returned
  obtain ⟨_, recorded, record, returned⟩ := bind_eq_ok returned
  obtain ⟨same, rfl⟩ := Prod.mk.inj returned
  obtain rfl := Except.ok.inj same
  -- the write changes the target directory only
  have others : written = { world with target := written.target } := by
    unfold writeRepaired at wrote
    rw [ask_bind] at wrote
    cases tree : world.target with
    | none =>
      rw [tree] at wrote
      cases (Prod.mk.inj wrote).1
    | some tree' =>
      simp only [tree] at wrote
      rw [change_bind] at wrote
      obtain ⟨-, rfl⟩ := ofExcept_eq_ok wrote
      rfl
  obtain ⟨existing, before, inOrder, rfl⟩ :=
    recordGeneratedRepairs_returned (normalizedRepair_record ..) record
  rw [others] at before inOrder ⊢
  exact ⟨item, existing, isItem, isContent, before, inOrder, rfl, rfl, rfl⟩

/-! ## Adoptions -/

theorem setTarget_shape {files : List FileState} (adopted : FileState)
    (found : files.find? (·.targetPath = path) = some item) :
    ∃ before later, files = before ++ item :: later ∧
      (∀ other ∈ before, other.targetPath ≠ path) ∧
      setTarget path adopted files = before ++ adopted :: later := by
  induction files with
  | nil => cases found
  | cons head rest ih =>
    by_cases here : head.targetPath = path
    · rw [List.find?_cons_of_pos (by simpa using here)] at found
      obtain rfl := Option.some.inj found
      exact ⟨[], rest, rfl, by simp, by simp [setTarget, here]⟩
    · rw [List.find?_cons_of_neg (by simpa using here)] at found
      obtain ⟨before, later, rfl, others, replaced⟩ := ih found
      refine ⟨head :: before, later, rfl, ?_, by simp [setTarget, here, replaced]⟩
      intro other member
      rcases List.mem_cons.mp member with rfl | inside
      · exact here
      · exact others other inside

theorem adoption_eq_ok_iff {adopted : MigrationState} :
    adoption tools world path = .ok adopted ↔ ∃ state item entries content fields,
      world.checkpoint = some state ∧ state.files.find? (·.targetPath = path) = some item ∧
      item.kind = .translate ∧ world.ledger = some (.arr entries) ∧
      readRoot world.target path = .ok content ∧
      (String.fromUTF8? content).any tools.parses = true ∧
      repairReceipt entries item path = some fields ∧
      receiptMatches tools fields item content = true ∧
      adopted = { state with files := setTarget path (adoptedFile tools item content) state.files } := by
  constructor
  · intro returned
    unfold adoption at returned
    split at returned
    · cases returned
    next state saved =>
    split at returned
    · cases returned
    next item found =>
    split at returned
    · cases returned
    next translated =>
    split at returned
    · cases returned
    next entries listed =>
      obtain ⟨content, read, returned⟩ := except_bind_eq_ok returned
      split at returned
      · cases returned
      next parses =>
      split at returned
      · cases returned
      next fields receipt =>
      split at returned
      next same =>
        exact ⟨state, item, entries, content, fields, saved, found, not_not.mp translated, listed, read,
          not_not.mp parses, receipt, same, (Except.ok.inj returned).symm⟩
      · cases returned
    · cases returned
  · intro facts
    obtain ⟨state, item, entries, content, fields, saved, found, translated, listed, read, parses,
      receipt, same, rfl⟩ := facts
    unfold adoption
    simp only [saved, found, translated, ne_eq, not_true_eq_false, if_false, listed, read]
    change (if ¬ _ then _ else _) = _
    rw [if_neg (not_not.mpr parses), receipt]
    simp only [same, if_true]

theorem adoptRepairedFile_returned_iff :
    adoptRepairedFile tools path world = (.ok (), after) ↔ ∃ adopted checkpoint,
      adoption tools world path = .ok adopted ∧ world.pipeline = some checkpoint ∧
      validStageProgression checkpoint.stages PipelineStage.order = true ∧
      after = { world with
        checkpoint := some adopted
        pipeline := some checkpoint.reopened } := by
  constructor
  · intro returned
    unfold adoptRepairedFile at returned
    rw [ask_bind] at returned
    obtain ⟨adopted, _, made, returned⟩ := bind_eq_ok returned
    obtain ⟨isState, rfl⟩ := ofExcept_eq_ok made
    rw [change_bind, ask_bind] at returned
    cases stored : world.pipeline with
    | none =>
      simp only [stored] at returned
      cases (Prod.mk.inj returned).1
    | some checkpoint =>
      simp only [stored] at returned
      obtain ⟨checked, _, read, returned⟩ := bind_eq_ok returned
      obtain ⟨valid, rfl⟩ := ofExcept_eq_ok read
      unfold PipelineCheckpoint.read at valid
      split at valid
      next inOrder =>
        obtain rfl := Except.ok.inj valid
        exact ⟨adopted, checkpoint, isState, rfl, inOrder, (Prod.mk.inj returned).2.symm⟩
      · cases valid
  · intro facts
    obtain ⟨adopted, checkpoint, made, stored, inOrder, rfl⟩ := facts
    unfold adoptRepairedFile
    rw [ask_bind, made, ofExcept_bind, change_bind, ask_bind]
    simp only [stored]
    rw [PipelineCheckpoint.read, if_pos inOrder, ofExcept_bind]
    rfl

/-! ## The stages -/

theorem validStageProgression_iff (stages : PipelineStage → StageStatus) (order : List PipelineStage) :
    validStageProgression stages order = true ↔
      order.Pairwise fun before later => stages before ≠ .complete → stages later = .pending := by
  induction order with
  | nil => simp [validStageProgression]
  | cons stage later ih =>
    rw [validStageProgression, List.pairwise_cons]
    split
    next complete => simp [complete, ih]
    next incomplete =>
      simp only [incomplete, ne_eq, not_false_eq_true, true_imp_iff, List.all_eq_true,
        decide_eq_true_eq]
      constructor
      · intro pending
        exact ⟨pending, List.pairwise_of_forall_mem_list fun _ _ other member _ => pending other member⟩
      · intro facts
        exact facts.1

theorem reopened_inOrder {checkpoint : PipelineCheckpoint}
    (inOrder : validStageProgression checkpoint.stages PipelineStage.order = true) :
    validStageProgression checkpoint.reopened.stages PipelineStage.order = true := by
  unfold PipelineCheckpoint.reopened
  split
  · rw [validStageProgression_iff] at inOrder ⊢
    change ([.preflight, .navigation, .draftAlignment, .planning, .execute] ++
      [.verifyIntegrate, .report] : List PipelineStage).Pairwise _ at inOrder ⊢
    rw [List.pairwise_append] at inOrder ⊢
    obtain ⟨front, -, -⟩ := inOrder
    refine ⟨front.imp_of_mem ?_, by simp, by simp⟩
    intro before later isBefore isLater kept
    have apart : ∀ stage ∈ [PipelineStage.preflight, .navigation, .draftAlignment, .planning,
        .execute], ¬ (stage = .verifyIntegrate ∨ stage = .report) := by decide
    simpa only [if_neg (apart before isBefore), if_neg (apart later isLater)] using kept
  · exact inOrder

/-! ## Runs -/

variable {start : RepairWorld} {done : List Repair}

theorem setTarget_identities {files : List FileState} {adopted : FileState}
    (found : files.find? (·.targetPath = path) = some item)
    (same : adopted.identity = item.identity) :
    (setTarget path adopted files).map FileState.identity = files.map FileState.identity := by
  obtain ⟨before, later, rfl, -, replaced⟩ := setTarget_shape adopted found
  rw [replaced]
  simp [same]

theorem existingRepairs_objects {ledger : Option Json} {entries : List Json}
    (found : existingRepairs ledger = .ok entries) :
    entries.all isObject = true := by
  unfold existingRepairs at found
  split at found
  · obtain rfl := Except.ok.inj found
    rfl
  · split at found
    next objects =>
      obtain rfl := Except.ok.inj found
      exact objects
    · cases found
  · cases found

theorem RepairsRecorded.repaired (recorded : RepairsRecorded tools start done world)
    {call : RepairCall} (returned : repairGeneratedFile tools call world = (.ok result, after)) :
    RepairsRecorded tools start (done ++ [⟨call.sourcePath, result.content.toUTF8⟩]) after := by
  obtain ⟨item, existing, isItem, isContent, before, inOrder, checkpoint, ledger, pipeline⟩ :=
    repairGeneratedFile_returned returned
  obtain ⟨state, saved, found, translated, named⟩ := repairedItem_returned isItem
  obtain ⟨text, written, parses⟩ := repairedContent_returned isContent
  obtain ⟨entries, listed, -, records⟩ := recorded.entries
  obtain rfl : existing = entries := Except.ok.inj (before.symm.trans listed)
  have identities := recorded.identities
  rw [saved, Option.map_some] at identities
  have isRecord : RecordOf tools ((start.checkpoint.map MigrationState.identities).getD [])
      ⟨call.sourcePath, result.content.toUTF8⟩
      (.obj (repairRecord tools item call.sourcePath call.verificationFeedback
        result.content.toUTF8)) := by
    refine ⟨item, call.verificationFeedback, rfl, ?_, translated, named⟩
    rw [← identities, Option.getD_some, MigrationState.identities, List.find?_map]
    exact congrArg (Option.map FileState.identity) found
  have all : List.Forall₂ (RecordOf tools ((start.checkpoint.map MigrationState.identities).getD []))
      (done ++ [⟨call.sourcePath, result.content.toUTF8⟩])
      (existing ++ [.obj (repairRecord tools item call.sourcePath call.verificationFeedback
        result.content.toUTF8)]) :=
    List.rel_append records (.cons isRecord .nil)
  refine ⟨checkpoint ▸ recorded.identities, ⟨_, ?_, fun _ => ledger, all⟩, ?_, ?_⟩
  · rw [ledger, existingRepairs, if_pos]
    rw [List.all_append, existingRepairs_objects before]
    rfl
  · intro _ stored member
    rw [pipeline] at member
    obtain ⟨old, isOld, rfl⟩ := Option.map_eq_some_iff.mp member
    have same : old.withRepairs.stages = old.stages := by
      unfold PipelineCheckpoint.withRepairs
      split <;> rfl
    rw [same]
    exact inOrder old isOld
  · intro repair member
    rcases List.mem_append.mp member with old | new
    · exact recorded.parsed repair old
    · rw [List.mem_singleton.mp new]
      exact ⟨text, by rw [written], parses⟩

theorem RepairsRecorded.adopted (recorded : RepairsRecorded tools start done world)
    (returned : adoptRepairedFile tools path world = (.ok (), after)) :
    RepairsRecorded tools start done after := by
  obtain ⟨adopted, checkpoint, made, stored, inOrder, rfl⟩ :=
    adoptRepairedFile_returned_iff.mp returned
  obtain ⟨state, item, entries, content, fields, saved, found, -, -, -, -, -, -, rfl⟩ :=
    adoption_eq_ok_iff.mp made
  refine ⟨?_, recorded.entries, ?_, recorded.parsed⟩
  · rw [← recorded.identities, saved]
    simp only [Option.map_some, MigrationState.identities]
    exact congrArg some (setTarget_identities found rfl)
  · intro _ other member
    rw [← Option.some.inj member]
    exact reopened_inOrder inOrder

theorem RepairHistory.recorded (fresh : start.ledger = none)
    (history : RepairHistory tools start done world) : RepairsRecorded tools start done world := by
  induction history with
  | start =>
    refine ⟨rfl, ⟨[], by rw [fresh]; rfl, fun some => absurd rfl some, .nil⟩, ?_, by simp⟩
    intro some
    exact absurd rfl some
  | repaired history returned ih => exact ih.repaired returned
  | adopted history returned ih => exact ih.adopted returned
  | outside source target history ih => exact ⟨ih.identities, ih.entries, ih.readable, ih.parsed⟩

/-! ## The first record -/

theorem repairReceipt_cons (item file : FileState) (path feedback : String) (repair : Repair)
    (entries : List Json) :
    repairReceipt (.obj (repairRecord tools file repair.sourcePath feedback repair.content) :: entries)
        item path =
      if repair.sourcePath = item.sourcePath ∧ repair.targetPath = path then
        some (repairRecord tools file repair.sourcePath feedback repair.content)
      else repairReceipt entries item path := by
  have source : Json.field? (repairRecord tools file repair.sourcePath feedback repair.content)
      "source_path" = some (.str repair.sourcePath) := rfl
  have target : Json.field? (repairRecord tools file repair.sourcePath feedback repair.content)
      "target_path" = some (.str repair.targetPath) := rfl
  simp only [repairReceipt, List.findSome?_cons, source, target, Option.some.injEq, Json.str.injEq]
  split <;> split <;> simp_all

theorem repairReceipt_of_records {identities : List FileIdentity} {entries : List Json}
    (records : List.Forall₂ (RecordOf tools identities) done entries) (item : FileState) (path : String) :
    (done.find? (fun repair => repair.sourcePath = item.sourcePath ∧ repair.targetPath = path) = none →
        repairReceipt entries item path = none) ∧
      ∀ first, done.find? (fun repair =>
          repair.sourcePath = item.sourcePath ∧ repair.targetPath = path) = some first →
        ∃ fields, repairReceipt entries item path = some fields ∧
          RecordOf tools identities first (.obj fields) := by
  induction records with
  | nil => exact ⟨fun _ => rfl, by simp⟩
  | @cons repair entry done entries isRecord records ih =>
    obtain ⟨file, feedback, rfl, found, translated, named⟩ := isRecord
    rw [repairReceipt_cons]
    by_cases own : repair.sourcePath = item.sourcePath ∧ repair.targetPath = path
    · rw [List.find?_cons_of_pos (by simpa using own), if_pos own]
      refine ⟨by simp, ?_⟩
      intro first same
      obtain rfl := Option.some.inj same
      exact ⟨_, rfl, file, feedback, rfl, found, translated, named⟩
    · rw [List.find?_cons_of_neg (by simpa using own), if_neg own]
      exact ih

theorem find?_agree {α : Type} {p q : α → Bool} {items : List α} {a b : α}
    (first : items.find? p = some a) (second : items.find? q = some b) (qa : q a = true)
    (pb : p b = true) : a = b := by
  induction items with
  | nil => cases first
  | cons head rest ih =>
    by_cases isP : p head = true
    · rw [List.find?_cons_of_pos isP] at first
      obtain rfl := Option.some.inj first
      rw [List.find?_cons_of_pos qa] at second
      exact Option.some.inj second
    · rw [List.find?_cons_of_neg isP] at first
      by_cases isQ : q head = true
      · rw [List.find?_cons_of_pos isQ] at second
        rw [Option.some.inj second] at isP
        exact absurd pb isP
      · rw [List.find?_cons_of_neg isQ] at second
        exact ih first second

theorem receiptMatches_record {state : MigrationState} {repair : Repair}
    {fields : List (String × Json)} {content : ByteArray}
    (found : state.files.find? (·.targetPath = path) = some item)
    (record : RecordOf tools state.identities repair (.obj fields))
    (source : repair.sourcePath = item.sourcePath) (target : repair.targetPath = path) :
    item.kind = .translate ∧ (receiptMatches tools fields item content = true ↔
      tools.sha256 repair.content = tools.sha256 content) := by
  obtain ⟨file, feedback, same, first, translated, named⟩ := record
  obtain rfl := Json.obj.inj same
  have isItem : state.identities.find? (·.targetPath = path) = some item.identity := by
    rw [MigrationState.identities, List.find?_map]
    exact congrArg (Option.map FileState.identity) found
  have agree : item.identity = file.identity := by
    refine find?_agree isItem first ?_ ?_
    · exact decide_eq_true source.symm
    · exact decide_eq_true (named.trans target)
  have kind : item.kind = file.kind := congrArg FileIdentity.kind agree
  have digest : item.sourceSha256 = file.sourceSha256 := congrArg FileIdentity.sourceSha256 agree
  refine ⟨kind.trans translated, ?_⟩
  have status : Json.field? (repairRecord tools file repair.sourcePath feedback repair.content)
      "status" = some (.str "APPLIED") := rfl
  have method : Json.field? (repairRecord tools file repair.sourcePath feedback repair.content)
      "method" = some (.str "CodeMigrator.repair_generated_file") := rfl
  have sourceHash : Json.field? (repairRecord tools file repair.sourcePath feedback repair.content)
      "source_sha256" = some (.str file.sourceSha256.text) := rfl
  have targetHash : Json.field? (repairRecord tools file repair.sourcePath feedback repair.content)
      "target_sha256" = some (.str (tools.sha256 repair.content).text) := rfl
  have texts : ∀ left right : Sha256, left.text = right.text ↔ left = right := by
    intro left right
    exact ⟨fun equal => by cases left; cases right; simp_all, fun equal => by rw [equal]⟩
  simp [receiptMatches, status, method, sourceHash, targetHash, digest, texts]

theorem fromUTF8?_toUTF8 (text : String) : String.fromUTF8? text.toUTF8 = some text := by
  simp only [String.fromUTF8?, String.toUTF8_eq_toByteArray, dif_pos text.isValidUTF8]
  rfl

/-! ## Adoption after repairs -/

/-- After a history of repairs, the file at a path whose content is that of its latest repair is
adopted exactly where its first repair has written a content with the same hash and there is a
pipeline checkpoint. -/
theorem repaired_file_adopted_iff (tools : RunnerTools)
    (newline : ∀ text, tools.parses text = true → tools.parses (text ++ "\n") = true)
    {start world : RepairWorld} {done : List Repair} {path : String} {latest : Repair}
    (fresh : start.ledger = none) (history : RepairHistory tools start done world)
    (last : done.reverse.find? (·.targetPath = path) = some latest)
    (inPlace : readRoot world.target path = .ok latest.content) :
    Adopts tools path latest.content world ↔ FirstRepairStands tools done path latest.content world := by
  have recorded := history.recorded fresh
  obtain ⟨entries, -, listed, records⟩ := recorded.entries
  have member : latest ∈ done := List.mem_reverse.mp (List.mem_of_find?_eq_some last)
  have nonempty : done ≠ [] := List.ne_nil_of_mem member
  constructor
  · intro adopts
    obtain ⟨after, -, -, -, -, returned, -⟩ := adopts
    obtain ⟨adopted, checkpoint, made, stored, -⟩ := adoptRepairedFile_returned_iff.mp returned
    obtain ⟨state, item, others, content, fields, saved, found, -, ledger, read, -, receipt, same, -⟩ :=
      adoption_eq_ok_iff.mp made
    obtain rfl : entries = others := by simpa using (listed nonempty).symm.trans ledger
    obtain rfl : content = latest.content := Except.ok.inj (read.symm.trans inPlace)
    have identities := recorded.identities
    rw [saved, Option.map_some] at identities
    rw [← identities, Option.getD_some] at records
    obtain ⟨missing, present⟩ := repairReceipt_of_records records item path
    cases first : done.find? (fun repair =>
        repair.sourcePath = item.sourcePath ∧ repair.targetPath = path) with
    | none =>
      rw [missing first] at receipt
      cases receipt
    | some repair =>
      obtain ⟨own, isReceipt, record⟩ := present repair first
      obtain rfl : own = fields := by simpa using isReceipt.symm.trans receipt
      have isOwn := List.find?_some first
      simp only [decide_eq_true_eq] at isOwn
      refine ⟨by simp [stored], state, item, repair, saved, found, first, ?_⟩
      exact (receiptMatches_record found record isOwn.1 isOwn.2).2.mp same
  · intro stands
    obtain ⟨kept, state, item, repair, saved, found, first, same⟩ := stands
    obtain ⟨checkpoint, stored⟩ := Option.ne_none_iff_exists'.mp kept
    have identities := recorded.identities
    rw [saved, Option.map_some] at identities
    rw [← identities, Option.getD_some] at records
    obtain ⟨fields, receipt, record⟩ := (repairReceipt_of_records records item path).2 repair first
    have isOwn := List.find?_some first
    simp only [decide_eq_true_eq] at isOwn
    obtain ⟨translated, hash⟩ : item.kind = .translate ∧
        (receiptMatches tools fields item latest.content = true ↔
          tools.sha256 repair.content = tools.sha256 latest.content) :=
      receiptMatches_record found record isOwn.1 isOwn.2
    have parses : (String.fromUTF8? latest.content).any tools.parses = true := by
      obtain ⟨text, written, valid⟩ := recorded.parsed latest member
      rw [written, fromUTF8?_toUTF8, Option.any_some]
      exact newline text valid
    obtain ⟨before, later, files, others, replaced⟩ :=
      setTarget_shape (adoptedFile tools item latest.content) found
    have named : item.targetPath = path := by simpa using List.find?_some found
    refine ⟨_, state, before, item, later, adoptRepairedFile_returned_iff.mpr ⟨_, checkpoint,
      adoption_eq_ok_iff.mpr ⟨state, item, entries, latest.content, fields, saved, found, translated,
        listed nonempty, inPlace, parses, receipt, hash.mpr same, rfl⟩, stored,
      recorded.readable nonempty checkpoint stored, rfl⟩, saved, files, named, others, ?_⟩
    rw [replaced]
    rfl

end Histories

namespace SampleRepairs

/-- The digests of the contents below. -/
def sha256 (content : ByteArray) : Sha256 :=
  if content.data.toList = "package main\n".toUTF8.data.toList then
    ⟨"df1d036cbbf3df46e2045071e082245ece204c7f53ecf0a4e022bff9bb228f47", by decide⟩
  else if content.data.toList = "x = 1\n".toUTF8.data.toList then
    ⟨"9e26bf369911c45c243c684147b23fc9e1dcfcf257d299a1c632016a6fcd33f4", by decide⟩
  else if content.data.toList = "x = 2\n".toUTF8.data.toList then
    ⟨"4205c4809ab1b080fd32b6bf9640e5feaa6d1b69bf9fa684954ab710157ec141", by decide⟩
  else if content.data.toList = "wrong value".toUTF8.data.toList then
    ⟨"9fadebbc2418cdd32ebd16a95d6c33ca31ccb7d441143efb5face220598f44fd", by decide⟩
  else .ofNothing

def tools : RunnerTools :=
  { sha256 := sha256
    parses := fun _ => true
    digestContents := fun _ =>
      ⟨"f72948235e05abad62860e5ccaf994ea9deaf16c0255037b43c574b24e65efed", by decide⟩
    descriptorDigest := sha256 .empty
    analyze := fun _ => .ok .empty
    json := fun _ => .empty }

/-- A migration of one file, which is translated. -/
def start : RepairWorld :=
  { source := ⟨true, false, false, [("main.go", .file "package main\n".toUTF8)]⟩
    target := some ⟨.ofPairs [("main.py", "x = 1\n".toUTF8)], ∅⟩
    checkpoint := some (freshState tools ⟨.ofPairs [("main.go", "package main\n".toUTF8)], []⟩)
    ledger := none
    pipeline := some ⟨fun _ => .complete, [], .report, []⟩ }

/-- A repair with this answer of the translator. -/
def call (answer : String) : RepairCall :=
  ⟨"main.go", fun _ _ _ _ => .ok ⟨answer, none⟩, "wrong value"⟩

/-- The world after a repair. -/
def once : RepairWorld := (repairGeneratedFile tools (call "x = 1") start).2

/-- The world after a second repair with another content. -/
def twice : RepairWorld := (repairGeneratedFile tools (call "x = 2") once).2

theorem once_repaired : RepairHistory tools start [⟨"main.go", "x = 1\n".toUTF8⟩] once := by
  have returned : repairGeneratedFile tools (call "x = 1") start = (.ok ⟨"x = 1\n", none⟩, once) :=
    Prod.ext (by decide) rfl
  exact RepairHistory.start.repaired returned

theorem twice_repaired : RepairHistory tools start
    [⟨"main.go", "x = 1\n".toUTF8⟩, ⟨"main.go", "x = 2\n".toUTF8⟩] twice := by
  have returned : repairGeneratedFile tools (call "x = 2") once = (.ok ⟨"x = 2\n", none⟩, twice) :=
    Prod.ext (by decide) rfl
  exact once_repaired.repaired returned

/-- A file that was repaired once is adopted. -/
theorem repaired_file_adopted_once :
    Adopts tools "main.py" "x = 1\n".toUTF8 once := by
  have stands : FirstRepairStands tools [⟨"main.go", "x = 1\n".toUTF8⟩] "main.py" "x = 1\n".toUTF8
      once := by
    refine ⟨?_, freshState tools ⟨.ofPairs [("main.go", "package main\n".toUTF8)], []⟩, _, _,
      by decide, rfl, rfl, rfl⟩
    rw [← Option.isSome_iff_ne_none]
    decide
  have last : ([⟨"main.go", "x = 1\n".toUTF8⟩] : List Repair).reverse.find?
      (·.targetPath = "main.py") = some ⟨"main.go", "x = 1\n".toUTF8⟩ := rfl
  exact (repaired_file_adopted_iff tools (fun _ _ => rfl) rfl once_repaired last (by decide)).mpr stands

/-- After a second repair with another content the file is refused. -/
theorem second_repair_not_adopted : ¬ ∀ (tools : RunnerTools),
    (∀ text, tools.parses text = true → tools.parses (text ++ "\n") = true) →
    ∀ (start world : RepairWorld) (done : List Repair) (path : String) (latest : Repair),
    start.ledger = none → RepairHistory tools start done world →
    done.reverse.find? (·.targetPath = path) = some latest →
    readRoot world.target path = .ok latest.content → Adopts tools path latest.content world := by
  intro all
  obtain ⟨after, -, -, -, -, returned, -⟩ := all tools (fun _ _ => rfl) start twice _ "main.py"
    ⟨"main.go", "x = 2\n".toUTF8⟩ rfl twice_repaired (by rfl) (by decide)
  have refused : (adoptRepairedFile tools "main.py" twice).1 =
      .error (.raised (.value "repair provenance does not match the target checkpoint")) := by decide
  rw [returned] at refused
  cases refused

end SampleRepairs

end CodeMigrator
