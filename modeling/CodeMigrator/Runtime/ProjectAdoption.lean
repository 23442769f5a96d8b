import CodeMigrator.Runtime.ProjectCompletion

/-!
# What a migration takes for its own

A resumed run takes any content that is acceptable in place of a file that it has not completed
for one that an interrupted write left there. Where that is all that it finds, a file is marked
as completed only for a content that the migration itself put in place.
-/

namespace CodeMigrator
open Lib

namespace ProjectMigrationRunner
open Lib.Process

/-- The content that was last put in place for a source file. -/
def lastWrote (source : String) (history : List ProjectEvent) : Option ByteArray :=
  history.reverse.findSome? (fun event =>
    match event with
    | .wrote (some other) _ content => if other = source then some content else none
    | _ => none)

/-- What is put in place of a file that is copied: the source, or the metadata for `go.mod`. -/
def Copied (tools : RunnerTools) (file : FileIdentity) (content : ByteArray) : Prop :=
  file.kind = .copy → tools.sha256 content = file.sourceSha256 ∨
    file.sourcePath = "go.mod" ∧ content = targetProjectMetadata

/-- How a file comes to be completed after an invocation. -/
inductive Accounted (tools : RunnerTools) (fromPhase : Option String) (before : ProjectWorld)
    (history : List ProjectEvent) (file : FileIdentity) : Prop where
  /-- It was completed and not sent back: its content has the recorded hash, or the invocation
  names its phase. -/
  | stayed (stored : MigrationState) (item : FileState) (found : before.checkpoint = some stored)
      (member : item ∈ stored.files) (same : item.identity = file) (succeeded : item.status = .succeeded)
      (intact : fromPhase = none → ∃ tree content, before.target = some tree ∧
        tree.readAll file.targetPath = .ok content ∧ item.targetSha256 = some (tools.sha256 content))
  /-- The invocation put it in place. -/
  | rewritten (content : ByteArray) (rewrote : Rewrote before.history history file content)
  /-- The content that the invocation found is what was last put in place for it. -/
  | recovered (tree : FileTree) (content : ByteArray) (target : before.target = some tree)
      (found : tree.readAll file.targetPath = .ok content)
      (own : lastWrote file.sourcePath before.history = some content)
      (copied : Copied tools file content)

/-- A file that an invocation finds open has nothing acceptable in its place but what was last put
there for it. -/
def FindsOwn (tools : RunnerTools) (world : ProjectWorld) : ProjectStep → Prop
  | .invoke request _ _ => request.resume = true → request.source.holdsStateDir = false →
      ∀ snapshot stored tree, preflight request.source = .ok snapshot →
      world.checkpoint = some stored → resumable tools snapshot stored = .ok () →
      world.target = some tree → ∀ item ∈ stored.files, item.status ≠ .succeeded →
      ∀ content, tree.readAll item.targetPath = .ok content →
        acceptable tools.toMigrationTools item.kind content = true →
        lastWrote item.sourcePath world.history = some content
  | .change _ => True

/-- Every file that a step leaves completed in `state.json` is accounted for. -/
def MarksOwn (tools : RunnerTools) (world : ProjectWorld) (input : ProjectStep) : Prop :=
  match input with
  | .invoke request _ _ =>
    let after := step tools world input
    after.checkpoint = world.checkpoint ∨ ∀ stored, after.checkpoint = some stored →
      ∀ item ∈ stored.files, item.status = .succeeded →
        Accounted tools request.fromPhase world after.history item.identity
  | .change _ => True

/-- What the history tells was put in place for a file of the checkpoint, with a content that it
may have. -/
def Recorded (tools : RunnerTools) (identities : List FileIdentity) (history : List ProjectEvent) : Prop :=
  ∀ source target content, .wrote (some source) target content ∈ history →
    ∃ file ∈ identities, file.sourcePath = source ∧ file.targetPath = target ∧ Copied tools file content

variable {tools : RunnerTools} {world : ProjectWorld} {history events : List ProjectEvent}
  {item : FileState} {tree : FileTree} {state : MigrationState} {snapshot : SourceSnapshot}
  {request : ProjectMigrationRequest} {identities : List FileIdentity}

/-! ## What was last put in place -/

theorem lastWrote_append (source : String) (history more : List ProjectEvent) :
    lastWrote source (history ++ more) = (lastWrote source more).or (lastWrote source history) := by
  simp [lastWrote, List.reverse_append, List.findSome?_append]

theorem mem_of_lastWrote {source : String} {content : ByteArray}
    (last : lastWrote source history = some content) :
    ∃ target, .wrote (some source) target content ∈ history := by
  obtain ⟨event, member, wrote⟩ := List.exists_of_findSome?_eq_some last
  rw [List.mem_reverse] at member
  split at wrote
  · next other target data =>
    split at wrote
    · next same =>
      obtain rfl := Option.some.inj wrote
      exact ⟨target, same ▸ member⟩
    · cases wrote
  · cases wrote

theorem Accounted.later {fromPhase : Option String} {before : ProjectWorld} {file : FileIdentity}
    (accounted : Accounted tools fromPhase before history file) (more : List ProjectEvent) :
    Accounted tools fromPhase before (history ++ more) file := by
  cases accounted with
  | stayed stored item found member same succeeded intact =>
    exact .stayed stored item found member same succeeded intact
  | rewritten content rewrote => exact .rewritten content (rewrote.later (List.prefix_append _ _))
  | recovered tree content target found own copied =>
    exact .recovered tree content target found own copied

theorem fileContent_copied {contents : Dict String ByteArray}
    {translator : Option (String → String → Except Raised TranslationResult)} {content : ByteArray}
    (made : fileContent tools contents translator item = .ok content) :
    Copied tools item.identity content := by
  intro copy
  change item.kind = .copy at copy
  unfold fileContent at made
  split at made
  · cases made
  next source found =>
  split at made
  · cases made
  next same =>
  rw [copy] at made
  obtain rfl := Except.ok.inj made
  split
  · next metadata => exact .inr ⟨metadata, rfl⟩
  · exact .inl (not_not.mp same)

/-! ## What a run keeps -/

/-- A world in the run of an invocation: its completed files are accounted for, those of the
checkpoint as well once it has been saved. -/
structure Accounts (tools : RunnerTools) (fromPhase : Option String) (before world : ProjectWorld) :
    Prop where
  since : before.history <+: world.history
  identities : ∀ stored, world.checkpoint = some stored → stored.identities = world.state.identities
  written : world.checkpoint.isSome = true → Recorded tools world.state.identities world.history
  unwritten : world.checkpoint = none → ∀ source target content,
    .wrote (some source) target content ∉ world.history
  memory : ∀ item ∈ world.state.files, item.status = .succeeded →
    Accounted tools fromPhase before world.history item.identity
  saved : world.checkpoint = before.checkpoint ∨ ∀ stored, world.checkpoint = some stored →
    ∀ item ∈ stored.files, item.status = .succeeded →
      Accounted tools fromPhase before world.history item.identity

variable {fromPhase : Option String} {before : ProjectWorld}

theorem Accounts.tell (accounts : Accounts tools fromPhase before world) {other : ProjectWorld}
    (history : other.history = world.history ++ events)
    (checkpoint : other.checkpoint = world.checkpoint) (state : other.state = world.state)
    (recorded : Recorded tools world.state.identities events)
    (there : events ≠ [] → world.checkpoint = none → ∀ source target content,
      ProjectEvent.wrote (some source) target content ∉ events) :
    Accounts tools fromPhase before other where
  since := history ▸ accounts.since.trans (List.prefix_append _ _)
  identities := by
    rw [checkpoint, state]
    exact accounts.identities
  written := by
    intro saved source target content member
    rw [checkpoint] at saved
    rw [history, List.mem_append] at member
    rw [state]
    rcases member with earlier | new
    · exact accounts.written saved source target content earlier
    · exact recorded source target content new
  unwritten := by
    intro none_ source target content member
    rw [checkpoint] at none_
    rw [history, List.mem_append] at member
    rcases member with earlier | new
    · exact accounts.unwritten none_ source target content earlier
    · exact there (List.ne_nil_of_mem new) none_ source target content new
  memory := by
    rw [state, history]
    exact fun item member succeeded => (accounts.memory item member succeeded).later events
  saved := by
    rw [checkpoint, history]
    refine accounts.saved.imp_right ?_
    exact fun all stored found item member succeeded =>
      (all stored found item member succeeded).later events

theorem Accounts.kept : Kept tools (Accounts tools fromPhase before) where
  weather := fun _ _ accounts => ⟨accounts.since, accounts.identities, accounts.written,
    accounts.unwritten, accounts.memory, accounts.saved⟩
  state := by
    intro world state unmarked accounts
    have same : state.identities = world.state.identities := identities_of_unmarked unmarked
    refine ⟨accounts.since, ?_, ?_, accounts.unwritten, ?_, accounts.saved⟩
    · intro stored found
      rw [accounts.identities stored found, same]
    · intro saved
      rw [same]
      exact accounts.written saved
    · intro item member succeeded
      obtain ⟨old, was, rehashed⟩ := forall₂_origin unmarked member
      rw [rehashed.identity]
      exact accounts.memory old was (rehashed.status succeeded)
  saved := by
    intro world accounts
    refine ⟨accounts.since, ?_, ?_, ?_, accounts.memory, .inr ?_⟩
    · intro stored found
      obtain rfl := Option.some.inj found
      rfl
    · intro _ source target content member
      cases checkpoint : world.checkpoint with
      | some stored =>
        exact accounts.written (by rw [checkpoint]; rfl) source target content member
      | none => exact absurd member (accounts.unwritten checkpoint source target content)
    · intro none_
      cases none_
    · intro stored found
      obtain rfl := Option.some.inj found
      exact accounts.memory
  made := fun _ accounts => ⟨accounts.since, accounts.identities, accounts.written,
    accounts.unwritten, accounts.memory, accounts.saved⟩
  reported := by
    intro world tree report fault _ accounts
    refine accounts.tell rfl rfl rfl ?_ ?_
    · intro source target content member
      cases told_subset member
    · intro _ _ source target content member
      cases told_subset member

theorem Accounts.upheld (contents : Dict String ByteArray)
    (translator : Option (String → String → Except Raised TranslationResult)) :
    Upheld tools contents translator before.history
      (fun world => Accounts tools fromPhase before world ∧ world.checkpoint.isSome = true) where
  weather := fun world rest both => ⟨Accounts.kept.weather world rest both.1, both.2⟩
  state := fun world state unmarked both => ⟨Accounts.kept.state world state unmarked both.1, both.2⟩
  saved := fun world both => ⟨Accounts.kept.saved world both.1, rfl⟩
  made := fun world both => ⟨Accounts.kept.made world both.1, both.2⟩
  reported := fun world tree report fault target both =>
    ⟨Accounts.kept.reported world tree report fault target both.1, both.2⟩
  since := fun _ both => both.1.since
  turns := fun _ _ both => ⟨⟨both.1.since, both.1.identities, both.1.written, both.1.unwritten,
    both.1.memory, both.1.saved⟩, both.2⟩
  marked := by
    rintro world position item content found rewrote ⟨accounts, there⟩
    have same := @identities_modify world.state.files position (completed tools content) (fun _ => rfl)
    refine ⟨⟨accounts.since, ?_, ?_, accounts.unwritten, ?_, accounts.saved⟩, there⟩
    · intro stored saved
      exact (accounts.identities stored saved).trans same.symm
    · intro saved
      change Recorded tools (List.map FileState.identity _) _
      rw [same]
      exact accounts.written saved
    · intro other member succeeded
      obtain ⟨index, at_⟩ := List.mem_iff_getElem?.mp member
      simp only [List.getElem?_modify] at at_
      obtain ⟨old, was, rfl⟩ := Option.map_eq_some_iff.mp at_
      split at succeeded
      · next here =>
        subst here
        obtain rfl := Option.some.inj (found.symm.trans was)
        rw [if_pos rfl]
        exact .rewritten content rewrote
      · next elsewhere =>
        rw [if_neg elsewhere]
        exact accounts.memory old (List.mem_of_getElem? was) succeeded
  written := by
    rintro world tree item content fault target member made ⟨accounts, there⟩
    refine ⟨accounts.tell rfl rfl rfl ?_ ?_, there⟩
    · intro source path data told_
      obtain ⟨same, rfl, rfl⟩ := ProjectEvent.wrote.inj (told_subset told_)
      obtain rfl := Option.some.inj same
      exact ⟨item.identity, List.mem_map.mpr ⟨item, member, rfl⟩, rfl, rfl, fileContent_copied made⟩
    · intro _ none_
      rw [none_] at there
      cases there
  verified := by
    rintro world tree checks ⟨accounts, there⟩
    refine ⟨accounts.tell rfl rfl rfl ?_ ?_, there⟩
    · intro source path content member
      simp at member
    · intro _ _ source path content member
      simp at member

/-! ## What a resumed run loads -/

theorem adoptable_facts {content : ByteArray}
    (adopted : adoptable tools.toMigrationTools tree item = some content) :
    item.status ≠ .succeeded ∧ tree.readAll item.targetPath = .ok content ∧
      acceptable tools.toMigrationTools item.kind content = true := by
  unfold adoptable at adopted
  split at adopted
  · cases adopted
  next open_ =>
  split at adopted
  · split at adopted
    · next data read =>
      split at adopted
      · next fits =>
        obtain rfl := Option.some.inj adopted
        exact ⟨open_, read, fits⟩
      · cases adopted
    · cases adopted
  · cases adopted

theorem adoptFile_identity (tree : FileTree) (item : FileState) :
    (adoptFile tools.toMigrationTools tree item).identity = item.identity := by
  unfold adoptFile
  split
  · rfl
  · rfl

theorem adopt_succeeded {target : Option FileTree}
    (member : item ∈ (adoptValidTargetFiles tools.toMigrationTools state target).files)
    (succeeded : item.status = .succeeded) :
    item ∈ state.files ∨ ∃ tree old content, target = some tree ∧ old ∈ state.files ∧
      old.status ≠ .succeeded ∧ item.identity = old.identity ∧
      tree.readAll old.targetPath = .ok content ∧
      acceptable tools.toMigrationTools old.kind content = true := by
  cases target with
  | none => exact .inl member
  | some tree =>
    obtain ⟨old, was, rfl⟩ := List.mem_map.mp member
    cases adopted : adoptable tools.toMigrationTools tree old with
    | none =>
      refine .inl ?_
      simpa only [adoptFile, adopted] using was
    | some content =>
      obtain ⟨open_, read, fits⟩ := adoptable_facts adopted
      exact .inr ⟨tree, old, content, rfl, was, open_, adoptFile_identity tree old, read, fits⟩

/-- A file that is completed after the reconciliation was so before, and its content has the
recorded hash. -/
theorem reconcile_succeeded {target : Option FileTree}
    (member : item ∈ (reconcileTargetFiles tools.toMigrationTools state target).files)
    (succeeded : item.status = .succeeded) :
    item ∈ state.files ∧ ∃ tree content, target = some tree ∧
      tree.readAll item.targetPath = .ok content ∧
      item.targetSha256 = some (tools.sha256 content) := by
  cases target with
  | none =>
    obtain ⟨old, was, rfl⟩ := List.mem_map.mp member
    split at succeeded
    · cases succeeded
    · next open_ => exact absurd succeeded open_
  | some tree =>
    have mapped : item ∈ state.files.map (fun item =>
        if stale tools.toMigrationTools tree item then resetFile item else item) := by
      simp only [reconcileTargetFiles] at member
      split at member
      · exact member
      · exact member
    obtain ⟨old, was, rfl⟩ := List.mem_map.mp mapped
    split at succeeded
    · cases succeeded
    next fresh =>
    rw [if_neg fresh]
    refine ⟨was, tree, ?_⟩
    simp only [stale, succeeded, decide_true, Bool.true_and] at fresh
    split at fresh
    · exact absurd rfl fresh
    · next content read =>
      exact ⟨content, rfl, read, by simpa using fresh⟩

theorem loaded_identities (target : Option FileTree) :
    (adoptValidTargetFiles tools.toMigrationTools state target).identities = state.identities ∧
      (reconcileTargetFiles tools.toMigrationTools state target).identities = state.identities := by
  constructor
  · cases target with
    | none => rfl
    | some tree =>
      simp only [adoptValidTargetFiles, MigrationState.identities, List.map_map]
      exact List.map_congr_left (fun item _ => adoptFile_identity tree item)
  · have reset : ∀ (sent : FileState → Bool), (state.files.map (fun item =>
        if sent item then resetFile item else item)).map FileState.identity = state.identities := by
      intro sent
      rw [List.map_map]
      refine List.map_congr_left (fun item _ => ?_)
      simp only [Function.comp_apply]
      split
      · rfl
      · rfl
    cases target with
    | none =>
      have all := reset (fun item => item.status = .succeeded)
      simp only [decide_eq_true_eq] at all
      exact all
    | some tree =>
      simp only [reconcileTargetFiles]
      split
      · exact reset _
      · exact reset _

theorem resumed_identities {fromPhase : Option String} (target : Option FileTree) :
    (if fromPhase = none then reconcileTargetFiles tools.toMigrationTools
        (adoptValidTargetFiles tools.toMigrationTools state target) target
      else adoptValidTargetFiles tools.toMigrationTools state target).identities =
        state.identities := by
  split
  · exact (loaded_identities target).2.trans (loaded_identities target).1
  · exact (loaded_identities target).1

/-- A new run begins without a checkpoint and with a target that holds no file. -/
theorem loaded_fresh {fromPhase : Option String} {checkpoint : Option MigrationState}
    {target : Option FileTree}
    (loaded : loadOrInitialize tools false fromPhase snapshot checkpoint target = .ok state) :
    checkpoint = none ∧ state = freshState tools snapshot ∧
      ∀ tree path, target = some tree → tree.files.get? path = none := by
  unfold loadOrInitialize at loaded
  rw [if_neg (by simp)] at loaded
  split at loaded
  · cases loaded
  next none_ =>
  split at loaded
  · cases loaded
  next fresh =>
  refine ⟨by simpa using none_, (Except.ok.inj loaded).symm, ?_⟩
  rintro tree path rfl
  have empty : tree.files.entries = [] := by
    by_contra some_
    exact fresh (by simp [some_])
  unfold Dict.get?
  rw [empty]
  rfl

theorem validateCheckpointFiles_unique {seen : List String} {files : List FileState}
    (valid : validateCheckpointFiles seen files = .ok ()) :
    (files.map FileState.sourcePath).Nodup ∧
      ∀ item ∈ files, item.sourcePath ∉ seen ∧ item.targetPath = targetPath item.sourcePath := by
  induction files generalizing seen with
  | nil => exact ⟨List.nodup_nil, fun _ none_ => absurd none_ List.not_mem_nil⟩
  | cons item items ih =>
    unfold validateCheckpointFiles at valid
    split at valid
    · cases valid
    split at valid
    · cases valid
    next new =>
    split at valid
    · cases valid
    next named =>
    obtain ⟨unique, apart⟩ := ih valid
    refine ⟨List.nodup_cons.mpr ⟨?_, unique⟩, ?_⟩
    · intro again
      obtain ⟨other, member, same⟩ := List.mem_map.mp again
      exact (apart other member).1 (same ▸ List.mem_cons_self)
    · intro other member
      rcases List.mem_cons.mp member with rfl | later
      · exact ⟨new, not_not.mp named⟩
      · obtain ⟨absent, path⟩ := apart other later
        exact ⟨fun seen_ => absent (List.mem_cons_of_mem _ seen_), path⟩

theorem resumable_valid {stored : MigrationState}
    (accepted : resumable tools snapshot stored = .ok ()) :
    validateCheckpointFiles [] stored.files = .ok () := by
  unfold resumable at accepted
  cases valid : validateCheckpointFiles [] stored.files with
  | error raised =>
    rw [valid] at accepted
    cases accepted
  | ok _ => rfl

/-! ## Invocations -/

/-- What lasts of a world: what the history tells was put in place belongs to the files of the
checkpoint, and nothing was put in place before there was one. -/
structure Tracked (tools : RunnerTools) (world : ProjectWorld) : Prop where
  written : ∀ stored, world.checkpoint = some stored →
    Recorded tools stored.identities world.history
  unwritten : world.checkpoint = none → ∀ source target content,
    .wrote (some source) target content ∉ world.history

theorem Accounts.tracked (accounts : Accounts tools fromPhase before world) : Tracked tools world where
  written := by
    intro stored found
    rw [accounts.identities stored found]
    exact accounts.written (by rw [found]; rfl)
  unwritten := accounts.unwritten

theorem adoptions_quiet {resume : Bool} {checkpoint : Option MigrationState} {target : Option FileTree}
    (source path : String) (content : ByteArray) :
    ProjectEvent.wrote (some source) path content ∉ adoptions tools resume checkpoint target := by
  intro member
  unfold adoptions at member
  split at member
  · obtain ⟨item, -, some_⟩ := List.mem_filterMap.mp member
    obtain ⟨data, -, same⟩ := Option.map_eq_some_iff.mp some_
    cases same
  · cases member

theorem loaded_accounts {weather : List Weather} {turns : List Nat} (tracked : Tracked tools world)
    (own : FindsOwn tools world (.invoke request weather turns))
    (apart : request.source.holdsStateDir = false)
    (walked : preflight request.source = .ok snapshot)
    (loaded : loadOrInitialize tools request.resume request.fromPhase snapshot world.checkpoint
      world.target = .ok state) :
    Accounts tools request.fromPhase world { invoked world weather turns with
      state := state
      history := world.history ++ adoptions tools request.resume world.checkpoint world.target } := by
  have history : ∀ source target content, ProjectEvent.wrote (some source) target content ∈
      world.history ++ adoptions tools request.resume world.checkpoint world.target →
      ProjectEvent.wrote (some source) target content ∈ world.history := by
    intro source target content member
    exact (List.mem_append.mp member).resolve_right (adoptions_quiet source target content)
  have untold : world.checkpoint = none → ∀ source target content,
      ProjectEvent.wrote (some source) target content ∉
        world.history ++ adoptions tools request.resume world.checkpoint world.target :=
    fun none_ source target content member =>
      tracked.unwritten none_ source target content (history source target content member)
  cases resume : request.resume with
  | false =>
    rw [resume] at loaded untold
    obtain ⟨none_, rfl, -⟩ := loaded_fresh loaded
    refine ⟨List.prefix_append _ _, ?_, ?_, untold, ?_, .inl rfl⟩
    · intro stored found
      rw [show world.checkpoint = some stored from found] at none_
      cases none_
    · intro there
      rw [show (invoked world weather turns).checkpoint = none from none_] at there
      cases there
    · intro item member succeeded
      obtain ⟨entry, -, rfl⟩ := List.mem_map.mp member
      cases succeeded
  | true =>
    rw [resume] at loaded history untold
    obtain ⟨stored, found, accepted, rfl⟩ := loadOrInitialize_resume loaded
    obtain ⟨unique, -⟩ := validateCheckpointFiles_unique (resumable_valid accepted)
    have identities := @resumed_identities tools stored request.fromPhase world.target
    -- an adopted file has what was last put in place for it
    have adopted : ∀ item ∈ (adoptValidTargetFiles tools.toMigrationTools stored world.target).files,
        item.status = .succeeded → item ∈ stored.files ∨
          Accounted tools request.fromPhase world
            (world.history ++ adoptions tools true world.checkpoint world.target) item.identity := by
      intro item member succeeded
      rcases adopt_succeeded member succeeded with there |
        ⟨tree, old, content, target, was, open_, same, read, fits⟩
      · exact .inl there
      have last := own resume apart snapshot stored tree walked found accepted target old was open_ content
        read fits
      obtain ⟨path, wrote⟩ := mem_of_lastWrote last
      obtain ⟨file, listed, source, -, copied⟩ := tracked.written stored found _ _ _ wrote
      obtain ⟨other, otherIn, rfl⟩ := List.mem_map.mp listed
      obtain rfl := List.inj_on_of_nodup_map unique otherIn was source
      rw [same]
      exact .inr (.recovered tree content target read last copied)
    refine ⟨List.prefix_append _ _, ?_, ?_, untold, ?_, .inl rfl⟩
    · intro other same
      obtain rfl := Option.some.inj (found.symm.trans same)
      exact identities.symm
    · intro _ source target content member
      rw [identities]
      exact tracked.written stored found source target content (history source target content member)
    · intro item member succeeded
      change item ∈ MigrationState.files (if _ then _ else _) at member
      split at member
      · obtain ⟨adoptedIn, tree, content, target, read, hash⟩ := reconcile_succeeded member succeeded
        rcases adopted item adoptedIn succeeded with there | accounted
        · exact .stayed stored item found there rfl succeeded
            (fun _ => ⟨tree, content, target, read, hash⟩)
        · exact accounted
      · next named =>
        rcases adopted item member succeeded with there | accounted
        · exact .stayed stored item found there rfl succeeded (fun none_ => absurd none_ named)
        · exact accounted

theorem step_marks {input : ProjectStep} (tracked : Tracked tools world)
    (own : FindsOwn tools world input) :
    Tracked tools (step tools world input) ∧ MarksOwn tools world input := by
  cases input with
  | change target => exact ⟨⟨tracked.written, tracked.unwritten⟩, trivial⟩
  | invoke request weather turns =>
    have ended : (run tools request).After (.keeping (fun reached => Tracked tools reached ∧
        (reached.checkpoint = world.checkpoint ∨ ∀ stored, reached.checkpoint = some stored →
          ∀ item ∈ stored.files, item.status = .succeeded →
            Accounted tools request.fromPhase world reached.history item.identity))
        (fun _ _ => True)) (invoked world weather turns) := by
      refine run_keeping_of ⟨⟨tracked.written, tracked.unwritten⟩, .inl rfl⟩ (fun _ _ => trivial) ?_
      intro apart snapshot state walked loaded
      have accounts := loaded_accounts tracked own apart walked loaded
      refine ⟨⟨accounts.tracked, accounts.saved⟩, ?_⟩
      refine (runLoaded_upheld Accounts.kept (Accounts.upheld _ _) ?_ accounts).weaken
        ⟨fun _ _ both => ⟨⟨both.1.tracked, both.1.saved⟩, both.2⟩,
          fun _ _ kept => ⟨kept.tracked, kept.saved⟩, fun _ kept => ⟨kept.tracked, kept.saved⟩⟩
      intro resume
      rw [resume] at loaded
      obtain ⟨stored, found, -⟩ := loadOrInitialize_resume loaded
      exact Option.isSome_iff_exists.mpr ⟨stored, found⟩
    exact ended.kept

theorem Untouched.tracked (untouched : Untouched world) : Tracked tools world where
  written := by
    intro stored found
    rw [untouched.checkpoint] at found
    cases found
  unwritten := by
    intro _ source target content member
    rw [untouched.history] at member
    cases member

/-! ## Runs that nobody disturbs -/

/-- Files with sources and targets of their own, none of which is the report. -/
structure Separate (identities : List FileIdentity) : Prop where
  sources : (identities.map FileIdentity.sourcePath).Nodup
  targets : (identities.map FileIdentity.targetPath).Nodup
  report : ∀ file ∈ identities, file.targetPath ≠ "codemigrator-report.json"

/-- The files have nothing acceptable in their places but what was last put there for them. -/
def Owns (tools : RunnerTools) (identities : List FileIdentity) (target : Option FileTree)
    (history : List ProjectEvent) : Prop :=
  ∀ file ∈ identities, ∀ tree, target = some tree → ∀ content,
    tree.files.get? file.targetPath = some content →
    acceptable tools.toMigrationTools file.kind content = true →
    lastWrote file.sourcePath history = some content

/-- The sources of an invocation have targets of their own, none of which is the report, and a
change from outside puts nothing acceptable in the place of a file but what is there. -/
def Undisturbed (tools : RunnerTools) (world : ProjectWorld) : ProjectStep → Prop
  | .invoke request _ _ => ∀ snapshot, preflight request.source = .ok snapshot →
      (snapshot.contents.keys.map targetPath).Nodup ∧
        "codemigrator-report.json" ∉ snapshot.contents.keys.map targetPath
  | .change target => ∀ stored tree, world.checkpoint = some stored → target = some tree →
      ∀ item ∈ stored.files, ∀ content, tree.files.get? item.targetPath = some content →
        acceptable tools.toMigrationTools item.kind content = true →
        ∃ before, world.target = some before ∧ before.files.get? item.targetPath = some content

/-- A world in the run of an invocation that nobody disturbed. -/
structure Owned (tools : RunnerTools) (world : ProjectWorld) : Prop where
  identities : ∀ stored, world.checkpoint = some stored → stored.identities = world.state.identities
  separate : Separate world.state.identities
  owns : Owns tools world.state.identities world.target world.history

/-- What lasts of a world that nobody disturbed. -/
def AtRest (tools : RunnerTools) (world : ProjectWorld) : Prop :=
  ∀ stored, world.checkpoint = some stored →
    Separate stored.identities ∧ Owns tools stored.identities world.target world.history

theorem lastWrote_append_other {source : String}
    (others : ∀ target content, ProjectEvent.wrote (some source) target content ∉ events) :
    lastWrote source (history ++ events) = lastWrote source history := by
  rw [lastWrote_append]
  cases last : lastWrote source events with
  | none => rfl
  | some content =>
    obtain ⟨target, member⟩ := mem_of_lastWrote last
    exact absurd member (others target content)

theorem Owns.tell {target : Option FileTree} (owns : Owns tools identities target history)
    (others : ∀ source target content, ProjectEvent.wrote (some source) target content ∉ events) :
    Owns tools identities target (history ++ events) := by
  intro file listed tree found content there fits
  rw [lastWrote_append_other (others file.sourcePath)]
  exact owns file listed tree found content there fits

theorem Owns.elsewhere (owns : Owns tools identities (some tree) history) {path : String}
    (apart : ∀ file ∈ identities, file.targetPath ≠ path) (content : ByteArray) (fault : IoFault) :
    Owns tools identities (some (tree.writeAtomic path content fault).1) history := by
  rintro file listed _ ⟨rfl⟩ data there fits
  refine owns file listed tree rfl data ?_ fits
  rcases writeAtomic_told tree path content fault (.wrote none path content) with
    ⟨files, -, -⟩ | ⟨files, -⟩
  · rwa [files] at there
  · rw [files, Dict.get?_set, if_neg (apart file listed)] at there
    exact there

theorem Owns.write (owns : Owns tools identities (some tree) history)
    (separate : Separate identities) {file : FileIdentity} (listed : file ∈ identities)
    (content : ByteArray) (fault : IoFault) :
    Owns tools identities (some (tree.writeAtomic file.targetPath content fault).1)
      (history ++ told (.wrote file.sourcePath file.targetPath content) fault
        (tree.writeAtomic file.targetPath content fault).2) := by
  rintro other otherIn _ ⟨rfl⟩ data there fits
  rcases writeAtomic_told tree file.targetPath content fault
    (.wrote file.sourcePath file.targetPath content) with ⟨files, none_, -⟩ | ⟨files, told_⟩
  · rw [files] at there
    rw [none_, List.append_nil]
    exact owns other otherIn tree rfl data there fits
  · rw [files, Dict.get?_set] at there
    rw [told_]
    split at there
    · next same =>
      obtain rfl := List.inj_on_of_nodup_map separate.targets otherIn listed same
      rw [lastWrote_append, ← there]
      simp [lastWrote]
    · next elsewhere =>
      have different : other.sourcePath ≠ file.sourcePath := by
        intro same
        exact elsewhere (congrArg _ (List.inj_on_of_nodup_map separate.sources otherIn listed same))
      rw [lastWrote_append_other ?_]
      · exact owns other otherIn tree rfl data there fits
      · intro target data member
        obtain ⟨same, -, -⟩ := ProjectEvent.wrote.inj (List.mem_singleton.mp member)
        exact different (Option.some.inj same)

theorem Owned.kept : Kept tools (Owned tools) where
  weather := fun _ _ owned => ⟨owned.identities, owned.separate, owned.owns⟩
  state := by
    intro world state unmarked owned
    have same : state.identities = world.state.identities := identities_of_unmarked unmarked
    refine ⟨?_, same ▸ owned.separate, same ▸ owned.owns⟩
    intro stored found
    rw [owned.identities stored found, same]
  saved := by
    intro world owned
    refine ⟨?_, owned.separate, owned.owns⟩
    intro stored found
    obtain rfl := Option.some.inj found
    rfl
  made := by
    intro world owned
    refine ⟨owned.identities, owned.separate, ?_⟩
    cases target : world.target with
    | none =>
      rintro file _ _ ⟨rfl⟩ content there _
      simp at there
    | some tree =>
      have owns := owned.owns
      rw [target] at owns
      exact owns
  reported := by
    intro world tree report fault target owned
    refine ⟨owned.identities, owned.separate, ?_⟩
    have owns := owned.owns
    rw [target] at owns
    refine Owns.tell (owns.elsewhere owned.separate.report _ fault) ?_
    intro source path content member
    cases told_subset member

theorem Owned.upheld (contents : Dict String ByteArray)
    (translator : Option (String → String → Except Raised TranslationResult)) :
    Upheld tools contents translator [] (fun world => Owned tools world ∧ world.checkpoint.isSome = true)
    where
  weather := fun world rest both => ⟨Owned.kept.weather world rest both.1, both.2⟩
  state := fun world state unmarked both => ⟨Owned.kept.state world state unmarked both.1, both.2⟩
  saved := fun world both => ⟨Owned.kept.saved world both.1, rfl⟩
  made := fun world both => ⟨Owned.kept.made world both.1, both.2⟩
  reported := fun world tree report fault target both =>
    ⟨Owned.kept.reported world tree report fault target both.1, both.2⟩
  since := fun _ _ => List.nil_prefix
  turns := fun _ _ both => ⟨⟨both.1.identities, both.1.separate, both.1.owns⟩, both.2⟩
  marked := by
    rintro world position item content - - ⟨owned, there⟩
    have same := @identities_modify world.state.files position (completed tools content) (fun _ => rfl)
    refine ⟨⟨fun stored saved => (owned.identities stored saved).trans same.symm, ?_, ?_⟩, there⟩
    · change Separate (List.map FileState.identity _)
      rw [same]
      exact owned.separate
    · change Owns tools (List.map FileState.identity _) _ _
      rw [same]
      exact owned.owns
  written := by
    rintro world tree item content fault target member - ⟨owned, there⟩
    refine ⟨⟨owned.identities, owned.separate, ?_⟩, there⟩
    have owns := owned.owns
    rw [target] at owns
    have listed : item.identity ∈ world.state.identities := List.mem_map.mpr ⟨item, member, rfl⟩
    exact owns.write owned.separate listed content fault
  verified := by
    rintro world tree checks ⟨owned, there⟩
    refine ⟨⟨owned.identities, owned.separate, owned.owns.tell ?_⟩, there⟩
    intro source target content member
    simp at member

theorem freshState_separate (targets : (snapshot.contents.keys.map targetPath).Nodup)
    (report : "codemigrator-report.json" ∉ snapshot.contents.keys.map targetPath) :
    Separate (freshState tools snapshot).identities := by
  have sources : (freshState tools snapshot).identities.map FileIdentity.sourcePath =
      snapshot.contents.keys := by
    simp [freshState, MigrationState.identities, FileState.identity, Dict.keys, Function.comp_def]
  have named : (freshState tools snapshot).identities.map FileIdentity.targetPath =
      snapshot.contents.keys.map targetPath := by
    simp [freshState, MigrationState.identities, FileState.identity, Dict.keys, Function.comp_def]
  refine ⟨sources ▸ snapshot.contents.nodup, named ▸ targets, ?_⟩
  intro file listed same
  exact report (named ▸ List.mem_map.mpr ⟨file, listed, same⟩)

theorem loaded_owned {weather : List Weather} {turns : List Nat} (rest : AtRest tools world)
    (undisturbed : Undisturbed tools world (.invoke request weather turns))
    (walked : preflight request.source = .ok snapshot)
    (loaded : loadOrInitialize tools request.resume request.fromPhase snapshot world.checkpoint
      world.target = .ok state) :
    Owned tools { invoked world weather turns with
      state := state
      history := world.history ++ adoptions tools request.resume world.checkpoint world.target } := by
  cases resume : request.resume with
  | false =>
    rw [resume] at loaded
    obtain ⟨none_, rfl, fresh⟩ := loaded_fresh loaded
    obtain ⟨targets, report⟩ := undisturbed snapshot walked
    refine ⟨?_, freshState_separate targets report, ?_⟩
    · intro stored found
      rw [show world.checkpoint = some stored from found] at none_
      cases none_
    · intro file _ tree target content there _
      rw [fresh tree _ target] at there
      cases there
  | true =>
    rw [resume] at loaded
    obtain ⟨stored, found, -, rfl⟩ := loadOrInitialize_resume loaded
    obtain ⟨separate, owns⟩ := rest stored found
    have identities := @resumed_identities tools stored request.fromPhase world.target
    refine ⟨?_, ?_, ?_⟩
    · intro other same
      obtain rfl := Option.some.inj (found.symm.trans same)
      exact identities.symm
    · rw [identities]
      exact separate
    · rw [identities]
      exact owns.tell adoptions_quiet

theorem step_atRest {input : ProjectStep} (rest : AtRest tools world)
    (undisturbed : Undisturbed tools world input) : AtRest tools (step tools world input) := by
  cases input with
  | change target =>
    intro stored found
    obtain ⟨separate, owns⟩ := rest stored found
    refine ⟨separate, ?_⟩
    intro file listed tree target content there fits
    obtain ⟨item, member, rfl⟩ := List.mem_map.mp listed
    obtain ⟨before, was, still⟩ := undisturbed stored tree found target item member content there fits
    exact owns _ listed before was content still fits
  | invoke request weather turns =>
    have owned_rest : ∀ {reached : ProjectWorld}, Owned tools reached → AtRest tools reached := by
      intro reached owned stored found
      rw [owned.identities stored found]
      exact ⟨owned.separate, owned.owns⟩
    have ended : (run tools request).After (.keeping (AtRest tools) (fun _ _ => True))
        (invoked world weather turns) := by
      refine run_keeping_of rest (fun _ _ => trivial) ?_
      intro _ snapshot state walked loaded
      have owned := loaded_owned rest undisturbed walked loaded
      refine ⟨owned_rest owned, ?_⟩
      refine (runLoaded_upheld Owned.kept (Owned.upheld _ _) ?_ owned).weaken
        ⟨fun _ _ both => ⟨owned_rest both.1, both.2⟩, fun _ _ kept => owned_rest kept,
          fun _ kept => owned_rest kept⟩
      intro resume
      rw [resume] at loaded
      obtain ⟨stored, found, -⟩ := loadOrInitialize_resume loaded
      exact Option.isSome_iff_exists.mpr ⟨stored, found⟩
    exact ended.kept

theorem AtRest.findsOwn (rest : AtRest tools world) (input : ProjectStep) : FindsOwn tools world input := by
  cases input with
  | change target => trivial
  | invoke request weather turns =>
    intro _ _ snapshot stored tree _ found _ target item member _ content read fits
    exact (rest stored found).2 item.identity (List.mem_map.mpr ⟨item, member, rfl⟩) tree target content
      (FileTree.readAll_ok read) fits

/-- Over any invocations on one state directory, fresh, failed, interrupted or resumed, with any
changes of the target between them: where every resumption finds open files with nothing
acceptable in their places but what was last put there, every file that is marked as completed
was accounted for; and that is all that runs find which nobody disturbs. -/
theorem completed_files_accounted (tools : RunnerTools) (start : ProjectWorld)
    (untouched : Untouched start) (inputs : List ProjectStep) :
    (Along (step tools) (FindsOwn tools) start inputs → Along (step tools) (MarksOwn tools) start inputs) ∧
      (Along (step tools) (Undisturbed tools) start inputs →
        Along (step tools) (FindsOwn tools) start inputs) := by
  constructor
  · exact along_of_along (Tracked tools) (fun _ _ tracked own => (step_marks tracked own).1)
      (fun _ _ tracked own => (step_marks tracked own).2) untouched.tracked
  · refine along_of_along (AtRest tools) (fun _ _ rest undisturbed => step_atRest rest undisturbed)
      (fun _ input rest _ => rest.findsOwn input) ?_
    intro stored found
    rw [untouched.checkpoint] at found
    cases found

end ProjectMigrationRunner

namespace SampleProject
open ProjectMigrationRunner

/-- Someone puts another text in the place of the file. -/
def tampered : ProjectStep := .change (some ⟨Dict.ofPairs [("notes.txt", ⟨#[120]⟩)], ∅⟩)

/-- The first run dies once the state is saved in which the file is completed. -/
def diesAfterWriting : ProjectStep :=
  .invoke fresh (List.replicate 6 ⟨.none, false⟩ ++ [⟨.none, true⟩]) []

/-- A resumption dies once its state is saved: the second write, after that of the directory. -/
def diesEarly : ProjectStep := .invoke (resumption none) [⟨.none, false⟩, ⟨.none, true⟩] []

/-- The source of a write for a source file. -/
def wroteFor : ProjectEvent → Option String
  | .wrote source _ _ => source
  | _ => none

/-- The world that the last resumption finds: the file is open, and another text is in its place. -/
def afterTampering : ProjectWorld :=
  runFrom (ProjectMigrationRunner.step tools) start [diesAfterWriting, tampered, diesEarly]

/-- The file that was tampered with is sent back; the run dies before it is rewritten, and the
next one takes the other text for its own. -/
theorem tampered_file_adopted :
    ¬ ∀ inputs, Along (ProjectMigrationRunner.step tools) (MarksOwn tools) start inputs := by
  intro always
  obtain ⟨-, -, -, marked, -⟩ := always [diesAfterWriting, tampered, diesEarly, diesEarly]
  change MarksOwn tools afterTampering diesEarly at marked
  have statuses : afterTampering.checkpoint.map (fun state => state.files.map (·.status)) =
      some [.pending] := by decide
  have completed : (ProjectMigrationRunner.step tools afterTampering diesEarly).checkpoint.map (fun state =>
      state.files.map (fun item => (item.status, item.identity.sourcePath, item.identity.targetPath))) =
      some [(.succeeded, "notes.txt", "notes.txt")] := by decide
  have unwritten : ((ProjectMigrationRunner.step tools afterTampering diesEarly).history.drop
      afterTampering.history.length).filterMap wroteFor = [] := by decide
  have there : afterTampering.target.map (fun tree => tree.readAll "notes.txt") =
      some (.ok ⟨#[120]⟩) := by decide
  have own : lastWrote "notes.txt" afterTampering.history = some ⟨#[110, 111, 116, 101, 115, 10]⟩ := by
    decide
  obtain ⟨stored, saved, files⟩ := Option.map_eq_some_iff.mp completed
  obtain ⟨item, member, succeeded, source, target⟩ : ∃ item ∈ stored.files,
      item.status = .succeeded ∧ item.identity.sourcePath = "notes.txt" ∧
        item.identity.targetPath = "notes.txt" := by
    have first := List.mem_singleton_self (FileStatus.succeeded, "notes.txt", "notes.txt")
    rw [← files] at first
    obtain ⟨item, member, same⟩ := List.mem_map.mp first
    exact ⟨item, member, (Prod.mk.inj same).1, (Prod.mk.inj (Prod.mk.inj same).2).1,
      (Prod.mk.inj (Prod.mk.inj same).2).2⟩
  -- the file was open before
  have open_ : ∀ old, afterTampering.checkpoint = some old → ∀ item ∈ old.files,
      item.status ≠ .succeeded := by
    intro old found item member succeeded
    rw [found] at statuses
    have listed := List.mem_map.mpr ⟨item, member, succeeded⟩
    rw [show old.files.map (·.status) = [.pending] from Option.some.inj statuses] at listed
    cases List.mem_singleton.mp listed
  rcases marked with same | accounted
  · exact open_ stored (same ▸ saved) item member succeeded
  cases accounted stored saved item member succeeded with
  | stayed old other found member _ succeeded _ => exact open_ old found other member succeeded
  | rewritten content rewrote =>
    obtain ⟨since, same, member⟩ := rewrote
    rw [same, List.drop_left] at unwritten
    have listed := List.mem_filterMap.mpr ⟨_, member, (rfl : wroteFor _ = some item.identity.sourcePath)⟩
    rw [unwritten] at listed
    cases listed
  | recovered tree content found read last _ =>
    rw [target] at read
    rw [found, Option.map_some, read] at there
    rw [source, own] at last
    obtain rfl := Except.ok.inj (Option.some.inj there)
    exact absurd last (by decide)

/-- An interrupted run is resumed, and resumed again when its target was lost. -/
theorem completed_files_accounted_resumed :
    Along (ProjectMigrationRunner.step tools) (MarksOwn tools) start
      [interrupted, resumed none, .change none, resumed none] := by
  obtain ⟨marks, finds⟩ := completed_files_accounted tools start ⟨rfl, rfl⟩
    [interrupted, resumed none, .change none, resumed none]
  have separate : ∀ snapshot, preflight source = .ok snapshot →
      (snapshot.contents.keys.map targetPath).Nodup ∧
        "codemigrator-report.json" ∉ snapshot.contents.keys.map targetPath := by
    intro snapshot walked
    have keys : (preflight source).toOption.map (fun snapshot => snapshot.contents.keys.map targetPath) =
        some ["notes.txt"] := by decide
    rw [walked] at keys
    rw [show snapshot.contents.keys.map targetPath = ["notes.txt"] from Option.some.inj keys]
    decide
  refine marks (finds ⟨separate, separate, ?_, separate, trivial⟩)
  intro _ _ _ none_
  cases none_

end SampleProject

end CodeMigrator
