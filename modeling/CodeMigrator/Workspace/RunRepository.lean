import CodeMigrator.Lib.Transition
import CodeMigrator.Workspace.FileSets

/-!
# Setting up a run and applying a file set

`initialize` and `apply_file_set` of `GitRunRepository` (`workspace/git.py`) as sequences of Git
commands, any of which may fail or be the last one of its process, and what becomes of a second
call.
-/

namespace CodeMigrator
open Lib

/-- `FileSetApplication`, for the run of the repository. -/
structure FileSetApplication where
  sliceId : SliceId
  generation : CandidateGeneration
  sourceCandidateOid : GitOid
  expectedVerifiedOid : GitOid
  appliedPaths : List String
  prospectiveCommitOid : GitOid
  deriving DecidableEq

/-- What `apply_file_set` is called with. -/
structure FileSetRequest where
  sourceCandidateOid : GitOid
  expectedVerifiedOid : GitOid
  sliceId : SliceId
  generation : CandidateGeneration
  baseVerifiedOid : GitOid

namespace OutputRepository
open Lib.Process

variable (layout : GitRefLayout) (commitOid : GitCommit → GitOid)

/-- A command of `initialize` that leaves commits and refs as they are. -/
def configure : Git Unit := query (fun _ => some ())

/-- `initialize`. -/
def initializeRun : Git GitRefLayout :=
  -- `init --bare` and three `config` commands
  configure >>= fun _ => configure >>= fun _ => configure >>= fun _ => configure >>= fun _ =>
    attempt (resolve layout.base) >>= fun existingBase =>
      match existingBase with
      | some base =>
        resolve layout.verified >>= fun verified =>
          if verified ≠ base then raise .integrity else pure layout
      | none =>
        createCommit commitOid Dict.empty none "CodeMigrator empty output base" >>= fun root =>
          createImmutableRef layout.base root >>= fun _ =>
            createImmutableRef layout.verified root >>= fun _ => pure layout

/-- One commit is another or comes before it. -/
def reaches (repository : GitRepository) : Nat → GitOid → GitOid → Bool
  | 0, _, _ => false
  | fuel + 1, ancestor, oid =>
    match repository.commits.get? oid with
    | none => false
    | some commit =>
      ancestor == oid || commit.parents.any (fun parent => reaches repository fuel ancestor parent)

/-- `merge-base --is-ancestor`; no way to an ancestor is longer than there are commits. -/
def isAncestor (ancestor oid : GitOid) : Git Unit :=
  query (fun repository =>
    if reaches repository repository.commits.entries.length ancestor oid then some () else none)

/-- A command whose failure is a `GitIntegrityError`. -/
def orIntegrity {α : Type} (body : Git α) : Git α :=
  catching body (fun error => raise (if error = .command then .integrity else error))

/-- The loop over the paths. -/
def updateIndex (after : GitTree) (index : GitTree) : List String → Git GitTree
  | [] => pure index
  | path :: paths =>
    query (fun _ => GitIndex.applyPath after index path) >>= fun index =>
      updateIndex after index paths

variable (request : FileSetRequest)

/-- What the commit of an application says. -/
def integrationMessage : String :=
  "Integrate slice " ++ request.sliceId.str ++ " generation " ++ toString request.generation.val

/-- `apply_file_set`. -/
def applyFileSet : Git FileSetApplication :=
  orIntegrity (resolve (layout.candidate request.sliceId request.generation)) >>= fun current =>
    if current ≠ request.sourceCandidateOid then raise .integrity
    else
      parents request.sourceCandidateOid >>= fun sourceParents =>
        if sourceParents.length ≠ 1 then raise .integrity
        else
          orIntegrity (isAncestor request.baseVerifiedOid request.sourceCandidateOid) >>= fun _ =>
            listTree request.baseVerifiedOid >>= fun before =>
              listTree request.sourceCandidateOid >>= fun after =>
                -- `read-tree`
                listTree request.expectedVerifiedOid >>= fun expected =>
                  updateIndex after expected (GitIndex.appliedPaths before after) >>= fun tree =>
                    -- `write-tree`
                    configure >>= fun _ =>
                      createCommit commitOid tree (some request.expectedVerifiedOid)
                          (integrationMessage request) >>= fun prospective =>
                        createImmutableRef (layout.integration request.sliceId request.generation)
                            prospective >>= fun _ =>
                          pure ⟨request.sliceId, request.generation, request.sourceCandidateOid,
                            request.expectedVerifiedOid, GitIndex.appliedPaths before after,
                            prospective⟩

/-! ## Histories -/

/-- What happens to the repository before a call: an attempt at it, at some time and with some
fates, or an integration that advances the verified ref. -/
inductive RepositoryEvent where
  | attempt (time : Nat) (fates : List CommandFate)
  | advance (oid : GitOid)

/-- The verified ref moves on to another commit, where there is one. -/
def advanceVerified (repository : GitRepository) (oid : GitOid) : GitRepository :=
  if (repository.refs.get? layout.verified).isSome ∧ (repository.commits.get? oid).isSome then
    { repository with refs := repository.refs.set layout.verified oid }
  else repository

/-- The repository after an event. -/
def afterEvent {α : Type} (call : Git α) (repository : GitRepository) :
    RepositoryEvent → GitRepository
  | .attempt time fates => (call ⟨repository, time, fates⟩).2.repository
  | .advance oid => advanceVerified layout repository oid

variable {layout commitOid} {ref : String} {oid : GitOid}

/-! ## `initialize` again -/

/-- The verified ref comes after the base ref, and both name commits. -/
structure Begun (layout : GitRefLayout) (repository : GitRepository) : Prop where
  order : repository.refs.get? layout.base = none → repository.refs.get? layout.verified = none
  base : ∀ oid, repository.refs.get? layout.base = some oid → (repository.commits.get? oid).isSome
  verified : ∀ oid, repository.refs.get? layout.verified = some oid →
    (repository.commits.get? oid).isSome

theorem Begun.withCommit {repository : GitRepository} (begun : Begun layout repository)
    (oid : GitOid) (commit : GitCommit) :
    Begun layout (OutputRepository.withCommit repository oid commit) := by
  have keeps : ∀ other, (repository.commits.get? other).isSome →
      ((OutputRepository.withCommit repository oid commit).commits.get? other).isSome := by
    intro other present
    obtain ⟨found, here⟩ := Option.isSome_iff_exists.mp present
    rw [withCommit_keeps here]
    rfl
  have refs := withCommit_refs repository oid commit
  exact ⟨by rw [refs]; exact begun.order,
    fun other here => keeps other (begun.base other (by rw [← refs]; exact here)),
    fun other here => keeps other (begun.verified other (by rw [← refs]; exact here))⟩

theorem present_of_commitAt {repository : GitRepository}
    (named : commitAt repository ref = some oid) : (repository.commits.get? oid).isSome :=
  (Option.filter_eq_some_iff.mp named).2

theorem get?_of_commitAt {repository : GitRepository} (named : commitAt repository ref = some oid) :
    repository.refs.get? ref = some oid :=
  (Option.filter_eq_some_iff.mp named).1

theorem commitAt_of_present {repository : GitRepository}
    (named : repository.refs.get? ref = some oid) (present : (repository.commits.get? oid).isSome) :
    commitAt repository ref = some oid := by
  rw [commitAt, named, Option.filter_some, if_pos present]

theorem Begun.bound {repository after : GitRepository} (begun : Begun layout repository)
    (bound : Bound repository after ref oid)
    (inside : ref = layout.base ∨ ref = layout.verified ∧ repository.refs.get? layout.base ≠ none) :
    Begun layout after := by
  obtain ⟨named, rfl | rfl⟩ := bound
  · exact begun
  · have present : (repository.commits.get? oid).isSome := (Option.filter_eq_some_iff.mp named).2
    refine ⟨?_, ?_, ?_⟩
    · simp only [Dict.get?_set]
      rcases inside with rfl | ⟨rfl, based⟩
      · rw [if_pos rfl]
        intro impossible
        cases impossible
      · rw [if_neg layout.base_ne_verified]
        exact fun absent => absurd absent based
    · intro other here
      simp only [Dict.get?_set] at here
      split at here
      · cases here
        exact present
      · exact begun.base other here
    · intro other here
      simp only [Dict.get?_set] at here
      split at here
      · cases here
        exact present
      · exact begun.verified other here

theorem initializeRun_begun {world : GitWorld} (begun : Begun layout world.repository) :
    (initializeRun layout commitOid).After
      (.keeping (fun after => Begun layout after.repository) (fun _ _ => True)) world := by
  have configured : ∀ {world : GitWorld}, Begun layout world.repository →
      configure.After (.keeping (fun after => Begun layout after.repository) (fun _ _ => True))
        world :=
    fun begun => after_query ⟨begun, begun⟩ fun _ _ => ⟨begun, trivial⟩
  refine keeping_bind (configured begun) fun _ _ begun _ => keeping_bind (configured begun)
    fun _ _ begun _ => keeping_bind (configured begun) fun _ _ begun _ =>
      keeping_bind (configured begun) fun _ world begun _ => ?_
  refine keeping_bind (m := fun _ _ => True) ?_ fun existing world begun _ => ?_
  · refine after_attempt_resolve (fun after same => ?_) (fun after same => ⟨?_, trivial⟩)
      fun _ _ after same => ⟨?_, trivial⟩
    all_goals
      change Begun layout after.repository
      rw [same]
      exact begun
  · cases existing with
    | some base =>
      refine keeping_bind (m := fun _ _ => True)
        (after_query ⟨begun, begun⟩ fun _ _ => ⟨begun, trivial⟩) fun verified world begun _ => ?_
      split
      · exact keeping_raise begun
      · exact keeping_pure begun trivial
    | none =>
      refine keeping_bind (m := fun _ _ => True) ?_ fun root world begun _ => ?_
      · refine after_createCommit rfl ⟨begun, begun⟩ fun after _ made => ?_
        have begun : Begun layout after.repository := by
          rw [made]
          exact begun.withCommit _ _
        exact ⟨⟨begun, trivial⟩, begun⟩
      · refine keeping_bind (m := fun _ after => after.repository.refs.get? layout.base ≠ none) ?_
          fun _ world begun based => ?_
        · refine (after_createImmutableRef rfl _ _).weaken ⟨fun _ after bound => ⟨?_, ?_⟩,
            fun _ after same => ?_, fun after ended => ?_⟩
          · exact begun.bound bound (.inl rfl)
          · intro absent
            have named := get?_of_commitAt bound.named
            rw [absent] at named
            cases named
          · change Begun layout after.repository
            rw [show after.repository = world.repository from same]
            exact begun
          · change Begun layout after.repository
            rcases ended with same | bound
            · rw [same]
              exact begun
            · exact begun.bound bound (.inl rfl)
        · refine keeping_bind (m := fun _ _ => True) ?_ fun _ _ begun _ => keeping_pure begun trivial
          refine (after_createImmutableRef rfl _ _).weaken ⟨fun _ after bound => ⟨?_, trivial⟩,
            fun _ after same => ?_, fun after ended => ?_⟩
          · exact begun.bound bound (.inr ⟨rfl, based⟩)
          · change Begun layout after.repository
            rw [show after.repository = world.repository from same]
            exact begun
          · change Begun layout after.repository
            rcases ended with same | bound
            · rw [same]
              exact begun
            · exact begun.bound bound (.inr ⟨rfl, based⟩)

theorem Begun.advance {repository : GitRepository} (begun : Begun layout repository) (oid : GitOid) :
    Begun layout (advanceVerified layout repository oid) := by
  rw [advanceVerified]
  split
  · next moves =>
      obtain ⟨there, present⟩ := moves
      have based : repository.refs.get? layout.base ≠ none := by
        intro absent
        rw [begun.order absent] at there
        cases there
      refine begun.bound ⟨?_, .inr rfl⟩ (.inr ⟨rfl, based⟩)
      exact commitAt_of_present (by simp) present
  · exact begun

theorem begun_of_history {repository : GitRepository} (begun : Begun layout repository)
    (events : List RepositoryEvent) :
    Begun layout
      (runFrom (afterEvent layout (initializeRun layout commitOid)) repository events) := by
  refine @runFrom_invariant _ _ (afterEvent layout (initializeRun layout commitOid))
    (Begun layout) (fun repository event begun => ?_) _ begun events
  cases event with
  | attempt time fates =>
    exact (@initializeRun_begun layout commitOid ⟨repository, time, fates⟩ begun).kept
  | advance oid => exact begun.advance oid

theorem configure_healthy (repository : GitRepository) (time : Nat) :
    configure ⟨repository, time, []⟩ = (.ok (), ⟨repository, time, []⟩) := query_healthy rfl

/-- A call of `initialize` succeeds and moves no ref. -/
def InitializesAgain (layout : GitRefLayout) (commitOid : GitCommit → GitOid)
    (repository : GitRepository) (time : Nat) : Prop :=
  ∃ after, initializeRun layout commitOid ⟨repository, time, []⟩ = (.ok layout, after) ∧
    ∀ ref oid, repository.refs.get? ref = some oid → after.repository.refs.get? ref = some oid

theorem initializesAgain_iff {repository : GitRepository} (begun : Begun layout repository)
    (time : Nat) :
    InitializesAgain layout commitOid repository time ↔
      repository.refs.get? layout.base = none ∨
        repository.refs.get? layout.verified = repository.refs.get? layout.base := by
  have start : initializeRun layout commitOid ⟨repository, time, []⟩ = (match
      commitAt repository layout.base with
      | some base =>
        resolve layout.verified >>= fun verified =>
          if verified ≠ base then raise .integrity else pure layout
      | none =>
        createCommit commitOid Dict.empty none "CodeMigrator empty output base" >>= fun root =>
          createImmutableRef layout.base root >>= fun _ =>
            createImmutableRef layout.verified root >>= fun _ => pure layout : Git GitRefLayout)
      ⟨repository, time, []⟩ := by
    rw [initializeRun, bind_of_ok (configure_healthy repository time),
      bind_of_ok (configure_healthy repository time), bind_of_ok (configure_healthy repository time),
      bind_of_ok (configure_healthy repository time),
      bind_of_ok (attempt_resolve_healthy repository time layout.base)]
  unfold InitializesAgain
  cases based : repository.refs.get? layout.base with
  | none =>
    -- nothing has been set up
    refine iff_of_true ?_ (.inl rfl)
    have unnamed : commitAt repository layout.base = none := by rw [commitAt, based]; rfl
    generalize root_eq : (⟨Dict.empty, [], "CodeMigrator empty output base", time⟩ : GitCommit) =
      root at *
    let made := withCommit repository (commitOid root) root
    have refs : made.refs = repository.refs := withCommit_refs _ _ _
    have present : (made.commits.get? (commitOid root)).isSome := withCommit_present _ _ _
    have first := @createImmutableRef_new made layout.base (commitOid root)
      (by rw [refs]; exact based) present time
    let bound : GitRepository := { made with refs := made.refs.set layout.base (commitOid root) }
    have unverified : bound.refs.get? layout.verified = none := by
      have apart : layout.verified ≠ layout.base := layout.base_ne_verified.symm
      simp only [bound, Dict.get?_set, if_neg apart, refs]
      exact begun.order based
    have second := @createImmutableRef_new bound layout.verified (commitOid root) unverified present
      time
    refine ⟨⟨{ bound with refs := bound.refs.set layout.verified (commitOid root) }, time, []⟩, ?_,
      fun ref oid here => ?_⟩
    · have created := createCommit_healthy commitOid Dict.empty none
        "CodeMigrator empty output base" repository time
      rw [Option.toList_none, root_eq] at created
      rw [start, unnamed]
      dsimp only
      rw [bind_of_ok created, bind_of_ok first, bind_of_ok second]
      rfl
    · have other : ref ≠ layout.base := by
        rintro rfl
        rw [based] at here
        cases here
      have other' : ref ≠ layout.verified := by
        rintro rfl
        rw [begun.order based] at here
        cases here
      simp only [bound, Dict.get?_set, if_neg other, if_neg other', refs]
      exact here
  | some base =>
    have named := commitAt_of_present based (begun.base base based)
    rw [start, named]
    dsimp only
    cases verified : repository.refs.get? layout.verified with
    | none =>
      -- the process died between the two refs
      have unnamed : commitAt repository layout.verified = none := by
        rw [commitAt, verified]
        rfl
      refine iff_of_false ?_ (by simp)
      rintro ⟨after, ran, -⟩
      rw [bind_of_error (resolve_healthy_none unnamed time)] at ran
      cases ran
    | some oid =>
      have resolved := commitAt_of_present verified (begun.verified oid verified)
      rw [bind_of_ok (resolve_healthy resolved time)]
      by_cases same : oid = base
      · subst same
        rw [if_neg (not_not.mpr rfl)]
        exact iff_of_true ⟨_, rfl, fun _ _ here => here⟩ (.inr rfl)
      · -- the verified ref has moved on
        rw [if_pos same]
        refine iff_of_false ?_ (by simp [same])
        rintro ⟨after, ran, -⟩
        cases ran

/-! ## What `apply_file_set` does -/

/-- The commit of an application. -/
def integrationCommit (request : FileSetRequest) (tree : GitTree) (time : Nat) : GitCommit :=
  ⟨tree, [request.expectedVerifiedOid], integrationMessage request, time⟩

/-- The checks pass, and the loop gives a tree. -/
structure Applicable (layout : GitRefLayout) (request : FileSetRequest) (repository : GitRepository)
    (before after index tree : GitTree) : Prop where
  current : commitAt repository (layout.candidate request.sliceId request.generation) =
    some request.sourceCandidateOid
  source : ∃ parent message time, repository.commits.get? request.sourceCandidateOid =
    some ⟨after, [parent], message, time⟩
  descends : reaches repository repository.commits.entries.length request.baseVerifiedOid
    request.sourceCandidateOid = true
  base : (repository.commits.get? request.baseVerifiedOid).map (·.tree) = some before
  verified : (repository.commits.get? request.expectedVerifiedOid).map (·.tree) = some index
  applied : GitIndex.applyFileSet index before after = some tree

/-- What a call returns. -/
def applicationOf (commitOid : GitCommit → GitOid) (request : FileSetRequest)
    (before after tree : GitTree) (time : Nat) : FileSetApplication :=
  ⟨request.sliceId, request.generation, request.sourceCandidateOid, request.expectedVerifiedOid,
    GitIndex.appliedPaths before after, commitOid (integrationCommit request tree time)⟩

/-- The scratch ref of the application. -/
def scratch (layout : GitRefLayout) (request : FileSetRequest) : String :=
  layout.integration request.sliceId request.generation

/-- What a call may leave: nothing new, the commit, or the commit and the scratch ref. -/
def Touched (layout : GitRefLayout) (commitOid : GitCommit → GitOid) (request : FileSetRequest)
    (repository : GitRepository) (time : Nat) (after : GitRepository) : Prop :=
  after = repository ∨ ∃ before source index tree,
    Applicable layout request repository before source index tree ∧
      (after = withCommit repository (commitOid (integrationCommit request tree time))
          (integrationCommit request tree time) ∨
        Bound (withCommit repository (commitOid (integrationCommit request tree time))
          (integrationCommit request tree time)) after (scratch layout request)
          (commitOid (integrationCommit request tree time)))

/-- A part that only looks: the repository and the time stay. -/
def looking {α : Type} (repository : GitRepository) (time : Nat) (done : α → Prop) :
    Ends GitWorld GitError α :=
  ⟨fun value after => done value ∧ after.repository = repository ∧ after.time = time,
    fun _ after => after.repository = repository, fun after => after.repository = repository⟩

theorem bind_looking {α β : Type} {first : Git β} {next : β → Git α} {repository : GitRepository}
    {time : Nat} {done : β → Prop} {ends : Ends GitWorld GitError α} {world : GitWorld}
    (looks : first.After (looking repository time done) world)
    (stops : ∀ after : GitWorld, after.repository = repository →
      (∀ error, ends.raises error after) ∧ ends.dies after)
    (goes : ∀ value after, done value → after.repository = repository → after.time = time →
      (next value).After ends after) : (first >>= next).After ends world := by
  rw [after_bind]
  exact looks.weaken ⟨fun value after seen => goes value after seen.1 seen.2.1 seen.2.2,
    fun error after same => (stops after same).1 error, fun after same => (stops after same).2⟩

section Looking

variable {repository : GitRepository} {time : Nat} {world : GitWorld}

theorem looking_query {α : Type} {run : GitRepository → Option α}
    (here : world.repository = repository) (now : world.time = time) :
    (query run).After (looking repository time (fun value => run repository = some value)) world := by
  subst here now
  exact after_query ⟨rfl, rfl⟩ fun _ ran => ⟨ran, rfl, rfl⟩

theorem looking_orIntegrity {α : Type} {run : GitRepository → Option α}
    (here : world.repository = repository) (now : world.time = time) :
    (orIntegrity (query run)).After
      (looking repository time (fun value => run repository = some value)) world := by
  subst here now
  rw [orIntegrity, after_catching]
  exact after_query ⟨rfl, rfl⟩ fun _ ran => ⟨ran, rfl, rfl⟩

theorem looking_updateIndex {after : GitTree} (paths : List String) (index : GitTree)
    (here : world.repository = repository) (now : world.time = time) :
    (updateIndex after index paths).After (looking repository time
      (fun tree => paths.foldlM (GitIndex.applyPath after) index = some tree)) world := by
  induction paths generalizing index world with
  | nil => exact ⟨rfl, here, now⟩
  | cons path paths ih =>
    rw [updateIndex]
    refine bind_looking (looking_query here now) (fun _ same => ⟨fun _ => same, same⟩)
      fun changed next applied same now => ?_
    refine (ih changed same now).weaken
      ⟨fun tree last seen => ⟨?_, seen.2⟩, fun _ _ same => same, fun _ same => same⟩
    rw [List.foldlM_cons, applied]
    exact seen.1

end Looking

/-- Whatever the fates: what a call returns is the application of the tree of the loop, and what
it leaves is one of three things. -/
theorem applyFileSet_ends (layout : GitRefLayout) (commitOid : GitCommit → GitOid)
    (request : FileSetRequest) {repository : GitRepository} {time : Nat} {world : GitWorld}
    (here : world.repository = repository) (now : world.time = time) :
    (applyFileSet layout commitOid request).After
      ⟨fun application after => ∃ before source index tree,
          Applicable layout request repository before source index tree ∧
            application = applicationOf commitOid request before source tree time ∧
            Bound (withCommit repository (commitOid (integrationCommit request tree time))
              (integrationCommit request tree time)) after.repository (scratch layout request)
              (commitOid (integrationCommit request tree time)),
        fun _ after => Touched layout commitOid request repository time after.repository,
        fun after => Touched layout commitOid request repository time after.repository⟩ world := by
  have stops : ∀ after : GitWorld, after.repository = repository →
      (∀ _ : GitError, Touched layout commitOid request repository time after.repository) ∧
        Touched layout commitOid request repository time after.repository :=
    fun _ same => ⟨fun _ => .inl same, .inl same⟩
  rw [applyFileSet]
  refine bind_looking (looking_orIntegrity here now) stops fun current world named here now => ?_
  split
  · exact (stops world here).1 .integrity
  · next source =>
      refine bind_looking (looking_query here now) stops fun sourceParents world listed here now => ?_
      split
      · exact (stops world here).1 .integrity
      · next single =>
          refine bind_looking (looking_orIntegrity here now) stops fun _ world reached here now => ?_
          refine bind_looking (looking_query here now) stops fun before world base here now => ?_
          refine bind_looking (looking_query here now) stops fun after world sourceTree here now => ?_
          refine bind_looking (looking_query here now) stops fun index world verified here now => ?_
          refine bind_looking (looking_updateIndex _ index here now) stops
            fun tree world applied here now => ?_
          refine bind_looking (looking_query here now) stops fun _ world _ here now => ?_
          have applicable : Applicable layout request repository before after index tree := by
            refine ⟨?_, ?_, ?_, base, verified, applied⟩
            · rw [← not_not.mp source]
              exact named
            · obtain ⟨⟨commitTree, parents, message, made⟩, found, equal⟩ :=
                Option.map_eq_some_iff.mp listed
              obtain ⟨parent, only⟩ := List.length_eq_one_iff.mp (not_not.mp single)
              rw [found] at sourceTree
              cases equal
              cases sourceTree
              dsimp only at only
              rw [only] at found
              exact ⟨parent, message, made, found⟩
            · by_contra unreached
              rw [if_neg unreached] at reached
              cases reached
          rw [after_bind]
          have content : integrationCommit request tree time = ⟨tree,
              (some request.expectedVerifiedOid).toList, integrationMessage request, world.time⟩ := by
            rw [now]
            rfl
          refine after_createCommit content ⟨(stops _ here).1 .command, (stops _ here).2⟩ fun world _ made => ?_
          rw [here] at made
          have written : Touched layout commitOid request repository time world.repository :=
            .inr ⟨before, after, index, tree, applicable, .inl made⟩
          refine ⟨?_, written⟩
          dsimp only
          rw [after_bind]
          refine (after_createImmutableRef made (scratch layout request) _).weaken
            ⟨fun _ last bound => ⟨before, after, index, tree, applicable, rfl, bound⟩,
              fun _ last same => ?_, fun last ended => ?_⟩
          · exact .inr ⟨before, after, index, tree, applicable, .inl same⟩
          · exact .inr ⟨before, after, index, tree, applicable, ended⟩

theorem Applicable.unique {request : FileSetRequest} {repository : GitRepository}
    {before after index tree before' after' index' tree' : GitTree}
    (first : Applicable layout request repository before after index tree)
    (second : Applicable layout request repository before' after' index' tree') :
    before = before' ∧ after = after' ∧ tree = tree' := by
  obtain ⟨_, _, _, source⟩ := first.source
  obtain ⟨_, _, _, source'⟩ := second.source
  have base := first.base.symm.trans second.base
  have verified := first.verified.symm.trans second.verified
  rw [source] at source'
  cases Option.some.inj base
  cases Option.some.inj verified
  cases source'
  exact ⟨rfl, rfl, Option.some.inj (first.applied.symm.trans second.applied)⟩

/-- Later repositories have all commits of the earlier ones. -/
structure Grows (earlier later : GitRepository) : Prop where
  commits : ∀ oid commit, earlier.commits.get? oid = some commit →
    later.commits.get? oid = some commit
  length : earlier.commits.entries.length ≤ later.commits.entries.length

theorem Grows.trans {first second third : GitRepository} (earlier : Grows first second)
    (later : Grows second third) : Grows first third :=
  ⟨fun oid commit here => later.commits oid commit (earlier.commits oid commit here),
    earlier.length.trans later.length⟩

theorem grows_withCommit (repository : GitRepository) (oid : GitOid) (commit : GitCommit) :
    Grows repository (withCommit repository oid commit) := by
  refine ⟨fun other found here => withCommit_keeps here oid commit, ?_⟩
  rw [withCommit]
  split
  · exact le_refl _
  · next absent =>
      have missing : repository.commits.get? oid = none := by
        simpa using absent
      dsimp only
      rw [Dict.set_entries_of_absent missing]
      simp

theorem Bound.commits {repository after : GitRepository} (bound : Bound repository after ref oid) :
    after.commits = repository.commits := by
  obtain ⟨-, rfl | rfl⟩ := bound
  · rfl
  · rfl

theorem reaches_mono {earlier later : GitRepository}
    (commits : ∀ oid commit, earlier.commits.get? oid = some commit →
      later.commits.get? oid = some commit) {ancestor : GitOid} (fuel : Nat) (oid : GitOid)
    {more : Nat} (enough : fuel ≤ more) (reached : reaches earlier fuel ancestor oid = true) :
    reaches later more ancestor oid = true := by
  induction fuel generalizing oid more with
  | zero => cases reached
  | succ fuel ih =>
    obtain ⟨more, rfl⟩ : ∃ rest, more = rest + 1 := ⟨more - 1, by omega⟩
    rw [reaches] at reached ⊢
    cases here : earlier.commits.get? oid with
    | none =>
      rw [here] at reached
      cases reached
    | some commit =>
      rw [here] at reached
      rw [commits oid commit here]
      dsimp only at reached ⊢
      rw [Bool.or_eq_true, List.any_eq_true] at reached ⊢
      refine reached.imp_right fun ⟨parent, member, reached⟩ => ?_
      exact ⟨parent, member, ih parent (by omega) reached⟩

theorem Applicable.grow {request : FileSetRequest} {earlier later : GitRepository}
    {before after index tree : GitTree}
    (applicable : Applicable layout request earlier before after index tree)
    (grows : Grows earlier later)
    (candidate : later.refs.get? (layout.candidate request.sliceId request.generation) =
      earlier.refs.get? (layout.candidate request.sliceId request.generation)) :
    Applicable layout request later before after index tree := by
  have stays : ∀ {oid : GitOid} {tree : GitTree},
      (earlier.commits.get? oid).map (·.tree) = some tree →
      (later.commits.get? oid).map (·.tree) = some tree := by
    intro oid tree here
    obtain ⟨commit, found, rfl⟩ := Option.map_eq_some_iff.mp here
    rw [grows.commits oid commit found]
    rfl
  refine ⟨?_, ?_, ?_, stays applicable.base, stays applicable.verified, applicable.applied⟩
  · have named := applicable.current
    obtain ⟨commit, present⟩ := Option.isSome_iff_exists.mp (present_of_commitAt named)
    refine commitAt_of_present ?_ (by rw [grows.commits _ commit present]; rfl)
    rw [candidate]
    exact get?_of_commitAt named
  · obtain ⟨parent, message, time, found⟩ := applicable.source
    exact ⟨parent, message, time, grows.commits _ _ found⟩
  · exact reaches_mono grows.commits _ _ grows.length applicable.descends

theorem applyFileSet_healthy {request : FileSetRequest} {repository : GitRepository}
    {before after index tree : GitTree}
    (applicable : Applicable layout request repository before after index tree) (time : Nat) :
    applyFileSet layout commitOid request ⟨repository, time, []⟩ =
      (createImmutableRef (scratch layout request)
          (commitOid (integrationCommit request tree time)) >>= fun _ =>
        pure (applicationOf commitOid request before after tree time) : Git FileSetApplication)
      ⟨withCommit repository (commitOid (integrationCommit request tree time))
        (integrationCommit request tree time), time, []⟩ := by
  obtain ⟨parent, message, made, source⟩ := applicable.source
  have integrity : ∀ {α : Type} {run : GitRepository → Option α} {value : α},
      run repository = some value →
      orIntegrity (query run) ⟨repository, time, []⟩ = (.ok value, ⟨repository, time, []⟩) := by
    intro α run value ran
    rw [orIntegrity, catching, query_healthy ran]
  have looped : ∀ (paths : List String) (index tree : GitTree),
      paths.foldlM (GitIndex.applyPath after) index = some tree →
      updateIndex after index paths ⟨repository, time, []⟩ = (.ok tree, ⟨repository, time, []⟩) := by
    intro paths
    induction paths with
    | nil =>
      intro index tree applied
      cases applied
      rfl
    | cons path paths ih =>
      intro index tree applied
      rw [List.foldlM_cons] at applied
      obtain ⟨changed, first, rest⟩ := Option.bind_eq_some_iff.mp applied
      rw [updateIndex, bind_of_ok (query_healthy first)]
      exact ih changed tree rest
  have listed : parents request.sourceCandidateOid ⟨repository, time, []⟩ =
      (.ok [parent], ⟨repository, time, []⟩) := query_healthy (by rw [source]; rfl)
  have treeOf : listTree request.sourceCandidateOid ⟨repository, time, []⟩ =
      (.ok after, ⟨repository, time, []⟩) := query_healthy (by rw [source]; rfl)
  rw [applyFileSet]
  refine (bind_of_ok (integrity applicable.current)).trans ?_
  rw [if_neg (not_not.mpr rfl)]
  refine (bind_of_ok listed).trans ?_
  rw [if_neg (by simp)]
  refine (bind_of_ok (integrity (if_pos applicable.descends))).trans ?_
  refine (bind_of_ok (query_healthy applicable.base)).trans ?_
  refine (bind_of_ok treeOf).trans ?_
  refine (bind_of_ok (query_healthy applicable.verified)).trans ?_
  refine (bind_of_ok (looped _ _ _ applicable.applied)).trans ?_
  refine (bind_of_ok (configure_healthy repository time)).trans ?_
  exact bind_of_ok (createCommit_healthy commitOid tree (some request.expectedVerifiedOid)
    (integrationMessage request) repository time)

/-! ## `apply_file_set` again -/

/-- Commits that differ in their time only have names of their own. -/
structure TimedOids (commitOid : GitCommit → GitOid) (repository : GitRepository)
    (commit : Nat → GitCommit) (times : List Nat) : Prop where
  apart : ∀ time ∈ times, ∀ found,
    repository.commits.get? (commitOid (commit time)) = some found → found = commit time
  timed : ∀ time ∈ times, ∀ time' ∈ times,
    commitOid (commit time) = commitOid (commit time') → time = time'

/-- The times of the attempts. -/
def attemptTimes (events : List RepositoryEvent) : List Nat :=
  events.filterMap (fun event => match event with
    | .attempt time _ => some time
    | .advance _ => none)

/-- What attempts and advances leave of the repository of the first call. -/
structure Kept (layout : GitRefLayout) (commitOid : GitCommit → GitOid) (request : FileSetRequest)
    (tree : GitTree) (times : List Nat) (first repository : GitRepository) : Prop where
  grows : Grows first repository
  candidate : repository.refs.get? (layout.candidate request.sliceId request.generation) =
    first.refs.get? (layout.candidate request.sliceId request.generation)
  origin : ∀ oid found, repository.commits.get? oid = some found →
    first.commits.get? oid = some found ∨ ∃ time ∈ times,
      oid = commitOid (integrationCommit request tree time) ∧
        found = integrationCommit request tree time
  scratch : repository.refs.get? (scratch layout request) = none ∨ ∃ time ∈ times,
    repository.refs.get? (OutputRepository.scratch layout request) =
        some (commitOid (integrationCommit request tree time)) ∧
      (repository.commits.get? (commitOid (integrationCommit request tree time))).isSome

section Again

variable {request : FileSetRequest} {first repository : GitRepository} {tree : GitTree}
  {times : List Nat}

theorem Kept.withCommit (kept : Kept layout commitOid request tree times first repository)
    {time : Nat} (inside : time ∈ times) :
    Kept layout commitOid request tree times first
      (OutputRepository.withCommit repository (commitOid (integrationCommit request tree time))
        (integrationCommit request tree time)) := by
  have refs := withCommit_refs repository (commitOid (integrationCommit request tree time))
    (integrationCommit request tree time)
  have grows := grows_withCommit repository (commitOid (integrationCommit request tree time))
    (integrationCommit request tree time)
  refine ⟨kept.grows.trans grows, by rw [refs]; exact kept.candidate, fun oid found here => ?_, ?_⟩
  · rcases of_withCommit here with earlier | ⟨rfl, rfl⟩
    · exact kept.origin oid found earlier
    · exact .inr ⟨time, inside, rfl, rfl⟩
  · rw [refs]
    refine kept.scratch.imp_right fun ⟨other, member, named, present⟩ => ⟨other, member, named, ?_⟩
    obtain ⟨found, here⟩ := Option.isSome_iff_exists.mp present
    rw [grows.commits _ _ here]
    rfl

theorem Kept.bound (kept : Kept layout commitOid request tree times first repository)
    {time : Nat} (inside : time ∈ times) {after : GitRepository}
    (bound : Bound repository after (OutputRepository.scratch layout request)
      (commitOid (integrationCommit request tree time))) :
    Kept layout commitOid request tree times first after := by
  obtain ⟨named, rfl | rfl⟩ := bound
  · exact kept
  · refine ⟨⟨kept.grows.commits, kept.grows.length⟩, ?_, kept.origin, .inr ⟨time, inside, ?_, ?_⟩⟩
    · have other : layout.candidate request.sliceId request.generation ≠
          OutputRepository.scratch layout request :=
        layout.candidate_ne_integration request.sliceId request.generation
      dsimp only
      rw [Dict.get?_set, if_neg other]
      exact kept.candidate
    · simp
    · exact (Option.filter_eq_some_iff.mp named).2

theorem Kept.advance (kept : Kept layout commitOid request tree times first repository)
    (oid : GitOid) :
    Kept layout commitOid request tree times first (advanceVerified layout repository oid) := by
  rw [advanceVerified]
  split
  · refine ⟨⟨kept.grows.commits, kept.grows.length⟩, ?_, kept.origin, ?_⟩
    · have other : layout.candidate request.sliceId request.generation ≠ layout.verified :=
        (layout.verified_ne_candidate request.sliceId request.generation).symm
      dsimp only
      rw [Dict.get?_set, if_neg other]
      exact kept.candidate
    · have other : OutputRepository.scratch layout request ≠ layout.verified :=
        (layout.verified_ne_integration request.sliceId request.generation).symm
      dsimp only
      rw [Dict.get?_set, if_neg other]
      exact kept.scratch
  · exact kept

theorem Kept.touched {before after index : GitTree}
    (applicable : Applicable layout request first before after index tree)
    (kept : Kept layout commitOid request tree times first repository) {time : Nat}
    (inside : time ∈ times) {left : GitRepository}
    (touched : Touched layout commitOid request repository time left) :
    Kept layout commitOid request tree times first left := by
  rcases touched with rfl | ⟨before', source', index', tree', applicable', left⟩
  · exact kept
  · obtain ⟨-, -, rfl⟩ := (applicable.grow kept.grows kept.candidate).unique applicable'
    rcases left with rfl | bound
    · exact kept.withCommit inside
    · exact (kept.withCommit inside).bound inside bound

theorem kept_of_history {before after index : GitTree}
    (applicable : Applicable layout request first before after index tree)
    (kept : Kept layout commitOid request tree times first repository)
    (events : List RepositoryEvent) (inside : ∀ time ∈ attemptTimes events, time ∈ times) :
    Kept layout commitOid request tree times first
      (runFrom (afterEvent layout (applyFileSet layout commitOid request)) repository events) := by
  induction events generalizing repository with
  | nil => exact kept
  | cons event events ih =>
    rw [runFrom_cons]
    cases event with
    | attempt time fates =>
      have member : time ∈ times := inside time (by simp [attemptTimes])
      refine ih ?_ fun other later => inside other (by
        simp only [attemptTimes, List.filterMap_cons] at later ⊢
        exact List.mem_cons_of_mem _ later)
      have ended := @applyFileSet_ends layout commitOid request repository time
        ⟨repository, time, fates⟩ rfl rfl
      unfold Lib.Process.After at ended
      rw [afterEvent]
      generalize applyFileSet layout commitOid request ⟨repository, time, fates⟩ = result at ended
      rcases result with ⟨(⟨error⟩ | _) | application, world⟩
      · exact kept.touched applicable member ended
      · exact kept.touched applicable member ended
      · obtain ⟨before', source', index', tree', applicable', -, bound⟩ := ended
        exact kept.touched applicable member
          (.inr ⟨before', source', index', tree', applicable', .inr bound⟩)
    | advance oid =>
      exact ih (kept.advance oid) fun other later => inside other later

theorem Kept.content (kept : Kept layout commitOid request tree times first repository)
    (timed : TimedOids commitOid first (integrationCommit request tree) times) {time : Nat}
    (inside : time ∈ times) {found : GitCommit}
    (here : repository.commits.get? (commitOid (integrationCommit request tree time)) = some found) :
    found = integrationCommit request tree time := by
  rcases kept.origin _ _ here with earlier | ⟨other, member, same, rfl⟩
  · exact timed.apart time inside found earlier
  · rw [timed.timed time inside other member same]

end Again

/-- A call of `apply_file_set` returns an application with the paths, and a commit with the tree
and the parents, of an earlier one. -/
def Reapplies (layout : GitRefLayout) (commitOid : GitCommit → GitOid) (request : FileSetRequest)
    (application : FileSetApplication) (earlier repository : GitRepository) (time : Nat) : Prop :=
  ∃ again after commit commit',
    applyFileSet layout commitOid request ⟨repository, time, []⟩ = (.ok again, after) ∧
      again.appliedPaths = application.appliedPaths ∧
      earlier.commits.get? application.prospectiveCommitOid = some commit ∧
      after.repository.commits.get? again.prospectiveCommitOid = some commit' ∧
      commit'.tree = commit.tree ∧ commit'.parents = commit.parents

/-- The scratch ref is absent, or names a commit of this second. -/
def ScratchFits (layout : GitRefLayout) (request : FileSetRequest) (repository : GitRepository)
    (time : Nat) : Prop :=
  ∀ oid, repository.refs.get? (scratch layout request) = some oid →
    (repository.commits.get? oid).map (·.time) = some time

theorem reapplies_iff {request : FileSetRequest} {first : GitRepository} {time time' : Nat}
    {application : FileSetApplication} {after : GitWorld} {events : List RepositoryEvent}
    (ran : applyFileSet layout commitOid request ⟨first, time, []⟩ = (.ok application, after))
    (fresh : first.refs.get? (scratch layout request) = none)
    (timed : ∀ before source index tree, Applicable layout request first before source index tree →
      TimedOids commitOid first (integrationCommit request tree)
        (time :: time' :: attemptTimes events)) :
    Reapplies layout commitOid request application after.repository
        (runFrom (afterEvent layout (applyFileSet layout commitOid request)) first events) time' ↔
      ScratchFits layout request
        (runFrom (afterEvent layout (applyFileSet layout commitOid request)) first events) time' := by
  have ended := @applyFileSet_ends layout commitOid request first time ⟨first, time, []⟩ rfl rfl
  rw [Lib.Process.After, ran] at ended
  obtain ⟨before, source, index, tree, applicable, rfl, bound⟩ := ended
  have timed := timed _ _ _ _ applicable
  generalize times_eq : time :: time' :: attemptTimes events = times at timed
  have member : time ∈ times := by rw [← times_eq]; simp
  have member' : time' ∈ times := by rw [← times_eq]; simp
  have start : Kept layout commitOid request tree times first first :=
    ⟨⟨fun _ _ here => here, le_refl _⟩, rfl, fun _ _ here => .inl here, .inl fresh⟩
  have kept := kept_of_history applicable start events
    (fun other inside => by rw [← times_eq]; simp [inside])
  generalize runFrom (afterEvent layout (applyFileSet layout commitOid request)) first events =
    repository at kept ⊢
  -- the commit of the first call
  have earlier : after.repository.commits.get? (commitOid (integrationCommit request tree time)) =
      some (integrationCommit request tree time) := by
    have present := withCommit_present first (commitOid (integrationCommit request tree time))
      (integrationCommit request tree time)
    rw [bound.commits]
    obtain ⟨found, here⟩ := Option.isSome_iff_exists.mp present
    rw [here, (start.withCommit member).content timed member here]
  -- the commit of the second one
  have written := kept.withCommit member'
  generalize made_eq : withCommit repository (commitOid (integrationCommit request tree time'))
    (integrationCommit request tree time') = made at written
  have present : (made.commits.get? (commitOid (integrationCommit request tree time'))).isSome := by
    rw [← made_eq]
    exact withCommit_present _ _ _
  have refs : made.refs = repository.refs := by
    rw [← made_eq]
    exact withCommit_refs _ _ _
  have later : made.commits.get? (commitOid (integrationCommit request tree time')) =
      some (integrationCommit request tree time') := by
    obtain ⟨found, here⟩ := Option.isSome_iff_exists.mp present
    rw [here, written.content timed member' here]
  have healthy := @applyFileSet_healthy layout commitOid request repository _ _ _ _
    (applicable.grow kept.grows kept.candidate) time'
  rw [made_eq] at healthy
  unfold Reapplies ScratchFits
  rw [healthy]
  rcases kept.scratch with absent | ⟨other, inside, named, there⟩
  · -- no attempt has come to the ref
    have created := @createImmutableRef_new made (scratch layout request) _
      (by rw [refs]; exact absent) present time'
    refine iff_of_true ⟨applicationOf commitOid request before source tree time', _,
      integrationCommit request tree time, integrationCommit request tree time', bind_of_ok created,
      rfl, earlier, later, rfl, rfl⟩ ?_
    intro oid found
    rw [absent] at found
    cases found
  · obtain ⟨found, here⟩ := Option.isSome_iff_exists.mp there
    have content := kept.content timed inside here
    have namedThere : commitAt made (scratch layout request) =
        some (commitOid (integrationCommit request tree other)) := by
      refine commitAt_of_present (by rw [refs]; exact named) ?_
      rw [← made_eq, withCommit_keeps here]
      rfl
    have checked := createImmutableRef_old namedThere
      (commitOid (integrationCommit request tree time')) time'
    by_cases same : other = time'
    · subst same
      rw [if_neg (not_not.mpr rfl)] at checked
      refine iff_of_true ⟨applicationOf commitOid request before source tree other, _,
        integrationCommit request tree time, integrationCommit request tree other,
        bind_of_ok checked, rfl, earlier, later, rfl, rfl⟩ ?_
      intro oid found'
      rw [named] at found'
      cases found'
      rw [here, content]
      rfl
    · have different : commitOid (integrationCommit request tree other) ≠
          commitOid (integrationCommit request tree time') :=
        fun equal => same (timed.timed other inside time' member' equal)
      rw [if_pos different] at checked
      refine iff_of_false ?_ ?_
      · rintro ⟨_, _, _, _, ran, -⟩
        rw [bind_of_error checked] at ran
        cases ran
      · intro fits
        have fits := fits _ named
        rw [here, content] at fits
        exact same (Option.some.inj fits)

/-! ## Both -/

/-- After any attempts and advances, `initialize` succeeds again if and only if it had made no ref
or the verified ref is the base, and `apply_file_set` if and only if its scratch ref is absent or of
this second. -/
theorem run_steps_again_iff (layout : GitRefLayout) (commitOid : GitCommit → GitOid) :
    (∀ (first : GitRepository) (events : List RepositoryEvent) (time : Nat),
      first.refs.get? layout.base = none → first.refs.get? layout.verified = none →
      (InitializesAgain layout commitOid
          (runFrom (afterEvent layout (initializeRun layout commitOid)) first events) time ↔
        (runFrom (afterEvent layout (initializeRun layout commitOid)) first events).refs.get?
            layout.base = none ∨
          (runFrom (afterEvent layout (initializeRun layout commitOid)) first events).refs.get?
              layout.verified =
            (runFrom (afterEvent layout (initializeRun layout commitOid)) first events).refs.get?
              layout.base)) ∧
    (∀ (request : FileSetRequest) (first : GitRepository) (time time' : Nat)
      (application : FileSetApplication) (after : GitWorld) (events : List RepositoryEvent),
      applyFileSet layout commitOid request ⟨first, time, []⟩ = (.ok application, after) →
      first.refs.get? (scratch layout request) = none →
      (∀ before source index tree, Applicable layout request first before source index tree →
        TimedOids commitOid first (integrationCommit request tree)
          (time :: time' :: attemptTimes events)) →
      (Reapplies layout commitOid request application after.repository
          (runFrom (afterEvent layout (applyFileSet layout commitOid request)) first events) time' ↔
        ScratchFits layout request
          (runFrom (afterEvent layout (applyFileSet layout commitOid request)) first events)
          time')) := by
  constructor
  · intro first events time based verified
    have begun : Begun layout first :=
      ⟨fun _ => verified, fun _ here => absurd (based.symm.trans here) (by simp),
        fun _ here => absurd (verified.symm.trans here) (by simp)⟩
    exact initializesAgain_iff (begun_of_history begun events) time
  · intro request first time time' application after events ran fresh timed
    exact reapplies_iff ran fresh timed

end OutputRepository

namespace SampleOutput
open OutputRepository

/-- A run. -/
def layout : GitRefLayout := ⟨⟨3⟩⟩

/-- Three objects. -/
def base : GitOid := SampleOids.first

/-- The candidate. -/
def candidate : GitOid := SampleOids.second

/-- What is committed in the fifth second. -/
def fifth : GitOid := SampleOids.third

/-- What is committed later. -/
def later : GitOid := ⟨"7777777777777777777777777777777777777777", by decide, by decide⟩

/-- Names that depend on the time. -/
def commitOid (commit : GitCommit) : GitOid := if commit.time = 5 then fifth else later

/-- A candidate with one file over an empty base. -/
def repository : GitRepository :=
  ⟨(Dict.empty.set base ⟨Dict.empty, [], "", 0⟩).set candidate
      ⟨Dict.empty.set "a" GitIndex.sampleEntry, [base], "", 1⟩,
    Dict.empty.set (layout.candidate ⟨7⟩ 0) candidate⟩

/-- The application of the candidate. -/
def request : FileSetRequest := ⟨candidate, base, ⟨7⟩, 0, base⟩

/-- A call whose process dies before its scratch ref. -/
def died : List RepositoryEvent := [.attempt 5 (List.replicate 8 .runs ++ [.dies])]

/-- What the call returns when it is not interrupted. -/
def application : FileSetApplication := ⟨⟨7⟩, 0, candidate, base, ["a"], fifth⟩

theorem timed (tree : GitTree) :
    TimedOids commitOid repository (integrationCommit request tree) [5, 7, 5] := by
  have name : ∀ time, commitOid (integrationCommit request tree time) =
      if time = 5 then fifth else later := fun _ => rfl
  constructor
  · intro time _ found here
    have missing : ∀ oid, oid = fifth ∨ oid = later → repository.commits.get? oid = none := by
      rintro oid (rfl | rfl)
      · decide
      · decide
    rw [missing _ (by rw [name]; split <;> simp)] at here
    cases here
  · intro time inside time' inside' same
    rw [name, name] at same
    have apart : fifth ≠ later := by decide
    have values : ∀ t ∈ [5, 7, 5], t = 5 ∨ t = 7 := by decide
    rcases values time inside with rfl | rfl <;> rcases values time' inside' with rfl | rfl
    · rfl
    · exact absurd same apart
    · exact absurd same.symm apart
    · rfl

/-- Second calls after the first ones have died. -/
theorem run_steps_again_died :
    (InitializesAgain layout commitOid
        (runFrom (afterEvent layout (initializeRun layout commitOid)) ⟨Dict.empty, Dict.empty⟩
          [.attempt 5 [.dies]]) 7 ↔
      (runFrom (afterEvent layout (initializeRun layout commitOid)) ⟨Dict.empty, Dict.empty⟩
          [.attempt 5 [.dies]]).refs.get? layout.base = none ∨
        (runFrom (afterEvent layout (initializeRun layout commitOid)) ⟨Dict.empty, Dict.empty⟩
            [.attempt 5 [.dies]]).refs.get? layout.verified =
          (runFrom (afterEvent layout (initializeRun layout commitOid)) ⟨Dict.empty, Dict.empty⟩
            [.attempt 5 [.dies]]).refs.get? layout.base) ∧
    (Reapplies layout commitOid request application
        (applyFileSet layout commitOid request ⟨repository, 5, []⟩).2.repository
        (runFrom (afterEvent layout (applyFileSet layout commitOid request)) repository died) 7 ↔
      ScratchFits layout request
        (runFrom (afterEvent layout (applyFileSet layout commitOid request)) repository died) 7) := by
  have ran : applyFileSet layout commitOid request ⟨repository, 5, []⟩ =
      (.ok application, (applyFileSet layout commitOid request ⟨repository, 5, []⟩).2) :=
    Prod.ext (by decide) rfl
  exact ⟨(run_steps_again_iff layout commitOid).1 _ _ _ rfl rfl,
    (run_steps_again_iff layout commitOid).2 _ _ _ _ _ _ died ran (by decide)
      fun _ _ _ tree _ => timed tree⟩

/-- A process that dies between the two refs. -/
theorem half_initialized :
    ¬ ∀ (layout : GitRefLayout) (commitOid : GitCommit → GitOid) (first : GitRepository)
      (events : List RepositoryEvent) (time : Nat), first.refs.get? layout.base = none →
      first.refs.get? layout.verified = none →
      InitializesAgain layout commitOid
        (runFrom (afterEvent layout (initializeRun layout commitOid)) first events) time := by
  intro claim
  obtain ⟨after, ran, -⟩ := claim layout commitOid ⟨Dict.empty, Dict.empty⟩
    [.attempt 5 [.runs, .runs, .runs, .runs, .runs, .runs, .runs, .runs, .dies]] 7 rfl rfl
  have raised : (initializeRun layout commitOid ⟨runFrom
      (afterEvent layout (initializeRun layout commitOid)) ⟨Dict.empty, Dict.empty⟩
      [.attempt 5 [.runs, .runs, .runs, .runs, .runs, .runs, .runs, .runs, .dies]], 7, []⟩).1 =
        .error (.raised .command) := by
    decide
  rw [ran] at raised
  cases raised

end SampleOutput

end CodeMigrator
