import CodeMigrator.Core.Paths
import CodeMigrator.Lib.Dict
import CodeMigrator.Lib.Process
import Mathlib.Data.String.Basic

/-!
# The Git commands of a run repository

The commands that `GitRunRepository` (`workspace/git.py`) runs on its bare repository, over a
world of commits and refs. Every command meets a fate: it runs, it fails and changes nothing, or
it runs and the process dies. A tree is the map of its paths, and the name of a commit is a
function of what it holds, its time included.
-/

namespace CodeMigrator
open Lib

/-! ## Objects and refs -/

/-- `_OID_PATTERN`. -/
def isOid (text : String) : Bool :=
  text.toList.length == 40 && text.toList.all (fun c => "0123456789abcdef".toList.contains c)

/-- `ZERO_OID`. -/
def nullOid : String := "0000000000000000000000000000000000000000"

/-- A text that `_validate_oid` accepts for an object. -/
structure GitOid where
  text : String
  valid : isOid text = true
  notZero : text ≠ nullOid
  deriving DecidableEq

/-! Objects for the examples. -/

namespace SampleOids

def first : GitOid := ⟨"1111111111111111111111111111111111111111", by decide, by decide⟩

def second : GitOid := ⟨"2222222222222222222222222222222222222222", by decide, by decide⟩

def third : GitOid := ⟨"5555555555555555555555555555555555555555", by decide, by decide⟩

end SampleOids

/-- `GitTreeEntry` without its path. -/
structure GitTreeEntry where
  mode : String
  objectOid : GitOid
  deriving DecidableEq

/-- The files of a tree. -/
abbrev GitTree := Dict String GitTreeEntry

/-- A commit. -/
structure GitCommit where
  tree : GitTree
  parents : List GitOid
  message : String
  time : Nat
  deriving DecidableEq

/-- A bare repository. -/
structure GitRepository where
  commits : Dict GitOid GitCommit
  refs : Dict String GitOid

/-- Why a call of the repository raises: `GitCommandError`, `GitIntegrityError`,
`CandidateRefConflict` or `ValueError`. -/
inductive GitError where
  | command | integrity | conflict | value
  deriving DecidableEq

/-- What becomes of a command. -/
inductive CommandFate where
  | runs | fails | dies
  deriving DecidableEq

/-- A repository, the clock and the fates of the commands to come. -/
structure GitWorld where
  repository : GitRepository
  time : Nat
  fates : List CommandFate

/-- A computation that runs Git commands. -/
abbrev Git (α : Type) := Lib.Process GitWorld GitError α

namespace OutputRepository
open Lib.Process

/-! ## Single commands -/

/-- `GitCli.run`: a command looks at the repository and changes it, or it is refused. -/
def command {α : Type} (run : GitRepository → Option (α × GitRepository)) : Git α := fun world =>
  let after := { world with fates := world.fates.tail }
  match world.fates.headD .runs, run world.repository with
  | .fails, _ => (.error (.raised .command), after)
  | .runs, none => (.error (.raised .command), after)
  | .dies, none => (.error .died, after)
  | .runs, some (value, repository) => (.ok value, { after with repository := repository })
  | .dies, some (_, repository) => (.error .died, { after with repository := repository })

/-- A command that changes nothing. -/
def query {α : Type} (run : GitRepository → Option α) : Git α :=
  command (fun repository => (run repository).map (·, repository))

/-- `git rev-parse --verify ref^{commit}` for a ref. -/
def commitAt (repository : GitRepository) (ref : String) : Option GitOid :=
  (repository.refs.get? ref).filter (fun oid => (repository.commits.get? oid).isSome)

/-- `resolve`. -/
def resolve (ref : String) : Git GitOid := query (fun repository => commitAt repository ref)

/-- The outcome of a call, where its `GitCommandError` is caught. -/
def attempt {α : Type} (body : Git α) : Git (Option α) :=
  catching (body >>= fun value => pure (some value))
    (fun error => if error = .command then pure none else raise error)

/-- `_assert_commit`. -/
def assertCommit (oid : GitOid) : Git Unit :=
  query (fun repository => (repository.commits.get? oid).map (fun _ => ()))

/-- A command whose failure is a conflict. -/
def orConflict {α : Type} (body : Git α) : Git α :=
  catching body (fun error => raise (if error = .command then .conflict else error))

/-- `update_ref`; without an expected OID the ref must not exist. -/
def updateRef (ref : String) (newOid : GitOid) (expected : Option GitOid) : Git Unit :=
  assertCommit newOid >>= fun _ =>
    (match expected with
      | some oid => assertCommit oid
      | none => pure ()) >>= fun _ =>
      orConflict (command (fun repository =>
        if repository.refs.get? ref = expected then
          some ((), { repository with refs := repository.refs.set ref newOid })
        else none))

/-- `delete_ref`. -/
def deleteRef (ref : String) (expected : GitOid) : Git Unit :=
  assertCommit expected >>= fun _ =>
    orConflict (command (fun repository =>
      if repository.refs.get? ref = some expected then
        some ((), { repository with refs := repository.refs.erase ref })
      else none))

/-- `_create_immutable_ref`. -/
def createImmutableRef (ref : String) (oid : GitOid) : Git Unit :=
  attempt (resolve ref) >>= fun current =>
    match current with
    | none => updateRef ref oid none
    | some found => if found ≠ oid then raise .integrity else pure ()

/-- A ref is at a path or below it. -/
def below (path ref : String) : Bool := ref == path || startsWith ref (path ++ "/")

/-- The refs below a path, in their order: what `for-each-ref` lists. -/
def refsBelow (repository : GitRepository) (path : String) : List String :=
  (repository.refs.keys.filter (below path)).insertionSort pathLe

/-- `list_refs`. -/
def listRefs (path : String) : Git (List String) :=
  query (fun repository => some (refsBelow repository path))

/-- `parents`. -/
def parents (oid : GitOid) : Git (List GitOid) :=
  query (fun repository => (repository.commits.get? oid).map (·.parents))

/-- `list_tree`. -/
def listTree (oid : GitOid) : Git GitTree :=
  query (fun repository => (repository.commits.get? oid).map (·.tree))

/-- The repository with a commit; an object that is there already is not written again. -/
def withCommit (repository : GitRepository) (oid : GitOid) (commit : GitCommit) : GitRepository :=
  if (repository.commits.get? oid).isSome then repository
  else { repository with commits := repository.commits.set oid commit }

/-- `create_commit`: the name of the commit is that of its content at this time. -/
def createCommit (commitOid : GitCommit → GitOid) (tree : GitTree) (parent : Option GitOid)
    (message : String) : Git GitOid :=
  ask (·.time) >>= fun time =>
    let commit : GitCommit := ⟨tree, parent.toList, message, time⟩
    command (fun repository =>
      some (commitOid commit, withCommit repository (commitOid commit) commit))

theorem withCommit_refs (repository : GitRepository) (oid : GitOid) (commit : GitCommit) :
    (withCommit repository oid commit).refs = repository.refs := by
  rw [withCommit]
  split
  · rfl
  · rfl

theorem withCommit_present (repository : GitRepository) (oid : GitOid) (commit : GitCommit) :
    ((withCommit repository oid commit).commits.get? oid).isSome := by
  rw [withCommit]
  split
  · assumption
  · simp

theorem withCommit_keeps {repository : GitRepository} {other : GitOid} {found : GitCommit}
    (here : repository.commits.get? other = some found) (oid : GitOid) (commit : GitCommit) :
    (withCommit repository oid commit).commits.get? other = some found := by
  rw [withCommit]
  split
  · exact here
  · next absent =>
      rw [Dict.get?_set, if_neg]
      · exact here
      · rintro rfl
        rw [here] at absent
        exact absurd rfl absent

theorem of_withCommit {repository : GitRepository} {oid other : GitOid} {commit found : GitCommit}
    (here : (withCommit repository oid commit).commits.get? other = some found) :
    repository.commits.get? other = some found ∨ other = oid ∧ found = commit := by
  rw [withCommit] at here
  split at here
  · exact .inl here
  · rw [Dict.get?_set] at here
    split at here
    · next same => exact .inr ⟨same, (Option.some.inj here).symm⟩
    · exact .inl here

/-! ## What the commands do -/

/-- A call has taken effect when it returns, changes nothing when it raises, and may have done
either when its process dies. -/
def allOrNothing (repository : GitRepository) (done : GitRepository → Prop) :
    Ends GitWorld GitError Unit :=
  ⟨fun _ after => done after.repository, fun _ after => after.repository = repository,
    fun after => after.repository = repository ∨ done after.repository⟩

/-- A ref now names a commit, and nothing else has changed. -/
structure Bound (repository after : GitRepository) (ref : String) (oid : GitOid) : Prop where
  named : commitAt after ref = some oid
  frame : after = repository ∨ after = { repository with refs := repository.refs.set ref oid }

variable {world : GitWorld} {α : Type} {ends : Ends GitWorld GitError α}

theorem after_command {run : GitRepository → Option (α × GitRepository)}
    (refused : ends.raises .command { world with fates := world.fates.tail } ∧
      ends.dies { world with fates := world.fates.tail })
    (done : ∀ value changed, run world.repository = some (value, changed) →
      ends.returns value { world with repository := changed, fates := world.fates.tail } ∧
        ends.dies { world with repository := changed, fates := world.fates.tail }) :
    (command run).After ends world := by
  unfold After command
  dsimp only
  cases world.fates.headD .runs with
  | runs =>
    cases outcome : run world.repository with
    | none => exact refused.1
    | some result => exact (done result.1 result.2 outcome).1
  | fails => exact refused.1
  | dies =>
    cases outcome : run world.repository with
    | none => exact refused.2
    | some result => exact (done result.1 result.2 outcome).2

theorem query_healthy {run : GitRepository → Option α} {repository : GitRepository} {time : Nat}
    {value : α} (ran : run repository = some value) :
    query run ⟨repository, time, []⟩ = (.ok value, ⟨repository, time, []⟩) := by
  simp only [query, command, List.headD_nil, List.tail_nil, ran, Option.map_some]

theorem query_healthy_none {run : GitRepository → Option α} {repository : GitRepository}
    {time : Nat} (refused : run repository = none) :
    query run ⟨repository, time, []⟩ = (.error (.raised .command), ⟨repository, time, []⟩) := by
  simp only [query, command, List.headD_nil, List.tail_nil, refused, Option.map_none]

theorem resolve_healthy {repository : GitRepository} {ref : String} {oid : GitOid}
    (named : commitAt repository ref = some oid) (time : Nat) :
    resolve ref ⟨repository, time, []⟩ = (.ok oid, ⟨repository, time, []⟩) := query_healthy named

theorem resolve_healthy_none {repository : GitRepository} {ref : String}
    (unnamed : commitAt repository ref = none) (time : Nat) :
    resolve ref ⟨repository, time, []⟩ = (.error (.raised .command), ⟨repository, time, []⟩) :=
  query_healthy_none unnamed

theorem attempt_resolve_healthy (repository : GitRepository) (time : Nat) (ref : String) :
    attempt (resolve ref) ⟨repository, time, []⟩ =
      (.ok (commitAt repository ref), ⟨repository, time, []⟩) := by
  cases named : commitAt repository ref with
  | none =>
    rw [attempt, catching, bind_of_error (resolve_healthy_none named time)]
    rfl
  | some oid =>
    rw [attempt, catching, bind_of_ok (resolve_healthy named time)]
    rfl

theorem createCommit_healthy (commitOid : GitCommit → GitOid) (tree : GitTree)
    (parent : Option GitOid) (message : String) (repository : GitRepository) (time : Nat) :
    createCommit commitOid tree parent message ⟨repository, time, []⟩ =
      (.ok (commitOid ⟨tree, parent.toList, message, time⟩),
        ⟨withCommit repository (commitOid ⟨tree, parent.toList, message, time⟩)
          ⟨tree, parent.toList, message, time⟩, time, []⟩) := rfl

theorem createImmutableRef_new {repository : GitRepository} {ref : String} {oid : GitOid}
    (absent : repository.refs.get? ref = none) (present : (repository.commits.get? oid).isSome)
    (time : Nat) :
    createImmutableRef ref oid ⟨repository, time, []⟩ =
      (.ok (), ⟨{ repository with refs := repository.refs.set ref oid }, time, []⟩) := by
  have unnamed : commitAt repository ref = none := by rw [commitAt, absent]; rfl
  obtain ⟨commit, found⟩ := Option.isSome_iff_exists.mp present
  have asserted : assertCommit oid ⟨repository, time, []⟩ = (.ok (), ⟨repository, time, []⟩) :=
    query_healthy (by rw [found]; rfl)
  rw [createImmutableRef, bind_of_ok (attempt_resolve_healthy repository time ref), unnamed]
  dsimp only
  rw [updateRef, bind_of_ok asserted]
  refine (bind_of_ok rfl).trans ?_
  simp only [orConflict, catching, command, List.headD_nil, List.tail_nil]
  rw [if_pos absent]

theorem createImmutableRef_old {repository : GitRepository} {ref : String} {found : GitOid}
    (named : commitAt repository ref = some found) (oid : GitOid) (time : Nat) :
    createImmutableRef ref oid ⟨repository, time, []⟩ =
      (if found ≠ oid then .error (.raised .integrity) else .ok (), ⟨repository, time, []⟩) := by
  rw [createImmutableRef, bind_of_ok (attempt_resolve_healthy repository time ref), named]
  dsimp only
  by_cases same : found = oid
  · rw [if_neg (not_not.mpr same), if_neg (not_not.mpr same)]
    rfl
  · rw [if_pos same, if_pos same]
    rfl

theorem after_query {run : GitRepository → Option α}
    (refused : ends.raises .command { world with fates := world.fates.tail } ∧
      ends.dies { world with fates := world.fates.tail })
    (done : ∀ value, run world.repository = some value →
      ends.returns value { world with fates := world.fates.tail }) :
    (query run).After ends world := by
  refine after_command refused fun value changed ran => ?_
  obtain ⟨found, run, equal⟩ := Option.map_eq_some_iff.mp ran
  cases equal
  exact ⟨done _ run, refused.2⟩

theorem after_assertCommit {oid : GitOid} {ends : Ends GitWorld GitError Unit}
    (refused : ends.raises .command { world with fates := world.fates.tail } ∧
      ends.dies { world with fates := world.fates.tail })
    (done : (world.repository.commits.get? oid).isSome →
      ends.returns () { world with fates := world.fates.tail }) :
    (assertCommit oid).After ends world := by
  refine after_query refused fun _ found => ?_
  obtain ⟨commit, present, -⟩ := Option.map_eq_some_iff.mp found
  exact done (by rw [present]; rfl)

theorem after_createCommit {commitOid : GitCommit → GitOid} {tree : GitTree} {parent : Option GitOid}
    {message : String} {ends : Ends GitWorld GitError GitOid} {commit : GitCommit}
    (content : commit = ⟨tree, parent.toList, message, world.time⟩)
    (refused : ends.raises .command { world with fates := world.fates.tail } ∧
      ends.dies { world with fates := world.fates.tail })
    (done : ∀ after : GitWorld, after.time = world.time →
      after.repository = withCommit world.repository (commitOid commit) commit →
      ends.returns (commitOid commit) after ∧ ends.dies after) :
    (createCommit commitOid tree parent message).After ends world := by
  subst content
  rw [createCommit, after_bind, after_ask]
  refine after_command refused fun value changed made => ?_
  cases made
  exact done _ rfl rfl

theorem after_orConflict {body : Git Unit} {repository : GitRepository} {done : GitRepository → Prop}
    (holds : body.After (allOrNothing repository done) world) :
    (orConflict body).After (allOrNothing repository done) world := by
  rw [orConflict, after_catching]
  refine holds.weaken ⟨fun _ _ taken => taken, ?_, fun _ ended => ended⟩
  intro error after unchanged
  exact unchanged

theorem after_updateRef {repository : GitRepository} (here : world.repository = repository)
    (ref : String) (oid : GitOid) :
    (updateRef ref oid none).After
      (allOrNothing repository (fun after => repository.refs.get? ref = none ∧
        Bound repository after ref oid)) world := by
  subst here
  rw [updateRef, after_bind]
  refine after_assertCommit ⟨rfl, .inl rfl⟩ fun present => ?_
  dsimp only
  rw [after_bind, after_pure]
  refine after_orConflict (after_command ⟨rfl, .inl rfl⟩ fun value changed ran => ?_)
  dsimp only at ran
  by_cases absent : world.repository.refs.get? ref = none
  · rw [if_pos absent] at ran
    cases ran
    have named : commitAt { world.repository with refs := world.repository.refs.set ref oid } ref =
        some oid := by
      simp [commitAt, present]
    exact ⟨⟨absent, named, .inr rfl⟩, .inr ⟨absent, named, .inr rfl⟩⟩
  · rw [if_neg absent] at ran
    cases ran

theorem after_attempt_resolve {ref : String}
    {ends : Ends GitWorld GitError (Option GitOid)}
    (dies : ∀ after : GitWorld, after.repository = world.repository → ends.dies after)
    (absent : ∀ after : GitWorld, after.repository = world.repository → ends.returns none after)
    (found : ∀ oid, commitAt world.repository ref = some oid →
      ∀ after : GitWorld, after.repository = world.repository → ends.returns (some oid) after) :
    (attempt (resolve ref)).After ends world := by
  rw [attempt, after_catching, after_bind]
  refine after_query ⟨?_, dies _ rfl⟩ fun oid resolved => ?_
  · dsimp only
    rw [if_pos rfl]
    exact absent _ rfl
  · exact found oid resolved _ rfl

theorem after_createImmutableRef {repository : GitRepository} (here : world.repository = repository)
    (ref : String) (oid : GitOid) :
    (createImmutableRef ref oid).After
      (allOrNothing repository (fun after => Bound repository after ref oid)) world := by
  subst here
  rw [createImmutableRef, after_bind]
  refine after_attempt_resolve (fun _ same => .inl same) (fun after same => ?_)
    fun found named after same => ?_
  · exact (after_updateRef same ref oid).weaken
      ⟨fun _ _ done => done.2, fun _ _ same => same, fun _ ended => ended.imp_right And.right⟩
  · dsimp only
    by_cases equal : found = oid
    · subst equal
      rw [if_neg (not_not.mpr rfl)]
      exact ⟨by rw [same]; exact named, .inl same⟩
    · rw [if_pos equal]
      exact same

theorem after_deleteRef {repository : GitRepository} (here : world.repository = repository)
    (ref : String) (oid : GitOid) :
    (deleteRef ref oid).After
      (allOrNothing repository (fun after => repository.refs.get? ref = some oid ∧
        after = { repository with refs := repository.refs.erase ref })) world := by
  subst here
  rw [deleteRef, after_bind]
  refine after_assertCommit ⟨rfl, .inl rfl⟩ fun _ => ?_
  refine after_orConflict (after_command ⟨rfl, .inl rfl⟩ fun value changed ran => ?_)
  dsimp only at ran
  by_cases named : world.repository.refs.get? ref = some oid
  · rw [if_pos named] at ran
    cases ran
    exact ⟨⟨named, rfl⟩, .inr ⟨named, rfl⟩⟩
  · rw [if_neg named] at ran
    cases ran

/-! ## Calls that do not kill the process -/

/-- Where no command kills the process, the call does not either. -/
def Survives {α : Type} (body : Git α) : Prop :=
  ∀ world : GitWorld, .dies ∉ world.fates →
    body.After ⟨fun _ after => .dies ∉ after.fates, fun _ after => .dies ∉ after.fates,
      fun _ => False⟩ world

theorem survives_pure (value : α) : Survives (pure value) := fun _ spared => spared

theorem survives_raise (error : GitError) : Survives (raise error : Git α) :=
  fun _ spared => spared

theorem Survives.bind {β : Type} {first : Git β} {next : β → Git α} (here : Survives first)
    (later : ∀ value, Survives (next value)) : Survives (first >>= next) := by
  intro world spared
  rw [after_bind]
  exact (here world spared).weaken
    ⟨fun value after spared => later value after spared, fun _ _ spared => spared, fun _ dead => dead⟩

theorem Survives.catching {body : Git α} {handler : GitError → Git α} (here : Survives body)
    (later : ∀ error, Survives (handler error)) : Survives (catching body handler) := by
  intro world spared
  rw [after_catching]
  exact (here world spared).weaken
    ⟨fun _ _ spared => spared, fun error after spared => later error after spared, fun _ dead => dead⟩

theorem survives_command (run : GitRepository → Option (α × GitRepository)) :
    Survives (command run) := by
  intro world spared
  have tail : .dies ∉ world.fates.tail := fun member => spared (List.mem_of_mem_tail member)
  have head : world.fates.headD .runs ≠ .dies := by
    cases fates : world.fates with
    | nil => decide
    | cons fate rest =>
      rw [fates] at spared
      rintro rfl
      exact spared List.mem_cons_self
  unfold After command
  dsimp only
  cases fate : world.fates.headD .runs with
  | runs =>
    cases run world.repository with
    | none => exact tail
    | some result => exact tail
  | fails => exact tail
  | dies => exact absurd fate head

theorem survives_query (run : GitRepository → Option α) : Survives (query run) :=
  survives_command _

theorem survives_orConflict {body : Git Unit} (here : Survives body) : Survives (orConflict body) :=
  here.catching (fun _ => survives_raise _)

theorem survives_updateRef (ref : String) (newOid : GitOid) (expected : Option GitOid) :
    Survives (updateRef ref newOid expected) := by
  refine (survives_query _).bind fun _ => Survives.bind ?_ fun _ =>
    survives_orConflict (survives_command _)
  cases expected with
  | none => exact survives_pure ()
  | some oid => exact survives_query _

theorem survives_createImmutableRef (ref : String) (oid : GitOid) :
    Survives (createImmutableRef ref oid) := by
  refine Survives.bind (Survives.catching ((survives_query _).bind fun _ => survives_pure _)
    fun error => ?_) fun current => ?_
  · split
    · exact survives_pure none
    · exact survives_raise error
  · cases current with
    | none => exact survives_updateRef ref oid none
    | some found =>
      dsimp only
      split
      · exact survives_raise .integrity
      · exact survives_pure ()

theorem survives_deleteRef (ref : String) (expected : GitOid) : Survives (deleteRef ref expected) :=
  (survives_query _).bind fun _ => survives_orConflict (survives_command _)

/-! ## Listing -/

theorem pathLe_eq_le : pathLe = (fun left right : String => left ≤ right) := by
  funext left right
  exact propext not_lt

theorem refsBelow_eq {repository : GitRepository} {path : String} {names : List String}
    (ordered : names.Pairwise (· < ·))
    (listed : ∀ ref, ref ∈ names ↔ below path ref = true ∧ ∃ oid, repository.refs.get? ref = some oid) :
    refsBelow repository path = names := by
  have distinct : (repository.refs.keys.filter (below path)).Nodup :=
    repository.refs.nodup.filter _
  have total : Std.Total (α := String) pathLe :=
    ⟨fun left right => by rw [pathLe_eq_le]; exact le_total left right⟩
  have transitive : IsTrans String pathLe :=
    ⟨fun _ _ _ => by rw [pathLe_eq_le]; exact le_trans⟩
  have sorted : (refsBelow repository path).Pairwise pathLe := List.pairwise_insertionSort pathLe _
  have same : (refsBelow repository path).Perm names := by
    refine (List.perm_insertionSort pathLe _).trans ?_
    refine (List.perm_ext_iff_of_nodup distinct (ordered.imp fun less => less.ne)).mpr fun ref => ?_
    rw [List.mem_filter, Dict.mem_keys_iff, listed, and_comm]
  rw [pathLe_eq_le] at sorted
  exact same.eq_of_pairwise (fun _ _ _ _ => le_antisymm) sorted (ordered.imp le_of_lt)

end OutputRepository

/-! ## The refs of a run -/

/-- `GitRefLayout`. -/
structure GitRefLayout where
  runId : RunId
  deriving DecidableEq

namespace GitRefLayout

variable (layout : GitRefLayout)

/-- What all refs of a run start with. -/
def run : String := "refs/codemigrator/runs/" ++ layout.runId.str

theorem run_eq : layout.run = "refs/codemigrator/runs/" ++ layout.runId.str := rfl

/-- `base`. -/
def base : String := layout.run ++ "/base"

/-- `verified`. -/
def verified : String := layout.run ++ "/verified"

/-- `candidate`. -/
def candidate (sliceId : SliceId) (generation : CandidateGeneration) : String :=
  layout.run ++ "/slices/" ++ sliceId.str ++ "/candidates/" ++ toString generation.val

/-- `integration`. -/
def integration (sliceId : SliceId) (generation : CandidateGeneration) : String :=
  layout.run ++ "/integration/" ++ sliceId.str ++ "/" ++ toString generation.val

/-- `repair_candidate`. -/
def repairCandidate (repairSessionId : UUID) (number : Nat) : String :=
  layout.run ++ "/repairs/" ++ repairSessionId.str ++ "/candidates/" ++ toString number

/-- `f"{sequence:020d}"`. -/
def padded (sequence : Nat) : List Char :=
  List.replicate (20 - (Nat.toDigits 10 sequence).length) '0' ++ Nat.toDigits 10 sequence

/-- Where the repair queue is. -/
def queuePath : String := layout.run ++ "/repairs/queue"

/-- `repair_queue`. -/
def repairQueue (repairSessionId : UUID) (number sequence : Nat) : String :=
  layout.queuePath ++ "/" ++ String.ofList (padded sequence) ++ "/" ++ repairSessionId.str ++ "/" ++
    toString number

theorem run_append_ne {left right : String} (different : left ≠ right) :
    layout.run ++ left ≠ layout.run ++ right := by
  intro same
  have lists := congrArg String.toList same
  rw [String.toList_append, String.toList_append, List.append_cancel_left_eq] at lists
  exact different (String.toList_injective lists)

theorem base_ne_verified : layout.base ≠ layout.verified := layout.run_append_ne (by decide)

theorem verified_ne_candidate (sliceId : SliceId) (generation : CandidateGeneration) :
    layout.verified ≠ layout.candidate sliceId generation := by
  have shape : layout.candidate sliceId generation = layout.run ++
      ("/slices/" ++ (sliceId.str ++ ("/candidates/" ++ toString generation.val))) := by
    simp only [candidate, String.append_assoc]
  rw [shape]
  refine layout.run_append_ne fun same => ?_
  have lists := congrArg String.toList same
  rw [String.toList_append] at lists
  exact absurd (List.cons.inj (List.cons.inj lists).2).1 (by decide)

theorem verified_ne_integration (sliceId : SliceId) (generation : CandidateGeneration) :
    layout.verified ≠ layout.integration sliceId generation := by
  have shape : layout.integration sliceId generation = layout.run ++
      ("/integration/" ++ (sliceId.str ++ ("/" ++ toString generation.val))) := by
    simp only [integration, String.append_assoc]
  rw [shape]
  refine layout.run_append_ne fun same => ?_
  have lists := congrArg String.toList same
  rw [String.toList_append] at lists
  exact absurd (List.cons.inj (List.cons.inj lists).2).1 (by decide)

theorem candidate_ne_integration (sliceId : SliceId) (generation : CandidateGeneration) :
    layout.candidate sliceId generation ≠ layout.integration sliceId generation := by
  have left : layout.candidate sliceId generation = layout.run ++
      ("/slices/" ++ (sliceId.str ++ ("/candidates/" ++ toString generation.val))) := by
    simp only [candidate, String.append_assoc]
  have right : layout.integration sliceId generation = layout.run ++
      ("/integration/" ++ (sliceId.str ++ ("/" ++ toString generation.val))) := by
    simp only [integration, String.append_assoc]
  rw [left, right]
  refine layout.run_append_ne fun same => ?_
  have lists := congrArg String.toList same
  simp at lists

end GitRefLayout

end CodeMigrator
