import CodeMigrator.Lib.CommandLine
import CodeMigrator.Sandbox.Policy

/-!
# The command of the sandbox

`build_bwrap_argv` and `build_shell_bwrap_argv` (`sandbox/command.py`). bwrap reads the vector by the
number of arguments of each option, so no text of the policy or of the command becomes an option.
The targets of mounts are checked as text, while the kernel resolves repeated slashes and `.`.
-/

namespace CodeMigrator
open Lib

/-! ## Commands -/

/-- `FrozenCommand`; the digest of its template is not read here. -/
structure FrozenCommand where
  program : String
  argv : List String
  toolchainImageDigest : String
  programIsBasename : program ≠ "" ∧ hasChar program '\x00' = false ∧ hasChar program '/' = false
  argvContainsNoNul : ∀ item ∈ argv, hasChar item '\x00' = false

/-- `ShellCommand`. -/
structure ShellCommand where
  program : String
  argv : List String
  programIsNonempty : program ≠ "" ∧ hasChar program '\x00' = false
  argvContainsNoNul : ∀ item ∈ argv, hasChar item '\x00' = false

/-- `_build_bwrap_prefix`. -/
def buildBwrapPrefix (policy : PolicyFields) : List String :=
  [policy.executable, "--unshare-all", "--new-session", "--die-with-parent", "--clearenv",
    "--cap-drop", "ALL", "--ro-bind", policy.rootfs, "/", "--dev", "/dev", "--proc", "/proc",
    "--tmpfs", "/tmp", "--bind", policy.validationDir, "/workspace"] ++
  (match policy.cacheDir with
    | none => []
    | some cacheDir => ["--ro-bind", cacheDir, "/cache"]) ++
  policy.extraReadOnlyMounts.flatMap (fun mount => ["--ro-bind", mount.1, mount.2]) ++
  ["--seccomp", toString policy.seccompFd]

/-- `environment.setdefault(name, value)`. -/
def setDefault (environment : Dict String String) (name value : String) : Dict String String :=
  if name ∈ environment.keys then environment else environment.set name value

/-- `_build_environment`. -/
def buildEnvironment (policy : PolicyFields) : Dict String String :=
  match policy.networkMode, policy.proxyUrl with
  | .shell, some proxyUrl =>
    setDefault (setDefault policy.environment "HTTP_PROXY" proxyUrl) "HTTPS_PROXY" proxyUrl
  | _, _ => policy.environment

/-- `sorted(environment.items())`: the names are distinct. -/
def sortedEnvironment (policy : PolicyFields) : List (String × String) :=
  (buildEnvironment policy).entries.insertionSort fun left right => pathLe left.1 right.1

/-- The vector of a program and its arguments. -/
def buildArgv (policy : PolicyFields) (program : String) (argv : List String) : List String :=
  buildBwrapPrefix policy ++
    (sortedEnvironment policy).flatMap (fun entry => ["--setenv", entry.1, entry.2]) ++
    ["--chdir", "/workspace", "--", program] ++ argv

/-- `build_bwrap_argv`. -/
def buildBwrapArgv (policy : PolicyFields) (command : FrozenCommand) :
    Except String (List String) :=
  if command.toolchainImageDigest ≠ policy.toolchainImageDigest then
    .error "command image digest does not match the policy rootfs digest"
  else .ok (buildArgv policy command.program command.argv)

/-- `build_shell_bwrap_argv`. -/
def buildShellBwrapArgv (policy : PolicyFields) (command : ShellCommand) :
    Except String (List String) :=
  if policy.networkMode ≠ .shell then
    .error "Shell commands require the explicit shell network profile"
  else .ok (buildArgv policy command.program command.argv)

/-! ## How bwrap reads the vector -/

/-- The number of arguments of an option of bwrap. -/
def bwrapArity (option : String) : Option Nat :=
  if ["--unshare-all", "--new-session", "--die-with-parent", "--clearenv"].contains option then some 0
  else if ["--cap-drop", "--dev", "--proc", "--tmpfs", "--seccomp", "--chdir"].contains option then
    some 1
  else if ["--ro-bind", "--bind", "--setenv"].contains option then some 2
  else none

/-- The executable, the options with their arguments, and the command behind `--`. -/
def readArgv : List String → Option (String × List (String × List String) × List String)
  | [] => none
  | executable :: rest =>
    match splitOptions bwrapArity "--" rest.length rest with
    | none => none
    | some (options, command) => some (executable, options, command)

/-- The options that isolate every command. -/
def isolationOptions (policy : PolicyFields) : List (String × List String) :=
  [("--unshare-all", []), ("--new-session", []), ("--die-with-parent", []), ("--clearenv", []),
    ("--cap-drop", ["ALL"]), ("--ro-bind", [policy.rootfs, "/"]), ("--dev", ["/dev"]),
    ("--proc", ["/proc"]), ("--tmpfs", ["/tmp"]), ("--bind", [policy.validationDir, "/workspace"])]

/-- The mounts of the policy. -/
def mountOptions (policy : PolicyFields) : List (String × List String) :=
  (policy.cacheDir.map fun cacheDir => ("--ro-bind", [cacheDir, "/cache"])).toList ++
    policy.extraReadOnlyMounts.map fun mount => ("--ro-bind", [mount.1, mount.2])

/-- The variables that a shell with a proxy has where the policy does not set them. -/
def proxyVariables (policy : PolicyFields) : List (String × String) :=
  match policy.networkMode, policy.proxyUrl with
  | .shell, some proxyUrl =>
    (["HTTP_PROXY", "HTTPS_PROXY"].filter (· ∉ policy.environment.keys)).map (·, proxyUrl)
  | _, _ => []

/-- The variables of the policy and of its proxy, by name. -/
def environmentOptions (policy : PolicyFields) : List (String × List String) :=
  ((policy.environment.entries ++ proxyVariables policy).insertionSort
    fun left right => pathLe left.1 right.1).map fun entry => ("--setenv", [entry.1, entry.2])

/-- All options of a command. -/
def sandboxOptions (policy : PolicyFields) : List (String × List String) :=
  isolationOptions policy ++ mountOptions policy ++ [("--seccomp", [toString policy.seccompFd])] ++
    environmentOptions policy ++ [("--chdir", ["/workspace"])]

theorem optionWords_mountOptions (policy : PolicyFields) :
    optionWords (mountOptions policy) =
      (match policy.cacheDir with
        | none => []
        | some cacheDir => ["--ro-bind", cacheDir, "/cache"]) ++
      policy.extraReadOnlyMounts.flatMap (fun mount => ["--ro-bind", mount.1, mount.2]) := by
  rw [mountOptions, optionWords_append]
  congr 1
  · cases policy.cacheDir <;> rfl
  · exact List.flatMap_map ..

theorem setDefault_entries (environment : Dict String String) (name value : String) :
    (setDefault environment name value).entries =
      environment.entries ++ if name ∈ environment.keys then [] else [(name, value)] := by
  unfold setDefault
  split_ifs with given
  · rw [List.append_nil]
  · exact Dict.insert_of_not_mem value given

theorem buildEnvironment_entries (policy : PolicyFields) :
    (buildEnvironment policy).entries = policy.environment.entries ++ proxyVariables policy := by
  unfold buildEnvironment proxyVariables
  split
  · rw [setDefault_entries, setDefault_entries, List.append_assoc]
    simp only [Dict.keys, setDefault_entries]
    by_cases http : "HTTP_PROXY" ∈ policy.environment.entries.map Prod.fst <;>
      by_cases https : "HTTPS_PROXY" ∈ policy.environment.entries.map Prod.fst <;>
        simp [http, https]
  · rw [List.append_nil]

theorem optionWords_environmentOptions (policy : PolicyFields) :
    optionWords (environmentOptions policy) =
      (sortedEnvironment policy).flatMap (fun entry => ["--setenv", entry.1, entry.2]) := by
  rw [sortedEnvironment, buildEnvironment_entries]
  exact List.flatMap_map ..

theorem buildArgv_eq (policy : PolicyFields) (program : String) (argv : List String) :
    buildArgv policy program argv =
      policy.executable :: (optionWords (sandboxOptions policy) ++ "--" :: program :: argv) := by
  unfold buildArgv buildBwrapPrefix sandboxOptions
  simp only [optionWords_append, optionWords_mountOptions, optionWords_environmentOptions]
  simp [optionWords, isolationOptions]

theorem fitsArity {name : String} {arguments : List String} (count : Nat) (notStop : name ≠ "--")
    (arity : bwrapArity name = some count) (length : arguments.length = count) :
    FitsArity bwrapArity "--" (name, arguments) :=
  ⟨notStop, by rw [arity, ← length]⟩

theorem fitsArity_roBind (source target : String) :
    FitsArity bwrapArity "--" ("--ro-bind", [source, target]) :=
  fitsArity 2 (by decide) (by decide) rfl

theorem isolationOptions_fit (policy : PolicyFields) :
    ∀ option ∈ isolationOptions policy, FitsArity bwrapArity "--" option := by
  simp only [isolationOptions, List.forall_mem_cons]
  refine ⟨?_, ?_, ?_, ?_, ?_, fitsArity_roBind _ _, ?_, ?_, ?_, ?_, List.forall_mem_nil _⟩
  · exact fitsArity 0 (by decide) (by decide) rfl
  · exact fitsArity 0 (by decide) (by decide) rfl
  · exact fitsArity 0 (by decide) (by decide) rfl
  · exact fitsArity 0 (by decide) (by decide) rfl
  · exact fitsArity 1 (by decide) (by decide) rfl
  · exact fitsArity 1 (by decide) (by decide) rfl
  · exact fitsArity 1 (by decide) (by decide) rfl
  · exact fitsArity 1 (by decide) (by decide) rfl
  · exact fitsArity 2 (by decide) (by decide) rfl

theorem sandboxOptions_fit (policy : PolicyFields) :
    ∀ option ∈ sandboxOptions policy, FitsArity bwrapArity "--" option := by
  simp only [sandboxOptions, mountOptions, environmentOptions, List.forall_mem_append,
    List.forall_mem_singleton, List.forall_mem_map]
  refine ⟨⟨⟨⟨isolationOptions_fit policy, ?_, ?_⟩, ?_⟩, ?_⟩, ?_⟩
  · intro option member
    obtain ⟨cacheDir, _, rfl⟩ := Option.map_eq_some_iff.mp (Option.mem_toList.mp member)
    exact fitsArity_roBind cacheDir "/cache"
  · intro mount _
    exact fitsArity_roBind mount.1 mount.2
  · exact fitsArity 1 (by decide) (by decide) rfl
  · intro entry _
    exact fitsArity 2 (by decide) (by decide) rfl
  · exact fitsArity 1 (by decide) (by decide) rfl

theorem readArgv_buildArgv (policy : PolicyFields) (program : String) (argv : List String) :
    readArgv (buildArgv policy program argv) =
      some (policy.executable, sandboxOptions policy, program :: argv) := by
  have enough : (sandboxOptions policy).length <
      (optionWords (sandboxOptions policy) ++ "--" :: program :: argv).length := by
    have each := length_le_optionWords (sandboxOptions policy)
    simp only [List.length_append, List.length_cons]
    omega
  rw [buildArgv_eq, readArgv, splitOptions_optionWords (sandboxOptions_fit policy) _ enough]

/-! ## What a mount covers -/

/-- A segment that POSIX normalisation keeps. -/
def isName (segment : String) : Bool := segment ≠ "" && segment ≠ "."

/-- The segments of an absolute path without repeated slashes and `.`. -/
def normalSegments (path : String) : List String := (split path '/').filter isName

/-- The path denotes the root, a protected path or one below it. -/
def Shadows (target : String) : Prop :=
  normalSegments target = [] ∨
    ∃ guarded ∈ protectedMountTargets, normalSegments guarded <+: normalSegments target

/-- The segments behind the first slash. -/
def rawSegments (path : String) : List String := (split path '/').tail

/-- The first segment is empty or `.`, and the first one that is neither is missing or protected. -/
def Disguised (target : String) : Prop :=
  (rawSegments target).head?.any isName = false ∧
    ∀ name, (rawSegments target).find? isName = some name → "/" ++ name ∈ protectedMountTargets

theorem split_absolute {path : String} (absolute : startsWith path "/" = true) :
    split path '/' = "" :: rawSegments path := by
  obtain ⟨rest, text⟩ := (startsWith_iff path "/").mp absolute
  have segments : splitList '/' path.toList = [] :: splitList '/' rest := by
    rw [← text]
    exact splitList_append (List.not_mem_nil) rest
  rw [rawSegments, split, segments]
  rfl

theorem normalSegments_absolute {path : String} (absolute : startsWith path "/" = true) :
    normalSegments path = (rawSegments path).filter isName := by
  rw [normalSegments, split_absolute absolute, List.filter_cons_of_neg (by decide)]

theorem normalSegments_protected {guarded : String} (isProtected : guarded ∈ protectedMountTargets) :
    ∃ name, normalSegments guarded = [name] ∧ guarded = "/" ++ name := by
  simp only [protectedMountTargets, List.mem_cons, List.not_mem_nil, or_false] at isProtected
  rcases isProtected with rfl | rfl | rfl | rfl | rfl | rfl
  · exact ⟨"dev", by decide, by decide⟩
  · exact ⟨"proc", by decide, by decide⟩
  · exact ⟨"sys", by decide, by decide⟩
  · exact ⟨"tmp", by decide, by decide⟩
  · exact ⟨"workspace", by decide, by decide⟩
  · exact ⟨"cache", by decide, by decide⟩

variable {target source : String}

theorem shadows_iff (absolute : startsWith target "/" = true) :
    Shadows target ↔
      ∀ name, (rawSegments target).find? isName = some name →
        "/" ++ name ∈ protectedMountTargets := by
  have first : (normalSegments target).head? = (rawSegments target).find? isName := by
    rw [normalSegments_absolute absolute, List.head?_filter]
  rw [← first]
  constructor
  · intro shadows name isFirst
    rcases shadows with root | ⟨guarded, isProtected, below⟩
    · rw [root] at isFirst
      cases isFirst
    · obtain ⟨single, segments, rfl⟩ := normalSegments_protected isProtected
      rw [segments] at below
      obtain ⟨rest, whole⟩ := below
      rw [← whole] at isFirst
      cases isFirst
      exact isProtected
  · intro guards
    cases segments : normalSegments target with
    | nil => exact .inl segments
    | cons name rest =>
      have isProtected := guards name (by rw [segments]; rfl)
      obtain ⟨single, own, same⟩ := normalSegments_protected isProtected
      have sameName : name = single := by
        have texts := congrArg String.toList same
        rw [String.toList_append, String.toList_append] at texts
        exact String.toList_inj.mp (List.append_cancel_left texts)
      refine .inr ⟨_, isProtected, ?_⟩
      rw [own, segments, sameName]
      exact ⟨rest, rfl⟩

theorem mountError_target {host : SandboxHost} (passed : mountError host source target = none) :
    startsWith target "/" = true ∧ target ∉ protectedMountTargets ∧
      ∀ guarded ∈ protectedMountTargets, startsWith target (guarded ++ "/") = false := by
  unfold mountError at passed
  split at passed
  · cases passed
  · rename_i safe
    split at passed
    · cases passed
    · split at passed
      · cases passed
      · rename_i unprotected
        simp only [Bool.or_eq_true, Bool.not_eq_true', not_or, Bool.not_eq_false] at safe
        simp only [Bool.or_eq_true, List.contains_iff_mem, List.any_eq_true, not_or, not_exists,
          not_and, Bool.not_eq_true] at unprotected
        have absolute := safe.2
        simp only [isSafeWorkspacePath, Bool.and_eq_true] at absolute
        exact ⟨absolute.1.1.1.1, unprotected⟩

theorem not_shadows_of_name {host : SandboxHost} {name : String}
    (passed : mountError host source target = none) (first : (rawSegments target).head? = some name)
    (named : isName name = true) : ¬ Shadows target := by
  obtain ⟨absolute, notProtected, notBelow⟩ := mountError_target passed
  rw [shadows_iff absolute]
  intro guards
  obtain ⟨rest, segments⟩ : ∃ rest, rawSegments target = name :: rest := by
    cases segments : rawSegments target with
    | nil => rw [segments] at first; cases first
    | cons head rest =>
      rw [segments] at first
      cases first
      exact ⟨rest, rfl⟩
  have isProtected := guards name (by rw [segments, List.find?_cons_of_pos named])
  -- the text is the protected path itself, or goes on behind it
  have text : target.toList = '/' :: ['/'].intercalate (name.toList :: rest.map String.toList) := by
    rw [← join_split target '/', split_absolute absolute, segments, toList_join, List.map_cons,
      List.map_cons, List.intercalate_cons_cons]
    rfl
  cases rest with
  | nil =>
    have same : target = "/" ++ name := by
      apply String.toList_inj.mp
      rw [text, String.toList_append, List.map_nil, List.intercalate_singleton]
      rfl
    exact notProtected (same ▸ isProtected)
  | cons next others =>
    have below : startsWith target ("/" ++ name ++ "/") = true := by
      rw [startsWith_iff, text, List.map_cons, List.intercalate_cons_cons]
      simp only [String.toList_append]
      exact ⟨['/'].intercalate (next.toList :: others.map String.toList), by simp⟩
    rw [notBelow _ isProtected] at below
    cases below

theorem shadows_iff_disguised {host : SandboxHost} (passed : mountError host source target = none) :
    Shadows target ↔ Disguised target := by
  obtain ⟨absolute, _⟩ := mountError_target passed
  unfold Disguised
  rw [← shadows_iff absolute]
  constructor
  · intro shadows
    refine ⟨?_, shadows⟩
    cases first : (rawSegments target).head? with
    | none => rfl
    | some name =>
      by_contra named
      exact not_shadows_of_name passed first (by simpa using named) shadows
  · exact And.right

/-! ## The claim on policies -/

/-- No mount covers what the sandbox sets up, and bwrap reads the options of the policy and then the
command from every vector that is built. -/
structure Isolated (policy : PolicyFields) : Prop where
  mounts : ∀ mount ∈ policy.extraReadOnlyMounts, ¬ Shadows mount.2
  frozen : ∀ command argv, buildBwrapArgv policy command = .ok argv →
    readArgv argv = some (policy.executable, sandboxOptions policy, command.program :: command.argv)
  shell : ∀ command argv, buildShellBwrapArgv policy command = .ok argv →
    readArgv argv = some (policy.executable, sandboxOptions policy, command.program :: command.argv)

/-- A policy isolates its commands exactly when no target of its mounts is disguised. -/
theorem isolated_iff {host : SandboxHost} (policy : BwrapPolicy host) :
    Isolated policy.toPolicyFields ↔
      ∀ mount ∈ policy.extraReadOnlyMounts, ¬ Disguised mount.2 := by
  constructor
  · intro isolated mount member disguised
    have passed := policy.mount_passed member
    exact isolated.mounts mount member ((shadows_iff_disguised passed).mpr disguised)
  · intro plain
    constructor
    · intro mount member shadows
      have passed := policy.mount_passed member
      exact plain mount member ((shadows_iff_disguised passed).mp shadows)
    · intro command argv built
      unfold buildBwrapArgv at built
      split at built
      · cases built
      · cases built
        exact readArgv_buildArgv _ _ _
    · intro command argv built
      unfold buildShellBwrapArgv at built
      split at built
      · cases built
      · cases built
        exact readArgv_buildArgv _ _ _

namespace SamplePolicy

/-- A host without links. -/
def host : SandboxHost where
  resolve := some
  normalizeNfkc := id
  isIpv6 := fun _ => false
  reprNames := fun _ => ""

/-- The fields of a policy with one mount. -/
def mounting (target : String) : PolicyFields where
  executable := "/usr/bin/bwrap"
  rootfs := "/opt/toolchain"
  validationDir := "/tmp/validation-1"
  toolchainImageDigest :=
    "sha256:bbbbbbbbbbbbbbbbbbbbbbbbbbbbbbbbbbbbbbbbbbbbbbbbbbbbbbbbbbbbbbbb"
  cacheDir := none
  seccompFd := 7
  seccompSha256 := "cccccccccccccccccccccccccccccccccccccccccccccccccccccccccccccccc"
  networkMode := .deny
  proxyUrl := none
  environment := .empty
  extraReadOnlyMounts := [("/opt/cache", target)]

example : PolicyFields.validate host (mounting "/dev/shm") =
    .error (.fields [("extra_read_only_mounts",
      "forbidden mount shadows a sandbox-managed path")]) := by
  decide

/-- The validators accept a mount over the devices, with one slash more. -/
def overDevices : BwrapPolicy host where
  toPolicyFields := mounting "//dev"
  accepted := ⟨mounting "//dev", by decide⟩

/-- The device directory of the sandbox is covered. -/
theorem devices_shadowed : ¬ Isolated overDevices.toPolicyFields := by
  intro isolated
  have shadows : Shadows "//dev" := .inr ⟨"/dev", by decide, by decide⟩
  exact isolated.mounts ("/opt/cache", "//dev") List.mem_cons_self shadows

end SamplePolicy

end CodeMigrator
