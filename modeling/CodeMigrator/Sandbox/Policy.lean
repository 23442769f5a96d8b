import CodeMigrator.Core.Paths
import CodeMigrator.Lib.Dict
import CodeMigrator.Lib.Parts

/-!
# The sandbox policy

The validators of `BwrapPolicy` (`sandbox/command.py`). What the file system says about a path, the
Unicode tables and the standard library's reader of addresses are parameters.
-/

namespace CodeMigrator
open Lib

/-- What the policy asks of its host. -/
structure SandboxHost where
  /-- `str(Path(path).resolve(strict=False))`; `none` is its `OSError`. -/
  resolve : String → Option String
  /-- `unicodedata.normalize("NFKC", text)`. -/
  normalizeNfkc : List Char → List Char
  /-- Whether `ipaddress.ip_address` reads an IPv6 address. -/
  isIpv6 : List Char → Bool
  /-- `str` of a sorted list of texts. -/
  reprNames : List String → String

/-! ## `urlsplit` -/

/-- `text.partition(c)`: the text before the first `c`, whether there is one, and the text behind. -/
def partition (c : Char) (text : List Char) : List Char × Bool × List Char :=
  match text.span (· ≠ c) with
  | (before, []) => (before, false, [])
  | (before, _ :: behind) => (before, true, behind)

/-- `text.rpartition(c)`. -/
def rpartition (c : Char) (text : List Char) : List Char × Bool × List Char :=
  match partition c text.reverse with
  | (behind, true, before) => (before.reverse, true, behind.reverse)
  | (behind, false, _) => ([], false, behind.reverse)

/-- `SplitResult` of `urllib.parse`. -/
structure SplitResult where
  scheme : List Char
  netloc : List Char
  path : List Char
  query : List Char
  fragment : List Char

/-- The scheme in lower case and what is behind it. -/
def splitScheme (url : List Char) : List Char × List Char :=
  match partition ':' url with
  | (scheme, true, behind) =>
    if scheme.head?.any Char.isAlpha &&
        scheme.all (fun c => c.isAlphanum || "+-.".toList.contains c) then
      (scheme.map Char.toLower, behind)
    else ([], url)
  | (_, false, _) => ([], url)

/-- `_splitnetloc` behind the two slashes. -/
def splitNetloc (url : List Char) : List Char × List Char :=
  if "//".toList.isPrefixOf url then (url.drop 2).span (fun c => !"/?#".toList.contains c)
  else ([], url)

/-- `_check_bracketed_host`. -/
def checkBracketedHost (host : SandboxHost) (hostname : List Char) : Bool :=
  if hostname.head? = some 'v' then
    match partition '.' (hostname.drop 1) with
    | (hex, true, behind) =>
      hex ≠ [] && hex.all (fun c => c.isDigit || "abcdefABCDEF".toList.contains c) && behind ≠ []
    | (_, false, _) => false
  else host.isIpv6 hostname

/-- `_check_bracketed_netloc`. -/
def checkBracketedNetloc (host : SandboxHost) (netloc : List Char) : Bool :=
  let hostnameAndPort := (rpartition '@' netloc).2.2
  match partition '[' hostnameAndPort with
  | (before, true, bracketed) =>
    let (hostname, _, port) := partition ']' bracketed
    before = [] && (port = [] || port.head? = some ':') && checkBracketedHost host hostname
  | (_, false, _) => checkBracketedHost host (partition ':' hostnameAndPort).1

/-- `_checknetloc`: the compatibility form brings no delimiter in. -/
def checkNetloc (host : SandboxHost) (netloc : List Char) : Bool :=
  let bare := netloc.filter fun c => !"@:#?".toList.contains c
  netloc.all (·.toNat < 128) || host.normalizeNfkc bare = bare ||
    (host.normalizeNfkc bare).all fun c => !"/?#@:".toList.contains c

/-- `urlsplit`; `none` is its `ValueError`. -/
def urlsplit (host : SandboxHost) (url : String) : Option SplitResult :=
  let cleaned := (url.toList.dropWhile (· ≤ ' ')).filter fun c => !"\t\r\n".toList.contains c
  let (scheme, schemeless) := splitScheme cleaned
  let (netloc, hostless) := splitNetloc schemeless
  let (unfragmented, _, fragment) := partition '#' hostless
  let (path, _, query) := partition '?' unfragmented
  if netloc.contains '[' != netloc.contains ']' then none
  else if netloc.contains '[' && !checkBracketedNetloc host netloc then none
  else if !checkNetloc host netloc then none
  else some ⟨scheme, netloc, path, query, fragment⟩

namespace SplitResult

/-- `_userinfo`: the user name and the password. -/
def userinfo (parsed : SplitResult) : Option (List Char) × Option (List Char) :=
  match rpartition '@' parsed.netloc with
  | (userinfo, true, _) =>
    match partition ':' userinfo with
    | (username, true, password) => (some username, some password)
    | (username, false, _) => (some username, none)
  | (_, false, _) => (none, none)

/-- `_hostinfo`: the host name and the text of the port. -/
def hostinfo (parsed : SplitResult) : List Char × List Char :=
  let hostinfo := (rpartition '@' parsed.netloc).2.2
  match partition '[' hostinfo with
  | (_, true, bracketed) =>
    let (hostname, _, port) := partition ']' bracketed
    (hostname, (partition ':' port).2.2)
  | (_, false, _) =>
    let (hostname, _, port) := partition ':' hostinfo
    (hostname, port)

/-- `hostname`: no other letters than those of ASCII become letters of the names it is compared
with. -/
def hostname (parsed : SplitResult) : List Char :=
  let (name, percent, zone) := partition '%' parsed.hostinfo.1
  name.map Char.toLower ++ (if percent then '%' :: zone else [])

/-- `port`: the outer `none` is its `ValueError`, which `int` raises for too many digits. -/
def port (parsed : SplitResult) : Option (Option Nat) :=
  let text := parsed.hostinfo.2
  if text = [] then some none
  else if !text.all Char.isDigit then none
  else
    let number := text.foldl (fun value c => 10 * value + (c.toNat - '0'.toNat)) 0
    if text.length ≤ 4300 ∧ number ≤ 65535 then some (some number) else none

end SplitResult

/-! ## Paths -/

/-- `_FORBIDDEN_MOUNT_NAMES`. -/
def forbiddenMountNames : List String :=
  ["/var/run/docker.sock", "/run/docker.sock", "/var/run/postgresql", "/run/postgresql",
    "/run/ssh-agent.sock", "/tmp/ssh-agent.sock"]

/-- `_PROTECTED_MOUNT_TARGETS`. -/
def protectedMountTargets : List String :=
  ["/dev", "/proc", "/sys", "/tmp", "/workspace", "/cache"]

/-- `is_safe_workspace_path`. -/
def isSafeWorkspacePath (path : String) : Bool :=
  startsWith path "/" && !(split path '/').contains ".." && path ≠ "/" && !hasChar path '\\' &&
    path.toList.all (' ' ≤ ·)

/-- `_is_under`. -/
def isUnder (path : String) (roots : List String) : Bool :=
  roots.any fun root => path = root || startsWith path (root ++ "/")

/-- `_is_managed_path`. -/
def isManagedPath (host : SandboxHost) (path : String) (roots : List String) : Bool :=
  match host.resolve path with
  | none => false
  | some resolved => isUnder resolved roots

/-- `_is_validation_path`. -/
def isValidationPath (host : SandboxHost) (path : String) : Bool :=
  match host.resolve path with
  | none => false
  | some resolved => resolved = "/tmp/validation" || startsWith resolved "/tmp/validation-" ||
      startsWith resolved "/tmp/codemigrator-validation-"

/-! ## The policy -/

/-- `NetworkMode`. -/
inductive NetworkMode where
  | deny | shell
  deriving DecidableEq, Repr

/-- The fields of `BwrapPolicy`. -/
structure PolicyFields where
  executable : String
  rootfs : String
  validationDir : String
  toolchainImageDigest : String
  cacheDir : Option String
  seccompFd : Int
  seccompSha256 : String
  networkMode : NetworkMode
  proxyUrl : Option String
  environment : Dict String String
  extraReadOnlyMounts : List (String × String)
  deriving DecidableEq

/-- Why a policy is refused. -/
inductive PolicyError where
  /-- The errors of the fields: the field and the text. -/
  | fields (errors : List (String × String))
  /-- The error of `network_policy_is_explicit`. -/
  | network (message : String)
  /-- The `ValueError` of `urlsplit`. -/
  | urlsplit
  deriving DecidableEq

/-- `_SAFE_ENVIRONMENT`. -/
def safeEnvironment : List String :=
  ["PATH", "HOME", "LANG", "LC_ALL", "HTTP_PROXY", "HTTPS_PROXY", "NO_PROXY"]

/-- `_HEX_64.fullmatch`. -/
def isHex64 (text : List Char) : Bool :=
  text.length = 64 && text.all fun c => c.isDigit || "abcdefABCDEF".toList.contains c

/-- `_DIGEST.fullmatch`. -/
def isDigest (text : String) : Bool :=
  startsWith text "sha256:" && isHex64 (text.toList.drop 7)

/-- `value.lower()` on a digest. -/
def lowerDigest (text : String) : String := String.ofList (text.toList.map Char.toLower)

/-- The error of a field whose check fails. -/
def checkField (field : String) (valid : Bool) (message : String) : List (String × String) :=
  if valid then [] else [(field, message)]

/-- `absolute_path` on a field that has a value. -/
def absolutePath (field : String) (value : Option String) : List (String × String) :=
  checkField field (value.all isSafeWorkspacePath)
    "sandbox paths must be private absolute paths without traversal"

/-- `environment_is_allowlisted`. -/
def environmentIsAllowlisted (host : SandboxHost) (value : Dict String String) :
    List (String × String) :=
  let unknown := (value.keys.filter (· ∉ safeEnvironment)).insertionSort pathLe
  if unknown ≠ [] then
    [("environment", "environment contains non-allowlisted names: " ++ host.reprNames unknown)]
  else checkField "environment"
    (value.entries.all fun entry => !hasChar entry.1 '\x00' && !hasChar entry.2 '\x00')
    "environment must not contain NUL bytes"

/-- What `mounts_are_safe` says about one mount; `none` where it passes. -/
def mountError (host : SandboxHost) (source target : String) : Option String :=
  if !isSafeWorkspacePath source || !isSafeWorkspacePath target then
    some "mount paths must be private absolute paths without traversal"
  else if forbiddenMountNames.contains source || forbiddenMountNames.contains target then
    some "forbidden mount exposes a host control socket"
  else if protectedMountTargets.contains target ||
      protectedMountTargets.any (fun path => startsWith target (path ++ "/")) then
    some "forbidden mount shadows a sandbox-managed path"
  else if !isManagedPath host source ["/opt/toolchain", "/opt/toolchains", "/opt/cache"] then
    some "forbidden mount source is outside managed roots"
  else if startsWith target "/workspace/" then
    some "forbidden mount target shadows validation contents"
  else if hasChar source '\x00' || hasChar target '\x00' then
    some "mount paths must not contain NUL bytes"
  else none

/-- `mounts_are_safe`: the first mount that fails decides. -/
def mountsAreSafe (host : SandboxHost) (value : List (String × String)) : List (String × String) :=
  match value.findSome? (fun mount => mountError host mount.1 mount.2) with
  | none => []
  | some message => [("extra_read_only_mounts", message)]

/-- The errors of the fields, in the order of the fields. -/
def fieldErrors (host : SandboxHost) (fields : PolicyFields) : List (String × String) :=
  (if fields.executable = "/usr/bin/bwrap" then absolutePath "executable" fields.executable
    else [("executable", "Input should be '/usr/bin/bwrap'")]) ++
  absolutePath "rootfs" fields.rootfs ++
  absolutePath "validation_dir" fields.validationDir ++
  checkField "toolchain_image_digest" (isDigest fields.toolchainImageDigest)
    "toolchain_image_digest must be a sha256 digest" ++
  absolutePath "cache_dir" fields.cacheDir ++
  checkField "seccomp_fd" (0 ≤ fields.seccompFd) "Input should be greater than or equal to 0" ++
  checkField "seccomp_sha256" (isHex64 fields.seccompSha256.toList)
    "seccomp_sha256 must be 64 hexadecimal characters" ++
  environmentIsAllowlisted host fields.environment ++
  mountsAreSafe host fields.extraReadOnlyMounts

/-- What `network_policy_is_explicit` asks of a proxy. -/
def proxyError (host : SandboxHost) (fields : PolicyFields) (proxyUrl : String) :
    Option PolicyError :=
  match urlsplit host proxyUrl with
  | none => some .urlsplit
  | some parsed =>
    match parsed.port with
    | none => some (.network "proxy_url must contain a valid port")
    | some port =>
      if parsed.scheme ≠ "http".toList || parsed.hostinfo.1 = [] || port = none ||
          parsed.userinfo.1 ≠ none || parsed.userinfo.2 ≠ none ||
          (parsed.path ≠ [] && parsed.path ≠ ['/']) || parsed.query ≠ [] ||
          parsed.fragment ≠ [] then
        some (.network "proxy_url must be an explicit HTTP endpoint")
      else if ["localhost".toList, "127.0.0.1".toList, "::1".toList].contains parsed.hostname then
        some (.network "proxy_url must address the veth proxy endpoint")
      else if ["HTTP_PROXY", "HTTPS_PROXY"].any (fun name =>
          (fields.environment.get? name).any (· ≠ proxyUrl)) then
        some (.network "proxy environment must point to proxy_url")
      else none

/-- `network_policy_is_explicit`. -/
def networkError (host : SandboxHost) (fields : PolicyFields) : Option PolicyError :=
  if !isManagedPath host fields.rootfs ["/opt/toolchain", "/opt/toolchains"] then
    some (.network "rootfs must be under the managed toolchain root")
  else if !isValidationPath host fields.validationDir then
    some (.network "validation_dir must be an app-managed validation path")
  else if fields.cacheDir.any (fun path => !isManagedPath host path ["/opt/cache"]) then
    some (.network "cache_dir must be under the managed dependency cache root")
  else if fields.networkMode = .deny && fields.proxyUrl ≠ none then
    some (.network "proxy_url is only valid for shell network mode")
  else if fields.networkMode = .shell && fields.proxyUrl.all (· = "") then
    some (.network "shell network mode requires an explicit proxy_url")
  else
    match fields.proxyUrl with
    | none => none
    | some proxyUrl => proxyError host fields proxyUrl

/-- The digests in lower case. -/
def PolicyFields.lowered (fields : PolicyFields) : PolicyFields :=
  { fields with
    toolchainImageDigest := lowerDigest fields.toolchainImageDigest
    seccompSha256 := lowerDigest fields.seccompSha256 }

/-- The validation of a `BwrapPolicy`. -/
def PolicyFields.validate (host : SandboxHost) (fields : PolicyFields) :
    Except PolicyError PolicyFields :=
  if fieldErrors host fields ≠ [] then .error (.fields (fieldErrors host fields))
  else
    match networkError host fields.lowered with
    | some error => .error error
    | none => .ok fields.lowered

/-- `BwrapPolicy`: fields that its validators have accepted. -/
structure BwrapPolicy (host : SandboxHost) extends PolicyFields where
  accepted : ∃ fields, PolicyFields.validate host fields = .ok toPolicyFields

theorem BwrapPolicy.mount_passed {host : SandboxHost} (policy : BwrapPolicy host)
    {mount : String × String} (member : mount ∈ policy.extraReadOnlyMounts) :
    mountError host mount.1 mount.2 = none := by
  obtain ⟨fields, accepted⟩ := policy.accepted
  unfold PolicyFields.validate at accepted
  by_cases errors : fieldErrors host fields = []
  · rw [if_neg (not_not_intro errors)] at accepted
    have silent : mountsAreSafe host fields.extraReadOnlyMounts = [] := by
      simp only [fieldErrors, List.append_eq_nil_iff] at errors
      exact errors.2
    cases network : networkError host fields.lowered with
    | some error =>
      rw [network] at accepted
      cases accepted
    | none =>
      rw [network, Except.ok.injEq] at accepted
      have same : fields.extraReadOnlyMounts = policy.extraReadOnlyMounts := by
        rw [← accepted]
        rfl
      unfold mountsAreSafe at silent
      cases first : fields.extraReadOnlyMounts.findSome?
          (fun mount => mountError host mount.1 mount.2) with
      | none => exact List.findSome?_eq_none_iff.mp first mount (same ▸ member)
      | some message => simp [first] at silent
  · rw [if_pos errors] at accepted
    cases accepted

end CodeMigrator
