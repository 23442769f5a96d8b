import CodeMigrator.Core.Ids
import CodeMigrator.Lib.PyValue

/-!
# Secrets

`core/secrets.py`: the scan of a payload for registered secrets and sensitive field names. An
accepted value is copied as it is, so the scan is given by the reason for which it rejects. A
registry has the lengths and digests of the encoded secrets; `sha256` is the digest of a
text's UTF-8 bytes.
-/

namespace CodeMigrator
open Lib

/-- `FORBIDDEN_FIELDS`. -/
def forbiddenFields : List String :=
  ["access_token", "api_key", "authorization", "body", "command", "content", "cookie",
    "credential", "database_url", "dsn", "full_path", "host_path", "message", "messages",
    "new_text", "old_text", "password", "path", "private_key", "prompt", "raw_output", "script",
    "secret", "source", "source_code", "stderr", "stdout", "token", "tool_output"]

/-- The case folding of a character, where it is ASCII: the capital letters, the long s, the
Kelvin sign, the sharp s and the ligatures. Every other character folds to something outside
of ASCII and is left as it is. -/
def casefoldChar (c : Char) : List Char :=
  if 'A' ≤ c ∧ c ≤ 'Z' then [c.toLower]
  else
    match c with
    | '\u017f' => ['s']
    | '\u212a' => ['k']
    | '\u00df' | '\u1e9e' => ['s', 's']
    | '\ufb00' => ['f', 'f']
    | '\ufb01' => ['f', 'i']
    | '\ufb02' => ['f', 'l']
    | '\ufb03' => ['f', 'f', 'i']
    | '\ufb04' => ['f', 'f', 'l']
    | '\ufb05' | '\ufb06' => ['s', 't']
    | _ => [c]

/-- `name.casefold()`, as far as it is compared with ASCII names. -/
def casefold (name : String) : String := String.ofList (name.toList.flatMap casefoldChar)

/-- `key.casefold() in FORBIDDEN_FIELDS`. -/
def isForbidden (name : String) : Bool := forbiddenFields.contains (casefold name)

/-- `_BLOCKED_SECRET`, `_BLOCKED_FIELD` and `_BLOCKED_TYPE`. -/
inductive Blocked where
  | secret
  | field
  | type
  deriving DecidableEq

/-- `SecretRegistry`. -/
structure SecretRegistry where
  sha256 : String → Sha256
  fingerprints : List (Nat × Sha256)

namespace SecretRegistry

/-- `_contains_secret`. -/
def containsSecret (registry : SecretRegistry) (value : String) : Bool :=
  registry.fingerprints.any fun (length, expected) =>
    length ≤ value.length &&
      (List.range (value.length - length + 1)).any fun start =>
        registry.sha256 (String.ofList ((value.toList.drop start).take length)) == expected

mutual
/-- `_scan_value`: the reason for which the value is rejected. -/
def scanValue (registry : SecretRegistry) : PyValue → Option Blocked
  | .str value => if registry.containsSecret value then some .secret else none
  | .none | .bool _ | .int _ | .float _ => none
  | .dict entries => scanEntries registry entries
  | .list items => scanItems registry items
  | .tuple items => scanItems registry items
  | .other => some .type
/-- The loop of `_scan_value` over a sequence. -/
def scanItems (registry : SecretRegistry) : List PyValue → Option Blocked
  | [] => none
  | item :: items => (scanValue registry item).or (scanItems registry items)
/-- The loop of `_scan_value` over a mapping. -/
def scanEntries (registry : SecretRegistry) : List (PyKey × PyValue) → Option Blocked
  | [] => none
  | (.other _, _) :: _ => some .type
  | (.str name, value) :: entries =>
    if isForbidden name then some .field
    else (scanValue registry value).or (scanEntries registry entries)
end

/-- `SecretRegistry()`: nothing is registered. -/
def unregistered (registry : SecretRegistry) : SecretRegistry := { registry with fingerprints := [] }

/-- `SecretRegistry.redact` of a mapping: whether it is accepted. -/
def accepts (registry : SecretRegistry) (entries : PyEntries) : Bool :=
  (registry.scanEntries entries).isNone

/-! ## What is accepted -/

/-- The value has only texts without secrets, allowed names and plain parts. -/
def Clean (registry : SecretRegistry) (texts names : List String) (plain : Bool) : Prop :=
  (∀ text ∈ texts, registry.containsSecret text = false) ∧
    (∀ name ∈ names, isForbidden name = false) ∧ plain = true

theorem clean_append (registry : SecretRegistry) (texts names otherTexts otherNames : List String)
    (plain otherPlain : Bool) :
    registry.Clean (texts ++ otherTexts) (names ++ otherNames) (plain && otherPlain) ↔
      registry.Clean texts names plain ∧ registry.Clean otherTexts otherNames otherPlain := by
  simp only [Clean, List.forall_mem_append, Bool.and_eq_true]
  tauto

mutual
theorem scanValue_eq_none_iff (registry : SecretRegistry) : ∀ value : PyValue,
    registry.scanValue value = none ↔ registry.Clean value.texts value.names value.plain
  | .str value => by simp [scanValue, Clean, PyValue.texts, PyValue.names, PyValue.plain]
  | .none => by simp [scanValue, Clean, PyValue.texts, PyValue.names, PyValue.plain]
  | .bool _ => by simp [scanValue, Clean, PyValue.texts, PyValue.names, PyValue.plain]
  | .int _ => by simp [scanValue, Clean, PyValue.texts, PyValue.names, PyValue.plain]
  | .float _ => by simp [scanValue, Clean, PyValue.texts, PyValue.names, PyValue.plain]
  | .other => by simp [scanValue, Clean, PyValue.plain]
  | .list items => by
      simpa only [scanValue, PyValue.texts, PyValue.names, PyValue.plain] using
        scanItems_eq_none_iff registry items
  | .tuple items => by
      simpa only [scanValue, PyValue.texts, PyValue.names, PyValue.plain] using
        scanItems_eq_none_iff registry items
  | .dict entries => by
      simpa only [scanValue, PyValue.texts, PyValue.names, PyValue.plain] using
        scanEntries_eq_none_iff registry entries
theorem scanItems_eq_none_iff (registry : SecretRegistry) : ∀ items : List PyValue,
    registry.scanItems items = none ↔ registry.Clean (PyValue.itemTexts items)
      (PyValue.itemNames items) (PyValue.plainItems items)
  | [] => by simp [scanItems, Clean, PyValue.itemTexts, PyValue.itemNames, PyValue.plainItems]
  | item :: items => by
      simp only [scanItems, PyValue.itemTexts, PyValue.itemNames, PyValue.plainItems, clean_append,
        Option.or_eq_none_iff, scanValue_eq_none_iff registry item,
        scanItems_eq_none_iff registry items]
theorem scanEntries_eq_none_iff (registry : SecretRegistry) :
    ∀ entries : List (PyKey × PyValue), registry.scanEntries entries = none ↔
      registry.Clean (PyValue.entryTexts entries) (PyValue.entryNames entries)
        (PyValue.plainEntries entries)
  | [] => by simp [scanEntries, Clean, PyValue.entryTexts, PyValue.entryNames, PyValue.plainEntries]
  | (.other _, value) :: entries => by simp [scanEntries, Clean, PyValue.plainEntries]
  | (.str name, value) :: entries => by
      simp only [scanEntries, PyValue.entryTexts, PyValue.entryNames, PyValue.plainEntries]
      have rest := clean_append registry value.texts value.names (PyValue.entryTexts entries)
        (PyValue.entryNames entries) value.plain (PyValue.plainEntries entries)
      rw [← scanValue_eq_none_iff registry value, ← scanEntries_eq_none_iff registry entries] at rest
      by_cases forbidden : isForbidden name = true
      · simp [Clean, forbidden]
      · rw [if_neg forbidden, Option.or_eq_none_iff, ← rest]
        simp [Clean, Bool.eq_false_iff.mpr forbidden]
end

theorem scanEntries_eq_none_forall (registry : SecretRegistry) (entries : PyEntries) :
    registry.scanEntries entries = none ↔ ∀ entry ∈ entries, ∃ name, entry.1 = .str name ∧
      isForbidden name = false ∧ registry.scanValue entry.2 = none := by
  induction entries with
  | nil => simp [scanEntries]
  | cons entry entries ih =>
    obtain ⟨key, value⟩ := entry
    rw [List.forall_mem_cons, ← ih]
    cases key with
    | other number => simp [scanEntries]
    | str name =>
      by_cases forbidden : isForbidden name = true
      · simp [scanEntries, forbidden]
      · rw [scanEntries, if_neg forbidden, Option.or_eq_none_iff]
        simp [Bool.eq_false_iff.mpr forbidden]

theorem accepts_of_subset {registry : SecretRegistry} {entries others : PyEntries}
    (subset : others ⊆ entries) (accepted : registry.accepts entries = true) :
    registry.accepts others = true := by
  rw [accepts, Option.isNone_iff_eq_none, scanEntries_eq_none_forall] at accepted ⊢
  exact fun entry member => accepted entry (subset member)

theorem accepts_iff (registry : SecretRegistry) (entries : PyEntries) :
    registry.accepts entries = true ↔ registry.Clean (PyValue.entryTexts entries)
      (PyValue.entryNames entries) (PyValue.plainEntries entries) := by
  rw [accepts, Option.isNone_iff_eq_none, scanEntries_eq_none_iff]

theorem refuses_forbidden (registry : SecretRegistry) {entries : PyEntries} {name : String}
    (member : name ∈ PyValue.entryNames entries) (forbidden : isForbidden name = true) :
    registry.accepts entries = false := by
  by_contra accepted
  rw [Bool.not_eq_false, accepts_iff] at accepted
  rw [accepted.2.1 name member] at forbidden
  cases forbidden

theorem Clean.unregistered {registry : SecretRegistry} {texts names : List String} {plain : Bool}
    (clean : registry.Clean texts names plain) : registry.unregistered.Clean texts names plain := by
  refine ⟨?_, clean.2⟩
  intro text _
  rfl

end SecretRegistry

end CodeMigrator
