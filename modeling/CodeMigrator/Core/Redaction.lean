import CodeMigrator.Core.Secrets

/-!
# The redaction gate

`SecretRegistry.register` and `SecretRegistry.redact` of `core/secrets.py`. A registered secret
is looked for as it is and in its JSON-escaped, Base64 and percent-encoded forms, in every text
of a value; the keys of its mappings are compared with the forbidden field names only.
-/

namespace CodeMigrator
open Lib

/-! ## The forms of a secret -/

/-- `text.encode("utf-8")`. -/
def utf8Bytes (text : String) : List Nat :=
  (text.toList.flatMap String.utf8EncodeChar).map (·.toNat)

/-- An escape of `json.dumps` for one UTF-16 code unit. -/
def unicodeEscape (unit : Nat) : List Char := '\\' :: 'u' :: toHex 4 unit

/-- A character as `json.dumps(text, ensure_ascii=True)` writes it. -/
def jsonEscapeChar (c : Char) : List Char :=
  if c.toNat = 0x22 ∨ c.toNat = 0x5c then ['\\', c]
  else if c = '\n' then ['\\', 'n']
  else if c = '\r' then ['\\', 'r']
  else if c = '\t' then ['\\', 't']
  else if c.toNat = 0x0c then ['\\', 'f']
  else if c.toNat = 0x08 then ['\\', 'b']
  else if ' ' ≤ c ∧ c ≤ '~' then [c]
  else if c.toNat < 0x10000 then unicodeEscape c.toNat
  else
    unicodeEscape (0xd800 + (c.toNat - 0x10000) / 0x400) ++
      unicodeEscape (0xdc00 + (c.toNat - 0x10000) % 0x400)

/-- `json.dumps(secret, ensure_ascii=True)[1:-1]`. -/
def jsonEscaped (secret : String) : String := String.ofList (secret.toList.flatMap jsonEscapeChar)

/-- A digit of Base64. -/
def base64Digit (value : Nat) : Char :=
  "ABCDEFGHIJKLMNOPQRSTUVWXYZabcdefghijklmnopqrstuvwxyz0123456789+/".toList.getD value '='

/-- `base64.b64encode`: four digits for three bytes, padded at the end. -/
def base64 : List Nat → List Char
  | [] => []
  | [a] => [base64Digit (a / 4), base64Digit (a % 4 * 16), '=', '=']
  | [a, b] =>
    [base64Digit (a / 4), base64Digit (a % 4 * 16 + b / 16), base64Digit (b % 16 * 4), '=']
  | a :: b :: c :: rest =>
    [base64Digit (a / 4), base64Digit (a % 4 * 16 + b / 16), base64Digit (b % 16 * 4 + c / 64),
      base64Digit (c % 64)] ++ base64 rest

/-- The characters that `quote(..., safe="")` leaves as they are. -/
def isUnreserved (c : Char) : Bool := c.isAlphanum || ['_', '.', '-', '~'].contains c

/-- A byte as `quote` writes it. -/
def percentByte (byte : Nat) : List Char :=
  if isUnreserved (Char.ofNat byte) && byte < 0x80 then [Char.ofNat byte]
  else '%' :: (toHex 2 byte).map Char.toUpper

/-- `quote(secret, safe="")`. -/
def percentEncoded (secret : String) : String :=
  String.ofList ((utf8Bytes secret).flatMap percentByte)

/-- `_encoded_variants`. -/
def encodedVariants (secret : String) : List String :=
  [secret, jsonEscaped secret, String.ofList (base64 (utf8Bytes secret)),
    percentEncoded secret].eraseDups

/-! ## The registry -/

/-- `RedactionResult`. -/
structure RedactionResult where
  accepted : Bool
  value : Option PyValue
  reason : Option String
  deriving DecidableEq

namespace SecretRegistry

/-- `_fingerprints`. -/
def fingerprintsOf (sha256 : String → Sha256) (variants : List String) : List (Nat × Sha256) :=
  ((variants.filter (· ≠ "")).map fun variant => (variant.length, sha256 variant)).eraseDups

/-- `register`. -/
def register (registry : SecretRegistry) (secret : String) : Except String SecretRegistry :=
  if secret = "" then .error "secret must be a non-empty string"
  else
    .ok { registry with
      fingerprints :=
        (registry.fingerprints ++
          fingerprintsOf registry.sha256 (encodedVariants secret)).eraseDups }

/-- The registry after a call of `register`; one that raises leaves it as it is. -/
def registered (registry : SecretRegistry) (secret : String) : SecretRegistry :=
  match registry.register secret with
  | .ok after => after
  | .error _ => registry

/-- A registry after a sequence of calls. -/
def registerAll (sha256 : String → Sha256) (secrets : List String) : SecretRegistry :=
  secrets.foldl registered ⟨sha256, []⟩

/-- `redact`: a rejected value has no payload. -/
def redact (registry : SecretRegistry) (value : PyValue) : RedactionResult :=
  match registry.scanValue value with
  | some .secret => ⟨false, none, some "secret_match"⟩
  | some .field => ⟨false, none, some "sensitive_field"⟩
  | some .type => ⟨false, none, some "unsupported_value"⟩
  | none => ⟨true, some value, none⟩

end SecretRegistry

/-- The text contains a registered secret in one of its forms. -/
def ContainsForm (secrets : List String) (text : String) : Prop :=
  ∃ secret ∈ secrets, secret ≠ "" ∧ ∃ form ∈ encodedVariants secret, form.toList <:+: text.toList

/-- What the gate promises when it accepts a value: no text and no key in it contains a form of a
secret, and no key is a forbidden field name; and no verdict depends on the order of the
registrations. -/
structure RedactionSafe (sha256 : String → Sha256) (secrets : List String) (value : PyValue) :
    Prop where
  noSecret : ∀ text ∈ value.texts ++ value.names, ¬ ContainsForm secrets text
  noField : ∀ name ∈ value.names, isForbidden name = false
  anyOrder : ∀ others, others.Perm secrets → ∀ payload : PyValue,
    (SecretRegistry.registerAll sha256 others).redact payload =
      (SecretRegistry.registerAll sha256 secrets).redact payload

namespace SecretRegistry

/-! ## What is registered -/

theorem jsonEscapeChar_ne_nil (c : Char) : jsonEscapeChar c ≠ [] := by
  unfold jsonEscapeChar unicodeEscape
  repeat' split
  all_goals simp

theorem percentByte_ne_nil (byte : Nat) : percentByte byte ≠ [] := by
  unfold percentByte
  split
  all_goals simp

theorem flatMap_ne_nil {α β : Type} {f : α → List β} (nonempty : ∀ x, f x ≠ []) {xs : List α}
    (some : xs ≠ []) : xs.flatMap f ≠ [] := by
  cases xs with
  | nil => exact absurd rfl some
  | cons x xs => simp [nonempty x]

variable {text secret : String} {sha256 : String → Sha256}

theorem toList_ne_nil (nonempty : text ≠ "") : text.toList ≠ [] := by
  intro empty
  exact nonempty (String.toList_inj.mp empty)

theorem utf8Bytes_ne_nil (nonempty : secret ≠ "") : utf8Bytes secret ≠ [] := by
  have encoded : ∀ c, String.utf8EncodeChar c ≠ [] := by
    intro c
    rw [← List.length_pos_iff, String.length_utf8EncodeChar]
    exact Char.utf8Size_pos c
  unfold utf8Bytes
  rw [ne_eq, List.map_eq_nil_iff]
  exact flatMap_ne_nil encoded (toList_ne_nil nonempty)

theorem base64_ne_nil {bytes : List Nat} (some : bytes ≠ []) : base64 bytes ≠ [] := by
  unfold base64
  split
  all_goals simp_all

theorem ofList_ne_empty {chars : List Char} (some : chars ≠ []) : String.ofList chars ≠ "" := by
  intro empty
  apply some
  rw [← String.toList_ofList (l := chars), empty]
  rfl

theorem encodedVariants_ne (nonempty : secret ≠ "") :
    ∀ form ∈ encodedVariants secret, form ≠ "" := by
  intro form member
  simp only [encodedVariants, List.mem_eraseDups, List.mem_cons, List.not_mem_nil, or_false] at member
  rcases member with rfl | rfl | rfl | rfl
  · exact nonempty
  · exact ofList_ne_empty (flatMap_ne_nil jsonEscapeChar_ne_nil (toList_ne_nil nonempty))
  · exact ofList_ne_empty (base64_ne_nil (utf8Bytes_ne_nil nonempty))
  · exact ofList_ne_empty (flatMap_ne_nil percentByte_ne_nil (utf8Bytes_ne_nil nonempty))

theorem mem_fingerprintsOf (nonempty : secret ≠ "") {fingerprint : Nat × Sha256} :
    fingerprint ∈ fingerprintsOf sha256 (encodedVariants secret) ↔
      ∃ form ∈ encodedVariants secret, fingerprint = (form.length, sha256 form) := by
  simp only [fingerprintsOf, List.mem_eraseDups, List.mem_map, List.mem_filter, decide_eq_true_eq]
  constructor
  · intro found
    obtain ⟨form, ⟨member, -⟩, same⟩ := found
    exact ⟨form, member, same.symm⟩
  · intro found
    obtain ⟨form, member, same⟩ := found
    exact ⟨form, ⟨member, encodedVariants_ne nonempty form member⟩, same.symm⟩

theorem registered_empty (registry : SecretRegistry) : registry.registered "" = registry := rfl

theorem registered_eq (registry : SecretRegistry) (nonempty : secret ≠ "") :
    registry.registered secret = { registry with
      fingerprints := (registry.fingerprints ++
        fingerprintsOf registry.sha256 (encodedVariants secret)).eraseDups } := by
  simp [registered, register, nonempty]

theorem foldl_registered (registry : SecretRegistry) (secrets : List String) :
    (secrets.foldl registered registry).sha256 = registry.sha256 ∧
      ∀ fingerprint, fingerprint ∈ (secrets.foldl registered registry).fingerprints ↔
        fingerprint ∈ registry.fingerprints ∨ ∃ secret ∈ secrets, secret ≠ "" ∧
          ∃ form ∈ encodedVariants secret, fingerprint = (form.length, registry.sha256 form) := by
  induction secrets generalizing registry with
  | nil => simp
  | cons secret secrets ih =>
    rw [List.foldl_cons]
    by_cases empty : secret = ""
    · obtain ⟨sha256, members⟩ := ih registry
      rw [empty, registered_empty]
      refine ⟨sha256, ?_⟩
      intro fingerprint
      rw [members]
      simp
    · obtain ⟨sha256, members⟩ := ih (registry.registered secret)
      rw [registered_eq registry empty] at sha256 members ⊢
      refine ⟨sha256, ?_⟩
      intro fingerprint
      rw [members, List.mem_eraseDups, List.mem_append, mem_fingerprintsOf empty]
      simp [empty, or_assoc]

theorem registerAll_sha256 (sha256 : String → Sha256) (secrets : List String) :
    (registerAll sha256 secrets).sha256 = sha256 := (foldl_registered _ secrets).1

theorem mem_registerAll {secrets : List String} {fingerprint : Nat × Sha256} :
    fingerprint ∈ (registerAll sha256 secrets).fingerprints ↔ ∃ secret ∈ secrets, secret ≠ "" ∧
      ∃ form ∈ encodedVariants secret, fingerprint = (form.length, sha256 form) := by
  rw [registerAll, (foldl_registered _ secrets).2]
  simp

/-! ## The scan -/

theorem containsSecret_of_inside {registry : SecretRegistry} {form : String}
    (registered : (form.length, registry.sha256 form) ∈ registry.fingerprints)
    (contained : form.toList <:+: text.toList) : registry.containsSecret text = true := by
  obtain ⟨before, after, shape⟩ := contained
  have lengths : before.length + form.length + after.length = text.length := by
    rw [← String.length_toList, ← String.length_toList, ← shape]
    simp [Nat.add_assoc]
  have window : String.ofList ((text.toList.drop before.length).take form.length) = form := by
    rw [← shape, List.append_assoc, List.drop_left, ← String.length_toList (s := form), List.take_left,
      String.ofList_toList]
  unfold containsSecret
  rw [List.any_eq_true]
  refine ⟨_, registered, ?_⟩
  rw [Bool.and_eq_true, decide_eq_true_eq, List.any_eq_true]
  refine ⟨by omega, before.length, List.mem_range.mpr (by omega), ?_⟩
  rw [window, beq_self_eq_true]

theorem not_containsForm {secrets : List String}
    (clean : (registerAll sha256 secrets).containsSecret text = false) :
    ¬ ContainsForm secrets text := by
  intro found
  obtain ⟨secret, member, nonempty, form, isForm, contained⟩ := found
  have registered : (form.length, (registerAll sha256 secrets).sha256 form) ∈
      (registerAll sha256 secrets).fingerprints := by
    rw [registerAll_sha256]
    exact mem_registerAll.mpr ⟨secret, member, nonempty, form, isForm, rfl⟩
  rw [containsSecret_of_inside registered contained] at clean
  cases clean

section Congruence

variable {registry other : SecretRegistry}

theorem containsSecret_congr (sha256 : other.sha256 = registry.sha256)
    (same : ∀ fingerprint, fingerprint ∈ other.fingerprints ↔ fingerprint ∈ registry.fingerprints)
    (text : String) : other.containsSecret text = registry.containsSecret text := by
  unfold containsSecret
  rw [sha256, Bool.eq_iff_iff, List.any_eq_true, List.any_eq_true]
  simp only [same]

mutual
theorem scanValue_congr (same : ∀ text, other.containsSecret text = registry.containsSecret text) :
    ∀ value : PyValue, other.scanValue value = registry.scanValue value
  | .str text => by simp only [scanValue, same]
  | .none => rfl
  | .bool _ => rfl
  | .int _ => rfl
  | .float _ => rfl
  | .other => rfl
  | .list items => by simp only [scanValue, scanItems_congr same items]
  | .tuple items => by simp only [scanValue, scanItems_congr same items]
  | .dict entries => by simp only [scanValue, scanEntries_congr same entries]
theorem scanItems_congr (same : ∀ text, other.containsSecret text = registry.containsSecret text) :
    ∀ items : List PyValue, other.scanItems items = registry.scanItems items
  | [] => rfl
  | item :: items => by
      simp only [scanItems, scanValue_congr same item, scanItems_congr same items]
theorem scanEntries_congr (same : ∀ text, other.containsSecret text = registry.containsSecret text) :
    ∀ entries : List (PyKey × PyValue), other.scanEntries entries = registry.scanEntries entries
  | [] => rfl
  | (.other _, _) :: _ => rfl
  | (.str name, value) :: entries => by
      simp only [scanEntries, scanValue_congr same value, scanEntries_congr same entries]
end

end Congruence

theorem redact_perm {secrets others : List String} (perm : others.Perm secrets) (value : PyValue) :
    (registerAll sha256 others).redact value = (registerAll sha256 secrets).redact value := by
  unfold redact
  rw [scanValue_congr (containsSecret_congr ?_ ?_) value]
  · rw [registerAll_sha256, registerAll_sha256]
  · intro fingerprint
    simp only [mem_registerAll, perm.mem_iff]

theorem redact_accepted {registry : SecretRegistry} {value : PyValue} :
    (registry.redact value).accepted = true ↔
      registry.Clean value.texts value.names value.plain := by
  rw [← scanValue_eq_none_iff]
  unfold redact
  split
  all_goals simp_all

end SecretRegistry

open SecretRegistry

/-- The gate keeps its promise for exactly those of the accepted values whose keys contain no form
of a secret. -/
theorem redaction_safe_iff (sha256 : String → Sha256) (secrets : List String) (value : PyValue)
    (accepted : ((registerAll sha256 secrets).redact value).accepted = true) :
    RedactionSafe sha256 secrets value ↔ ∀ name ∈ value.names, ¬ ContainsForm secrets name := by
  have clean := redact_accepted.mp accepted
  constructor
  · intro safe name member
    exact safe.noSecret name (List.mem_append_right _ member)
  · intro keys
    refine ⟨?_, clean.2.1, fun others perm payload => redact_perm perm payload⟩
    intro text member
    rcases List.mem_append.mp member with inTexts | inNames
    · exact not_containsForm (clean.1 text inTexts)
    · exact keys text inNames

/-- The digests of the forms of one secret. -/
def sampleSha256 (text : String) : Sha256 :=
  if text = "hunter2" then
    ⟨"f52fbd32b2b3b86ff88ef6c490628285f482af15ddcb29541f94bcf526a3f6c7", by decide⟩
  else if text = "aHVudGVyMg==" then
    ⟨"b073aefd7c9215dd0179def431a8e7b5b1c39770f72ab676e9d9bd4a466268d1", by decide⟩
  else .zeros

theorem redaction_safe_iff_count :
    RedactionSafe sampleSha256 ["hunter2"] (.dict [(.str "count", .int 1)]) ↔
      ∀ name ∈ PyValue.names (.dict [(.str "count", .int 1)]), ¬ ContainsForm ["hunter2"] name :=
  redaction_safe_iff sampleSha256 ["hunter2"] (.dict [(.str "count", .int 1)]) (by decide)

/-- A secret that is the key of a mapping is accepted. -/
theorem key_leaks_secret :
    ¬ ∀ (sha256 : String → Sha256) (secrets : List String) (value : PyValue),
      ((registerAll sha256 secrets).redact value).accepted = true →
        RedactionSafe sha256 secrets value := by
  intro safe
  have leaked := (safe sampleSha256 ["hunter2"] (.dict [(.str "hunter2", .int 1)])
    (by decide)).noSecret "hunter2" (by decide)
  apply leaked
  refine ⟨"hunter2", by simp, by decide, "hunter2", ?_, List.infix_rfl⟩
  simp [encodedVariants, List.mem_eraseDups]

end CodeMigrator
