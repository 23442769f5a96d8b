import CodeMigrator.Core.Run
import CodeMigrator.Verification.Stability

/-!
# What a fingerprint identifies

A verification fingerprint on results with all that they carry: the receipt and the output
artifacts of a `CheckResult` and the annotations of a `CheckResultEvidence`. The fingerprint reads
none of these and no order: it stands for the commit, the frozen checks and the meaning that each
check id has.
-/

namespace CodeMigrator
open Lib

/-- `CheckResult` with the fields that `semantic_check_result` leaves out. -/
structure CarriedResult extends CheckResult where
  receiptId : UUID
  stdout : ArtifactRef
  stderr : ArtifactRef

/-- `ResultEvidence` with all its fields. -/
inductive CarriedEvidence where
  | result (result : CarriedResult)
  | skippedEmpty (result : CarriedResult) (disposition : String)
  | evidence (result : CarriedResult) (disposition : Option String) (generated lowQuality : Bool)

namespace CarriedEvidence

/-- What `_unwrap_result` and `_result_disposition` read. -/
def semantic : CarriedEvidence → ResultEvidence
  | result value => .result value.toCheckResult
  | skippedEmpty value disposition => .skippedEmpty value.toCheckResult disposition
  | evidence value disposition _ _ => .evidence value.toCheckResult disposition

def checkId (result : CarriedEvidence) : UUID := result.semantic.checkId

end CarriedEvidence

/-- What a check id stands for in a list of results. -/
structure CheckMeaning where
  invocationHash : String
  status : CheckStatus
  disposition : Option String
  diagnostics : Multiset DiagnosticMapping

def ResultEvidence.meaning (result : ResultEvidence) : CheckMeaning :=
  ⟨result.unwrap.invocationHash, result.unwrap.status, result.disposition,
    result.unwrap.diagnostics⟩

/-- The meaning that the list assigns to a check id. -/
def meaningOf (results : List CarriedEvidence) (id : UUID) : Option CheckMeaning :=
  (results.find? (·.checkId = id)).map (·.semantic.meaning)

variable {β δ : Type} [LinearOrder β] (dumps : Json → Option β) (sha256 : β → δ)

/-- `verification_fingerprint` of results with all that they carry. -/
def carriedFingerprint (testedCommitOid frozenRequiredChecksSha256 : String)
    (results : List CarriedEvidence) : Except String δ :=
  verificationFingerprint dumps sha256 testedCommitOid frozenRequiredChecksSha256
    (results.map (·.semantic))

variable {dumps sha256} {results others : List CarriedEvidence}

theorem sameSemantics_iff (left right : ResultEvidence) :
    SameSemantics left right ↔ left.meaning = right.meaning := by
  simp [SameSemantics, ResultEvidence.meaning]

theorem semantic_unique (unique : (results.map (·.checkId)).Nodup) :
    ((results.map (·.semantic)).map (·.checkId)).Nodup := by
  rwa [List.map_map]

theorem mem_semantic_checkId {id : UUID} :
    id ∈ (results.map (·.semantic)).map (·.checkId) ↔ ∃ meaning, meaningOf results id = some meaning := by
  simp only [meaningOf, ← Option.isSome_iff_exists, Option.isSome_map, List.find?_isSome,
    List.mem_map, exists_exists_and_eq_and]
  exact exists_congr fun _ => and_congr_right fun _ => decide_eq_true_iff.symm

theorem meaningOf_eq_some_iff (unique : (results.map (·.checkId)).Nodup) {id : UUID}
    {meaning : CheckMeaning} :
    meaningOf results id = some meaning ↔
      ∃ result ∈ results, result.checkId = id ∧ result.semantic.meaning = meaning := by
  unfold meaningOf
  constructor
  · intro found
    obtain ⟨result, first, same⟩ := Option.map_eq_some_iff.mp found
    exact ⟨result, List.mem_of_find?_eq_some first, by simpa using List.find?_some first, same⟩
  · intro found
    obtain ⟨result, member, rfl, rfl⟩ := found
    cases first : results.find? (·.checkId = result.checkId) with
    | none => simpa using List.find?_eq_none.mp first result member
    | some other =>
      have same := List.inj_on_of_nodup_map unique (List.mem_of_find?_eq_some first) member
        (by simpa using List.find?_some first)
      rw [same]
      rfl

theorem meanings_eq_iff (unique : (results.map (·.checkId)).Nodup)
    (otherUnique : (others.map (·.checkId)).Nodup) :
    ((∀ id, id ∈ (results.map (·.semantic)).map (·.checkId) ↔
        id ∈ (others.map (·.semantic)).map (·.checkId)) ∧
      ∀ left right, Shared (results.map (·.semantic)) (others.map (·.semantic)) left right →
        SameSemantics left right) ↔ meaningOf results = meaningOf others := by
  simp only [mem_semantic_checkId, sameSemantics_iff]
  constructor
  · intro same
    obtain ⟨ids, meanings⟩ := same
    funext id
    cases left : meaningOf results id with
    | none =>
      cases right : meaningOf others id with
      | none => rfl
      | some _ =>
        obtain ⟨_, found⟩ := (ids id).mpr ⟨_, right⟩
        cases left.symm.trans found
    | some meaning =>
      obtain ⟨other, right⟩ := (ids id).mp ⟨_, left⟩
      obtain ⟨first, isFirst, rfl, rfl⟩ := (meaningOf_eq_some_iff unique).mp left
      obtain ⟨second, isSecond, shared, rfl⟩ := (meaningOf_eq_some_iff otherUnique).mp right
      rw [right, meanings first.semantic second.semantic ⟨List.mem_map_of_mem isFirst,
        List.mem_map_of_mem isSecond, shared.symm⟩]
  · intro same
    refine ⟨fun id => by rw [same], ?_⟩
    rintro left right ⟨isLeft, isRight, shared⟩
    obtain ⟨first, isFirst, rfl⟩ := List.mem_map.mp isLeft
    obtain ⟨second, isSecond, rfl⟩ := List.mem_map.mp isRight
    have found := (meaningOf_eq_some_iff unique).mpr ⟨first, isFirst, rfl, rfl⟩
    have otherFound : meaningOf others first.checkId = some second.semantic.meaning :=
      (meaningOf_eq_some_iff otherUnique).mpr ⟨second, isSecond, shared.symm, rfl⟩
    rw [same, otherFound] at found
    exact (Option.some.inj found).symm

theorem meaningOf_eq_of_perm (unique : (results.map (·.checkId)).Nodup)
    (otherUnique : (others.map (·.checkId)).Nodup)
    (same : (results.map fun result => (result.checkId, result.semantic.meaning)).Perm
      (others.map fun result => (result.checkId, result.semantic.meaning))) :
    meaningOf results = meaningOf others := by
  have listed : ∀ {list : List CarriedEvidence}, (list.map (·.checkId)).Nodup → ∀ id meaning,
      meaningOf list id = some meaning ↔
        (id, meaning) ∈ list.map fun result => (result.checkId, result.semantic.meaning) := by
    intro list distinct id meaning
    rw [meaningOf_eq_some_iff distinct]
    simp
  funext id
  apply Option.ext
  intro meaning
  rw [listed unique, listed otherUnique, same.mem_iff]

/-- A fingerprint has a value where every meaning has line numbers that the encoder accepts, so
lists with the same meanings have a value together. -/
theorem carriedFingerprint_ok_iff (canonical : IsCanonical dumps) {commit frozen : String}
    (unique : (results.map (·.checkId)).Nodup) :
    (∃ fp, carriedFingerprint dumps sha256 commit frozen results = .ok fp) ↔
      ∀ id meaning, meaningOf results id = some meaning → ∀ diagnostic ∈ meaning.diagnostics,
        ∀ path line, diagnostic.target = .fileLine path line → line.natAbs < 2 ^ 53 := by
  unfold carriedFingerprint
  rw [verificationFingerprint_ok_iff canonical (semantic_unique unique)]
  constructor
  · intro safe id meaning found
    obtain ⟨result, member, -, rfl⟩ := (meaningOf_eq_some_iff unique).mp found
    exact safe _ (List.mem_map_of_mem member)
  · intro safe result member
    obtain ⟨carried, inside, rfl⟩ := List.mem_map.mp member
    exact safe carried.checkId _ ((meaningOf_eq_some_iff unique).mpr ⟨carried, inside, rfl, rfl⟩)

/-- Fingerprints identify semantics: two values are equal exactly where the commits, the frozen
checks and the meanings of the check ids are; equal meanings have a value together; and meanings are
equal where the lists are, up to the order of results and of diagnostics and to what else the
results carry. -/
theorem fingerprint_identifies (canonical : IsCanonical dumps)
    (collisionFree : Function.Injective sha256) (commit frozen otherCommit otherFrozen : String)
    {results others : List CarriedEvidence} (unique : (results.map (·.checkId)).Nodup)
    (otherUnique : (others.map (·.checkId)).Nodup) :
    (∀ fp other, carriedFingerprint dumps sha256 commit frozen results = .ok fp →
      carriedFingerprint dumps sha256 otherCommit otherFrozen others = .ok other →
      (fp = other ↔ commit = otherCommit ∧ frozen = otherFrozen ∧
        meaningOf results = meaningOf others)) ∧
    (meaningOf results = meaningOf others →
      ((∃ fp, carriedFingerprint dumps sha256 commit frozen results = .ok fp) ↔
        ∃ fp, carriedFingerprint dumps sha256 otherCommit otherFrozen others = .ok fp)) ∧
    ((results.map fun result => (result.checkId, result.semantic.meaning)).Perm
        (others.map fun result => (result.checkId, result.semantic.meaning)) →
      meaningOf results = meaningOf others) := by
  refine ⟨?_, ?_, meaningOf_eq_of_perm unique otherUnique⟩
  · intro fp other done otherDone
    rw [verificationFingerprint_eq_iff canonical collisionFree (semantic_unique unique)
      (semantic_unique otherUnique) done otherDone, meanings_eq_iff unique otherUnique, and_assoc]
  · intro same
    rw [carriedFingerprint_ok_iff canonical unique, carriedFingerprint_ok_iff canonical otherUnique,
      same]

namespace SampleLayers

/-- The result of a check, under a receipt. -/
def carried (id receipt : UUID) : CarriedResult :=
  { (passed id).unwrap with
    receiptId := receipt
    stdout := ⟨frozenHash, 0, "application/octet-stream"⟩
    stderr := ⟨frozenHash, 0, "application/octet-stream"⟩ }

def received : List CarriedEvidence := [.result (carried ⟨1⟩ ⟨7⟩), .result (carried ⟨2⟩ ⟨7⟩)]

def receivedAgain : List CarriedEvidence :=
  [.evidence (carried ⟨2⟩ ⟨8⟩) none true true, .result (carried ⟨1⟩ ⟨7⟩)]

/-- Another order, another receipt and other annotations leave the fingerprint as it is. -/
theorem receipt_not_fingerprinted : ∃ fp, carriedFingerprint encode digest oid frozenHash received =
    .ok fp ∧ carriedFingerprint encode digest oid frozenHash receivedAgain = .ok fp := by
  have unique : (received.map (·.checkId)).Nodup := by decide
  have otherUnique : (receivedAgain.map (·.checkId)).Nodup := by decide
  obtain ⟨identifies, together, order⟩ := fingerprint_identifies encode_isCanonical
    digest_injective oid frozenHash oid frozenHash unique otherUnique
  have same := order (.swap _ _ _)
  obtain ⟨fp, done⟩ : ∃ fp, carriedFingerprint encode digest oid frozenHash received = .ok fp := by
    rw [carriedFingerprint_ok_iff encode_isCanonical (by decide)]
    intro id meaning found diagnostic inside
    obtain ⟨result, member, -, rfl⟩ := (meaningOf_eq_some_iff (by decide)).mp found
    have same : result = .result (carried ⟨1⟩ ⟨7⟩) ∨ result = .result (carried ⟨2⟩ ⟨7⟩) := by
      simpa [received] using member
    have isWarning : diagnostic = warning := by
      rcases same with rfl | rfl <;> exact Multiset.mem_singleton.mp inside
    rw [isWarning]
    rintro _ _ ⟨⟩
    decide
  obtain ⟨other, otherDone⟩ := (together same).mp ⟨fp, done⟩
  exact ⟨fp, done, by rw [(identifies fp other done otherDone).mpr ⟨rfl, rfl, same⟩, otherDone]⟩

end SampleLayers

end CodeMigrator
