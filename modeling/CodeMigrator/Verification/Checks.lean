import CodeMigrator.Core.Plan
import CodeMigrator.Core.Verification

/-!
# The exact-set guard

`validate_check_results` of `verification/checks.py`: the results of a verification against its
frozen checks. The guard passes exactly when the results are the passed results of the checks,
one for each, and the typed empty results stand where no test file is left.
-/

namespace CodeMigrator

/-- `CheckSpec`. -/
structure CheckSpec where
  requiredCheck : RequiredCheck
  invocationHash : String
  testFiles : List String
  deriving DecidableEq

namespace CheckSpec

/-- `check_id`. -/
def checkId (spec : CheckSpec) : UUID := spec.requiredCheck.id

/-- `should_skip_empty_test`. -/
def shouldSkipEmptyTest (spec : CheckSpec) : Bool :=
  spec.requiredCheck.action == .test && spec.testFiles.isEmpty

end CheckSpec

/-- `ResultEvidence`: a `CheckResult`, a `SkippedEmptyResult` or a `CheckResultEvidence`. -/
inductive ResultEvidence where
  | result (result : CheckResult)
  | skippedEmpty (result : CheckResult) (disposition : String)
  | evidence (result : CheckResult) (disposition : Option String)
  deriving DecidableEq

namespace ResultEvidence

/-- `_unwrap_result`. -/
def unwrap : ResultEvidence → CheckResult
  | result value | skippedEmpty value _ | evidence value _ => value

/-- `_result_disposition`. -/
def disposition : ResultEvidence → Option String
  | result _ => none
  | skippedEmpty _ value => some value
  | evidence _ value => value

def checkId (result : ResultEvidence) : UUID := result.unwrap.checkId

end ResultEvidence

/-- The members of `StableErrorCode` that the guard reports. -/
inductive CheckSetError where
  | checkDuplicate | checkMissing | checkUnexpected | invocationHashMismatch
  deriving DecidableEq

/-- `CheckSetValidation`. -/
structure CheckSetValidation where
  errors : List CheckSetError
  guard : DerivedVerificationGuard
  invalidTypedResultCount : Nat
  deriving DecidableEq

/-- `expected`: of the specs with one id the last one. -/
def expectedSpec (specs : List CheckSpec) (checkId : UUID) : Option CheckSpec :=
  specs.reverse.find? (·.checkId = checkId)

/-- Whether a list of ids has one of them twice. -/
def hasDuplicates (ids : List UUID) : Bool := ids.any fun id => 1 < ids.count id

/-- The disposition of a result is not the one that its spec demands. -/
def invalidTypedResult (spec : CheckSpec) (original : ResultEvidence) : Bool :=
  if original.disposition ≠ none ∧ original.disposition ≠ some "SkippedEmpty" then true
  else if original.disposition = some "SkippedEmpty" then
    spec.requiredCheck.action != .test || !spec.testFiles.isEmpty ||
      original.unwrap.status != .passed || !original.unwrap.diagnostics.isEmpty
  else spec.shouldSkipEmptyTest

/-- `validate_check_results`. -/
def validateCheckResults (specs : List CheckSpec) (results : List ResultEvidence) :
    CheckSetValidation :=
  let unwrapped := results.map (·.unwrap)
  let resultIds := unwrapped.map (·.checkId)
  let specIds := specs.map (·.checkId)
  let mismatch (result : CheckResult) : Bool :=
    (expectedSpec specs result.checkId).any (·.invocationHash ≠ result.invocationHash)
  let errors : List CheckSetError :=
    (if hasDuplicates resultIds || hasDuplicates specIds then [.checkDuplicate] else []) ++
      (if specIds.any (fun id => !resultIds.contains id) then [.checkMissing] else []) ++
      (if resultIds.any (fun id => !specIds.contains id) then [.checkUnexpected] else []) ++
      (if unwrapped.any mismatch then [.invocationHashMismatch] else [])
  let invalidTypedResultCount := results.countP fun original =>
    (expectedSpec specs original.checkId).any (invalidTypedResult · original)
  let unknownCount := (unwrapped.flatMap (·.diagnostics)).countP (·.isUnknownError)
  let allPassed := errors.isEmpty && invalidTypedResultCount == 0 &&
    results.length == specs.length && unknownCount == 0 && unwrapped.all (·.status == .passed)
  { errors := errors.eraseDups
    guard := ⟨allPassed, unknownCount⟩
    invalidTypedResultCount := invalidTypedResultCount }

/-- What a complete verification is: its checks are different, its results are theirs one for
one and with their invocations, every result has passed without an error of unknown origin, and
the typed empty results are those of the test checks without test files. -/
structure VerificationComplete (specs : List CheckSpec) (results : List ResultEvidence) : Prop where
  distinct : (specs.map (·.checkId)).Nodup
  oneForOne : (results.map fun result => (result.checkId, result.unwrap.invocationHash)).Perm
    (specs.map fun spec => (spec.checkId, spec.invocationHash))
  passed : ∀ result ∈ results, result.unwrap.status = .passed
  attributed : ∀ result ∈ results, ∀ diagnostic ∈ result.unwrap.diagnostics,
    ¬ (diagnostic.severity = .error ∧ diagnostic.target = .unknown)
  dispositions : ∀ result ∈ results,
    result.disposition = none ∨ result.disposition = some "SkippedEmpty"
  skipped : ∀ result ∈ results, ∀ spec ∈ specs, spec.checkId = result.checkId →
    (result.disposition = some "SkippedEmpty" ↔
      spec.requiredCheck.action = .test ∧ spec.testFiles = [])
  skippedClean : ∀ result ∈ results, result.disposition = some "SkippedEmpty" →
    result.unwrap.diagnostics = []

variable {specs : List CheckSpec} {results : List ResultEvidence}

theorem hasDuplicates_eq_false_iff (ids : List UUID) : hasDuplicates ids = false ↔ ids.Nodup := by
  simp only [hasDuplicates, List.any_eq_false, decide_eq_true_eq, not_lt, List.nodup_iff_count_le_one]
  constructor
  · intro few id
    by_cases member : id ∈ ids
    · exact few id member
    · rw [List.count_eq_zero.mpr member]
      omega
  · intro few id _
    exact few id

theorem expectedSpec_of_mem (distinct : (specs.map (·.checkId)).Nodup) {spec : CheckSpec}
    (member : spec ∈ specs) : expectedSpec specs spec.checkId = some spec := by
  cases found : expectedSpec specs spec.checkId with
  | none =>
    have missed := List.find?_eq_none.mp found spec (List.mem_reverse.mpr member)
    simp at missed
  | some other =>
    have others := List.mem_reverse.mp (List.mem_of_find?_eq_some found)
    have same : other.checkId = spec.checkId := by simpa using List.find?_some found
    rw [List.inj_on_of_nodup_map distinct others member same]

theorem validate_passed_iff :
    (validateCheckResults specs results).guard.allRequiredChecksPassed = true ↔
      (results.map (·.checkId)).Nodup ∧ (specs.map (·.checkId)).Nodup ∧
        (∀ id, id ∈ specs.map (·.checkId) ↔ id ∈ results.map (·.checkId)) ∧
        (∀ result ∈ results, ∀ spec, expectedSpec specs result.checkId = some spec →
          spec.invocationHash = result.unwrap.invocationHash ∧
            invalidTypedResult spec result = false) ∧
        results.length = specs.length ∧
        (∀ result ∈ results, ∀ diagnostic ∈ result.unwrap.diagnostics,
          diagnostic.isUnknownError = false) ∧
        (∀ result ∈ results, result.unwrap.status = .passed) := by
  have unreported : ∀ (b : Bool) (error : CheckSetError),
      (if b = true then [error] else []) = [] ↔ b = false := by
    intro b error
    cases b <;> simp
  simp only [validateCheckResults, Bool.and_eq_true, List.isEmpty_iff, List.append_eq_nil_iff,
    unreported, Bool.or_eq_false_iff, hasDuplicates_eq_false_iff, beq_iff_eq, List.countP_eq_zero,
    List.all_eq_true, List.any_eq_false, List.mem_flatMap, List.map_map, List.forall_mem_map,
    Function.comp_def]
  have checkIds : results.map (fun result => result.unwrap.checkId) = results.map (·.checkId) := rfl
  rw [checkIds]
  constructor
  · intro tests
    obtain ⟨⟨⟨⟨⟨⟨⟨⟨once, specsOnce⟩, noneMissing⟩, noneUnexpected⟩, hashes⟩, typed⟩, lengths⟩, known⟩,
      passed⟩ := tests
    refine ⟨once, specsOnce, ?_, ?_, lengths, ?_, passed⟩
    · intro id
      constructor
      · intro member
        obtain ⟨spec, isSpec, rfl⟩ := List.mem_map.mp member
        simpa using noneMissing spec isSpec
      · intro member
        obtain ⟨result, isResult, rfl⟩ := List.mem_map.mp member
        simpa [ResultEvidence.checkId] using noneUnexpected result isResult
    · intro result member spec found
      have hash := hashes result member
      have type := typed result member
      rw [show result.unwrap.checkId = result.checkId from rfl, found] at hash
      rw [found] at type
      exact ⟨by simpa using hash, by simpa using type⟩
    · intro result member diagnostic inside
      exact Bool.eq_false_iff.mpr
        (known diagnostic ⟨result.unwrap, List.mem_map_of_mem member, inside⟩)
  · intro facts
    obtain ⟨once, specsOnce, same, agree, lengths, known, passed⟩ := facts
    refine ⟨⟨⟨⟨⟨⟨⟨⟨once, specsOnce⟩, ?_⟩, ?_⟩, ?_⟩, ?_⟩, lengths⟩, ?_⟩, passed⟩
    · intro spec member
      have found := (same _).mp (List.mem_map_of_mem member)
      simpa using found
    · intro result member
      have found := (same _).mpr (List.mem_map_of_mem member)
      simpa [ResultEvidence.checkId] using found
    · intro result member
      rw [show result.unwrap.checkId = result.checkId from rfl]
      cases found : expectedSpec specs result.checkId with
      | none => simp
      | some spec => simpa using (agree result member spec found).1
    · intro result member
      cases found : expectedSpec specs result.checkId with
      | none => simp
      | some spec => simpa using (agree result member spec found).2
    · intro diagnostic found
      obtain ⟨_, member, inside⟩ := found
      obtain ⟨result, isResult, rfl⟩ := List.mem_map.mp member
      exact Bool.eq_false_iff.mp (known result isResult diagnostic inside)

theorem invalidTypedResult_eq_false_iff (spec : CheckSpec) (result : ResultEvidence) :
    invalidTypedResult spec result = false ↔
      (result.disposition = none ∨ result.disposition = some "SkippedEmpty") ∧
        (result.disposition = some "SkippedEmpty" ↔
          spec.requiredCheck.action = .test ∧ spec.testFiles = []) ∧
        (result.disposition = some "SkippedEmpty" →
          result.unwrap.status = .passed ∧ result.unwrap.diagnostics = []) := by
  unfold invalidTypedResult CheckSpec.shouldSkipEmptyTest
  by_cases skipped : result.disposition = some "SkippedEmpty"
  · simp only [skipped, ne_eq, reduceCtorEq, not_false_eq_true, not_true_eq_false, and_false,
      if_false, if_true, Bool.or_eq_false_iff, bne_eq_false_iff_eq, Bool.not_eq_false',
      List.isEmpty_iff]
    tauto
  · by_cases absent : result.disposition = none
    · simp [absent]
    · simp [absent, skipped]

/-- The guard passes exactly for a complete verification. -/
theorem all_required_checks_passed_iff (specs : List CheckSpec) (results : List ResultEvidence) :
    (validateCheckResults specs results).guard.allRequiredChecksPassed = true ↔
      VerificationComplete specs results := by
  have firsts : (results.map fun result => (result.checkId, result.unwrap.invocationHash)).map
      Prod.fst = results.map (·.checkId) := by simp
  have specFirsts : (specs.map fun spec => (spec.checkId, spec.invocationHash)).map Prod.fst =
      specs.map (·.checkId) := by simp
  rw [validate_passed_iff]
  constructor
  · intro tests
    obtain ⟨once, specsOnce, same, agree, -, known, passed⟩ := tests
    -- every result has the one spec with its id
    have specOf : ∀ result ∈ results, ∃ spec ∈ specs, spec.checkId = result.checkId ∧
        expectedSpec specs result.checkId = some spec := by
      intro result member
      obtain ⟨spec, isSpec, equal⟩ := List.mem_map.mp ((same _).mpr (List.mem_map_of_mem member))
      exact ⟨spec, isSpec, equal, equal ▸ expectedSpec_of_mem specsOnce isSpec⟩
    have typed : ∀ result ∈ results, ∀ spec ∈ specs, spec.checkId = result.checkId →
        invalidTypedResult spec result = false := by
      intro result member spec isSpec equal
      exact (agree result member spec (equal ▸ expectedSpec_of_mem specsOnce isSpec)).2
    refine ⟨specsOnce, ?_, passed, ?_, ?_, ?_, ?_⟩
    · rw [List.perm_ext_iff_of_nodup (.of_map _ (firsts ▸ once)) (.of_map _ (specFirsts ▸ specsOnce))]
      intro pair
      simp only [List.mem_map]
      constructor
      · intro found
        obtain ⟨result, member, rfl⟩ := found
        obtain ⟨spec, isSpec, equal, expected⟩ := specOf result member
        exact ⟨spec, isSpec, by rw [equal, (agree result member spec expected).1]⟩
      · intro found
        obtain ⟨spec, isSpec, rfl⟩ := found
        obtain ⟨result, member, equal⟩ :=
          List.mem_map.mp ((same _).mp (List.mem_map_of_mem isSpec))
        have expected := expectedSpec_of_mem specsOnce isSpec
        rw [← equal] at expected
        exact ⟨result, member, by rw [equal, (agree result member spec expected).1]⟩
    · intro result member diagnostic inside unknown
      have clean := known result member diagnostic inside
      simp [DiagnosticMapping.isUnknownError, unknown.1, unknown.2] at clean
    · intro result member
      obtain ⟨spec, isSpec, equal, -⟩ := specOf result member
      exact ((invalidTypedResult_eq_false_iff _ _).mp (typed result member spec isSpec equal)).1
    · intro result member spec isSpec equal
      exact ((invalidTypedResult_eq_false_iff _ _).mp (typed result member spec isSpec equal)).2.1
    · intro result member skipped
      obtain ⟨spec, isSpec, equal, -⟩ := specOf result member
      have valid := (invalidTypedResult_eq_false_iff _ _).mp (typed result member spec isSpec equal)
      exact (valid.2.2 skipped).2
  · intro complete
    have ids : (results.map (·.checkId)).Perm (specs.map (·.checkId)) := by
      rw [← firsts, ← specFirsts]
      exact complete.oneForOne.map Prod.fst
    refine ⟨ids.nodup_iff.mpr complete.distinct, complete.distinct, fun id => ids.symm.mem_iff, ?_,
      by simpa using ids.length_eq, ?_, complete.passed⟩
    · intro result member spec found
      have isSpec : spec ∈ specs := List.mem_reverse.mp (List.mem_of_find?_eq_some found)
      have equal : spec.checkId = result.checkId := by simpa using List.find?_some found
      constructor
      · have pair := complete.oneForOne.mem_iff.mp (List.mem_map_of_mem
          (f := fun result => (ResultEvidence.checkId result, result.unwrap.invocationHash)) member)
        obtain ⟨other, isOther, same⟩ := List.mem_map.mp pair
        obtain ⟨sameId, sameHash⟩ := Prod.mk.inj same
        rw [List.inj_on_of_nodup_map complete.distinct isSpec isOther (equal.trans sameId.symm)]
        exact sameHash
      · rw [invalidTypedResult_eq_false_iff]
        refine ⟨complete.dispositions result member, complete.skipped result member spec isSpec equal,
          ?_⟩
        intro skipped
        exact ⟨complete.passed result member, complete.skippedClean result member skipped⟩
    · intro result member diagnostic inside
      have attributed := complete.attributed result member diagnostic inside
      rw [Bool.eq_false_iff]
      simpa [DiagnosticMapping.isUnknownError] using attributed

end CodeMigrator
