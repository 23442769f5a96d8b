import CodeMigrator.Core.Enums
import CodeMigrator.Core.Verification

/-!
# Flaky reduction

`flaky_reduce` of `verification/execution.py`, on a mapping from the names of tests to what each run
of them observed, and on one such sequence. The mapping passes over every test whose first
observation is not `Failed`; the sequence reports that observation. So the two agree, and `Passed`
says that the tests passed, exactly where each test first passed or failed.
-/

namespace CodeMigrator
open Lib

/-- `FlakyReduction`. -/
structure FlakyReduction where
  status : CheckStatus
  flaky : Bool
  eventCount : Nat := 0
  flakyTests : List String := []
  failedTests : List String := []
  deriving DecidableEq

/-- The argument `statuses` of `flaky_reduce`. -/
inductive FlakyStatuses where
  | mapping (statuses : Dict String (List CheckStatus))
  | sequence (statuses : List CheckStatus)

/-- `eligible`; the layer is its `str(layer)`. -/
def flakyEligible (action : CheckAction) (layer : String) : Bool :=
  action = .test && layer ∈
    ["INTEGRATION", "FINAL", "VerificationLayer.INTEGRATION", "VerificationLayer.FINAL"]

/-- What the loop over the names of the tests has collected. -/
structure FlakyScan where
  flakyTests : List String
  failedTests : List String
  timedOut : Bool

/-- One pass of the loop. -/
def FlakyScan.observe (scan : FlakyScan) (test : String × List CheckStatus) : FlakyScan :=
  if test.2.head? ≠ some .failed then scan
  else if .timedOut ∈ test.2 then
    { scan with timedOut := true, failedTests := scan.failedTests ++ [test.1] }
  else if test.2.length ≠ 3 then { scan with failedTests := scan.failedTests ++ [test.1] }
  else if 2 ≤ test.2.count .passed then { scan with flakyTests := scan.flakyTests ++ [test.1] }
  else { scan with failedTests := scan.failedTests ++ [test.1] }

/-- The loop, in the order of the names. -/
def flakyScan (statuses : Dict String (List CheckStatus)) : FlakyScan :=
  (statuses.entries.insertionSort fun left right => pathLe left.1 right.1).foldl
    FlakyScan.observe ⟨[], [], false⟩

/-- `flaky_reduce`; `none` is the `IndexError` of a first test without an observation. -/
def flakyReduce (action : CheckAction) (layer : String) : FlakyStatuses → Option FlakyReduction
  | .mapping statuses =>
    if ¬ flakyEligible action layer then
      ((statuses.values.head?.getD [.failed]).head?).map fun status =>
        { status := status, flaky := false }
    else
      let scan := flakyScan statuses
      some {
        status := if scan.timedOut then .timedOut
          else if scan.failedTests ≠ [] then .failed else .passed
        flaky := scan.flakyTests ≠ []
        eventCount := if scan.flakyTests ≠ [] then 1 else 0
        flakyTests := scan.flakyTests
        failedTests := scan.failedTests }
  | .sequence statuses =>
    if ¬ flakyEligible action layer ∨ statuses.head? ≠ some .failed then
      some { status := statuses.head?.getD .failed, flaky := false }
    else if .timedOut ∈ statuses then some { status := .timedOut, flaky := false }
    else if statuses.length ≠ 3 then
      some { status := statuses.head?.getD .failed, flaky := false }
    else if 2 ≤ statuses.count .passed then
      some { status := .passed, flaky := true, eventCount := 1 }
    else some { status := .failed, flaky := false }

/-! ## What the loop finds -/

/-- What the loop makes of the observations of one test. -/
inductive TestVerdict where
  | passedOver | timedOut | failed | flaky
  deriving DecidableEq

def testVerdict (observations : List CheckStatus) : TestVerdict :=
  if observations.head? ≠ some .failed then .passedOver
  else if .timedOut ∈ observations then .timedOut
  else if observations.length ≠ 3 then .failed
  else if 2 ≤ observations.count .passed then .flaky
  else .failed

/-- The names of the tests with a verdict. -/
def namesWith (verdicts : List TestVerdict) (tests : List (String × List CheckStatus)) :
    List String :=
  (tests.filter fun test => testVerdict test.2 ∈ verdicts).map Prod.fst

theorem testVerdict_passedOver_iff (observations : List CheckStatus) :
    testVerdict observations = .passedOver ↔ observations.head? ≠ some .failed := by
  unfold testVerdict
  by_cases first : observations.head? = some .failed
  · rw [if_neg (not_not_intro first)]
    split
    · simp [first]
    · split
      · simp [first]
      · split <;> simp [first]
  · simp [first]

variable {observations : List CheckStatus} {statuses : Dict String (List CheckStatus)}

theorem two_of_three (flaky : testVerdict observations = .flaky) :
    observations.length = 3 ∧ 2 ≤ observations.count .passed := by
  unfold testVerdict at flaky
  split at flaky
  · cases flaky
  · split at flaky
    · cases flaky
    · split at flaky
      · cases flaky
      · rename_i three
        split at flaky
        · exact ⟨not_ne_iff.mp three, ‹_›⟩
        · cases flaky

theorem namesWith_singleton (verdicts : List TestVerdict) (test : String × List CheckStatus) :
    namesWith verdicts [test] = if testVerdict test.2 ∈ verdicts then [test.1] else [] := by
  by_cases inside : testVerdict test.2 ∈ verdicts <;> simp [namesWith, inside]

theorem observe_eq (scan : FlakyScan) (test : String × List CheckStatus) :
    scan.observe test =
      ⟨scan.flakyTests ++ namesWith [.flaky] [test],
        scan.failedTests ++ namesWith [.timedOut, .failed] [test],
        scan.timedOut || testVerdict test.2 = .timedOut⟩ := by
  simp only [namesWith_singleton]
  unfold FlakyScan.observe testVerdict
  split
  · simp
  · split
    · simp
    · split
      · simp
      · split <;> simp

theorem foldl_observe (tests : List (String × List CheckStatus)) (scan : FlakyScan) :
    tests.foldl FlakyScan.observe scan =
      ⟨scan.flakyTests ++ namesWith [.flaky] tests,
        scan.failedTests ++ namesWith [.timedOut, .failed] tests,
        scan.timedOut || tests.any fun test => testVerdict test.2 = .timedOut⟩ := by
  induction tests generalizing scan with
  | nil => simp [namesWith]
  | cons test tests ih =>
      rw [List.foldl_cons, ih, observe_eq]
      have split_names : ∀ verdicts, namesWith verdicts (test :: tests) =
          namesWith verdicts [test] ++ namesWith verdicts tests := by
        intro verdicts
        unfold namesWith
        rw [← List.map_append, ← List.filter_append, List.singleton_append]
      simp [split_names, List.append_assoc, Bool.or_assoc]

/-- The tests in the order of the loop. -/
def sortedTests (statuses : Dict String (List CheckStatus)) : List (String × List CheckStatus) :=
  statuses.entries.insertionSort fun left right => pathLe left.1 right.1

theorem flakyScan_eq (statuses : Dict String (List CheckStatus)) :
    flakyScan statuses = ⟨namesWith [.flaky] (sortedTests statuses),
      namesWith [.timedOut, .failed] (sortedTests statuses),
      (sortedTests statuses).any fun test => testVerdict test.2 = .timedOut⟩ := by
  unfold flakyScan
  rw [foldl_observe]
  simp [sortedTests]

theorem mem_sortedTests_iff {name : String} :
    (name, observations) ∈ sortedTests statuses ↔ statuses.get? name = some observations := by
  rw [Dict.get?_eq_some_iff]
  exact (List.perm_insertionSort _ _).mem_iff

theorem mem_namesWith_iff {verdicts : List TestVerdict} {name : String} :
    name ∈ namesWith verdicts (sortedTests statuses) ↔
      ∃ observations, statuses.get? name = some observations ∧
        testVerdict observations ∈ verdicts := by
  simp [namesWith, mem_sortedTests_iff]

theorem mapping_passed_iff {action : CheckAction} {layer : String}
    (eligible : flakyEligible action layer = true) {reduction : FlakyReduction}
    (done : flakyReduce action layer (.mapping statuses) = some reduction) :
    reduction.status = .passed ↔ ∀ name observations, statuses.get? name = some observations →
      testVerdict observations = .passedOver ∨ testVerdict observations = .flaky := by
  simp only [flakyReduce, eligible, not_true_eq_false, if_false, Option.some.injEq] at done
  subst done
  simp only [flakyScan_eq]
  constructor
  · intro passed name observations found
    split at passed
    · cases passed
    · rename_i onTime
      split at passed
      · cases passed
      · rename_i noneFailed
        have absent : name ∉ namesWith [.timedOut, .failed] (sortedTests statuses) := by
          rw [not_ne_iff.mp noneFailed]
          exact List.not_mem_nil
        have clear := fun verdict => absent (mem_namesWith_iff.mpr ⟨observations, found, verdict⟩)
        cases verdict : testVerdict observations <;> simp_all
  · intro clear
    have noneFailed : namesWith [.timedOut, .failed] (sortedTests statuses) = [] := by
      rw [List.eq_nil_iff_forall_not_mem]
      intro name member
      obtain ⟨observations, found, verdict⟩ := mem_namesWith_iff.mp member
      rcases clear name observations found with is | is <;> rw [is] at verdict <;> simp at verdict
    have onTime : ((sortedTests statuses).any fun test =>
        decide (testVerdict test.2 = .timedOut)) = false := by
      rw [List.any_eq_false]
      rintro ⟨name, observations⟩ member
      rcases clear name observations (mem_sortedTests_iff.mp member) with is | is <;> simp [is]
    simp [noneFailed, onTime]

/-! ## The two forms -/

/-- The mapping with one test. -/
def onlyTest (name : String) (observations : List CheckStatus) : FlakyStatuses :=
  .mapping ⟨[(name, observations)], List.nodup_singleton name⟩

/-- Where the observations begin with a pass or a failure. -/
def FirstRan (observations : List CheckStatus) : Prop :=
  observations.head? = some .passed ∨ observations.head? = some .failed

/-- A reduction of a mapping passes only tests that passed first or in two runs of three, has the
status of the sequence for each test alone, and no test is both flaky and failed. -/
def ReducesSoundly (action : CheckAction) (layer : String)
    (statuses : Dict String (List CheckStatus)) : Prop :=
  ∃ reduction, flakyReduce action layer (.mapping statuses) = some reduction ∧
    (reduction.status = .passed → ∀ name observations, statuses.get? name = some observations →
      observations.head? = some .passed ∨
        observations.length = 3 ∧ 2 ≤ observations.count .passed) ∧
    (∀ name observations, statuses.get? name = some observations →
      (flakyReduce action layer (onlyTest name observations)).map (·.status) =
        (flakyReduce action layer (.sequence observations)).map (·.status)) ∧
    ∀ name ∈ reduction.flakyTests, name ∉ reduction.failedTests

theorem onlyTest_agrees_iff {action : CheckAction} {layer : String}
    (eligible : flakyEligible action layer = true) (name : String)
    (observations : List CheckStatus) :
    (flakyReduce action layer (onlyTest name observations)).map (·.status) =
        (flakyReduce action layer (.sequence observations)).map (·.status) ↔
      FirstRan observations := by
  have tests : sortedTests ⟨[(name, observations)], List.nodup_singleton name⟩ =
      [(name, observations)] := rfl
  simp only [onlyTest, flakyReduce, eligible, not_true_eq_false, false_or, if_false, flakyScan_eq,
    tests, namesWith_singleton, FirstRan]
  by_cases first : observations.head? = some .failed
  · by_cases late : .timedOut ∈ observations
    · simp [testVerdict, first, late]
    · by_cases three : observations.length = 3
      · by_cases twice : 2 ≤ observations.count .passed <;>
          simp [testVerdict, first, late, three, twice]
      · simp [testVerdict, first, late, three]
  · have passed := (testVerdict_passedOver_iff observations).mpr first
    cases head : observations.head? with
    | none => simp [passed]
    | some status =>
        rw [head] at first
        cases status <;> simp [passed] at first ⊢

/-- The reduction is sound exactly where every test first passed or failed: a test that first timed
out, or was never run, is passed over by the mapping and not by the sequence. -/
theorem reduces_soundly_iff {action : CheckAction} {layer : String}
    (eligible : flakyEligible action layer = true) (statuses : Dict String (List CheckStatus)) :
    ReducesSoundly action layer statuses ↔
      ∀ name observations, statuses.get? name = some observations → FirstRan observations := by
  constructor
  · rintro ⟨-, -, -, agrees, -⟩ name observations found
    exact (onlyTest_agrees_iff eligible name observations).mp (agrees name observations found)
  · intro ran
    obtain ⟨reduction, done⟩ : ∃ reduction,
        flakyReduce action layer (.mapping statuses) = some reduction := by
      simp [flakyReduce, eligible]
    refine ⟨reduction, done, ?_, ?_, ?_⟩
    · intro passed name observations found
      rcases ran name observations found with first | first
      · exact .inl first
      · rcases (mapping_passed_iff eligible done).mp passed name observations found with is | is
        · exact absurd first ((testVerdict_passedOver_iff observations).mp is)
        · exact .inr (two_of_three is)
    · intro name observations found
      exact (onlyTest_agrees_iff eligible name observations).mpr (ran name observations found)
    · intro name isFlaky isFailed
      simp only [flakyReduce, eligible, not_true_eq_false, if_false, Option.some.injEq] at done
      subst done
      simp only [flakyScan_eq, mem_namesWith_iff] at isFlaky isFailed
      obtain ⟨observations, found, flaky⟩ := isFlaky
      obtain ⟨others, again, failed⟩ := isFailed
      rw [found] at again
      obtain rfl := Option.some.inj again
      rw [List.mem_singleton] at flaky
      rw [flaky] at failed
      simp at failed

/-- A test that failed once and passed twice. -/
def flakyStatuses : Dict String (List CheckStatus) :=
  ⟨[("test_flaky", [.failed, .passed, .passed])], List.nodup_singleton _⟩

theorem flaky_test_reduced : ReducesSoundly .test "INTEGRATION" flakyStatuses := by
  refine (reduces_soundly_iff (by decide) flakyStatuses).mpr ?_
  intro name observations found
  rw [Dict.get?_eq_some_iff, flakyStatuses, List.mem_singleton] at found
  exact .inr (by rw [(Prod.mk.inj found).2]; rfl)

/-- A test whose one run timed out passes in the mapping. -/
theorem first_timeout_passed : ¬ ∀ (action : CheckAction) (layer : String)
    (statuses : Dict String (List CheckStatus)), flakyEligible action layer = true →
    ReducesSoundly action layer statuses := by
  intro all
  obtain ⟨-, -, -, agrees, -⟩ := all .test "INTEGRATION"
    ⟨[("test_slow", [.timedOut])], List.nodup_singleton _⟩ (by decide)
  exact absurd (agrees "test_slow" [.timedOut] rfl) (by decide)

end CodeMigrator
