import CodeMigrator.Core.Plan
import CodeMigrator.Core.Verification

/-!
# Attribution of diagnostics

`attribute_diagnostics` of `verification/diagnostics.py`. The candidates are the slices that any of
the Error diagnostics leads to: a diagnostic that leads to none adds none, and the one candidate of
the others is still called reliable.
-/

namespace CodeMigrator
open Lib

/-! ## The facts -/

/-- A value of `write_scopes`: a `WriteScope`, or the paths themselves. -/
inductive ScopeFact where
  | scope (scope : WriteScope)
  | paths (paths : List String)

/-- `_scope_paths`. -/
def ScopeFact.scopePaths : ScopeFact → List String
  | scope value => value.out.writePaths.map (·.text)
  | paths values => values

/-- `AttributionContext`. -/
structure AttributionContext where
  writeScopes : Dict SliceId ScopeFact
  testToSymbols : Option (Dict String (List String))
  symbolToSlices : Option (Dict String (List SliceId))
  failureSymbolByTest : Option (Dict String String)
  testToSlices : Option (Dict String (List SliceId))
  testFileToSlices : Option (Dict String (List SliceId))
  dependencyFileToSlices : Option (Dict String (List SliceId))
  interfaceDefinitionSlices : List SliceId
  callSiteSlices : List SliceId
  interfaceDefinitionFiles : Option (Dict String (List SliceId))
  callSiteFiles : Option (Dict String (List SliceId))
  couplingEvidenceComplete : Bool
  crossGenerationRecurrence : Bool

/-- `AttributionResult`. -/
structure AttributionResult where
  candidateSliceSet : List SliceId
  reliability : AttributionReliability
  strongCoupling : Bool
  crossGenerationRecurrence : Bool
  unknownErrorCount : Nat
  couplingEvidenceComplete : Bool
  reason : String
  deriving DecidableEq

/-- A mapping that is neither `None` nor empty. -/
def truthy {α : Type} (mapping : Option (Dict String α)) : Option (Dict String α) :=
  mapping.filter (!·.entries.isEmpty)

/-- `mapping.get(name, ())`. -/
def slicesAt {α : Type} (mapping : Option (Dict String (List α))) (name : String) : List α :=
  (mapping.bind (·.get? name)).getD []

/-- `_ordered`: the texts of two ids compare as their values do. -/
def orderedSlices (slices : List SliceId) : List SliceId :=
  slices.eraseDups.insertionSort fun left right => left.value ≤ right.value

/-- `_file_candidates`. -/
def fileCandidates (path : String) (context : AttributionContext) : List SliceId :=
  context.writeScopes.entries.filterMap fun entry =>
    if path ∈ entry.2.scopePaths then some entry.1 else none

/-- `_test_file`: the name up to the first `::`. -/
def testFile (testName : String) : String :=
  String.ofList (beforeColons testName.toList)
where
  beforeColons : List Char → List Char
    | [] => []
    | [c] => [c]
    | c :: d :: rest => if c = ':' ∧ d = ':' then [] else c :: beforeColons (d :: rest)

/-- `_mapped_slices`. -/
def mappedSlices (diagnostics : List DiagnosticMapping)
    (mapping : Option (Dict String (List SliceId))) : List SliceId :=
  diagnostics.flatMap fun diagnostic =>
    match diagnostic.target with
    | .fileLine path _ => slicesAt mapping path.text
    | _ => []

/-! ## The attribution -/

section Attribution

variable (context : AttributionContext)

/-- The symbols of a failed test: the one that failed, or those that the test covers. -/
def symbolsOf (testToSymbols : Dict String (List String)) (testName : String) : List String :=
  match (truthy context.failureSymbolByTest).bind (·.get? testName) with
  | some symbol => [symbol]
  | none => (testToSymbols.get? testName).getD []

/-- `symbol_candidates` of a dynamic failure. -/
def symbolCandidates (errors : List DiagnosticMapping) : List SliceId :=
  match truthy context.testToSymbols, truthy context.symbolToSlices with
  | some testToSymbols, some symbolToSlices =>
    errors.flatMap fun diagnostic =>
      match diagnostic.target with
      | .testIdentity testName =>
        (symbolsOf context testToSymbols testName).flatMap fun symbol =>
          (symbolToSlices.get? symbol).getD []
      | _ => []
  | _, _ => []

/-- The slices of the tests and of their files. -/
def testCandidates (errors : List DiagnosticMapping) : List SliceId :=
  errors.flatMap fun diagnostic =>
    match diagnostic.target with
    | .testIdentity testName =>
      slicesAt context.testToSlices testName ++
        slicesAt context.testFileToSlices (testFile testName)
    | _ => []

/-- The slices that a path leads to: those that write it, and those of the dependency file. -/
def pathCandidates (path : String) : List SliceId :=
  fileCandidates path context ++ slicesAt context.dependencyFileToSlices path

/-- The slices that the file diagnostics lead to. -/
def lineCandidates (errors : List DiagnosticMapping) : List SliceId :=
  errors.flatMap fun diagnostic =>
    match diagnostic.target with
    | .fileLine path _ => pathCandidates context path.text
    | _ => []

/-- A diagnostic of a test. -/
def DiagnosticTarget.isTest : DiagnosticTarget → Bool
  | .testIdentity _ => true
  | _ => false

/-- `attribute_diagnostics`. -/
def attributeDiagnostics (diagnostics : List DiagnosticMapping) (action : Option CheckAction) :
    AttributionResult :=
  let errors := diagnostics.filter (·.severity == .error)
  if errors.isEmpty then ⟨[], .uncertain, false, false, 0, false, "no_error_diagnostic"⟩
  else
    let unknownErrorCount := errors.countP (·.target == .unknown)
    let dynamic := action == some .test || errors.any (·.target.isTest)
    let symbols := if dynamic then symbolCandidates context errors else []
    let tests := if dynamic && symbols.isEmpty then testCandidates context errors else []
    let lines := if !dynamic || symbols.isEmpty then lineCandidates context errors else []
    let candidates := symbols ++ tests ++ lines
    let interfaceHits := context.interfaceDefinitionSlices.filter (candidates.contains ·) ++
      mappedSlices errors context.interfaceDefinitionFiles
    let callHits := context.callSiteSlices.filter (candidates.contains ·) ++
      mappedSlices errors context.callSiteFiles
    let strongCoupling := !interfaceHits.isEmpty && !callHits.isEmpty &&
      decide (2 ≤ (interfaceHits ++ callHits).eraseDups.length)
    let verdict : AttributionReliability × String :=
      if dynamic then
        (.dynamic, if symbols.isEmpty then "file_fallback" else "symbol_evidence")
      else if unknownErrorCount ≠ 0 then (.uncertain, "unknown_diagnostic")
      else if candidates.eraseDups.length = 1 ∧ context.couplingEvidenceComplete ∧
          !strongCoupling then
        (.reliable, "static_unique_scope")
      else if !context.couplingEvidenceComplete then (.uncertain, "coupling_evidence_incomplete")
      else if !candidates.isEmpty then (.uncertain, "static_ambiguous_scope")
      else (.uncertain, "static_no_scope")
    { candidateSliceSet := orderedSlices candidates
      reliability := verdict.1
      strongCoupling := strongCoupling
      crossGenerationRecurrence := context.crossGenerationRecurrence
      unknownErrorCount := unknownErrorCount
      couplingEvidenceComplete := context.couplingEvidenceComplete
      reason := verdict.2 }

end Attribution

/-! ## What is called reliable -/

/-- The roots below which a slice may create files. -/
def ScopeFact.createRoots : ScopeFact → List String
  | scope value => value.out.createRoots.map (·.text)
  | paths _ => []

/-- The path lies below a root of the slice. -/
def BelowRoot (context : AttributionContext) (slice : SliceId) (path : String) : Prop :=
  ∃ scope, context.writeScopes.get? slice = some scope ∧ ∃ root ∈ scope.createRoots, Below path root

/-- The path is one that the slice writes, or the dependency map has the slice for it. -/
def Names (context : AttributionContext) (slice : SliceId) (path : String) : Prop :=
  (∃ scope, context.writeScopes.get? slice = some scope ∧ path ∈ scope.scopePaths) ∨
    slice ∈ slicesAt context.dependencyFileToSlices path

/-- The path belongs to the slice, by its write scope or by the dependency map. -/
def Belongs (context : AttributionContext) (slice : SliceId) (path : String) : Prop :=
  Names context slice path ∨ BelowRoot context slice path

variable {context : AttributionContext} {diagnostics : List DiagnosticMapping}
  {action : Option CheckAction}

theorem mem_pathCandidates {slice : SliceId} {path : String} :
    slice ∈ pathCandidates context path ↔ Names context slice path := by
  rw [pathCandidates, List.mem_append]
  apply or_congr_left
  simp only [fileCandidates, List.mem_filterMap]
  constructor
  · intro found
    obtain ⟨⟨id, scope⟩, member, chosen⟩ := found
    split at chosen
    · next named =>
      cases chosen
      exact ⟨scope, (Dict.get?_eq_some_iff _ _ _).mpr member, named⟩
    · cases chosen
  · intro found
    obtain ⟨scope, entry, named⟩ := found
    exact ⟨(slice, scope), (Dict.get?_eq_some_iff _ _ _).mp entry, if_pos named⟩

theorem mem_orderedSlices {slice : SliceId} {slices : List SliceId} :
    slice ∈ orderedSlices slices ↔ slice ∈ slices := by
  rw [orderedSlices, List.mem_insertionSort, List.mem_eraseDups]

theorem reliable_facts
    (reliable : (attributeDiagnostics context diagnostics action).reliability = .reliable) :
    (∀ diagnostic ∈ diagnostics, diagnostic.severity = .error →
        ∃ path line, diagnostic.target = .fileLine path line) ∧
      (attributeDiagnostics context diagnostics action).candidateSliceSet =
        orderedSlices (lineCandidates context (diagnostics.filter (·.severity == .error))) := by
  unfold attributeDiagnostics at reliable ⊢
  dsimp only at reliable ⊢
  generalize errorsAre : diagnostics.filter (·.severity == .error) = errors at reliable ⊢
  split at reliable
  · cases reliable
  next nonempty =>
    rw [if_neg nonempty]
    cases dynamic : (action == some .test || errors.any (·.target.isTest)) with
    | true => simp [dynamic] at reliable
    | false =>
      simp only [dynamic, Bool.false_eq_true, if_false] at reliable
      split at reliable
      · cases reliable
      next known =>
        constructor
        · intro diagnostic member severe
          have isError : diagnostic ∈ errors := by
            rw [← errorsAre, List.mem_filter]
            exact ⟨member, by rw [severe]; rfl⟩
          rw [Bool.or_eq_false_iff, List.any_eq_false] at dynamic
          rw [not_not, List.countP_eq_zero] at known
          cases target : diagnostic.target with
          | fileLine path line => exact ⟨path, line, rfl⟩
          | testIdentity name =>
            have untested := dynamic.2 diagnostic isError
            simp [target, DiagnosticTarget.isTest] at untested
          | unknown =>
            have attributed := known diagnostic isError
            simp [target] at attributed
        · simp

/-- A reliable attribution to one slice is grounded exactly when no Error diagnostic leads to no
slice at all: each one's path is written by some slice, is in the dependency map, or lies below
a root of that slice. -/
theorem attribution_grounded_iff (context : AttributionContext)
    (diagnostics : List DiagnosticMapping) (action : Option CheckAction) (slice : SliceId)
    (reliable : (attributeDiagnostics context diagnostics action).reliability = .reliable)
    (only : (attributeDiagnostics context diagnostics action).candidateSliceSet = [slice]) :
    (∀ diagnostic ∈ diagnostics, diagnostic.severity = .error →
        ∃ path line, diagnostic.target = .fileLine path line ∧ Belongs context slice path.text) ↔
      ∀ diagnostic ∈ diagnostics, diagnostic.severity = .error → ∀ path line,
        diagnostic.target = .fileLine path line →
        (∃ other, Names context other path.text) ∨ BelowRoot context slice path.text := by
  obtain ⟨inFiles, candidates⟩ := reliable_facts reliable
  rw [candidates] at only
  constructor
  · intro grounded diagnostic member severe path line target
    obtain ⟨other, otherLine, same, belongs⟩ := grounded diagnostic member severe
    rw [target, DiagnosticTarget.fileLine.injEq] at same
    rw [← same.1] at belongs
    rcases belongs with named | below
    · exact Or.inl ⟨slice, named⟩
    · exact Or.inr below
  · intro leads diagnostic member severe
    obtain ⟨path, line, target⟩ := inFiles diagnostic member severe
    refine ⟨path, line, target, ?_⟩
    rcases leads diagnostic member severe path line target with ⟨other, named⟩ | below
    · -- the slice that the path leads to is a candidate, and there is only one
      have candidate : other ∈ orderedSlices
          (lineCandidates context (diagnostics.filter (·.severity == .error))) := by
        rw [mem_orderedSlices, lineCandidates, List.mem_flatMap]
        refine ⟨diagnostic, List.mem_filter.mpr ⟨member, by rw [severe]; rfl⟩, ?_⟩
        rw [target]
        exact mem_pathCandidates.mpr named
      rw [only, List.mem_singleton] at candidate
      exact Or.inl (candidate ▸ named)
    · exact Or.inr below

namespace AttributionSamples

/-- The one slice of the samples, and what it writes. -/
def slice : SliceId := ⟨1⟩

def main : RepoRelativePath := ⟨"src/main.go", by decide⟩

def vendored : RepoRelativePath := ⟨"vendor/dep.go", by decide⟩

def facts : AttributionContext where
  writeScopes := Dict.empty.set slice (.scope ⟨⟨[main], []⟩⟩)
  testToSymbols := none
  symbolToSlices := none
  failureSymbolByTest := none
  testToSlices := none
  testFileToSlices := none
  dependencyFileToSlices := none
  interfaceDefinitionSlices := []
  callSiteSlices := []
  interfaceDefinitionFiles := none
  callSiteFiles := none
  couplingEvidenceComplete := true
  crossGenerationRecurrence := false

/-- An error in a line of a file. -/
def errorIn (path : RepoRelativePath) : DiagnosticMapping :=
  ⟨.error, .fileLine path 3, "GO_DIAGNOSTIC", ""⟩

end AttributionSamples

open AttributionSamples

theorem attribution_grounded_iff_main :
    (∀ diagnostic ∈ [errorIn main], diagnostic.severity = .error →
        ∃ path line, diagnostic.target = .fileLine path line ∧ Belongs facts slice path.text) ↔
      ∀ diagnostic ∈ [errorIn main], diagnostic.severity = .error → ∀ path line,
        diagnostic.target = .fileLine path line →
        (∃ other, Names facts other path.text) ∨ BelowRoot facts slice path.text :=
  attribution_grounded_iff facts [errorIn main] (some .compile) slice (by decide) (by decide)

/-- An error in a file that no slice writes is left out, and the slice of another error is called
reliable. -/
theorem unattributed_error_blamed :
    ∃ (context : AttributionContext) (diagnostics : List DiagnosticMapping)
      (action : Option CheckAction) (slice : SliceId),
      (attributeDiagnostics context diagnostics action).reliability = .reliable ∧
        (attributeDiagnostics context diagnostics action).candidateSliceSet = [slice] ∧
        ¬ ∀ diagnostic ∈ diagnostics, diagnostic.severity = .error →
          ∃ path line, diagnostic.target = .fileLine path line ∧
            Belongs context slice path.text := by
  refine ⟨facts, [errorIn main, errorIn vendored], some .compile, slice, by decide, by decide, ?_⟩
  intro grounded
  obtain ⟨path, line, target, belongs⟩ := grounded (errorIn vendored) (by simp) rfl
  cases target
  have scopeOf : facts.writeScopes.get? slice = some (.scope ⟨⟨[main], []⟩⟩) := by
    rw [show facts.writeScopes = Dict.empty.set slice (.scope ⟨⟨[main], []⟩⟩) from rfl,
      Dict.get?_set, if_pos rfl]
  rcases belongs with (⟨scope, found, named⟩ | mapped) | ⟨scope, found, root, isRoot, -⟩
  · rw [scopeOf] at found
    cases found
    exact absurd named (by decide)
  · exact absurd mapped (by decide)
  · rw [scopeOf] at found
    cases found
    exact absurd isRoot List.not_mem_nil

end CodeMigrator
