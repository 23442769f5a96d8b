import CodeMigrator.Planning.Coverage
import CodeMigrator.Planning.Graph

/-!
# Plan validation

`PlanValidator.validate` of `planning/validator.py`.
-/

namespace CodeMigrator
open Lib

/-- `PlanValidator`: its own limits replace those of the inputs. -/
structure PlanValidator where
  limits : Option PlanningLimits
  deriving DecidableEq

section Validate

variable (isalnum : Char → Bool)

/-- The violations of `PlanValidator.validate` in the order in which it collects
them. -/
def PlanValidator.violations (validator : PlanValidator) (proposal : PlanProposal)
    (inputs : PlanningInputs) : List PlanViolation :=
  let modules := modulesById inputs.analysis
  validateSliceModules proposal inputs modules ++
    validateEdges proposal ++
    validateArtifacts proposal inputs ++
    validateArtifactScopes proposal ++
    validateTestEdges proposal inputs ++
    validateScopeConflicts proposal ++
    validateBlueprint isalnum proposal inputs ++
    (coverageTable proposal inputs modules).filterMap (·.2.2) ++
    (if hasCycle proposal then
      [violation .planCycle "/edges" "proposal edges contain a directed cycle" []] else []) ++
    validateRanks proposal ++
    validateLimits proposal (validator.limits.getD inputs.limits)

/-- `PlanValidator.validate`. -/
def PlanValidator.validate (validator : PlanValidator) (proposal : PlanProposal)
    (inputs : PlanningInputs) : PlanValidation :=
  let violations := validator.violations isalnum proposal inputs
  { accepted := violations.isEmpty
    violations := violations
    sourceCoverage := (coverageTable proposal inputs (modulesById inputs.analysis)).map
      (fun entry => (entry.1, entry.2.1))
    checkedScopePairs := proposal.slices.length * (proposal.slices.length - 1) / 2
    cycleCheck := .ofFailed (hasCycle proposal)
    blueprintCheck := .ofFailed (violations.any (·.code = .planBlueprintViolation))
    rankCheck := .ofFailed (!(validateRanks proposal).isEmpty)
    sizeCheck := .ofFailed (violations.any (·.code = .planSizeExceeded)) }

end Validate

/-! ## What acceptance says -/

/-- The guards of `PlanValidator.validate`, each without a violation. -/
structure Accepted (isalnum : Char → Bool) (validator : PlanValidator) (proposal : PlanProposal)
    (inputs : PlanningInputs) : Prop where
  sliceModules : validateSliceModules proposal inputs (modulesById inputs.analysis) = []
  edges : validateEdges proposal = []
  artifacts : validateArtifacts proposal inputs = []
  artifactScopes : validateArtifactScopes proposal = []
  testEdges : validateTestEdges proposal inputs = []
  scopeConflicts : validateScopeConflicts proposal = []
  blueprint : validateBlueprint isalnum proposal inputs = []
  coverage : (coverageTable proposal inputs (modulesById inputs.analysis)).filterMap (·.2.2) = []
  acyclic : hasCycle proposal = false
  ranks : validateRanks proposal = []
  limits : validateLimits proposal (validator.limits.getD inputs.limits) = []

theorem Accepted.of_validate {isalnum : Char → Bool} {validator : PlanValidator}
    {proposal : PlanProposal} {inputs : PlanningInputs}
    (accepted : (validator.validate isalnum proposal inputs).accepted = true) :
    Accepted isalnum validator proposal inputs := by
  have silent : validator.violations isalnum proposal inputs = [] := by
    simpa [PlanValidator.validate] using accepted
  simp only [PlanValidator.violations, List.append_eq_nil_iff] at silent
  obtain ⟨⟨⟨⟨⟨⟨⟨⟨⟨⟨h1, h2⟩, h3⟩, h4⟩, h5⟩, h6⟩, h7⟩, h8⟩, h9⟩, h10⟩, h11⟩ := silent
  refine ⟨h1, h2, h3, h4, h5, h6, h7, h8, ?_, h10, h11⟩
  cases cycle : hasCycle proposal with
  | false => rfl
  | true => simp [cycle] at h9

end CodeMigrator
