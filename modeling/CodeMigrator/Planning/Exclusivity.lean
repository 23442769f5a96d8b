import CodeMigrator.Planning.Validator
import CodeMigrator.Workspace.Gateway
import CodeMigrator.Runtime.FairScheduler

/-!
# Write exclusivity of accepted plans

The plan validator, the tool gateway and the scheduler each decide by rules of
their own whether two slices may write the same path. The validator's overlap test
is exact for the sets of paths that the gateway admits, so two slices of an
accepted plan never share a path there. The scheduler also counts a path below
another one as overlapping, whatever kind the two are; the validator looks for
nesting below create roots only.
-/

namespace CodeMigrator
open Lib

/-! ## Overlap of write scopes -/

/-- The write scope of a slice proposal. -/
def PlanSliceProposal.scope (slice : PlanSliceProposal) : WriteScopeOut :=
  ⟨slice.writePaths, slice.createRoots⟩

theorem scopesOverlap_iff (left right : WriteScopeOut) :
    scopesOverlap left.writePaths left.createRoots right.writePaths right.createRoots = true ↔
      ∃ path, left.Permits path ∧ right.Permits path := by
  simp only [scopesOverlap, Bool.or_eq_true, List.any_eq_true, beq_iff_eq, pathIsInRoot_iff]
  constructor
  · rintro (((⟨path, inLeft, other, inRight, equal⟩ | ⟨path, inLeft, root, inRight, below⟩) |
      ⟨path, inRight, root, inLeft, below⟩) | ⟨leftRoot, inLeft, rightRoot, inRight, nested⟩)
    · exact ⟨path.text, Or.inl ⟨path, inLeft, rfl⟩, Or.inl ⟨other, inRight, equal.symm⟩⟩
    · exact ⟨path.text, Or.inl ⟨path, inLeft, rfl⟩, Or.inr ⟨root, inRight, below⟩⟩
    · exact ⟨path.text, Or.inr ⟨root, inLeft, below⟩, Or.inl ⟨path, inRight, rfl⟩⟩
    · -- the inner of two nested roots is a path of both scopes
      rcases nested with below | below
      · exact ⟨leftRoot.text, Or.inr ⟨leftRoot, inLeft, Or.inl rfl⟩,
          Or.inr ⟨rightRoot, inRight, below⟩⟩
      · exact ⟨rightRoot.text, Or.inr ⟨leftRoot, inLeft, below⟩,
          Or.inr ⟨rightRoot, inRight, Or.inl rfl⟩⟩
  · rintro ⟨path, ⟨item, inLeft, rfl⟩ | ⟨leftRoot, inLeft, below⟩,
      ⟨other, inRight, equal⟩ | ⟨rightRoot, inRight, belowRight⟩⟩
    · exact Or.inl (Or.inl (Or.inl ⟨item, inLeft, other, inRight, equal.symm⟩))
    · exact Or.inl (Or.inl (Or.inr ⟨item, inLeft, rightRoot, inRight, belowRight⟩))
    · subst equal
      exact Or.inl (Or.inr ⟨other, inRight, leftRoot, inLeft, below⟩)
    · exact Or.inr ⟨leftRoot, inLeft, rightRoot, inRight, below.comparable belowRight⟩

theorem scopeConflicts_pairwise {index : Nat} {slices : List PlanSliceProposal}
    (silent : scopeConflicts index slices = []) :
    slices.Pairwise (fun left right =>
      ∀ path, ¬ (left.scope.Permits path ∧ right.scope.Permits path)) := by
  induction slices generalizing index with
  | nil => exact List.Pairwise.nil
  | cons left rights ih =>
    simp only [scopeConflicts, List.append_eq_nil_iff] at silent
    refine List.Pairwise.cons ?_ (ih silent.2)
    intro right member path shared
    have overlap := (scopesOverlap_iff left.scope right.scope).mpr ⟨path, shared⟩
    have none := List.filterMap_eq_nil_iff.mp silent.1 right member
    have clear : ¬ scopesOverlap left.writePaths left.createRoots right.writePaths
        right.createRoots = true := by
      intro true_
      simp [true_] at none
    exact clear overlap

theorem Accepted.scopes_disjoint {isalnum : Char → Bool} {validator : PlanValidator}
    {proposal : PlanProposal} {inputs : PlanningInputs}
    (accepted : Accepted isalnum validator proposal inputs) {i j : Nat}
    {left right : PlanSliceProposal} (distinct : i ≠ j) (atLeft : proposal.slices[i]? = some left)
    (atRight : proposal.slices[j]? = some right) (path : String) :
    ¬ (left.scope.Permits path ∧ right.scope.Permits path) := by
  have pairwise := scopeConflicts_pairwise accepted.scopeConflicts
  rw [List.pairwise_iff_getElem] at pairwise
  obtain ⟨boundLeft, rfl⟩ := List.getElem?_eq_some_iff.mp atLeft
  obtain ⟨boundRight, rfl⟩ := List.getElem?_eq_some_iff.mp atRight
  rcases Nat.lt_or_gt_of_ne distinct with before | after
  · exact pairwise i j boundLeft boundRight before path
  · intro shared
    exact pairwise j i boundRight boundLeft after path shared.symm

/-! ## The gateway -/

/-- For any two slices of an accepted plan, any path, any two histories of the file
and any other scopes bound in the two gateways, at most one of the gateways admits
the write. -/
theorem writeAllowed_exclusive (isalnum : Char → Bool) (validator : PlanValidator)
    (proposal : PlanProposal) (inputs : PlanningInputs)
    (accepted : (validator.validate isalnum proposal inputs).accepted = true) (i j : Nat)
    (left right : PlanSliceProposal) (distinct : i ≠ j)
    (atLeft : proposal.slices[i]? = some left) (atRight : proposal.slices[j]? = some right)
    (path : String) (existedLeft existedRight : Bool) (othersLeft othersRight : List WriteScope) :
    ¬ (writeAllowed ⟨left.scope⟩ othersLeft path existedLeft = true ∧
      writeAllowed ⟨right.scope⟩ othersRight path existedRight = true) := by
  rintro ⟨allowedLeft, allowedRight⟩
  exact (Accepted.of_validate accepted).scopes_disjoint distinct atLeft atRight path
    ⟨writeAllowed_permits allowedLeft, writeAllowed_permits allowedRight⟩

/-! ### Two slices with adjacent names -/

namespace TwoSlices

def firstModule : ModuleFact := ⟨⟨1⟩, ["a.go"], .source⟩
def secondModule : ModuleFact := ⟨⟨2⟩, ["b.go"], .source⟩

def inputs : PlanningInputs :=
  { scope := ⟨["a.go", "b.go"], []⟩
    targetProjectBlueprint := ⟨[], []⟩
    analysis := ⟨[firstModule, secondModule], [], [], []⟩
    snapshotOid := "s0"
    limits := .default }

/-- An implementation slice of one module with the given scope. -/
def slice (ref : String) (moduleId : ProjectModuleId) (writePaths createRoots : List RepoRelativePath)
    (safe : isLocalRef ref = true) : PlanSliceProposal :=
  ⟨ref, .implementation, [moduleId], writePaths, createRoots, [], [], safe⟩

def pkg : RepoRelativePath := ⟨"pkg", by decide⟩
def pkgFile : RepoRelativePath := ⟨"pkg/a.py", by decide⟩
def pkgSibling : RepoRelativePath := ⟨"pkgs/a.py", by decide⟩

/-- A slice that creates below `pkg`. -/
def creator : PlanSliceProposal := slice "A" ⟨1⟩ [] [pkg] (by decide)
/-- A slice that writes next to `pkg`, under a name that starts with the same text. -/
def neighbour : PlanSliceProposal := slice "B" ⟨2⟩ [pkgSibling] [] (by decide)
/-- A slice that writes the path `pkg` itself. -/
def parent : PlanSliceProposal := slice "A" ⟨1⟩ [pkg] [] (by decide)
/-- A slice that writes a file below `pkg`. -/
def child : PlanSliceProposal := slice "B" ⟨2⟩ [pkgFile] [] (by decide)

def ranks : Dict String Int := ⟨[("A", 0), ("B", 1)], by decide⟩

def apart : PlanProposal := ⟨[creator, neighbour], [], ranks, by decide⟩
def nested : PlanProposal := ⟨[parent, child], [], ranks, by decide⟩

end TwoSlices

open TwoSlices in
theorem writeAllowed_exclusive_apart :
    ((PlanValidator.mk none).validate (fun _ => false) apart inputs).accepted = true ∧
      ¬ (writeAllowed ⟨creator.scope⟩ [] "pkgs/a.py" false = true ∧
        writeAllowed ⟨neighbour.scope⟩ [⟨creator.scope⟩] "pkgs/a.py" true = true) := by
  have accepted : ((PlanValidator.mk none).validate (fun _ => false) apart inputs).accepted = true :=
    by decide
  exact ⟨accepted, writeAllowed_exclusive _ _ _ _ accepted 0 1 creator neighbour (by decide) rfl rfl
    _ _ _ _ _⟩

/-! ## The scheduler -/

/-- Some write path of `upper` is a parent directory of a path of `lower`. -/
def WritesAbove (upper lower : WriteScopeOut) : Prop :=
  ∃ path ∈ upper.writePaths, ∃ item ∈ lower.writePaths ++ lower.createRoots,
    Below item.text path.text

/-- A path strictly below another of a disjoint scope is below one of its write
paths: below a create root it would lie in both scopes. -/
theorem writesAbove_of_below {upper lower : WriteScopeOut}
    (disjoint : ∀ path, ¬ (upper.Permits path ∧ lower.Permits path)) {high low : RepoRelativePath}
    (inUpper : high ∈ upper.writePaths ++ upper.createRoots)
    (inLower : low ∈ lower.writePaths ++ lower.createRoots) (below : Below low.text high.text) :
    WritesAbove upper lower := by
  rcases List.mem_append.mp inUpper with isPath | isRoot
  · exact ⟨high, isPath, low, inLower, below⟩
  · exact absurd ⟨Or.inr ⟨high, isRoot, Or.inr below⟩, lower.permits_of_mem inLower⟩
      (disjoint low.text)

/-- Two distinct slices of an accepted plan do not overlap for the scheduler exactly
when neither writes a parent directory of a path of the other. -/
theorem scheduler_agrees_iff (isalnum : Char → Bool) (validator : PlanValidator)
    (proposal : PlanProposal) (inputs : PlanningInputs)
    (accepted : (validator.validate isalnum proposal inputs).accepted = true) (i j : Nat)
    (left right : PlanSliceProposal) (distinct : i ≠ j)
    (atLeft : proposal.slices[i]? = some left) (atRight : proposal.slices[j]? = some right) :
    FairScheduler.scopesOverlap (FairScheduler.writeScope left.scope)
        (FairScheduler.writeScope right.scope) = false ↔
      ¬ WritesAbove left.scope right.scope ∧ ¬ WritesAbove right.scope left.scope := by
  have disjoint := (Accepted.of_validate accepted).scopes_disjoint distinct atLeft atRight
  rw [← not_or, ← Bool.not_eq_true, FairScheduler.scopesOverlap_iff, not_iff_not]
  constructor
  · rintro ⟨first, inLeft, second, inRight, equal | below | above⟩
    · -- equal paths would lie in both scopes
      have permitsLeft := left.scope.permits_of_mem inLeft
      rw [equal] at permitsLeft
      exact absurd ⟨permitsLeft, right.scope.permits_of_mem inRight⟩ (disjoint second.text)
    · exact Or.inr (writesAbove_of_below (fun path shared => disjoint path shared.symm)
        inRight inLeft below)
    · exact Or.inl (writesAbove_of_below disjoint inLeft inRight above)
  · rintro (⟨path, isPath, item, inRight, below⟩ | ⟨path, isPath, item, inLeft, below⟩)
    · exact ⟨path, List.mem_append_left _ isPath, item, inRight, Or.inr (Or.inr below)⟩
    · exact ⟨item, inLeft, path, List.mem_append_left _ isPath, Or.inr (Or.inl below)⟩

open TwoSlices in
theorem scheduler_agrees_apart :
    FairScheduler.scopesOverlap (FairScheduler.writeScope creator.scope)
        (FairScheduler.writeScope neighbour.scope) = false ↔
      ¬ WritesAbove creator.scope neighbour.scope ∧ ¬ WritesAbove neighbour.scope creator.scope :=
  scheduler_agrees_iff (fun _ => false) ⟨none⟩ apart inputs (by decide) 0 1 creator neighbour
    (by decide) rfl rfl

open TwoSlices in
/-- The validator accepts a plan in which one slice writes `pkg` and the other
`pkg/a.py`; the scheduler never runs the two side by side. -/
theorem scheduler_disagrees_nested :
    ((PlanValidator.mk none).validate (fun _ => false) nested inputs).accepted = true ∧
      nested.slices[0]? = some parent ∧ nested.slices[1]? = some child ∧
      FairScheduler.scopesOverlap (FairScheduler.writeScope parent.scope)
        (FairScheduler.writeScope child.scope) = true := by
  refine ⟨?_, rfl, rfl, ?_⟩
  · decide
  · decide

end CodeMigrator
