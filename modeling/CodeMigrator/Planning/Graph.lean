import CodeMigrator.Planning.Blueprint

/-!
# Edge, rank and size guards

`_validate_edges`, `_validate_test_edges`, `_has_cycle`, `_validate_ranks` and
`_validate_limits` of `planning/validator.py`.
-/

namespace CodeMigrator
open Lib

/-- The body of the loop of `_validate_edges` for one edge; `seen` holds the keys of
the edges before it. -/
def edgeViolations (refs : List String) (seen : List (String × String × PlanEdgeKind))
    (index : Nat) (edge : PlanEdgeProposal) : List PlanViolation :=
  let pointer := s!"/edges/{index}"
  (if edge.from_ ∉ refs ∨ edge.to_ ∉ refs then
    [violation .planEdgeInvalid pointer "edge endpoint is not a slice in this proposal" []]
  else []) ++
  (if edge.from_ = edge.to_ ∧ edge.from_ ∉ refs then
    [violation .planEdgeInvalid pointer "self edges are not allowed" []]
  else []) ++
  (if (edge.from_, edge.to_, edge.kind) ∈ seen then
    [violation .planEdgeInvalid pointer "duplicate edge" []]
  else []) ++
  (if edge.provenance = .importUnknown ∧ edge.kind = .requires then
    [violation .planEdgeInvalid pointer
      "Unknown import facts may only produce OrderedBefore edges" []]
  else []) ++
  (if edge.provenance = .writeScopeConflict then
    [violation .planScopeConflict pointer
      "write conflicts cannot be hidden by a planning edge" []]
  else [])

/-- The loop of `_validate_edges` from edge `index` on. -/
def edgesViolations (refs : List String) :
    List (String × String × PlanEdgeKind) → Nat → List PlanEdgeProposal → List PlanViolation
  | _, _, [] => []
  | seen, index, edge :: edges =>
    edgeViolations refs seen index edge ++
      edgesViolations refs ((edge.from_, edge.to_, edge.kind) :: seen) (index + 1) edges

/-- `_validate_edges`. -/
def validateEdges (proposal : PlanProposal) : List PlanViolation :=
  edgesViolations proposal.refs [] 0 proposal.edges

/-- The dictionary `tested_by_test_module` of `_validate_test_edges`. -/
def testedByTestModule (analysis : AnalysisResult) :
    Dict ProjectModuleId (List ProjectModuleId) :=
  analysis.coverage.foldl (fun tested entry =>
    (analysis.modules.filter (fun module_ => entry.testFile ∈ module_.filePaths)).foldl
      (fun tested module_ => tested.set module_.moduleId
        ((tested.get? module_.moduleId).getD [] ++ entry.testedModules)) tested) Dict.empty

/-- The modules that a test slice tests: its own for a generated suite, those that
coverage gives for a translated one. -/
def testedModulesOf (inputs : PlanningInputs) (slice : PlanSliceProposal) :
    List ProjectModuleId :=
  if slice.kind = .testGeneration then slice.sourceModules
  else
    slice.sourceModules.flatMap fun moduleId =>
      if inputs.analysis.modules.any (fun module_ => module_.moduleId = moduleId) then
        ((testedByTestModule inputs.analysis).get? moduleId).getD []
      else []

/-- `_validate_test_edges`. -/
def validateTestEdges (proposal : PlanProposal) (inputs : PlanningInputs) :
    List PlanViolation :=
  proposal.edges.zipIdx.filterMap fun (edge, index) =>
    let testSlice := proposal.slices.find? fun slice =>
      (slice.kind = .testTranslation ∨ slice.kind = .testGeneration) ∧
        (slice.localRef = edge.from_ ∨ slice.localRef = edge.to_)
    match testSlice with
    | none => none
    | some testSlice =>
      let implementationRef :=
        if testSlice.localRef = edge.from_ then edge.to_ else edge.from_
      match proposal.slices.find? (fun slice => slice.localRef = implementationRef) with
      | none => none
      | some slice =>
        if slice.kind ≠ .implementation then none
        else if (testedModulesOf inputs testSlice).any (· ∈ slice.sourceModules) then
          some (violation .planEdgeInvalid s!"/edges/{index}"
            "test slices must not edge to their tested implementation slice" [])
        else none

/-! ## Cycle check -/

/-- The adjacency sets and indegrees of `_has_cycle`. -/
structure EdgeTables where
  adjacency : Dict String (List String)
  indegree : Dict String Int

def EdgeTables.initial (refs : List String) : EdgeTables :=
  ⟨Dict.ofPairs (refs.map (fun ref => (ref, []))), Dict.ofPairs (refs.map (fun ref => (ref, 0)))⟩

/-- One edge enters the tables when both ends are slices and it is not there yet. -/
def EdgeTables.addEdge (refs : List String) (tables : EdgeTables) (edge : PlanEdgeProposal) :
    EdgeTables :=
  if edge.from_ ∈ refs ∧ edge.to_ ∈ refs then
    let successors := (tables.adjacency.get? edge.from_).getD []
    if edge.to_ ∈ successors then tables
    else
      { adjacency := tables.adjacency.set edge.from_ (successors ++ [edge.to_])
        indegree := tables.indegree.set edge.to_ ((tables.indegree.get? edge.to_).getD 0 + 1) }
  else tables

/-- The inner loop of `_has_cycle`: the children of a visited node lose one
predecessor, and those left without one are queued. -/
def releaseChildren (queue : List String) (indegree : Dict String Int) :
    List String → List String × Dict String Int
  | [] => (queue, indegree)
  | child :: children =>
    let degree := (indegree.get? child).getD 0 - 1
    releaseChildren (if degree = 0 then queue ++ [child] else queue)
      (indegree.set child degree) children

/-- The outer loop of `_has_cycle`, which returns `visited_count`. Every node enters
the queue at most once, so as many rounds as there are nodes are enough. -/
def visitLoop (adjacency : Dict String (List String)) :
    Nat → List String → Dict String Int → Nat → Nat
  | 0, _, _, visited => visited
  | _ + 1, [], _, visited => visited
  | rounds + 1, ref :: queue, indegree, visited =>
    let children := ((adjacency.get? ref).getD []).insertionSort pathLe
    let next := releaseChildren queue indegree children
    visitLoop adjacency rounds next.1 next.2 (visited + 1)

/-- `_has_cycle`. -/
def hasCycle (proposal : PlanProposal) : Bool :=
  let refs := proposal.refs
  let tables := proposal.edges.foldl (EdgeTables.addEdge refs) (EdgeTables.initial refs)
  let queue := (refs.filter (fun ref => tables.indegree.get? ref = some 0)).insertionSort pathLe
  visitLoop tables.adjacency refs.length queue tables.indegree 0 != refs.length

/-! ## Ranks and sizes -/

/-- The rank comparison of `_validate_ranks` for one edge. -/
def rankViolation (refs : List String) (ranks : Dict String Int) (index : Nat)
    (edge : PlanEdgeProposal) : Option PlanViolation :=
  if edge.from_ ∈ refs ∧ edge.to_ ∈ refs then
    match ranks.get? edge.from_, ranks.get? edge.to_ with
    | some fromRank, some toRank =>
      if toRank ≤ fromRank then
        some (violation .planRankInconsistent s!"/edges/{index}"
          "every edge must point from a lower integration rank to a higher rank"
          [("from_rank", .int fromRank), ("to_rank", .int toRank)])
      else none
    | _, _ => none
  else none

/-- `_validate_ranks`. -/
def validateRanks (proposal : PlanProposal) : List PlanViolation :=
  let refs := proposal.refs
  let ranks := proposal.integrationRanks
  (if ranks.keys ⊆ refs ∧ refs ⊆ ranks.keys then []
  else [violation .planProposalInvalid "/integration_ranks"
    "integration_ranks must contain exactly one non-negative rank per slice" []]) ++
  ranks.entries.filterMap (fun (ref, rank) =>
    if ref ∈ refs ∧ rank < 0 then
      some (violation .planProposalInvalid ("/integration_ranks/" ++ ref)
        "integration rank must be a non-negative integer" [])
    else none) ++
  proposal.edges.zipIdx.filterMap (fun (edge, index) => rankViolation refs ranks index edge)

theorem validateRanks_increase {proposal : PlanProposal} (silent : validateRanks proposal = [])
    {edge : PlanEdgeProposal} (member : edge ∈ proposal.edges) (fromSlice : edge.from_ ∈ proposal.refs)
    (toSlice : edge.to_ ∈ proposal.refs) {low high : Int}
    (rankFrom : proposal.integrationRanks.get? edge.from_ = some low)
    (rankTo : proposal.integrationRanks.get? edge.to_ = some high) : low < high := by
  simp only [validateRanks, List.append_eq_nil_iff] at silent
  obtain ⟨index, inZip⟩ : ∃ index, (edge, index) ∈ proposal.edges.zipIdx := by
    obtain ⟨index, at_⟩ := List.mem_iff_getElem?.mp member
    exact ⟨index, List.mem_zipIdx_iff_getElem?.mpr at_⟩
  have quiet := List.filterMap_eq_nil_iff.mp silent.2 (edge, index) inZip
  simp only [rankViolation, fromSlice, toSlice, and_self, if_true, rankFrom, rankTo] at quiet
  by_contra notBelow
  rw [if_pos (by omega)] at quiet
  exact absurd quiet (by simp)

/-- `_validate_limits`. -/
def validateLimits (proposal : PlanProposal) (limits : PlanningLimits) : List PlanViolation :=
  (if limits.maxSlices < proposal.slices.length then
    [violation .planSizeExceeded "/slices" "slice limit exceeded" []] else []) ++
  (if limits.maxEdges < proposal.edges.length then
    [violation .planSizeExceeded "/edges" "edge limit exceeded" []] else []) ++
  proposal.slices.zipIdx.filterMap (fun (slice, index) =>
    if limits.maxWritePathsPerSlice < slice.writePaths.length then
      some (violation .planSizeExceeded s!"/slices/{index}/write_paths"
        "single-slice write path limit exceeded" [])
    else none) ++
  (if limits.maxTotalWritePaths < (proposal.slices.map (·.writePaths.length)).sum then
    [violation .planSizeExceeded "/slices" "total write scope limit exceeded" []] else [])

end CodeMigrator
