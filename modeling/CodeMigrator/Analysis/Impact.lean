import CodeMigrator.Analysis.SourceRanges
import CodeMigrator.Planning.Ripple

/-!
# Impact queries

`QuerySourceAst._impact_hits` of `analysis/query.py`: the modules that one module reaches along the
imports, those that reach it, or both. A set is a list here, and an entry of a graph that is missing
is an empty set.
-/

namespace CodeMigrator
open Lib Relation

/-! ## Graphs of sets -/

/-- `dict[ProjectModuleId, set[ProjectModuleId]]`. -/
abbrev ModuleGraph := Dict ProjectModuleId (List ProjectModuleId)

namespace ModuleGraph

/-- `graph.get(current, ())`. -/
def targets (graph : ModuleGraph) (current : ProjectModuleId) : List ProjectModuleId :=
  (graph.get? current).getD []

/-- `graph.setdefault(source, set()).add(target)`. -/
def addEdge (graph : ModuleGraph) (edge : ProjectModuleId × ProjectModuleId) : ModuleGraph :=
  graph.set edge.1 (if edge.2 ∈ targets graph edge.1 then targets graph edge.1
    else targets graph edge.1 ++ [edge.2])

/-- The inner loop over `targets`. It adds `source` to the set that it goes through only where that
set has `source` already. -/
def addReversed (graph : ModuleGraph) (source : ProjectModuleId) (targets : List ProjectModuleId) :
    ModuleGraph :=
  (targets.map (·, source)).foldl addEdge graph

/-- `graph` of `UPSTREAM`. -/
def reversed (adjacency : ModuleGraph) : ModuleGraph :=
  adjacency.entries.foldl (fun graph entry => graph.addReversed entry.1 entry.2) .empty

/-- The outer loop of `BOTH`: the graph itself grows, and with it the sets that are gone through. -/
def reverseAll (graph : ModuleGraph) (sources : List ProjectModuleId) : ModuleGraph :=
  sources.foldl (fun graph source => graph.addReversed source (targets graph source)) graph

/-- `graph` of `BOTH`. -/
def symmetric (adjacency : ModuleGraph) : ModuleGraph := adjacency.reverseAll adjacency.keys

/-- `seen` at the end of the loop. -/
def seenFrom (graph : ModuleGraph) (selected : ProjectModuleId) : List ProjectModuleId :=
  explore graph.targets (1 + (graph.keys.map fun node => (graph.targets node).length).sum) []
    [selected]

variable {graph : ModuleGraph} {node target source : ProjectModuleId}
  {sources : List ProjectModuleId}

theorem mem_targets_addEdge {edge : ProjectModuleId × ProjectModuleId} :
    target ∈ targets (graph.addEdge edge) node ↔
      target ∈ graph.targets node ∨ (node, target) = edge := by
  rw [targets, addEdge, Dict.get?_set, Prod.ext_iff]
  split
  · next same =>
    subst same
    rw [Option.getD_some]
    split
    · next old =>
      refine ⟨.inl, ?_⟩
      rintro (there | ⟨-, rfl⟩)
      · exact there
      · exact old
    · simp
  · next other =>
    change target ∈ graph.targets node ↔ _
    simp [other]

theorem mem_targets_addEdges {edges : List (ProjectModuleId × ProjectModuleId)} :
    target ∈ targets (edges.foldl addEdge graph) node ↔
      target ∈ graph.targets node ∨ (node, target) ∈ edges := by
  induction edges generalizing graph with
  | nil => simp
  | cons edge edges ih => rw [List.foldl_cons, ih, mem_targets_addEdge, List.mem_cons, or_assoc]

theorem mem_targets_addReversed :
    target ∈ targets (graph.addReversed source sources) node ↔
      target ∈ graph.targets node ∨ node ∈ sources ∧ target = source := by
  rw [addReversed, mem_targets_addEdges]
  simp [Prod.ext_iff, eq_comm]

theorem mem_targets_reversed :
    target ∈ graph.reversed.targets node ↔ node ∈ graph.targets target := by
  have folded : ∀ (entries : List (ProjectModuleId × List ProjectModuleId)) (start : ModuleGraph),
      target ∈ targets (entries.foldl
          (fun graph entry => graph.addReversed entry.1 entry.2) start) node ↔
        target ∈ start.targets node ∨ ∃ entry ∈ entries, node ∈ entry.2 ∧ target = entry.1 := by
    intro entries
    induction entries with
    | nil => simp
    | cons entry entries ih =>
      intro start
      simp only [List.foldl_cons, ih, mem_targets_addReversed, List.exists_mem_cons_iff, or_assoc]
  rw [reversed, folded]
  unfold targets
  constructor
  · rintro (impossible | ⟨entry, member, inside, rfl⟩)
    · cases impossible
    · rw [(Dict.get?_eq_some_iff graph entry.1 entry.2).mpr member]
      exact inside
  · intro inside
    cases found : graph.get? target with
    | none =>
      rw [found] at inside
      cases inside
    | some targets =>
      rw [found] at inside
      exact .inr ⟨(target, targets), (Dict.get?_eq_some_iff _ _ _).mp found, inside, rfl⟩

theorem targets_subset_reverseAll (sources : List ProjectModuleId)
    (old : target ∈ graph.targets node) : target ∈ (graph.reverseAll sources).targets node := by
  induction sources generalizing graph with
  | nil => exact old
  | cons source sources ih => exact ih (mem_targets_addReversed.mpr (.inl old))

theorem reverseAll_linked {Linked : ProjectModuleId → ProjectModuleId → Prop}
    (symm : ∀ node target, Linked node target → Linked target node)
    (edges : ∀ node target, target ∈ graph.targets node → Linked node target)
    (sources : List ProjectModuleId) :
    ∀ node target, target ∈ (graph.reverseAll sources).targets node → Linked node target := by
  induction sources generalizing graph with
  | nil => exact edges
  | cons source sources ih =>
    refine ih fun node target member => ?_
    rcases mem_targets_addReversed.mp member with old | ⟨inside, rfl⟩
    · exact edges node target old
    · exact symm _ _ (edges _ _ inside)

theorem mem_reverseAll_of_mem (isSource : source ∈ sources) (edge : target ∈ graph.targets source) :
    source ∈ (graph.reverseAll sources).targets target := by
  induction sources generalizing graph with
  | nil => cases isSource
  | cons first sources ih =>
    rcases List.mem_cons.mp isSource with rfl | later
    · have added : source ∈ (graph.addReversed source (targets graph source)).targets target :=
        mem_targets_addReversed.mpr (.inr ⟨edge, rfl⟩)
      exact targets_subset_reverseAll sources added
    · exact ih later (mem_targets_addReversed.mpr (.inl edge))

theorem mem_keys_of_mem_targets (edge : target ∈ graph.targets source) : source ∈ graph.keys := by
  cases found : graph.get? source with
  | none =>
    rw [targets, found] at edge
    cases edge
  | some targets => exact (Dict.mem_keys_iff _ _).mpr ⟨targets, found⟩

theorem mem_targets_symmetric :
    target ∈ graph.symmetric.targets node ↔
      target ∈ graph.targets node ∨ node ∈ graph.targets target := by
  constructor
  · refine reverseAll_linked (fun _ _ => Or.symm) (fun _ _ => .inl) graph.keys node target
  · rintro (old | reverse)
    · exact targets_subset_reverseAll _ old
    · exact mem_reverseAll_of_mem (mem_keys_of_mem_targets reverse) reverse

theorem seenFrom_spec (graph : ModuleGraph) (selected : ProjectModuleId) :
    (graph.seenFrom selected).Nodup ∧ ∀ target, target ∈ graph.seenFrom selected ↔
      ReflTransGen (fun node target => target ∈ graph.targets node) selected target := by
  refine explore_spec graph.nodup (fun node some_ => ?_) selected (le_refl _)
  obtain ⟨target, edge⟩ := List.exists_mem_of_ne_nil _ some_
  exact mem_keys_of_mem_targets edge

end ModuleGraph

/-! ## The query -/

/-- `direction` of `FindImpact`. -/
inductive ImpactDirection where
  | upstream | downstream | both
  deriving DecidableEq, Repr

/-- `QueryHit`. -/
structure QueryHit where
  range : SourceRange
  symbolKind : Option String
  text : Option String
  deriving DecidableEq

/-- `SourcePosition(line=1, column=0)`. -/
def SourcePosition.first : SourcePosition := ⟨1, 0, le_refl 1⟩

theorem SourcePosition.first_not_before : ¬ SourcePosition.first.Before .first := by decide

namespace AnalysisIndex

/-- `_module_range`; the outer `none` is the validator of the range, which raises. -/
def moduleRange (analysis : AnalysisIndex) (moduleId : ProjectModuleId) :
    Option (Option SourceRange) :=
  match (analysis.modules.filter (·.moduleId = moduleId)).findSome? (·.filePaths.head?) with
  | none => some none
  | some path =>
    if safe : isRepoRelative path = true then
      some (some ⟨⟨path, safe⟩, .first, .first, SourcePosition.first_not_before⟩)
    else none

/-- `selected`: the module with this id, or else the first that exports the symbol. -/
def selectedModule (analysis : AnalysisIndex) (value : String) : Option ProjectModuleId :=
  (Dict.ofPairs (analysis.modules.map fun module_ =>
      (module_.moduleId.str, module_.moduleId))).get? value <|>
    (analysis.modules.find? (value ∈ ·.exportedSymbols)).map (·.moduleId)

/-- The ends of an import that leads to a module. -/
def importEnds (edge : ImportEdge) : Option (ProjectModuleId × ProjectModuleId) :=
  match edge.to_ with
  | some (.module_ moduleId) => some (edge.fromModule, moduleId)
  | _ => none

/-- `adjacency`. -/
def adjacency (analysis : AnalysisIndex) : ModuleGraph :=
  (analysis.imports.filterMap importEnds).foldl ModuleGraph.addEdge .empty

/-- `graph`. -/
def impactGraph (analysis : AnalysisIndex) : ImpactDirection → ModuleGraph
  | .downstream => analysis.adjacency
  | .upstream => analysis.adjacency.reversed
  | .both => analysis.adjacency.symmetric

/-- `sorted(seen, key=str)`. -/
def impactOrder (analysis : AnalysisIndex) (direction : ImpactDirection)
    (selected : ProjectModuleId) : List ProjectModuleId :=
  ((analysis.impactGraph direction).seenFrom selected).insertionSort fun left right =>
    pathLe left.str right.str

/-- The modules that have a range, beside it; `none` where a range raises. -/
def located (analysis : AnalysisIndex) :
    List ProjectModuleId → Option (List (ProjectModuleId × SourceRange))
  | [] => some []
  | moduleId :: rest => do
    let range ← analysis.moduleRange moduleId
    let others ← analysis.located rest
    return range.toList.map (moduleId, ·) ++ others

/-- The modules whose hits `_impact_hits` returns, beside their ranges. -/
def impactLocated (analysis : AnalysisIndex) (value : String) (direction : ImpactDirection) :
    Option (List (ProjectModuleId × SourceRange)) :=
  match analysis.selectedModule value with
  | none => some []
  | some selected => analysis.located (analysis.impactOrder direction selected)

/-- `_impact_hits`. -/
def impactHits (analysis : AnalysisIndex) (value : String) (direction : ImpactDirection) :
    Option (List QueryHit) :=
  (analysis.impactLocated value direction).map fun found =>
    found.map fun entry => ⟨entry.2, none, none⟩

/-- A module imports another. -/
def Imports (analysis : AnalysisIndex) (importer imported : ProjectModuleId) : Prop :=
  ∃ edge ∈ analysis.imports, edge.fromModule = importer ∧ edge.to_ = some (.module_ imported)

/-- `_impact_hits` returns one hit for each wanted module that has a range, and no other hit. -/
def Hits (analysis : AnalysisIndex) (value : String) (direction : ImpactDirection)
    (Wanted : ProjectModuleId → Prop) : Prop :=
  ∃ found, analysis.impactLocated value direction = some found ∧
    analysis.impactHits value direction = some (found.map fun entry => ⟨entry.2, none, none⟩) ∧
    (found.map (·.1)).Nodup ∧
    ∀ moduleId range, (moduleId, range) ∈ found ↔
      analysis.moduleRange moduleId = some (some range) ∧ Wanted moduleId

/-- The hits are exact in each of the directions. -/
structure ImpactExact (analysis : AnalysisIndex) (value : String) (selected : ProjectModuleId) :
    Prop where
  downstream : analysis.Hits value .downstream fun moduleId =>
    ReflTransGen analysis.Imports selected moduleId
  upstream : analysis.Hits value .upstream fun moduleId =>
    ReflTransGen analysis.Imports moduleId selected
  both : analysis.Hits value .both fun moduleId =>
    ReflTransGen analysis.Imports moduleId selected ∨ ReflTransGen analysis.Imports selected moduleId

/-- Imports lead from one module to the other, whichever way each of them is taken. -/
def Linked (analysis : AnalysisIndex) : ProjectModuleId → ProjectModuleId → Prop :=
  ReflTransGen fun module_ other => analysis.Imports module_ other ∨ analysis.Imports other module_

variable {analysis : AnalysisIndex} {value : String} {selected moduleId target : ProjectModuleId}
  {direction : ImpactDirection} {Wanted : ProjectModuleId → Prop} {range : SourceRange}

theorem mem_targets_adjacency :
    target ∈ analysis.adjacency.targets moduleId ↔ analysis.Imports moduleId target := by
  have nothing : target ∉ ModuleGraph.targets .empty moduleId := List.not_mem_nil
  rw [adjacency, ModuleGraph.mem_targets_addEdges, or_iff_right nothing, List.mem_filterMap]
  refine exists_congr fun edge => and_congr_right fun _ => ?_
  unfold importEnds
  split
  · next imported isModule => simp [isModule]
  · next other =>
    constructor
    · exact nofun
    · exact fun ends => absurd ends.2 (other target)

/-- What each direction reaches. -/
def Reaches (analysis : AnalysisIndex) (selected : ProjectModuleId) :
    ImpactDirection → ProjectModuleId → Prop
  | .downstream, moduleId => ReflTransGen analysis.Imports selected moduleId
  | .upstream, moduleId => ReflTransGen analysis.Imports moduleId selected
  | .both, moduleId => analysis.Linked selected moduleId

theorem mem_impactOrder :
    moduleId ∈ analysis.impactOrder direction selected ↔ analysis.Reaches selected direction moduleId := by
  rw [impactOrder, List.mem_insertionSort, (ModuleGraph.seenFrom_spec _ selected).2]
  cases direction with
  | downstream => simp only [impactGraph, mem_targets_adjacency, Reaches]
  | upstream =>
    simp only [impactGraph, ModuleGraph.mem_targets_reversed, mem_targets_adjacency, Reaches]
    exact reflTransGen_swap
  | both =>
    simp only [impactGraph, ModuleGraph.mem_targets_symmetric, mem_targets_adjacency, Reaches, Linked]

theorem nodup_impactOrder : (analysis.impactOrder direction selected).Nodup :=
  (List.perm_insertionSort _ _).nodup_iff.mpr (ModuleGraph.seenFrom_spec _ selected).1

theorem located_raises {ids : List ProjectModuleId} (member : moduleId ∈ ids)
    (raises : analysis.moduleRange moduleId = none) : analysis.located ids = none := by
  induction ids with
  | nil => cases member
  | cons first rest ih =>
    rw [located]
    rcases List.mem_cons.mp member with rfl | later
    · rw [raises]
      rfl
    · rw [ih later]
      cases analysis.moduleRange first with
      | none => rfl
      | some range => rfl

theorem located_spec {ids : List ProjectModuleId} (nodup : ids.Nodup)
    (readable : ∀ moduleId ∈ ids, analysis.moduleRange moduleId ≠ none) :
    ∃ found, analysis.located ids = some found ∧ (found.map (·.1)).Nodup ∧
      ∀ moduleId range, (moduleId, range) ∈ found ↔
        moduleId ∈ ids ∧ analysis.moduleRange moduleId = some (some range) := by
  induction ids with
  | nil => exact ⟨[], rfl, List.nodup_nil, by simp⟩
  | cons first rest ih =>
    obtain ⟨notInRest, nodupRest⟩ := List.nodup_cons.mp nodup
    obtain ⟨others, isLocated, once, exact_⟩ :=
      ih nodupRest fun moduleId member => readable moduleId (List.mem_cons_of_mem _ member)
    obtain ⟨range, isRange⟩ := Option.ne_none_iff_exists'.mp (readable first List.mem_cons_self)
    refine ⟨range.toList.map (first, ·) ++ others, by rw [located, isRange, isLocated]; rfl, ?_, ?_⟩
    · rw [List.map_append, List.nodup_append]
      refine ⟨by cases range <;> simp, once, ?_⟩
      rintro id isFirst _ isOther rfl
      have same : id = first := by
        cases range with
        | none => cases isFirst
        | some range => exact List.mem_singleton.mp isFirst
      obtain ⟨entry, member, rfl⟩ := List.mem_map.mp isOther
      exact notInRest (same ▸ ((exact_ entry.1 entry.2).mp member).1)
    · intro moduleId found
      rw [List.mem_append, exact_, List.mem_cons, or_and_right]
      refine or_congr ?_ Iff.rfl
      cases range with
      | none =>
        constructor
        · exact nofun
        · rintro ⟨rfl, there⟩
          rw [isRange] at there
          cases there
      | some range =>
        simp only [Option.toList_some, List.map_cons, List.map_nil, List.mem_singleton, Prod.mk.injEq]
        refine and_congr_right ?_
        rintro rfl
        rw [isRange, Option.some.injEq, Option.some.injEq, eq_comm]

theorem hits_iff (isSelected : analysis.selectedModule value = some selected) :
    analysis.Hits value direction Wanted ↔
      (∀ moduleId, analysis.Reaches selected direction moduleId →
        analysis.moduleRange moduleId ≠ none) ∧
      ∀ moduleId range, analysis.moduleRange moduleId = some (some range) →
        (analysis.Reaches selected direction moduleId ↔ Wanted moduleId) := by
  have traversed : analysis.impactLocated value direction =
      analysis.located (analysis.impactOrder direction selected) := by
    rw [impactLocated, isSelected]
  constructor
  · rintro ⟨found, isFound, -, -, wanted⟩
    rw [traversed] at isFound
    have readable : ∀ moduleId ∈ analysis.impactOrder direction selected,
        analysis.moduleRange moduleId ≠ none := by
      intro moduleId member raises
      rw [located_raises member raises] at isFound
      cases isFound
    refine ⟨fun moduleId reached => readable moduleId (mem_impactOrder.mpr reached),
      fun moduleId range isRange => ?_⟩
    obtain ⟨_, again, -, inOrder⟩ := located_spec nodup_impactOrder readable
    obtain rfl := Option.some.inj (again.symm.trans isFound)
    have both := (inOrder moduleId range).symm.trans (wanted moduleId range)
    rw [mem_impactOrder] at both
    simpa [isRange] using both
  · rintro ⟨readable, wanted⟩
    obtain ⟨found, isFound, once, inOrder⟩ := located_spec nodup_impactOrder
      fun moduleId member => readable moduleId (mem_impactOrder.mp member)
    refine ⟨found, traversed.trans isFound, ?_, once, fun moduleId range => ?_⟩
    · rw [impactHits, traversed, isFound, Option.map_some]
    · rw [inOrder, mem_impactOrder, and_comm]
      exact and_congr_right fun isRange => wanted moduleId range isRange

theorem Linked.of_reaches (reached : analysis.Reaches selected direction moduleId) :
    analysis.Linked selected moduleId := by
  cases direction with
  | downstream => exact ReflTransGen.mono (fun _ _ => Or.inl) _ _ reached
  | upstream => exact ReflTransGen.mono (fun _ _ => Or.inr) _ _ (reflTransGen_swap.mp reached)
  | both => exact reached

/-- The impact is exact exactly where the modules linked by imports, in either direction each time,
are those above and those below. -/
theorem impactExact_iff (isSelected : analysis.selectedModule value = some selected) :
    analysis.ImpactExact value selected ↔
      ∀ moduleId, analysis.Linked selected moduleId →
        analysis.moduleRange moduleId ≠ none ∧
        ∀ range, analysis.moduleRange moduleId = some (some range) →
          ReflTransGen analysis.Imports moduleId selected ∨
            ReflTransGen analysis.Imports selected moduleId := by
  constructor
  · rintro ⟨-, -, both⟩ moduleId linked
    obtain ⟨readable, wanted⟩ := (hits_iff isSelected).mp both
    exact ⟨readable moduleId linked, fun range isRange => (wanted moduleId range isRange).mp linked⟩
  · intro condition
    have readable : ∀ direction moduleId, analysis.Reaches selected direction moduleId →
        analysis.moduleRange moduleId ≠ none :=
      fun direction moduleId reached => (condition moduleId (.of_reaches reached)).1
    refine ⟨(hits_iff isSelected).mpr ⟨readable _, fun _ _ _ => Iff.rfl⟩,
      (hits_iff isSelected).mpr ⟨readable _, fun _ _ _ => Iff.rfl⟩,
      (hits_iff isSelected).mpr ⟨readable _, fun moduleId range isRange =>
        ⟨fun linked => (condition moduleId linked).2 range isRange, ?_⟩⟩⟩
    rintro (before | behind)
    · have reached : analysis.Reaches selected .upstream moduleId := before
      exact .of_reaches reached
    · have reached : analysis.Reaches selected .downstream moduleId := behind
      exact .of_reaches reached

/-- Two modules that import a third one. -/
def sharedImport : AnalysisIndex where
  capability := .full
  modules := [⟨⟨⟨1⟩, ["a.py"], .source⟩, ["a"]⟩, ⟨⟨⟨2⟩, ["b.py"], .source⟩, ["b"]⟩,
    ⟨⟨⟨3⟩, ["c.py"], .source⟩, ["c"]⟩]
  imports := [⟨⟨1⟩, some (.module_ ⟨3⟩)⟩, ⟨⟨2⟩, some (.module_ ⟨3⟩)⟩]
  symbolBindings := []
  referenceSites := []
  relationEdges := []

theorem impactExact_iff_of_sharedImport :
    sharedImport.selectedModule "c" = some ⟨3⟩ ∧
      (sharedImport.ImpactExact "c" ⟨3⟩ ↔
        ∀ moduleId, sharedImport.Linked ⟨3⟩ moduleId →
          sharedImport.moduleRange moduleId ≠ none ∧
          ∀ range, sharedImport.moduleRange moduleId = some (some range) →
            ReflTransGen sharedImport.Imports moduleId ⟨3⟩ ∨
              ReflTransGen sharedImport.Imports ⟨3⟩ moduleId) :=
  ⟨by decide +kernel, impactExact_iff (by decide +kernel)⟩

theorem sharedImport_not_exact :
    sharedImport.selectedModule "a" = some ⟨1⟩ ∧ ¬ sharedImport.ImpactExact "a" ⟨1⟩ := by
  have isSelected : sharedImport.selectedModule "a" = some ⟨1⟩ := by decide +kernel
  refine ⟨isSelected, fun isExact => ?_⟩
  have importers : ∀ importer imported, sharedImport.Imports importer imported →
      imported = ⟨3⟩ ∧ importer ≠ ⟨3⟩ := by
    rintro importer imported ⟨edge, member, rfl, target⟩
    simp only [sharedImport, List.mem_cons, List.not_mem_nil, or_false] at member
    rcases member with rfl | rfl
    · cases target
      decide
    · cases target
      decide
  -- the imported module leads from one importer to the other
  have linked : sharedImport.Linked ⟨1⟩ ⟨2⟩ :=
    .tail (.single (.inl ⟨⟨⟨1⟩, some (.module_ ⟨3⟩)⟩, by decide, rfl, rfl⟩))
      (.inr ⟨⟨⟨2⟩, some (.module_ ⟨3⟩)⟩, by decide, rfl, rfl⟩)
  have isRange : ∃ range, sharedImport.moduleRange ⟨2⟩ = some (some range) := ⟨_, rfl⟩
  obtain ⟨range, isRange⟩ := isRange
  rcases (((hits_iff isSelected).mp isExact.both).2 ⟨2⟩ range isRange).mp linked with path | path
  · rcases path.cases_tail with same | ⟨_, -, edge⟩
    · exact absurd same (by decide)
    · exact absurd (importers _ _ edge).1 (by decide)
  · rcases path.cases_tail with same | ⟨_, -, edge⟩
    · exact absurd same (by decide)
    · exact absurd (importers _ _ edge).1 (by decide)

end AnalysisIndex

end CodeMigrator
