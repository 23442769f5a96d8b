import CodeMigrator.Lib.Search
import CodeMigrator.Planning.Ledger

/-!
# Contract drift

`calculate_ripple` (`planning/ripple.py`): the modules that a change of some symbols reaches, and the
slices of a frozen plan that own one of them. Without a binding, reference or definition file the
modules that export a symbol are taken; this is asked once for all symbols together.
-/

namespace CodeMigrator
open Lib

/-! ## The analysis -/

/-- `AnalysisCapability` (`analysis/models.py`). -/
inductive AnalysisCapability where
  | full | textFallback
  deriving DecidableEq, Repr

/-- `ModuleFact` with the symbols it exports. -/
structure AnalyzedModule extends ModuleFact where
  exportedSymbols : List String
  deriving DecidableEq

/-- `ImportTarget`: a `ModuleTarget` or an `ExternalTarget`. -/
inductive ImportTarget where
  | module_ (moduleId : ProjectModuleId)
  | external (package : String)
  deriving DecidableEq

/-- `ImportEdge`. -/
structure ImportEdge where
  fromModule : ProjectModuleId
  to_ : Option ImportTarget
  deriving DecidableEq

/-- `SymbolBinding`; `definitionPath` is `definition.file_path`. -/
structure SymbolBinding where
  symbol : String
  definitionPath : RepoRelativePath
  ambiguous : Bool
  module_ : Option ProjectModuleId
  deriving DecidableEq

/-- `ReferenceSite`; `sitePath` is `site.file_path`. -/
structure ReferenceSite where
  symbol : String
  sitePath : RepoRelativePath
  ambiguous : Bool
  deriving DecidableEq

/-- The kinds of `RelationEdge`. -/
inductive RelationKind where
  | import_ | coverage | contains
  deriving DecidableEq, Repr

/-- `RelationEdge`; `shape` is `relation_shape_is_valid`. -/
structure RelationEdge where
  kind : RelationKind
  fromModule : Option ProjectModuleId
  toModule : ProjectModuleId
  filePath : Option RepoRelativePath
  shape : if kind = .contains then fromModule = none ∧ filePath ≠ none
    else fromModule ≠ none ∧ filePath = none
  deriving DecidableEq

/-- `AnalysisResult` (`analysis/models.py`), the fields the ripple reads. -/
structure AnalysisIndex where
  capability : AnalysisCapability
  modules : List AnalyzedModule
  imports : List ImportEdge
  symbolBindings : List SymbolBinding
  referenceSites : List ReferenceSite
  relationEdges : List RelationEdge

namespace AnalysisIndex

/-- `module_for_path`: the last module that lists a path has it. -/
def moduleForPath (analysis : AnalysisIndex) : Dict String ProjectModuleId :=
  Dict.ofPairs (analysis.modules.flatMap fun module_ =>
    module_.filePaths.map fun path => (path, module_.moduleId))

/-- The module of a binding, which is that of its definition file where it names none. -/
def bindingModule (analysis : AnalysisIndex) (binding : SymbolBinding) : Option ProjectModuleId :=
  binding.module_ <|> analysis.moduleForPath.get? binding.definitionPath.text

/-- The module of a reference. -/
def referenceModule (analysis : AnalysisIndex) (reference : ReferenceSite) :
    Option ProjectModuleId :=
  analysis.moduleForPath.get? reference.sitePath.text

/-- All modules with source code, where the analysis has no symbols to go by. -/
def fallbackModules (analysis : AnalysisIndex) : List ProjectModuleId :=
  if analysis.capability = .textFallback then
    (analysis.modules.filter (·.role = .source)).map (·.moduleId)
  else []

/-- `affected` before the lookup of the exports. -/
def directModules (analysis : AnalysisIndex) (symbols : List String) : List ProjectModuleId :=
  (analysis.symbolBindings.filter (·.symbol ∈ symbols)).filterMap analysis.bindingModule ++
    (analysis.referenceSites.filter (·.symbol ∈ symbols)).filterMap analysis.referenceModule ++
    analysis.fallbackModules

/-- The modules that export one of the symbols. -/
def exportingModules (analysis : AnalysisIndex) (symbols : List String) : List ProjectModuleId :=
  (analysis.modules.filter fun module_ =>
    module_.exportedSymbols.any (· ∈ symbols)).map (·.moduleId)

/-- `affected` before the closure: `if not affected` asks for the exports. -/
def seedModules (analysis : AnalysisIndex) (symbols : List String) : List ProjectModuleId :=
  if analysis.directModules symbols = [] then analysis.exportingModules symbols
  else analysis.directModules symbols

/-- `reverse[module]`: the modules that import or cover a module. -/
def dependents (analysis : AnalysisIndex) (module_ : ProjectModuleId) : List ProjectModuleId :=
  (analysis.imports.filter (·.to_ = some (.module_ module_))).map (·.fromModule) ++
    (analysis.relationEdges.filter fun relation =>
      (relation.kind = .import_ ∨ relation.kind = .coverage) ∧
        relation.toModule = module_).filterMap (·.fromModule)

/-- The modules at which an edge begins. -/
def edgeSources (analysis : AnalysisIndex) : List ProjectModuleId :=
  analysis.imports.map (·.fromModule) ++ analysis.relationEdges.filterMap (·.fromModule)

/-- `_reverse_import_closure`. -/
def reverseImportClosure (analysis : AnalysisIndex) (seeds : List ProjectModuleId) :
    List ProjectModuleId :=
  search analysis.dependents (seeds.dedup ++ analysis.edgeSources).length seeds.dedup seeds.dedup

/-- `affected` after the closure. -/
def affectedModules (analysis : AnalysisIndex) (symbols : List String) : List ProjectModuleId :=
  analysis.reverseImportClosure (analysis.seedModules symbols)

/-- `reasons`. -/
def degradationReasons (analysis : AnalysisIndex) (symbols : List String) : List String :=
  (if (analysis.symbolBindings.filter (·.symbol ∈ symbols)).any (·.ambiguous) then
    ["ambiguous SymbolBinding degraded to module closure"] else []) ++
  ((analysis.referenceSites.filter (·.symbol ∈ symbols)).filter fun reference =>
    (analysis.referenceModule reference).isSome && reference.ambiguous).map (fun reference =>
      "ambiguous ReferenceSite for " ++ reference.symbol ++ " degraded to module closure") ++
  (if analysis.capability = .textFallback then
    ["text-fallback analysis has no reliable symbol closure"] else []) ++
  (if analysis.seedModules symbols = [] then
    ["changed symbols have no PSF-2 binding; module closure is empty"] else [])

end AnalysisIndex

/-! ## The preview -/

/-- `RipplePreview`. -/
structure RipplePreview where
  affectedModules : List ProjectModuleId
  affectedSymbols : List String
  invalidatedSlices : List String
  rebuiltSlices : List String
  compensationSlices : List String
  estimatedSliceCount : Nat
  integrationRankDistribution : List (Int × Nat)
  degraded : Bool
  degradationReasons : List String
  deriving DecidableEq

/-- `sort_ref`: the rank first, then the reference. -/
def sortRefLe (left right : Int × String) : Prop :=
  left.1 < right.1 ∨ left.1 = right.1 ∧ pathLe left.2 right.2

instance : DecidableRel sortRefLe := fun _ _ => inferInstanceAs (Decidable (_ ∨ _))

/-- `sorted(refs, key=sort_ref)`. -/
def sortRefs (ranked : List (Int × String)) : List String :=
  (ranked.insertionSort sortRefLe).map (·.2)

/-- `affected_refs`: the slices with an affected module. -/
def PlanProposal.refsOwning (proposal : PlanProposal) (affected : List ProjectModuleId) :
    List String :=
  (proposal.slices.filter fun slice => slice.sourceModules.any (· ∈ affected)).map (·.localRef)

/-- The references beside their ranks; `none` is the `KeyError` of one without a rank. -/
def withRanks (ranks : Dict String Int) (refs : List String) : Option (List (Int × String)) :=
  refs.mapM fun ref => (ranks.get? ref).map (·, ref)

/-- How many references have each rank. -/
def rankDistribution (ranked : List (Int × String)) : List (Int × Nat) :=
  ((ranked.map (·.1)).dedup.insertionSort (· ≤ ·)).map fun rank =>
    (rank, (ranked.filter (·.1 = rank)).length)

/-- `calculate_ripple`; `none` is its `KeyError`. -/
def calculateRipple (plan : FrozenPlan) (analysis : AnalysisIndex) (changedSymbols : List String)
    (integratedSlices : List String) : Option RipplePreview := do
  let symbols := changedSymbols.dedup.insertionSort pathLe
  let affected := analysis.affectedModules symbols
  let integrated := integratedSlices.filter (· ∈ plan.localRefToId.keys)
  let ranked ← withRanks plan.proposal.integrationRanks (plan.proposal.refsOwning affected)
  let invalidated := sortRefs (ranked.filter (·.2 ∉ integrated))
  let compensation := sortRefs (ranked.filter (·.2 ∈ integrated))
  let reasons := analysis.degradationReasons symbols
  return {
    affectedModules := affected.insertionSort (fun left right => left.value ≤ right.value)
    affectedSymbols := symbols
    invalidatedSlices := invalidated
    rebuiltSlices := invalidated
    compensationSlices := compensation
    estimatedSliceCount := invalidated.length + compensation.length
    integrationRankDistribution := rankDistribution ranked
    degraded := reasons ≠ []
    degradationReasons := reasons.eraseDups }

/-- A frozen plan with a rank for each of its slices, as every plan has that `PlanLedger.freeze`
returns (`of_freeze`). -/
structure RankedPlan extends FrozenPlan where
  ranked : ∀ slice ∈ proposal.slices, slice.localRef ∈ proposal.integrationRanks.keys

theorem RankedPlan.of_freeze {isalnum : Char → Bool} {newUuid7 : Nat → UUID}
    {computePlanHash : FrozenFacts → Option Sha256} {ledger : PlanLedger} {proposal : PlanProposal}
    {inputs : PlanningInputs} {frozen : FrozenPlan}
    (froze : (ledger.freeze isalnum newUuid7 computePlanHash proposal inputs).2 = .ok frozen) :
    ∃ plan : RankedPlan, plan.toFrozenPlan = frozen :=
  ⟨⟨frozen, PlanLedger.freeze_ranked froze⟩, rfl⟩

/-! ## What the analysis reaches -/

namespace AnalysisIndex

variable {analysis : AnalysisIndex} {symbols first second : List String}
  {seeds : List ProjectModuleId} {module_ dependent : ProjectModuleId}

theorem mem_dependents :
    dependent ∈ analysis.dependents module_ ↔
      (∃ edge ∈ analysis.imports, edge.to_ = some (.module_ module_) ∧
        edge.fromModule = dependent) ∨
      ∃ relation ∈ analysis.relationEdges,
        (relation.kind = .import_ ∨ relation.kind = .coverage) ∧ relation.toModule = module_ ∧
          relation.fromModule = some dependent := by
  simp only [dependents, List.mem_append, List.mem_map, List.mem_filterMap, List.mem_filter,
    decide_eq_true_eq, and_assoc]

theorem dependents_sources (inside : dependent ∈ analysis.dependents module_) :
    dependent ∈ analysis.edgeSources := by
  rw [edgeSources, List.mem_append, List.mem_map, List.mem_filterMap]
  rcases mem_dependents.mp inside with ⟨edge, member, _, source⟩ | ⟨relation, member, _, _, source⟩
  · exact .inl ⟨edge, member, source⟩
  · exact .inr ⟨relation, member, source⟩

theorem mem_reverseImportClosure :
    module_ ∈ analysis.reverseImportClosure seeds ↔
      ReachedFrom analysis.dependents seeds module_ := by
  have inside : ∀ start ∈ seeds.dedup, start ∈ seeds.dedup ++ analysis.edgeSources :=
    fun _ => List.mem_append_left _
  have targets : ∀ node, ∀ successor ∈ analysis.dependents node,
      successor ∈ seeds.dedup ++ analysis.edgeSources :=
    fun _ _ isNext => List.mem_append_right _ (dependents_sources isNext)
  rw [reverseImportClosure, mem_search_iff seeds.nodup_dedup inside targets]
  simp only [ReachedFrom, List.mem_dedup]

theorem mem_affectedModules :
    module_ ∈ analysis.affectedModules symbols ↔
      ReachedFrom analysis.dependents (analysis.seedModules symbols) module_ :=
  mem_reverseImportClosure

theorem directModules_congr (same : ∀ symbol, symbol ∈ first ↔ symbol ∈ second) :
    analysis.directModules first = analysis.directModules second := by
  simp only [directModules, same]

theorem exportingModules_congr (same : ∀ symbol, symbol ∈ first ↔ symbol ∈ second) :
    analysis.exportingModules first = analysis.exportingModules second := by
  simp only [exportingModules, same]

theorem affectedModules_congr (same : ∀ symbol, symbol ∈ first ↔ symbol ∈ second) :
    analysis.affectedModules first = analysis.affectedModules second := by
  rw [affectedModules, affectedModules, seedModules, seedModules, directModules_congr same,
    exportingModules_congr same]

/-- A binding or a reference of the symbol is in the module. -/
def Touches (analysis : AnalysisIndex) (symbol : String) (module_ : ProjectModuleId) : Prop :=
  (∃ binding ∈ analysis.symbolBindings,
    binding.symbol = symbol ∧ analysis.bindingModule binding = some module_) ∨
  ∃ reference ∈ analysis.referenceSites,
    reference.symbol = symbol ∧ analysis.referenceModule reference = some module_

/-- The module exports the symbol. -/
def Exports (analysis : AnalysisIndex) (symbol : String) (module_ : ProjectModuleId) : Prop :=
  ∃ fact ∈ analysis.modules, symbol ∈ fact.exportedSymbols ∧ fact.moduleId = module_

theorem mem_directModules :
    module_ ∈ analysis.directModules symbols ↔
      (∃ symbol ∈ symbols, analysis.Touches symbol module_) ∨
        module_ ∈ analysis.fallbackModules := by
  simp only [directModules, Touches, List.mem_append, List.mem_filterMap, List.mem_filter,
    decide_eq_true_eq]
  constructor
  · rintro ((⟨binding, ⟨member, asked⟩, found⟩ | ⟨reference, ⟨member, asked⟩, found⟩) | all)
    · exact .inl ⟨_, asked, .inl ⟨binding, member, rfl, found⟩⟩
    · exact .inl ⟨_, asked, .inr ⟨reference, member, rfl, found⟩⟩
    · exact .inr all
  · rintro (⟨symbol, asked, ⟨binding, member, rfl, found⟩ | ⟨reference, member, rfl, found⟩⟩ | all)
    · exact .inl (.inl ⟨binding, ⟨member, asked⟩, found⟩)
    · exact .inl (.inr ⟨reference, ⟨member, asked⟩, found⟩)
    · exact .inr all

theorem mem_exportingModules :
    module_ ∈ analysis.exportingModules symbols ↔
      ∃ symbol ∈ symbols, analysis.Exports symbol module_ := by
  simp only [exportingModules, Exports, List.mem_map, List.mem_filter, List.any_eq_true,
    decide_eq_true_eq]
  constructor
  · rintro ⟨fact, ⟨member, symbol, exported, asked⟩, same⟩
    exact ⟨symbol, asked, fact, member, exported, same⟩
  · rintro ⟨symbol, asked, fact, member, exported, same⟩
    exact ⟨fact, ⟨member, symbol, exported, asked⟩, same⟩

theorem mem_directModules_append :
    module_ ∈ analysis.directModules (first ++ second) ↔
      module_ ∈ analysis.directModules first ∨ module_ ∈ analysis.directModules second := by
  simp only [mem_directModules, List.mem_append, or_and_right, exists_or]
  exact or_or_distrib_right

theorem mem_exportingModules_append :
    module_ ∈ analysis.exportingModules (first ++ second) ↔
      module_ ∈ analysis.exportingModules first ∨ module_ ∈ analysis.exportingModules second := by
  simp only [mem_exportingModules, List.mem_append, or_and_right, exists_or]

theorem directModules_append_eq_nil :
    analysis.directModules (first ++ second) = [] ↔
      analysis.directModules first = [] ∧ analysis.directModules second = [] := by
  simp only [List.eq_nil_iff_forall_not_mem, mem_directModules_append, not_or, forall_and]

/-- The analysis finds the module for the symbols, other than by their export. -/
def Finds (analysis : AnalysisIndex) (symbols : List String) (module_ : ProjectModuleId) : Prop :=
  (∃ symbol ∈ symbols, analysis.Touches symbol module_) ∨ module_ ∈ analysis.fallbackModules

/-- Where modules are found for the symbols of one list and none for those of the other, each module
that exports one of the latter depends on a module that was found. -/
def FallbackReached (analysis : AnalysisIndex) (found missed : List String) : Prop :=
  (∃ module_, analysis.Finds found module_) → (¬ ∃ module_, analysis.Finds missed module_) →
    ∀ symbol ∈ missed, ∀ module_, analysis.Exports symbol module_ →
      ∃ start, analysis.Finds found start ∧
        Relation.ReflTransGen (fun of_ dependent => dependent ∈ analysis.dependents of_)
          start module_

theorem directModules_ne_nil :
    analysis.directModules symbols ≠ [] ↔ ∃ module_, analysis.Finds symbols module_ := by
  constructor
  · intro found
    obtain ⟨module_, member⟩ := List.exists_mem_of_ne_nil _ found
    exact ⟨module_, mem_directModules.mp member⟩
  · rintro ⟨module_, found⟩
    exact List.ne_nil_of_mem (mem_directModules.mpr found)

theorem reachedFrom_directModules :
    ReachedFrom analysis.dependents (analysis.directModules symbols) module_ ↔
      ∃ start, analysis.Finds symbols start ∧
        Relation.ReflTransGen (fun of_ dependent => dependent ∈ analysis.dependents of_)
          start module_ := by
  unfold ReachedFrom
  simp only [mem_directModules, Finds]

theorem seedModules_append_of_iff
    (alike : analysis.directModules first = [] ↔ analysis.directModules second = []) :
    module_ ∈ analysis.seedModules (first ++ second) ↔
      module_ ∈ analysis.seedModules first ∨ module_ ∈ analysis.seedModules second := by
  by_cases empty : analysis.directModules first = []
  · rw [seedModules, seedModules, seedModules, if_pos empty, if_pos (alike.mp empty),
      if_pos (directModules_append_eq_nil.mpr ⟨empty, alike.mp empty⟩), mem_exportingModules_append]
  · have other := fun none => empty (alike.mpr none)
    rw [seedModules, seedModules, seedModules, if_neg empty, if_neg other,
      if_neg (fun both => empty (directModules_append_eq_nil.mp both).1), mem_directModules_append]

theorem seedModules_append_left (found : analysis.directModules first ≠ [])
    (missed : analysis.directModules second = []) :
    module_ ∈ analysis.seedModules (first ++ second) ↔ module_ ∈ analysis.directModules first := by
  rw [seedModules, if_neg (fun both => found (directModules_append_eq_nil.mp both).1),
    mem_directModules_append, missed]
  simp

theorem reachedFrom_congr {left right : List ProjectModuleId}
    (same : ∀ start, start ∈ left ↔ start ∈ right) :
    ReachedFrom analysis.dependents left module_ ↔
      ReachedFrom analysis.dependents right module_ := by
  simp only [ReachedFrom, same]

/-- The affected modules of two lists together are those of the one and of the other. -/
def Distributes (analysis : AnalysisIndex) (first second : List String) : Prop :=
  ∀ module_, module_ ∈ analysis.affectedModules (first ++ second) ↔
    module_ ∈ analysis.affectedModules first ∨ module_ ∈ analysis.affectedModules second

theorem distributes_of_alike
    (alike : analysis.directModules first = [] ↔ analysis.directModules second = []) :
    analysis.Distributes first second := by
  intro module_
  rw [mem_affectedModules, mem_affectedModules, mem_affectedModules, ← reachedFrom_append]
  apply reachedFrom_congr
  intro start
  rw [seedModules_append_of_iff alike, List.mem_append]

theorem distributes_iff_of_missed (found : analysis.directModules first ≠ [])
    (missed : analysis.directModules second = []) :
    analysis.Distributes first second ↔ analysis.FallbackReached first second := by
  have together : ∀ module_, module_ ∈ analysis.affectedModules (first ++ second) ↔
      ReachedFrom analysis.dependents (analysis.directModules first) module_ := by
    intro module_
    rw [mem_affectedModules]
    exact reachedFrom_congr fun start => seedModules_append_left found missed
  have alone : ∀ module_, module_ ∈ analysis.affectedModules first ↔
      ReachedFrom analysis.dependents (analysis.directModules first) module_ := by
    intro module_
    rw [mem_affectedModules, seedModules, if_neg found]
  have exported : ∀ module_, module_ ∈ analysis.affectedModules second ↔
      ReachedFrom analysis.dependents (analysis.exportingModules second) module_ := by
    intro module_
    rw [mem_affectedModules, seedModules, if_pos missed]
  have isFound := directModules_ne_nil.mp found
  have isMissed : ¬ ∃ module_, analysis.Finds second module_ :=
    fun other => directModules_ne_nil.mpr other missed
  unfold Distributes
  simp only [together, alone, exported]
  constructor
  · intro distributes _ _ symbol asked module_ exports_
    have isSeed := mem_exportingModules.mpr ⟨symbol, asked, exports_⟩
    exact reachedFrom_directModules.mp ((distributes module_).mpr (.inr (ReachedFrom.of_mem isSeed)))
  · intro reached module_
    constructor
    · exact .inl
    · rintro (fromFirst | fromSecond)
      · exact fromFirst
      · apply fromSecond.trans
        intro start isSeed
        obtain ⟨symbol, asked, exports_⟩ := mem_exportingModules.mp isSeed
        exact reachedFrom_directModules.mpr (reached isFound isMissed symbol asked start exports_)

theorem distributes_comm : analysis.Distributes first second ↔ analysis.Distributes second first := by
  have same : analysis.affectedModules (first ++ second) =
      analysis.affectedModules (second ++ first) := by
    apply affectedModules_congr
    intro symbol
    rw [List.mem_append, List.mem_append, or_comm]
  unfold Distributes
  rw [same]
  exact forall_congr' fun module_ => by rw [or_comm]

theorem distributes_iff :
    analysis.Distributes first second ↔
      analysis.FallbackReached first second ∧ analysis.FallbackReached second first := by
  by_cases left : analysis.directModules first = []
  · have idle : analysis.FallbackReached first second :=
      fun found => absurd left (directModules_ne_nil.mpr found)
    by_cases right : analysis.directModules second = []
    · have idle' : analysis.FallbackReached second first :=
        fun found => absurd right (directModules_ne_nil.mpr found)
      exact ⟨fun _ => ⟨idle, idle'⟩, fun _ => distributes_of_alike (iff_of_true left right)⟩
    · rw [distributes_comm, distributes_iff_of_missed right left]
      exact ⟨fun reached => ⟨idle, reached⟩, And.right⟩
  · by_cases right : analysis.directModules second = []
    · have idle : analysis.FallbackReached second first :=
        fun found => absurd right (directModules_ne_nil.mpr found)
      rw [distributes_iff_of_missed left right]
      exact ⟨fun reached => ⟨reached, idle⟩, And.left⟩
    · have idle : analysis.FallbackReached first second :=
        fun _ missed => absurd (directModules_ne_nil.mp right) missed
      have idle' : analysis.FallbackReached second first :=
        fun _ missed => absurd (directModules_ne_nil.mp left) missed
      exact ⟨fun _ => ⟨idle, idle'⟩, fun _ => distributes_of_alike (iff_of_false left right)⟩

/-- No edge leads out of the modules. -/
structure Closed (analysis : AnalysisIndex) (modules : List ProjectModuleId) : Prop where
  imports : ∀ edge ∈ analysis.imports, ∀ target ∈ modules,
    edge.to_ = some (.module_ target) → edge.fromModule ∈ modules
  relations : ∀ relation ∈ analysis.relationEdges,
    relation.kind = .import_ ∨ relation.kind = .coverage → relation.toModule ∈ modules →
      ∀ source, relation.fromModule = some source → source ∈ modules

theorem affectedModules_closed (analysis : AnalysisIndex) (symbols : List String) :
    analysis.Closed (analysis.affectedModules symbols) := by
  have step : ∀ module_ ∈ analysis.affectedModules symbols,
      ∀ dependent ∈ analysis.dependents module_, dependent ∈ analysis.affectedModules symbols := by
    intro module_ affected dependent next
    rw [mem_affectedModules] at affected ⊢
    exact affected.step next
  constructor
  · intro edge member target affected resolved
    exact step target affected _ (mem_dependents.mpr (.inl ⟨edge, member, resolved, rfl⟩))
  · intro relation member kind affected source isSource
    exact step _ affected _ (mem_dependents.mpr (.inr ⟨relation, member, kind, rfl, isSource⟩))

end AnalysisIndex

/-! ## What the preview says -/

/-- The previewed modules are closed under the edges, and each slice that owns one of them is listed
once: among the compensation slices, or among the invalidated ones. -/
structure RipplePreview.Sound (preview : RipplePreview) (plan : FrozenPlan)
    (analysis : AnalysisIndex) : Prop where
  closed : analysis.Closed preview.affectedModules
  partition : (preview.invalidatedSlices ++ preview.compensationSlices).Perm
    (plan.proposal.refsOwning preview.affectedModules)
  once : (preview.invalidatedSlices ++ preview.compensationSlices).Nodup

/-- The previews of two lists of symbols and of both together: all are sound, and the affected
modules of the last are those of the first two. -/
def RippleDistributes (plan : FrozenPlan) (analysis : AnalysisIndex) (first second : List String)
    (integratedSlices : List String) : Prop :=
  ∃ left right both, calculateRipple plan analysis first integratedSlices = some left ∧
    calculateRipple plan analysis second integratedSlices = some right ∧
    calculateRipple plan analysis (first ++ second) integratedSlices = some both ∧
    left.Sound plan analysis ∧ right.Sound plan analysis ∧ both.Sound plan analysis ∧
    ∀ module_, module_ ∈ both.affectedModules ↔
      module_ ∈ left.affectedModules ∨ module_ ∈ right.affectedModules

theorem withRanks_total {ranks : Dict String Int} {refs : List String}
    (total : ∀ ref ∈ refs, ref ∈ ranks.keys) :
    ∃ ranked, withRanks ranks refs = some ranked ∧ ranked.map (·.2) = refs := by
  induction refs with
  | nil => exact ⟨[], rfl, rfl⟩
  | cons ref rest ih =>
    obtain ⟨ranked, done, same⟩ := ih fun other member => total other (List.mem_cons_of_mem _ member)
    obtain ⟨rank, found⟩ := (Dict.mem_keys_iff ranks ref).mp (total ref List.mem_cons_self)
    refine ⟨(rank, ref) :: ranked, ?_, by rw [List.map_cons, same]⟩
    unfold withRanks at done ⊢
    rw [List.mapM_cons, done, found]
    rfl

theorem sortRefs_perm (ranked : List (Int × String)) : (sortRefs ranked).Perm (ranked.map (·.2)) :=
  (List.perm_insertionSort _ ranked).map _

theorem sortRefs_partition (ranked : List (Int × String)) (integrated : List String) :
    (sortRefs (ranked.filter (·.2 ∉ integrated)) ++
      sortRefs (ranked.filter (·.2 ∈ integrated))).Perm (ranked.map (·.2)) := by
  have parts : (ranked.filter (·.2 ∉ integrated) ++ ranked.filter (·.2 ∈ integrated)).Perm ranked := by
    have split := List.filter_append_perm (fun entry : Int × String => entry.2 ∈ integrated) ranked
    simp only [← decide_not] at split
    exact List.perm_append_comm.trans split
  have sorted := (sortRefs_perm (ranked.filter (·.2 ∉ integrated))).append
    (sortRefs_perm (ranked.filter (·.2 ∈ integrated)))
  rw [← List.map_append] at sorted
  exact sorted.trans (parts.map _)

variable {left right : List ProjectModuleId}

theorem PlanProposal.refsOwning_congr (proposal : PlanProposal)
    (same : ∀ module_, module_ ∈ left ↔ module_ ∈ right) :
    proposal.refsOwning left = proposal.refsOwning right := by
  simp only [refsOwning, same]

theorem PlanProposal.refsOwning_nodup (proposal : PlanProposal) (affected : List ProjectModuleId) :
    (proposal.refsOwning affected).Nodup :=
  proposal.localRefsAreUnique.sublist (List.filter_sublist.map _)

theorem AnalysisIndex.Closed.congr {analysis : AnalysisIndex} (closed : analysis.Closed left)
    (same : ∀ module_, module_ ∈ left ↔ module_ ∈ right) : analysis.Closed right := by
  constructor
  · intro edge member target affected resolved
    exact (same _).mp (closed.imports edge member target ((same _).mpr affected) resolved)
  · intro relation member kind affected source isSource
    exact (same _).mp (closed.relations relation member kind ((same _).mpr affected) source isSource)

theorem calculateRipple_sound (plan : RankedPlan) (analysis : AnalysisIndex)
    (changedSymbols integratedSlices : List String) :
    ∃ preview, calculateRipple plan.toFrozenPlan analysis changedSymbols integratedSlices =
        some preview ∧ preview.Sound plan.toFrozenPlan analysis ∧
      ∀ module_, module_ ∈ preview.affectedModules ↔
        module_ ∈ analysis.affectedModules changedSymbols := by
  have symbols : ∀ symbol, symbol ∈ changedSymbols.dedup.insertionSort pathLe ↔
      symbol ∈ changedSymbols := by
    intro symbol
    rw [List.mem_insertionSort, List.mem_dedup]
  have affected : analysis.affectedModules (changedSymbols.dedup.insertionSort pathLe) =
      analysis.affectedModules changedSymbols := AnalysisIndex.affectedModules_congr symbols
  have sorted : ∀ module_, module_ ∈ (analysis.affectedModules changedSymbols).insertionSort
      (fun left right => left.value ≤ right.value) ↔
        module_ ∈ analysis.affectedModules changedSymbols :=
    fun module_ => List.mem_insertionSort _
  have total : ∀ ref ∈ plan.proposal.refsOwning (analysis.affectedModules changedSymbols),
      ref ∈ plan.proposal.integrationRanks.keys := by
    intro ref member
    obtain ⟨slice, owning, rfl⟩ := List.mem_map.mp member
    exact plan.ranked slice (List.mem_of_mem_filter owning)
  obtain ⟨ranked, done, refs⟩ := withRanks_total total
  unfold calculateRipple
  simp only [affected, done]
  refine ⟨_, rfl, ?_, sorted⟩
  have parts := sortRefs_partition ranked
    (integratedSlices.filter (· ∈ plan.localRefToId.keys))
  rw [refs, ← plan.proposal.refsOwning_congr sorted] at parts
  constructor
  · exact (analysis.affectedModules_closed changedSymbols).congr fun module_ => (sorted module_).symm
  · exact parts
  · exact parts.nodup_iff.mpr (plan.proposal.refsOwning_nodup _)

/-- The ripple of two lists of symbols together is that of the one and of the other exactly when the
exports of symbols that are not found are reached all the same. -/
theorem rippleDistributes_iff (plan : RankedPlan) (analysis : AnalysisIndex)
    (first second integratedSlices : List String) :
    RippleDistributes plan.toFrozenPlan analysis first second integratedSlices ↔
      analysis.FallbackReached first second ∧ analysis.FallbackReached second first := by
  obtain ⟨left, leftDone, leftSound, leftModules⟩ :=
    calculateRipple_sound plan analysis first integratedSlices
  obtain ⟨right, rightDone, rightSound, rightModules⟩ :=
    calculateRipple_sound plan analysis second integratedSlices
  obtain ⟨both, bothDone, bothSound, bothModules⟩ :=
    calculateRipple_sound plan analysis (first ++ second) integratedSlices
  rw [← AnalysisIndex.distributes_iff]
  unfold AnalysisIndex.Distributes RippleDistributes
  simp only [leftDone, rightDone, bothDone, Option.some.injEq]
  constructor
  · rintro ⟨_, _, _, rfl, rfl, rfl, _, _, _, distributes⟩ module_
    rw [← bothModules, ← leftModules, ← rightModules]
    exact distributes module_
  · intro distributes
    refine ⟨left, right, both, rfl, rfl, rfl, leftSound, rightSound, bothSound, ?_⟩
    intro module_
    rw [bothModules, leftModules, rightModules]
    exact distributes module_

namespace TwoSlices

/-- The plan of the two slices with its ranks. -/
def rankedApart : RankedPlan := { frozenApart with ranked := by decide }

/-- The one symbol has a binding; of the other only the export is known. -/
def drifted : AnalysisIndex where
  capability := .full
  modules := [⟨⟨⟨1⟩, ["src/a.ts"], .source⟩, ["User"]⟩, ⟨⟨⟨2⟩, ["src/b.ts"], .source⟩, ["Order"]⟩]
  imports := []
  symbolBindings := [⟨"User", ⟨"src/a.ts", by decide⟩, false, some ⟨1⟩⟩]
  referenceSites := []
  relationEdges := []

/-- Asked for alone the second symbol invalidates its slice; asked for with the first it does not. -/
theorem export_forgotten :
    (calculateRipple rankedApart.toFrozenPlan drifted ["Order"] []).map (·.invalidatedSlices) =
        some ["B"] ∧
      (calculateRipple rankedApart.toFrozenPlan drifted ["User", "Order"] []).map
        (·.invalidatedSlices) = some ["A"] ∧
      ¬ RippleDistributes rankedApart.toFrozenPlan drifted ["User"] ["Order"] [] := by
  refine ⟨by decide, by decide, ?_⟩
  intro distributes
  obtain ⟨left, right, both, _, rightDone, bothDone, _, _, _, modules⟩ := distributes
  have alone : (calculateRipple rankedApart.toFrozenPlan drifted ["Order"] []).map
      (·.affectedModules) = some [⟨2⟩] := by decide
  have together : (calculateRipple rankedApart.toFrozenPlan drifted ["User", "Order"] []).map
      (·.affectedModules) = some [⟨1⟩] := by decide
  rw [rightDone, Option.map_some, Option.some.injEq] at alone
  rw [List.cons_append, List.nil_append] at bothDone
  rw [bothDone, Option.map_some, Option.some.injEq] at together
  have second := (modules ⟨2⟩).mpr (.inr (by rw [alone]; simp))
  rw [together] at second
  simp at second

end TwoSlices

end CodeMigrator
