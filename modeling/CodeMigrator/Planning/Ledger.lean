import CodeMigrator.Lib.Sequence
import CodeMigrator.Planning.Exclusivity

/-!
# Freezing an accepted plan

`PlanLedger.freeze` of `planning/validator.py`: ids replace the local references and
the slices get their integration order. The order puts the lower rank first and
compares the bytes of the ids at equal ranks; the guards of the validator make it a
topological order of the frozen edges.
-/

namespace CodeMigrator
open Lib

/-- The exceptions of `PlanLedger.freeze`. -/
inductive FreezeError where
  /-- `PlanRejected` with the validation that failed. -/
  | planRejected (validation : PlanValidation)
  /-- The `KeyError` of a local reference without an entry. -/
  | keyError (ref : String)
  /-- The `CanonicalizationError` of the plan's canonical JSON. -/
  | notCanonical
  deriving DecidableEq

/-- `PlanLedger`; `issued` counts the calls of `new_uuid7` so far. -/
structure PlanLedger where
  validator : PlanValidator
  records : List FrozenPlan
  issued : Nat
  deriving DecidableEq

/-- `d[ref]`. -/
def lookupRef {α : Type} (d : Dict String α) (ref : String) : Except FreezeError α :=
  match d.get? ref with
  | some value => .ok value
  | none => .error (.keyError ref)

/-- `normalize_repo_relative_paths` on paths that are safe already. -/
def normalizePaths (paths : List RepoRelativePath) : List RepoRelativePath :=
  paths.dedup.insertionSort (fun left right => pathLe left.text right.text)

/-- The order of integration keys as Python tuples. -/
def keyLe (left right : Int × Nat) : Prop :=
  left.1 < right.1 ∨ left.1 = right.1 ∧ left.2 ≤ right.2

instance : DecidableRel keyLe := fun _ _ => inferInstanceAs (Decidable (_ ∨ _))

section Freeze

variable (isalnum : Char → Bool) (newUuid7 : Nat → UUID)
  (computePlanHash : FrozenFacts → Option Sha256)

/-- `local_ref_to_id`: the ids are handed out in the order of the slices. -/
def allocateIds (issued : Nat) (proposal : PlanProposal) : Dict String SliceId :=
  Dict.ofPairs ((proposal.refs.zipIdx issued).map (fun (ref, call) => (ref, newUuid7 call)))

/-- One frozen slice. -/
def freezeSlice (ids : Dict String SliceId) (ranks : Dict String Int)
    (slice : PlanSliceProposal) : Except FreezeError MigrationSlice := do
  let id ← lookupRef ids slice.localRef
  let rank ← lookupRef ranks slice.localRef
  return {
    id := id
    kind := slice.kind
    sourceModules := slice.sourceModules
    writeScope := ⟨⟨normalizePaths slice.writePaths, normalizePaths slice.createRoots⟩⟩
    requiredChecks := slice.requiredChecks
    integrationRank := rank }

/-- One frozen edge. -/
def freezeEdge (ids : Dict String SliceId) (edge : PlanEdgeProposal) :
    Except FreezeError PlanEdge := do
  let source ← lookupRef ids edge.from_
  let target ← lookupRef ids edge.to_
  return ⟨source, target, edge.kind⟩

/-- The sort key of a local reference, with the id it stands for. -/
def orderEntry (ids : Dict String SliceId) (ranks : Dict String Int) (ref : String) :
    Except FreezeError ((Int × Nat) × SliceId) := do
  let rank ← lookupRef ranks ref
  let id ← lookupRef ids ref
  return (integrationKey rank id, id)

/-- The `sorted` of the local references by their integration keys. -/
def sortEntries (entries : List ((Int × Nat) × SliceId)) : List ((Int × Nat) × SliceId) :=
  entries.insertionSort (fun left right => keyLe left.1 right.1)

/-- `frozen_without_hash`. -/
def freezeFacts (validation : PlanValidation) (ids : Dict String SliceId)
    (proposal : PlanProposal) (inputs : PlanningInputs) : Except FreezeError FrozenFacts := do
  let slices ← proposal.slices.mapM (freezeSlice ids proposal.integrationRanks)
  let edges ← proposal.edges.mapM (freezeEdge ids)
  let entries ← ids.keys.mapM (orderEntry ids proposal.integrationRanks)
  return {
    snapshotOid := inputs.snapshotOid
    slices := slices
    edges := edges
    edgeProvenance := proposal.edges.map (·.provenance)
    edgeEvidence := proposal.edges.map (fun edge => (edge.unknownReason, edge.evidenceLocation))
    validation := validation
    integrationOrder := (sortEntries entries).map (·.2)
    localRefToId := ids
    artifactTasks := Dict.ofPairs ((proposal.slices.filter (fun slice => slice.artifactTasks ≠ [])).map
      (fun slice => (slice.localRef, slice.artifactTasks)))
    proposal := proposal }

/-- `PlanLedger.freeze`: the ledger afterwards and the plan or the exception. -/
def PlanLedger.freeze (ledger : PlanLedger) (proposal : PlanProposal) (inputs : PlanningInputs) :
    PlanLedger × Except FreezeError FrozenPlan :=
  let validation := ledger.validator.validate isalnum proposal inputs
  if validation.accepted = false then (ledger, .error (.planRejected validation))
  else
    let ids := allocateIds newUuid7 ledger.issued proposal
    let advanced := { ledger with issued := ledger.issued + proposal.slices.length }
    match freezeFacts validation ids proposal inputs with
    | .error error => (advanced, .error error)
    | .ok facts =>
      match computePlanHash facts with
      | none => (advanced, .error .notCanonical)
      | some planHash =>
        let frozen : FrozenPlan := { facts with planHash := planHash }
        ({ advanced with records := ledger.records ++ [frozen] }, .ok frozen)

end Freeze

/-! ## Lookups -/

theorem lookupRef_ok {α : Type} {d : Dict String α} {ref : String} {value : α} :
    lookupRef d ref = .ok value ↔ d.get? ref = some value := by
  unfold lookupRef
  cases found : d.get? ref with
  | none => simp
  | some other => simp

theorem freezeSlice_ok {ids : Dict String SliceId} {ranks : Dict String Int}
    {slice : PlanSliceProposal} {frozen : MigrationSlice}
    (done : freezeSlice ids ranks slice = .ok frozen) :
    ids.get? slice.localRef = some frozen.id ∧
      ranks.get? slice.localRef = some frozen.integrationRank := by
  obtain ⟨id, named, done⟩ := except_bind_eq_ok done
  obtain ⟨rank, ranked, done⟩ := except_bind_eq_ok done
  cases done
  exact ⟨lookupRef_ok.mp named, lookupRef_ok.mp ranked⟩

theorem freezeEdge_ok {ids : Dict String SliceId} {edge : PlanEdgeProposal} {frozen : PlanEdge}
    (done : freezeEdge ids edge = .ok frozen) :
    ids.get? edge.from_ = some frozen.from_ ∧ ids.get? edge.to_ = some frozen.to_ := by
  obtain ⟨source, from_, done⟩ := except_bind_eq_ok done
  obtain ⟨target, to_, done⟩ := except_bind_eq_ok done
  cases done
  exact ⟨lookupRef_ok.mp from_, lookupRef_ok.mp to_⟩

theorem orderEntry_ok {ids : Dict String SliceId} {ranks : Dict String Int} {ref : String}
    {entry : (Int × Nat) × SliceId} (done : orderEntry ids ranks ref = .ok entry) :
    ids.get? ref = some entry.2 ∧
      ∃ rank, ranks.get? ref = some rank ∧ entry.1 = integrationKey rank entry.2 := by
  obtain ⟨rank, ranked, done⟩ := except_bind_eq_ok done
  obtain ⟨id, named, done⟩ := except_bind_eq_ok done
  cases done
  exact ⟨lookupRef_ok.mp named, rank, lookupRef_ok.mp ranked, rfl⟩

theorem ids_of_traversal {α β : Type} {f : α → Except FreezeError β} {ref : α → String}
    {id : β → SliceId} {ids : Dict String SliceId} {xs : List α} {ys : List β}
    (found : ∀ x y, f x = .ok y → ids.get? (ref x) = some (id y)) (done : xs.mapM f = .ok ys) :
    (ys.map id).map some = (xs.map ref).map ids.get? := by
  have related := (mapM_eq_ok_iff f xs ys).mp done
  induction related with
  | nil => rfl
  | cons first _ ih =>
    simp only [List.map_cons, found _ _ first]
    rw [List.cons.injEq]
    exact ⟨rfl, ih ((mapM_eq_ok_iff ..).mpr ‹_›)⟩

/-! ## The ids -/

section Ids

variable (newUuid7 : Nat → UUID) (issued : Nat) (proposal : PlanProposal)

/-- The first `calls` calls of `new_uuid7` return different ids. -/
def NeverRepeats (calls : Nat) : Prop :=
  ∀ i < calls, ∀ j < calls, newUuid7 i = newUuid7 j → i = j

theorem allocateIds_entries :
    (allocateIds newUuid7 issued proposal).entries =
      (proposal.refs.zipIdx issued).map (fun (ref, call) => (ref, newUuid7 call)) := by
  apply Dict.ofPairs_entries
  have keys : ((proposal.refs.zipIdx issued).map (fun (ref, call) => (ref, newUuid7 call))).map
      Prod.fst = proposal.refs := by
    rw [List.map_map]
    exact List.zipIdx_map_fst issued proposal.refs
  rw [keys]
  exact proposal.localRefsAreUnique

@[simp] theorem allocateIds_keys : (allocateIds newUuid7 issued proposal).keys = proposal.refs := by
  rw [Dict.keys, allocateIds_entries, List.map_map]
  exact List.zipIdx_map_fst issued proposal.refs

theorem allocateIds_injective (unique : NeverRepeats newUuid7 (issued + proposal.slices.length))
    (ref other : String) (id : SliceId)
    (first : (allocateIds newUuid7 issued proposal).get? ref = some id)
    (second : (allocateIds newUuid7 issued proposal).get? other = some id) : ref = other := by
  rw [Dict.get?_eq_some_iff, allocateIds_entries, List.mem_map] at first second
  obtain ⟨⟨name, call⟩, member, equal⟩ := first
  obtain ⟨⟨name', call'⟩, member', equal'⟩ := second
  obtain ⟨rfl, rfl⟩ := Prod.mk.inj equal
  obtain ⟨rfl, sameId⟩ := Prod.mk.inj equal'
  have inRange : ∀ {name : String} {call : Nat}, (name, call) ∈ proposal.refs.zipIdx issued →
      call < issued + proposal.slices.length := by
    intro name call member
    have bound := List.snd_lt_add_of_mem_zipIdx member
    simp only [PlanProposal.refs, List.length_map] at bound
    omega
  -- the calls are the same, so are the positions among the slices
  obtain rfl := unique _ (inRange member') _ (inRange member) sameId
  rw [List.mk_mem_zipIdx_iff_le_and_getElem?_sub] at member member'
  exact Option.some.inj (member.2.symm.trans member'.2)

end Ids

/-! ## The integration order -/

instance : IsTrans ((Int × Nat) × SliceId) (fun left right => keyLe left.1 right.1) where
  trans a b c := by
    unfold keyLe
    omega

instance : Std.Total (fun (left right : (Int × Nat) × SliceId) => keyLe left.1 right.1) where
  total a b := by
    unfold keyLe
    omega

theorem sortEntries_sorted (entries : List ((Int × Nat) × SliceId)) :
    (sortEntries entries).Pairwise (fun left right => keyLe left.1 right.1) :=
  List.pairwise_insertionSort _ entries

theorem mem_sortEntries {entries : List ((Int × Nat) × SliceId)} {entry : (Int × Nat) × SliceId} :
    entry ∈ sortEntries entries ↔ entry ∈ entries :=
  (List.perm_insertionSort _ entries).mem_iff

theorem Accepted.ranks_increase {isalnum : Char → Bool} {validator : PlanValidator}
    {proposal : PlanProposal} {inputs : PlanningInputs}
    (accepted : Accepted isalnum validator proposal inputs) {edge : PlanEdgeProposal}
    (member : edge ∈ proposal.edges) (fromSlice : edge.from_ ∈ proposal.refs)
    (toSlice : edge.to_ ∈ proposal.refs) {low high : Int}
    (rankFrom : proposal.integrationRanks.get? edge.from_ = some low)
    (rankTo : proposal.integrationRanks.get? edge.to_ = some high) : low < high :=
  validateRanks_increase accepted.ranks member fromSlice toSlice rankFrom rankTo

theorem freezeFacts_ok {validation : PlanValidation} {ids : Dict String SliceId}
    {proposal : PlanProposal} {inputs : PlanningInputs} {facts : FrozenFacts}
    (done : freezeFacts validation ids proposal inputs = .ok facts) :
    ∃ entries, proposal.slices.mapM (freezeSlice ids proposal.integrationRanks) = .ok facts.slices ∧
      proposal.edges.mapM (freezeEdge ids) = .ok facts.edges ∧
      ids.keys.mapM (orderEntry ids proposal.integrationRanks) = .ok entries ∧
      facts.integrationOrder = (sortEntries entries).map (·.2) ∧ facts.localRefToId = ids ∧
      facts.proposal = proposal := by
  obtain ⟨slices, frozenSlices, done⟩ := except_bind_eq_ok done
  obtain ⟨edges, frozenEdges, done⟩ := except_bind_eq_ok done
  obtain ⟨entries, order, done⟩ := except_bind_eq_ok done
  cases done
  exact ⟨entries, frozenSlices, frozenEdges, order, rfl, rfl, rfl⟩

theorem PlanLedger.freeze_ok {isalnum : Char → Bool} {newUuid7 : Nat → UUID}
    {computePlanHash : FrozenFacts → Option Sha256} {ledger : PlanLedger} {proposal : PlanProposal}
    {inputs : PlanningInputs} {frozen : FrozenPlan}
    (froze : (ledger.freeze isalnum newUuid7 computePlanHash proposal inputs).2 = .ok frozen) :
    Accepted isalnum ledger.validator proposal inputs ∧
      freezeFacts (ledger.validator.validate isalnum proposal inputs)
        (allocateIds newUuid7 ledger.issued proposal) proposal inputs =
          .ok frozen.toFrozenFacts := by
  unfold PlanLedger.freeze at froze
  cases accepted : (ledger.validator.validate isalnum proposal inputs).accepted with
  | false => simp [accepted] at froze
  | true =>
    refine ⟨Accepted.of_validate accepted, ?_⟩
    cases facts : freezeFacts (ledger.validator.validate isalnum proposal inputs)
        (allocateIds newUuid7 ledger.issued proposal) proposal inputs with
    | error e => simp [accepted, facts] at froze
    | ok value =>
      cases hash : computePlanHash value with
      | none => simp [accepted, facts, hash] at froze
      | some planHash =>
        simp only [accepted, facts, hash, Bool.true_eq_false, if_false,
          Except.ok.injEq] at froze
        rw [← froze]

theorem sortEntries_entry {ids : Dict String SliceId} {ranks : Dict String Int} {refs : List String}
    {entries : List ((Int × Nat) × SliceId)}
    (order : refs.mapM (orderEntry ids ranks) = .ok entries) {ref : String} {id : SliceId}
    (member : ref ∈ refs) (found : ids.get? ref = some id) :
    ∃ rank, ranks.get? ref = some rank ∧ (integrationKey rank id, id) ∈ sortEntries entries := by
  obtain ⟨⟨key, value⟩, inEntries, done⟩ := mapM_result order member
  obtain ⟨sameId, rank, hasRank, sameKey⟩ := orderEntry_ok done
  obtain rfl : id = value := Option.some.inj (found.symm.trans sameId)
  refine ⟨rank, hasRank, ?_⟩
  rw [mem_sortEntries, ← sameKey]
  exact inEntries

theorem PlanLedger.freeze_ids {isalnum : Char → Bool} {newUuid7 : Nat → UUID}
    {computePlanHash : FrozenFacts → Option Sha256} {ledger : PlanLedger} {proposal : PlanProposal}
    {inputs : PlanningInputs} {frozen : FrozenPlan}
    (froze : (ledger.freeze isalnum newUuid7 computePlanHash proposal inputs).2 = .ok frozen) :
    (frozen.slices.map (·.id)).map some =
      proposal.refs.map (allocateIds newUuid7 ledger.issued proposal).get? := by
  obtain ⟨_, facts⟩ := PlanLedger.freeze_ok froze
  obtain ⟨_, slices, _⟩ := freezeFacts_ok facts
  exact ids_of_traversal (fun _ _ done => (freezeSlice_ok done).1) slices

theorem PlanLedger.freeze_ranked {isalnum : Char → Bool} {newUuid7 : Nat → UUID}
    {computePlanHash : FrozenFacts → Option Sha256} {ledger : PlanLedger} {proposal : PlanProposal}
    {inputs : PlanningInputs} {frozen : FrozenPlan}
    (froze : (ledger.freeze isalnum newUuid7 computePlanHash proposal inputs).2 = .ok frozen) :
    ∀ slice ∈ frozen.proposal.slices, slice.localRef ∈ frozen.proposal.integrationRanks.keys := by
  obtain ⟨_, facts⟩ := PlanLedger.freeze_ok froze
  obtain ⟨_, slices, _, _, _, _, same⟩ := freezeFacts_ok facts
  rw [same]
  intro slice member
  obtain ⟨_, _, done⟩ := mapM_result slices member
  exact (Dict.mem_keys_iff _ _).mpr ⟨_, (freezeSlice_ok done).2⟩

theorem PlanLedger.freeze_perm {isalnum : Char → Bool} {newUuid7 : Nat → UUID}
    {computePlanHash : FrozenFacts → Option Sha256} {ledger : PlanLedger} {proposal : PlanProposal}
    {inputs : PlanningInputs} {frozen : FrozenPlan}
    (froze : (ledger.freeze isalnum newUuid7 computePlanHash proposal inputs).2 = .ok frozen) :
    frozen.integrationOrder.Perm (frozen.slices.map (·.id)) := by
  obtain ⟨_, facts⟩ := PlanLedger.freeze_ok froze
  obtain ⟨entries, _, _, order, integrationOrder, _⟩ := freezeFacts_ok facts
  rw [allocateIds_keys newUuid7 ledger.issued proposal] at order
  have entryIds : (entries.map (·.2)).map some =
      proposal.refs.map (allocateIds newUuid7 ledger.issued proposal).get? := by
    have := ids_of_traversal (fun _ _ done => (orderEntry_ok done).1) order
    rw [this, List.map_id']
  have sameIds : entries.map (·.2) = frozen.slices.map (·.id) :=
    List.map_injective_iff.mpr (Option.some_injective SliceId)
      (entryIds.trans (PlanLedger.freeze_ids froze).symm)
  rw [integrationOrder, ← sameIds]
  exact (List.perm_insertionSort _ entries).map _

theorem PlanLedger.freeze_distinct {isalnum : Char → Bool} {newUuid7 : Nat → UUID}
    {computePlanHash : FrozenFacts → Option Sha256} {ledger : PlanLedger} {proposal : PlanProposal}
    {inputs : PlanningInputs} {frozen : FrozenPlan}
    (unique : NeverRepeats newUuid7 (ledger.issued + proposal.slices.length))
    (froze : (ledger.freeze isalnum newUuid7 computePlanHash proposal inputs).2 = .ok frozen) :
    (frozen.slices.map (·.id)).Nodup := by
  have keys := allocateIds_keys newUuid7 ledger.issued proposal
  have injective := allocateIds_injective newUuid7 ledger.issued proposal unique
  apply List.Nodup.of_map some
  rw [PlanLedger.freeze_ids froze]
  refine List.Nodup.map_on ?_ proposal.localRefsAreUnique
  intro ref member other _ same
  obtain ⟨id, found⟩ := (Dict.mem_keys_iff _ ref).mp (keys ▸ member)
  exact injective ref other id found (same ▸ found)

/-- The order of a frozen plan lists every slice once, every frozen edge runs forward
in it between two frozen slices, and distinct local references have distinct ids. -/
theorem freeze_integrationOrder (isalnum : Char → Bool) (newUuid7 : Nat → UUID)
    (computePlanHash : FrozenFacts → Option Sha256) (ledger : PlanLedger)
    (proposal : PlanProposal) (inputs : PlanningInputs) (frozen : FrozenPlan)
    (unique : NeverRepeats newUuid7 (ledger.issued + proposal.slices.length))
    (froze : (ledger.freeze isalnum newUuid7 computePlanHash proposal inputs).2 = .ok frozen) :
    frozen.integrationOrder.Perm (frozen.slices.map (·.id)) ∧ frozen.integrationOrder.Nodup ∧
      (∀ edge ∈ frozen.edges, Before frozen.integrationOrder edge.from_ edge.to_) ∧
      (∀ ref other id, frozen.localRefToId.get? ref = some id →
        frozen.localRefToId.get? other = some id → ref = other) ∧
      ∀ edge ∈ frozen.edges, edge.from_ ∈ frozen.slices.map (·.id) ∧
        edge.to_ ∈ frozen.slices.map (·.id) := by
  obtain ⟨accepted, facts⟩ := PlanLedger.freeze_ok froze
  obtain ⟨entries, slices, edges, order, integrationOrder, localRefToId, -⟩ := freezeFacts_ok facts
  have keys := allocateIds_keys newUuid7 ledger.issued proposal
  have injective := allocateIds_injective newUuid7 ledger.issued proposal unique
  have sliceIds := PlanLedger.freeze_ids froze
  have perm := PlanLedger.freeze_perm froze
  have distinct := PlanLedger.freeze_distinct unique froze
  generalize allocateIds newUuid7 ledger.issued proposal = ids at *
  rw [keys] at order
  have isRef : ∀ {ref id}, ids.get? ref = some id → ref ∈ proposal.refs := by
    intro ref id found
    rw [← keys, Dict.mem_keys_iff]
    exact ⟨id, found⟩
  have isSlice : ∀ {ref id}, ids.get? ref = some id → id ∈ frozen.slices.map (·.id) := by
    intro ref id found
    rw [← List.mem_map_of_injective (Option.some_injective SliceId), sliceIds, ← found]
    exact List.mem_map_of_mem (isRef found)
  refine ⟨perm, perm.nodup_iff.mpr distinct, ?_, ?_, ?_⟩
  · intro edge member
    obtain ⟨source, inPlan, done⟩ := mapM_origin edges member
    obtain ⟨fromId, toId⟩ := freezeEdge_ok done
    obtain ⟨low, lowRank, lowEntry⟩ := sortEntries_entry order (isRef fromId) fromId
    obtain ⟨high, highRank, highEntry⟩ := sortEntries_entry order (isRef toId) toId
    have increase := accepted.ranks_increase inPlan (isRef fromId) (isRef toId) lowRank highRank
    rw [integrationOrder]
    refine (before_of_sorted (sortEntries_sorted entries) ?_ lowEntry highEntry ?_).map (·.2)
    · simp [keyLe]
    · simp only [keyLe, integrationKey]
      omega
  · rw [localRefToId]
    exact injective
  · intro edge member
    obtain ⟨_, _, done⟩ := mapM_origin edges member
    exact ⟨isSlice (freezeEdge_ok done).1, isSlice (freezeEdge_ok done).2⟩

namespace TwoSlices

/-- The second slice comes first: its id is the later one and its rank the lower. -/
def chained : PlanProposal :=
  { slices := [creator, neighbour]
    edges := [⟨"B", "A", .requires, .importStatic, none, none⟩]
    integrationRanks := ⟨[("A", 4), ("B", 2)], by decide⟩
    localRefsAreUnique := apart.localRefsAreUnique }

/-- A counter in the place of `new_uuid7`. -/
def counter (call : Nat) : UUID := ⟨Fin.ofNat _ (call + 7)⟩

def zeroDigest : Sha256 := .zeros

def freezeChained : Except FreezeError FrozenPlan :=
  ((PlanLedger.mk ⟨none⟩ [] 0).freeze (fun _ => false) counter (fun _ => some zeroDigest) chained
    inputs).2

/-- The frozen form of `apart`. -/
def frozenApart : FrozenPlan :=
  { snapshotOid := "s0"
    slices := [⟨counter 0, .implementation, [⟨1⟩], ⟨⟨[], [pkg]⟩⟩, [], 0⟩,
      ⟨counter 1, .implementation, [⟨2⟩], ⟨⟨[pkgSibling], []⟩⟩, [], 1⟩]
    edges := []
    edgeProvenance := []
    edgeEvidence := []
    validation := (PlanValidator.mk none).validate (fun _ => false) apart inputs
    integrationOrder := [counter 0, counter 1]
    localRefToId := ⟨[("A", counter 0), ("B", counter 1)], by decide⟩
    artifactTasks := .empty
    proposal := apart
    planHash := zeroDigest }

example : ((PlanLedger.mk ⟨none⟩ [] 0).freeze (fun _ => false) counter (fun _ => some zeroDigest)
    apart inputs).2 = .ok frozenApart := by
  decide

end TwoSlices

open TwoSlices in
theorem freeze_integrationOrder_chained :
    ∃ frozen, freezeChained = .ok frozen ∧ frozen.edges ≠ [] ∧
      ∀ edge ∈ frozen.edges, Before frozen.integrationOrder edge.from_ edge.to_ := by
  have frozen : freezeChained.toOption.map (·.edges.length) = some 1 := by decide
  cases done : freezeChained with
  | error e => simp [done, Except.toOption] at frozen
  | ok plan =>
    refine ⟨plan, rfl, ?_, ?_⟩
    · rintro empty
      simp [done, Except.toOption, empty] at frozen
    · exact (freeze_integrationOrder (fun _ => false) counter (fun _ => some zeroDigest)
        ⟨⟨none⟩, [], 0⟩ chained inputs plan (by unfold NeverRepeats; decide) done).2.2.1

end CodeMigrator
