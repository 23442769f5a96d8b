import CodeMigrator.Lib.Predecessors
import CodeMigrator.Planning.Graph

/-!
# The cycle check is exact

`_has_cycle` of `planning/validator.py` against the graph of a proposal: its edges between two of its
slices. Edges that lead elsewhere do not count, and an edge that is there twice counts once.
-/

namespace CodeMigrator
open Lib Relation

/-- An edge of the proposal leads from one of its slices to another. -/
def PlanProposal.Leads (proposal : PlanProposal) (source target : String) : Prop :=
  source ∈ proposal.refs ∧ target ∈ proposal.refs ∧
    ∃ edge ∈ proposal.edges, edge.from_ = source ∧ edge.to_ = target

/-- The edges between the slices contain a directed cycle. -/
def PlanProposal.Cyclic (proposal : PlanProposal) : Prop := ∃ ref, TransGen proposal.Leads ref ref

/-! ## The tables -/

namespace EdgeTables

/-- The successors of a node in the tables. -/
def successors (tables : EdgeTables) (ref : String) : List String :=
  (tables.adjacency.get? ref).getD []

/-- The indegree of a node in the tables. -/
def degree (indegree : Dict String Int) (ref : String) : Int := (indegree.get? ref).getD 0

/-- The tables hold these edges, each once, with the number of predecessors of each node. -/
structure Holds (refs : List String) (edges : List PlanEdgeProposal) (tables : EdgeTables) :
    Prop where
  once : ∀ ref, (tables.successors ref).Nodup
  edge : ∀ source target, target ∈ tables.successors source ↔ source ∈ refs ∧ target ∈ refs ∧
    ∃ edge ∈ edges, edge.from_ = source ∧ edge.to_ = target
  degrees : ∀ ref ∈ refs, tables.indegree.get? ref =
    some ((waitingFor refs tables.successors [] ref).length : Int)

variable {refs : List String} {edges : List PlanEdgeProposal} {tables : EdgeTables}

theorem Holds.initial (refs : List String) : Holds refs [] (.initial refs) := by
  have none : ∀ ref, (EdgeTables.initial refs).successors ref = [] := by
    intro ref
    unfold successors
    cases found : (EdgeTables.initial refs).adjacency.get? ref with
    | none => rfl
    | some successors =>
      obtain ⟨_, -, same⟩ := List.mem_map.mp (Dict.mem_of_get?_ofPairs found)
      cases same
      rfl
  refine ⟨fun ref => ?_, fun source target => ?_, fun ref member => ?_⟩
  · rw [none]
    exact List.nodup_nil
  · simp [none]
  · have key : ref ∈ (EdgeTables.initial refs).indegree.keys :=
      Dict.mem_keys_ofPairs (by simpa using member)
    obtain ⟨count, found⟩ := (Dict.mem_keys_iff _ ref).mp key
    obtain ⟨other, -, same⟩ := List.mem_map.mp (Dict.mem_of_get?_ofPairs found)
    obtain ⟨-, rfl⟩ := Prod.mk.inj same
    rw [found]
    simp [waitingFor, none]

theorem successors_added (indegree : Dict String Int) (source target ref : String) :
    successors ⟨tables.adjacency.set source ((tables.adjacency.get? source).getD [] ++ [target]),
      indegree⟩ ref =
        if ref = source then tables.successors source ++ [target] else tables.successors ref := by
  rw [successors, Dict.get?_set]
  split
  · rfl
  · rfl

theorem Holds.addEdge (nodup : refs.Nodup) (holds : Holds refs edges tables)
    (edge : PlanEdgeProposal) : Holds refs (edges ++ [edge]) (tables.addEdge refs edge) := by
  -- where the edge adds no successor, the tables stay as they are
  have stays : (edge.from_ ∈ refs → edge.to_ ∈ refs → edge.to_ ∈ tables.successors edge.from_) →
      Holds refs (edges ++ [edge]) tables := by
    intro known
    refine ⟨holds.once, fun source target => ?_, holds.degrees⟩
    rw [holds.edge]
    refine and_congr_right fun isSource => and_congr_right fun isTarget => ?_
    constructor
    · rintro ⟨old, member, ends⟩
      exact ⟨old, List.mem_append_left _ member, ends⟩
    · rintro ⟨other, member, rfl, rfl⟩
      rcases List.mem_append.mp member with old | last
      · exact ⟨other, old, rfl, rfl⟩
      · rw [List.mem_singleton.mp last] at isSource isTarget ⊢
        exact ((holds.edge _ _).mp (known isSource isTarget)).2.2
  unfold EdgeTables.addEdge
  split
  · next inside =>
    dsimp only
    split
    · next old => exact stays fun _ _ => old
    · next new =>
      have new : edge.to_ ∉ tables.successors edge.from_ := new
      refine ⟨fun ref => ?_, fun source target => ?_, fun ref member => ?_⟩
      · rw [successors_added]
        split
        · rw [List.nodup_append]
          refine ⟨holds.once _, List.nodup_singleton _, ?_⟩
          rintro target old _ last rfl
          rw [List.mem_singleton.mp last] at old
          exact new old
        · exact holds.once _
      · rw [successors_added]
        have before := holds.edge source target
        split
        · next same =>
          subst same
          simp only [List.mem_append, List.mem_singleton, before]
          constructor
          · rintro (⟨isSource, isTarget, old, there, ends⟩ | rfl)
            · exact ⟨isSource, isTarget, old, .inl there, ends⟩
            · exact ⟨inside.1, inside.2, edge, .inr rfl, rfl, rfl⟩
          · rintro ⟨isSource, isTarget, other, there | rfl, ends⟩
            · exact .inl ⟨isSource, isTarget, other, there, ends⟩
            · exact .inr ends.2.symm
        · next other =>
          rw [before]
          refine and_congr_right fun _ => and_congr_right fun _ => ?_
          constructor
          · rintro ⟨old, there, ends⟩
            exact ⟨old, List.mem_append_left _ there, ends⟩
          · rintro ⟨old, there, ends⟩
            rcases List.mem_append.mp there with earlier | last
            · exact ⟨old, earlier, ends⟩
            · rw [List.mem_singleton.mp last] at ends
              exact absurd ends.1.symm other
      · have counted := holds.degrees ref member
        dsimp only
        rw [Dict.get?_set]
        split
        · next same =>
          subst same
          rw [counted, Option.getD_some, ← Int.natCast_succ]
          refine congrArg (fun count : Nat => some (count : Int)) (Eq.symm ?_)
          refine length_filter_succ nodup inside.1 (by simp [successors_added]) (by simp [new]) ?_
          intro source other
          simp [successors_added, other]
        · next other =>
          rw [counted]
          refine congrArg (fun sources : List String => some (sources.length : Int)) (Eq.symm ?_)
          refine List.filter_congr fun source _ => ?_
          rw [successors_added]
          split
          · next same =>
            subst same
            simp [other]
          · rfl
  · next outside => exact stays fun isSource isTarget => absurd ⟨isSource, isTarget⟩ outside

theorem Holds.foldl (nodup : refs.Nodup) (holds : Holds refs edges tables)
    (later : List PlanEdgeProposal) :
    Holds refs (edges ++ later) (later.foldl (EdgeTables.addEdge refs) tables) := by
  induction later generalizing edges tables with
  | nil =>
    rw [List.append_nil]
    exact holds
  | cons edge later ih =>
    have shape : edges ++ edge :: later = edges ++ [edge] ++ later := by simp
    rw [shape]
    exact ih (holds.addEdge nodup edge)

theorem Holds.edged (nodup : refs.Nodup) (holds : Holds refs edges tables) :
    Edged refs tables.successors :=
  ⟨nodup, fun source node edge => ((holds.edge source node).mp edge).1,
    fun source node edge => ((holds.edge source node).mp edge).2.1⟩

end EdgeTables

/-! ## The loops -/

open EdgeTables in
theorem releaseChildren_eq {children : List String} (once : children.Nodup) (queue : List String)
    (indegree : Dict String Int) :
    (releaseChildren queue indegree children).1 =
        queue ++ children.filter (fun child => degree indegree child - 1 = 0) ∧
      ∀ ref, degree (releaseChildren queue indegree children).2 ref =
        if ref ∈ children then degree indegree ref - 1 else degree indegree ref := by
  induction children generalizing queue indegree with
  | nil => simp [releaseChildren]
  | cons child children ih =>
    obtain ⟨fresh, once⟩ := List.nodup_cons.mp once
    obtain ⟨released, degrees⟩ := ih once
      (if degree indegree child - 1 = 0 then queue ++ [child] else queue)
      (indegree.set child (degree indegree child - 1))
    have counted : ∀ ref, degree (indegree.set child (degree indegree child - 1)) ref =
        if ref = child then degree indegree child - 1 else degree indegree ref := by
      intro ref
      rw [degree, Dict.get?_set]
      split
      · rfl
      · rfl
    constructor
    · have rest : children.filter (fun other =>
          degree (indegree.set child (degree indegree child - 1)) other - 1 = 0) =
          children.filter (fun other => degree indegree other - 1 = 0) := by
        refine List.filter_congr fun other member => ?_
        have different : other ≠ child := by
          rintro rfl
          exact fresh member
        rw [counted, if_neg different]
      refine released.trans ?_
      rw [rest, List.filter_cons]
      by_cases zero : degree indegree child - 1 = 0
      · simp [zero]
      · simp [zero]
    · intro ref
      refine (degrees ref).trans ?_
      rw [counted]
      by_cases same : ref = child
      · subst same
        simp [fresh]
      · simp [same]

open EdgeTables in
theorem visitLoop_spec {refs : List String} {edges : List PlanEdgeProposal} {tables : EdgeTables}
    (nodup : refs.Nodup) (holds : Holds refs edges tables) {rounds : Nat} {taken queue : List String}
    {indegree : Dict String Int}
    (invariant : Counted refs tables.successors (degree indegree) taken queue)
    (enough : taken.length + rounds = refs.length) :
    visitLoop tables.adjacency rounds queue indegree taken.length = refs.length ↔
      ∀ ref, ¬ TransGen (fun source target => target ∈ tables.successors source) ref ref := by
  have edged := holds.edged nodup
  induction rounds generalizing taken queue indegree with
  | zero =>
    -- all nodes have been taken, so the queue is empty
    have bound := invariant.length_taken_le
    have empty : queue = [] := List.length_eq_zero_iff.mp (by omega)
    subst empty
    exact invariant.finish edged
  | succ rounds ih =>
    cases queue with
    | nil => exact invariant.finish edged
    | cons ref queue =>
      have children : ∀ child,
          child ∈ (tables.successors ref).insertionSort pathLe ↔ child ∈ tables.successors ref :=
        fun child => List.mem_insertionSort _
      have once : ((tables.successors ref).insertionSort pathLe).Nodup :=
        (List.perm_insertionSort _ _).nodup_iff.mpr (holds.once ref)
      obtain ⟨released, degrees⟩ := releaseChildren_eq once queue indegree
      have next : Counted refs tables.successors (degree (releaseChildren queue indegree
          ((tables.successors ref).insertionSort pathLe)).2) (taken ++ [ref]) _ :=
        invariant.take edged once children fun other => by simp only [degrees, children]
      rw [← released] at next
      have counted := ih next (by rw [List.length_append, List.length_singleton]; omega)
      rw [List.length_append, List.length_singleton] at counted
      exact counted

theorem ranks_along_path {proposal : PlanProposal} (silent : validateRanks proposal = [])
    {source target : String} (path : TransGen proposal.Leads source target) :
    ∃ low high, proposal.integrationRanks.get? source = some low ∧
      proposal.integrationRanks.get? target = some high ∧ low < high := by
  have ranked : ∀ ref ∈ proposal.refs, ∃ rank, proposal.integrationRanks.get? ref = some rank := by
    intro ref member
    have parts := silent
    simp only [validateRanks, List.append_eq_nil_iff] at parts
    have same := parts.1.1
    split at same
    · next both => exact (Dict.mem_keys_iff _ ref).mp (both.2 member)
    · cases same
  have edge : ∀ {source target}, proposal.Leads source target →
      ∃ low high, proposal.integrationRanks.get? source = some low ∧
        proposal.integrationRanks.get? target = some high ∧ low < high := by
    rintro _ _ ⟨isSource, isTarget, edge, member, rfl, rfl⟩
    obtain ⟨low, rankFrom⟩ := ranked _ isSource
    obtain ⟨high, rankTo⟩ := ranked _ isTarget
    exact ⟨low, high, rankFrom, rankTo,
      validateRanks_increase silent member isSource isTarget rankFrom rankTo⟩
  induction path with
  | single last => exact edge last
  | tail _ last ih =>
    obtain ⟨low, middle, rankFrom, rankMiddle, below⟩ := ih
    obtain ⟨_, high, same, rankTo, above⟩ := edge last
    cases rankMiddle.symm.trans same
    exact ⟨low, high, rankFrom, rankTo, below.trans above⟩

theorem not_cyclic_of_ranks {proposal : PlanProposal} (silent : validateRanks proposal = []) :
    ¬ proposal.Cyclic := by
  rintro ⟨ref, cycle⟩
  obtain ⟨low, high, rankFrom, rankTo, below⟩ := ranks_along_path silent cycle
  cases rankFrom.symm.trans rankTo
  exact lt_irrefl low below

open EdgeTables in
/-- `_has_cycle` finds exactly the proposals whose edges between slices contain a directed cycle, and
none of them passes the check of the ranks. -/
theorem hasCycle_iff_cyclic (proposal : PlanProposal) :
    (hasCycle proposal = true ↔ proposal.Cyclic) ∧
      (validateRanks proposal = [] → hasCycle proposal = false) := by
  have exact_ : hasCycle proposal = true ↔ proposal.Cyclic := by
    have nodup : proposal.refs.Nodup := proposal.localRefsAreUnique
    have holds := (Holds.initial proposal.refs).foldl nodup proposal.edges
    rw [List.nil_append] at holds
    unfold hasCycle
    dsimp only
    generalize proposal.edges.foldl (EdgeTables.addEdge proposal.refs)
      (EdgeTables.initial proposal.refs) = tables at holds
    have leads : (fun source target => target ∈ tables.successors source) = proposal.Leads := by
      funext source target
      exact propext (holds.edge source target)
    have start : Counted proposal.refs tables.successors (degree tables.indegree) []
        ((proposal.refs.filter fun ref => tables.indegree.get? ref = some 0).insertionSort pathLe) := by
      refine .start (fun ref member => ?_) ?_ fun ref => ?_
      · rw [degree, holds.degrees ref member]
        rfl
      · exact (List.perm_insertionSort _ _).nodup_iff.mpr (nodup.filter _)
      · rw [List.mem_insertionSort, List.mem_filter, decide_eq_true_eq]
        refine and_congr_right fun member => ?_
        rw [degree, holds.degrees ref member, Option.getD_some, Option.some.injEq]
    have counted := visitLoop_spec nodup holds start (Nat.zero_add _)
    rw [leads] at counted
    rw [bne_iff_ne, ne_eq]
    refine (not_congr counted).trans ?_
    rw [not_forall]
    exact exists_congr fun ref => not_not
  refine ⟨exact_, fun silent => ?_⟩
  rw [← Bool.not_eq_true, exact_]
  exact not_cyclic_of_ranks silent

end CodeMigrator
