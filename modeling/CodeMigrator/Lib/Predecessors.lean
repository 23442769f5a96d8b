import CodeMigrator.Lib.Search
import Mathlib.Order.WellFoundedSet

/-!
# Counting predecessors

A queue of the nodes without a predecessor that is still to be taken: a node that is taken is counted
off for its successors, and those left without one are queued. All nodes are taken if and only if the
graph has no cycle.
-/

namespace Lib

open Relation

variable {α : Type}

theorem length_filter_succ {nodes : List α} (nodup : nodes.Nodup) {node : α} (member : node ∈ nodes)
    {more fewer : α → Bool} (here : more node = true) (gone : fewer node = false)
    (same : ∀ other, other ≠ node → more other = fewer other) :
    (nodes.filter more).length = (nodes.filter fewer).length + 1 :=
  (filter_perm_cons nodup member here gone same).length_eq

variable [DecidableEq α]

/-- The predecessors of a node that have not been taken. -/
def waitingFor (nodes : List α) (next : α → List α) (taken : List α) (node : α) : List α :=
  nodes.filter fun source => node ∈ next source ∧ source ∉ taken

section Waiting

variable {nodes taken : List α} {next : α → List α} {node source : α}

theorem mem_waitingFor : source ∈ waitingFor nodes next taken node ↔
    source ∈ nodes ∧ node ∈ next source ∧ source ∉ taken := by
  simp [waitingFor]

theorem waitingFor_take_of_next (nodup : nodes.Nodup) (inside : source ∈ nodes)
    (fresh : source ∉ taken) (edge : node ∈ next source) :
    (waitingFor nodes next taken node).length =
      (waitingFor nodes next (taken ++ [source]) node).length + 1 := by
  refine length_filter_succ nodup inside (decide_eq_true ⟨edge, fresh⟩) ?_ fun other different => ?_
  · simp
  · simp [different]

theorem waitingFor_take_of_not_next (edge : node ∉ next source) :
    waitingFor nodes next (taken ++ [source]) node = waitingFor nodes next taken node := by
  refine List.filter_congr fun other _ => decide_eq_decide.mpr (and_congr_right fun before => ?_)
  have different : other ≠ source := by
    rintro rfl
    exact edge before
  simp [different]

end Waiting

/-! ## The count -/

/-- What holds between two nodes: the nodes that are taken or queued are those without a predecessor
left, and a node is taken after all its predecessors. -/
structure Counted (nodes : List α) (next : α → List α) (degree : α → Int) (taken queue : List α) :
    Prop where
  nodup : (taken ++ queue).Nodup
  inside : ∀ node ∈ taken ++ queue, node ∈ nodes
  degrees : ∀ node ∈ nodes, degree node = (waitingFor nodes next taken node).length
  ready : ∀ node ∈ nodes, node ∈ taken ++ queue ↔ waitingFor nodes next taken node = []
  ordered : ∀ before node after, taken = before ++ node :: after →
    ∀ source, node ∈ next source → source ∈ before

/-- A graph whose edges are between its nodes. -/
structure Edged (nodes : List α) (next : α → List α) : Prop where
  nodup : nodes.Nodup
  sources : ∀ source node, node ∈ next source → source ∈ nodes
  targets : ∀ source node, node ∈ next source → node ∈ nodes

namespace Counted

variable {nodes taken queue rest children : List α} {next : α → List α} {degree counted : α → Int}
  {node : α}

theorem start (degrees : ∀ node ∈ nodes, degree node = (waitingFor nodes next [] node).length)
    (nodup : queue.Nodup) (ready : ∀ node, node ∈ queue ↔ node ∈ nodes ∧ degree node = 0) :
    Counted nodes next degree [] queue where
  nodup := nodup
  inside := fun node queued => ((ready node).mp queued).1
  degrees := degrees
  ready := by
    intro node inside
    rw [List.nil_append, ready, degrees node inside, ← List.length_eq_zero_iff]
    constructor
    · rintro ⟨-, none⟩
      exact Int.ofNat_eq_zero.mp none
    · exact fun none => ⟨inside, by rw [none]; rfl⟩
  ordered := fun before node after impossible => by simp at impossible

/-- The first node of the queue is taken, and its children lose a predecessor. -/
theorem take (edged : Edged nodes next) (invariant : Counted nodes next degree taken (node :: rest))
    (once : children.Nodup) (same : ∀ child, child ∈ children ↔ child ∈ next node)
    (counts : ∀ other, counted other = if other ∈ next node then degree other - 1 else degree other) :
    Counted nodes next counted (taken ++ [node])
      (rest ++ children.filter fun child => degree child - 1 = 0) := by
  obtain ⟨nodup, inside, degrees, ready, ordered⟩ := invariant
  have here : node ∈ nodes := inside node (by simp)
  have fresh : node ∉ taken :=
    fun earlier => (List.nodup_append.mp nodup).2.2 node earlier node List.mem_cons_self rfl
  have closed : waitingFor nodes next taken node = [] := (ready node here).mp (by simp)
  -- a child of the node waits for it
  have waits : ∀ child, child ∈ next node → child ∉ taken ++ node :: rest := by
    intro child edge queued
    have member : node ∈ waitingFor nodes next taken child := mem_waitingFor.mpr ⟨here, edge, fresh⟩
    rw [(ready child (edged.targets node child edge)).mp queued] at member
    cases member
  have released : ∀ child, child ∈ children.filter (fun child => degree child - 1 = 0) ↔
      child ∈ next node ∧ waitingFor nodes next (taken ++ [node]) child = [] := by
    intro child
    rw [List.mem_filter, same, decide_eq_true_eq]
    refine and_congr_right fun edge => ?_
    rw [degrees child (edged.targets node child edge),
      waitingFor_take_of_next edged.nodup here fresh edge, ← List.length_eq_zero_iff]
    omega
  have shape : taken ++ [node] ++ (rest ++ children.filter fun child => degree child - 1 = 0) =
      taken ++ node :: rest ++ children.filter fun child => degree child - 1 = 0 := by simp
  refine ⟨?_, ?_, ?_, ?_, ?_⟩
  · rw [shape, List.nodup_append]
    refine ⟨nodup, once.filter _, ?_⟩
    rintro child queued _ member rfl
    exact waits child ((released child).mp member).1 queued
  · rw [shape]
    intro child member
    rcases List.mem_append.mp member with queued | new
    · exact inside child queued
    · exact edged.targets node child ((released child).mp new).1
  · intro child member
    rw [counts, degrees child member]
    split
    · next edge =>
      rw [waitingFor_take_of_next edged.nodup here fresh edge]
      omega
    · next edge => rw [waitingFor_take_of_not_next edge]
  · intro child member
    rw [shape, List.mem_append, released, ready child member]
    by_cases edge : child ∈ next node
    · have waiting : waitingFor nodes next taken child ≠ [] :=
        fun none => waits child edge ((ready child member).mpr none)
      simp [waiting, edge]
    · simp [waitingFor_take_of_not_next edge, edge]
  · intro before child after parts source edge
    rcases List.eq_nil_or_concat after with rfl | ⟨earlier, last, rfl⟩
    · -- the node that is taken now waits for no other
      obtain ⟨rfl, same⟩ := List.append_inj' parts rfl
      obtain ⟨rfl, -⟩ := List.cons.inj same
      by_contra missing
      have member : source ∈ waitingFor nodes next taken node :=
        mem_waitingFor.mpr ⟨edged.sources source node edge, edge, missing⟩
      rw [closed] at member
      cases member
    · have prior : taken = before ++ child :: earlier := by
        have shape : taken ++ [node] = (before ++ child :: earlier) ++ [last] := by simpa using parts
        exact (List.append_inj' shape rfl).1
      exact ordered before child earlier prior source edge

theorem before_of_path (invariant : Counted nodes next degree taken queue) {source : α}
    (path : TransGen (fun source node => node ∈ next source) source node) :
    ∀ before after, taken = before ++ node :: after → source ∈ before := by
  induction path with
  | single edge => exact fun before after parts => invariant.ordered before _ after parts _ edge
  | @tail middle last _ edge ih =>
    intro before after parts
    have earlier := invariant.ordered before last after parts middle edge
    obtain ⟨start, rest, rfl⟩ := List.append_of_mem earlier
    exact List.mem_append_left _ (ih start (rest ++ last :: after) (by rw [parts]; simp))

theorem length_taken_le (invariant : Counted nodes next degree taken queue) :
    taken.length + queue.length ≤ nodes.length := by
  rw [← List.length_append]
  exact (invariant.nodup.subperm fun node member => invariant.inside node member).length_le

/-- Where the queue has run empty, all nodes were taken if and only if there is no cycle. -/
theorem finish (edged : Edged nodes next) (invariant : Counted nodes next degree taken []) :
    taken.length = nodes.length ↔
      ∀ node, ¬ TransGen (fun source node => node ∈ next source) node node := by
  have nodup : taken.Nodup := by simpa using invariant.nodup
  have inside : ∀ node ∈ taken, node ∈ nodes := by simpa using invariant.inside
  constructor
  · intro all node cycle
    have target : node ∈ nodes := by
      cases cycle with
      | single edge => exact edged.targets _ _ edge
      | tail _ edge => exact edged.targets _ _ edge
    have member : node ∈ taken :=
      ((nodup.subperm inside).perm_of_length_le all.ge).mem_iff.mpr target
    obtain ⟨before, after, rfl⟩ := List.append_of_mem member
    have earlier := invariant.before_of_path cycle before after rfl
    exact (List.nodup_append.mp nodup).2.2 node earlier node List.mem_cons_self rfl
  · intro acyclic
    have strict : IsStrictOrder α (TransGen fun source node => node ∈ next source) :=
      { irrefl := acyclic, trans := fun _ _ _ => TransGen.trans }
    have founded := (List.finite_toSet nodes).wellFoundedOn
      (r := TransGen fun source node => node ∈ next source)
    have all : ∀ node ∈ nodes, node ∈ taken := by
      intro node member
      refine founded.induction member fun node member earlier => ?_
      have ready := (invariant.ready node member).mpr (List.eq_nil_iff_forall_not_mem.mpr ?_)
      · simpa using ready
      · intro source waits
        obtain ⟨isNode, edge, missing⟩ := mem_waitingFor.mp waits
        exact missing (earlier source isNode (.single edge))
    exact ((nodup.subperm inside).antisymm (edged.nodup.subperm all)).length_eq

end Counted

end Lib
