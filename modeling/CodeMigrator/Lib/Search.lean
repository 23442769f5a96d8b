import Mathlib.Algebra.GroupWithZero.Nat
import Mathlib.Data.List.Dedup
import Mathlib.Data.List.Nodup
import Mathlib.Logic.Relation

/-!
# Search in a graph

A search with a queue over the successors of each node. Each node that is seen comes to the queue
once, so the search ends after as many steps as there are nodes, and what it has seen then is what
can be reached. So it is for a stack to which a node may come more than once, and which ends after as
many steps as there are edges.
-/

namespace Lib

open Relation

variable {α : Type}

theorem filter_perm_cons {nodes : List α} (nodup : nodes.Nodup) {node : α} (member : node ∈ nodes)
    {more fewer : α → Bool} (here : more node = true) (gone : fewer node = false)
    (same : ∀ other, other ≠ node → more other = fewer other) :
    (nodes.filter more).Perm (node :: nodes.filter fewer) := by
  have once : (node :: nodes.filter fewer).Nodup :=
    List.nodup_cons.mpr ⟨by simp [gone], nodup.filter _⟩
  refine (List.perm_ext_iff_of_nodup (nodup.filter _) once).mpr fun other => ?_
  by_cases isNode : other = node
  · subst isNode
    simp [member, here]
  · simp [same other isNode, isNode]

/-! ## What can be reached -/

/-- `target` can be reached from one of the nodes. -/
def ReachedFrom (next : α → List α) (starts : List α) (target : α) : Prop :=
  ∃ start ∈ starts, ReflTransGen (fun node successor => successor ∈ next node) start target

section Reached

variable {next : α → List α} {starts : List α} {node target : α}

theorem ReachedFrom.of_mem (isStart : target ∈ starts) : ReachedFrom next starts target :=
  ⟨target, isStart, .refl⟩

theorem ReachedFrom.step (reached : ReachedFrom next starts node) (successor : target ∈ next node) :
    ReachedFrom next starts target := by
  obtain ⟨start, isStart, path⟩ := reached
  exact ⟨start, isStart, path.tail successor⟩

theorem ReachedFrom.mem {universe_ : List α} (inside : ∀ start ∈ starts, start ∈ universe_)
    (targets : ∀ node, ∀ successor ∈ next node, successor ∈ universe_)
    (reached : ReachedFrom next starts target) : target ∈ universe_ := by
  obtain ⟨start, isStart, path⟩ := reached
  cases path with
  | refl => exact inside _ isStart
  | tail _ step => exact targets _ _ step

theorem reachedFrom_append {first second : List α} :
    ReachedFrom next (first ++ second) target ↔
      ReachedFrom next first target ∨ ReachedFrom next second target := by
  simp only [ReachedFrom, List.mem_append, or_and_right, exists_or]

theorem ReachedFrom.trans {further : List α} (all : ∀ start ∈ further, ReachedFrom next starts start)
    (reached : ReachedFrom next further target) : ReachedFrom next starts target := by
  obtain ⟨middle, isMiddle, path⟩ := reached
  obtain ⟨start, isStart, before⟩ := all middle isMiddle
  exact ⟨start, isStart, before.trans path⟩

end Reached

/-! ## The search -/

variable [DecidableEq α]

/-- The successors of a node that have not been seen, each once. -/
def fresh (next : α → List α) (seen : List α) (node : α) : List α :=
  ((next node).filter (· ∉ seen)).dedup

/-- The nodes seen after at most `fuel` nodes were taken from the queue. -/
def search (next : α → List α) : Nat → List α → List α → List α
  | 0, seen, _ => seen
  | _, seen, [] => seen
  | fuel + 1, seen, node :: queue =>
    search next fuel (seen ++ fresh next seen node) (queue ++ fresh next seen node)

variable {next : α → List α} {seen queue starts : List α} {node target : α} {bound fuel : Nat}

theorem mem_fresh : target ∈ fresh next seen node ↔ target ∈ next node ∧ target ∉ seen := by
  simp [fresh]

/-- What a search knows: nodes are seen once, all of them come from the starts, and those that have
left the queue have their successors among them. -/
structure SearchInvariant (next : α → List α) (starts : List α) (bound fuel : Nat)
    (seen queue : List α) : Prop where
  nodup : seen.Nodup
  small : ∀ others : List α, others.Nodup → (∀ node ∈ others, ReachedFrom next starts node) →
    others.length ≤ bound
  enough : bound + queue.length ≤ fuel + seen.length
  sound : ∀ node ∈ seen, ReachedFrom next starts node
  begun : ∀ start ∈ starts, start ∈ seen
  queued : ∀ node ∈ queue, node ∈ seen
  done : ∀ node ∈ seen, node ∈ queue ∨ ∀ successor ∈ next node, successor ∈ seen

theorem SearchInvariant.step
    (invariant : SearchInvariant next starts bound (fuel + 1) seen (node :: queue)) :
    SearchInvariant next starts bound fuel (seen ++ fresh next seen node)
      (queue ++ fresh next seen node) := by
  have isSeen := invariant.queued node List.mem_cons_self
  constructor
  · rw [List.nodup_append]
    refine ⟨invariant.nodup, List.nodup_dedup _, ?_⟩
    rintro old isOld _ isNew rfl
    exact (mem_fresh.mp isNew).2 isOld
  · exact invariant.small
  · have enough := invariant.enough
    simp only [List.length_append, List.length_cons] at enough ⊢
    omega
  · intro other member
    rcases List.mem_append.mp member with old | new
    · exact invariant.sound other old
    · exact (invariant.sound node isSeen).step (mem_fresh.mp new).1
  · exact fun start isStart => List.mem_append_left _ (invariant.begun start isStart)
  · intro other member
    rcases List.mem_append.mp member with waiting | new
    · exact List.mem_append_left _ (invariant.queued other (List.mem_cons_of_mem _ waiting))
    · exact List.mem_append_right _ new
  · intro other member
    rcases List.mem_append.mp member with old | new
    · rcases invariant.done other old with waiting | closed
      · rcases List.mem_cons.mp waiting with rfl | later
        · right
          intro successor isNext
          by_cases known : successor ∈ seen
          · exact List.mem_append_left _ known
          · exact List.mem_append_right _ (mem_fresh.mpr ⟨isNext, known⟩)
        · exact .inl (List.mem_append_left _ later)
      · exact .inr fun successor isNext => List.mem_append_left _ (closed successor isNext)
    · exact .inl (List.mem_append_right _ new)

omit [DecidableEq α] in
theorem SearchInvariant.closed (invariant : SearchInvariant next starts bound fuel seen [])
    (reached : ReachedFrom next starts target) : target ∈ seen := by
  obtain ⟨start, isStart, path⟩ := reached
  induction path with
  | refl => exact invariant.begun start isStart
  | tail _ step ih =>
    rcases invariant.done _ ih with waiting | closed
    · cases waiting
    · exact closed _ step

theorem SearchInvariant.mem_search (invariant : SearchInvariant next starts bound fuel seen queue) :
    target ∈ search next fuel seen queue ↔ ReachedFrom next starts target := by
  induction fuel generalizing seen queue with
  | zero =>
    have small := invariant.small seen invariant.nodup invariant.sound
    have enough := invariant.enough
    have empty : queue = [] := List.eq_nil_of_length_eq_zero (by omega)
    subst empty
    exact ⟨invariant.sound target, invariant.closed⟩
  | succ fuel ih =>
    cases queue with
    | nil => exact ⟨invariant.sound target, invariant.closed⟩
    | cons node queue => exact ih invariant.step

/-- The search finds what can be reached. -/
theorem mem_search_iff {universe_ : List α} (distinct : starts.Nodup)
    (inside : ∀ start ∈ starts, start ∈ universe_)
    (targets : ∀ node, ∀ successor ∈ next node, successor ∈ universe_) :
    target ∈ search next universe_.length starts starts ↔ ReachedFrom next starts target := by
  refine SearchInvariant.mem_search (?_ : SearchInvariant next starts universe_.length _ _ _)
  refine ⟨distinct, ?_, by omega, ?_, ?_, ?_, ?_⟩
  · intro others nodup reached
    exact nodup.length_le_of_subset fun node member => (reached node member).mem inside targets
  · exact fun start isStart => ⟨start, isStart, .refl⟩
  · exact fun _ isStart => isStart
  · exact fun _ isStart => isStart
  · exact fun _ isStart => .inl isStart

/-! ## A stack with repetitions -/

/-- The nodes seen after at most `fuel` nodes were taken from the stack. -/
def explore (next : α → List α) : Nat → List α → List α → List α
  | 0, seen, _ => seen
  | _, seen, [] => seen
  | fuel + 1, seen, node :: stack =>
    if node ∈ seen then explore next fuel seen stack
    else explore next fuel (seen ++ [node]) (next node ++ stack)

/-- The edges of the nodes that have not been seen. -/
def unseenEdges (next : α → List α) (nodes seen : List α) : Nat :=
  ((nodes.filter (· ∉ seen)).map fun node => (next node).length).sum

/-- What the exploration knows: all nodes come from the start, the successors of a seen node are seen
or on the stack, and there is fuel for the stack and for the edges that may still come to it. -/
structure ExploreInvariant (next : α → List α) (nodes : List α) (start : α) (fuel : Nat)
    (seen stack : List α) : Prop where
  nodup : seen.Nodup
  enough : stack.length + unseenEdges next nodes seen ≤ fuel
  sound : ∀ node ∈ seen ++ stack, ReflTransGen (fun node successor => successor ∈ next node) start node
  begun : start ∈ seen ++ stack
  closed : ∀ node ∈ seen, ∀ successor ∈ next node, successor ∈ seen ++ stack

variable {nodes stack : List α} {start : α}

theorem unseenEdges_see (nodup : nodes.Nodup) (all : ∀ node, next node ≠ [] → node ∈ nodes)
    (fresh : node ∉ seen) :
    unseenEdges next nodes seen = (next node).length + unseenEdges next nodes (seen ++ [node]) := by
  unfold unseenEdges
  by_cases inside : node ∈ nodes
  · have perm : (nodes.filter (· ∉ seen)).Perm (node :: nodes.filter (· ∉ seen ++ [node])) :=
      filter_perm_cons nodup inside (by simp [fresh]) (by simp) fun other different => by
        simp [different]
    rw [(perm.map _).sum_nat, List.map_cons, List.sum_cons]
  · have none : next node = [] := not_not.mp (mt (all node) inside)
    have same : nodes.filter (· ∉ seen) = nodes.filter (· ∉ seen ++ [node]) := by
      refine List.filter_congr fun other member => ?_
      have different : other ≠ node := by
        rintro rfl
        exact inside member
      simp [different]
    rw [none, List.length_nil, Nat.zero_add, same]

theorem ExploreInvariant.skip
    (invariant : ExploreInvariant next nodes start (fuel + 1) seen (node :: stack))
    (old : node ∈ seen) : ExploreInvariant next nodes start fuel seen stack := by
  have kept : ∀ {other}, other ∈ seen ++ node :: stack → other ∈ seen ++ stack := by
    intro other member
    rcases List.mem_append.mp member with earlier | later
    · exact List.mem_append_left _ earlier
    · rcases List.mem_cons.mp later with rfl | waiting
      · exact List.mem_append_left _ old
      · exact List.mem_append_right _ waiting
  obtain ⟨nodup, enough, sound, begun, closed⟩ := invariant
  rw [List.length_cons] at enough
  refine ⟨nodup, by omega, fun other member => ?_, kept begun, fun other member successor edge => ?_⟩
  · refine sound other ?_
    rw [List.mem_append] at member ⊢
    exact member.imp_right (List.mem_cons_of_mem _)
  · exact kept (closed other member successor edge)

theorem ExploreInvariant.see (nodup : nodes.Nodup) (all : ∀ node, next node ≠ [] → node ∈ nodes)
    (invariant : ExploreInvariant next nodes start (fuel + 1) seen (node :: stack))
    (fresh : node ∉ seen) :
    ExploreInvariant next nodes start fuel (seen ++ [node]) (next node ++ stack) := by
  have kept : ∀ {other}, other ∈ seen ++ node :: stack →
      other ∈ seen ++ [node] ++ (next node ++ stack) := by
    intro other member
    rw [List.mem_append, List.mem_cons] at member
    rw [List.mem_append, List.mem_append, List.mem_append, List.mem_singleton]
    exact member.elim (fun old => .inl (.inl old))
      fun later => later.elim (fun same => .inl (.inr same)) fun waiting => .inr (.inr waiting)
  have enough := invariant.enough
  rw [unseenEdges_see nodup all fresh, List.length_cons] at enough
  refine ⟨?_, ?_, fun other member => ?_, kept invariant.begun, fun other member successor edge => ?_⟩
  · rw [List.nodup_append]
    refine ⟨invariant.nodup, List.nodup_singleton _, ?_⟩
    rintro old isOld _ last rfl
    rw [List.mem_singleton.mp last] at isOld
    exact fresh isOld
  · rw [List.length_append]
    omega
  · rcases List.mem_append.mp member with old | later
    · refine invariant.sound other ?_
      rcases List.mem_append.mp old with earlier | last
      · exact List.mem_append_left _ earlier
      · rw [List.mem_singleton.mp last]
        simp
    · rcases List.mem_append.mp later with new | waiting
      · exact (invariant.sound node (by simp)).tail new
      · exact invariant.sound other (by simp [waiting])
  · rcases List.mem_append.mp member with old | last
    · exact kept (invariant.closed other old successor edge)
    · rw [List.mem_singleton.mp last] at edge
      simp [edge]

theorem ExploreInvariant.explored (nodup : nodes.Nodup)
    (all : ∀ node, next node ≠ [] → node ∈ nodes)
    (invariant : ExploreInvariant next nodes start fuel seen stack) :
    (explore next fuel seen stack).Nodup ∧ ∀ target, target ∈ explore next fuel seen stack ↔
      ReflTransGen (fun node successor => successor ∈ next node) start target := by
  -- with an empty stack what has been seen is closed
  have ended : ∀ {fuel seen}, ExploreInvariant next nodes start fuel seen [] →
      ∀ target, target ∈ seen ↔
        ReflTransGen (fun node successor => successor ∈ next node) start target := by
    intro fuel seen invariant target
    obtain ⟨-, -, sound, begun, closed⟩ := invariant
    rw [List.append_nil] at sound begun closed
    refine ⟨sound target, fun path => ?_⟩
    induction path with
    | refl => exact begun
    | tail _ edge ih => exact closed _ ih _ edge
  induction fuel generalizing seen stack with
  | zero =>
    have enough := invariant.enough
    have empty : stack = [] := List.eq_nil_of_length_eq_zero (by omega)
    subst empty
    exact ⟨invariant.nodup, ended invariant⟩
  | succ fuel ih =>
    cases stack with
    | nil => exact ⟨invariant.nodup, ended invariant⟩
    | cons node stack =>
      rw [explore]
      split
      · next old => exact ih (invariant.skip old)
      · next fresh => exact ih (invariant.see nodup all fresh)

/-- With enough fuel the exploration lists each reachable node once. -/
theorem explore_spec (nodup : nodes.Nodup) (all : ∀ node, next node ≠ [] → node ∈ nodes)
    (start : α) (enough : 1 + (nodes.map fun node => (next node).length).sum ≤ fuel) :
    (explore next fuel [] [start]).Nodup ∧ ∀ target, target ∈ explore next fuel [] [start] ↔
      ReflTransGen (fun node successor => successor ∈ next node) start target := by
  have invariant : ExploreInvariant next nodes start fuel [] [start] := by
    refine ⟨List.nodup_nil, ?_, ?_, List.mem_singleton.mpr rfl, fun node impossible => ?_⟩
    · simpa [unseenEdges] using enough
    · intro node member
      rw [List.nil_append, List.mem_singleton] at member
      rw [member]
    · cases impossible
  exact invariant.explored nodup all

end Lib
