import CodeMigrator.Lib.Decimal
import CodeMigrator.Lib.Transition
import CodeMigrator.Workspace.Git

/-!
# The queue of repair refs

`RepairRefQueue` of `workspace/git.py`: its entries are refs with numbered names, which a new
process lists in the order of their names, and a deque in memory.
-/

namespace CodeMigrator
open Lib

/-- `RepairRefQueue`: the entries in memory and the next number. -/
structure RepairRefQueue where
  pending : List (String × String)
  nextSequence : Nat
  deriving DecidableEq

namespace RepairRefQueue
open Lib.Process OutputRepository

variable (layout : GitRefLayout)

/-- `_sequence`, `session_id` and `number` of a queue ref. -/
def readRef (queueRef : String) : Except GitError (Int × UUID × Int) :=
  let parts := split queueRef '/'
  if parts.length ≠ 9 then .error .integrity
  else
    match parts[6]?.bind (fun part => intBase10 part.toList), parts[7]?.bind UUID.parse,
        parts[8]?.bind (fun part => intBase10 part.toList) with
    | some sequence, some sessionId, some number => .ok (sequence, sessionId, number)
    | _, _, _ => .error .integrity

/-- One round of the loop of `__init__`; a negative number is no repair candidate. -/
def readEntry (queue : RepairRefQueue) (queueRef : String) : Git RepairRefQueue :=
  ofExcept (readRef queueRef) >>= fun (sequence, sessionId, number) =>
    if number < 0 then raise .value
    else
      resolve queueRef >>= fun oid => assertCommit oid >>= fun _ =>
        pure ⟨queue.pending ++ [(queueRef, layout.repairCandidate sessionId number.toNat)],
          max queue.nextSequence (sequence + 1).toNat⟩

/-- The loop of `__init__`. -/
def readEntries (queue : RepairRefQueue) : List String → Git RepairRefQueue
  | [] => pure queue
  | queueRef :: rest => readEntry layout queue queueRef >>= fun queue => readEntries queue rest

/-- `__init__`. -/
def rebuild : Git RepairRefQueue :=
  listRefs layout.queuePath >>= fun queueRefs => readEntries layout ⟨[], 0⟩ queueRefs

/-- `enqueue`, with the queue that it leaves. -/
def enqueue (queue : RepairRefQueue) (repairSessionId : UUID) (number : Nat) (candidateOid : GitOid) :
    Git (String × RepairRefQueue) :=
  let ref := layout.repairCandidate repairSessionId number
  createImmutableRef ref candidateOid >>= fun _ =>
    let queueRef := layout.repairQueue repairSessionId number queue.nextSequence
    createImmutableRef queueRef candidateOid >>= fun _ =>
      pure (ref, ⟨queue.pending ++ [(queueRef, ref)], queue.nextSequence + 1⟩)

/-- `dequeue` once the first entry has left the deque. -/
def removeFirst (entry : String × String) : Git String :=
  resolve entry.1 >>= fun candidateOid => deleteRef entry.1 candidateOid >>= fun _ => pure entry.2

end RepairRefQueue

/-! ## Runs -/

/-- What happens to the queue: a call whose Git commands run or fail, or a new process. -/
inductive RepairQueueInput where
  | enqueue (repairSessionId : UUID) (number : Nat) (candidateOid : GitOid) (fails : List Bool)
  | dequeue (fails : List Bool)
  | restart

/-- How an input ends. -/
inductive RepairQueueOutcome where
  | enqueued (ref : String)
  | dequeued (ref : Option String)
  | enqueueRaised
  | dequeueRaised
  | restarted
  | unavailable
  deriving DecidableEq

/-- The repository, and the queue of the process where it could be built. -/
structure RepairQueueState where
  repository : GitRepository
  queue : Option RepairRefQueue

namespace RepairRefQueue
open Lib.Process

variable (layout : GitRefLayout)

/-- The fates of the commands of a call. -/
def fatesOf (fails : List Bool) : List CommandFate := fails.map (fun fail => if fail then .fails else .runs)

/-- A step, with its outcome. -/
def handle (state : RepairQueueState) : RepairQueueInput → RepairQueueState × RepairQueueOutcome
  | .enqueue repairSessionId number candidateOid fails =>
    match state.queue with
    | none => (state, .unavailable)
    | some queue =>
      match enqueue layout queue repairSessionId number candidateOid
          ⟨state.repository, 0, fatesOf fails⟩ with
      | (.ok (ref, queue), world) => (⟨world.repository, some queue⟩, .enqueued ref)
      | (.error _, world) => (⟨world.repository, some queue⟩, .enqueueRaised)
  | .dequeue fails =>
    match state.queue with
    | none => (state, .unavailable)
    | some queue =>
      match queue.pending with
      | [] => (state, .dequeued none)
      | entry :: pending =>
        -- `popleft` comes before the commands that may raise
        let after : RepairRefQueue := { queue with pending := pending }
        match removeFirst entry ⟨state.repository, 0, fatesOf fails⟩ with
        | (.ok ref, world) => (⟨world.repository, some after⟩, .dequeued (some ref))
        | (.error _, world) => (⟨world.repository, some after⟩, .dequeueRaised)
  | .restart =>
    match rebuild layout ⟨state.repository, 0, []⟩ with
    | (.ok queue, world) => (⟨world.repository, some queue⟩, .restarted)
    | (.error _, world) => (⟨world.repository, none⟩, .unavailable)

/-- The state after a step. -/
def step (state : RepairQueueState) (input : RepairQueueInput) : RepairQueueState :=
  (handle layout state input).1

/-- The outcomes of a run. -/
def outcomes (state : RepairQueueState) : List RepairQueueInput → List RepairQueueOutcome
  | [] => []
  | input :: inputs => (handle layout state input).2 :: outcomes (step layout state input) inputs

end RepairRefQueue

/-! ## The specification -/

/-- The outcomes are those of a queue of refs: what was enqueued first is dequeued first, and a call
that raises leaves the queue as it is. -/
def Fifo (refs : List String) : List RepairQueueOutcome → Prop
  | [] => True
  | .enqueued ref :: rest => Fifo (refs ++ [ref]) rest
  | .dequeued ref :: rest => refs.head? = ref ∧ Fifo refs.tail rest
  | .unavailable :: _ => False
  | .enqueueRaised :: rest | .dequeueRaised :: rest | .restarted :: rest => Fifo refs rest

instance decidableFifo : (refs : List String) → (outcomes : List RepairQueueOutcome) →
    Decidable (Fifo refs outcomes)
  | _, [] => .isTrue trivial
  | refs, .enqueued ref :: rest => decidableFifo (refs ++ [ref]) rest
  | refs, .dequeued ref :: rest =>
    have := decidableFifo refs.tail rest
    inferInstanceAs (Decidable (refs.head? = ref ∧ Fifo refs.tail rest))
  | _, .unavailable :: _ => .isFalse id
  | refs, .enqueueRaised :: rest | refs, .dequeueRaised :: rest | refs, .restarted :: rest =>
    decidableFifo refs rest

/-! ## The names of the entries -/

/-- What an entry of the queue is about. -/
structure RepairEntry where
  repairSessionId : UUID
  number : Nat
  sequence : Nat

namespace RepairEntry

variable (layout : GitRefLayout) (entry : RepairEntry)

/-- The ref of the entry. -/
def queueRef : String := layout.repairQueue entry.repairSessionId entry.number entry.sequence

/-- The candidate that the entry stands for. -/
def repairRef : String := layout.repairCandidate entry.repairSessionId entry.number

/-- The entry in the memory of a process. -/
def pending : String × String := (entry.queueRef layout, entry.repairRef layout)

end RepairEntry

namespace GitRefLayout

theorem padded_digits {sequence : Nat} {c : Char} (member : c ∈ padded sequence) :
    c.isDigit = true := by
  rcases List.mem_append.mp member with zero | digit
  · rw [(List.mem_replicate.mp zero).2]
    rfl
  · exact digits_of_toDigits digit

theorem padded_ne_nil (sequence : Nat) : padded sequence ≠ [] := by
  have positive : 0 < (Nat.toDigits 10 sequence).length := Nat.length_toDigits_pos
  intro empty
  rw [padded, List.append_eq_nil_iff] at empty
  rw [empty.2] at positive
  exact absurd positive (by decide)

theorem padded_value (sequence : Nat) : Nat.ofDigitChars 10 (padded sequence) 0 = sequence := by
  rw [padded, Nat.ofDigitChars_append, Nat.ofDigitChars_replicate_zero, Nat.mul_zero,
    Nat.ofDigitChars_ten_toDigits]

theorem length_padded {sequence : Nat} (short : sequence < 10 ^ 20) :
    (padded sequence).length = 20 := by
  have := (Nat.length_toDigits_le_iff (b := 10) (by decide) (by decide : 0 < 20)).mpr short
  rw [padded, List.length_append, List.length_replicate]
  omega

theorem padded_lt {left right : Nat} (short : right < 10 ^ 20) (less : left < right) :
    padded left < padded right := by
  refine lt_of_ofDigitChars_lt ?_ (fun _ => padded_digits) (fun _ => padded_digits) ?_
  · rw [length_padded short, length_padded (less.trans short)]
  · rw [padded_value, padded_value]
    exact less

theorem slash_not_mem_str (u : UUID) : '/' ∉ u.str.toList := by
  intro member
  rcases UUID.mem_str member with equal | ⟨digit, small, equal⟩
  · exact absurd equal (by decide)
  · have all : ∀ v : Fin 16, '/' ≠ hexDigit v := by decide
    exact all ⟨digit, small⟩ equal

theorem slash_not_mem_digits {text : List Char} (digits : ∀ c ∈ text, c.isDigit = true) :
    '/' ∉ text := by
  intro member
  exact absurd (digits _ member) (by decide)

variable (layout : GitRefLayout)

theorem split_repairQueue (repairSessionId : UUID) (number sequence : Nat) :
    split (layout.repairQueue repairSessionId number sequence) '/' =
      ["refs", "codemigrator", "runs", layout.runId.str, "repairs", "queue",
        String.ofList (padded sequence), repairSessionId.str, toString number] := by
  have shape : (layout.repairQueue repairSessionId number sequence).toList =
      "refs".toList ++ '/' :: ("codemigrator".toList ++ '/' :: ("runs".toList ++ '/' ::
        (layout.runId.str.toList ++ '/' :: ("repairs".toList ++ '/' :: ("queue".toList ++ '/' ::
          (padded sequence ++ '/' :: (repairSessionId.str.toList ++ '/' ::
            Nat.toDigits 10 number))))))) := by
    have start : "refs/codemigrator/runs/".toList =
        "refs".toList ++ '/' :: ("codemigrator".toList ++ '/' :: ("runs".toList ++ ['/'])) := rfl
    have middle : "/repairs/queue".toList = '/' :: ("repairs".toList ++ '/' :: "queue".toList) := rfl
    have slash : "/".toList = ['/'] := rfl
    have digits : (toString number).toList = Nat.toDigits 10 number := by simp
    simp only [repairQueue, queuePath, run_eq, String.toList_append, start, middle, slash, digits,
      String.toList_ofList, List.append_assoc, List.cons_append, List.nil_append]
  have number_text : String.ofList (Nat.toDigits 10 number) = toString number :=
    Nat.repr_eq_ofList_toDigits.symm
  rw [split, shape, splitList_append (by decide), splitList_append (by decide),
    splitList_append (by decide), splitList_append (slash_not_mem_str _),
    splitList_append (by decide), splitList_append (by decide),
    splitList_append (slash_not_mem_digits fun _ => padded_digits),
    splitList_append (slash_not_mem_str _),
    splitList_of_not_mem (slash_not_mem_digits fun _ => digits_of_toDigits)]
  simp only [List.map_cons, List.map_nil, String.ofList_toList, number_text]

theorem readRef_repairQueue (repairSessionId : UUID) (number sequence : Nat) :
    RepairRefQueue.readRef (layout.repairQueue repairSessionId number sequence) =
      .ok (sequence, repairSessionId, number) := by
  have sequence_read : intBase10 (padded sequence) = some (sequence : Int) := by
    rw [intBase10_decimal (padded_ne_nil _) (fun _ => padded_digits), padded_value]
  have number_read := intBase10_toDigits number
  simp only [RepairRefQueue.readRef, split_repairQueue]
  simp [sequence_read, number_read]

theorem repairQueue_below (repairSessionId : UUID) (number sequence : Nat) :
    OutputRepository.below layout.queuePath
      (layout.repairQueue repairSessionId number sequence) = true := by
  rw [OutputRepository.below, Bool.or_eq_true]
  refine .inr ((startsWith_iff _ _).mpr ?_)
  refine ⟨padded sequence ++ '/' :: (repairSessionId.str.toList ++ '/' :: Nat.toDigits 10 number), ?_⟩
  simp [repairQueue]

theorem repairCandidate_not_below (repairSessionId : UUID) (number : Nat) :
    OutputRepository.below layout.queuePath (layout.repairCandidate repairSessionId number) =
      false := by
  have different : ∀ tail : List Char, repairSessionId.str.toList ++ '/' :: tail ≠ "queue".toList ∧
      ∀ rest, repairSessionId.str.toList ++ '/' :: tail ≠ "queue".toList ++ rest := by
    intro tail
    have first : ∀ rest : List Char, repairSessionId.str.toList ++ '/' :: tail ≠ 'q' :: rest := by
      intro rest equal
      cases shape : repairSessionId.str.toList with
      | nil =>
        rw [shape] at equal
        exact absurd (List.cons.inj equal).1 (by decide)
      | cons c text =>
        rw [shape] at equal
        have member : c ∈ repairSessionId.str.toList := by rw [shape]; exact List.mem_cons_self
        rw [(List.cons.inj equal).1] at member
        rcases UUID.mem_str member with hyphen | ⟨digit, small, equal⟩
        · exact absurd hyphen (by decide)
        · have all : ∀ v : Fin 16, 'q' ≠ hexDigit v := by decide
          exact all ⟨digit, small⟩ equal
    exact ⟨first _, fun rest => first _⟩
  have shape : (layout.repairCandidate repairSessionId number).toList =
      (layout.run ++ "/repairs/").toList ++ (repairSessionId.str.toList ++ '/' ::
        ("candidates/".toList ++ Nat.toDigits 10 number)) := by
    simp [repairCandidate]
  have path : layout.queuePath.toList = (layout.run ++ "/repairs/").toList ++ "queue".toList := by
    simp [queuePath]
  rw [OutputRepository.below, Bool.or_eq_false_iff]
  constructor
  · rw [beq_eq_false_iff_ne]
    intro equal
    have lists := congrArg String.toList equal
    rw [shape, path, List.append_cancel_left_eq] at lists
    exact (different _).1 lists
  · rw [Bool.eq_false_iff]
    intro starts
    obtain ⟨rest, lists⟩ := (startsWith_iff _ _).mp starts
    rw [String.toList_append, shape, path, List.append_assoc, List.append_assoc,
      List.append_cancel_left_eq] at lists
    exact (different _).2 _ lists.symm

end GitRefLayout

namespace RepairEntry

variable {layout : GitRefLayout}

theorem queueRef_lt {left right : RepairEntry} (short : right.sequence < 10 ^ 20)
    (less : left.sequence < right.sequence) : left.queueRef layout < right.queueRef layout := by
  have padded := GitRefLayout.padded_lt short less
  have shape : ∀ entry : RepairEntry, (entry.queueRef layout).toList =
      (layout.queuePath ++ "/").toList ++ (GitRefLayout.padded entry.sequence ++
        ('/' :: (entry.repairSessionId.str.toList ++ '/' :: Nat.toDigits 10 entry.number))) := by
    intro entry
    simp [queueRef, GitRefLayout.repairQueue]
  have same : (GitRefLayout.padded left.sequence).length =
      (GitRefLayout.padded right.sequence).length := by
    rw [GitRefLayout.length_padded short, GitRefLayout.length_padded (less.trans short)]
  rw [String.lt_iff_toList_lt, shape, shape]
  exact List.append_left_lt (append_lt_append padded same)

theorem eq_of_queueRef {left right : RepairEntry}
    (same : left.queueRef layout = right.queueRef layout) : left = right := by
  have read := congrArg RepairRefQueue.readRef same
  rw [queueRef, queueRef, GitRefLayout.readRef_repairQueue, GitRefLayout.readRef_repairQueue] at read
  injection read with read
  simp only [Prod.mk.injEq, Nat.cast_inj] at read
  obtain ⟨sequence, session, number⟩ := read
  cases left
  cases right
  simp_all

end RepairEntry

namespace RepairRefQueue
open Lib.Process OutputRepository

variable {layout : GitRefLayout} {entries : List RepairEntry} {state : RepairQueueState}

/-! ## Rebuilding -/

theorem readEntry_healthy {repository : GitRepository} {entry : RepairEntry} {oid : GitOid}
    (named : commitAt repository (entry.queueRef layout) = some oid) (queue : RepairRefQueue) :
    readEntry layout queue (entry.queueRef layout) ⟨repository, 0, []⟩ =
      (.ok ⟨queue.pending ++ [entry.pending layout], max queue.nextSequence (entry.sequence + 1)⟩,
        ⟨repository, 0, []⟩) := by
  have read : readRef (entry.queueRef layout) =
      .ok (entry.sequence, entry.repairSessionId, entry.number) :=
    layout.readRef_repairQueue _ _ _
  have present : ∃ commit, repository.commits.get? oid = some commit := by
    obtain ⟨_, present⟩ := Option.filter_eq_some_iff.mp named
    exact Option.isSome_iff_exists.mp present
  obtain ⟨commit, present⟩ := present
  rw [readEntry, read]
  refine (bind_of_ok rfl).trans ?_
  dsimp only
  rw [if_neg (by omega)]
  refine (bind_of_ok (query_healthy named)).trans ?_
  refine (bind_of_ok (query_healthy (by rw [present]; rfl))).trans ?_
  rfl

theorem readEntries_healthy {repository : GitRepository}
    (named : ∀ entry ∈ entries, ∃ oid, commitAt repository (entry.queueRef layout) = some oid)
    (queue : RepairRefQueue) :
    ∃ next, readEntries layout queue (entries.map (RepairEntry.queueRef layout))
        ⟨repository, 0, []⟩ =
      (.ok ⟨queue.pending ++ entries.map (RepairEntry.pending layout), next⟩, ⟨repository, 0, []⟩) ∧
      queue.nextSequence ≤ next ∧ ∀ entry ∈ entries, entry.sequence < next := by
  induction entries generalizing queue with
  | nil => exact ⟨queue.nextSequence, by simp [readEntries]; rfl, le_refl _, by simp⟩
  | cons entry entries ih =>
    obtain ⟨oid, here⟩ := named entry List.mem_cons_self
    obtain ⟨next, ran, le, below⟩ := ih
      (fun entry member => named entry (List.mem_cons_of_mem _ member))
      ⟨queue.pending ++ [entry.pending layout], max queue.nextSequence (entry.sequence + 1)⟩
    dsimp only at ran le
    refine ⟨next, ?_, by omega, ?_⟩
    · rw [List.map_cons, readEntries]
      refine (bind_of_ok (readEntry_healthy here queue)).trans ?_
      rw [ran, List.append_assoc]
      rfl
    · intro other member
      rcases List.mem_cons.mp member with rfl | later
      · omega
      · exact below other later

/-! ## The refs of the queue -/

/-- The queue refs of the repository are those of the entries, whose numbers increase. -/
structure Holds (layout : GitRefLayout) (repository : GitRepository)
    (entries : List RepairEntry) : Prop where
  ordered : entries.Pairwise (fun left right => left.sequence < right.sequence)
  short : ∀ entry ∈ entries, entry.sequence < 10 ^ 20
  listed : ∀ ref, below layout.queuePath ref = true →
    ((∃ oid, repository.refs.get? ref = some oid) ↔ ∃ entry ∈ entries, entry.queueRef layout = ref)
  named : ∀ entry ∈ entries, ∃ oid, commitAt repository (entry.queueRef layout) = some oid

theorem Holds.refsBelow {repository : GitRepository} (holds : Holds layout repository entries) :
    OutputRepository.refsBelow repository layout.queuePath =
      entries.map (RepairEntry.queueRef layout) := by
  apply refsBelow_eq
  · rw [List.pairwise_map]
    refine holds.ordered.imp_of_mem fun {left right} _ member less => ?_
    exact RepairEntry.queueRef_lt (holds.short right member) less
  · intro ref
    rw [List.mem_map]
    constructor
    · rintro ⟨entry, member, rfl⟩
      have inside : below layout.queuePath (entry.queueRef layout) = true :=
        layout.repairQueue_below _ _ _
      exact ⟨inside, (holds.listed _ inside).mpr ⟨entry, member, rfl⟩⟩
    · rintro ⟨inside, present⟩
      exact (holds.listed ref inside).mp present

theorem commitAt_congr {repository after : GitRepository} {ref : String}
    (refs : after.refs.get? ref = repository.refs.get? ref)
    (commits : after.commits = repository.commits) : commitAt after ref = commitAt repository ref := by
  rw [commitAt, commitAt, refs, commits]

theorem Holds.elsewhere {repository after : GitRepository} (holds : Holds layout repository entries)
    (refs : ∀ ref, below layout.queuePath ref = true →
      after.refs.get? ref = repository.refs.get? ref) (commits : after.commits = repository.commits) :
    Holds layout after entries := by
  refine ⟨holds.ordered, holds.short, fun ref inside => ?_, fun entry member => ?_⟩
  · rw [refs ref inside]
    exact holds.listed ref inside
  · obtain ⟨oid, named⟩ := holds.named entry member
    refine ⟨oid, ?_⟩
    rw [← named]
    exact commitAt_congr (refs _ (layout.repairQueue_below _ _ _)) commits

theorem Holds.append {repository : GitRepository} {entries : List RepairEntry}
    (holds : Holds layout repository entries) {entry : RepairEntry} {oid : GitOid}
    (larger : ∀ other ∈ entries, other.sequence < entry.sequence) (short : entry.sequence < 10 ^ 20)
    (named : commitAt { repository with
      refs := repository.refs.set (entry.queueRef layout) oid } (entry.queueRef layout) = some oid) :
    Holds layout { repository with refs := repository.refs.set (entry.queueRef layout) oid }
      (entries ++ [entry]) := by
  refine ⟨?_, ?_, fun ref inside => ?_, ?_⟩
  · rw [List.pairwise_append]
    refine ⟨holds.ordered, List.pairwise_singleton _ _, fun other member last equal => ?_⟩
    rw [List.mem_singleton.mp equal]
    exact larger other member
  · intro other member
    rcases List.mem_append.mp member with earlier | last
    · exact holds.short other earlier
    · rw [List.mem_singleton.mp last]
      exact short
  · simp only [Dict.get?_set, List.mem_append, List.mem_singleton]
    by_cases same : entry.queueRef layout = ref
    · subst same
      simp only [if_true, Option.some.injEq, exists_eq', true_iff]
      exact ⟨entry, .inr rfl, rfl⟩
    · rw [if_neg (Ne.symm same), holds.listed ref inside]
      constructor
      · rintro ⟨other, member, name⟩
        exact ⟨other, .inl member, name⟩
      · rintro ⟨other, member | rfl, name⟩
        · exact ⟨other, member, name⟩
        · exact absurd name same
  · intro other member
    rcases List.mem_append.mp member with earlier | last
    · obtain ⟨found, earlier_named⟩ := holds.named other earlier
      refine ⟨found, ?_⟩
      rw [← earlier_named]
      refine commitAt_congr ?_ rfl
      rw [Dict.get?_set, if_neg]
      intro same
      rw [RepairEntry.eq_of_queueRef same] at earlier
      exact absurd (larger entry earlier) (lt_irrefl _)
    · rw [List.mem_singleton.mp last]
      exact ⟨oid, named⟩

theorem Holds.tail {repository : GitRepository} {entry : RepairEntry} {entries : List RepairEntry}
    (holds : Holds layout repository (entry :: entries)) :
    Holds layout { repository with refs := repository.refs.erase (entry.queueRef layout) }
      entries := by
  have ordered := List.pairwise_cons.mp holds.ordered
  have others : ∀ other ∈ entries, other.queueRef layout ≠ entry.queueRef layout := by
    intro other member same
    have less := ordered.1 other member
    rw [RepairEntry.eq_of_queueRef same] at less
    exact absurd less (lt_irrefl _)
  refine ⟨ordered.2, fun other member => holds.short other (List.mem_cons_of_mem _ member),
    fun ref inside => ?_, fun other member => ?_⟩
  · dsimp only
    rw [Dict.get?_erase]
    by_cases same : ref = entry.queueRef layout
    · subst same
      rw [if_pos rfl]
      constructor
      · rintro ⟨oid, impossible⟩
        cases impossible
      · rintro ⟨other, member, name⟩
        exact absurd name (others other member)
    · rw [if_neg same, holds.listed ref inside]
      constructor
      · rintro ⟨other, member, name⟩
        rcases List.mem_cons.mp member with rfl | later
        · exact absurd name.symm same
        · exact ⟨other, later, name⟩
      · rintro ⟨other, member, name⟩
        exact ⟨other, List.mem_cons_of_mem _ member, name⟩
  · obtain ⟨oid, named⟩ := holds.named other (List.mem_cons_of_mem _ member)
    refine ⟨oid, ?_⟩
    rw [← named]
    refine commitAt_congr ?_ rfl
    rw [Dict.get?_erase, if_neg (others other member)]

/-! ## Steps -/

/-- The deque holds the entries of the repository, but for those that a call has lost. -/
structure Stands (layout : GitRefLayout) (state : RepairQueueState) (entries : List RepairEntry)
    (queue : RepairRefQueue) (lost : Nat) : Prop where
  available : state.queue = some queue
  holds : Holds layout state.repository entries
  inside : lost ≤ entries.length
  pending : queue.pending = (entries.drop lost).map (RepairEntry.pending layout)
  below : ∀ entry ∈ entries, entry.sequence < queue.nextSequence

/-- What the code relies on: at a dequeue the deque holds all refs of the queue, and the number
of a new entry has at most twenty digits. -/
def intact (layout : GitRefLayout) (state : RepairQueueState) : RepairQueueInput → Bool
  | .enqueue .. => state.queue.all (fun queue => queue.nextSequence < 10 ^ 20)
  | .dequeue _ => state.queue.all (fun queue => queue.pending.map Prod.fst ==
      OutputRepository.refsBelow state.repository layout.queuePath)
  | .restart => true

/-- The code finds what it relies on. -/
def Intact (layout : GitRefLayout) (state : RepairQueueState) (input : RepairQueueInput) : Prop :=
  intact layout state input = true

/-- Some entries stand behind the state, and their refs are those of the queue. -/
def Backed (layout : GitRefLayout) (state : RepairQueueState) (refs : List String) : Prop :=
  ∃ entries queue lost, Stands layout state entries queue lost ∧
    refs = entries.map (RepairEntry.repairRef layout)

/-- One outcome of the specification. -/
def Answers (refs : List String) (outcome : RepairQueueOutcome) (left : List String) : Prop :=
  match outcome with
  | .enqueued ref => left = refs ++ [ref]
  | .dequeued ref => refs.head? = ref ∧ left = refs.tail
  | .unavailable => False
  | .enqueueRaised | .dequeueRaised | .restarted => left = refs

theorem spared_fatesOf (fails : List Bool) : .dies ∉ fatesOf fails := by
  intro member
  obtain ⟨fail, -, equal⟩ := List.mem_map.mp member
  cases fail with
  | true => cases equal
  | false => cases equal

theorem survives_enqueue (layout : GitRefLayout) (queue : RepairRefQueue) (repairSessionId : UUID)
    (number : Nat) (oid : GitOid) :
    Survives (enqueue layout queue repairSessionId number oid) :=
  (survives_createImmutableRef _ _).bind fun _ =>
    (survives_createImmutableRef _ _).bind fun _ => survives_pure _

theorem survives_removeFirst (entry : String × String) : Survives (removeFirst entry) :=
  (survives_query _).bind fun _ => (survives_deleteRef _ _).bind fun _ => survives_pure _

theorem enqueue_backed {refs : List String} (backed : Backed layout state refs)
    {repairSessionId : UUID} {number : Nat} {oid : GitOid} {fails : List Bool}
    (intact : Intact layout state (.enqueue repairSessionId number oid fails)) :
    ∃ left, Answers refs (handle layout state (.enqueue repairSessionId number oid fails)).2 left ∧
      Backed layout (handle layout state (.enqueue repairSessionId number oid fails)).1 left := by
  obtain ⟨entries, queue, lost, stands, rfl⟩ := backed
  let entry : RepairEntry := ⟨repairSessionId, number, queue.nextSequence⟩
  have short : queue.nextSequence < 10 ^ 20 := by
    simpa [Intact, RepairRefQueue.intact, stands.available] using intact
  have outside := layout.repairCandidate_not_below repairSessionId number
  -- the candidate ref does not touch the queue
  have candidate : ∀ after, Bound state.repository after (layout.repairCandidate repairSessionId number)
      oid → Holds layout after entries := by
    rintro after ⟨-, rfl | rfl⟩
    · exact stands.holds
    · refine stands.holds.elsewhere (fun ref inside => ?_) rfl
      rw [Dict.get?_set, if_neg]
      rintro rfl
      rw [outside] at inside
      exact absurd inside (by decide)
  have ended : (enqueue layout queue repairSessionId number oid).After
      ⟨fun result after => result = (entry.repairRef layout,
          ⟨queue.pending ++ [entry.pending layout], queue.nextSequence + 1⟩) ∧
          Holds layout after.repository (entries ++ [entry]),
        fun _ after => Holds layout after.repository entries,
        fun after => True⟩ ⟨state.repository, 0, fatesOf fails⟩ := by
    rw [enqueue, after_bind]
    refine (after_createImmutableRef rfl _ _).weaken ⟨fun _ world bound => ?_, ?_, fun _ _ => trivial⟩
    · dsimp only
      rw [after_bind]
      refine (after_createImmutableRef rfl _ _).weaken ⟨fun _ last bound' => ?_, ?_, fun _ _ => trivial⟩
      · refine ⟨rfl, ?_⟩
        have here := candidate world.repository bound
        rcases bound' with ⟨named, same | same⟩
        · -- no entry has the number of the next one
          rw [same] at named ⊢
          have present : ∃ oid, world.repository.refs.get? (entry.queueRef layout) = some oid :=
            ⟨oid, (Option.filter_eq_some_iff.mp named).1⟩
          obtain ⟨other, member, name⟩ :=
            (here.listed _ (layout.repairQueue_below _ _ _)).mp present
          have below := stands.below other member
          rw [RepairEntry.eq_of_queueRef name] at below
          exact absurd below (lt_irrefl _)
        · rw [same] at named ⊢
          exact @Holds.append layout _ entries here entry _ stands.below short named
      · intro error after same
        change Holds layout after.repository entries
        rw [show after.repository = world.repository from same]
        exact candidate world.repository bound
    · intro error after same
      change Holds layout after.repository entries
      rw [show after.repository = state.repository from same]
      exact stands.holds
  have both := ended.and (survives_enqueue layout queue repairSessionId number oid
    ⟨state.repository, 0, fatesOf fails⟩ (spared_fatesOf fails))
  unfold After at both
  simp only [handle, stands.available]
  generalize enqueue layout queue repairSessionId number oid
    ⟨state.repository, 0, fatesOf fails⟩ = result at both
  rcases result with ⟨(⟨error⟩ | _) | value, after⟩
  · -- the number was not used
    exact ⟨_, rfl, entries, queue, lost, ⟨rfl, both.1, stands.inside, stands.pending, stands.below⟩, rfl⟩
  · exact both.2.elim
  · obtain ⟨⟨rfl, holds⟩, -⟩ := both
    refine ⟨_, rfl, entries ++ [entry], _, lost, ⟨rfl, holds, ?_, ?_, ?_⟩, ?_⟩
    · rw [List.length_append]
      exact stands.inside.trans (Nat.le_add_right _ _)
    · dsimp only
      rw [List.drop_append_of_le_length stands.inside, List.map_append, stands.pending]
      rfl
    · intro other member
      rcases List.mem_append.mp member with earlier | last
      · exact (stands.below other earlier).trans (Nat.lt_succ_self _)
      · rw [List.mem_singleton.mp last]
        exact Nat.lt_succ_self _
    · rw [List.map_append]
      rfl

theorem dequeue_backed {refs : List String} (backed : Backed layout state refs) {fails : List Bool}
    (intact : Intact layout state (.dequeue fails)) :
    ∃ left, Answers refs (handle layout state (.dequeue fails)).2 left ∧
      Backed layout (handle layout state (.dequeue fails)).1 left := by
  obtain ⟨entries, queue, lost, stands, rfl⟩ := backed
  have all : queue.pending = entries.map (RepairEntry.pending layout) := by
    have names : queue.pending.map Prod.fst = refsBelow state.repository layout.queuePath := by
      simpa [Intact, RepairRefQueue.intact, stands.available] using intact
    rw [stands.holds.refsBelow, stands.pending, List.map_map] at names
    have lengths := congrArg List.length names
    simp only [List.length_map, List.length_drop] at lengths
    have inside := stands.inside
    rw [stands.pending]
    rcases Nat.eq_zero_or_pos lost with none | some
    · rw [none, List.drop_zero]
    · have empty : entries = [] := List.length_eq_zero_iff.mp (by omega)
      rw [empty, List.drop_nil]
  simp only [handle, stands.available]
  cases entries with
  | nil =>
    simp only [all, List.map_nil]
    exact ⟨[], ⟨rfl, rfl⟩, [], queue, lost, stands, rfl⟩
  | cons entry entries =>
    have ended : (removeFirst (entry.pending layout)).After
        ⟨fun ref after => ref = entry.repairRef layout ∧ Holds layout after.repository entries,
          fun _ after => Holds layout after.repository (entry :: entries),
          fun _ => True⟩ ⟨state.repository, 0, fatesOf fails⟩ := by
      rw [removeFirst, after_bind]
      refine after_query ⟨stands.holds, trivial⟩ fun oid named => ?_
      dsimp only
      rw [after_bind]
      refine (after_deleteRef rfl _ _).weaken ⟨fun _ after done => ?_, fun _ after same => ?_,
        fun _ _ => trivial⟩
      · refine ⟨rfl, ?_⟩
        rw [show after.repository = _ from done.2]
        exact stands.holds.tail
      · change Holds layout after.repository (entry :: entries)
        rw [show after.repository = state.repository from same]
        exact stands.holds
    have both := ended.and (survives_removeFirst (entry.pending layout)
      ⟨state.repository, 0, fatesOf fails⟩ (spared_fatesOf fails))
    unfold After at both
    simp only [all, List.map_cons]
    generalize removeFirst (entry.pending layout) ⟨state.repository, 0, fatesOf fails⟩ = result at both
    rcases result with ⟨(⟨error⟩ | _) | value, after⟩
    · -- the deque has lost the entry
      refine ⟨_, rfl, entry :: entries, _, 1, ⟨rfl, both.1, ?_, rfl, stands.below⟩, rfl⟩
      rw [List.length_cons]
      omega
    · exact both.2.elim
    · obtain ⟨⟨rfl, holds⟩, -⟩ := both
      exact ⟨_, ⟨rfl, rfl⟩, entries, _, 0, ⟨rfl, holds, Nat.zero_le _, rfl,
        fun other member => stands.below other (List.mem_cons_of_mem _ member)⟩, rfl⟩

theorem restart_backed {refs : List String} (backed : Backed layout state refs) :
    ∃ left, Answers refs (handle layout state .restart).2 left ∧
      Backed layout (handle layout state .restart).1 left := by
  obtain ⟨entries, queue, lost, stands, rfl⟩ := backed
  obtain ⟨next, ran, -, below⟩ := readEntries_healthy stands.holds.named ⟨[], 0⟩
  have rebuilt : rebuild layout ⟨state.repository, 0, []⟩ =
      (.ok ⟨entries.map (RepairEntry.pending layout), next⟩, ⟨state.repository, 0, []⟩) := by
    have listed : listRefs layout.queuePath ⟨state.repository, 0, []⟩ =
        (.ok (entries.map (RepairEntry.queueRef layout)), ⟨state.repository, 0, []⟩) := by
      rw [← stands.holds.refsBelow]
      exact query_healthy rfl
    rw [rebuild, bind_of_ok listed, ran]
    rfl
  simp only [handle, rebuilt]
  exact ⟨_, rfl, entries, _, 0, ⟨rfl, stands.holds, Nat.zero_le _, rfl, below⟩, rfl⟩

theorem handle_backed {refs : List String} (backed : Backed layout state refs)
    {input : RepairQueueInput} (intact : Intact layout state input) :
    ∃ left, Answers refs (handle layout state input).2 left ∧
      Backed layout (handle layout state input).1 left := by
  cases input with
  | enqueue repairSessionId number oid fails => exact enqueue_backed backed intact
  | dequeue fails => exact dequeue_backed backed intact
  | restart => exact restart_backed backed

theorem Answers.fifo {refs left : List String} {outcome : RepairQueueOutcome}
    {rest : List RepairQueueOutcome} (answers : Answers refs outcome left) (later : Fifo left rest) :
    Fifo refs (outcome :: rest) := by
  cases outcome with
  | enqueued ref =>
    cases answers
    exact later
  | dequeued ref =>
    obtain ⟨head, rfl⟩ := answers
    exact ⟨head, later⟩
  | unavailable => exact answers.elim
  | enqueueRaised =>
    cases answers
    exact later
  | dequeueRaised =>
    cases answers
    exact later
  | restarted =>
    cases answers
    exact later

theorem outcomes_fifo {refs : List String} (backed : Backed layout state refs)
    {inputs : List RepairQueueInput} (intact : Along (step layout) (Intact layout) state inputs) :
    Fifo refs (outcomes layout state inputs) := by
  induction inputs generalizing state refs with
  | nil => trivial
  | cons input inputs ih =>
    obtain ⟨left, answers, backed⟩ := handle_backed backed intact.1
    exact answers.fifo (ih backed intact.2)

theorem empty_backed {repository : GitRepository}
    (empty : OutputRepository.refsBelow repository layout.queuePath = []) :
    Backed layout ⟨repository, some ⟨[], 0⟩⟩ [] := by
  refine ⟨[], ⟨[], 0⟩, 0, ⟨rfl, ⟨List.Pairwise.nil, by simp, fun ref inside => ?_, by simp⟩, le_refl _,
    rfl, by simp⟩, rfl⟩
  constructor
  · rintro present
    have listed : ref ∈ OutputRepository.refsBelow repository layout.queuePath := by
      rw [OutputRepository.refsBelow, List.mem_insertionSort, List.mem_filter, Dict.mem_keys_iff]
      exact ⟨present, inside⟩
    rw [empty] at listed
    cases listed
  · rintro ⟨entry, member, -⟩
    cases member

/-- In every run of enqueues, dequeues and restarts in which the deque holds the refs of the queue
at each dequeue, the queue is first in, first out, and gives out each entry once. -/
theorem repair_queue_fifo (layout : GitRefLayout) (repository : GitRepository)
    (inputs : List RepairQueueInput)
    (empty : OutputRepository.refsBelow repository layout.queuePath = [])
    (intact : Along (step layout) (Intact layout) ⟨repository, some ⟨[], 0⟩⟩ inputs) :
    Fifo [] (outcomes layout ⟨repository, some ⟨[], 0⟩⟩ inputs) :=
  outcomes_fifo (empty_backed empty) intact

end RepairRefQueue

namespace SampleQueue
open RepairRefQueue

/-- A run. -/
def layout : GitRefLayout := ⟨⟨3⟩⟩

/-- A commit. -/
def oid : GitOid := SampleOids.first

/-- A repository without refs. -/
def repository : GitRepository := ⟨Dict.empty.set oid ⟨Dict.empty, [], "", 0⟩, Dict.empty⟩

/-- Two entries; the first dequeue cannot delete its ref, and the process is restarted. -/
def inputs : List RepairQueueInput :=
  [.enqueue ⟨7⟩ 0 oid [], .enqueue ⟨8⟩ 0 oid [], .dequeue [false, false, true], .restart,
    .dequeue [], .dequeue []]

set_option maxRecDepth 4096 in
theorem repair_queue_fifo_restarted :
    .dequeueRaised ∈ outcomes layout ⟨repository, some ⟨[], 0⟩⟩ inputs ∧
      Fifo [] (outcomes layout ⟨repository, some ⟨[], 0⟩⟩ inputs) := by
  refine ⟨by decide +kernel, repair_queue_fifo layout repository inputs (by decide) ?_⟩
  unfold inputs Along Intact
  decide +kernel

/-- After a dequeue whose deletion fails the next one finds nothing. -/
theorem entry_lost :
    ¬ ∀ (layout : GitRefLayout) (repository : GitRepository) (inputs : List RepairQueueInput),
      OutputRepository.refsBelow repository layout.queuePath = [] →
        Fifo [] (outcomes layout ⟨repository, some ⟨[], 0⟩⟩ inputs) := by
  intro claim
  have fifo := claim layout repository
    [.enqueue ⟨7⟩ 0 oid [], .dequeue [false, false, true], .dequeue []] (by decide)
  revert fifo
  decide

end SampleQueue

end CodeMigrator
