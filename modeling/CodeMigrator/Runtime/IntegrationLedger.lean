import CodeMigrator.Runtime.StoreCalls
import Mathlib.Data.List.Chain

/-!
# The integration ledger

Intents and receipts of integrations in the store (`runtime/store.py`) over every
sequence of its calls. A receipt is stored together with the events that it announces,
so the receipts of a Run stand in the order of their event sequences, and each one
was checked against the one before it.
-/

namespace CodeMigrator
open Lib

/-- A receipt expects the head that the receipt before it has verified. -/
def Extends (earlier later : IntegrationReceipt) : Prop :=
  later.intent.expectedVerifiedOid = earlier.verifiedCommitOid

/-- The integration ledger of every Run: at most one intent waits for its receipt, every
receipt is one of a stored intent, and in the order of their events the receipts form a
chain. -/
structure IntegrationsChained (store : EvolvingStore) : Prop where
  pending : ∀ runId, (store.listPendingIntegrationIntents runId).length ≤ 1
  intended : ∀ runId key receipt, store.integrationReceipts.get? (runId, key) = some receipt →
    store.integrationIntents.get? (runId, key) = some receipt.intent
  chain : ∀ runId, (store.listIntegrationReceipts runId).IsChain Extends

/-- A stored intent stays as it is. -/
def IntentsKept (before after : EvolvingStore) : Prop :=
  ∀ key intent, before.integrationIntents.get? key = some intent →
    after.integrationIntents.get? key = some intent

namespace RuntimeStore

/-- The receipts of a Run as they were stored. -/
def receiptsOf (store : RuntimeStore) (runId : RunId) : List IntegrationReceipt :=
  (store.integrationReceipts.entries.filter (fun entry => entry.1.1 = runId)).map (·.2)

theorem loadLatestIntegrationReceipt_eq (store : RuntimeStore) (runId : RunId) :
    store.loadLatestIntegrationReceipt runId =
      latestBy IntegrationReceipt.eventSequence (store.receiptsOf runId) := by
  rw [loadLatestIntegrationReceipt, latestBy, receiptsOf, List.foldl_map]
  congr 1
  funext latest entry
  cases latest with
  | none => rfl
  | some receipt => rfl

end RuntimeStore

/-- The invariant: the receipts of a Run stand in the order of their sequences, which its
ledger has reached. -/
structure IntegrationsOrdered (store : RuntimeStore) : Prop where
  pending : ∀ runId, (store.listPendingIntegrationIntents runId).length ≤ 1
  intended : ∀ key receipt, store.integrationReceipts.get? key = some receipt →
    store.integrationIntents.get? key = some receipt.intent
  increasing : ∀ runId, (store.receiptsOf runId).Pairwise
    (fun left right => left.eventSequence < right.eventSequence)
  reached : ∀ runId, ∀ receipt ∈ store.receiptsOf runId,
    receipt.eventSequence ≤ (store.ledger runId).length
  chain : ∀ runId, (store.receiptsOf runId).IsChain Extends

section Invariant

variable {store after : RuntimeStore} {runId : Option RunId}

theorem IntegrationsOrdered.listed (ordered : IntegrationsOrdered store) (run : RunId) :
    store.listIntegrationReceipts run = store.receiptsOf run :=
  List.Pairwise.insertionSort_eq ((ordered.increasing run).imp Nat.le_of_lt)

theorem IntegrationsOrdered.chained {store : EvolvingStore}
    (ordered : IntegrationsOrdered store.toRuntimeStore) : IntegrationsChained store where
  pending := ordered.pending
  intended := fun run key receipt found => ordered.intended (run, key) receipt found
  chain := by
    intro run
    rw [ordered.listed run]
    exact ordered.chain run

theorem IntegrationsOrdered.grow (ordered : IntegrationsOrdered store)
    (intents : after.integrationIntents = store.integrationIntents)
    (receipts : after.integrationReceipts = store.integrationReceipts)
    (grows : ∀ run, store.ledger run <+: after.ledger run) : IntegrationsOrdered after := by
  have receiptsOf : ∀ run, after.receiptsOf run = store.receiptsOf run := by
    intro run
    rw [RuntimeStore.receiptsOf, receipts]
    rfl
  refine ⟨?_, ?_, ?_, ?_, ?_⟩
  · intro run
    rw [RuntimeStore.listPendingIntegrationIntents, intents, receipts]
    exact ordered.pending run
  · rw [intents, receipts]
    exact ordered.intended
  · intro run
    rw [receiptsOf]
    exact ordered.increasing run
  · intro run receipt member
    rw [receiptsOf] at member
    exact Nat.le_trans (ordered.reached run receipt member) (grows run).length_le
  · intro run
    rw [receiptsOf]
    exact ordered.chain run

theorem IntegrationsOrdered.intend (ordered : IntegrationsOrdered store)
    {intent : IntegrationIntent}
    (absent : store.integrationIntents.get? (intent.runId, intent.idempotencyKey) = none)
    (settled : ∀ key ∈ store.integrationIntents.keys, key.1 = intent.runId →
      key ∈ store.integrationReceipts.keys)
    (snapshots : after.snapshots = store.snapshots)
    (intents : after.integrationIntents =
      store.integrationIntents.set (intent.runId, intent.idempotencyKey) intent)
    (receipts : after.integrationReceipts = store.integrationReceipts) :
    IntegrationsOrdered after := by
  have receiptsOf : ∀ run, after.receiptsOf run = store.receiptsOf run := by
    intro run
    rw [RuntimeStore.receiptsOf, receipts]
    rfl
  refine ⟨?_, ?_, ?_, ?_, ?_⟩
  · intro run
    rw [RuntimeStore.listPendingIntegrationIntents, intents, receipts,
      Dict.set_entries_of_absent absent, List.filter_append, List.map_append, List.length_append]
    by_cases own : intent.runId = run
    · -- every other intent of the Run has its receipt
      have none_ : store.integrationIntents.entries.filter (fun entry => entry.1.1 = run ∧
          entry.1 ∉ store.integrationReceipts.keys) = [] := by
        rw [List.filter_eq_nil_iff]
        rintro ⟨key, other⟩ member isPending
        obtain ⟨ofRun, waits⟩ := of_decide_eq_true isPending
        exact waits (settled key (List.mem_map_of_mem member) (ofRun.trans own.symm))
      rw [none_]
      simpa using List.length_filter_le _ [((intent.runId, intent.idempotencyKey), intent)]
    · have foreign : [((intent.runId, intent.idempotencyKey), intent)].filter
          (fun entry => entry.1.1 = run ∧ entry.1 ∉ store.integrationReceipts.keys) = [] := by
        simp [own]
      rw [foreign]
      exact ordered.pending run
  · intro key receipt found
    rw [receipts] at found
    have stored := ordered.intended key receipt found
    have different : key ≠ (intent.runId, intent.idempotencyKey) := by
      rintro rfl
      rw [absent] at stored
      cases stored
    rw [intents, Dict.get?_set, if_neg different]
    exact stored
  · intro run
    rw [receiptsOf]
    exact ordered.increasing run
  · intro run receipt member
    rw [receiptsOf] at member
    rw [RuntimeStore.ledger, RuntimeStore.load, snapshots]
    exact ordered.reached run receipt member
  · intro run
    rw [receiptsOf]
    exact ordered.chain run

theorem IntegrationsOrdered.integrate (ordered : IntegrationsOrdered store)
    {receipt : IntegrationReceipt}
    (absent : store.integrationReceipts.get?
      (receipt.intent.runId, receipt.intent.idempotencyKey) = none)
    (intended : store.integrationIntents.get?
      (receipt.intent.runId, receipt.intent.idempotencyKey) = some receipt.intent)
    (head : store.headDiffers receipt.intent = false)
    (sequence : receipt.eventSequence = (store.ledger receipt.intent.runId).length + 1)
    (grows : ∀ run, store.ledger run <+: after.ledger run)
    (reaches : receipt.eventSequence ≤ (after.ledger receipt.intent.runId).length)
    (intents : after.integrationIntents = store.integrationIntents)
    (receipts : after.integrationReceipts = store.integrationReceipts.set
      (receipt.intent.runId, receipt.intent.idempotencyKey) receipt) :
    IntegrationsOrdered after := by
  have receiptsOf : ∀ run, after.receiptsOf run =
      store.receiptsOf run ++ if receipt.intent.runId = run then [receipt] else [] := by
    intro run
    rw [RuntimeStore.receiptsOf, receipts, Dict.set_entries_of_absent absent, List.filter_append,
      List.map_append]
    by_cases own : receipt.intent.runId = run
    · simp [own, RuntimeStore.receiptsOf]
    · simp [own, RuntimeStore.receiptsOf]
  have below : ∀ earlier ∈ store.receiptsOf receipt.intent.runId,
      earlier.eventSequence < receipt.eventSequence := by
    intro earlier member
    have bounded := ordered.reached receipt.intent.runId earlier member
    omega
  refine ⟨?_, ?_, ?_, ?_, ?_⟩
  · intro run
    refine Nat.le_trans ?_ (ordered.pending run)
    rw [RuntimeStore.listPendingIntegrationIntents, intents, receipts, List.length_map,
      RuntimeStore.listPendingIntegrationIntents, List.length_map]
    apply List.Sublist.length_le
    apply List.monotone_filter_right
    rintro entry isPending
    obtain ⟨ofRun, waits⟩ := of_decide_eq_true isPending
    refine decide_eq_true ⟨ofRun, ?_⟩
    intro settled
    apply waits
    rw [Dict.keys, Dict.set_entries_of_absent absent, List.map_append]
    exact List.mem_append_left _ settled
  · intro key other found
    rw [receipts, Dict.get?_set] at found
    rw [intents]
    split at found
    · rename_i same
      cases found
      rw [same]
      exact intended
    · exact ordered.intended key other found
  · intro run
    rw [receiptsOf]
    split
    · rename_i own
      subst own
      refine List.pairwise_append.mpr ⟨ordered.increasing _, List.pairwise_singleton _ _, ?_⟩
      intro earlier member other single
      rw [List.mem_singleton.mp single]
      exact below earlier member
    · rw [List.append_nil]
      exact ordered.increasing run
  · intro run other member
    rw [receiptsOf] at member
    rcases List.mem_append.mp member with member | member
    · exact Nat.le_trans (ordered.reached run other member) (grows run).length_le
    · split at member
      · rename_i own
        rw [List.mem_singleton.mp member, ← own]
        exact reaches
      · cases member
  · intro run
    rw [receiptsOf]
    split
    · rename_i own
      subst own
      refine List.isChain_append.mpr ⟨ordered.chain _, List.isChain_singleton _, ?_⟩
      intro last isLast next isNext
      cases Option.mem_some_iff.mp isNext
      have latest : store.loadLatestIntegrationReceipt receipt.intent.runId = some last := by
        rw [RuntimeStore.loadLatestIntegrationReceipt_eq,
          latestBy_of_increasing _ (ordered.increasing _)]
        exact isLast
      rw [RuntimeStore.headDiffers, latest] at head
      exact (bne_eq_false_iff_eq.mp head).symm
    · rw [List.append_nil]
      exact ordered.chain run

theorem IntegrationsOrdered.change (ordered : IntegrationsOrdered store)
    (change : StoreChange store runId after) : IntegrationsOrdered after := by
  have grows := fun run => change.ledger_prefix run
  cases change with
  | other _ _ snapshots intents receipts => exact ordered.grow intents receipts grows
  | write run state events _ snapshots intents receipts => exact ordered.grow intents receipts grows
  | intend intent _ absent settled snapshots intents receipts =>
    exact ordered.intend absent settled snapshots intents receipts
  | integrate state events receipt _ previous absent intended head stored sequence nonEmpty
      snapshots intents receipts =>
      have ledger : store.ledger receipt.intent.runId = previous.events := by
        rw [RuntimeStore.ledger, stored]
        rfl
      have ledgerAfter : after.ledger receipt.intent.runId =
          (previous.extend state events).events := by
        rw [RuntimeStore.ledger, RuntimeStore.load, snapshots, Dict.get?_set, if_pos rfl]
        rfl
      have longer : 0 < events.length := List.length_pos_iff.mpr nonEmpty
      refine ordered.integrate absent intended head (ledger ▸ sequence) grows ?_ intents receipts
      rw [ledgerAfter, sequence, RuntimeSnapshot.extend, List.length_append, RuntimeStore.numbered,
        List.length_map, List.length_zipIdx]
      omega

theorem StoreChange.intent_kept (change : StoreChange store runId after)
    {key : RunId × String} {intent : IntegrationIntent}
    (stored : store.integrationIntents.get? key = some intent) :
    after.integrationIntents.get? key = some intent := by
  cases change with
  | other _ _ _ intents => rw [intents]; exact stored
  | write _ _ _ _ _ intents => rw [intents]; exact stored
  | integrate _ _ _ _ _ _ _ _ _ _ _ _ intents => rw [intents]; exact stored
  | intend other _ absent settled snapshots intents =>
    have different : key ≠ (other.runId, other.idempotencyKey) := by
      rintro rfl
      rw [absent] at stored
      cases stored
    rw [intents, Dict.get?_set, if_neg different]
    exact stored

end Invariant

/-- Over every sequence of calls on the store each Run has at most one intent without a
receipt, a stored intent never changes, a receipt is one of a stored intent, and the
receipts of a Run form a chain of verified heads. -/
theorem integration_ledger_chain (digest : IntegrationIntent → String → Sha256)
    (inputs : List StoreInput) :
    Always (EvolvingStore.step digest) IntegrationsChained .empty inputs ∧
      Throughout (EvolvingStore.step digest) IntentsKept .empty inputs := by
  have empty : IntegrationsOrdered EvolvingStore.empty.toRuntimeStore :=
    { pending := fun _ => Nat.zero_le 1
      intended := fun _ _ found => by cases found
      increasing := fun _ => List.Pairwise.nil
      reached := fun _ _ member => absurd member List.not_mem_nil
      chain := fun _ => List.isChain_nil }
  have keeps : ∀ (store : EvolvingStore) (input : StoreInput),
      IntegrationsOrdered store.toRuntimeStore →
      IntegrationsOrdered (store.step digest input).toRuntimeStore :=
    fun _ input ordered => ordered.change (apply_outcome digest input).change
  constructor
  · rw [always_iff empty.chained]
    exact along_of_invariant (fun store => IntegrationsOrdered store.toRuntimeStore) keeps
      (fun store input ordered => (keeps store input ordered).chained) empty inputs
  · rw [throughout_iff (fun _ _ _ stored => stored)
      (fun _ _ _ before after key intent stored => after key intent (before key intent stored))]
    refine along_of_invariant (fun _ => True) (fun _ _ _ => trivial) ?_ trivial inputs
    intro store input _ key intent stored
    exact (apply_outcome digest input).change.intent_kept stored

end CodeMigrator
