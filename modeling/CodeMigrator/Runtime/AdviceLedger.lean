import CodeMigrator.Runtime.Phases

/-!
# The advice ledger

The two lists of advice identities in a Run's state over every sequence of inputs.
Advice that is adopted on its own is looked up among the adopted ones only, advice that
waits for a confirmation among the pending ones only; an identity that goes through
both ways ends up in a list twice or in both lists.
-/

namespace CodeMigrator
open Lib

/-- Every advice identity is adopted once, pending once, or neither. -/
structure AdviceListsSound (state : RunState) : Prop where
  adopted : state.adoptedAdviceIds.Nodup
  pending : state.pendingAdviceIds.Nodup
  disjoint : ∀ adviceId ∈ state.adoptedAdviceIds, adviceId ∉ state.pendingAdviceIds

/-- The advice lists of the persisted Run are sound. -/
def AdviceLedgerSound (config : ActorConfig) (world : World) : Prop :=
  ∀ snapshot, world.store.load config.runId = some snapshot → AdviceListsSound snapshot.state

/-- The event of advice that enters a list. -/
def enteredEvent (result : AdviceValidationResult) : EventSpec :=
  if result.disposition = .autoAdopted then
    adviceEvent "advice.adopted" result.reason result.proposalHash
  else adviceEvent "advice.confirmation_required" result.reason result.proposalHash

/-- The identity is already in the list that the handler does not look at. -/
def Crossed (state : RunState) (advice : Advice) (result : AdviceValidationResult) : Prop :=
  (result.disposition = .confirmationRequired ∧ advice.adviceId.str ∈ state.adoptedAdviceIds) ∨
    (result.disposition = .autoAdopted ∧ advice.adviceId.str ∈ state.pendingAdviceIds)

/-- Advice is submitted whose identity is in the other list, and the submission is
committed. -/
def CrossedSubmission (config : ActorConfig) (world : World) : Input → Prop
  | .message (.advice advice) around =>
    ∃ snapshot result, world.store.load config.runId = some snapshot ∧
      advice.runId = config.runId ∧
      evaluateAdvice config.repr (config.adviceProposalHash advice) advice config.adviceContext =
        some result ∧
      Crossed snapshot.state advice result ∧ writable around world [enteredEvent result] = true
  | _ => False

section Ledger

variable {config : ActorConfig} {world : World} {advice : Advice} {result : AdviceValidationResult}
  {state : RunState}

theorem advice_persisted (coherent : Coherent config (world.core config))
    {snapshot : RuntimeSnapshot} (found : world.store.load config.runId = some snapshot)
    (own : advice.runId = config.runId)
    (evaluated : evaluateAdvice config.repr (config.adviceProposalHash advice) advice
      config.adviceContext = some result) (around : Surroundings) :
    (step config world (.message (.advice advice) around)).store.load config.runId =
      if writable around world [(decideAdvice snapshot.state advice result).event] then
        some (snapshot.extend (decideAdvice snapshot.state advice result).next
          [(decideAdvice snapshot.state advice result).event])
      else some snapshot := by
  have loaded := coherent.loaded_of_found found
  have status := decideAdvice_status snapshot.state advice result
  have ownNext : (decideAdvice snapshot.state advice result).next.runId = config.runId := by
    obtain ⟨adopted, pending, version, equal⟩ := decideAdvice_frame snapshot.state advice result
    rw [equal]
    exact loaded.runId
  have called := commit_then_call_core around loaded.stored loaded.current ownNext status.symm
    [(decideAdvice snapshot.state advice result).event]
    ((decideAdvice snapshot.state advice result).adopted && advice.kind == .repairDecision &&
      config.repairAdvicePort) (.dispatchAdopted advice) rfl
  have persisted := congrArg Core.persisted called
  rw [apply_ite Core.persisted] at persisted
  rw [← found]
  refine Eq.trans ?_ persisted
  change ((turn config around world (.advice advice)).core config).persisted = _
  rw [turn_core_eq]
  simp only [handle, handleAdvice, loaded.current, own, evaluated, ne_eq, not_true_eq_false,
    if_false, World.done, Bool.and_assoc]

/-- Advice whose identity is in neither list, or in the list that is looked at, keeps the
lists sound. -/
theorem decideAdvice_sound (sound : AdviceListsSound state)
    (straight : ¬ Crossed state advice result) :
    AdviceListsSound (decideAdvice state advice result).next := by
  unfold Crossed at straight
  rw [not_or] at straight
  simp only [decideAdvice]
  cases disposition : result.disposition with
  | autoAdopted =>
    by_cases known : advice.adviceId.str ∈ state.adoptedAdviceIds
    · simp only [if_pos known]
      exact sound
    · simp only [if_neg known]
      have notPending : advice.adviceId.str ∉ state.pendingAdviceIds :=
        fun pending => straight.2 ⟨disposition, pending⟩
      refine ⟨?_, sound.pending, ?_⟩
      · exact List.nodup_append.mpr ⟨sound.adopted, List.nodup_singleton _, by
          intro adviceId member other single
          rw [List.mem_singleton.mp single]
          exact fun same => known (same ▸ member)⟩
      · intro adviceId member
        rcases List.mem_append.mp member with member | single
        · exact sound.disjoint adviceId member
        · rw [List.mem_singleton.mp single]
          exact notPending
  | confirmationRequired =>
    by_cases known : advice.adviceId.str ∈ state.pendingAdviceIds
    · simp only [if_pos known]
      exact sound
    · simp only [if_neg known]
      have notAdopted : advice.adviceId.str ∉ state.adoptedAdviceIds :=
        fun adopted => straight.1 ⟨disposition, adopted⟩
      refine ⟨sound.adopted, ?_, ?_⟩
      · exact List.nodup_append.mpr ⟨sound.pending, List.nodup_singleton _, by
          intro adviceId member other single
          rw [List.mem_singleton.mp single]
          exact fun same => known (same ▸ member)⟩
      · intro adviceId member pending
        rcases List.mem_append.mp pending with pending | single
        · exact sound.disjoint adviceId member pending
        · rw [List.mem_singleton.mp single] at member
          exact notAdopted member
  | discarded => exact sound

theorem decideAdvice_crossed (sound : AdviceListsSound state)
    (crossed : Crossed state advice result) :
    (decideAdvice state advice result).event = enteredEvent result ∧
      ¬ AdviceListsSound (decideAdvice state advice result).next := by
  rcases crossed with ⟨disposition, adopted⟩ | ⟨disposition, pending⟩
  · have unknown : advice.adviceId.str ∉ state.pendingAdviceIds := sound.disjoint _ adopted
    simp only [decideAdvice, disposition, if_neg unknown, enteredEvent]
    refine ⟨rfl, ?_⟩
    intro after
    exact after.disjoint _ adopted (List.mem_append_right _ (List.mem_singleton_self _))
  · have unknown : advice.adviceId.str ∉ state.adoptedAdviceIds :=
      fun adopted => sound.disjoint _ adopted pending
    simp only [decideAdvice, disposition, if_neg unknown, enteredEvent, if_true]
    refine ⟨trivial, ?_⟩
    intro after
    exact after.disjoint _ (List.mem_append_right _ (List.mem_singleton_self _)) pending

theorem AdviceListsSound.confirm {next : RunState} (sound : AdviceListsSound state)
    {adviceId : String} (pending : adviceId ∈ state.pendingAdviceIds)
    (pendingAfter : next.pendingAdviceIds = state.pendingAdviceIds.filter (· ≠ adviceId))
    (adoptedAfter : next.adoptedAdviceIds = state.adoptedAdviceIds ++ [adviceId]) :
    AdviceListsSound next := by
  refine ⟨?_, ?_, ?_⟩
  · rw [adoptedAfter]
    refine List.nodup_append.mpr ⟨sound.adopted, List.nodup_singleton _, ?_⟩
    intro other member _ single
    rw [List.mem_singleton.mp single]
    exact fun same => sound.disjoint other member (same ▸ pending)
  · rw [pendingAfter]
    exact sound.pending.filter _
  · rw [adoptedAfter, pendingAfter]
    intro other member filtered
    obtain ⟨still, different⟩ := List.mem_filter.mp filtered
    rcases List.mem_append.mp member with member | single
    · exact sound.disjoint other member still
    · exact absurd (List.mem_singleton.mp single) (of_decide_eq_true different)

theorem RunStep.adviceLists {message : RuntimeMessage} {next : RunState} {events : List EventSpec}
    {work : List PortCall} (run : RunStep config message state events work next)
    (sound : AdviceListsSound state) :
    AdviceListsSound next ∨ ∃ advice result, message = .advice advice ∧
      advice.runId = config.runId ∧
      evaluateAdvice config.repr (config.adviceProposalHash advice) advice config.adviceContext =
        some result := by
  cases run with
  | adviceConfirmed kind payload adviceId _ live pending =>
    exact .inl (sound.confirm pending rfl rfl)
  | advice advice result _ own evaluated => exact .inr ⟨advice, result, rfl, own, evaluated⟩
  | _ => exact .inl ⟨sound.adopted, sound.pending, sound.disjoint⟩

theorem step_adviceLedger_iff (coherent : Coherent config (world.core config))
    (sound : AdviceLedgerSound config world) (input : Input) :
    AdviceLedgerSound config (step config world input) ↔
      ¬ CrossedSubmission config world input := by
  constructor
  · intro after crossed
    unfold CrossedSubmission at crossed
    split at crossed
    · rename_i advice around
      obtain ⟨snapshot, result, found, own, evaluated, crossed, committed⟩ := crossed
      have written := advice_persisted coherent found own evaluated around
      obtain ⟨event, spoiled⟩ := decideAdvice_crossed (sound snapshot found) crossed
      rw [event, if_pos committed] at written
      exact spoiled (after _ written)
    · exact crossed
  · intro straight later foundLater
    have one := step_core coherent input
    cases found : world.store.load config.runId with
    | none =>
      rcases one.of_absent found with absent | ⟨createRun, written⟩
      · rw [show (step config world input).store.load config.runId = none from absent] at foundLater
        cases foundLater
      · rw [show (step config world input).store.load config.runId = _ from written] at foundLater
        cases foundLater
        exact ⟨List.nodup_nil, List.nodup_nil, fun _ member => absurd member List.not_mem_nil⟩
    | some snapshot =>
      rcases one.of_persisted found with
        ⟨kept, _⟩ | ⟨message, around, events, work, next, rfl, run, written, _⟩
      · rw [show (step config world input).store.load config.runId = _ from kept] at foundLater
        cases foundLater
        exact sound _ found
      rcases run.adviceLists (sound snapshot found) with
        kept | ⟨advice, result, rfl, own, evaluated⟩
      · rw [show (step config world _).store.load config.runId = _ from written] at foundLater
        cases foundLater
        exact kept
      · -- a crossed submission was refused by the store and left the Run as it was
        rw [advice_persisted coherent found own evaluated around] at foundLater
        split at foundLater
        · rename_i committed
          cases foundLater
          refine decideAdvice_sound (sound snapshot found) ?_
          intro crossed
          rw [(decideAdvice_crossed (sound snapshot found) crossed).1] at committed
          exact straight ⟨snapshot, result, found, own, evaluated, crossed, committed⟩
        · cases foundLater
          exact sound _ found

/-- Throughout a sequence of inputs no advice identity is adopted twice, pending twice or
both, exactly when no submission is committed whose identity is in the list that its
handler does not look at. -/
theorem advice_ledger_iff (config : ActorConfig) (world : World) (fresh : Fresh config world)
    (inputs : List Input) :
    Always (step config) (AdviceLedgerSound config) world inputs ↔
      Along (step config) (fun reached input => ¬ CrossedSubmission config reached input) world
        inputs := by
  have empty : AdviceLedgerSound config world := by
    intro snapshot found
    rw [fresh.noRun] at found
    cases found
  rw [always_iff empty]
  refine along_iff
    (fun reached => Coherent config (reached.core config) ∧ AdviceLedgerSound config reached)
    ?_ ?_ ⟨fresh.coherent, empty⟩ inputs
  · intro reached input invariant sound
    exact ⟨step_coherent invariant.1 input, sound⟩
  · intro reached input invariant
    exact step_adviceLedger_iff invariant.1 invariant.2 input

end Ledger

namespace SampleRun

/-- Advice about a route, which the user has to confirm. -/
def route : Advice :=
  ⟨⟨11⟩, .routeSuggestion, runId, .executeSupervisor, [], TwoSlices.zeroDigest.text⟩

def submitRoute : Input := .message (.advice route) calm

def confirmRoute : Input :=
  .message (.sessionInput "confirm_advice" [("advice_id", .str (⟨11⟩ : UUID).str)]) calm

/-- The route is submitted and confirmed. -/
def toConfirmed : List Input :=
  [.message (.create runId createRun none) calm, submitRoute, confirmRoute]

end SampleRun

open SampleRun in
theorem advice_ledger_confirmed :
    Always (step SampleRun.config) (AdviceLedgerSound SampleRun.config) start toConfirmed := by
  refine (advice_ledger_iff SampleRun.config start start_fresh toConfirmed).mpr
    ⟨id, ?_, id, trivial⟩
  rintro ⟨snapshot, result, found, -, -, crossed, -⟩
  have lists : ((runFrom (step SampleRun.config) start
      [.message (.create runId createRun none) calm]).store.load runId).map
        (fun snapshot => (snapshot.state.adoptedAdviceIds, snapshot.state.pendingAdviceIds)) =
      some ([], []) := by decide
  have found : (runFrom (step SampleRun.config) start
      [.message (.create runId createRun none) calm]).store.load runId = some snapshot := found
  rw [found, Option.map_some, Option.some.injEq, Prod.mk.injEq] at lists
  rcases crossed with ⟨-, adopted⟩ | ⟨-, pending⟩
  · rw [lists.1] at adopted
    cases adopted
  · rw [lists.2] at pending
    cases pending

open SampleRun in
/-- Confirmed advice that is submitted and confirmed again is adopted twice. -/
theorem advice_adopted_twice :
    ((runFrom (step SampleRun.config) start (toConfirmed ++ [submitRoute, confirmRoute])).store.load
        runId).map (·.state.adoptedAdviceIds) = some [(⟨11⟩ : UUID).str, (⟨11⟩ : UUID).str] ∧
      ¬ Always (step SampleRun.config) (AdviceLedgerSound SampleRun.config) start
        (toConfirmed ++ [submitRoute, confirmRoute]) := by
  have twice : ((runFrom (step SampleRun.config) start
      (toConfirmed ++ [submitRoute, confirmRoute])).store.load runId).map
        (·.state.adoptedAdviceIds) = some [(⟨11⟩ : UUID).str, (⟨11⟩ : UUID).str] := by
    decide
  refine ⟨twice, ?_⟩
  intro sound
  obtain ⟨snapshot, found, adopted⟩ := Option.map_eq_some_iff.mp twice
  have nodup := (sound _ [] (List.append_nil _).symm snapshot found).adopted
  rw [adopted] at nodup
  simp at nodup

end CodeMigrator
