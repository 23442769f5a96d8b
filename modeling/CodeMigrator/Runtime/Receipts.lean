import CodeMigrator.Runtime.Candidates
import CodeMigrator.Runtime.PlanHistory

/-!
# What a handler adds to the ledger

A command is answered from the ledger when its key is there; otherwise its handler writes
events with keys of its own. `Grows` is what a handler does to the ledger.
-/

namespace CodeMigrator
open Lib

/-! ## What a handler writes -/

/-- The ledger stays as it is, begins, or gets events with the given keys. In a Run that is
still planning no agent run has ended. -/
inductive Grows (config : ActorConfig) (keys : List String) (core after : Core) : Prop where
  | kept (same : after.persisted = core.persisted)
  | created (createRun : CreateRun) (absent : core.persisted = none)
      (written : after.persisted = some (createdSnapshot config createRun))
  | wrote (snapshot : RuntimeSnapshot) (next : RunState) (events : List EventSpec)
      (before : core.persisted = some snapshot)
      (written : after.persisted = some (snapshot.extend next events))
      (keyed : specKeys events = keys)
      (planning : next.status = .planning →
        ∀ id : AgentRunId, "agent_run.terminal:" ++ id.str ∉ keys)

section Writes

variable {config : ActorConfig} {world : World} (around : Surroundings) {core after : Core}
  {snapshot : RuntimeSnapshot} {next state : RunState} {events : List EventSpec}
  {log : List RuntimeEvent}

theorem Grows.of_core {keys : List String} (same : after = core) : Grows config keys core after :=
  .kept (by rw [same])

theorem CoreStep.grows {input : Input} (step : CoreStep config input core after)
    (unkeyed : ∀ message around, input = .message message around → message.isUnkeyed = true) :
    Grows config [] core after := by
  cases step with
  | stay => exact .kept rfl
  | register => exact .kept rfl
  | create _ _ createRun absent => exact .created createRun absent rfl
  | commit message around _ snapshot events work next found run =>
    exact .wrote snapshot next events found rfl (run.unkeyed (unkeyed message around rfl))
      (fun _ _ => List.not_mem_nil)
  | own message around _ snapshot events next record current receipt terminalEvent found run =>
    exact .wrote snapshot next events found rfl (run.unkeyed (unkeyed message around rfl))
      (fun _ _ => List.not_mem_nil)

/-- What a handler writes, when the keys of its events are known. -/
theorem Does.grows {message : RuntimeMessage} {ends : Prop} {keys : List String → Prop}
    {after : World} (does : Does config message ends keys world after) {found : List String}
    (keyed : ∀ written, keys written → written = found)
    (planned : found = [] ∨ ∀ runId dispatch resultStatus started,
      message ≠ .executionReceipt runId dispatch resultStatus started) :
    Grows config found (world.core config) (after.core config) := by
  have planning : ∀ {state next : RunState} {events : List EventSpec} {work : List PortCall},
      RunStep config message state events work next → specKeys events = found →
      next.status = .planning → ∀ id : AgentRunId, "agent_run.terminal:" ++ id.str ∉ found := by
    intro state next events work run same status id
    rcases planned with rfl | other
    · exact List.not_mem_nil
    · rw [← same]
      exact run.planning_keys other status id
  unfold Does at does
  generalize after.core config = reached at does ⊢
  cases does with
  | stays => exact .kept rfl
  | adopts => exact .kept rfl
  | replays => exact .kept rfl
  | creates createRun healthy absent => exact .created createRun absent rfl
  | commits state next snapshot events work healthy current stored run ending keysOf =>
    exact .wrote snapshot next events stored rfl (keyed _ keysOf) (planning run (keyed _ keysOf))
  | owns state next snapshot events record before receipt terminalEvent healthy current stored run
      executing registered spec announced keysOf =>
    exact .wrote snapshot next events stored rfl (keyed _ keysOf) (planning run (keyed _ keysOf))

/-- What the handler of a command with one key or another writes. -/
theorem Does.grows_command {command : WorkflowCommandMessage} {found : List String}
    {after : World} (does : Does config (.workflow command) True (· = found) world after) :
    Grows config found (world.core config) (after.core config) :=
  does.grows (fun _ same => same) (.inr fun _ _ _ _ => RuntimeMessage.noConfusion)

theorem CoreStep.announced {input : Input} (step : CoreStep config input core after)
    (coherent : Coherent config core) (announced : Announced config core) :
    Announced config after := by
  have kept : ∀ {snapshot : RuntimeSnapshot} {next : RunState} {events : List EventSpec}
      {id : AgentRunId}, hasAgentRunEvent (some snapshot) "agent_run.terminal" id = true →
      hasAgentRunEvent (some (snapshot.extend next events)) "agent_run.terminal" id = true := by
    intro snapshot next events id known
    obtain ⟨event, listed, matching⟩ := List.any_eq_true.mp known
    exact List.any_eq_true.mpr ⟨event, RuntimeSnapshot.mem_extend listed, matching⟩
  cases step with
  | stay => exact announced
  | create _ _ createRun absent =>
    exact fun id record receipt _ hasRun _ owned => absurd absent
      (coherent.runsHaveOwner id record hasRun owned)
  | commit message around _ snapshot events work next found run =>
    rintro id record receipt _ hasRun hasReceipt owned ⟨⟩
    exact kept (announced id record receipt snapshot hasRun hasReceipt owned found)
  | own message around _ snapshot events next record current receipt terminalEvent found run
      executing before spec listed =>
      rintro id other otherReceipt _ hasRun hasReceipt owned ⟨⟩
      rw [Dict.get?_set] at hasRun hasReceipt
      by_cases same : id = record.agentRunId
      · obtain ⟨event, member, type, data⟩ := snapshot.mem_extend_new next listed
        refine List.any_eq_true.mpr ⟨event, member, ?_⟩
        rw [type, data, same, decide_eq_true_eq]
        exact agentRunTerminalSpec_names spec
      · rw [if_neg same] at hasRun hasReceipt
        exact kept (announced id other otherReceipt snapshot hasRun hasReceipt owned found)
  | register _ _ record absent owner =>
    intro id other receipt snapshot hasRun hasReceipt
    have different : id ≠ record.agentRunId := by
      intro same
      obtain ⟨known, found⟩ := coherent.receiptsHaveRuns id receipt hasReceipt
      rw [same, absent] at found
      cases found
    rw [Dict.get?_set, if_neg different] at hasRun
    exact announced id other receipt snapshot hasRun hasReceipt

end Writes

end CodeMigrator
