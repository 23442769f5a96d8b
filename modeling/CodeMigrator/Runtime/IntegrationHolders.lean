import CodeMigrator.Lib.Sequence
import CodeMigrator.Runtime.IntegrationOrder

/-!
# Holders of integrations

`start_next` hands an integration to a holder, who reports it later with `complete`. The report
carries no identity: it falls on whatever item is active by then. A verified head therefore
moves only with reports of the Run's own holders as long as no holder of a cancelled Run reports
while another item is active.
-/

namespace CodeMigrator
open Lib

/-- The coordinator with the starts that are handed out and not yet reported. -/
structure IntegrationHolders where
  coordinator : IntegrationCoordinator
  holders : List IntegrationStart

/-- A call of the coordinator that is not a completion, or the report of a holder. -/
inductive HolderInput where
  | call (call : IntegrationCall)
  | report (index : Nat) (success : Bool) (newVerifiedOid : Option String)

namespace IntegrationHolders
open IntegrationHistory

def init : IntegrationHolders := ⟨.init, []⟩

/-- One call, or the one report of a holder. Completions come from holders only. -/
def step (state : IntegrationHolders) : HolderInput → IntegrationHolders
  | .call (.complete _ _) => state
  | .call call =>
    ⟨(state.coordinator.call call).1,
      state.holders ++ (startedBy (call, (state.coordinator.call call).2)).toList⟩
  | .report index success newVerifiedOid =>
    match state.holders[index]? with
    | none => state
    | some _ =>
      ⟨(state.coordinator.complete success newVerifiedOid).1, state.holders.eraseIdx index⟩

/-- The verified OID of a Run only changes with a report of a holder of the Run; a Run that has
none yet gets its first one from a call. -/
def Attributed (state : IntegrationHolders) (input : HolderInput) : Prop :=
  ∀ runId, (state.step input).coordinator.latestVerifiedOid runId ≠
      state.coordinator.latestVerifiedOid runId →
    (∃ index success newVerifiedOid holder, input = .report index success newVerifiedOid ∧
        state.holders[index]? = some holder ∧ holder.item.runId = runId) ∨
      state.coordinator.latestVerifiedOid runId = none ∧ ∃ call, input = .call call

/-- A holder whose Run is cancelled reports only while no item is active. -/
def Timely (state : IntegrationHolders) : HolderInput → Prop
  | .call _ => True
  | .report index _ _ =>
    ∀ holder ∈ state.holders[index]?,
      holder.item.runId ∈ state.coordinator.cancelledRuns → state.coordinator.active = none

instance (state : IntegrationHolders) : (input : HolderInput) → Decidable (state.Timely input)
  | .call _ => isTrue trivial
  | .report index _ _ =>
    inferInstanceAs (Decidable (∀ holder ∈ state.holders[index]?,
      holder.item.runId ∈ state.coordinator.cancelledRuns → state.coordinator.active = none))

/-- The holders whose Runs are not cancelled. -/
def live (state : IntegrationHolders) : List IntegrationStart :=
  state.holders.filter (fun holder => holder.item.runId ∉ state.coordinator.cancelledRuns)

/-- The holders of Runs that are not cancelled are at most one, and it holds the active item. -/
def Held (state : IntegrationHolders) : Prop :=
  state.live = [] ∨ ∃ holder, state.live = [holder] ∧
    state.coordinator.active = some holder.item

end IntegrationHolders

namespace IntegrationCoordinator
open IntegrationHistory

variable {coordinator : IntegrationCoordinator}

/-- A call that cancels and completes nothing leaves the active item and the cancelled Runs, or
starts an item of a Run that is not cancelled while none is active. -/
theorem call_active (call : IntegrationCall) (reports : ∀ success oid, call ≠ .complete success oid)
    (cancels : ∀ runId, call ≠ .cancelRun runId) :
    (coordinator.call call).1.cancelledRuns = coordinator.cancelledRuns ∧
      (startedBy (call, (coordinator.call call).2) = none ∧
          (coordinator.call call).1.active = coordinator.active ∨
        ∃ start, startedBy (call, (coordinator.call call).2) = some start ∧
          coordinator.active = none ∧ start.item.runId ∉ coordinator.cancelledRuns ∧
          (coordinator.call call).1.active = some start.item) := by
  have appends (item : IntegrationItem) :
      (coordinator.enqueue item).1.cancelledRuns = coordinator.cancelledRuns ∧
        (coordinator.enqueue item).1.active = coordinator.active := by
    rcases coordinator.enqueue_cases item with same | ⟨-, same⟩
    · rw [same]
      exact ⟨rfl, rfl⟩
    · rw [same]
      exact ⟨rfl, rfl⟩
  unfold IntegrationCoordinator.call
  cases call with
  | complete success oid => exact absurd rfl (reports success oid)
  | cancelRun runId => exact absurd rfl (cancels runId)
  | enqueue item => exact ⟨(appends item).1, .inl ⟨rfl, (appends item).2⟩⟩
  | enqueueRepair item =>
    dsimp only
    rcases coordinator.enqueueRepair_cases item with ⟨text, raised⟩ | same
    · rw [raised]
      exact ⟨rfl, .inl ⟨rfl, rfl⟩⟩
    · rw [same]
      exact ⟨(appends item).1, .inl ⟨rfl, (appends item).2⟩⟩
  | revokeSlice runId sliceId =>
    dsimp only
    unfold revokeSlice
    split
    · exact ⟨rfl, .inl ⟨rfl, rfl⟩⟩
    · exact ⟨rfl, .inl ⟨rfl, rfl⟩⟩
  | markProspectivePassed runId sliceId generation => exact ⟨rfl, .inl ⟨rfl, rfl⟩⟩
  | registerVerifiedHead runId verifiedOid =>
    dsimp only
    rcases coordinator.registerVerifiedHead_cases runId verifiedOid with ⟨text, raised⟩ | ⟨-, done⟩
    · rw [raised]
      exact ⟨rfl, .inl ⟨rfl, rfl⟩⟩
    · rw [done]
      exact ⟨rfl, .inl ⟨rfl, rfl⟩⟩
  | startNext runId latest =>
    dsimp only
    rcases coordinator.startNext_cases runId latest with
      ⟨result, same, notStarted⟩ | ⟨item, oid, startable, started⟩
    · rw [same]
      cases result with
      | error text => exact ⟨rfl, .inl ⟨rfl, rfl⟩⟩
      | ok start =>
        cases start with
        | none => exact ⟨rfl, .inl ⟨rfl, rfl⟩⟩
        | some start => exact absurd rfl (notStarted start)
    · have live : item.runId ∉ coordinator.cancelledRuns := by
        rw [startable.own]
        exact startable.live
      rcases started with ⟨-, started⟩ | ⟨-, -, started⟩
      · rw [started]
        exact ⟨rfl, .inr ⟨_, rfl, startable.idle, live, rfl⟩⟩
      · rw [started]
        exact ⟨rfl, .inr ⟨_, rfl, startable.idle, live, rfl⟩⟩

theorem call_verified (call : IntegrationCall) (reports : ∀ success oid, call ≠ .complete success oid)
    (runId : String) :
    (coordinator.call call).1.latestVerifiedOid runId = coordinator.latestVerifiedOid runId ∨
      coordinator.latestVerifiedOid runId = none := by
  have appends (item : IntegrationItem) :
      (coordinator.enqueue item).1.verifiedOids = coordinator.verifiedOids := by
    rcases coordinator.enqueue_cases item with same | ⟨-, same⟩
    · rw [same]
    · rw [same]
  have first {owner oid : String} {next : IntegrationCoordinator}
      (agrees : ∀ existing, coordinator.latestVerifiedOid owner = some existing → existing = oid)
      (set : next.verifiedOids = coordinator.verifiedOids.set owner oid) :
      next.latestVerifiedOid runId = coordinator.latestVerifiedOid runId ∨
        coordinator.latestVerifiedOid runId = none := by
    unfold latestVerifiedOid at agrees ⊢
    rw [set, Dict.get?_set]
    split
    next own =>
      subst own
      cases known : coordinator.verifiedOids.get? runId with
      | none => exact .inr rfl
      | some existing => exact .inl (by rw [agrees existing known])
    next => exact .inl rfl
  unfold IntegrationCoordinator.call
  cases call with
  | complete success oid => exact absurd rfl (reports success oid)
  | cancelRun runId => exact .inl rfl
  | enqueue item =>
    refine .inl ?_
    show (coordinator.enqueue item).1.verifiedOids.get? runId = _
    rw [appends item]
    rfl
  | enqueueRepair item =>
    refine .inl ?_
    dsimp only
    rcases coordinator.enqueueRepair_cases item with ⟨text, raised⟩ | same
    · rw [raised]
      rfl
    · rw [same]
      show (coordinator.enqueue item).1.verifiedOids.get? runId = _
      rw [appends item]
      rfl
  | revokeSlice owner sliceId =>
    dsimp only
    unfold revokeSlice
    split
    · exact .inl rfl
    · exact .inl rfl
  | markProspectivePassed runId sliceId generation => exact .inl rfl
  | registerVerifiedHead owner verifiedOid =>
    dsimp only
    rcases coordinator.registerVerifiedHead_cases owner verifiedOid with
      ⟨text, raised⟩ | ⟨agrees, done⟩
    · rw [raised]
      exact .inl rfl
    · rw [done]
      exact first agrees rfl
  | startNext owner latest =>
    dsimp only
    rcases coordinator.startNext_cases owner latest with
      ⟨result, same, -⟩ | ⟨item, oid, -, started⟩
    · rw [same]
      exact .inl rfl
    · rcases started with ⟨-, started⟩ | ⟨unknown, -, started⟩
      · rw [started]
        exact .inl rfl
      · rw [started]
        refine first ?_ rfl
        intro existing known
        rw [unknown] at known
        cases known

/-- A completion leaves the cancelled Runs, and changes at most the verified OID of the Run of
the active item. -/
theorem complete_frame (headed : Headed coordinator) (success : Bool) (newOid : Option String) :
    (coordinator.complete success newOid).1.cancelledRuns = coordinator.cancelledRuns ∧
      ∀ runId, (coordinator.complete success newOid).1.latestVerifiedOid runId ≠
          coordinator.latestVerifiedOid runId →
        ∃ item, coordinator.active = some item ∧ item.runId = runId := by
  rcases complete_cases headed success newOid with ⟨result, same, -⟩ | ⟨item, active, done⟩
  · rw [same]
    exact ⟨rfl, fun runId changed => absurd rfl changed⟩
  · rcases done with ⟨-, failed⟩ | ⟨-, oid, rest, -, -, succeeded⟩
    · rw [failed]
      exact ⟨rfl, fun runId changed => absurd rfl changed⟩
    · rw [succeeded]
      refine ⟨rfl, ?_⟩
      intro runId changed
      refine ⟨item, active, ?_⟩
      by_contra other
      refine changed ?_
      show (coordinator.verifiedOids.set item.runId oid).get? runId = _
      rw [Dict.get?_set, if_neg (Ne.symm other)]
      rfl

end IntegrationCoordinator

namespace IntegrationHolders
open IntegrationHistory

variable {state : IntegrationHolders} {holder : IntegrationStart} {index : Nat}

/-! ## One holder at a time -/

theorem Held.active (held : Held state) (member : holder ∈ state.holders)
    (running : holder.item.runId ∉ state.coordinator.cancelledRuns) :
    state.live = [holder] ∧ state.coordinator.active = some holder.item := by
  have mine : holder ∈ state.live := List.mem_filter.mpr ⟨member, by simpa using running⟩
  rcases held with none | ⟨only, alone, active⟩
  · rw [none] at mine
    exact absurd mine List.not_mem_nil
  · rw [alone] at mine
    rw [List.mem_singleton.mp mine]
    exact ⟨alone, active⟩

theorem Held.idle (held : Held state) (idle : state.coordinator.active = none) :
    state.live = [] := by
  rcases held with none | ⟨only, -, active⟩
  · exact none
  · rw [idle] at active
    cases active

theorem Held.cancel (held : Held state) (runId : String) :
    Held ⟨state.coordinator.cancelRun runId, state.holders⟩ := by
  have fewer : live ⟨state.coordinator.cancelRun runId, state.holders⟩ =
      state.live.filter (fun holder => holder.item.runId ≠ runId) := by
    unfold live
    rw [List.filter_filter]
    refine List.filter_congr ?_
    intro holder _
    simp [IntegrationCoordinator.cancelRun]
  unfold Held
  rw [fewer]
  rcases held with none | ⟨holder, alone, active⟩
  · exact .inl (by rw [none]; rfl)
  · rw [alone]
    by_cases own : holder.item.runId = runId
    · exact .inl (by simp [own])
    · refine .inr ⟨holder, by simp [own], ?_⟩
      show state.coordinator.active.filter (fun item => item.runId ≠ runId) = some holder.item
      simp [active, own]

theorem Held.call (held : Held state) (call : IntegrationCall) : Held (state.step (.call call)) := by
  by_cases reports : ∃ success oid, call = .complete success oid
  · obtain ⟨success, oid, rfl⟩ := reports
    exact held
  by_cases cancels : ∃ runId, call = .cancelRun runId
  · obtain ⟨runId, rfl⟩ := cancels
    have same : state.step (.call (.cancelRun runId)) =
        ⟨state.coordinator.cancelRun runId, state.holders⟩ := by
      simp [step, IntegrationCoordinator.call, startedBy]
    rw [same]
    exact held.cancel runId
  have notReport : ∀ success oid, call ≠ .complete success oid := by
    intro success oid same
    exact reports ⟨success, oid, same⟩
  have stepped : state.step (.call call) = ⟨(state.coordinator.call call).1,
      state.holders ++ (startedBy (call, (state.coordinator.call call).2)).toList⟩ := by
    unfold step
    cases call with
    | complete success oid => exact absurd rfl (notReport success oid)
    | _ => rfl
  obtain ⟨cancelled, effect⟩ := state.coordinator.call_active call notReport
    (fun runId same => cancels ⟨runId, same⟩)
  rw [stepped]
  unfold Held live
  dsimp only
  rw [cancelled]
  rcases effect with ⟨silent, active⟩ | ⟨start, begun, idle, running, active⟩
  · rw [silent, active, Option.toList_none, List.append_nil]
    exact held
  · rw [begun, active, Option.toList_some, List.filter_append]
    have none : state.holders.filter
        (fun holder => holder.item.runId ∉ state.coordinator.cancelledRuns) = [] := held.idle idle
    refine .inr ⟨start, ?_, rfl⟩
    rw [none, List.nil_append, List.filter_cons_of_pos (by simpa using running)]
    rfl

theorem Held.report (held : Held state) (headed : state.coordinator.Headed) (success : Bool)
    (newOid : Option String) (timely : state.Timely (.report index success newOid)) :
    Held (state.step (.report index success newOid)) := by
  cases found : state.holders[index]? with
  | none => simpa [step, found] using held
  | some holder =>
    have stepped : state.step (.report index success newOid) =
        ⟨(state.coordinator.complete success newOid).1, state.holders.eraseIdx index⟩ := by
      simp [step, found]
    have frame := (IntegrationCoordinator.complete_frame headed success newOid).1
    obtain ⟨dropped, only⟩ := filter_eraseIdx
      (fun holder => decide (holder.item.runId ∉ state.coordinator.cancelledRuns)) found
    rw [stepped]
    refine .inl ?_
    unfold live
    dsimp only
    rw [frame]
    by_cases running : holder.item.runId ∉ state.coordinator.cancelledRuns
    · have alone := (held.active (List.mem_of_getElem? found) running).1
      exact only (by simpa using running) alone
    · rw [dropped (by simpa using running)]
      exact held.idle (timely holder found (not_not.mp running))

theorem Held.attributed (held : Held state) (headed : state.coordinator.Headed)
    (input : HolderInput) (timely : state.Timely input) : state.Attributed input := by
  intro runId changed
  cases input with
  | call call =>
    by_cases reports : ∃ success oid, call = .complete success oid
    · obtain ⟨success, oid, rfl⟩ := reports
      exact absurd rfl changed
    refine .inr ⟨?_, call, rfl⟩
    have notReport : ∀ success oid, call ≠ .complete success oid := by
      intro success oid same
      exact reports ⟨success, oid, same⟩
    rcases state.coordinator.call_verified call notReport runId with same | none
    · refine absurd ?_ changed
      unfold step
      cases call with
      | complete success oid => exact absurd rfl (notReport success oid)
      | _ => exact same
    · exact none
  | report index success newOid =>
    cases found : state.holders[index]? with
    | none => exact absurd (by simp [step, found]) changed
    | some holder =>
      have moved : (state.coordinator.complete success newOid).1.latestVerifiedOid runId ≠
          state.coordinator.latestVerifiedOid runId := by
        simpa [step, found] using changed
      obtain ⟨item, active, own⟩ :=
        (IntegrationCoordinator.complete_frame headed success newOid).2 runId moved
      refine .inl ⟨index, success, newOid, holder, rfl, found, ?_⟩
      by_cases running : holder.item.runId ∉ state.coordinator.cancelledRuns
      · have mine := (held.active (List.mem_of_getElem? found) running).2
        rw [active] at mine
        rw [← own, Option.some.inj mine]
      · rw [timely holder found (not_not.mp running)] at active
        cases active

/-! ## Runs -/

theorem headed_step (headed : state.coordinator.Headed) (input : HolderInput) :
    (state.step input).coordinator.Headed := by
  cases input with
  | call call =>
    unfold step
    cases call with
    | complete success oid => exact headed
    | _ => exact headed.call _
  | report index success newOid =>
    unfold step
    dsimp only
    split
    · exact headed
    · exact headed.complete success newOid

/-- In every run in which no holder of a cancelled Run reports while an item is active, the
verified head of a Run moves only with the reports of its own holders. -/
theorem completions_attributed (inputs : List HolderInput) (timely : Along step Timely init inputs) :
    Along step Attributed init inputs := by
  refine along_of_along (fun state => state.coordinator.Headed ∧ Held state) ?_ ?_
    ⟨IntegrationCoordinator.headed_init, .inl rfl⟩ timely
  · rintro state input ⟨headed, held⟩ timely
    refine ⟨headed_step headed input, ?_⟩
    cases input with
    | call call => exact held.call call
    | report index success newOid => exact held.report headed success newOid timely
  · rintro state input ⟨headed, held⟩ timely
    exact held.attributed headed input timely

end IntegrationHolders

namespace SampleIntegrations
open IntegrationHolders

/-- A checked candidate of the one slice of a Run. -/
def candidate (runId : String) : IntegrationItem :=
  ⟨runId, "slice", some 0, "candidate", true, false, none, none, none⟩

/-- The first Run is being integrated when it is cancelled, and the second one is started. -/
def overtaken : List HolderInput :=
  [.call (.enqueue (candidate "first")), .call (.enqueue (candidate "second")),
    .call (.startNext "first" (some "base")), .call (.cancelRun "first"),
    .call (.startNext "second" (some "base"))]

/-- The holder of the first Run reports before the second Run is started. -/
theorem completions_attributed_overtaken :
    Along step Attributed init (overtaken.take 4 ++
      [.report 0 true (some "late"), .call (.startNext "second" (some "base")),
        .report 0 true (some "verified")]) :=
  completions_attributed _ (by decide)

/-- The late report of the first holder becomes the verified head of the second Run. -/
theorem late_completion_misattributed :
    ¬ Along step Attributed init (overtaken ++ [.report 0 true (some "late")]) := by
  intro along
  have last := (Along.of_append along).2.1
  rcases last "second" (by decide) with ⟨index, success, newOid, holder, same, found, own⟩ | ⟨-, call, same⟩
  · obtain ⟨rfl, -, -⟩ := HolderInput.report.inj same
    have first : (runFrom step init overtaken).holders[0]? =
        some ⟨candidate "first", "base"⟩ := by decide
    rw [first] at found
    obtain rfl := Option.some.inj found
    exact absurd own (by decide)
  · cases same

end SampleIntegrations

end CodeMigrator
