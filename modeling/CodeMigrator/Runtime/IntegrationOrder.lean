import CodeMigrator.Runtime.IntegrationQueue

/-!
# Order of the integrations

The active item is always the head of the queue, the items of a Run complete in the order in
which they were enqueued, every start builds on what the last completion of its Run has
verified, and a cancelled Run is never started again.
-/

namespace CodeMigrator
open Lib

namespace IntegrationCoordinator

variable {coordinator : IntegrationCoordinator}

/-! ## What the calls do -/

/-- The active item is the head of the queue and has passed its checks, and no item of a
cancelled Run is queued. -/
structure Headed (coordinator : IntegrationCoordinator) : Prop where
  head : ∀ item, coordinator.active = some item → coordinator.queue.head? = some item
  checked : ∀ item, coordinator.active = some item → item.prospectiveChecksPassed = true
  free : ∀ item ∈ coordinator.queue, item.runId ∉ coordinator.cancelledRuns

theorem headed_init : Headed init where
  head := fun _ active => by cases active
  checked := fun _ active => by cases active
  free := fun _ member => absurd member List.not_mem_nil

theorem Headed.queue_eq (headed : Headed coordinator) {item : IntegrationItem}
    (active : coordinator.active = some item) : ∃ rest, coordinator.queue = item :: rest := by
  have head := headed.head item active
  cases waiting : coordinator.queue with
  | nil => rw [waiting] at head; cases head
  | cons first rest =>
    rw [waiting] at head
    exact ⟨rest, by rw [Option.some.inj head]⟩

theorem Headed.active_free (headed : Headed coordinator) {item : IntegrationItem}
    (active : coordinator.active = some item) : item.runId ∉ coordinator.cancelledRuns := by
  obtain ⟨rest, queue⟩ := headed.queue_eq active
  exact headed.free item (by rw [queue]; exact List.mem_cons_self)

theorem enqueue_cases (item : IntegrationItem) :
    coordinator.enqueue item = (coordinator, .ok false) ∨
      item.runId ∉ coordinator.cancelledRuns ∧ coordinator.enqueue item =
        ({ coordinator with queue := coordinator.queue ++ [item] }, .ok true) := by
  unfold enqueue
  split
  · exact .inl rfl
  · exact .inr ⟨‹_›, rfl⟩

theorem enqueueRepair_cases (item : IntegrationItem) :
    (∃ text, coordinator.enqueueRepair item = (coordinator, .error text)) ∨
      coordinator.enqueueRepair item = coordinator.enqueue item := by
  unfold enqueueRepair
  split
  · exact .inl ⟨_, rfl⟩
  · split
    · exact .inl ⟨_, rfl⟩
    · split
      · exact .inl ⟨_, rfl⟩
      · exact .inr rfl

theorem registerVerifiedHead_cases (runId verifiedOid : String) :
    (∃ text, coordinator.registerVerifiedHead runId verifiedOid = (coordinator, .error text)) ∨
      (∀ existing, coordinator.latestVerifiedOid runId = some existing → existing = verifiedOid) ∧
      coordinator.registerVerifiedHead runId verifiedOid =
        ({ coordinator with verifiedOids := coordinator.verifiedOids.set runId verifiedOid },
          .ok ()) := by
  unfold registerVerifiedHead
  split
  · exact .inl ⟨_, rfl⟩
  · split
    next => exact .inl ⟨_, rfl⟩
    next same =>
      refine .inr ⟨?_, rfl⟩
      intro existing known
      rw [known] at same
      simpa using same

/-- What `start_next` demands of the head that it starts. -/
structure Startable (coordinator : IntegrationCoordinator) (runId : String)
    (item : IntegrationItem) : Prop where
  idle : coordinator.active = none
  live : runId ∉ coordinator.cancelledRuns
  head : coordinator.queue.head? = some item
  own : item.runId = runId
  checked : item.prospectiveChecksPassed = true

/-- `start_next` leaves all as it is, starts the head on the known verified head, or registers
the offered one and starts on it. -/
theorem startNext_cases (runId : String) (latest : Option String) :
    (∃ result, coordinator.startNext runId latest = (coordinator, result) ∧
        ∀ start, result ≠ .ok (some start)) ∨
      ∃ item oid, Startable coordinator runId item ∧
        (coordinator.latestVerifiedOid runId = some oid ∧
            coordinator.startNext runId latest =
              ({ coordinator with active := some item }, .ok (some ⟨item, oid⟩)) ∨
          coordinator.latestVerifiedOid runId = none ∧ latest = some oid ∧
            coordinator.startNext runId latest =
              ({ coordinator with
                  active := some item
                  verifiedOids := coordinator.verifiedOids.set runId oid },
                .ok (some ⟨item, oid⟩))) := by
  have silent : ∀ result : Except String (Option IntegrationStart),
      (result = .ok none ∨ ∃ text, result = .error text) →
      ∃ same, (coordinator, result) = (coordinator, same) ∧ ∀ start, same ≠ .ok (some start) := by
    rintro result (rfl | ⟨text, rfl⟩)
    · exact ⟨_, rfl, fun start => by simp⟩
    · exact ⟨_, rfl, fun start => by simp⟩
  unfold startNext
  split
  next => exact .inl (silent _ (.inl rfl))
  next idle =>
  split
  next => exact .inl (silent _ (.inl rfl))
  next live =>
  split
  next => exact .inl (silent _ (.inl rfl))
  next item rest queue =>
  split
  next => exact .inl (silent _ (.inl rfl))
  next own =>
  split
  next => exact .inl (silent _ (.inl rfl))
  next checked =>
  have startable : Startable coordinator runId item :=
    ⟨by simpa using idle, live, by rw [queue]; rfl, by simpa using own, by simpa using checked⟩
  cases known : coordinator.latestVerifiedOid runId with
  | some oid => exact .inr ⟨item, oid, startable, .inl ⟨rfl, rfl⟩⟩
  | none =>
    cases latest with
    | none => exact .inl (silent _ (.inl rfl))
    | some oid =>
      rcases coordinator.registerVerifiedHead_cases runId oid with ⟨text, raised⟩ | ⟨-, registered⟩
      · simp only [raised]
        exact .inl (silent _ (.inr ⟨text, rfl⟩))
      · refine .inr ⟨item, oid, startable, .inr ⟨rfl, rfl, ?_⟩⟩
        simp only [registered]
        rfl

/-- `complete` leaves all as it is, gives the channel free after a failure, or takes the head
off the queue and records what it has verified. -/
theorem complete_cases (headed : Headed coordinator) (success : Bool) (newOid : Option String) :
    (∃ result, coordinator.complete success newOid = (coordinator, result) ∧
        ∀ item, result ≠ .ok (some item)) ∨
      ∃ item, coordinator.active = some item ∧
        (success = false ∧ coordinator.complete success newOid =
            ({ coordinator with active := none }, .ok (some item)) ∨
          success = true ∧ ∃ oid rest, newOid = some oid ∧ coordinator.queue = item :: rest ∧
            coordinator.complete success newOid =
              ({ coordinator with
                  verifiedOids := coordinator.verifiedOids.set item.runId oid
                  queue := rest
                  active := none }, .ok (some item))) := by
  unfold complete
  cases active : coordinator.active with
  | none => exact .inl ⟨_, rfl, fun item => by simp⟩
  | some item =>
    cases success with
    | false => exact .inr ⟨item, rfl, .inl ⟨rfl, rfl⟩⟩
    | true =>
      cases newOid with
      | none => exact .inl ⟨_, rfl, fun item => by simp⟩
      | some oid =>
        obtain ⟨rest, queue⟩ := headed.queue_eq active
        refine .inr ⟨item, rfl, .inr ⟨rfl, oid, rest, rfl, queue, ?_⟩⟩
        simp only [queue]
        rfl

/-! ## The head of the queue -/

theorem passed_of_checked {item : IntegrationItem} (checked : item.prospectiveChecksPassed = true)
    (runId sliceId : String) (generation : Option Int) :
    passed runId sliceId generation item = item := by
  unfold passed
  split
  · rfl
  · rw [← checked]

@[simp] theorem passed_runId (item : IntegrationItem) (runId sliceId : String)
    (generation : Option Int) : (passed runId sliceId generation item).runId = item.runId := by
  unfold passed
  split <;> rfl

@[simp] theorem passed_unchecked (item : IntegrationItem) (runId sliceId : String)
    (generation : Option Int) :
    (passed runId sliceId generation item).unchecked = item.unchecked := by
  unfold passed
  split <;> rfl

section

variable (headed : Headed coordinator)
include headed

theorem Headed.filter (keep : IntegrationItem → Bool)
    (keeps : ∀ item, coordinator.active = some item → keep item = true) :
    Headed { coordinator with queue := coordinator.queue.filter keep } where
  head := by
    intro item active
    obtain ⟨rest, queue⟩ := headed.queue_eq active
    simp only [queue, List.filter_cons, keeps item active, if_true, List.head?_cons]
  checked := headed.checked
  free := fun item member => headed.free item (List.mem_of_mem_filter member)

theorem Headed.cancelRun (runId : String) :
    Headed (coordinator.cancelRun runId) where
  head := by
    intro item active
    obtain ⟨before, other⟩ := Option.filter_eq_some_iff.mp active
    obtain ⟨rest, queue⟩ := headed.queue_eq before
    simp only [IntegrationCoordinator.cancelRun, queue, List.filter_cons, other, if_true,
      List.head?_cons]
  checked := by
    intro item active
    exact headed.checked item (Option.filter_eq_some_iff.mp active).1
  free := by
    intro item member
    obtain ⟨queued, other⟩ := List.mem_filter.mp member
    intro cancelled
    rcases Finset.mem_insert.mp cancelled with same | earlier
    · simp [same] at other
    · exact headed.free item queued earlier

theorem Headed.markProspectivePassed (runId sliceId : String) (generation : Option Int) :
    Headed (coordinator.markProspectivePassed runId sliceId generation) where
  head := by
    intro item active
    obtain ⟨rest, queue⟩ := headed.queue_eq active
    simp only [IntegrationCoordinator.markProspectivePassed, queue, List.map_cons, List.head?_cons,
      passed_of_checked (headed.checked item active)]
  checked := headed.checked
  free := by
    intro item member
    obtain ⟨before, queued, same⟩ := List.mem_map.mp member
    have free := headed.free before queued
    rw [← same, passed_runId]
    exact free

theorem Headed.enqueue (item : IntegrationItem) : Headed (coordinator.enqueue item).1 := by
  rcases coordinator.enqueue_cases item with same | ⟨live, appended⟩
  · rw [same]
    exact headed
  · rw [appended]
    refine ⟨?_, headed.checked, ?_⟩
    · intro active isActive
      obtain ⟨rest, queue⟩ := headed.queue_eq isActive
      simp [queue]
    · intro other member
      rcases List.mem_append.mp member with queued | new
      · exact headed.free other queued
      · rw [List.mem_singleton.mp new]
        exact live

theorem Headed.startNext (runId : String) (latest : Option String) :
    Headed (coordinator.startNext runId latest).1 := by
  rcases coordinator.startNext_cases runId latest with ⟨result, same, -⟩ | ⟨item, oid, startable, started⟩
  · rw [same]
    exact headed
  · have next : Headed { coordinator with active := some item } := by
      refine ⟨?_, ?_, headed.free⟩
      · intro other active
        rw [← Option.some.inj active]
        exact startable.head
      · intro other active
        rw [← Option.some.inj active]
        exact startable.checked
    rcases started with ⟨-, started⟩ | ⟨-, -, started⟩
    · rw [started]
      exact next
    · rw [started]
      exact ⟨next.head, next.checked, next.free⟩

theorem Headed.complete (success : Bool) (newOid : Option String) :
    Headed (coordinator.complete success newOid).1 := by
  rcases complete_cases headed success newOid with ⟨result, same, -⟩ | ⟨item, active, done⟩
  · rw [same]
    exact headed
  · rcases done with ⟨-, failed⟩ | ⟨-, oid, rest, -, queue, succeeded⟩
    · rw [failed]
      refine ⟨?_, ?_, headed.free⟩
      · intro other active
        cases active
      · intro other active
        cases active
    · rw [succeeded]
      refine ⟨?_, ?_, ?_⟩
      · intro other active
        cases active
      · intro other active
        cases active
      · intro other member
        exact headed.free other (by rw [queue]; exact List.mem_cons_of_mem _ member)

theorem Headed.revokeSlice (runId sliceId : String) :
    Headed (coordinator.revokeSlice runId sliceId).1 := by
  unfold IntegrationCoordinator.revokeSlice
  split
  · exact headed
  · next inactive =>
    refine headed.filter _ ?_
    intro item active
    simpa [activeSlice, active, imp_iff_not_or] using inactive

theorem Headed.registerVerifiedHead (runId verifiedOid : String) :
    Headed (coordinator.registerVerifiedHead runId verifiedOid).1 := by
  rcases coordinator.registerVerifiedHead_cases runId verifiedOid with ⟨text, raised⟩ | ⟨-, done⟩
  · rw [raised]
    exact headed
  · rw [done]
    exact ⟨headed.head, headed.checked, headed.free⟩

theorem Headed.enqueueRepair (item : IntegrationItem) :
    Headed (coordinator.enqueueRepair item).1 := by
  rcases coordinator.enqueueRepair_cases item with ⟨text, raised⟩ | appended
  · rw [raised]
    exact headed
  · rw [appended]
    exact headed.enqueue item

theorem Headed.call (call : IntegrationCall) : Headed (coordinator.call call).1 := by
  cases call with
  | enqueue item => exact headed.enqueue item
  | enqueueRepair item => exact headed.enqueueRepair item
  | cancelRun runId => exact headed.cancelRun runId
  | revokeSlice runId sliceId => exact headed.revokeSlice runId sliceId
  | markProspectivePassed runId sliceId generation =>
    exact headed.markProspectivePassed runId sliceId generation
  | registerVerifiedHead runId verifiedOid => exact headed.registerVerifiedHead runId verifiedOid
  | startNext runId latest => exact headed.startNext runId latest
  | complete success newOid => exact headed.complete success newOid

end

end IntegrationCoordinator

/-! ## The log -/

namespace IntegrationHistory

variable {log : List (IntegrationCall × IntegrationReply)} {entry : IntegrationCall × IntegrationReply}
  {oid : String}

@[simp] theorem enqueued_snoc :
    enqueued (log ++ [entry]) = enqueued log ++ (enqueuedBy entry).toList := by
  unfold enqueued
  cases added : enqueuedBy entry <;> simp [added]

@[simp] theorem integrated_snoc :
    integrated (log ++ [entry]) = integrated log ++ (integratedBy entry).toList := by
  unfold integrated
  cases added : integratedBy entry <;> simp [added]

theorem lastIntegrated_quiet (quiet : integratedBy entry = none) (runId : String) :
    lastIntegrated runId (log ++ [entry]) = lastIntegrated runId log := by
  simp [lastIntegrated, quiet]

theorem lastIntegrated_done {item : IntegrationItem} (done : integratedBy entry = some (item, oid))
    (runId : String) :
    lastIntegrated runId (log ++ [entry]) =
      if item.runId = runId then some oid else lastIntegrated runId log := by
  unfold lastIntegrated
  rw [integrated_snoc, done]
  by_cases own : item.runId = runId
  · simp [own]
  · simp [own]

theorem firstHead_quiet (quiet : headBy entry = none) (runId : String) :
    firstHead runId (log ++ [entry]) = firstHead runId log := by
  simp [firstHead, quiet]

theorem firstHead_offered {offered : String} (offers : headBy entry = some (offered, oid))
    (runId : String) :
    firstHead runId (log ++ [entry]) =
      (firstHead runId log).or (if offered = runId then some oid else none) := by
  unfold firstHead
  rw [List.filterMap_append, List.find?_append]
  by_cases own : offered = runId
  · cases (log.filterMap headBy).find? (·.1 = runId) <;> simp [offers, own]
  · cases (log.filterMap headBy).find? (·.1 = runId) <;> simp [offers, own]

/-- The verified head of a Run: what its last successful completion has set, and before that the
head that it got first. -/
def verifiedHead (runId : String) (log : List (IntegrationCall × IntegrationReply)) :
    Option String :=
  (lastIntegrated runId log).or (firstHead runId log)

/-- A start is of an item that has passed its checks, on the verified head of its Run, and its
Run has not been cancelled before. -/
structure StartsWell (earlier : List (IntegrationCall × IntegrationReply))
    (entry : IntegrationCall × IntegrationReply) (start : IntegrationStart) : Prop where
  checked : start.item.prospectiveChecksPassed = true
  base : some start.baseVerifiedOid =
    (lastIntegrated start.item.runId earlier).or (firstHead start.item.runId (earlier ++ [entry]))
  live : ∀ before ∈ earlier, cancelledBy before ≠ some start.item.runId

/-- What the log says about the coordinator that has answered its calls. -/
structure Told (history : IntegrationHistory) : Prop where
  order : (((integrated history.log).map Prod.fst ++ history.coordinator.queue).map
    IntegrationItem.unchecked).Sublist ((enqueued history.log).map IntegrationItem.unchecked)
  heads : ∀ runId, history.coordinator.latestVerifiedOid runId = verifiedHead runId history.log
  cancels : ∀ entry ∈ history.log, ∀ runId, cancelledBy entry = some runId →
    runId ∈ history.coordinator.cancelledRuns
  starts : ∀ earlier entry later start, history.log = earlier ++ entry :: later →
    startedBy entry = some start → StartsWell earlier entry start

theorem told_init : Told init where
  order := List.Sublist.refl _
  heads := fun _ => rfl
  cancels := fun _ member => absurd member List.not_mem_nil
  starts := by
    intro earlier entry later start split
    simp [init] at split

variable {history : IntegrationHistory} {next : IntegrationCoordinator}

theorem starts_snoc {P : List (IntegrationCall × IntegrationReply) →
      (IntegrationCall × IntegrationReply) → IntegrationStart → Prop}
    (old : ∀ earlier entry later start, log = earlier ++ entry :: later →
      startedBy entry = some start → P earlier entry start)
    (new : ∀ start, startedBy entry = some start → P log entry start) :
    ∀ earlier other later start, log ++ [entry] = earlier ++ other :: later →
      startedBy other = some start → P earlier other start := by
  intro earlier other later start split begins
  rcases List.eq_nil_or_concat later with rfl | ⟨rest, last, rfl⟩
  · obtain ⟨rfl, same⟩ := List.append_inj' split rfl
    obtain rfl := (List.cons.inj same).1
    exact new start begins
  · rw [List.concat_eq_append, ← List.cons_append, ← List.append_assoc] at split
    exact old earlier other rest start (List.append_inj' split rfl).1 begins

theorem Told.quiet (told : Told history) (entry : IntegrationCall × IntegrationReply)
    (nothingDone : integratedBy entry = none) (nothingStarted : startedBy entry = none)
    (noHead : headBy entry = none)
    (queue : (next.queue.map IntegrationItem.unchecked).Sublist
      ((history.coordinator.queue ++ (enqueuedBy entry).toList).map IntegrationItem.unchecked))
    (verified : next.verifiedOids = history.coordinator.verifiedOids)
    (cancelled : history.coordinator.cancelledRuns ⊆ next.cancelledRuns)
    (cancels : ∀ runId, cancelledBy entry = some runId → runId ∈ next.cancelledRuns) :
    Told ⟨next, history.log ++ [entry]⟩ where
  order := by
    have before := told.order
    rw [List.map_append] at queue before
    simp only [integrated_snoc, enqueued_snoc, nothingDone, Option.toList_none, List.append_nil,
      List.map_append]
    refine ((List.Sublist.refl _).append queue).trans ?_
    rw [← List.append_assoc]
    exact before.append (List.Sublist.refl _)
  heads := by
    intro runId
    rw [verifiedHead, lastIntegrated_quiet nothingDone, firstHead_quiet noHead]
    rw [IntegrationCoordinator.latestVerifiedOid, verified]
    exact told.heads runId
  cancels := by
    intro other member runId same
    rcases List.mem_append.mp member with old | new
    · exact cancelled (told.cancels other old runId same)
    · rw [List.mem_singleton.mp new] at same
      exact cancels runId same
  starts := by
    refine starts_snoc told.starts ?_
    intro start begins
    rw [nothingStarted] at begins
    cases begins

theorem Told.same (told : Told history) (entry : IntegrationCall × IntegrationReply)
    (nothingDone : integratedBy entry = none) (nothingStarted : startedBy entry = none)
    (noHead : headBy entry = none) (cancels : cancelledBy entry = none) :
    Told ⟨history.coordinator, history.log ++ [entry]⟩ := by
  refine told.quiet entry nothingDone nothingStarted noHead ?_ rfl subset_rfl ?_
  · rw [List.map_append]
    exact List.sublist_append_left _ _
  · intro runId cancelled
    rw [cancels] at cancelled
    cases cancelled

theorem Told.appended (told : Told history) (item : IntegrationItem) {call : IntegrationCall}
    (appends : call = .enqueue item ∨ call = .enqueueRepair item) :
    Told ⟨(history.coordinator.enqueue item).1,
      history.log ++ [(call, .of .flag (history.coordinator.enqueue item).2)]⟩ := by
  rcases history.coordinator.enqueue_cases item with refused | ⟨-, appended⟩
  · rw [refused]
    rcases appends with rfl | rfl
    · exact told.same _ rfl rfl rfl rfl
    · exact told.same _ rfl rfl rfl rfl
  · rw [appended]
    rcases appends with rfl | rfl
    · exact told.quiet _ rfl rfl rfl (List.Sublist.refl _) rfl subset_rfl
        (fun runId cancelled => by cases cancelled)
    · exact told.quiet _ rfl rfl rfl (List.Sublist.refl _) rfl subset_rfl
        (fun runId cancelled => by cases cancelled)

theorem Told.enqueueRepair (told : Told history) (item : IntegrationItem) :
    Told (history.step (.enqueueRepair item)) := by
  unfold step IntegrationCoordinator.call
  dsimp only
  rcases history.coordinator.enqueueRepair_cases item with ⟨text, raised⟩ | same
  · rw [raised]
    exact told.same _ rfl rfl rfl rfl
  · rw [same]
    exact told.appended item (.inr rfl)

theorem Told.cancelRun (told : Told history) (runId : String) :
    Told (history.step (.cancelRun runId)) := by
  refine told.quiet _ rfl rfl rfl ?_ rfl (Finset.subset_insert _ _) ?_
  · rw [List.map_append]
    exact (List.filter_sublist.map _).trans (List.sublist_append_left _ _)
  · intro other cancelled
    rw [← Option.some.inj cancelled]
    exact Finset.mem_insert_self _ _

theorem Told.revokeSlice (told : Told history) (runId sliceId : String) :
    Told (history.step (.revokeSlice runId sliceId)) := by
  unfold step IntegrationCoordinator.call IntegrationCoordinator.revokeSlice
  dsimp only
  split
  · exact told.same _ rfl rfl rfl rfl
  · refine told.quiet _ rfl rfl rfl ?_ rfl subset_rfl (fun other cancelled => by cases cancelled)
    rw [List.map_append]
    exact (List.filter_sublist.map _).trans (List.sublist_append_left _ _)

theorem Told.markProspectivePassed (told : Told history) (runId sliceId : String)
    (generation : Option Int) :
    Told (history.step (.markProspectivePassed runId sliceId generation)) := by
  refine told.quiet _ rfl rfl rfl ?_ rfl subset_rfl (fun other cancelled => by cases cancelled)
  have same : (history.coordinator.queue.map
        (IntegrationCoordinator.passed runId sliceId generation)).map IntegrationItem.unchecked =
      history.coordinator.queue.map IntegrationItem.unchecked := by
    rw [List.map_map]
    refine List.map_congr_left ?_
    intro item member
    exact IntegrationCoordinator.passed_unchecked item runId sliceId generation
  show ((history.coordinator.queue.map (IntegrationCoordinator.passed runId sliceId generation)).map
    IntegrationItem.unchecked).Sublist _
  rw [same, List.map_append]
  exact List.sublist_append_left _ _

theorem verifiedHead_offered {runId : String} {coordinator : IntegrationCoordinator}
    (heads : ∀ runId, coordinator.latestVerifiedOid runId = verifiedHead runId log)
    (agrees : ∀ existing, coordinator.latestVerifiedOid runId = some existing → existing = oid)
    (nothingDone : integratedBy entry = none) (offers : headBy entry = some (runId, oid))
    (other : String) :
    (coordinator.verifiedOids.set runId oid).get? other = verifiedHead other (log ++ [entry]) := by
  rw [verifiedHead, lastIntegrated_quiet nothingDone, firstHead_offered offers, Dict.get?_set,
    ← Option.or_assoc]
  have before := heads other
  rw [verifiedHead] at before
  rw [← before]
  by_cases own : other = runId
  · subst own
    rw [if_pos rfl, if_pos rfl]
    cases known : coordinator.latestVerifiedOid other with
    | none => rfl
    | some existing => rw [agrees existing known]; rfl
  · rw [if_neg own, if_neg (Ne.symm own), Option.or_none]
    rfl

theorem Told.registerVerifiedHead (told : Told history) (runId verifiedOid : String) :
    Told (history.step (.registerVerifiedHead runId verifiedOid)) := by
  unfold step IntegrationCoordinator.call
  rcases history.coordinator.registerVerifiedHead_cases runId verifiedOid with
    ⟨text, raised⟩ | ⟨agrees, done⟩
  · simp only [raised]
    exact told.same _ rfl rfl rfl rfl
  · simp only [done]
    refine ⟨?_, ?_, ?_, ?_⟩
    · simpa [integratedBy, enqueuedBy] using told.order
    · exact verifiedHead_offered told.heads agrees rfl rfl
    · intro entry member other cancelled
      rcases List.mem_append.mp member with old | new
      · exact told.cancels entry old other cancelled
      · rw [List.mem_singleton.mp new] at cancelled
        cases cancelled
    · exact starts_snoc told.starts (fun start begins => by cases begins)

theorem Told.begin (told : Told history) {runId : String} {latest : Option String}
    {item : IntegrationItem} (startable : history.coordinator.Startable runId item)
    (queue : next.queue = history.coordinator.queue)
    (cancelled : next.cancelledRuns = history.coordinator.cancelledRuns)
    (heads : ∀ other, next.latestVerifiedOid other = verifiedHead other
      (history.log ++ [(.startNext runId latest, .started (some ⟨item, oid⟩))]))
    (known : next.latestVerifiedOid runId = some oid) :
    Told ⟨next, history.log ++ [(.startNext runId latest, .started (some ⟨item, oid⟩))]⟩ where
  order := by
    have before := told.order
    simp only [integrated_snoc, enqueued_snoc, queue, integratedBy, enqueuedBy, Option.toList_none,
      List.append_nil]
    exact before
  heads := heads
  cancels := by
    intro entry member other cancels
    rw [cancelled]
    rcases List.mem_append.mp member with old | new
    · exact told.cancels entry old other cancels
    · rw [List.mem_singleton.mp new] at cancels
      cases cancels
  starts := by
    refine starts_snoc told.starts ?_
    intro start begins
    obtain rfl := Option.some.inj begins
    refine ⟨startable.checked, ?_, ?_⟩
    · have head := heads runId
      rw [known, verifiedHead, lastIntegrated_quiet rfl] at head
      rw [startable.own]
      exact head
    · intro entry member cancels
      rw [startable.own] at cancels
      exact startable.live (told.cancels entry member runId cancels)

theorem Told.startNext (told : Told history) (runId : String) (latest : Option String) :
    Told (history.step (.startNext runId latest)) := by
  unfold step IntegrationCoordinator.call
  dsimp only
  rcases history.coordinator.startNext_cases runId latest with
    ⟨result, same, notStarted⟩ | ⟨item, oid, startable, started⟩
  · rw [same]
    cases result with
    | error text => exact told.same _ rfl rfl (by cases latest <;> rfl) rfl
    | ok start =>
      cases start with
      | none => exact told.same _ rfl rfl (by cases latest <;> rfl) rfl
      | some start => exact absurd rfl (notStarted start)
  · rcases started with ⟨known, started⟩ | ⟨unknown, rfl, started⟩
    · rw [started]
      refine told.begin startable rfl rfl ?_ known
      intro other
      show history.coordinator.latestVerifiedOid other = _
      rw [told.heads other]
      cases latest with
      | none => rw [verifiedHead, verifiedHead, lastIntegrated_quiet rfl, firstHead_quiet rfl]
      | some offered =>
        -- The offered head comes after the one that is known.
        rw [verifiedHead, verifiedHead, lastIntegrated_quiet rfl,
          firstHead_offered (show headBy _ = some (runId, offered) from rfl), ← Option.or_assoc]
        by_cases own : runId = other
        · have head := told.heads other
          rw [← own, known] at head
          rw [← own, show (lastIntegrated runId history.log).or (firstHead runId history.log) =
            some oid from head.symm]
          rfl
        · rw [if_neg own, Option.or_none]
    · rw [started]
      refine told.begin startable rfl rfl ?_ ?_
      · refine verifiedHead_offered told.heads ?_ rfl rfl
        intro existing known
        rw [unknown] at known
        cases known
      · show (history.coordinator.verifiedOids.set runId oid).get? runId = some oid
        rw [Dict.get?_set, if_pos rfl]

theorem Told.complete (told : Told history) (headed : history.coordinator.Headed) (success : Bool)
    (newOid : Option String) : Told (history.step (.complete success newOid)) := by
  unfold step IntegrationCoordinator.call
  dsimp only
  rcases IntegrationCoordinator.complete_cases headed success newOid with
    ⟨result, same, notDone⟩ | ⟨item, active, done⟩
  · rw [same]
    have silent : integratedBy (.complete success newOid, .of .completed result) = none := by
      cases result with
      | error text => cases success <;> cases newOid <;> rfl
      | ok item =>
        cases item with
        | none => cases success <;> cases newOid <;> rfl
        | some item => exact absurd rfl (notDone item)
    exact told.same _ silent rfl rfl rfl
  · rcases done with ⟨rfl, failed⟩ | ⟨rfl, oid, rest, rfl, queue, succeeded⟩
    · rw [failed]
      refine told.quiet _ rfl rfl rfl ?_ rfl subset_rfl (fun runId cancelled => by cases cancelled)
      rw [List.map_append]
      exact List.sublist_append_left _ _
    · rw [succeeded]
      have done : integratedBy (.complete true (some oid), .completed (some item)) =
          some (item, oid) := rfl
      refine ⟨?_, ?_, ?_, ?_⟩
      · have before := told.order
        rw [queue] at before
        simpa [integratedBy, enqueuedBy, IntegrationReply.of] using before
      · intro runId
        show (history.coordinator.verifiedOids.set item.runId oid).get? runId =
          verifiedHead runId (history.log ++ [(.complete true (some oid), .completed (some item))])
        rw [verifiedHead, lastIntegrated_done done]
        rw [Dict.get?_set]
        by_cases own : runId = item.runId
        · rw [if_pos own, if_pos own.symm]
          rfl
        · rw [if_neg own, if_neg (Ne.symm own), firstHead_quiet rfl]
          exact told.heads runId
      · intro entry member other cancelled
        rcases List.mem_append.mp member with old | new
        · exact told.cancels entry old other cancelled
        · rw [List.mem_singleton.mp new] at cancelled
          cases cancelled
      · exact starts_snoc told.starts (fun start begins => by cases begins)

theorem Told.step (told : Told history) (headed : history.coordinator.Headed)
    (call : IntegrationCall) : Told (history.step call) := by
  cases call with
  | enqueue item => exact told.appended item (.inl rfl)
  | enqueueRepair item => exact told.enqueueRepair item
  | cancelRun runId => exact told.cancelRun runId
  | revokeSlice runId sliceId => exact told.revokeSlice runId sliceId
  | markProspectivePassed runId sliceId generation =>
    exact told.markProspectivePassed runId sliceId generation
  | registerVerifiedHead runId verifiedOid => exact told.registerVerifiedHead runId verifiedOid
  | startNext runId latest => exact told.startNext runId latest
  | complete success newOid => exact told.complete headed success newOid

/-! ## Whole histories -/

theorem headed_and_told (calls : List IntegrationCall) :
    (runFrom step init calls).coordinator.Headed ∧ Told (runFrom step init calls) := by
  refine runFrom_invariant (fun history => history.coordinator.Headed ∧ Told history) ?_
    ⟨IntegrationCoordinator.headed_init, told_init⟩ calls
  rintro history call ⟨headed, told⟩
  exact ⟨headed.call call, told.step headed call⟩

/-- The successful completions of a Run, and then the items that wait, are in the order in
which they were enqueued. -/
theorem Told.order_of_run (told : Told history) (runId : String) :
    ((((integrated history.log).map Prod.fst ++ history.coordinator.queue).filter
        (·.runId = runId)).map IntegrationItem.unchecked).Sublist
      (((enqueued history.log).filter (·.runId = runId)).map IntegrationItem.unchecked) := by
  have ofRun : ∀ items : List IntegrationItem,
      (items.filter (·.runId = runId)).map IntegrationItem.unchecked =
        (items.map IntegrationItem.unchecked).filter (·.runId = runId) := by
    intro items
    rw [List.filter_map]
    rfl
  rw [ofRun, ofRun]
  exact told.order.filter _

/-- What a history of calls keeps: the active item is the head of the queue, each Run completes
in its order, every start is of a checked item of a Run that is not cancelled and builds on the
verified head of the Run, and nothing of a cancelled Run is left. -/
structure FirstInFirstOut (history : IntegrationHistory) : Prop where
  head : ∀ item, history.coordinator.active = some item →
    history.coordinator.queue.head? = some item
  order : ∀ runId, ((((integrated history.log).map Prod.fst ++ history.coordinator.queue).filter
      (·.runId = runId)).map IntegrationItem.unchecked).Sublist
    (((enqueued history.log).filter (·.runId = runId)).map IntegrationItem.unchecked)
  starts : ∀ earlier entry later start, history.log = earlier ++ entry :: later →
    startedBy entry = some start → StartsWell earlier entry start
  cancelled : ∀ entry ∈ history.log, ∀ runId, cancelledBy entry = some runId →
    (∀ item ∈ history.coordinator.queue, item.runId ≠ runId) ∧
      ∀ item, history.coordinator.active = some item → item.runId ≠ runId

/-- Whatever is called, the items of a Run are integrated in the order in which they came. -/
theorem integration_first_in_first_out (calls : List IntegrationCall) :
    FirstInFirstOut (runFrom step init calls) := by
  obtain ⟨headed, told⟩ := headed_and_told calls
  refine ⟨headed.head, told.order_of_run, told.starts, ?_⟩
  intro entry member runId cancelled
  have gone := told.cancels entry member runId cancelled
  constructor
  · rintro item queued rfl
    exact headed.free item queued gone
  · rintro item active rfl
    exact headed.active_free active gone

end IntegrationHistory

end CodeMigrator
