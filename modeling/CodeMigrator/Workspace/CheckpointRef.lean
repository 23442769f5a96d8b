import CodeMigrator.Workspace.CheckpointStages

/-!
# The ref of a checkpoint

What `advance_candidate_ref` makes of a checkpoint that nothing stands in the way of, what the
service makes of its conflicts, and how the checkpoint ends once the ref has advanced.
-/

namespace CodeMigrator
open Lib

namespace AcceptableCheckpoint
open CheckpointService OutputRepository Lib.Process

variable {point : AcceptableCheckpoint} {stores : CheckpointStores} {world : CheckpointWorld}
  {fates : CheckpointFates} {workspace : WorkspaceHandle} {oid : GitOid}
  {ends : Ends CheckpointWorld CheckpointError Unit} {receipt : CheckpointReceipt}

/-! ## The ref -/

/-- The repository with the ref at another commit. -/
def advanced (point : AcceptableCheckpoint) (oid : GitOid) (repository : GitRepository) :
    GitRepository :=
  { repository with refs := repository.refs.set (candidateRef point.setup point.path) oid }

theorem Sound.advanced (sound : point.Sound stores) (oid : GitOid) :
    point.Sound { stores with repository := point.advanced oid stores.repository } :=
  ⟨sound.own, sound.named, sound.intent, sound.pending, sound.coherent⟩

theorem Pending.advanced (pending : point.Pending stores oid) (unadvanced : point.Unadvanced stores) :
    point.Advanced { stores with repository := point.advanced oid stores.repository } oid := by
  refine ⟨?_, pending.onTop, pending.remembers, unadvanced.unreceipted⟩
  obtain ⟨found, present, -⟩ := pending.onTop
  have there : ((point.advanced oid stores.repository).commits.get? oid).isSome := by
    rw [AcceptableCheckpoint.advanced, present]
    rfl
  rw [head, commitAt, AcceptableCheckpoint.advanced, Dict.get?_set, if_pos rfl, Option.filter_some]
  exact if_pos there

/-- The ref is still at the expected commit. -/
def Behind (point : AcceptableCheckpoint) (stores : CheckpointStores) : Prop :=
  point.head stores = some point.expected

/-- `advance_candidate_ref` raises a conflict. -/
def Conflicts (point : AcceptableCheckpoint) (fates : CheckpointFates) (stores : CheckpointStores) :
    Prop :=
  (∃ applied, fates .advanceResolve = .raises applied) ∨
    fates .advanceResolve = .runs ∧
      (¬ point.Behind stores ∨ fates .readParents = .runs ∧ fates .assertCommits = .runs ∧
        ∃ applied, fates .updateRef = .raises applied)

/-- The ref has advanced before the call, or it advances in it. -/
def MovedAfter (point : AcceptableCheckpoint) (fates : CheckpointFates) (stores : CheckpointStores) :
    Prop :=
  ¬ point.Behind stores ∨
    fates .advanceResolve = .runs ∧ fates .readParents = .runs ∧ fates .assertCommits = .runs ∧
      (fates .updateRef = .runs ∨ fates .updateRef = .raises true)

/-- Nothing but the repository has changed, and the ref has advanced as the calls say. -/
structure RefAfter (point : AcceptableCheckpoint) (fates : CheckpointFates) (oid : GitOid)
    (before after : CheckpointWorld) : Prop where
  frame : ∃ repository, after = { before with repository := repository }
  sound : point.Sound (point.stores after)
  onTop : point.OnTop (point.stores after).repository oid
  stage : point.MovedAfter fates (point.stores before) ∧ point.Advanced (point.stores after) oid ∨
    ¬ point.MovedAfter fates (point.stores before) ∧ point.Unadvanced (point.stores after)

theorem Unadvanced.behind (unadvanced : point.Unadvanced stores) : point.Behind stores :=
  unadvanced.head

theorem Advanced.not_behind (sound : point.Sound stores) (advanced : point.Advanced stores oid) :
    ¬ point.Behind stores := by
  intro behind
  have same := advanced.head.symm.trans behind
  exact sound.ne advanced.onTop (Option.some.inj same)

/-- The ref moves from the expected commit to the pending one. -/
theorem after_moveCandidateRef (pending : point.Pending (point.stores world) oid)
    (unadvanced : point.Unadvanced (point.stores world))
    (runs : fates .assertCommits = .runs → fates .updateRef = .runs →
      ends.returns () { world with repository := point.advanced oid world.repository })
    (conflict : fates .assertCommits = .runs → ∀ applied, fates .updateRef = .raises applied →
      ends.raises .conflict (if applied then
        { world with repository := point.advanced oid world.repository } else world))
    (raises : ∀ applied, fates .assertCommits = .raises applied → ends.raises .port world)
    (dies : Mortal fates → ∀ repository, repository = world.repository ∨
      repository = point.advanced oid world.repository →
        ends.dies { world with repository := repository }) :
    (moveCandidateRef point.setup fates point.path point.expected oid).After ends world := by
  obtain ⟨found, present, -⟩ := pending.onTop
  obtain ⟨named, there⟩ := Option.filter_eq_some_iff.mp unadvanced.head
  have both : ((world.repository.commits.get? oid).isSome &&
      (world.repository.commits.get? point.expected).isSome) = true := by
    rw [show world.repository.commits.get? oid = some found from present]
    exact there
  have held : world.repository.refs.get? (candidateRef point.setup point.path) =
      some point.expected := named
  have moves : (ask (fun world : CheckpointWorld =>
        world.repository.refs.get? (candidateRef point.setup point.path)) >>= fun held =>
      if held ≠ some point.expected then raise .conflict
      else change (fun world : CheckpointWorld => { world with
        repository := point.advanced oid world.repository }) :
      Checkpointing Unit) world =
        (.ok (), { world with repository := point.advanced oid world.repository }) := by
    rw [ask_bind, if_neg (not_not.mpr held)]
    rfl
  rw [moveCandidateRef, after_bind, after_ask]
  dsimp only
  rw [after_bind]
  refine after_meeting_look (by rw [if_pos both]; rfl) (fun asserted => ?_) raises
    (fun _ died => dies ⟨_, _, died⟩ _ (.inl rfl))
  rw [if_pos both, after_pure]
  refine after_meeting (fun updated => ?_) (fun applied raised => ?_) (fun applied died => ?_)
  · exact After.of_ok moves (runs asserted updated)
  · have refused := conflict asserted applied raised
    cases applied with
    | false => exact refused
    | true =>
      rw [if_pos rfl]
      exact (congrArg (ends.raises .conflict) (congrArg Prod.snd moves)).mpr refused
  · cases applied with
    | false => exact dies ⟨_, _, died⟩ _ (.inl rfl)
    | true =>
      rw [if_pos rfl]
      exact (congrArg ends.dies (congrArg Prod.snd moves)).mpr (dies ⟨_, _, died⟩ _ (.inr rfl))

/-- The ref is moved, also if an earlier call has moved it. -/
theorem after_advanceCandidateRef (sound : point.Sound (point.stores world))
    (pending : point.Pending (point.stores world) oid)
    (runs : ¬ point.Conflicts fates (point.stores world) →
      point.MovedAfter fates (point.stores world) → ∀ after, point.RefAfter fates oid world after →
      ends.returns () after)
    (conflict : point.Conflicts fates (point.stores world) → ∀ after,
      point.RefAfter fates oid world after → ends.raises .conflict after)
    (raises : ¬ point.Conflicts fates (point.stores world) →
      ¬ point.MovedAfter fates (point.stores world) → ends.raises .port world)
    (dies : Mortal fates → ∀ after, (∃ repository, after = { world with repository := repository }) →
      point.Sound (point.stores after) →
      (point.Unadvanced (point.stores after) ∨ point.Advanced (point.stores after) oid) →
      ends.dies after) :
    (advanceCandidateRef point.setup fates point.path point.request.expectedCandidateOid oid).After
      ends world := by
  have different : oid.text ≠ point.expected.text := text_ne (sound.ne pending.onTop)
  rw [advanceCandidateRef, after_bind]
  rcases pending.stage with unadvanced | advanced
  · -- where the ref has not moved in this call, it is still at the expected commit
    have still : ¬ point.MovedAfter fates (point.stores world) →
        point.RefAfter fates oid world world :=
      fun unmoved => ⟨⟨world.repository, rfl⟩, sound, pending.onTop, .inr ⟨unmoved, unadvanced⟩⟩
    have unmoved : ¬ (fates .advanceResolve = .runs ∧ fates .readParents = .runs ∧
        fates .assertCommits = .runs) → ¬ point.MovedAfter fates (point.stores world) := by
      rintro stopped (ahead | arrived)
      · exact ahead unadvanced.behind
      · exact stopped ⟨arrived.1, arrived.2.1, arrived.2.2.1⟩
    have died := fun mortal => dies mortal world ⟨world.repository, rfl⟩ sound (.inl unadvanced)
    refine @after_currentCandidateOid _ _ _ _ _ point.expected unadvanced.head (fun resolved => ?_)
      (fun _ raised => conflict (.inl ⟨_, raised⟩) world (still (unmoved fun all => ?_)))
      (fun _ dead => died ⟨_, _, dead⟩)
    rotate_left
    · rw [all.1] at raised
      cases raised
    have behind : ¬ (¬ point.Behind (point.stores world)) := not_not.mpr unadvanced.behind
    obtain ⟨found, present, parents⟩ := pending.onTop
    have known : (world.repository.commits.get? oid).map (·.parents) = some [point.expected] := by
      rw [show world.repository.commits.get? oid = some found from present, ← parents]
      rfl
    have moved : fates .readParents = .runs → fates .assertCommits = .runs →
        (fates .updateRef = .runs ∨ fates .updateRef = .raises true) →
          point.RefAfter fates oid world
            { world with repository := point.advanced oid world.repository } :=
      fun read asserted updated => ⟨⟨_, rfl⟩, sound.advanced oid, pending.onTop,
        .inl ⟨.inr ⟨resolved, read, asserted, updated⟩, pending.advanced unadvanced⟩⟩
    have clean : (∀ applied, fates .updateRef = .raises applied → fates .readParents = .runs →
        fates .assertCommits ≠ .runs) → ¬ point.Conflicts fates (point.stores world) := by
      rintro stops (⟨applied, raised⟩ | ⟨-, ahead | ⟨read, asserted, applied, raised⟩⟩)
      · rw [resolved] at raised
        cases raised
      · exact behind ahead
      · exact stops applied raised read asserted
    dsimp only
    rw [if_neg (not_not.mpr point.expectedText),
      if_neg (by rw [← point.expectedText]; exact different.symm), after_bind]
    refine after_meeting_look rfl (fun read => ?_)
      (fun _ raised => raises (clean fun _ _ read => ?_) (unmoved fun all => ?_))
      (fun _ dead => died ⟨_, _, dead⟩)
    rotate_left
    · rw [read] at raised
      cases raised
    · rw [all.2.1] at raised
      cases raised
    rw [after_ask, known]
    dsimp only
    rw [if_neg (not_not.mpr rfl)]
    refine after_moveCandidateRef pending unadvanced ?_ ?_ ?_ ?_
    · intro asserted updated
      exact runs (clean fun _ raised => by rw [updated] at raised; cases raised)
        (.inr ⟨resolved, read, asserted, .inl updated⟩) _ (moved read asserted (.inl updated))
    · intro asserted applied raised
      have conflicts : point.Conflicts fates (point.stores world) :=
        .inr ⟨resolved, .inr ⟨read, asserted, applied, raised⟩⟩
      refine conflict conflicts _ ?_
      cases applied with
      | false =>
        refine still ?_
        rintro (ahead | ⟨-, -, -, updated | updated⟩)
        · exact behind ahead
        · rw [raised] at updated
          cases updated
        · rw [raised] at updated
          cases updated
      | true => exact moved read asserted (.inr raised)
    · intro applied raised
      refine raises (clean fun _ _ _ asserted => ?_) (unmoved fun all => ?_)
      · rw [asserted] at raised
        cases raised
      · rw [all.2.2] at raised
        cases raised
    · rintro mortal repository (rfl | rfl)
      · exact died mortal
      · exact dies mortal _ ⟨_, rfl⟩ (sound.advanced oid) (.inr (pending.advanced unadvanced))
  · have ahead := advanced.not_behind sound
    have stays : point.RefAfter fates oid world world :=
      ⟨⟨world.repository, rfl⟩, sound, pending.onTop, .inl ⟨.inl ahead, advanced⟩⟩
    refine @after_currentCandidateOid _ _ _ _ _ oid advanced.head (fun resolved => ?_)
      (fun _ raised => conflict (.inl ⟨_, raised⟩) world stays)
      (fun _ dead => dies ⟨_, _, dead⟩ world ⟨world.repository, rfl⟩ sound (.inr advanced))
    dsimp only
    rw [if_pos (by rw [← point.expectedText]; exact different), after_raise]
    exact conflict (.inr ⟨resolved, .inl ahead⟩) world stays

/-- The read of the ref after a conflict does not raise. -/
def Readable (fates : CheckpointFates) : Prop := ∀ applied, fates .readRef ≠ .raises applied

/-- What is left where the ref could not be read after a conflict: memory has forgotten the pending
commit, and so has the store but for a failing call. -/
structure Unread (point : AcceptableCheckpoint) (fates : CheckpointFates)
    (before after : CheckpointWorld) : Prop where
  managed : point.Managed after.manager
  sound : point.Sound (point.stores after)
  unreceipted : Unreceipted (point.stores after)
  repository : after.repository = before.repository
  forgotten : (point.stores after).pending = none
  intent : fates .dropForked = .raises false ∧
      (point.stores after).intent = (point.stores before).intent ∨
    fates .dropForked ≠ .raises false ∧ (point.stores after).intent = none

theorem after_readCandidateRef {ends : Ends CheckpointWorld CheckpointError (Option GitOid)}
    (here : point.head (point.stores world) = some oid)
    (runs : fates .readRef = .runs → ends.returns (some oid) world)
    (raises : ∀ applied, fates .readRef = .raises applied → ends.returns none world)
    (dies : Mortal fates → ends.dies world) :
    (readCandidateRef point.setup fates point.path).After ends world := by
  rw [readCandidateRef, after_catching, after_bind]
  exact @after_currentCandidateOid _ _ _ _ _ oid here runs raises
    (fun _ dead => dies ⟨_, _, dead⟩)

/-- What a conflict at the ref comes to, by what is read there. -/
theorem after_settleConflict
    {ends : Ends CheckpointWorld CheckpointError (Option CheckpointRejection)}
    (managed : point.Managed world.manager) (here : point.At world.manager .checkpointing)
    (place : workspace.path = point.path) (sound : point.Sound (point.stores world))
    (unreceipted : Unreceipted (point.stores world))
    (onTop : point.OnTop (point.stores world).repository oid)
    (head : point.Behind (point.stores world) ∨ point.head (point.stores world) = some oid)
    (arrived : fates .readRef = .runs → ¬ point.Behind (point.stores world) →
      ends.returns none world)
    (retry : fates .readRef = .runs → point.Behind (point.stores world) → ∀ rejection manager,
      rejection.infrastructureFailure = false → point.Managed manager →
        ends.returns (some rejection) { world with manager := manager })
    (stops : fates .readRef = .runs → point.Behind (point.stores world) → ∀ error manager,
      point.Managed manager → point.At manager .checkpointing →
        ends.raises error { world with manager := manager })
    (forks : (∃ applied, fates .readRef = .raises applied) → fates .dropForked = .runs →
      fates .persistFrozen = .runs → ∀ rejection after, point.Unread fates world after →
        point.At after.manager .frozen → ends.returns (some rejection) after)
    (unread : (∃ applied, fates .readRef = .raises applied) →
      ¬ (fates .dropForked = .runs ∧ fates .persistFrozen = .runs) → ∀ error after,
        point.Unread fates world after → point.At after.manager .checkpointing →
          ends.raises error after)
    (dies : Mortal fates → ∀ after, (Readable fates → point.stores after = point.stores world ∧
      point.Managed after.manager) → ends.dies after) :
    (settleConflict point.setup fates point.request workspace oid).After ends world := by
  have different := text_ne (sound.ne onTop)
  rw [settleConflict, after_bind, place]
  have actual : ∃ current, point.head (point.stores world) = some current ∧
      (current = point.expected ∧ point.Behind (point.stores world) ∨
        current = oid ∧ ¬ point.Behind (point.stores world)) := by
    rcases head with behind | ahead
    · exact ⟨_, behind, .inl ⟨rfl, behind⟩⟩
    · refine ⟨oid, ahead, .inr ⟨rfl, fun behind => ?_⟩⟩
      exact sound.ne onTop (Option.some.inj (ahead.symm.trans behind))
  obtain ⟨current, found, either⟩ := actual
  refine after_readCandidateRef found (fun read => ?_) (fun applied raised => ?_)
    (fun mortal => dies mortal world fun _ => ⟨rfl, managed⟩)
  · dsimp only
    rw [after_bind, after_ask]
    dsimp only [Option.map_some]
    rcases either with ⟨rfl, behind⟩ | ⟨rfl, ahead⟩
    · rw [if_neg (by rw [Option.some.injEq]; exact different.symm),
        if_pos (congrArg some point.expectedText), after_bind, after_managing]
      refine after_change_state managed here (List.mem_singleton.mpr rfl) ?_ ?_ ?_
      · intro _ _ manager _ _ managed _
        exact retry read behind _ manager rfl managed
      · intro _ _ manager managed here
        exact stops read behind _ manager managed here
      · intro _ dead manager managed
        exact dies ⟨_, _, dead⟩ _ fun _ => ⟨rfl, managed⟩
    · rw [if_pos rfl, after_pure]
      exact arrived read ahead
  · have unreadable : ¬ Readable fates := fun readable => readable applied raised
    have died : Mortal fates → ∀ after, ends.dies after :=
      fun mortal after => dies mortal after fun readable => absurd readable unreadable
    have failed : ∃ applied, fates .readRef = .raises applied := ⟨applied, raised⟩
    dsimp only
    rw [after_bind, after_ask]
    dsimp only [Option.map_none]
    rw [if_neg (by simp), if_neg (by simp), after_bind, after_change]
    dsimp only
    -- memory forgets the pending commit
    have forgot : point.Sound (point.stores
        { world with pending := world.pending.erase (keyOf point.request) }) := by
      rw [stores_erasePending]
      exact sound.forget
    have empty : (world.pending.erase (keyOf point.request)).get? point.key = none :=
      Dict.get?_erase_self world.pending point.key
    have gone : (world.intents.erase (keyOf point.request)).get? point.key = none :=
      Dict.get?_erase_self world.intents point.key
    -- and so does the store
    have dropped : point.Sound (point.stores { world with
        pending := world.pending.erase (keyOf point.request)
        intents := world.intents.erase (keyOf point.request) }) := by
      have none := @stores_eraseIntent point
        { world with pending := world.pending.erase (keyOf point.request) }
      rw [none]
      exact forgot.setIntent empty fun _ named => nomatch named
    have left : fates .dropForked ≠ .raises false → ∀ manager, point.Managed manager →
        point.Unread fates world { world with
          manager := manager
          pending := world.pending.erase (keyOf point.request)
          intents := world.intents.erase (keyOf point.request) } :=
      fun fate manager managed => ⟨managed, dropped, unreceipted, rfl, empty, .inr ⟨fate, gone⟩⟩
    rw [after_bind]
    refine after_meeting (fun ran => ?_) (fun applied refused => ?_)
      (fun _ dead => died ⟨_, _, dead⟩ _)
    · have fate : fates .dropForked ≠ .raises false := by rw [ran]; exact nofun
      rw [after_change]
      dsimp only
      rw [after_bind, after_managing]
      refine after_change_state managed here (by decide) ?_ ?_ (fun _ dead _ _ => died ⟨_, _, dead⟩ _)
      · intro froze _ manager _ _ managed here
        exact forks failed ran froze _ _ (left fate manager managed) here
      · intro _ raised manager managed here
        exact unread failed (fun both => by rw [both.2] at raised; cases raised) _ _
          (left fate manager managed) here
    · have stopped : ¬ (fates .dropForked = .runs ∧ fates .persistFrozen = .runs) :=
        fun both => by rw [both.1] at refused; cases refused
      cases applied with
      | false =>
        exact unread failed stopped _ _
          ⟨managed, forgot, unreceipted, rfl, empty, .inl ⟨refused, rfl⟩⟩ here
      | true =>
        exact unread failed stopped _ _ (left (by rw [refused]; decide) world.manager managed) here

/-- The ref cannot be read after a conflict, so the service takes it for forked. -/
def Misread (point : AcceptableCheckpoint) (fates : CheckpointFates) (stores : CheckpointStores) :
    Prop :=
  point.Conflicts fates stores ∧ ∃ applied, fates .readRef = .raises applied

/-- Nothing but the ref and the state of the workspace has changed. -/
structure Carried (point : AcceptableCheckpoint) (before after : CheckpointWorld) : Prop where
  managed : point.Managed after.manager
  sound : point.Sound (point.stores after)
  intent : (point.stores after).intent = (point.stores before).intent
  pending : (point.stores after).pending = (point.stores before).pending

/-- The advance with its conflicts: the ways to go on, to try again and to stop. -/
theorem after_advance {ends : Ends CheckpointWorld CheckpointError (Option CheckpointRejection)}
    (managed : point.Managed world.manager) (here : point.At world.manager .checkpointing)
    (place : workspace.path = point.path) (sound : point.Sound (point.stores world))
    (pending : point.Pending (point.stores world) oid)
    (arrived : ¬ point.Misread fates (point.stores world) →
      point.MovedAfter fates (point.stores world) → ∀ after, point.Carried world after →
      point.At after.manager .checkpointing → point.Advanced (point.stores after) oid →
        ends.returns none after)
    (retry : ¬ point.MovedAfter fates (point.stores world) → ∀ rejection after,
      rejection.infrastructureFailure = false → point.Carried world after →
      point.Unadvanced (point.stores after) → ends.returns (some rejection) after)
    (stops : ¬ point.Misread fates (point.stores world) →
      ¬ point.MovedAfter fates (point.stores world) → ∀ error after, point.Carried world after →
      point.At after.manager .checkpointing → point.Unadvanced (point.stores after) →
        ends.raises error after)
    (forks : point.Misread fates (point.stores world) → fates .dropForked = .runs →
      fates .persistFrozen = .runs → ∀ rejection middle after, point.RefAfter fates oid world middle →
      point.Unread fates middle after → point.At after.manager .frozen →
        ends.returns (some rejection) after)
    (unread : point.Misread fates (point.stores world) →
      ¬ (fates .dropForked = .runs ∧ fates .persistFrozen = .runs) → ∀ error middle after,
      point.RefAfter fates oid world middle → point.Unread fates middle after →
      point.At after.manager .checkpointing → ends.raises error after)
    (dies : Mortal fates → ∀ after, (¬ point.Misread fates (point.stores world) → point.Carried world after ∧
      (point.Unadvanced (point.stores after) ∨ point.Advanced (point.stores after) oid)) →
        ends.dies after) :
    (advance point.setup fates point.request workspace oid).After ends world := by
  have unadvanced : ¬ point.MovedAfter fates (point.stores world) →
      point.Unadvanced (point.stores world) := by
    intro unmoved
    rcases pending.stage with unadvanced | advanced
    · exact unadvanced
    · exact absurd (.inl (advanced.not_behind sound)) unmoved
  rw [advance, after_catching, after_bind, place]
  refine after_advanceCandidateRef sound pending ?_ ?_ ?_ ?_
  · rintro clean moved after ⟨⟨repository, rfl⟩, sound, -, ⟨-, advanced⟩ | ⟨unmoved, -⟩⟩
    · exact arrived (fun misread => clean misread.1) moved _ ⟨managed, sound, rfl, rfl⟩ here advanced
    · exact absurd moved unmoved
  · intro conflicts middle ref
    obtain ⟨⟨repository, rfl⟩, sound, onTop, stage⟩ := id ref
    have unreceipted : Unreceipted (point.stores { world with repository := repository }) := by
      rcases stage with ⟨-, advanced⟩ | ⟨-, unadvanced⟩
      · exact advanced.unreceipted
      · exact unadvanced.unreceipted
    have head : point.Behind (point.stores { world with repository := repository }) ∨
        point.head (point.stores { world with repository := repository }) = some oid := by
      rcases stage with ⟨-, advanced⟩ | ⟨-, unadvanced⟩
      · exact .inr advanced.head
      · exact .inl unadvanced.behind
    have readable : fates .readRef = .runs → ¬ point.Misread fates (point.stores world) := by
      rintro read ⟨-, applied, raised⟩
      rw [read] at raised
      cases raised
    dsimp only
    rw [if_pos rfl]
    -- the conflict is settled by what the ref names now
    refine after_settleConflict managed here place sound unreceipted onTop head ?_ ?_ ?_ ?_ ?_ ?_
    · intro read ahead
      rcases stage with ⟨moved, advanced⟩ | ⟨-, unadvanced⟩
      · exact arrived (readable read) moved _ ⟨managed, sound, rfl, rfl⟩ here advanced
      · exact absurd unadvanced.behind ahead
    · intro read behind rejection manager retryable managed
      rcases stage with ⟨-, advanced⟩ | ⟨unmoved, unadvanced⟩
      · exact absurd behind (advanced.not_behind sound)
      · exact retry unmoved rejection _ retryable ⟨managed, sound, rfl, rfl⟩
          ⟨unadvanced.head, unadvanced.unreceipted⟩
    · intro read behind error manager managed here
      rcases stage with ⟨-, advanced⟩ | ⟨unmoved, unadvanced⟩
      · exact absurd behind (advanced.not_behind sound)
      · exact stops (readable read) unmoved error _ ⟨managed, sound, rfl, rfl⟩ here
          ⟨unadvanced.head, unadvanced.unreceipted⟩
    · intro failed dropped froze rejection after unread here
      exact forks ⟨conflicts, failed⟩ dropped froze rejection _ after ref unread here
    · intro failed stopped error after left here
      exact unread ⟨conflicts, failed⟩ stopped error _ after ref left here
    · intro mortal after kept
      refine dies mortal after fun clean => ?_
      obtain ⟨same, managed⟩ := kept fun applied raised => clean ⟨conflicts, applied, raised⟩
      refine ⟨⟨managed, by rw [same]; exact sound, by rw [same]; rfl, by rw [same]; rfl⟩, ?_⟩
      rw [same]
      rcases stage with ⟨-, advanced⟩ | ⟨-, unadvanced⟩
      · exact .inr advanced
      · exact .inl unadvanced
  · intro clean unmoved
    dsimp only
    rw [if_neg (by decide), after_raise]
    exact stops (fun misread => clean misread.1) unmoved _ _ ⟨managed, sound, rfl, rfl⟩ here
      (unadvanced unmoved)
  · rintro mortal after ⟨repository, rfl⟩ sound stage
    exact dies mortal _ fun _ => ⟨⟨managed, sound, rfl, rfl⟩, stage⟩

/-! ## The receipt -/

theorem stores_setStored (world : CheckpointWorld) (receipt : CheckpointReceipt) :
    point.stores
        { world with storedReceipts := world.storedReceipts.set (keyOf point.request) receipt } =
      { point.stores world with stored := some receipt } :=
  congrArg (fun stored => { point.stores world with stored := stored })
    (Dict.get?_set_self world.storedReceipts point.key receipt)

theorem stores_setReceipt (world : CheckpointWorld) (receipt : CheckpointReceipt) :
    point.stores { world with receipts := world.receipts.set (keyOf point.request) receipt } =
      { point.stores world with held := some receipt } :=
  congrArg (fun held => { point.stores world with held := held })
    (Dict.get?_set_self world.receipts point.key receipt)

theorem Sound.dropIntent (sound : point.Sound stores) :
    point.Sound { stores with intent := none } where
  own := sound.own
  named := sound.named
  intent := fun _ named => nomatch named
  pending := sound.pending
  coherent := fun _ _ => .inr rfl

/-- There is a receipt. -/
structure Receipted (point : AcceptableCheckpoint) (receipt : CheckpointReceipt)
    (world : CheckpointWorld) : Prop where
  managed : point.Managed world.manager
  sound : point.Sound (point.stores world)
  done : point.Done (point.stores world) receipt

theorem Carried.saves {before : CheckpointWorld} (carried : point.Carried before world)
    (advanced : point.Advanced (point.stores world) oid)
    (names : receipt.newCandidateOid = oid.text) :
    point.Receipted receipt
      { world with storedReceipts := world.storedReceipts.set (keyOf point.request) receipt } := by
  refine ⟨carried.managed, ?_, ?_⟩
  · rw [stores_setStored]
    obtain ⟨own, named, intent, pending, coherent⟩ := carried.sound
    exact ⟨own, named, intent, pending, coherent⟩
  · rw [stores_setStored]
    refine ⟨rfl, fun other held => ?_, oid, advanced.head, advanced.onTop, names⟩
    cases advanced.unreceipted.2.symm.trans held

theorem Receipted.drops (receipted : point.Receipted receipt world) :
    point.Receipted receipt
      { world with intents := world.intents.erase (keyOf point.request) } := by
  refine ⟨receipted.managed, ?_, receipted.done.stored, receipted.done.held, receipted.done.advanced⟩
  rw [stores_eraseIntent]
  exact receipted.sound.dropIntent

theorem Receipted.forgets (receipted : point.Receipted receipt world) :
    point.Receipted receipt
      { world with pending := world.pending.erase (keyOf point.request) } := by
  refine ⟨receipted.managed, ?_, receipted.done.stored, receipted.done.held, receipted.done.advanced⟩
  rw [stores_erasePending]
  exact receipted.sound.forget

theorem Receipted.holds {receipt : CheckpointReceipt} (receipted : point.Receipted receipt world) :
    point.Receipted receipt
      { world with receipts := world.receipts.set (keyOf point.request) receipt } := by
  refine ⟨receipted.managed, ?_, ?_⟩
  · rw [stores_setReceipt]
    obtain ⟨own, named, intent, pending, coherent⟩ := receipted.sound
    exact ⟨own, named, intent, pending, coherent⟩
  · rw [stores_setReceipt]
    refine ⟨receipted.done.stored, fun other held => ?_, receipted.done.advanced⟩
    cases held
    rfl

/-- The workspace is frozen and the receipt is stored. -/
theorem after_finish {ends : Ends CheckpointWorld CheckpointError CheckpointOutcome}
    (managed : point.Managed world.manager) (here : point.At world.manager .checkpointing)
    (place : workspace.path = point.path) (sound : point.Sound (point.stores world))
    (advanced : point.Advanced (point.stores world) oid)
    (names : receipt.newCandidateOid = oid.text)
    (returns : ∀ after, point.Receipted receipt after → ends.returns (.receipt receipt) after)
    (unfrozen : fates .persistFrozen ≠ .runs → ∀ error after, point.Carried world after →
      point.At after.manager .checkpointing → point.Advanced (point.stores after) oid →
        ends.raises error after)
    (lost : fates .persistFrozen = .runs → fates .saveReceipt = .raises false → ∀ error after,
      point.Carried world after → point.At after.manager .frozen →
      point.Advanced (point.stores after) oid → ends.raises error after)
    (stored : Troubled fates → fates .saveReceipt ≠ .raises false → ∀ error after,
      point.Receipted receipt after → ends.raises error after)
    (dies : Mortal fates → ∀ after, point.Carried world after ∧ point.Advanced (point.stores after) oid ∨
      point.Receipted receipt after → ends.dies after) :
    (finish fates point.request workspace receipt).After ends world := by
  have carried : ∀ manager, point.Managed manager → point.Carried world
      { world with manager := manager, locals.refAdvanced := true } :=
    fun manager managed => ⟨managed, sound, rfl, rfl⟩
  have still : ∀ manager, point.Advanced (point.stores
      { world with manager := manager, locals.refAdvanced := true }) oid :=
    fun _ => ⟨advanced.head, advanced.onTop, advanced.remembers, advanced.unreceipted⟩
  rw [finish, after_bind, after_change]
  dsimp only
  rw [after_bind, after_managing, place]
  refine after_change_state managed here (by decide) (fun froze _ manager _ _ managed here => ?_)
    (fun _ raised manager managed here => ?_)
    (fun _ dead manager managed => dies ⟨_, _, dead⟩ _ (.inl ⟨carried manager managed, still manager⟩))
  rotate_left
  · exact unfrozen (by rw [raised]; exact nofun) _ _ (carried manager managed) here (still manager)
  dsimp only
  have carried := carried manager managed
  have still := still manager
  have here : point.At
      { world with manager := manager, locals.refAdvanced := true }.manager .frozen := here
  generalize { world with manager := manager, locals.refAdvanced := true } = frozen
    at carried still here
  -- the receipt is saved
  have saved := carried.saves still names
  rw [after_bind]
  refine after_meeting (fun ran => ?_) (fun applied raised => ?_) (fun applied dead => ?_)
  rotate_left
  · cases applied with
    | false => exact lost froze raised _ _ carried here still
    | true => exact stored (.of_raises raised) (by rw [raised]; decide) _ _ saved
  · cases applied with
    | false => exact dies ⟨_, _, dead⟩ _ (.inl ⟨carried, still⟩)
    | true => exact dies ⟨_, _, dead⟩ _ (.inr saved)
  have kept : fates .saveReceipt ≠ .raises false := by rw [ran]; exact nofun
  rw [after_change]
  dsimp only
  generalize { frozen with
      storedReceipts := frozen.storedReceipts.set (keyOf point.request) receipt } = saving at saved
  -- the intent is dropped
  rw [after_bind]
  refine after_meeting_change (point.Receipted receipt) saved saved.drops (fun _ => ?_)
    (fun _ raised => stored (.of_raises raised) kept _)
    (fun _ dead after receipted => dies ⟨_, _, dead⟩ after (.inr receipted))
  dsimp only
  rw [after_bind, after_change]
  dsimp only
  rw [after_pure]
  -- memory holds the receipt
  exact returns _ saved.drops.holds.forgets

end AcceptableCheckpoint

end CodeMigrator
