import CodeMigrator.Workspace.Git

/-!
# The delivery guard

`PushGuard` of `workspace/git.py` against a remote whose delivery branch other writers move as
they like, before the push and after it. A push takes effect when it is a fast-forward of what
the branch is then, or creates the branch; its acknowledgement may get lost.
-/

namespace CodeMigrator
open Lib

/-- `DeliveryChannelStatus`, as far as `publish` returns it. -/
inductive DeliveryChannelStatus where
  | ready | deliveryFailed
  deriving DecidableEq

/-- How `publish` ends otherwise: the verified ref cannot be resolved or is not the requested
commit, or `RemoteRefMoved`. -/
inductive PublishError where
  | command | integrity | remoteRefMoved
  deriving DecidableEq

/-- What `publish` is called with. -/
structure PublishRequest where
  verifiedOid : GitOid
  frozenLastPushedOid : Option GitOid
  expectedRemoteOid : Option GitOid

/-- What `publish` meets. -/
structure PublishSurroundings where
  /-- What the verified ref resolves to; `none` raises. -/
  verified : Option GitOid
  /-- The branch when it is observed first. -/
  branch : Option GitOid
  /-- Whether the first observation succeeds. -/
  observes : Bool
  /-- What other writers make of the branch before the push. -/
  movedBefore : List (Option GitOid)
  /-- What the verified ref is when it is pushed. -/
  pushed : GitOid
  /-- Whether the push reaches the remote. -/
  reaches : Bool
  /-- Whether the acknowledgement of the push comes back. -/
  acknowledged : Bool
  /-- What other writers make of the branch after the push. -/
  movedAfter : List (Option GitOid)
  /-- Whether the second observation succeeds. -/
  observesAgain : Bool

namespace PushGuard

variable (descends : GitOid → GitOid → Bool)

/-- A push of a commit takes effect on a branch that it creates or fast-forwards. -/
def fastForwards (branch : Option GitOid) (oid : GitOid) : Bool :=
  branch.all (fun current => current == oid || descends oid current)

/-- The value of the branch after a list of moves. -/
def lastOf (branch : Option GitOid) (moves : List (Option GitOid)) : Option GitOid :=
  moves.getLast?.getD branch

/-- The test on what was observed first. -/
def guards (request : PublishRequest) (observed : Option GitOid) : Bool :=
  match request.frozenLastPushedOid, request.expectedRemoteOid with
  | none, none => observed.isNone
  | some frozen, some expected => frozen == expected && observed == some expected
  | _, _ => false

variable (around : PublishSurroundings)

/-- The branch when the push gets there. -/
def beforePush : Option GitOid := lastOf around.branch around.movedBefore

/-- The push takes effect. -/
def pushes : Bool := around.reaches && fastForwards descends (beforePush around) around.pushed

/-- The values of the branch from the first observation to the end of the push. -/
def branchPath : List (Option GitOid) :=
  around.branch :: around.movedBefore ++
    (if pushes descends around then [some around.pushed] else [])

/-- The branch when it is observed again. -/
def afterPush : Option GitOid :=
  lastOf (if pushes descends around then some around.pushed else beforePush around)
    around.movedAfter

variable (request : PublishRequest)

/-- `publish`, with what it has observed of the branch. -/
def publish : Except PublishError DeliveryChannelStatus × List (Option GitOid) :=
  match around.verified with
  | none => (.error .command, [])
  | some verified =>
    if verified ≠ request.verifiedOid then (.error .integrity, [])
    else if ¬ around.observes then (.ok .deliveryFailed, [])
    else if ¬ guards request around.branch then (.error .remoteRefMoved, [around.branch])
    else if pushes descends around && around.acknowledged then (.ok .ready, [around.branch])
    else if ¬ around.observesAgain then (.ok .deliveryFailed, [around.branch])
    else
      let latest := afterPush descends around
      (if latest ≠ around.branch then .error .remoteRefMoved else .ok .deliveryFailed,
        [around.branch, latest])

/-- The branch went from one value to another and had no third one. -/
def MovedDirectly (first last : Option GitOid) (path : List (Option GitOid)) : Prop :=
  path.head? = some first ∧ path.getLast? = some last ∧
    ∀ value ∈ path.dropWhile (· == first), value = last

/-- `READY` is returned only when the branch moved from the expected value to the verified commit. -/
def ReadyIsDirect : Prop :=
  (publish descends around request).1 = .ok .ready →
    MovedDirectly request.expectedRemoteOid (some request.verifiedOid) (branchPath descends around)

/-- `RemoteRefMoved` is raised only when another value was observed. -/
def MovedIsSeen : Prop :=
  (publish descends around request).1 = .error .remoteRefMoved →
    ∃ value ∈ (publish descends around request).2,
      value ≠ request.expectedRemoteOid ∧ value ≠ some request.verifiedOid

/-- A request for which the remote and its other writers do not deceive the guard. -/
structure Undisturbed : Prop where
  /-- The branch is not at the verified commit at first, unless that is expected. -/
  fresh : around.branch = some request.verifiedOid → around.branch = request.expectedRemoteOid
  /-- The frozen value agrees with an expected value that the branch has. -/
  agrees : around.branch = request.expectedRemoteOid →
    request.frozenLastPushedOid = request.expectedRemoteOid
  /-- Between the observation and the push nobody moves the branch elsewhere, and the verified ref
  stays. -/
  alone : around.branch = request.expectedRemoteOid → pushes descends around = true →
    around.acknowledged = true → around.pushed = request.verifiedOid ∧
      ∀ value ∈ around.movedBefore.dropWhile (· == around.branch), value = some request.verifiedOid
  /-- No acknowledgement is lost of a push that leaves the branch at the verified commit. -/
  heard : around.branch = request.expectedRemoteOid → pushes descends around = true →
    lastOf (some around.pushed) around.movedAfter = some request.verifiedOid →
    around.observesAgain = true → around.branch ≠ some request.verifiedOid →
    around.acknowledged = true
  /-- Where the push has no effect, nobody else brings the branch to the verified commit. -/
  unaided : around.branch = request.expectedRemoteOid → pushes descends around = false →
    lastOf (beforePush around) around.movedAfter = some request.verifiedOid →
    around.observesAgain = true → around.branch = some request.verifiedOid

variable {descends around request}

theorem guards_iff {observed : Option GitOid} : guards request observed = true ↔
    request.frozenLastPushedOid = request.expectedRemoteOid ∧
      observed = request.expectedRemoteOid := by
  unfold guards
  cases request.frozenLastPushedOid <;> cases request.expectedRemoteOid <;> simp

theorem movedDirectly_iff {first last : Option GitOid} {moves : List (Option GitOid)} {pushed : GitOid} :
    MovedDirectly first last (first :: moves ++ [some pushed]) ↔
      some pushed = last ∧ ∀ value ∈ moves.dropWhile (· == first), value = last := by
  have dropped : (first :: moves ++ [some pushed]).dropWhile (· == first) =
      (moves ++ [some pushed]).dropWhile (· == first) := by simp
  unfold MovedDirectly
  rw [dropped, List.dropWhile_append]
  simp only [List.cons_append, List.head?_cons, true_and]
  constructor
  · rintro ⟨ends, all⟩
    have ends : some pushed = last := by simpa [List.getLast?_cons, List.getLast?_append] using ends
    refine ⟨ends, ?_⟩
    intro value member
    split at all
    · next none_ =>
      rw [List.isEmpty_iff.mp none_] at member
      cases member
    · exact all value (List.mem_append_left _ member)
  · rintro ⟨ends, all⟩
    refine ⟨by simpa [List.getLast?_cons, List.getLast?_append] using ends, ?_⟩
    intro value member
    split at member
    · have only := (List.dropWhile_sublist _).subset member
      rw [List.mem_singleton.mp only, ends]
    · rcases List.mem_append.mp member with earlier | pushed_
      · exact all value earlier
      · rw [List.mem_singleton.mp pushed_, ends]

theorem publish_observed (verified : around.verified = some request.verifiedOid)
    (observes : around.observes = true) :
    publish descends around request =
      if ¬ guards request around.branch then (.error .remoteRefMoved, [around.branch])
      else if pushes descends around && around.acknowledged then (.ok .ready, [around.branch])
      else if ¬ around.observesAgain then (.ok .deliveryFailed, [around.branch])
      else (if afterPush descends around ≠ around.branch then .error .remoteRefMoved
          else .ok .deliveryFailed, [around.branch, afterPush descends around]) := by
  unfold publish
  rw [verified]
  simp only [ne_eq, not_true_eq_false, if_false, observes]

theorem publish_unobserved
    (not : ¬ (around.verified = some request.verifiedOid ∧ around.observes = true)) :
    (publish descends around request).1 ≠ .ok .ready ∧
      (publish descends around request).1 ≠ .error .remoteRefMoved := by
  unfold publish
  split
  · exact ⟨by simp, by simp⟩
  next verified =>
  split
  · exact ⟨by simp, by simp⟩
  next same =>
  split
  · exact ⟨by simp, by simp⟩
  next observes =>
  refine absurd ⟨?_, by simpa using observes⟩ not
  rw [verified, not_not.mp same]

/-- The guard is right about the branch exactly where nothing around it deceives it: `READY` then
means a direct move, and `RemoteRefMoved` another value. -/
theorem publish_guards_iff (descends : GitOid → GitOid → Bool) (request : PublishRequest)
    (around : PublishSurroundings) :
    (ReadyIsDirect descends around request ∧ MovedIsSeen descends around request) ↔
      (around.verified = some request.verifiedOid → around.observes = true →
        Undisturbed descends around request) := by
  by_cases reached : around.verified = some request.verifiedOid ∧ around.observes = true
  · obtain ⟨verified, observes⟩ := reached
    rw [forall_prop_of_true verified, forall_prop_of_true observes]
    unfold ReadyIsDirect MovedIsSeen
    rw [publish_observed verified observes]
    by_cases guarded : guards request around.branch = true
    · obtain ⟨frozen, expected⟩ := guards_iff.mp guarded
      rw [if_neg (not_not.mpr guarded)]
      cases succeeded : (pushes descends around && around.acknowledged) with
      | true =>
        obtain ⟨pushed, acknowledged⟩ := Bool.and_eq_true_iff.mp succeeded
        have path : branchPath descends around =
            around.branch :: around.movedBefore ++ [some around.pushed] := by
          simp [branchPath, pushed]
        rw [if_pos rfl, path, ← expected, movedDirectly_iff]
        constructor
        · rintro ⟨direct, -⟩
          obtain ⟨last, moves⟩ := direct rfl
          exact ⟨fun _ => expected, fun _ => frozen, fun _ _ _ => ⟨Option.some.inj last, moves⟩,
            fun _ _ _ _ _ => acknowledged, fun _ idle => by rw [pushed] at idle; cases idle⟩
        · intro undisturbed
          obtain ⟨same, others⟩ := undisturbed.alone expected pushed acknowledged
          exact ⟨fun _ => ⟨congrArg some same, others⟩, fun moved => by cases moved⟩
      | false =>
        have failed : pushes descends around = true → around.acknowledged = true → False :=
          fun pushed acknowledged => by rw [pushed, acknowledged] at succeeded; cases succeeded
        rw [if_neg Bool.false_ne_true]
        cases again : around.observesAgain with
        | false =>
          refine ⟨fun _ => ⟨fun _ => expected, fun _ => frozen, ?_, ?_, ?_⟩,
            fun _ => ⟨fun ready => ?_, fun moved => ?_⟩⟩
          · exact fun _ pushed acknowledged => (failed pushed acknowledged).elim
          · exact fun _ _ _ observed => by rw [again] at observed; cases observed
          · exact fun _ _ _ observed => by rw [again] at observed; cases observed
          · cases ready
          · cases moved
        | true =>
          rw [if_neg (not_not.mpr rfl)]
          constructor
          · rintro ⟨-, seen⟩
            have stayed : afterPush descends around = some request.verifiedOid →
                around.branch = some request.verifiedOid := by
              intro latest
              by_contra different
              obtain ⟨value, member, unexpected, unverified⟩ := seen (by
                rw [if_pos (by rw [latest]; exact fun same => different same.symm)])
              rcases List.mem_cons.mp member with rfl | last
              · exact unexpected expected
              · rw [List.mem_singleton.mp last] at unverified
                exact unverified latest
            refine ⟨fun _ => expected, fun _ => frozen,
              fun _ pushed acknowledged => (failed pushed acknowledged).elim, ?_, ?_⟩
            · exact fun _ pushed latest _ different =>
                absurd (stayed (by rw [afterPush, if_pos pushed, latest])) different
            · exact fun _ idle latest _ =>
                stayed (by rw [afterPush, if_neg (by simp [idle]), latest])
          · intro undisturbed
            refine ⟨fun ready => (by split at ready <;> cases ready), fun moved => ?_⟩
            by_cases different : afterPush descends around ≠ around.branch
            · refine ⟨afterPush descends around, by simp, by rwa [← expected], fun latest => ?_⟩
              refine different (latest.trans (Eq.symm ?_))
              by_contra elsewhere
              unfold afterPush at latest
              split at latest
              · next pushed =>
                exact failed pushed (undisturbed.heard expected pushed latest again elsewhere)
              · next idle =>
                exact elsewhere (undisturbed.unaided expected (by simpa using idle) latest again)
            · rw [if_neg different] at moved
              cases moved
    · have refused := mt guards_iff.mpr guarded
      rw [if_pos guarded]
      constructor
      · rintro ⟨-, seen⟩
        obtain ⟨value, member, unexpected, unverified⟩ := seen rfl
        rw [List.mem_singleton.mp member] at unexpected unverified
        exact ⟨fun same => absurd same unverified, fun same => absurd same unexpected,
          fun same => absurd same unexpected, fun same => absurd same unexpected,
          fun same => absurd same unexpected⟩
      · intro undisturbed
        have unexpected : around.branch ≠ request.expectedRemoteOid :=
          fun same => refused ⟨undisturbed.agrees same, same⟩
        exact ⟨fun ready => (by cases ready), fun _ => ⟨around.branch, List.mem_singleton_self _,
          unexpected, fun same => unexpected (undisturbed.fresh same)⟩⟩
  · obtain ⟨notReady, notMoved⟩ := @publish_unobserved descends around request reached
    exact ⟨fun _ verified observes => absurd ⟨verified, observes⟩ reached,
      fun _ => ⟨fun same => absurd same notReady, fun same => absurd same notMoved⟩⟩

/-- The first delivery: the push creates the branch, and its acknowledgement gets lost. -/
theorem lost_acknowledgement_moved :
    ¬ ∀ (descends : GitOid → GitOid → Bool) (request : PublishRequest) (around : PublishSurroundings),
      ReadyIsDirect descends around request ∧ MovedIsSeen descends around request := by
  intro always
  let oid : GitOid := ⟨"8f3a1c5be0d94f72a6b18c3d2e4f5a6b7c8d9e0f", by decide, by decide⟩
  obtain ⟨-, seen⟩ := always (fun _ _ => false) ⟨oid, none, none⟩
    { verified := some oid, branch := none, observes := true, movedBefore := [], pushed := oid
      reaches := true, acknowledged := false, movedAfter := [], observesAgain := true }
  obtain ⟨value, member, unexpected, unverified⟩ := seen (by decide)
  have values : value = none ∨ value = some oid := by simpa [publish, guards, pushes, fastForwards,
    beforePush, lastOf, afterPush] using member
  rcases values with rfl | rfl
  · exact unexpected rfl
  · exact unverified rfl

end PushGuard

end CodeMigrator
