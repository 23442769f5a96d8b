import CodeMigrator.Runtime.ApiAtomicity

/-!
# Idempotency of API commands

Calls of `execute_api_command` that arrive at any time and wait for the command lock. A call
reads the clock when it arrives; the lock is given in the order of arrival, and the call that
has it runs to its end before the next one starts. The log has the calls in the order in which
they ran, each with the time that it read and its answer.
-/

namespace CodeMigrator
open Lib

/-- A call that has returned or raised. -/
structure ApiRecord (α ε ω ρ : Type) where
  call : ApiCall α ε ω ρ
  now : Nat
  answer : Except ApiFailure (ApiAnswer ρ)

/-- The store, the clock, the calls that wait for the lock, and the log. -/
structure ApiServer (α ε ω φ δ ρ : Type) where
  store : ApiStore φ δ ρ
  clock : Nat
  waiting : List (ApiCall α ε ω ρ × Nat)
  log : List (ApiRecord α ε ω ρ)

/-- What can happen: time passes, a call arrives, the first waiting call runs, a waiting call is
cancelled, or the store is called for something else. -/
inductive ApiEvent (α ε ω ρ : Type) where
  | tick (elapsed : Nat)
  | arrive (call : ApiCall α ε ω ρ)
  | proceed
  | cancel (position : Nat)
  | other (call : ApiStore.OtherCall α ε)

namespace ApiRecord

variable {α ε ω ρ : Type}

/-- The command ran to its end with the outcome. -/
def Succeeded (record : ApiRecord α ε ω ρ) (outcome : ApiOutcome ρ) : Prop :=
  record.answer = .ok (.outcome outcome false)

/-- What the call has stored for the scope. -/
def stored? (sha256 : List UInt8 → Sha256) (scope : ApiScope) (record : ApiRecord α ε ω ρ) :
    Option (Sha256 × ApiOutcome ρ × Nat) :=
  if record.call.scope = scope then
    match record.answer with
    | .ok (.outcome outcome false) =>
      some (sha256 record.call.canonicalBody, outcome, record.now + outcomeLifetime)
    | _ => none
  else none

theorem stored?_eq_some {sha256 : List UInt8 → Sha256} {scope : ApiScope}
    {record : ApiRecord α ε ω ρ} {entry : Sha256 × ApiOutcome ρ × Nat} :
    record.stored? sha256 scope = some entry ↔ record.call.scope = scope ∧ ∃ outcome,
      record.Succeeded outcome ∧
        entry = (sha256 record.call.canonicalBody, outcome, record.now + outcomeLifetime) := by
  unfold stored? Succeeded
  by_cases same : record.call.scope = scope
  · rw [if_pos same]
    split
    · rename_i outcome answered
      constructor
      · intro found
        exact ⟨same, outcome, answered, (Option.some.inj found).symm⟩
      · rintro ⟨-, other, succeeded, rfl⟩
        rw [answered] at succeeded
        cases succeeded
        rfl
    · rename_i otherwise
      constructor
      · intro found
        cases found
      · rintro ⟨-, outcome, succeeded, -⟩
        exact absurd succeeded (otherwise outcome)
  · rw [if_neg same]
    constructor
    · intro found
      cases found
    · rintro ⟨same', -⟩
      exact absurd same' same

theorem Succeeded.stored? {record : ApiRecord α ε ω ρ} {outcome : ApiOutcome ρ}
    (succeeded : record.Succeeded outcome) (sha256 : List UInt8 → Sha256) {scope : ApiScope}
    (same : record.call.scope = scope) : record.stored? sha256 scope =
      some (sha256 record.call.canonicalBody, outcome, record.now + outcomeLifetime) :=
  stored?_eq_some.mpr ⟨same, outcome, succeeded, rfl⟩

/-- No outcome that the calls of a log have stored for a scope is alive. -/
def Expired (log : List (ApiRecord α ε ω ρ)) (scope : ApiScope) (now : Nat) : Prop :=
  ∀ first ∈ log, ∀ outcome, first.Succeeded outcome → first.call.scope = scope →
    first.now + outcomeLifetime ≤ now

/-- The calls before this one and the answer that it got: a new outcome where none of its scope is
alive, and otherwise the live outcome or a conflict. -/
structure Idempotent (earlier : List (ApiRecord α ε ω ρ)) (record : ApiRecord α ε ω ρ) : Prop where
  returns : Expired earlier record.call.scope record.now →
    ∀ answer, record.answer = .ok answer → ∃ outcome, answer = .outcome outcome false
  replays : ∀ first ∈ earlier, ∀ outcome, first.Succeeded outcome →
    first.call.scope = record.call.scope → record.now < first.now + outcomeLifetime →
    first.call.canonicalBody = record.call.canonicalBody →
    record.answer = .ok (.outcome outcome true)
  conflicts : ∀ first ∈ earlier, ∀ outcome, first.Succeeded outcome →
    first.call.scope = record.call.scope → record.now < first.now + outcomeLifetime →
    first.call.canonicalBody ≠ record.call.canonicalBody → record.answer = .ok .conflict

/-- Every call of a log is idempotent. -/
def LogIdempotent (log : List (ApiRecord α ε ω ρ)) : Prop :=
  ∀ earlier record later, log = earlier ++ record :: later → record.Idempotent earlier

/-- The last outcome that the calls of a log have stored for a scope. -/
def lastStored (sha256 : List UInt8 → Sha256) (scope : ApiScope) (log : List (ApiRecord α ε ω ρ)) :
    Option (Sha256 × ApiOutcome ρ × Nat) :=
  log.foldl (fun last record => (record.stored? sha256 scope).or last) none

theorem lastStored_append (sha256 : List UInt8 → Sha256) (scope : ApiScope)
    (log : List (ApiRecord α ε ω ρ)) (record : ApiRecord α ε ω ρ) :
    lastStored sha256 scope (log ++ [record]) =
      (record.stored? sha256 scope).or (lastStored sha256 scope log) := by
  simp [lastStored]

theorem lastStored_cases (sha256 : List UInt8 → Sha256) (scope : ApiScope)
    (log : List (ApiRecord α ε ω ρ)) :
    (lastStored sha256 scope log = none ∧ ∀ record ∈ log, record.stored? sha256 scope = none) ∨
    ∃ earlier record later, log = earlier ++ record :: later ∧
      lastStored sha256 scope log = record.stored? sha256 scope ∧
      (record.stored? sha256 scope).isSome ∧
      ∀ other ∈ later, other.stored? sha256 scope = none := by
  induction log using List.reverseRecOn with
  | nil => exact .inl ⟨rfl, by simp⟩
  | append_singleton log record ih =>
    rw [lastStored_append]
    cases found : record.stored? sha256 scope with
    | some entry =>
      refine .inr ⟨log, record, [], rfl, ?_, ?_, by simp⟩
      · rw [found]
        rfl
      · rw [found]
        rfl
    | none =>
      rw [Option.none_or]
      rcases ih with ⟨none, nothing⟩ | ⟨earlier, last, later, rfl, same, isSome, nothing⟩
      · refine .inl ⟨none, ?_⟩
        intro other member
        rcases List.mem_append.mp member with old | new
        · exact nothing other old
        · rw [List.mem_singleton.mp new, found]
      · refine .inr ⟨earlier, last, later ++ [record], by simp, same, isSome, ?_⟩
        intro other member
        rcases List.mem_append.mp member with old | new
        · exact nothing other old
        · rw [List.mem_singleton.mp new, found]

/-- The same calls with digests for the bodies. -/
structure DigestIdempotent (sha256 : List UInt8 → Sha256) (earlier : List (ApiRecord α ε ω ρ))
    (record : ApiRecord α ε ω ρ) : Prop where
  returns : Expired earlier record.call.scope record.now →
    ∀ answer, record.answer = .ok answer → ∃ outcome, answer = .outcome outcome false
  succeeds : ∀ outcome, record.Succeeded outcome → Expired earlier record.call.scope record.now
  answers : ∀ first ∈ earlier, ∀ outcome, first.Succeeded outcome →
    first.call.scope = record.call.scope → record.now < first.now + outcomeLifetime →
    record.answer = if sha256 first.call.canonicalBody ≠ sha256 record.call.canonicalBody then
      .ok .conflict else .ok (.outcome outcome true)

end ApiRecord

namespace ApiServer

variable {α ε ω φ δ ρ : Type}

/-- A new process. -/
def start : ApiServer α ε ω φ δ ρ := ⟨.empty, 0, [], []⟩

section Step

variable [DecidableEq φ] [DecidableEq δ] (codec : ApiCodec α ε φ δ)

/-- The step of an event. -/
def step (server : ApiServer α ε ω φ δ ρ) : ApiEvent α ε ω ρ → ApiServer α ε ω φ δ ρ
  | .tick elapsed => { server with clock := server.clock + elapsed }
  | .arrive call => { server with waiting := server.waiting ++ [(call, server.clock)] }
  | .proceed =>
    match server.waiting with
    | [] => server
    | (call, now) :: waiting =>
      let (store, answer) := server.store.executeApiCommand codec call now
      { server with
        store := store
        waiting := waiting
        log := server.log ++ [⟨call, now, answer⟩] }
  | .cancel position => { server with waiting := server.waiting.eraseIdx position }
  | .other call => { server with store := server.store.other codec call }

/-- The stored outcomes of other scopes stay, and those of every scope when the call raises. -/
def OutcomesApart (server : ApiServer α ε ω φ δ ρ) : ApiEvent α ε ω ρ → Prop
  | .proceed => ∀ call now waiting, server.waiting = (call, now) :: waiting →
      ∀ scope, scope ≠ call.scope ∨
          (∃ failure, (server.store.executeApiCommand codec call now).2 = .error failure) →
        (server.step codec .proceed).store.apiCommands.get? scope =
          server.store.apiCommands.get? scope
  | event => (server.step codec event).store.apiCommands = server.store.apiCommands

/-- The command of a call runs once on the store: when it fails the store is rolled back, and
otherwise its outcome is stored. -/
def CallsCommand (store : ApiStore φ δ ρ) (call : ApiCall α ε ω ρ) (now : Nat)
    (after : ApiStore φ δ ρ) (answer : Except ApiFailure (ApiAnswer ρ)) : Prop :=
  ∃ ran transaction value,
    ApiStore.runCommand codec call.rejects call.command store ⟨[], false⟩ =
      (ran, transaction, value) ∧
    ((∃ failure, ApiStore.commandOutcome call ran value = .error failure ∧
        after = ran.rollback transaction ∧ answer = .error failure) ∨
      ∃ outcome, ApiStore.commandOutcome call ran value = .ok outcome ∧
        after = ran.recordOutcome call.scope (codec.sha256 call.canonicalBody) outcome now
          call.createDraftGraphHandoff ∧ answer = .ok (.outcome outcome false))

/-- The first waiting call runs its command when no outcome of its scope is alive, and otherwise
leaves the whole store as it is. -/
def CommandDecided (server : ApiServer α ε ω φ δ ρ) : ApiEvent α ε ω ρ → Prop
  | .proceed => ∀ call now waiting, server.waiting = (call, now) :: waiting →
      ∃ answer, (server.step codec .proceed).log = server.log ++ [⟨call, now, answer⟩] ∧
        (ApiRecord.Expired server.log call.scope now →
          CallsCommand codec server.store call now (server.step codec .proceed).store answer) ∧
        (¬ ApiRecord.Expired server.log call.scope now →
          (server.step codec .proceed).store = server.store)
  | event => (server.step codec event).log = server.log

end Step

/-- The calls that arrive. -/
def arrivals (events : List (ApiEvent α ε ω ρ)) : List (ApiCall α ε ω ρ) :=
  events.filterMap fun event =>
    match event with
    | .arrive call => some call
    | _ => none

section Execute

variable [DecidableEq φ] [DecidableEq δ] {codec : ApiCodec α ε φ δ}

variable (codec) in
theorem executeApiCommand_cases (store : ApiStore φ δ ρ) (call : ApiCall α ε ω ρ) (now : Nat) :
    (∃ digest outcome expiry, store.liveOutcome call.scope now = some (digest, outcome, expiry) ∧
      store.executeApiCommand codec call now = (store,
        if digest ≠ codec.sha256 call.canonicalBody then .ok .conflict
        else .ok (.outcome outcome true))) ∨
    (store.liveOutcome call.scope now = none ∧
      (∃ failure, (store.executeApiCommand codec call now).2 = .error failure) ∧
      (store.executeApiCommand codec call now).1.apiCommands = store.apiCommands) ∨
    (store.liveOutcome call.scope now = none ∧ ∃ outcome,
      (store.executeApiCommand codec call now).2 = .ok (.outcome outcome false) ∧
      ∀ scope, (store.executeApiCommand codec call now).1.apiCommands.get? scope =
        if scope = call.scope then
          some (codec.sha256 call.canonicalBody, outcome, now + outcomeLifetime)
        else store.apiCommands.get? scope) := by
  have underway := ApiStore.runCommand_underway codec call.rejects call.command
    (ApiStore.Underway.start store)
  unfold ApiStore.executeApiCommand
  cases live : store.liveOutcome call.scope now with
  | some entry =>
    obtain ⟨digest, outcome, expiry⟩ := entry
    left
    refine ⟨digest, outcome, expiry, rfl, ?_⟩
    dsimp only
    split
    · rfl
    · rfl
  | none =>
    right
    dsimp only
    unfold ApiStore.runApiCommand
    dsimp only
    split
    · rename_i failure refused
      refine .inl ⟨rfl, ⟨failure, rfl⟩, ?_⟩
      exact (ApiStore.rest_rollback _ _).2.1.trans underway.apiCommands
    · rename_i outcome returned
      refine .inr ⟨rfl, outcome, rfl, ?_⟩
      intro scope
      refine (Dict.get?_set _ _ _ _).trans ?_
      by_cases same : scope = call.scope
      · rw [if_pos same, if_pos same]
      · rw [if_neg same, if_neg same, Dict.get?_erase, if_neg same, underway.apiCommands]

end Execute

/-! ## The invariant -/

/-- The times are in order, and the store has what the log says. -/
structure Kept (sha256 : List UInt8 → Sha256) (server : ApiServer α ε ω φ δ ρ) : Prop where
  ordered : (server.waiting.map Prod.snd).Pairwise (· ≤ ·)
  past : ∀ waiting ∈ server.waiting, waiting.2 ≤ server.clock
  logged : ∀ record ∈ server.log, record.now ≤ server.clock ∧
    ∀ waiting ∈ server.waiting, record.now ≤ waiting.2
  stored : ∀ scope, server.store.apiCommands.get? scope =
    ApiRecord.lastStored sha256 scope server.log
  sound : ∀ earlier record later, server.log = earlier ++ record :: later →
    record.DigestIdempotent sha256 earlier

theorem Kept.start (sha256 : List UInt8 → Sha256) :
    Kept sha256 (ApiServer.start : ApiServer α ε ω φ δ ρ) where
  ordered := List.Pairwise.nil
  past _ member := by cases member
  logged _ member := by cases member
  stored _ := rfl
  sound earlier record later split := by
    have lengths := congrArg List.length split
    simp [ApiServer.start] at lengths

variable {server : ApiServer α ε ω φ δ ρ}

/-- A live outcome of the scope is the last one that was stored: an earlier one had to expire
before the next could be stored. -/
theorem Kept.lastStored_of_alive {sha256 : List UInt8 → Sha256} (kept : server.Kept sha256)
    {now : Nat} (latest : ∀ record ∈ server.log, record.now ≤ now) {first : ApiRecord α ε ω ρ}
    (member : first ∈ server.log) {outcome : ApiOutcome ρ} (succeeded : first.Succeeded outcome)
    (alive : now < first.now + outcomeLifetime) :
    ApiRecord.lastStored sha256 first.call.scope server.log =
      some (sha256 first.call.canonicalBody, outcome, first.now + outcomeLifetime) := by
  have own := succeeded.stored? sha256 rfl
  rcases ApiRecord.lastStored_cases sha256 first.call.scope server.log with
    ⟨-, nothing⟩ | ⟨earlier, last, later, split, same, isSome, nothing⟩
  · rw [nothing first member] at own
    cases own
  · rw [same, ← own]
    have members := member
    rw [split, List.mem_append, List.mem_cons] at members
    rcases members with before | isLast | after
    · obtain ⟨entry, found⟩ := Option.isSome_iff_exists.mp isSome
      obtain ⟨scope, lastOutcome, lastSucceeded, -⟩ := ApiRecord.stored?_eq_some.mp found
      have sound := kept.sound earlier last later split
      have expired := sound.succeeds lastOutcome lastSucceeded first before outcome succeeded
        scope.symm
      have lastTime := latest last (by rw [split]; simp)
      omega
    · rw [isLast]
    · rw [nothing first after] at own
      cases own

theorem Kept.liveOutcome_isNone_iff {sha256 : List UInt8 → Sha256} (kept : server.Kept sha256)
    {now : Nat} (latest : ∀ record ∈ server.log, record.now ≤ now) (scope : ApiScope) :
    (server.store.liveOutcome scope now).isNone = true ↔
      ApiRecord.Expired server.log scope now := by
  unfold ApiStore.liveOutcome
  rw [kept.stored scope]
  constructor
  · intro dead first member outcome succeeded same
    by_contra alive
    have live : now < first.now + outcomeLifetime := Nat.lt_of_not_le alive
    rw [← same, kept.lastStored_of_alive latest member succeeded live, Option.filter_some,
      if_pos (decide_eq_true live)] at dead
    cases dead
  · intro gone
    rcases ApiRecord.lastStored_cases sha256 scope server.log with
      ⟨none, -⟩ | ⟨earlier, last, later, split, same, isSome, -⟩
    · rw [none]
      rfl
    · obtain ⟨entry, found⟩ := Option.isSome_iff_exists.mp isSome
      obtain ⟨lastScope, outcome, succeeded, rfl⟩ := ApiRecord.stored?_eq_some.mp found
      rw [same, found]
      have expired := gone last (by rw [split]; simp) outcome succeeded lastScope
      have passed : decide (now < last.now + outcomeLifetime) = false :=
        decide_eq_false (Nat.not_lt_of_le expired)
      rw [Option.filter_some, if_neg (Bool.eq_false_iff.mp passed)]
      rfl

section Records

variable [DecidableEq φ] [DecidableEq δ] {codec : ApiCodec α ε φ δ} {server : ApiServer α ε ω φ δ ρ}

theorem Kept.record (kept : server.Kept codec.sha256) (call : ApiCall α ε ω ρ) {now : Nat}
    (latest : ∀ record ∈ server.log, record.now ≤ now) :
    ApiRecord.DigestIdempotent codec.sha256 server.log
      ⟨call, now, (server.store.executeApiCommand codec call now).2⟩ := by
  have dead_iff := kept.liveOutcome_isNone_iff latest call.scope
  refine ⟨?_, ?_, ?_⟩
  · intro expired answer answered
    have dead := dead_iff.mpr expired
    obtain ⟨_, _, _, alive, -⟩ | ⟨-, ⟨failure, raised⟩, -⟩ | ⟨-, outcome, returned, -⟩ :=
      executeApiCommand_cases codec server.store call now
    · simp [alive] at dead
    · rw [raised] at answered
      cases answered
    · rw [returned] at answered
      exact ⟨outcome, (Except.ok.inj answered).symm⟩
  · intro outcome succeeded
    change (server.store.executeApiCommand codec call now).2 = _ at succeeded
    obtain ⟨digest, other, _, alive, answered⟩ | ⟨dead, -⟩ | ⟨dead, -⟩ :=
      executeApiCommand_cases codec server.store call now
    · rw [answered] at succeeded
      dsimp only at succeeded
      split at succeeded
      · cases succeeded
      · cases succeeded
    · exact dead_iff.mp (by rw [dead]; rfl)
    · exact dead_iff.mp (by rw [dead]; rfl)
  · intro first member outcome succeeded scope alive
    have stored := kept.lastStored_of_alive latest member succeeded alive
    have found : server.store.liveOutcome call.scope now =
        some (codec.sha256 first.call.canonicalBody, outcome, first.now + outcomeLifetime) := by
      unfold ApiStore.liveOutcome
      rw [kept.stored, ← scope, stored, Option.filter_some, if_pos (decide_eq_true alive)]
    obtain ⟨digest, other, _, isLive, answered⟩ | ⟨dead, -⟩ | ⟨dead, -⟩ :=
      executeApiCommand_cases codec server.store call now
    · rw [found] at isLive
      cases isLive
      rw [answered]
    · rw [found] at dead
      cases dead
    · rw [found] at dead
      cases dead

theorem Kept.step (kept : server.Kept codec.sha256) (event : ApiEvent α ε ω ρ) :
    (server.step codec event).Kept codec.sha256 := by
  cases event with
  | tick elapsed =>
    refine ⟨kept.ordered, fun waiting member => ?_, fun record member => ?_, kept.stored,
      kept.sound⟩
    · have past := kept.past waiting member
      show waiting.2 ≤ server.clock + elapsed
      omega
    · have past := (kept.logged record member).1
      refine ⟨?_, (kept.logged record member).2⟩
      show record.now ≤ server.clock + elapsed
      omega
  | arrive call =>
    refine ⟨?_, ?_, ?_, kept.stored, kept.sound⟩
    · show ((server.waiting ++ [(call, server.clock)]).map Prod.snd).Pairwise (· ≤ ·)
      rw [List.map_append, List.pairwise_append]
      refine ⟨kept.ordered, by simp, ?_⟩
      intro time member other isClock
      obtain ⟨waiting, waits, rfl⟩ := List.mem_map.mp member
      rw [show other = server.clock by simpa using isClock]
      exact kept.past waiting waits
    · intro waiting member
      rcases List.mem_append.mp member with old | new
      · exact kept.past waiting old
      · rw [List.mem_singleton.mp new]
        exact le_refl server.clock
    · intro record member
      refine ⟨(kept.logged record member).1, ?_⟩
      intro waiting waits
      rcases List.mem_append.mp waits with old | new
      · exact (kept.logged record member).2 waiting old
      · rw [List.mem_singleton.mp new]
        exact (kept.logged record member).1
  | proceed =>
    unfold ApiServer.step
    cases queue : server.waiting with
    | nil => exact kept
    | cons head waiting =>
      obtain ⟨call, now⟩ := head
      have ordered := kept.ordered
      rw [queue, List.map_cons, List.pairwise_cons] at ordered
      have latest : ∀ record ∈ server.log, record.now ≤ now := by
        intro record member
        exact (kept.logged record member).2 (call, now) (by rw [queue]; simp)
      refine ⟨ordered.2, ?_, ?_, ?_, ?_⟩
      · intro other waits
        exact kept.past other (by rw [queue]; exact List.mem_cons_of_mem _ waits)
      · intro record member
        rcases List.mem_append.mp member with old | new
        · refine ⟨(kept.logged record old).1, ?_⟩
          intro other waits
          exact (kept.logged record old).2 other
            (by rw [queue]; exact List.mem_cons_of_mem _ waits)
        · rw [List.mem_singleton.mp new]
          refine ⟨kept.past (call, now) (by rw [queue]; simp), ?_⟩
          intro other waits
          exact ordered.1 other.2 (List.mem_map_of_mem waits)
      · intro scope
        dsimp only
        rw [ApiRecord.lastStored_append, ← kept.stored scope]
        obtain ⟨digest, outcome, _, -, answered⟩ | ⟨-, ⟨failure, raised⟩, same⟩ |
            ⟨-, outcome, returned, stores⟩ :=
          executeApiCommand_cases codec server.store call now
        · rw [answered]
          have nothing : ApiRecord.stored? codec.sha256 scope
              (⟨call, now, if digest ≠ codec.sha256 call.canonicalBody then .ok .conflict
                else .ok (.outcome outcome true)⟩ : ApiRecord α ε ω ρ) = none := by
            unfold ApiRecord.stored?
            by_cases different : digest ≠ codec.sha256 call.canonicalBody
            · simp [different]
            · simp [different]
          rw [nothing, Option.none_or]
        · rw [same]
          simp [ApiRecord.stored?, raised]
        · rw [stores]
          by_cases own : scope = call.scope
          · simp [ApiRecord.stored?, returned, own]
          · have apart : call.scope ≠ scope := fun equal => own equal.symm
            simp [ApiRecord.stored?, own, apart]
      · intro earlier record later split
        rcases List.eq_nil_or_concat later with none | ⟨front, last, rfl⟩
        · rw [none] at split
          obtain ⟨rfl, isNew⟩ := List.append_inj' split rfl
          rw [← List.singleton_inj.mp isNew]
          exact kept.record call latest
        · refine kept.sound earlier record front ?_
          rw [List.concat_eq_append, ← List.cons_append, ← List.append_assoc] at split
          exact (List.append_inj' split rfl).1
  | cancel position =>
    have sub := List.eraseIdx_sublist server.waiting position
    refine ⟨kept.ordered.sublist (sub.map _), ?_, ?_, kept.stored, kept.sound⟩
    · intro waiting member
      exact kept.past waiting (sub.subset member)
    · intro record member
      refine ⟨(kept.logged record member).1, ?_⟩
      intro waiting waits
      exact (kept.logged record member).2 waiting (sub.subset waits)
  | other call =>
    refine ⟨kept.ordered, kept.past, kept.logged, ?_, kept.sound⟩
    intro scope
    show (server.store.other codec call).apiCommands.get? scope = _
    rw [(ApiStore.other_spec call).2]
    exact kept.stored scope

/-- Every call of the log and of the queue has the property. -/
def Calls (P : ApiCall α ε ω ρ → Prop) (server : ApiServer α ε ω φ δ ρ) : Prop :=
  (∀ record ∈ server.log, P record.call) ∧ ∀ waiting ∈ server.waiting, P waiting.1

theorem Calls.step {P : ApiCall α ε ω ρ → Prop} (calls : server.Calls P) (event : ApiEvent α ε ω ρ)
    (arrives : ∀ call, event = .arrive call → P call) : (server.step codec event).Calls P := by
  cases event with
  | tick elapsed => exact calls
  | arrive call =>
    refine ⟨calls.1, fun waiting member => ?_⟩
    rcases List.mem_append.mp member with old | new
    · exact calls.2 waiting old
    · rw [List.mem_singleton.mp new]
      exact arrives call rfl
  | proceed =>
    unfold ApiServer.step
    cases queue : server.waiting with
    | nil => exact calls
    | cons head waiting =>
      have queued := calls.2
      rw [queue] at queued
      refine ⟨fun record member => ?_, fun other waits => ?_⟩
      · rcases List.mem_append.mp member with old | new
        · exact calls.1 record old
        · rw [List.mem_singleton.mp new]
          exact queued head List.mem_cons_self
      · exact queued other (List.mem_cons_of_mem _ waits)
  | cancel position =>
    refine ⟨calls.1, fun waiting member => ?_⟩
    exact calls.2 waiting ((List.eraseIdx_sublist _ _).subset member)
  | other call => exact calls

variable (codec) in
theorem Calls.run {P : ApiCall α ε ω ρ → Prop} {server : ApiServer α ε ω φ δ ρ}
    (calls : server.Calls P) (events : List (ApiEvent α ε ω ρ))
    (arrives : ∀ call ∈ arrivals events, P call) : (runFrom (ApiServer.step codec) server events).Calls P := by
  induction events generalizing server with
  | nil => exact calls
  | cons event events ih =>
    rw [runFrom_cons]
    refine ih (calls.step event fun call isArrival => ?_) (fun call member => arrives call ?_)
    · rw [isArrival] at arrives
      exact arrives call List.mem_cons_self
    · cases event with
      | arrive other => exact List.mem_cons_of_mem _ member
      | tick _ | proceed | cancel _ | other _ => exact member

theorem outcomesApart (server : ApiServer α ε ω φ δ ρ) (event : ApiEvent α ε ω ρ) :
    server.OutcomesApart codec event := by
  cases event with
  | tick elapsed => rfl
  | arrive call => rfl
  | cancel position => rfl
  | other call => exact (ApiStore.other_spec call).2
  | proceed =>
    intro call now waiting queue scope apart
    unfold ApiServer.step
    rw [queue]
    dsimp only
    obtain ⟨_, _, _, -, answered⟩ | ⟨-, -, same⟩ | ⟨-, outcome, returned, stores⟩ :=
      executeApiCommand_cases codec server.store call now
    · rw [answered]
    · rw [same]
    · rw [stores, if_neg]
      rcases apart with different | ⟨failure, raised⟩
      · exact different
      · rw [returned] at raised
        cases raised

theorem Kept.commandDecided (kept : server.Kept codec.sha256) (event : ApiEvent α ε ω ρ) :
    server.CommandDecided codec event := by
  cases event with
  | tick elapsed => rfl
  | arrive call => rfl
  | cancel position => rfl
  | other call => rfl
  | proceed =>
    intro call now waiting queue
    have latest : ∀ record ∈ server.log, record.now ≤ now := fun record member =>
      (kept.logged record member).2 (call, now) (by rw [queue]; simp)
    have dead_iff := kept.liveOutcome_isNone_iff latest call.scope
    have steps : server.step codec .proceed =
        { server with
          store := (server.store.executeApiCommand codec call now).1
          waiting := waiting
          log := server.log ++ [⟨call, now, (server.store.executeApiCommand codec call now).2⟩] } := by
      unfold ApiServer.step
      rw [queue]
    rw [steps]
    refine ⟨_, rfl, fun expired => ?_, fun alive => ?_⟩
    · have dead := Option.isNone_iff_eq_none.mp (dead_iff.mpr expired)
      refine ⟨_, _, _, rfl, ?_⟩
      unfold ApiStore.executeApiCommand
      rw [dead]
      dsimp only
      unfold ApiStore.runApiCommand
      dsimp only
      split
      · rename_i failure refused
        exact .inl ⟨failure, refused, rfl, rfl⟩
      · rename_i outcome returned
        exact .inr ⟨outcome, returned, rfl, rfl⟩
    · obtain ⟨digest, outcome, expiry, -, answered⟩ | ⟨dead, -⟩ | ⟨dead, -⟩ :=
        executeApiCommand_cases codec server.store call now
      · rw [answered]
      · exact absurd (dead_iff.mp (by rw [dead]; rfl)) alive
      · exact absurd (dead_iff.mp (by rw [dead]; rfl)) alive

variable (codec) in
/-- In every history of arriving calls whose bodies have distinct digests, a command runs exactly
when no outcome of its scope is alive, a call with the same body gets the live outcome again, one
with another body a conflict, and nothing else changes the stored outcomes. -/
theorem api_commands_idempotent (events : List (ApiEvent α ε ω ρ))
    (collisionFree : ∀ first ∈ arrivals events, ∀ second ∈ arrivals events,
      codec.sha256 first.canonicalBody = codec.sha256 second.canonicalBody →
      first.canonicalBody = second.canonicalBody) :
    ApiRecord.LogIdempotent
        (runFrom (step codec) (start : ApiServer α ε ω φ δ ρ) events).log ∧
      Along (step codec) (fun server event => OutcomesApart codec server event ∧
        CommandDecided codec server event) (start : ApiServer α ε ω φ δ ρ) events := by
  refine ⟨?_, along_of_invariant (Kept codec.sha256) (fun server event kept => kept.step event)
    (fun server event kept => ⟨server.outcomesApart event, kept.commandDecided event⟩)
    (Kept.start codec.sha256) events⟩
  have kept := runFrom_invariant (Kept codec.sha256) (fun server event kept => kept.step event)
    (Kept.start codec.sha256) events
  have none : (start : ApiServer α ε ω φ δ ρ).Calls (· ∈ arrivals events) := by
    simp [Calls, start]
  have calls := none.run codec events (fun _ member => member)
  intro earlier record later split
  have sound := kept.sound earlier record later split
  have arrived : ∀ first ∈ earlier, first.call ∈ arrivals events := by
    intro first member
    exact calls.1 first (by rw [split]; exact List.mem_append_left _ member)
  have recordArrived : record.call ∈ arrivals events := calls.1 record (by rw [split]; simp)
  refine ⟨sound.returns, ?_, ?_⟩
  · intro first member outcome succeeded scope alive sameBody
    rw [sound.answers first member outcome succeeded scope alive, if_neg]
    rw [sameBody]
    exact fun different => different rfl
  · intro first member outcome succeeded scope alive differentBody
    rw [sound.answers first member outcome succeeded scope alive, if_pos]
    intro sameDigest
    exact differentBody (collisionFree _ (arrived first member) _ recordArrived sameDigest)

end Records

end ApiServer

namespace SampleIdempotency

/-- The digests of the empty text and of an empty object. -/
def sha256 (body : List UInt8) : Sha256 :=
  if body = [] then .ofNothing else .ofEmptyObject

def codec : ApiCodec Unit Unit Unit Unit := { SampleApi.codec with sha256 := sha256 }

def call (body : List UInt8) : ApiCall Unit Unit Unit Unit :=
  { SampleApi.creating none with canonicalBody := body, command := .done () }

/-- A call, its replay, a call with another body, and a replay after a day. -/
def events : List (ApiEvent Unit Unit Unit Unit) :=
  [.arrive (call []), .arrive (call []), .proceed, .proceed, .arrive (call [123, 125]), .proceed,
    .tick outcomeLifetime, .arrive (call [123, 125]), .proceed]

end SampleIdempotency

open SampleIdempotency in
theorem api_commands_idempotent_replayed :
    ((runFrom (ApiServer.step codec) (.start : ApiServer Unit Unit Unit Unit Unit Unit)
      events).log.map (·.answer.toOption.map fun answer =>
        match answer with
        | .outcome _ replayed => some replayed
        | .conflict => none)) = [some (some false), some (some true), some none, some (some false)] ∧
    ApiRecord.LogIdempotent (runFrom (ApiServer.step codec)
      (.start : ApiServer Unit Unit Unit Unit Unit Unit) events).log :=
  ⟨by decide +kernel, (ApiServer.api_commands_idempotent codec events (by decide +kernel)).1⟩

end CodeMigrator
