import CodeMigrator.Lib.Transition
import CodeMigrator.Runtime.Budget
import CodeMigrator.Runtime.SessionHistory

/-!
# The wallet of a run

`RunWallet` of `runtime/budget.py`, which the sessions of a run share, and what it counts. A receipt
is recorded once, by its id. The id is that of the provider behind the id of the run, and where the
provider gives none, the one that the session makes of the run and of its own round.
-/

namespace CodeMigrator
open Lib

/-- `RunWallet`. -/
structure RunWallet where
  limits : BudgetLimits
  usage : BudgetUsage
  receiptIds : List Points

namespace RunWallet

/-- A new wallet. -/
def new (limits : BudgetLimits) : RunWallet := ⟨limits, ⟨0, 0, 0⟩, []⟩

/-- `_is_exhausted`; `none` is the `OverflowError` of a division. -/
def isExhausted (limits : BudgetLimits) (usage : BudgetUsage) : Option Bool :=
  match trueDivide usage.inputTokens limits.inputTokens,
      trueDivide usage.outputTokens limits.outputTokens,
      trueDivide usage.costMicros limits.costMicros with
  | some input, some output, some cost => some (decide (1 ≤ max (max input output) cost))
  | _, _, _ => none

/-- `admit`. -/
def admits (wallet : RunWallet) : Option Bool := (isExhausted wallet.limits wallet.usage).map (!·)

/-- `evaluate_budget` of the wallet for the usage of a receipt. -/
def evaluate (wallet : RunWallet) (usage : TokenUsage) : Option BudgetEvaluation :=
  evaluateBudget wallet.usage wallet.limits usage.inputTokens usage.outputTokens usage.costMicros false

/-- `record`; an exception leaves the wallet as it is. The id of a typed receipt is never empty. -/
def record (wallet : RunWallet) (receipt : UsageReceipt) : Option Bool × RunWallet :=
  if receipt.receiptId ∈ wallet.receiptIds then (wallet.admits, wallet)
  else
    match wallet.evaluate receipt.usage with
    | none => (none, wallet)
    | some evaluation =>
      (some !evaluation.exhausted,
        { wallet with
          usage := evaluation.usage
          receiptIds := wallet.receiptIds ++ [receipt.receiptId] })

end RunWallet

/-! ## Sessions that share a wallet -/

/-- A response whose round has reached the wallet. -/
structure CountedResponse where
  spec : SessionSpec
  roundIndex : Nat
  response : ProviderResponse

/-- Its receipt. -/
def CountedResponse.receipt (counted : CountedResponse) : UsageReceipt :=
  usageReceipt counted.spec counted.roundIndex counted.response

/-- The wallet, the next round of each session, and the responses so far. -/
structure WalletWorld where
  wallet : RunWallet
  nextRound : Nat → Nat
  counted : List CountedResponse

/-- A round of a session reaches the wallet with its response, or a receipt comes again. -/
inductive WalletMove where
  | response (session roundIndex : Nat) (response : ProviderResponse)
  | again (index : Nat)

/-- The rounds of a session come one after the other. A session that does not exist, a round that is
over and a receipt that was never there change nothing. -/
def walletStep (specs : List SessionSpec) (world : WalletWorld) : WalletMove → WalletWorld
  | .response session roundIndex response =>
    match specs[session]? with
    | none => world
    | some spec =>
      if roundIndex < world.nextRound session ∨ spec.maxRounds < roundIndex then world
      else
        { wallet := (world.wallet.record (usageReceipt spec roundIndex response)).2
          nextRound := Function.update world.nextRound session (roundIndex + 1)
          counted := world.counted ++ [⟨spec, roundIndex, response⟩] }
  | .again index =>
    match world.counted[index]? with
    | none => world
    | some counted => { world with wallet := (world.wallet.record counted.receipt).2 }

/-- No session has begun. -/
def walletStart (limits : BudgetLimits) : WalletWorld := ⟨.new limits, fun _ => 0, []⟩

/-- The usage of responses together. -/
def totalUsage (counted : List CountedResponse) : BudgetUsage :=
  ⟨(counted.map (·.response.usage.inputTokens)).sum, (counted.map (·.response.usage.outputTokens)).sum,
    (counted.map (·.response.usage.costMicros)).sum⟩

/-- The wallet has counted every response, and each one once. -/
def UsageCounted (world : WalletWorld) : Prop := world.wallet.usage = totalUsage world.counted

/-- A response is counted: its receipt has a new id and the utilisation is a float, or it used
nothing. -/
def IsCounted (limits : BudgetLimits) (earlier : List CountedResponse) (counted : CountedResponse) :
    Prop :=
  if counted.receipt.receiptId ∈ earlier.map (·.receipt.receiptId) then
    counted.response.usage = ⟨0, 0, 0⟩
  else RunWallet.isExhausted limits (totalUsage (earlier ++ [counted])) ≠ none

/-- The response of a move is counted, where the move has one. -/
def MoveCounted (limits : BudgetLimits) (specs : List SessionSpec) (world : WalletWorld) :
    WalletMove → Prop
  | .response session roundIndex response =>
    ∀ spec, specs[session]? = some spec →
      ¬ (roundIndex < world.nextRound session ∨ spec.maxRounds < roundIndex) →
      IsCounted limits world.counted ⟨spec, roundIndex, response⟩
  | .again _ => True

/-- The ids that the provider gives are different. -/
def ProviderIdsUnique (specs : List SessionSpec) (world : WalletWorld) : WalletMove → Prop
  | .response session roundIndex response =>
    ∀ spec, specs[session]? = some spec →
      ¬ (roundIndex < world.nextRound session ∨ spec.maxRounds < roundIndex) →
      response.providerReceiptId = [] ∨
        response.providerReceiptId ∉ world.counted.map (·.response.providerReceiptId)
  | .again _ => True

/-! ## What is counted -/

section Counting

variable {limits : BudgetLimits} {specs : List SessionSpec} {world : WalletWorld}

theorem totalUsage_append (counted : List CountedResponse) (last : CountedResponse) :
    totalUsage (counted ++ [last]) =
      ⟨(totalUsage counted).inputTokens + last.response.usage.inputTokens,
        (totalUsage counted).outputTokens + last.response.usage.outputTokens,
        (totalUsage counted).costMicros + last.response.usage.costMicros⟩ := by
  simp [totalUsage]

theorem totalUsage_append_eq_iff (counted : List CountedResponse) (last : CountedResponse) :
    totalUsage counted = totalUsage (counted ++ [last]) ↔ last.response.usage = ⟨0, 0, 0⟩ := by
  rw [totalUsage_append]
  obtain ⟨_, _, ⟨_, _, _, ⟨input, output, cost⟩, _⟩⟩ := last
  simp [totalUsage]

theorem RunWallet.evaluate_spec (wallet : RunWallet) (usage : TokenUsage) :
    (wallet.evaluate usage = none ↔ RunWallet.isExhausted wallet.limits
      ⟨wallet.usage.inputTokens + usage.inputTokens, wallet.usage.outputTokens + usage.outputTokens,
        wallet.usage.costMicros + usage.costMicros⟩ = none) ∧
    ∀ evaluation, wallet.evaluate usage = some evaluation → evaluation.usage =
      ⟨wallet.usage.inputTokens + usage.inputTokens, wallet.usage.outputTokens + usage.outputTokens,
        wallet.usage.costMicros + usage.costMicros⟩ := by
  unfold RunWallet.evaluate evaluateBudget RunWallet.isExhausted
  rw [if_neg (by omega)]
  simp only [Int.toNat_natCast]
  constructor
  · split <;> simp_all
  · intro evaluation done
    split at done
    · rw [← Option.some.inj done]
    · cases done

/-- What holds as long as every response was counted: the total, the ids, and that the utilisation
is a float. -/
structure WalletSound (limits : BudgetLimits) (world : WalletWorld) : Prop where
  usage : UsageCounted world
  ids : ∀ id, id ∈ world.wallet.receiptIds ↔ id ∈ world.counted.map (·.receipt.receiptId)
  bounds : world.wallet.limits = limits
  float : RunWallet.isExhausted limits world.wallet.usage ≠ none

theorem isExhausted_unused (limits : BudgetLimits) :
    RunWallet.isExhausted limits ⟨0, 0, 0⟩ ≠ none := by
  simp [RunWallet.isExhausted, trueDivide]

theorem walletStart_sound (limits : BudgetLimits) : WalletSound limits (walletStart limits) where
  usage := rfl
  ids := fun _ => by simp [walletStart, RunWallet.new]
  bounds := rfl
  float := isExhausted_unused limits

theorem RunWallet.record_known {wallet : RunWallet} {receipt : UsageReceipt}
    (known : receipt.receiptId ∈ wallet.receiptIds) : (wallet.record receipt).2 = wallet := by
  unfold RunWallet.record
  rw [if_pos known]

/-- A receipt that the wallet does not know is added with its usage, where the utilisation is a
float. -/
theorem RunWallet.record_new {wallet : RunWallet} {receipt : UsageReceipt}
    (unknown : receipt.receiptId ∉ wallet.receiptIds) :
    (wallet.evaluate receipt.usage = none ∧ (wallet.record receipt).2 = wallet) ∨
      ∃ evaluation, wallet.evaluate receipt.usage = some evaluation ∧ (wallet.record receipt).2 =
        { wallet with
          usage := evaluation.usage
          receiptIds := wallet.receiptIds ++ [receipt.receiptId] } := by
  unfold RunWallet.record
  rw [if_neg unknown]
  cases evaluated : wallet.evaluate receipt.usage with
  | none => exact .inl ⟨rfl, rfl⟩
  | some evaluation => exact .inr ⟨evaluation, rfl, rfl⟩

/-- A response that has reached the wallet. -/
def WalletWorld.reached (world : WalletWorld) (nextRound : Nat → Nat) (counted : CountedResponse) :
    WalletWorld where
  wallet := (world.wallet.record counted.receipt).2
  nextRound := nextRound
  counted := world.counted ++ [counted]

theorem walletStep_reached {session roundIndex : Nat} {response : ProviderResponse}
    {spec : SessionSpec} (found : specs[session]? = some spec)
    (busy : ¬ (roundIndex < world.nextRound session ∨ spec.maxRounds < roundIndex)) :
    walletStep specs world (.response session roundIndex response) =
      world.reached (Function.update world.nextRound session (roundIndex + 1))
        ⟨spec, roundIndex, response⟩ := by
  simp only [walletStep, found, if_neg busy]
  rfl

theorem WalletSound.reached_iff (sound : WalletSound limits world) (nextRound : Nat → Nat)
    (counted : CountedResponse) :
    (UsageCounted (world.reached nextRound counted) ↔ IsCounted limits world.counted counted) ∧
      (UsageCounted (world.reached nextRound counted) →
        WalletSound limits (world.reached nextRound counted)) := by
  obtain ⟨usage, ids, bounds, float⟩ := sound
  unfold UsageCounted at usage
  by_cases known : counted.receipt.receiptId ∈ world.wallet.receiptIds
  · have same := RunWallet.record_known known
    unfold UsageCounted IsCounted WalletWorld.reached
    rw [if_pos ((ids _).mp known)]
    dsimp only
    rw [same, usage]
    refine ⟨totalUsage_append_eq_iff _ _, fun total => ⟨usage.trans total, ?_, bounds, usage ▸ float⟩⟩
    intro id
    rw [ids, List.map_append, List.mem_append]
    refine ⟨.inl, fun member => member.elim (fun inside => inside) fun last => ?_⟩
    rw [List.map_singleton, List.mem_singleton] at last
    rw [last]
    exact (ids _).mp known
  · have total := totalUsage_append world.counted counted
    rw [← usage] at total
    obtain ⟨none_iff, evaluated_usage⟩ := RunWallet.evaluate_spec world.wallet counted.response.usage
    rw [← total, bounds] at none_iff
    rw [← total] at evaluated_usage
    unfold UsageCounted IsCounted WalletWorld.reached
    rw [if_neg fun member => known ((ids _).mpr member)]
    dsimp only
    rcases RunWallet.record_new known with ⟨overflows, same⟩ | ⟨evaluation, evaluated, added⟩
    · -- the usage is lost: nothing was used only if the utilisation is that of before, a float
      have lost : world.wallet.usage ≠ totalUsage (world.counted ++ [counted]) := by
        intro kept
        apply float
        rw [kept]
        exact none_iff.mp overflows
      rw [same]
      exact ⟨⟨fun kept => absurd kept lost, fun isFloat => absurd (none_iff.mp overflows) isFloat⟩,
        fun kept => absurd kept lost⟩
    · have isFloat : RunWallet.isExhausted limits (totalUsage (world.counted ++ [counted])) ≠ none := by
        intro overflows
        have none := none_iff.mpr overflows
        exact nomatch none.symm.trans evaluated
      have usage' := evaluated_usage evaluation evaluated
      rw [added]
      refine ⟨⟨fun _ => isFloat, fun _ => usage'⟩, fun _ => ⟨usage', ?_, bounds, ?_⟩⟩
      · intro id
        rw [List.map_append, List.mem_append, List.mem_append, ids]
        rfl
      · dsimp only
        rw [usage']
        exact isFloat

theorem WalletSound.again (sound : WalletSound limits world) (index : Nat) :
    walletStep specs world (.again index) = world := by
  cases found : world.counted[index]? with
  | none => simp only [walletStep, found]
  | some counted =>
    have known : counted.receipt.receiptId ∈ world.wallet.receiptIds :=
      (sound.ids _).mpr (List.mem_map_of_mem (List.mem_of_getElem? found))
    simp only [walletStep, found]
    rw [RunWallet.record_known known]

theorem WalletSound.step_iff (sound : WalletSound limits world) (move : WalletMove) :
    (UsageCounted (walletStep specs world move) ↔ MoveCounted limits specs world move) ∧
      (UsageCounted (walletStep specs world move) →
        WalletSound limits (walletStep specs world move)) := by
  cases move with
  | again index =>
    rw [sound.again]
    exact ⟨⟨fun _ => trivial, fun _ => sound.usage⟩, fun _ => sound⟩
  | response session roundIndex response =>
    unfold MoveCounted
    cases found : specs[session]? with
    | none =>
      simp only [walletStep, found]
      exact ⟨⟨fun _ => by simp, fun _ => sound.usage⟩, fun _ => sound⟩
    | some spec =>
      by_cases idle : roundIndex < world.nextRound session ∨ spec.maxRounds < roundIndex
      · simp only [walletStep, found, if_pos idle]
        refine ⟨⟨?_, fun _ => sound.usage⟩, fun _ => sound⟩
        intro _ other same busy
        rw [← Option.some.inj same] at busy
        exact absurd idle busy
      · rw [walletStep_reached found idle]
        obtain ⟨counts, keeps⟩ := sound.reached_iff
          (Function.update world.nextRound session (roundIndex + 1)) ⟨spec, roundIndex, response⟩
        refine ⟨counts.trans ⟨?_, fun all => all spec found idle⟩, keeps⟩
        intro counted other same _
        rw [← Option.some.inj (found.symm.trans same)]
        exact counted

/-- The wallet has counted every response, and each one once, in all states of a run exactly where
every response of the run is counted. -/
theorem usage_counted_iff (limits : BudgetLimits) (specs : List SessionSpec) (moves : List WalletMove) :
    Always (walletStep specs) UsageCounted (walletStart limits) moves ↔
      Along (walletStep specs) (MoveCounted limits specs) (walletStart limits) moves := by
  have start := walletStart_sound limits
  rw [always_iff start.usage]
  apply along_iff (WalletSound limits)
  · intro world move sound counted
    exact (sound.step_iff move).2 counted
  · intro world move sound
    exact (sound.step_iff move).1
  · exact start

end Counting

/-! ## Two sessions without provider ids -/

namespace SampleWallet

/-- A session of the plan phase. -/
def spec : SessionSpec where
  identity := ⟨⟨7⟩, .plan, .planAuxiliary, none⟩
  runStatus := .planning
  binding := ⟨points "provider", points "model", .reasoning, "digest"⟩
  packIdentity := ⟨⟨7⟩, .plan, .planAuxiliary, none, "digest"⟩
  maxRounds := 4
  context := ⟨[], [], []⟩
  template := points "session"
  state := .created
  agentRunId := none

/-- Two sessions of one run. -/
def specs : List SessionSpec := [spec, spec]

/-- A response that used a token, of a provider that gives no id. -/
def response : ProviderResponse := ⟨[], [], points "stop", ⟨1, 0, 0⟩, []⟩

/-- The first rounds of both sessions. -/
def moves : List WalletMove := [.response 0 1 response, .response 1 1 response]

theorem moves_unique : Along (walletStep specs) (ProviderIdsUnique specs)
    (walletStart .default) moves :=
  ⟨fun _ _ _ => .inl rfl, fun _ _ _ => .inl rfl, trivial⟩

theorem second_known : (⟨spec, 1, response⟩ : CountedResponse).receipt.receiptId ∈
    (walletStep specs (walletStart .default) (.response 0 1 response)).counted.map
      (·.receipt.receiptId) := by
  have reached : walletStep specs (walletStart .default) (.response 0 1 response) = _ :=
    walletStep_reached rfl (by simp [walletStart, spec])
  rw [reached]
  simp [WalletWorld.reached, walletStart]

/-- The second response is not counted: the receipts of both have the id of round 1 of the run. -/
theorem second_round_lost : ¬ ∀ (limits : BudgetLimits) (specs : List SessionSpec)
    (moves : List WalletMove),
    (∀ spec ∈ specs, ∀ other ∈ specs, spec.identity.runId = other.identity.runId) →
    Along (walletStep specs) (ProviderIdsUnique specs) (walletStart limits) moves →
    Always (walletStep specs) UsageCounted (walletStart limits) moves := by
  intro all
  have oneRun : ∀ spec ∈ specs, ∀ other ∈ specs, spec.identity.runId = other.identity.runId := by
    decide
  have start := walletStart_sound .default
  obtain ⟨first, second, -⟩ := (always_iff start.usage _).mp (all .default specs moves oneRun moves_unique)
  have sound := (start.step_iff _).2 first
  have isCounted := (sound.step_iff _).1.mp second spec rfl (by simp [walletStep, walletStart, specs, spec])
  unfold IsCounted at isCounted
  rw [if_pos second_known] at isCounted
  revert isCounted
  simp [response]

end SampleWallet

end CodeMigrator
