import CodeMigrator.Runtime.SessionHistory

/-!
# Transcripts of tool calls

When the requests of a session are such that a provider accepts them: the ids of the native calls
are different, and each call is answered before the assistant speaks again. An id that is missing
is made up for the message of the assistant, but the answer to the call is then a message of the
user; and an id that comes a second time is listed a second time.
-/

namespace CodeMigrator
open Lib

/-! ## Transcripts -/

/-- The ids that the messages of the assistant list. -/
def assistantIds (messages : List PromptMessage) : List Points :=
  (messages.filter (·.role = .assistant)).flatMap (·.listedIds)

/-- The messages before the next one of the assistant. -/
def untilAssistant (messages : List PromptMessage) : List PromptMessage :=
  messages.takeWhile (·.role ≠ .assistant)

/-- Every call that the assistant lists is answered by exactly one message of the tool before the
next message of the assistant. -/
def AllAnswered : List PromptMessage → Prop
  | [] => True
  | message :: later =>
    (message.role = .assistant → ∀ id ∈ message.listedIds,
      (answeredIds (untilAssistant later)).count id = 1) ∧ AllAnswered later

/-- A transcript that a provider accepts. -/
structure WellFormedTranscript (messages : List PromptMessage) : Prop where
  distinct : (assistantIds messages).Nodup
  answered : AllAnswered messages

/-- All native calls of the responses have an id, and no id comes twice. -/
structure SoundIds (responses : List ProviderResponse) : Prop where
  present : [] ∉ responses.flatMap (·.callIds)
  distinct : (responses.flatMap (·.callIds)).Nodup

/-! ## Replies -/

theorem assistantIds_append (messages others : List PromptMessage) :
    assistantIds (messages ++ others) = assistantIds messages ++ assistantIds others := by
  simp [assistantIds]

theorem answeredIds_append (messages others : List PromptMessage) :
    answeredIds (messages ++ others) = answeredIds messages ++ answeredIds others := by
  simp [answeredIds]

section Replies

variable {replies : List PromptMessage} (plain : ∀ message ∈ replies, message.IsReply)
include plain

theorem assistantIds_replies : assistantIds replies = [] := by
  have none : replies.filter (·.role = .assistant) = [] := by
    apply List.filter_eq_nil_iff.mpr
    intro message member
    simpa using (plain message member).1
  rw [assistantIds, none]
  rfl

theorem untilAssistant_replies (later : List PromptMessage) :
    untilAssistant (replies ++ later) = replies ++ untilAssistant later := by
  apply List.takeWhile_append_of_pos
  intro message member
  simpa using (plain message member).1

theorem allAnswered_replies (later : List PromptMessage) :
    AllAnswered (replies ++ later) ↔ AllAnswered later := by
  induction replies with
  | nil => exact Iff.rfl
  | cons message replies ih =>
    rw [List.cons_append, AllAnswered, ih fun other member => plain other (List.mem_cons_of_mem _ member)]
    have reply := (plain message List.mem_cons_self).1
    exact and_iff_right fun assistant => absurd assistant reply

end Replies

/-! ## Exchanges -/

namespace AgentLoop

section Exchanges

variable {spec : SessionSpec} {response : ProviderResponse} {responses : List ProviderResponse}
  {segment : List PromptMessage} {segments : List (List PromptMessage)}

theorem nativeToolCalls_length (callId : Points) (calls : List ProviderToolCall) :
    (nativeToolCalls callId calls).length = calls.length := by
  simp [nativeToolCalls]

theorem nativeToolCalls_ids {callId : Points} {calls : List ProviderToolCall}
    (present : [] ∉ calls.map (·.callId)) :
    (nativeToolCalls callId calls).map (·.callId) = calls.map (·.callId) := by
  unfold nativeToolCalls
  rw [List.map_map]
  apply List.ext_getElem
  · simp
  · intro index bound inside
    have inRange : index < calls.length := by simpa using inside
    have here : calls[index].callId ∈ calls.map (·.callId) :=
      List.mem_map_of_mem (List.getElem_mem _)
    have some : calls[index].callId ≠ [] := fun none => present (none ▸ here)
    simp [some]

theorem assistantIds_exchange (exchange : IsExchange spec response segment) :
    ∃ callId, assistantIds segment = (nativeToolCalls callId response.toolCalls).map (·.callId) := by
  obtain ⟨roundIndex, replies, rfl, plain, -⟩ := exchange.exchange
  refine ⟨roundCallId spec.identity roundIndex, ?_⟩
  rw [assistantIds_append, assistantIds_replies plain, List.append_nil]
  unfold assistantMessages
  split
  · next empty =>
    rw [empty.2]
    rfl
  · simp [assistantIds, PromptMessage.listedIds]

theorem answeredIds_untilAssistant (exchanges : List.Forall₂ (IsExchange spec) responses segments) :
    answeredIds (untilAssistant segments.flatten) = [] := by
  induction exchanges with
  | nil => rfl
  | @cons response segment responses segments first _ ih =>
    obtain ⟨roundIndex, replies, rfl, plain, answers⟩ := first.exchange
    rw [List.flatten_cons, List.append_assoc]
    unfold assistantMessages
    split
    · next empty =>
      have noIds : response.callIds = [] := by
        rw [ProviderResponse.callIds, empty.2]
        rfl
      rw [List.nil_append, untilAssistant_replies plain, answeredIds_append, ih, answers, noIds]
      rfl
    · rfl

theorem allAnswered_iff (exchanges : List.Forall₂ (IsExchange spec) responses segments) :
    AllAnswered segments.flatten ↔ List.Forall₂ (fun response segment =>
      ∀ id ∈ assistantIds segment, (response.callIds.filter (· ≠ [])).count id = 1)
      responses segments := by
  induction exchanges with
  | nil => simp [AllAnswered]
  | @cons response segment responses segments first rest ih =>
    rw [List.forall₂_cons, ← ih]
    obtain ⟨roundIndex, replies, rfl, plain, answers⟩ := first.exchange
    rw [List.flatten_cons, List.append_assoc, assistantIds_append, assistantIds_replies plain]
    unfold assistantMessages
    split
    · rw [List.nil_append, allAnswered_replies plain]
      simp [assistantIds]
    · rw [List.singleton_append, AllAnswered, allAnswered_replies plain,
        untilAssistant_replies plain, answeredIds_append, answeredIds_untilAssistant rest, answers,
        List.append_nil]
      simp [assistantIds]

theorem present_of_answered (exchange : IsExchange spec response segment)
    (distinct : (assistantIds segment).Nodup)
    (answered : ∀ id ∈ assistantIds segment, (response.callIds.filter (· ≠ [])).count id = 1) :
    [] ∉ response.callIds := by
  obtain ⟨callId, listed⟩ := assistantIds_exchange exchange
  have long : (assistantIds segment).length = response.callIds.length := by
    rw [listed, ProviderResponse.callIds]
    simp [nativeToolCalls_length]
  have inside : assistantIds segment ⊆ response.callIds.filter (· ≠ []) := by
    intro id member
    apply List.count_pos_iff.mp
    rw [answered id member]
    omega
  -- as many ids stand in the filtered list as in the whole one
  have fits := List.Nodup.length_le_of_subset distinct inside
  rw [long] at fits
  have whole := Nat.le_antisymm (List.length_filter_le _ _) fits
  intro missing
  have all := List.length_filter_eq_length_iff.mp whole [] missing
  simp at all

theorem assistantIds_present (exchanges : List.Forall₂ (IsExchange spec) responses segments)
    (present : [] ∉ responses.flatMap (·.callIds)) :
    List.Forall₂ (fun response segment => assistantIds segment = response.callIds)
      responses segments := by
  induction exchanges with
  | nil => exact .nil
  | @cons response segment responses segments first _ ih =>
    rw [List.flatMap_cons, List.mem_append, not_or] at present
    obtain ⟨callId, listed⟩ := assistantIds_exchange first
    exact .cons (listed.trans (nativeToolCalls_ids present.1)) (ih present.2)

theorem assistantIds_flatten (segments : List (List PromptMessage)) :
    assistantIds segments.flatten = segments.flatMap assistantIds := by
  induction segments with
  | nil => rfl
  | cons segment segments ih =>
    rw [List.flatten_cons, assistantIds_append, ih, List.flatMap_cons]

theorem flatMap_of_forall₂ {α β γ : Type} {f : α → List γ} {g : β → List γ} {as : List α}
    {bs : List β} (same : List.Forall₂ (fun a b => g b = f a) as bs) : bs.flatMap g = as.flatMap f := by
  induction same with
  | nil => rfl
  | cons first _ ih => rw [List.flatMap_cons, List.flatMap_cons, first, ih]

theorem present_of_wellFormed (exchanges : List.Forall₂ (IsExchange spec) responses segments)
    (distinct : (segments.flatMap assistantIds).Nodup)
    (answered : List.Forall₂ (fun response segment =>
      ∀ id ∈ assistantIds segment, (response.callIds.filter (· ≠ [])).count id = 1)
      responses segments) : [] ∉ responses.flatMap (·.callIds) := by
  induction exchanges with
  | nil => simp
  | cons first _ ih =>
    obtain ⟨here, later⟩ := List.forall₂_cons.mp answered
    rw [List.flatMap_cons, List.nodup_append] at distinct
    rw [List.flatMap_cons, List.mem_append, not_or]
    exact ⟨present_of_answered first distinct.1 here, ih distinct.2.1 later⟩

theorem wellFormed_exchanges_iff (exchanges : List.Forall₂ (IsExchange spec) responses segments) :
    WellFormedTranscript segments.flatten ↔ SoundIds responses := by
  constructor
  · rintro ⟨distinct, answered⟩
    rw [allAnswered_iff exchanges] at answered
    have present := present_of_wellFormed exchanges (assistantIds_flatten segments ▸ distinct) answered
    refine ⟨present, ?_⟩
    rw [← flatMap_of_forall₂ (assistantIds_present exchanges present), ← assistantIds_flatten]
    exact distinct
  · rintro ⟨present, distinct⟩
    have listed := assistantIds_present exchanges present
    constructor
    · rw [assistantIds_flatten, flatMap_of_forall₂ listed]
      exact distinct
    · rw [allAnswered_iff exchanges]
      clear exchanges
      induction listed with
      | nil => exact .nil
      | @cons response segment responses segments same _ ih =>
        rw [List.flatMap_cons, List.mem_append, not_or] at present
        rw [List.flatMap_cons, List.nodup_append] at distinct
        refine .cons ?_ (ih present.2 distinct.2.1)
        intro id member
        rw [same] at member
        have whole : response.callIds.filter (· ≠ []) = response.callIds := by
          apply List.filter_eq_self.mpr
          intro other inside
          simpa using fun none : other = [] => present.1 (none ▸ inside)
        rw [whole]
        exact List.count_eq_one_of_mem distinct.1 member

end Exchanges

variable {ω F ρ : Type}

theorem request_wellFormed_iff {ports : LoopPorts ω F ρ} {spec : SessionSpec} {decoder : Decoder F} {env : ω}
    {earlier later : List (LoopEvent F)} {messages : List PromptMessage}
    (split : (run ports spec decoder ⟨env, false, []⟩).2.log = earlier ++ .called messages :: later) :
    WellFormedTranscript messages ↔ SoundIds (responsesIn earlier) := by
  obtain ⟨initial, responses, plain, told⟩ := session_told ports spec decoder env
  obtain ⟨segments, rfl, exchanges⟩ := told.requests earlier messages later split
  rw [← wellFormed_exchanges_iff exchanges]
  constructor
  · rintro ⟨distinct, answered⟩
    rw [assistantIds_append, assistantIds_replies plain, List.nil_append] at distinct
    exact ⟨distinct, (allAnswered_replies plain _).mp answered⟩
  · rintro ⟨distinct, answered⟩
    refine ⟨?_, (allAnswered_replies plain _).mpr answered⟩
    rw [assistantIds_append, assistantIds_replies plain, List.nil_append]
    exact distinct

/-- All requests of a session are accepted exactly where the native calls of the responses before
each of them have ids, and different ones. -/
theorem transcripts_wellFormed_iff (ports : LoopPorts ω F ρ) (spec : SessionSpec)
    (decoder : Decoder F) (env : ω) :
    (∀ messages, .called messages ∈ (run ports spec decoder ⟨env, false, []⟩).2.log →
      WellFormedTranscript messages) ↔
    ∀ earlier messages later,
      (run ports spec decoder ⟨env, false, []⟩).2.log = earlier ++ .called messages :: later →
      SoundIds (responsesIn earlier) := by
  constructor
  · intro wellFormed earlier messages later split
    exact (request_wellFormed_iff split).mp (wellFormed messages (by rw [split]; simp))
  · intro sound messages member
    obtain ⟨earlier, later, split⟩ := List.append_of_mem member
    exact (request_wellFormed_iff split).mpr (sound earlier messages later split)

/-! ## A call without an id -/

namespace SampleCalls

open SampleSession (identity spec decoder)

/-- A response that calls a tool without arguments. -/
def response (callId : Points) : ProviderResponse :=
  ⟨[], [⟨points "Shell", [Point.openBrace, Point.closeBrace], callId⟩], points "tool_calls",
    ⟨1, 1, 0⟩, points "receipt"⟩

/-- A provider that always gives one response, and tools that return nothing. -/
def ports (callId : Points) : LoopPorts Unit Unit Unit where
  provider := fun _ => pure (response callId)
  dispatch := fun _ => pure (some ())
  awaited := pure ()
  resultText := fun _ => .ok (points "None")
  checkpoint := none
  gate := none
  budget := none
  usageSink := none
  maxSelfCorrections := 3
  contextFits := fun _ => .ok ()

/-- What is asked in the second round of the session. -/
def secondRequest : List PromptMessage :=
  [.plain .system (points "session" ++ sourceBoundary),
    ⟨.assistant, [], none, none, nativeToolCalls (roundCallId identity 1) (response []).toolCalls⟩,
    .plain .user (points "[tool.result:0]\n" ++ points "None")]

theorem secondRequest_called :
    .called secondRequest ∈ (run (ports []) spec decoder ⟨(), false, []⟩).2.log := by
  have log : (run (ports []) spec decoder ⟨(), false, []⟩).2.log[3]? = some (.called secondRequest) :=
    rfl
  exact List.mem_of_getElem? log

/-- The answer to a call without an id is no message of the tool. -/
theorem missing_id_not_answered : ¬ ∀ (ports : LoopPorts Unit Unit Unit) (spec : SessionSpec)
    (decoder : Decoder Unit) (env : Unit) (messages : List PromptMessage),
    .called messages ∈ (run ports spec decoder ⟨env, false, []⟩).2.log →
    WellFormedTranscript messages := by
  intro all
  obtain ⟨-, answered, -⟩ := (all (ports []) spec decoder () _ secondRequest_called).answered
  have once := answered rfl (points "00000000-0000-0000-0000-000000000001:1:0") (by decide)
  revert once
  decide

end SampleCalls

end AgentLoop

end CodeMigrator
