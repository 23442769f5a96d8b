import CodeMigrator.Lib.TextBytes
import CodeMigrator.Runtime.AgentSession
import Mathlib.Data.List.Forall2

/-!
# Eviction

`EvictionEngine.evict` of `runtime/memory.py` on the envelopes of `runtime/context.py`. The
measurement and the audit sink are ports with a state of their own. Old targeted segments are replaced all together or not at all, and
a replacement is never replaced again.
-/

namespace CodeMigrator.Eviction
open Lib

/-- `str.strip` leaves nothing of the text. -/
def isBlankText (text : Points) : Bool := text.all fun c => c.isValidChar && isSpace (Char.ofNat c)

/-- `ContextSegment`. -/
structure Segment where
  kind : SegmentKind
  content : Points
  required : Bool
  evictable : Bool
  sourceBody : Bool
  sourceRef : Option Points
  turnIndex : Option Nat
  pinned : kind ≠ .targeted → evictable = false
  named : sourceRef.all (fun source => !isBlankText source) = true

/-- `ContextEnvelope`. -/
structure Envelope where
  stable : List Segment
  evolving : List Segment
  targeted : List Segment
  stableKind : ∀ segment ∈ stable, segment.kind = .stable
  evolvingKind : ∀ segment ∈ evolving, segment.kind = .evolving
  targetedKind : ∀ segment ∈ targeted, segment.kind = .targeted

/-- `EvictionAudit`. -/
structure EvictionAudit where
  segmentKind : String
  sourceRef : Option Points
  replacement : Points
  turnIndex : Nat
  deriving DecidableEq

/-- `EvictionResult`. -/
structure EvictionResult where
  envelope : Envelope
  audit : List EvictionAudit

/-- The exceptions of `evict`; `raised` are those of the ports. -/
inductive EvictionError (ε : Type) where
  | typeError (message : String)
  | valueError (message : String)
  | contextBudget (message code : String)
  | raised (exception : ε)

/-- The arguments `measure` and `audit_sink`. A measurement that is no integer is `none`. -/
structure EvictionPorts (σ ε : Type) where
  measure : Option (Envelope → σ → Except ε (Option Int) × σ)
  auditSink : Option (List EvictionAudit → σ → Except ε Unit × σ)

/-- A run of `evict`: the state of the ports after it, and what it returns or raises. -/
structure EvictionRun (σ ε : Type) where
  state : σ
  result : Except (EvictionError ε) EvictionResult

/-- The JSON text that takes the place of a segment. -/
def replacement (sourceRef : Option Points) : Points :=
  points "\x7b\x22conclusion\x22:\x22content externalized; reread explicitly\x22,\x22evicted\x22:true,\x22source_ref\x22:" ++
    (match sourceRef with
      | none => points "null"
      | some source => jsonString source) ++ points "\x7d"

/-- The turn of a segment that is to be evicted. -/
def evictedTurn (currentTurn : Int) (segment : Segment) : Option Nat :=
  if !segment.evictable || segment.required then none
  else segment.turnIndex.filter fun turn => (turn : Int) < currentTurn

/-- The segment in the place of an evicted one. -/
def replaced (segment : Segment) (turn : Nat) : Segment :=
  { kind := .targeted
    content := replacement segment.sourceRef
    required := false
    evictable := false
    sourceBody := false
    sourceRef := segment.sourceRef
    turnIndex := some turn
    pinned := fun _ => rfl
    named := segment.named }

/-- One pass of the loop over the targeted segments. -/
def evictSegment (currentTurn : Int) (lists : List Segment × List EvictionAudit)
    (segment : Segment) : List Segment × List EvictionAudit :=
  match evictedTurn currentTurn segment with
  | none => (lists.1 ++ [segment], lists.2)
  | some turn =>
    (lists.1 ++ [replaced segment turn],
      lists.2 ++ [⟨"targeted", segment.sourceRef, replacement segment.sourceRef, turn⟩])

/-- What the loop leaves of a segment. -/
def settled (currentTurn : Int) (segment : Segment) : Segment :=
  (evictedTurn currentTurn segment).elim segment (replaced segment)

/-- The record of the eviction of a segment. -/
def auditOf (currentTurn : Int) (segment : Segment) : Option EvictionAudit :=
  (evictedTurn currentTurn segment).map fun turn =>
    ⟨"targeted", segment.sourceRef, replacement segment.sourceRef, turn⟩

theorem foldl_evictSegment (currentTurn : Int) (segments : List Segment)
    (lists : List Segment × List EvictionAudit) :
    segments.foldl (evictSegment currentTurn) lists =
      (lists.1 ++ segments.map (settled currentTurn),
        lists.2 ++ segments.filterMap (auditOf currentTurn)) := by
  induction segments generalizing lists with
  | nil => simp
  | cons segment segments ih =>
    rw [List.foldl_cons, ih, evictSegment]
    cases evicted : evictedTurn currentTurn segment <;> simp [settled, auditOf, evicted]

theorem settled_kind {currentTurn : Int} {segment : Segment} (kind : segment.kind = .targeted) :
    (settled currentTurn segment).kind = .targeted := by
  unfold settled
  cases evictedTurn currentTurn segment with
  | none => exact kind
  | some turn => rfl

/-- The envelope after the loop. -/
def evictedEnvelope (envelope : Envelope) (currentTurn : Int) : Envelope :=
  { envelope with
    targeted := (envelope.targeted.foldl (evictSegment currentTurn) ([], [])).1
    targetedKind := by
      rw [foldl_evictSegment, List.nil_append]
      intro segment member
      obtain ⟨before, inside, rfl⟩ := List.mem_map.mp member
      exact settled_kind (envelope.targetedKind before inside) }

section Evict

variable {σ ε : Type} (ports : EvictionPorts σ ε) {currentTurn netInputCap watermarkPct : Int}

/-- `EvictionEngine.evict`. -/
def evict (envelope : Envelope) (currentTurn currentTokens netInputCap watermarkPct : Int)
    (state : σ) : EvictionRun σ ε :=
  if currentTurn < 0 then
    ⟨state, .error (.typeError "eviction measurements must be integers")⟩
  else if netInputCap ≤ 0 ∨ ¬ (1 ≤ watermarkPct ∧ watermarkPct ≤ 100) then
    ⟨state, .error (.valueError "eviction measurements are invalid")⟩
  else if currentTokens * 100 < netInputCap * watermarkPct then ⟨state, .ok ⟨envelope, []⟩⟩
  else
    let audit := (envelope.targeted.foldl (evictSegment currentTurn) ([], [])).2
    if audit = [] then ⟨state, .ok ⟨envelope, []⟩⟩
    else
      match ports.measure, ports.auditSink with
      | some measure, some auditSink =>
        let after := evictedEnvelope envelope currentTurn
        match measure after state with
        | (.error exception, state) => ⟨state, .error (.raised exception)⟩
        | (.ok measured, state) =>
          match measured.filter (0 ≤ ·) with
          | none =>
            ⟨state, .error (.contextBudget
              "eviction remeasurement is invalid" "CONTEXT_CAPABILITY_INVALID")⟩
          | some tokens =>
            if netInputCap < tokens then
              ⟨state, .error (.contextBudget
                "context remains above the locked net-input cap" "CONTEXT_BUDGET_EXCEEDED")⟩
            else
              match auditSink audit state with
              | (.error exception, state) => ⟨state, .error (.raised exception)⟩
              | (.ok (), state) => ⟨state, .ok ⟨after, audit⟩⟩
      | _, _ =>
        ⟨state, .error (.contextBudget
          "eviction requires exact remeasurement and durable audit" "CONTEXT_CAPABILITY_INVALID")⟩

/-! ## What a successful run leaves -/

/-- A targeted segment that may be evicted. -/
def Old (currentTurn : Int) (segment : Segment) : Prop :=
  segment.evictable = true ∧ segment.required = false ∧
    ∃ turn, segment.turnIndex = some turn ∧ (turn : Int) < currentTurn

theorem old_iff {segment : Segment} :
    Old currentTurn segment ↔ (evictedTurn currentTurn segment).isSome = true := by
  unfold Old evictedTurn
  cases segment.evictable <;> cases segment.required <;> cases segment.turnIndex <;>
    simp [Option.filter, apply_ite Option.isSome]

instance (currentTurn : Int) : DecidablePred (Old currentTurn) :=
  fun _ => decidable_of_iff _ old_iff.symm

/-- A segment in the place of another one: the source stays, and all else unless it is old. -/
def Frames (currentTurn : Int) (before after : Segment) : Prop :=
  after.sourceRef = before.sourceRef ∧ (¬ Old currentTurn before → after = before)

/-- The segment in the place of an old one is its replacement and can not be evicted. -/
def Externalizes (currentTurn : Int) (before after : Segment) : Prop :=
  Old currentTurn before → after.evictable = false ∧
    after.content = replacement before.sourceRef ∧ after.turnIndex = before.turnIndex

/-- A run that evicts nothing and calls nobody. -/
def idle (envelope : Envelope) (state : σ) : EvictionRun σ ε :=
  ⟨state, .ok ⟨envelope, []⟩⟩

/-- What the arguments of a measurement are to be. -/
def ValidMeasurements (currentTurn netInputCap watermarkPct : Int) : Prop :=
  0 ≤ currentTurn ∧ 0 < netInputCap ∧ 1 ≤ watermarkPct ∧ watermarkPct ≤ 100

/-- The finished envelope is measured and fits, then the sink takes the audit: these two calls and
no other lead from a state of the ports to the next one. -/
def MeasuredThenReported (netInputCap : Int) (result : EvictionResult) (state after : σ) : Prop :=
  ∃ measure auditSink tokens measured, ports.measure = some measure ∧
    ports.auditSink = some auditSink ∧
    measure result.envelope state = (.ok (some tokens), measured) ∧
    0 ≤ tokens ∧ tokens ≤ netInputCap ∧ auditSink result.audit measured = (.ok (), after)

/-- A successful run of the engine from a state of its ports. -/
structure EvictsSoundly (envelope : Envelope)
    (currentTurn currentTokens netInputCap watermarkPct : Int) (state : σ) (run : EvictionRun σ ε)
    (result : EvictionResult) : Prop where
  stable : result.envelope.stable = envelope.stable
  evolving : result.envelope.evolving = envelope.evolving
  frame : List.Forall₂ (Frames currentTurn) envelope.targeted result.envelope.targeted
  none_evicted : result.audit = [] →
    result.envelope = envelope ∧ run.state = state
  all_evicted : result.audit ≠ [] →
    List.Forall₂ (Externalizes currentTurn) envelope.targeted result.envelope.targeted ∧
    result.audit.map (fun audit => (audit.sourceRef, some audit.turnIndex)) =
      (envelope.targeted.filter (Old currentTurn ·)).map
        (fun segment => (segment.sourceRef, segment.turnIndex)) ∧
    MeasuredThenReported ports netInputCap result state run.state
  again : ∀ (ports : EvictionPorts σ ε) (state : σ),
    evict ports result.envelope currentTurn currentTokens netInputCap watermarkPct state =
      idle result.envelope state
  settled : result.audit ≠ [] → ∀ (ports : EvictionPorts σ ε) (turn tokens cap watermark : Int)
    (state : σ), turn ≤ currentTurn → ValidMeasurements turn cap watermark →
    evict ports result.envelope turn tokens cap watermark state = idle result.envelope state

theorem audit_eq_nil_iff (currentTurn : Int) (segments : List Segment) :
    (segments.foldl (evictSegment currentTurn) ([], [])).2 = [] ↔
      ∀ segment ∈ segments, ¬ Old currentTurn segment := by
  simp only [foldl_evictSegment, List.nil_append, List.filterMap_eq_nil_iff, old_iff, auditOf,
    Option.map_eq_none_iff, Option.not_isSome_iff_eq_none]

theorem evict_idle {envelope : Envelope}
    (valid : ValidMeasurements currentTurn netInputCap watermarkPct)
    (noneOld : ∀ segment ∈ envelope.targeted, ¬ Old currentTurn segment) (currentTokens : Int)
    (state : σ) : evict ports envelope currentTurn currentTokens netInputCap watermarkPct state =
      idle envelope state := by
  obtain ⟨turn, cap, low, high⟩ := valid
  unfold evict
  rw [if_neg (by omega), if_neg (by omega)]
  split
  · rfl
  · dsimp only
    rw [if_pos ((audit_eq_nil_iff currentTurn envelope.targeted).mpr noneOld)]
    rfl

theorem settled_frames (currentTurn : Int) (segment : Segment) :
    Frames currentTurn segment (settled currentTurn segment) := by
  unfold Frames settled
  rw [old_iff]
  cases evictedTurn currentTurn segment with
  | none => exact ⟨rfl, fun _ => rfl⟩
  | some turn => exact ⟨rfl, fun young => absurd rfl young⟩

theorem settled_externalizes (currentTurn : Int) (segment : Segment) :
    Externalizes currentTurn segment (settled currentTurn segment) := by
  intro old
  obtain ⟨turn, evicted⟩ := Option.isSome_iff_exists.mp (old_iff.mp old)
  obtain ⟨-, -, first, found, -⟩ := old
  unfold settled
  rw [evicted]
  refine ⟨rfl, rfl, ?_⟩
  unfold evictedTurn at evicted
  split at evicted
  · cases evicted
  · exact (Option.eq_some_of_filter_eq_some evicted).symm

theorem settled_young {turn : Int} (earlier : turn ≤ currentTurn) (segment : Segment) :
    ¬ Old turn (settled currentTurn segment) := by
  intro old
  by_cases before : Old currentTurn segment
  · rw [Old, (settled_externalizes currentTurn segment before).1] at old
    cases old.1
  · rw [(settled_frames currentTurn segment).2 before] at old
    obtain ⟨evictable, optional, index, found, past⟩ := old
    exact before ⟨evictable, optional, index, found, by omega⟩

theorem audit_records (currentTurn : Int) (segments : List Segment) :
    (segments.filterMap (auditOf currentTurn)).map
        (fun audit => (audit.sourceRef, some audit.turnIndex)) =
      (segments.filter (Old currentTurn ·)).map
        (fun segment => (segment.sourceRef, segment.turnIndex)) := by
  induction segments with
  | nil => rfl
  | cons segment segments ih =>
    by_cases old : Old currentTurn segment
    · obtain ⟨turn, evicted⟩ := Option.isSome_iff_exists.mp (old_iff.mp old)
      have kept := (settled_externalizes currentTurn segment old).2.2
      simp only [settled, evicted, Option.elim_some, replaced] at kept
      simp [auditOf, evicted, old, ← kept] at ih ⊢
      exact ih
    · have young := Option.not_isSome_iff_eq_none.mp (mt old_iff.mpr old)
      simp [auditOf, young, old] at ih ⊢
      exact ih

theorem idle_sound {envelope : Envelope} {currentTokens : Int} (state : σ)
    (again : ∀ (ports : EvictionPorts σ ε) (state : σ), evict ports envelope currentTurn
      currentTokens netInputCap watermarkPct state = idle envelope state) :
    EvictsSoundly ports envelope currentTurn currentTokens netInputCap watermarkPct state
      (idle envelope state) ⟨envelope, []⟩ where
  stable := rfl
  evolving := rfl
  frame := List.forall₂_same.mpr fun _ _ => ⟨rfl, fun _ => rfl⟩
  none_evicted := fun _ => ⟨rfl, rfl⟩
  all_evicted := fun evicted => absurd rfl evicted
  again := again
  settled := fun evicted => absurd rfl evicted

theorem evicted_sound {envelope : Envelope} {currentTokens : Int} {state after : σ}
    {result : EvictionResult}
    (finished : result = ⟨evictedEnvelope envelope currentTurn,
      (envelope.targeted.foldl (evictSegment currentTurn) ([], [])).2⟩)
    (valid : ValidMeasurements currentTurn netInputCap watermarkPct) (something : result.audit ≠ [])
    (called : MeasuredThenReported ports netInputCap result state after) :
    EvictsSoundly ports envelope currentTurn currentTokens netInputCap watermarkPct state
      ⟨after, .ok result⟩ result := by
  have targeted : result.envelope.targeted = envelope.targeted.map (settled currentTurn) := by
    simp [finished, evictedEnvelope, foldl_evictSegment]
  have young : ∀ {later}, later ≤ currentTurn →
      ∀ segment ∈ result.envelope.targeted, ¬ Old later segment := by
    rw [targeted]
    intro later earlier segment member
    obtain ⟨before, -, rfl⟩ := List.mem_map.mp member
    exact settled_young earlier before
  refine ⟨by rw [finished]; rfl, by rw [finished]; rfl, ?_, fun nothing => absurd nothing something,
    fun _ => ?_, ?_, ?_⟩
  · rw [targeted, List.forall₂_map_right_iff]
    exact List.forall₂_same.mpr fun segment _ => settled_frames currentTurn segment
  · refine ⟨?_, ?_, called⟩
    · rw [targeted, List.forall₂_map_right_iff]
      exact List.forall₂_same.mpr fun segment _ => settled_externalizes currentTurn segment
    · rw [finished, foldl_evictSegment, List.nil_append]
      exact audit_records currentTurn envelope.targeted
  · intro other state
    exact evict_idle other valid (young (Int.le_refl _)) _ state
  · intro _ other _ _ _ _ state earlier valid
    exact evict_idle other valid (young earlier) _ state

/-- The engine touches only what it may, and calls its ports once each where it evicts. -/
theorem evict_sound {envelope : Envelope}
    {currentTurn currentTokens netInputCap watermarkPct : Int} {state : σ}
    {result : EvictionResult} (done : (evict ports envelope currentTurn currentTokens netInputCap
      watermarkPct state).result = .ok result) :
    EvictsSoundly ports envelope currentTurn currentTokens netInputCap watermarkPct state
      (evict ports envelope currentTurn currentTokens netInputCap watermarkPct state) result := by
  generalize ran : evict ports envelope currentTurn currentTokens netInputCap watermarkPct state =
    run at done ⊢
  unfold evict at ran
  split at ran
  · subst ran
    cases done
  · rename_i turn
    split at ran
    · subst ran
      cases done
    · rename_i cap
      have valid : ValidMeasurements currentTurn netInputCap watermarkPct := by
        unfold ValidMeasurements
        omega
      split at ran
      · rename_i below
        subst ran
        cases done
        refine idle_sound ports state fun _ _ => ?_
        unfold evict
        rw [if_neg turn, if_neg cap, if_pos below]
        rfl
      · dsimp only at ran
        split at ran
        · rename_i nothing
          subst ran
          cases done
          exact idle_sound ports state fun other state => evict_idle other valid
            ((audit_eq_nil_iff currentTurn envelope.targeted).mp nothing) _ state
        · rename_i something
          split at ran
          · rename_i hasMeasure hasSink
            split at ran
            · subst ran
              cases done
            · rename_i measures
              split at ran
              · subst ran
                cases done
              · rename_i fits
                rw [Option.eq_some_of_filter_eq_some fits] at measures
                split at ran
                · subst ran
                  cases done
                · rename_i within
                  split at ran
                  · subst ran
                    cases done
                  · rename_i reports
                    subst ran
                    cases done
                    exact evicted_sound ports rfl valid something
                      ⟨_, _, _, _, hasMeasure, hasSink, measures,
                        by simpa using (Option.filter_eq_some_iff.mp fits).2, Int.not_lt.mp within, reports⟩
          · subst ran
            cases done

end Evict

/-! ## One old result -/

namespace Sample

def segment (turn : Nat) : Segment :=
  { kind := .targeted
    content := points "result"
    required := false
    evictable := true
    sourceBody := false
    sourceRef := some (points "src/main.py")
    turnIndex := some turn
    pinned := fun other => absurd rfl other
    named := by decide }

/-- A result of an earlier turn and one of this turn. -/
def envelope : Envelope :=
  { stable := []
    evolving := []
    targeted := [segment 0, segment 2]
    stableKind := by simp
    evolvingKind := by simp
    targetedKind := by simp [segment] }

/-- The tokens measured and the audits taken so far are the state of the ports. -/
def ports : EvictionPorts (List Nat × List (List EvictionAudit)) Empty :=
  { measure := some fun envelope state =>
      (.ok (some envelope.targeted.length), (state.1 ++ [envelope.targeted.length], state.2))
    auditSink := some fun audit state => (.ok (), (state.1, state.2 ++ [audit])) }

theorem old_result_evicted : ∃ result,
    (evict ports envelope 2 90 100 80 ([], [])).result = .ok result ∧ result.audit.length = 1 ∧
      EvictsSoundly ports envelope 2 90 100 80 ([], []) (evict ports envelope 2 90 100 80 ([], []))
        result :=
  ⟨_, rfl, rfl, evict_sound ports rfl⟩

end Sample

end CodeMigrator.Eviction
