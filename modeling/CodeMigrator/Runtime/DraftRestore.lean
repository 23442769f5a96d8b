import CodeMigrator.Lib.KeyedSort
import CodeMigrator.Lib.Sequence
import CodeMigrator.Runtime.DraftLedger
import CodeMigrator.Runtime.DraftRecording
import Mathlib.Data.String.Basic

/-!
# Restoring the ledger of a Draft

Sequences of operations on a `DraftLedger`, and `DraftLedger.restore` on what a ledger shows of
itself. Every operation that changes the ledger keeps it sound: revisions are numbered from one,
every entry refers to what is there, and a freeze is that of the current revision. A sound ledger
is restored from its facts in whatever order they come.
-/

namespace CodeMigrator
open Lib

/-- An operation on a ledger. -/
inductive DraftOperation where
  | createRevision (artifacts : DraftArtifacts)
  | revise (revisionId : TaskDraftRevisionId) (artifacts : DraftArtifacts)
  | appendQuestion (question : AskUserQuestion)
  | answerQuestion (answer : AskUserAnswer)
  | freeze (revisionId : TaskDraftRevisionId) (answerQuestionIds : Option (List QuestionId))

/-- The values of a list, each under its own id. -/
def setAll {κ α : Type} [DecidableEq κ] (key : α → κ) (values : List α) (d : Dict κ α) : Dict κ α :=
  (values.map fun value => (key value, value)).foldl (fun d pair => d.set pair.1 pair.2) d

variable {κ α : Type}

theorem get?_setAll [DecidableEq κ] (key : α → κ) {values : List α}
    (distinct : (values.map key).Nodup) (query : κ) (value : α) :
    (setAll key values .empty).get? query = some value ↔ value ∈ values ∧ key value = query := by
  have keys : ((values.map fun value => (key value, value)).map Prod.fst).Nodup := by
    simpa [Function.comp_def] using distinct
  rw [Dict.get?_eq_some_iff, setAll, Dict.foldl_set_entries _ _ (by simpa [Dict.empty] using keys)]
  simp only [Dict.empty, List.nil_append, List.mem_map, Prod.mk.injEq]
  constructor
  · rintro ⟨other, member, same, rfl⟩
    exact ⟨member, same⟩
  · rintro ⟨member, same⟩
    exact ⟨value, member, same, rfl⟩

theorem values_perm [DecidableEq κ] {left right : Dict κ α}
    (same : ∀ key, left.get? key = right.get? key) : left.values.Perm right.values := by
  have entries : left.entries.Perm right.entries := by
    rw [List.perm_ext_iff_of_nodup (.of_map _ left.nodup) (.of_map _ right.nodup)]
    rintro ⟨key, value⟩
    rw [← Dict.get?_eq_some_iff, ← Dict.get?_eq_some_iff, same]
  exact entries.map _

theorem map_values_of_keyed [DecidableEq κ] {d : Dict κ α} {key : α → κ}
    (keyed : ∀ {id value}, d.get? id = some value → key value = id) :
    d.values.map key = d.keys := by
  rw [Dict.values, List.map_map]
  apply List.map_congr_left
  rintro ⟨id, value⟩ member
  exact keyed ((Dict.get?_eq_some_iff d id value).mpr member)

theorem mem_values_of_keyed [DecidableEq κ] {d : Dict κ α} {key : α → κ}
    (keyed : ∀ {id value}, d.get? id = some value → key value = id) {value : α} :
    value ∈ d.values ↔ d.get? (key value) = some value := by
  rw [Dict.mem_values_iff]
  constructor
  · rintro ⟨id, found⟩
    rwa [keyed found]
  · exact fun found => ⟨_, found⟩

namespace DraftLedger

/-- The ledger after an accepted operation; `fresh` is what `new_uuid7` would give. -/
def perform (codec : ArtifactCodec) (fresh : TaskDraftRevisionId) (ledger : DraftLedger) :
    DraftOperation → Except DraftError DraftLedger
  | .createRevision artifacts => (ledger.createRevision codec fresh artifacts).map Prod.fst
  | .revise revisionId artifacts => (ledger.revise codec fresh revisionId artifacts).map Prod.fst
  | .appendQuestion question => ledger.appendQuestion question
  | .answerQuestion answer => ledger.answerQuestion answer
  | .freeze revisionId answerQuestionIds => (ledger.freeze revisionId answerQuestionIds).map Prod.fst

/-- The ledger after an operation, accepted or rejected. -/
def step (codec : ArtifactCodec) (ledger : DraftLedger)
    (operation : DraftOperation × TaskDraftRevisionId) : DraftLedger :=
  match ledger.perform codec operation.2 operation.1 with
  | .ok after => after
  | .error _ => ledger

/-- The ledger after a sequence of operations. -/
def run (codec : ArtifactCodec) (operations : List (DraftOperation × TaskDraftRevisionId)) :
    DraftLedger :=
  operations.foldl (step codec) empty

/-- The properties of a ledger. -/
structure Observed where
  currentRevision : Option TaskDraftRevision
  revisions : List TaskDraftRevision
  questions : List AskUserQuestion
  answers : List AskUserAnswer
  freezeReceipt : Option DraftFreezeReceipt
  deriving DecidableEq

def observed (ledger : DraftLedger) : Observed :=
  ⟨ledger.currentRevision, ledger.sortedRevisions, ledger.sortedQuestions, ledger.sortedAnswers,
    ledger.freezeReceipt⟩

/-! ## What an operation can do -/

/-- The ledger with one more revision, the current one. -/
def extend (ledger : DraftLedger) (revision : TaskDraftRevision) : DraftLedger :=
  { ledger with
    revisions := ledger.revisions.set revision.revisionId revision
    currentRevisionId := some revision.revisionId }

/-- The receipt is a freeze of the current revision with all its questions, each answered. -/
structure FrozenAt (ledger : DraftLedger) (receipt : DraftFreezeReceipt)
    (revision : TaskDraftRevision) (selectedIds : List QuestionId) : Prop where
  current : ledger.currentRevision = some revision
  differ : selectedIds.Nodup
  every : ∀ questionId, questionId ∈ selectedIds ↔
    questionId ∈ ledger.currentQuestionIds revision.revisionId
  answered : ∀ questionId ∈ selectedIds, (ledger.answers.get? questionId).isSome = true
  receipt : freezeReceiptOf revision selectedIds = some receipt

/-- The changes of an unfrozen ledger. -/
inductive Changes (codec : ArtifactCodec) (fresh : TaskDraftRevisionId) (ledger : DraftLedger) :
    DraftLedger → Prop where
  | revision (revision) (named : revision.revisionId = fresh)
      (next : revision.revisionNumber =
        (ledger.currentRevision.map (·.revisionNumber)).getD 0 + 1)
      (taken : codec.snapshots revision.artifacts revision.revisionNumber revision.numberCounted =
        some revision.artifactSnapshots) : Changes codec fresh ledger (ledger.extend revision)
  | question (question) (current) (isCurrent : ledger.currentRevision = some current)
      (bound : current.revisionId = question.revisionId)
      (absent : ledger.questions.get? question.questionId = none) :
      Changes codec fresh ledger
        { ledger with questions := ledger.questions.set question.questionId question }
  | answer (answer) (question) (found : ledger.questions.get? answer.questionId = some question)
      (bound : answer.revisionId = question.revisionId)
      (chosen : validateAnswerChoice question answer = .ok ()) :
      Changes codec fresh ledger
        { ledger with answers := ledger.answers.set answer.questionId answer }
  | freeze (receipt) (revision) (selectedIds)
      (frozen : ledger.FrozenAt receipt revision selectedIds) :
      Changes codec fresh ledger { ledger with freezeReceipt := some receipt }

variable {codec : ArtifactCodec} {fresh : TaskDraftRevisionId} {ledger : DraftLedger}
  {result : DraftLedger × TaskDraftRevision} {revisions : List TaskDraftRevision}
  {restored : DraftLedger}

theorem requireCurrentRevision_ok {revisionId : TaskDraftRevisionId} {revision : TaskDraftRevision}
    (current : ledger.requireCurrentRevision revisionId = .ok revision) :
    ledger.currentRevision = some revision ∧ revision.revisionId = revisionId := by
  unfold requireCurrentRevision at current
  split at current
  · rename_i found
    split at current
    · cases current
      exact ⟨found, ‹_›⟩
    · cases current
  · cases current

theorem newRevision_ok {artifacts : DraftArtifacts} {revisionNumber : Nat}
    {counted : 1 ≤ revisionNumber}
    (made : ledger.newRevision codec fresh artifacts revisionNumber counted = .ok result) :
    ledger.freezeReceipt = none ∧ result.1 = ledger.extend result.2 ∧
      result.2.revisionId = fresh ∧ result.2.revisionNumber = revisionNumber ∧
      codec.snapshots result.2.artifacts result.2.revisionNumber result.2.numberCounted =
        some result.2.artifactSnapshots := by
  unfold newRevision at made
  split at made
  · cases made
  · rename_i unfrozen
    split at made
    · cases made
    · rename_i revision done
      cases made
      obtain ⟨named, numbered, rfl, taken⟩ := ArtifactCodec.revisionOf_spec done
      subst numbered
      exact ⟨Option.not_isSome_iff_eq_none.mp unfrozen, rfl, named, rfl, taken⟩

theorem revise_ok {revisionId : TaskDraftRevisionId} {artifacts : DraftArtifacts}
    (done : ledger.revise codec fresh revisionId artifacts = .ok result) :
    result.1 = ledger ∨ ledger.freezeReceipt = none ∧ Changes codec fresh ledger result.1 := by
  unfold revise at done
  split at done
  · cases done
  · rename_i current isCurrent
    split at done
    · cases done
    · split at done
      · cases done
      · split at done
        · cases done
          exact .inl rfl
        · obtain ⟨unfrozen, extended, named, numbered, taken⟩ := newRevision_ok done
          rw [extended]
          refine .inr ⟨unfrozen, .revision result.2 named ?_ taken⟩
          rw [(requireCurrentRevision_ok isCurrent).1]
          exact numbered

theorem freeze_ok {revisionId : TaskDraftRevisionId} {answerQuestionIds : Option (List QuestionId)}
    {result : DraftLedger × DraftFreezeReceipt}
    (done : ledger.freeze revisionId answerQuestionIds = .ok result) :
    result.1 = ledger ∨ ledger.freezeReceipt = none ∧ Changes codec fresh ledger result.1 := by
  unfold freeze at done
  split at done
  · cases done
  · rename_i revision isCurrent
    obtain ⟨current, rfl⟩ := requireCurrentRevision_ok isCurrent
    split at done
    · split at done
      · cases done
        exact .inl rfl
      · cases done
    · rename_i unfrozen
      dsimp only at done
      split at done
      · cases done
      · rename_i differ
        split at done
        · cases done
        · rename_i every
          split at done
          · cases done
          · rename_i answered
            split at done
            · cases done
            · rename_i receipt made
              cases done
              rw [not_not] at differ every
              refine .inr ⟨unfrozen, .freeze receipt revision _
                ⟨current, differ, fun questionId => ?_, ?_, made⟩⟩
              · exact ⟨fun member => List.mem_dedup.mp (every.1 member),
                  fun member => every.2 (List.mem_dedup.mpr member)⟩
              · simpa [Option.isSome_iff_ne_none] using answered

theorem perform_ok {operation : DraftOperation} {after : DraftLedger}
    (done : ledger.perform codec fresh operation = .ok after) :
    after = ledger ∨ ledger.freezeReceipt = none ∧ Changes codec fresh ledger after := by
  cases operation with
  | createRevision artifacts =>
    obtain ⟨result, created, rfl⟩ := except_map_eq_ok done
    unfold createRevision at created
    split at created
    · rename_i noCurrent
      obtain ⟨unfrozen, extended, named, numbered, taken⟩ := newRevision_ok created
      rw [extended]
      refine .inr ⟨unfrozen, .revision result.2 named ?_ taken⟩
      rw [noCurrent]
      exact numbered
    · exact revise_ok created
  | revise revisionId artifacts =>
    obtain ⟨result, revised, rfl⟩ := except_map_eq_ok done
    exact revise_ok revised
  | appendQuestion question =>
    simp only [perform, appendQuestion] at done
    split at done
    · cases done
    · rename_i current isCurrent
      obtain ⟨found, bound⟩ := requireCurrentRevision_ok isCurrent
      split at done
      · split at done
        · cases done
          exact .inl rfl
        · cases done
      · rename_i absent
        split at done
        · cases done
        · rename_i unfrozen
          cases done
          exact .inr ⟨Option.not_isSome_iff_eq_none.mp unfrozen,
            .question question current found bound absent⟩
  | answerQuestion answer =>
    simp only [perform, answerQuestion] at done
    split at done
    · cases done
    · split at done
      · cases done
      · rename_i question found
        split at done
        · cases done
        · rename_i bound
          split at done
          · cases done
          · rename_i chosen
            split at done
            · split at done
              · cases done
                exact .inl rfl
              · cases done
            · split at done
              · cases done
              · rename_i unfrozen
                cases done
                exact .inr ⟨Option.not_isSome_iff_eq_none.mp unfrozen,
                  .answer answer question found (not_ne_iff.mp bound).symm chosen⟩
  | freeze revisionId answerQuestionIds =>
    obtain ⟨result, frozen, rfl⟩ := except_map_eq_ok done
    exact freeze_ok frozen

/-! ## Sound ledgers -/

/-- A ledger in which every entry is under its own id: revisions are numbered from one in the order
of the ledger, questions and answers refer to what is there, and a freeze is that of the current
revision. -/
structure Sound (codec : ArtifactCodec) (ledger : DraftLedger) : Prop where
  revisionKeyed : ∀ entry ∈ ledger.revisions.entries, entry.2.revisionId = entry.1
  snapshots : ∀ entry ∈ ledger.revisions.entries, codec.snapshots entry.2.artifacts
    entry.2.revisionNumber entry.2.numberCounted = some entry.2.artifactSnapshots
  numbered : ledger.revisions.values.map (·.revisionNumber) =
    List.range' 1 ledger.revisions.entries.length
  current : ledger.currentRevisionId = ledger.revisions.keys.getLast?
  question : ∀ {questionId question}, ledger.questions.get? questionId = some question →
    question.questionId = questionId ∧ (ledger.revisions.get? question.revisionId).isSome = true
  answer : ∀ {questionId answer}, ledger.answers.get? questionId = some answer →
    answer.questionId = questionId ∧ ∃ question, ledger.questions.get? questionId = some question ∧
      answer.revisionId = question.revisionId ∧ validateAnswerChoice question answer = .ok ()
  frozen : ∀ {receipt}, ledger.freezeReceipt = some receipt →
    ∃ revision selectedIds, ledger.FrozenAt receipt revision selectedIds

theorem empty_sound : empty.Sound codec := by
  constructor <;> simp [empty, Dict.empty, Dict.get?, Dict.lookup, Dict.values, Dict.keys]

theorem Sound.count (sound : ledger.Sound codec) :
    (ledger.currentRevision.map (·.revisionNumber)).getD 0 = ledger.revisions.entries.length := by
  have numbered := sound.numbered
  unfold currentRevision
  rw [sound.current, Dict.keys, List.getLast?_map]
  cases last : ledger.revisions.entries.getLast? with
  | none => simp [List.getLast?_eq_none_iff.mp last]
  | some entry =>
    have held := (Dict.get?_eq_some_iff ledger.revisions entry.1 entry.2).mpr
      (List.mem_of_getLast? last)
    have number : (ledger.revisions.values.map (·.revisionNumber)).getLast? =
        some entry.2.revisionNumber := by
      rw [Dict.values, List.map_map, List.getLast?_map, last]
      rfl
    have positive : ledger.revisions.entries.length ≠ 0 := by
      intro none
      rw [List.length_eq_zero_iff.mp none] at last
      cases last
    rw [numbered, List.getLast?_range', if_neg positive] at number
    simp [held]
    have := Option.some.inj number
    omega

theorem Sound.extend (sound : ledger.Sound codec) (unfrozen : ledger.freezeReceipt = none)
    {revision : TaskDraftRevision}
    (fresh : ledger.revisions.get? revision.revisionId = none)
    (next : revision.revisionNumber = ledger.revisions.entries.length + 1)
    (taken : codec.snapshots revision.artifacts revision.revisionNumber revision.numberCounted =
      some revision.artifactSnapshots) : (ledger.extend revision).Sound codec := by
  have entries : (ledger.extend revision).revisions.entries =
      ledger.revisions.entries ++ [(revision.revisionId, revision)] :=
    Dict.set_entries_of_absent fresh revision
  constructor
  · rw [entries]
    intro entry member
    rcases List.mem_append.mp member with earlier | last
    · exact sound.revisionKeyed entry earlier
    · cases List.mem_singleton.mp last
      rfl
  · rw [entries]
    intro entry member
    rcases List.mem_append.mp member with earlier | last
    · exact sound.snapshots entry earlier
    · cases List.mem_singleton.mp last
      exact taken
  · have numbered := sound.numbered
    rw [Dict.values, List.map_map] at numbered ⊢
    rw [entries, List.map_append, numbered, List.length_append, List.length_singleton,
      List.range'_concat]
    simp [next, Nat.add_comm]
  · rw [Dict.keys, entries]
    simp [DraftLedger.extend]
  · intro questionId question held
    obtain ⟨keyed, known⟩ := sound.question held
    refine ⟨keyed, ?_⟩
    change ((ledger.revisions.set revision.revisionId revision).get? question.revisionId).isSome =
      true
    rw [Dict.get?_set]
    split
    · rfl
    · exact known
  · exact sound.answer
  · intro receipt found
    cases unfrozen.symm.trans found

theorem Changes.sound {after : DraftLedger} (change : Changes codec fresh ledger after)
    (unfrozen : ledger.freezeReceipt = none) (sound : ledger.Sound codec)
    (unused : ledger.revisions.get? fresh = none) : after.Sound codec := by
  cases change with
  | revision revision named next taken =>
    exact sound.extend unfrozen (named ▸ unused) (next.trans (by rw [sound.count])) taken
  | question question current isCurrent bound absent =>
    refine { sound with question := ?_, answer := ?_, frozen := fun held => nomatch unfrozen.symm.trans held }
    · intro questionId other held
      change (ledger.questions.set question.questionId question).get? questionId = some other at held
      rw [Dict.get?_set] at held
      split at held
      · cases held
        refine ⟨Eq.symm ‹_›, ?_⟩
        unfold currentRevision at isCurrent
        obtain ⟨revisionId, -, found⟩ := Option.bind_eq_some_iff.mp isCurrent
        have keyed := sound.revisionKeyed _ ((Dict.get?_eq_some_iff _ _ _).mp found)
        rw [← bound, show current.revisionId = revisionId from keyed, found]
        rfl
      · exact sound.question held
    · intro questionId answer held
      obtain ⟨keyed, other, found, fits⟩ := sound.answer held
      refine ⟨keyed, other, ?_, fits⟩
      change (ledger.questions.set question.questionId question).get? questionId = some other
      rw [Dict.get?_set, if_neg, found]
      rintro rfl
      cases absent.symm.trans found
  | answer answer question found bound chosen =>
    refine { sound with answer := ?_, frozen := fun held => nomatch unfrozen.symm.trans held }
    intro questionId other held
    change (ledger.answers.set answer.questionId answer).get? questionId = some other at held
    rw [Dict.get?_set] at held
    split at held
    · rename_i same
      cases held
      subst same
      exact ⟨rfl, question, found, bound, chosen⟩
    · exact sound.answer held
  | freeze receipt revision selectedIds frozen =>
    refine { sound with frozen := ?_ }
    intro other found
    cases found
    exact ⟨revision, selectedIds, ⟨frozen.current, frozen.differ, frozen.every, frozen.answered,
      frozen.receipt⟩⟩

/-! ## Restoring -/

theorem restoreRevisions_ok {pending : List TaskDraftRevision}
    (snapshots : ∀ revision ∈ pending, codec.snapshots revision.artifacts revision.revisionNumber
      revision.numberCounted = some revision.artifactSnapshots)
    (numbered : pending.map (·.revisionNumber) =
      List.range' (ledger.revisions.entries.length + 1) pending.length)
    (distinct : (ledger.revisions.keys ++ pending.map (·.revisionId)).Nodup)
    (current : ledger.currentRevisionId = ledger.revisions.keys.getLast?) :
    ∃ restored, restoreRevisions codec (ledger.revisions.entries.length + 1) ledger pending =
        .ok restored ∧
      restored.revisions.entries =
        ledger.revisions.entries ++ pending.map (fun revision => (revision.revisionId, revision)) ∧
      restored.currentRevisionId = restored.revisions.keys.getLast? ∧
      restored.questions = ledger.questions ∧ restored.answers = ledger.answers ∧
      restored.freezeReceipt = ledger.freezeReceipt := by
  induction pending generalizing ledger with
  | nil => exact ⟨ledger, rfl, by simp, current, rfl, rfl, rfl⟩
  | cons revision pending ih =>
      rw [List.map_cons, List.length_cons, List.range'_succ, List.cons.injEq] at numbered
      have absent : ledger.revisions.get? revision.revisionId = none := by
        rw [Option.eq_none_iff_forall_ne_some]
        intro other found
        have member := (Dict.mem_keys_iff _ _).mpr ⟨other, found⟩
        exact (List.nodup_append.mp distinct).2.2 _ member _ (by simp) rfl
      have entries := Dict.set_entries_of_absent absent revision
      have keys : (ledger.revisions.set revision.revisionId revision).keys =
          ledger.revisions.keys ++ [revision.revisionId] := by
        rw [Dict.keys, entries, List.map_append]
        rfl
      have length : (ledger.revisions.set revision.revisionId revision).entries.length =
          ledger.revisions.entries.length + 1 := by
        rw [entries, List.length_append, List.length_singleton]
      obtain ⟨restored, done, all, last, questions, answers, freeze⟩ :=
        @ih { ledger with
            revisions := ledger.revisions.set revision.revisionId revision
            currentRevisionId := some revision.revisionId }
          (fun other member => snapshots other (List.mem_cons_of_mem _ member))
          (by rw [length]; exact numbered.2)
          (by rw [keys]; simpa using distinct)
          (by rw [keys]; simp)
      refine ⟨restored, ?_, ?_, last, questions, answers, freeze⟩
      · rw [length] at done
        rw [restoreRevisions, if_neg (by simpa using numbered.1), if_neg (by simp [absent]),
          snapshots revision List.mem_cons_self]
        simpa using done
      · rw [all, entries]
        simp

theorem restoreQuestions_ok {pending : List AskUserQuestion}
    (known : ∀ question ∈ pending, (ledger.revisions.get? question.revisionId).isSome = true)
    (fresh : ∀ question ∈ pending, ledger.questions.get? question.questionId = none)
    (distinct : (pending.map (·.questionId)).Nodup) :
    restoreQuestions ledger pending = .ok { ledger with
      questions := setAll (·.questionId) pending ledger.questions } := by
  induction pending generalizing ledger with
  | nil => rfl
  | cons question pending ih =>
      rw [List.map_cons, List.nodup_cons] at distinct
      have knownHere := known question List.mem_cons_self
      have later : ∀ other ∈ pending,
          (ledger.questions.set question.questionId question).get? other.questionId = none := by
        intro other member
        rw [Dict.get?_set, if_neg]
        · exact fresh other (List.mem_cons_of_mem _ member)
        · intro same
          exact distinct.1 (same ▸ List.mem_map_of_mem member)
      rw [restoreQuestions, if_neg (by simpa using Option.isSome_iff_ne_none.mp knownHere),
        if_neg (by simp [fresh question List.mem_cons_self]),
        @ih { ledger with questions := ledger.questions.set question.questionId question }
          (fun other member => known other (List.mem_cons_of_mem _ member)) later distinct.2]
      rfl

theorem restoreAnswers_ok {pending : List AskUserAnswer}
    (fits : ∀ answer ∈ pending, ∃ question,
      ledger.questions.get? answer.questionId = some question ∧
        answer.revisionId = question.revisionId ∧ validateAnswerChoice question answer = .ok ())
    (fresh : ∀ answer ∈ pending, ledger.answers.get? answer.questionId = none)
    (distinct : (pending.map (·.questionId)).Nodup) :
    restoreAnswers ledger pending = .ok { ledger with
      answers := setAll (·.questionId) pending ledger.answers } := by
  induction pending generalizing ledger with
  | nil => rfl
  | cons answer pending ih =>
      rw [List.map_cons, List.nodup_cons] at distinct
      obtain ⟨question, found, bound, chosen⟩ := fits answer List.mem_cons_self
      have later : ∀ other ∈ pending,
          (ledger.answers.set answer.questionId answer).get? other.questionId = none := by
        intro other member
        rw [Dict.get?_set, if_neg]
        · exact fresh other (List.mem_cons_of_mem _ member)
        · intro same
          exact distinct.1 (same ▸ List.mem_map_of_mem member)
      rw [restoreAnswers, found]
      dsimp only
      rw [if_neg (by simp [fresh answer List.mem_cons_self]), if_neg (by simpa using bound), chosen]
      dsimp only
      rw [@ih { ledger with answers := ledger.answers.set answer.questionId answer }
        (fun other member => fits other (List.mem_cons_of_mem _ member)) later distinct.2]
      rfl

/-- The same revisions, questions and answers. -/
structure Agrees (restored ledger : DraftLedger) : Prop where
  revisions : restored.revisions = ledger.revisions
  current : restored.currentRevisionId = ledger.currentRevisionId
  questions : ∀ questionId, restored.questions.get? questionId = ledger.questions.get? questionId
  answers : ∀ questionId, restored.answers.get? questionId = ledger.answers.get? questionId

theorem Sound.sorted_eq (sound : ledger.Sound codec) (same : revisions.Perm ledger.revisions.values) :
    revisions.insertionSort (fun left right => left.revisionNumber ≤ right.revisionNumber) =
      ledger.revisions.values := by
  have numbers : (ledger.revisions.values.map (·.revisionNumber)).Pairwise (· < ·) := by
    rw [sound.numbered]
    exact List.pairwise_lt_range'
  have increasing := List.pairwise_map.mp numbers
  rw [insertionSort_eq_of_perm (·.revisionNumber) (fun _ _ => Iff.rfl) same]
  · exact (increasing.imp Nat.le_of_lt).insertionSort_eq
  · intro left isLeft right isRight equal
    have distinct := numbers.imp (fun {_ _} => Nat.ne_of_lt)
    exact List.inj_on_of_nodup_map distinct (same.mem_iff.mp isLeft) (same.mem_iff.mp isRight) equal

theorem Sound.restore_facts (sound : ledger.Sound codec) {questions : List AskUserQuestion}
    {answers : List AskUserAnswer} (sameRevisions : revisions.Perm ledger.revisions.values)
    (sameQuestions : questions.Perm ledger.questions.values)
    (sameAnswers : answers.Perm ledger.answers.values) :
    ∃ restored, restored.Agrees ledger ∧ restored.freezeReceipt = none ∧
      ∀ receipt, restore codec revisions questions answers receipt =
        restoreFreeze restored receipt := by
  have questionKeyed : ∀ {id question}, ledger.questions.get? id = some question →
      question.questionId = id := fun found => (sound.question found).1
  have answerKeyed : ∀ {id answer}, ledger.answers.get? id = some answer →
      answer.questionId = id := fun found => (sound.answer found).1
  have isQuestion : ∀ question, question ∈ questions ↔
      ledger.questions.get? question.questionId = some question :=
    fun question => sameQuestions.mem_iff.trans (mem_values_of_keyed questionKeyed)
  have isAnswer : ∀ answer, answer ∈ answers ↔
      ledger.answers.get? answer.questionId = some answer :=
    fun answer => sameAnswers.mem_iff.trans (mem_values_of_keyed answerKeyed)
  have questionsDiffer : (questions.map (·.questionId)).Nodup := by
    rw [(sameQuestions.map _).nodup_iff, map_values_of_keyed questionKeyed]
    exact ledger.questions.nodup
  have answersDiffer : (answers.map (·.questionId)).Nodup := by
    rw [(sameAnswers.map _).nodup_iff, map_values_of_keyed answerKeyed]
    exact ledger.answers.nodup
  have pairs : ledger.revisions.values.map (fun revision => (revision.revisionId, revision)) =
      ledger.revisions.entries := by
    rw [Dict.values, List.map_map]
    conv_rhs => rw [← List.map_id ledger.revisions.entries]
    apply List.map_congr_left
    intro entry member
    exact Prod.ext (sound.revisionKeyed entry member) rfl
  have ids : ledger.revisions.values.map (·.revisionId) = ledger.revisions.keys := by
    rw [Dict.keys, ← pairs, List.map_map]
    rfl
  obtain ⟨first, done, entries, last, noQuestions, noAnswers, noFreeze⟩ :=
    @restoreRevisions_ok codec empty ledger.revisions.values
      (by
        intro revision member
        obtain ⟨entry, among, rfl⟩ := List.mem_map.mp member
        exact sound.snapshots entry among)
      (by simpa [empty, Dict.empty, Dict.values] using sound.numbered)
      (by
        rw [ids]
        exact ledger.revisions.nodup)
      rfl
  have sameDict : first.revisions = ledger.revisions := by
    cases shape : first.revisions
    cases shape' : ledger.revisions
    rw [pairs, shape, shape'] at entries
    simpa [empty, Dict.empty] using entries
  have known : ∀ question ∈ questions, (first.revisions.get? question.revisionId).isSome = true := by
    intro question member
    rw [sameDict]
    exact (sound.question ((isQuestion question).mp member)).2
  have asked := restoreQuestions_ok known (fun _ _ => by rw [noQuestions]; rfl) questionsDiffer
  rw [noQuestions, show empty.questions = Dict.empty from rfl] at asked
  have found : ∀ questionId question,
      (setAll (·.questionId) questions .empty).get? questionId = some question ↔
        ledger.questions.get? questionId = some question := by
    intro questionId question
    rw [get?_setAll _ questionsDiffer, isQuestion]
    constructor
    · rintro ⟨held, rfl⟩
      exact held
    · intro held
      exact ⟨by rw [questionKeyed held]; exact held, questionKeyed held⟩
  have answered := @restoreAnswers_ok
    { first with questions := setAll (·.questionId) questions .empty } answers
    (by
      intro answer member
      obtain ⟨-, question, held, fits⟩ := sound.answer ((isAnswer answer).mp member)
      exact ⟨question, (found _ _).mpr held, fits⟩)
    (fun _ _ => by rw [noAnswers]; rfl) answersDiffer
  rw [noAnswers, show empty.answers = Dict.empty from rfl] at answered
  refine ⟨{ first with
      questions := setAll (·.questionId) questions .empty
      answers := setAll (·.questionId) answers .empty },
    ⟨sameDict, ?_, fun questionId => Option.ext (found questionId), ?_⟩, noFreeze, fun receipt => ?_⟩
  · rw [sound.current, ← sameDict]
    exact last
  · intro questionId
    apply Option.ext
    intro answer
    rw [get?_setAll _ answersDiffer, isAnswer]
    constructor
    · rintro ⟨held, rfl⟩
      exact held
    · intro held
      exact ⟨by rw [answerKeyed held]; exact held, answerKeyed held⟩
  · rw [restore, sound.sorted_eq sameRevisions]
    rw [show (1 : Nat) = empty.revisions.entries.length + 1 from rfl, done]
    dsimp only
    rw [asked]
    dsimp only
    rw [noAnswers, show empty.answers = Dict.empty from rfl, answered]

theorem Agrees.currentRevision (agrees : restored.Agrees ledger) :
    restored.currentRevision = ledger.currentRevision := by
  unfold DraftLedger.currentRevision
  rw [agrees.revisions, agrees.current]

theorem mem_currentQuestionIds {questionId : QuestionId} {revisionId : TaskDraftRevisionId}
    (keyed : ∀ {id question}, ledger.questions.get? id = some question → question.questionId = id) :
    questionId ∈ ledger.currentQuestionIds revisionId ↔
      ∃ question, ledger.questions.get? questionId = some question ∧
        question.revisionId = revisionId := by
  simp only [currentQuestionIds, List.mem_map, List.mem_filter, decide_eq_true_eq,
    mem_values_of_keyed keyed]
  constructor
  · rintro ⟨question, ⟨found, bound⟩, rfl⟩
    exact ⟨question, found, bound⟩
  · rintro ⟨question, found, bound⟩
    exact ⟨question, ⟨by rwa [keyed found], bound⟩, keyed found⟩

theorem freezeReceiptOf_sorted {revision : TaskDraftRevision} {selectedIds : List QuestionId}
    {receipt : DraftFreezeReceipt} (made : freezeReceiptOf revision selectedIds = some receipt) :
    receipt.revisionId = revision.revisionId ∧ receipt.answerQuestionIds.Perm selectedIds ∧
      freezeReceiptOf revision receipt.answerQuestionIds = some receipt := by
  have sorted : (selectedIds.insertionSort fun left right => pathLe left.str right.str).insertionSort
      (fun left right => pathLe left.str right.str) =
        selectedIds.insertionSort fun left right => pathLe left.str right.str :=
    insertionSort_eq_of_perm (fun id : QuestionId => id.str) (fun _ _ => not_lt)
      (List.perm_insertionSort _ selectedIds) fun _ _ _ _ => UUID.str_injective
  unfold freezeReceiptOf at made ⊢
  split at made
  · cases made
    exact ⟨rfl, List.perm_insertionSort _ selectedIds, by simp only [*]⟩
  · cases made

theorem restoreFreeze_ok (sound : ledger.Sound codec) (agrees : restored.Agrees ledger)
    (unfrozen : restored.freezeReceipt = none) :
    restoreFreeze restored ledger.freezeReceipt =
      .ok { restored with freezeReceipt := ledger.freezeReceipt } := by
  cases frozen : ledger.freezeReceipt with
  | none =>
    rw [restoreFreeze, ← unfrozen]
  | some receipt =>
    obtain ⟨revision, selectedIds, current, differ, every, answered, made⟩ := sound.frozen frozen
    obtain ⟨named, ids, again⟩ := freezeReceiptOf_sorted made
    have require : restored.requireCurrentRevision receipt.revisionId = .ok revision := by
      rw [requireCurrentRevision, agrees.currentRevision, current, named]
      exact if_pos rfl
    have keyed : ∀ {id question}, ledger.questions.get? id = some question →
        question.questionId = id := fun found => (sound.question found).1
    have expected : ∀ questionId, questionId ∈ receipt.answerQuestionIds ↔
        questionId ∈ (restored.currentQuestionIds receipt.revisionId).dedup := by
      intro questionId
      rw [ids.mem_iff, every, List.mem_dedup, named, mem_currentQuestionIds keyed,
        mem_currentQuestionIds fun found => keyed ((agrees.questions _).symm.trans found)]
      simp only [agrees.questions]
    have complete : (receipt.answerQuestionIds.any fun questionId =>
        (restored.answers.get? questionId).isNone) = false := by
      rw [List.any_eq_false]
      intro questionId member
      rw [agrees.answers]
      simpa [Option.isSome_iff_ne_none] using answered questionId (ids.mem_iff.mp member)
    have froze : restored.freeze receipt.revisionId (some receipt.answerQuestionIds) =
        .ok ({ restored with freezeReceipt := some receipt }, receipt) := by
      simp only [freeze, require, unfrozen, Option.getD_some]
      rw [if_neg (not_not_intro (ids.nodup_iff.mpr differ)), if_neg (not_not_intro
        ⟨fun _ => (expected _).mp, fun _ => (expected _).mpr⟩), complete]
      simp [again]
    simp [restoreFreeze, froze]

theorem Agrees.observed (sound : ledger.Sound codec) (agrees : restored.Agrees ledger)
    (freeze : restored.freezeReceipt = ledger.freezeReceipt) :
    restored.observed = ledger.observed := by
  have byText : ∀ {α : Type} {left right : Dict QuestionId α} (key : α → QuestionId),
      (∀ id, left.get? id = right.get? id) →
      (∀ {id value}, right.get? id = some value → key value = id) →
      left.values.insertionSort (fun a b => pathLe (key a).str (key b).str) =
        right.values.insertionSort (fun a b => pathLe (key a).str (key b).str) := by
    intro α left right key same keyed
    refine insertionSort_eq_of_perm (fun value => (key value).str) (fun _ _ => not_lt)
      (values_perm same) ?_
    intro a isA b isB equal
    have found : ∀ {value}, value ∈ left.values → right.get? (key value) = some value :=
      fun member => (mem_values_of_keyed keyed).mp ((values_perm same).mem_iff.mp member)
    have first := found isA
    rw [UUID.str_injective equal, found isB] at first
    exact (Option.some.inj first).symm
  unfold DraftLedger.observed
  rw [agrees.currentRevision, freeze, sortedRevisions, sortedRevisions, agrees.revisions,
    show restored.sortedQuestions = ledger.sortedQuestions from
      byText _ agrees.questions fun found => (sound.question found).1,
    show restored.sortedAnswers = ledger.sortedAnswers from
      byText _ agrees.answers fun found => (sound.answer found).1]

/-! ## Runs -/

theorem step_sound (operation : DraftOperation) (sound : ledger.Sound codec)
    (unused : ledger.revisions.get? fresh = none) :
    (ledger.step codec (operation, fresh)).Sound codec ∧ ∀ id,
      ((ledger.step codec (operation, fresh)).revisions.get? id).isSome = true →
        id = fresh ∨ (ledger.revisions.get? id).isSome = true := by
  unfold step
  split
  · rename_i after done
    rcases perform_ok done with rfl | ⟨unfrozen, change⟩
    · exact ⟨sound, fun _ => .inr⟩
    · refine ⟨change.sound unfrozen sound unused, ?_⟩
      cases change with
      | revision revision named =>
        intro id known
        change ((ledger.revisions.set revision.revisionId revision).get? id).isSome = true at known
        rw [Dict.get?_set] at known
        split at known
        · rename_i same
          exact .inl (same.trans named)
        · exact .inr known
      | _ => exact fun _ => .inr
  · exact ⟨sound, fun _ => .inr⟩

theorem foldl_step_sound (operations : List (DraftOperation × TaskDraftRevisionId))
    (sound : ledger.Sound codec) (distinct : (operations.map Prod.snd).Nodup)
    (unused : ∀ id ∈ operations.map Prod.snd, ledger.revisions.get? id = none) :
    (operations.foldl (step codec) ledger).Sound codec := by
  induction operations generalizing ledger with
  | nil => exact sound
  | cons operation operations ih =>
    obtain ⟨operation, fresh⟩ := operation
    rw [List.map_cons, List.nodup_cons] at distinct
    obtain ⟨next, known⟩ := step_sound operation sound (unused fresh (by simp))
    refine ih next distinct.2 ?_
    intro id later
    by_contra present
    rcases known id (Option.isSome_iff_ne_none.mpr present) with rfl | earlier
    · exact distinct.1 later
    · rw [unused id (List.mem_cons_of_mem _ later)] at earlier
      cases earlier

/-- The receipt names the current revision and exactly its questions, which are all answered. -/
def FreezesCurrent (ledger : DraftLedger) (receipt : DraftFreezeReceipt) : Prop :=
  ∃ revision, ledger.currentRevision = some revision ∧ receipt.revisionId = revision.revisionId ∧
    (∀ id, id ∈ receipt.answerQuestionIds ↔ ∃ question ∈ ledger.sortedQuestions,
      question.questionId = id ∧ question.revisionId = revision.revisionId) ∧
    ∀ id ∈ receipt.answerQuestionIds, ∃ answer ∈ ledger.sortedAnswers, answer.questionId = id

/-- A ledger that is restored from its facts in any order, with its revisions numbered from one and
a freeze of the current revision, after which nothing changes. -/
structure Restorable (codec : ArtifactCodec) (ledger : DraftLedger) : Prop where
  restored : ∀ revisions questions answers, revisions.Perm ledger.sortedRevisions →
    questions.Perm ledger.sortedQuestions → answers.Perm ledger.sortedAnswers →
    ∃ restored, restore codec revisions questions answers ledger.freezeReceipt = .ok restored ∧
      restored.observed = ledger.observed
  numbered : ledger.sortedRevisions.map (·.revisionNumber) =
    List.range' 1 ledger.sortedRevisions.length
  freezes : ∀ receipt, ledger.freezeReceipt = some receipt → ledger.FreezesCurrent receipt
  final : ledger.freezeReceipt ≠ none → ∀ operation, ledger.step codec operation = ledger

theorem Sound.restorable (sound : ledger.Sound codec) : ledger.Restorable codec := by
  constructor
  · intro revisions questions answers sameRevisions sameQuestions sameAnswers
    obtain ⟨restored, agrees, unfrozen, restores⟩ := sound.restore_facts
      (sameRevisions.trans (List.perm_insertionSort _ _))
      (sameQuestions.trans (List.perm_insertionSort _ _))
      (sameAnswers.trans (List.perm_insertionSort _ _))
    refine ⟨{ restored with freezeReceipt := ledger.freezeReceipt }, ?_, ?_⟩
    · rw [restores, restoreFreeze_ok sound agrees unfrozen]
    · exact Agrees.observed sound ⟨agrees.revisions, agrees.current, agrees.questions,
        agrees.answers⟩ rfl
  · rw [sortedRevisions, sound.sorted_eq (.refl _), sound.numbered, Dict.values, List.length_map]
  · intro receipt frozen
    obtain ⟨revision, selectedIds, current, -, every, answered, made⟩ := sound.frozen frozen
    obtain ⟨named, ids, -⟩ := freezeReceiptOf_sorted made
    have keyed : ∀ {id question}, ledger.questions.get? id = some question →
        question.questionId = id := fun found => (sound.question found).1
    refine ⟨revision, current, named, fun id => ?_, fun id member => ?_⟩
    · rw [ids.mem_iff, every, mem_currentQuestionIds keyed]
      simp only [sortedQuestions, List.mem_insertionSort, mem_values_of_keyed keyed]
      constructor
      · rintro ⟨question, found, bound⟩
        exact ⟨question, by rwa [keyed found], keyed found, bound⟩
      · rintro ⟨question, found, rfl, bound⟩
        exact ⟨question, found, bound⟩
    · obtain ⟨answer, found⟩ := Option.isSome_iff_exists.mp (answered id (ids.mem_iff.mp member))
      refine ⟨answer, ?_, (sound.answer found).1⟩
      rw [sortedAnswers, List.mem_insertionSort, Dict.mem_values_iff]
      exact ⟨id, found⟩
  · intro frozen operation
    unfold step
    split
    · rename_i after done
      rcases perform_ok done with rfl | ⟨unfrozen, -⟩
      · rfl
      · exact absurd unfrozen frozen
    · rfl

/-- Whatever the operations on a ledger were, it is restored from its facts. -/
theorem run_restorable (codec : ArtifactCodec)
    (operations : List (DraftOperation × TaskDraftRevisionId))
    (distinct : (operations.map Prod.snd).Nodup) : (run codec operations).Restorable codec :=
  (foldl_step_sound operations empty_sound distinct fun _ _ => rfl).restorable

end DraftLedger

namespace SampleDraft

/-- A codec for which all documents are empty. -/
def emptyCodec : ArtifactCodec := ⟨fun _ => digest, fun _ => some "\x7b\x7d"⟩

theorem key_bounded : "a" ≠ "" ∧ "a".length ≤ 64 := by decide

def answer : AskUserAnswer := ⟨⟨2⟩, ⟨1⟩, some ⟨"a", key_bounded⟩, none, by decide⟩

/-- A Draft with one question, frozen after its answer, and an attempt to revise it then. -/
def operations : List (DraftOperation × TaskDraftRevisionId) :=
  [(.createRevision (artifacts []), ⟨1⟩), (.appendQuestion (question ⟨"yes", by decide⟩), ⟨3⟩),
    (.freeze ⟨1⟩ none, ⟨4⟩), (.answerQuestion answer, ⟨5⟩), (.freeze ⟨1⟩ none, ⟨6⟩),
    (.revise ⟨1⟩ (artifacts [rule]), ⟨7⟩)]

theorem frozen_draft_restorable :
    ((DraftLedger.run emptyCodec operations).freezeReceipt.map (·.answerQuestionIds)) =
        some [⟨2⟩] ∧
      (DraftLedger.run emptyCodec operations).Restorable emptyCodec :=
  ⟨by decide +kernel, DraftLedger.run_restorable emptyCodec operations (by decide)⟩

end SampleDraft

end CodeMigrator
