import CodeMigrator.Runtime.DraftEvents
import CodeMigrator.Runtime.DraftModels

/-!
# Recording of Draft models

The events of a revision and of a question (`runtime/draft_events.py`) as they are prepared by
the store: which valid models can be recorded. The projection of a revision renames the field
`content` only, and the dump of a rule has the field `source` as well, which the scan forbids.
-/

namespace CodeMigrator
open Lib

/-! ## Revisions -/

theorem entryNames_append (first second : PyEntries) :
    PyValue.entryNames (first ++ second) =
      PyValue.entryNames first ++ PyValue.entryNames second := by
  induction first with
  | nil => rfl
  | cons entry first ih =>
    obtain ⟨key, value⟩ := entry
    cases key <;> simp [PyValue.entryNames, ih]

variable {name : String}

theorem mem_entryNames_publicKey (other : name ≠ "content") {key : PyKey} {value : PyValue}
    (member : key = .str name ∨ name ∈ value.names) :
    name ∈ PyValue.entryNames [(publicKey key, value)] := by
  rcases member with rfl | nested
  · rw [publicKey, if_neg (by simpa using other)]
    simp [PyValue.entryNames]
  · cases publicKey key <;> simp [PyValue.entryNames, nested]

theorem mem_entryNames_cons {key : PyKey} {value : PyValue} {entries : PyEntries}
    (member : name ∈ PyValue.entryNames ((key, value) :: entries)) :
    (key = .str name ∨ name ∈ value.names) ∨ name ∈ PyValue.entryNames entries := by
  cases key with
  | str first =>
    simp only [PyValue.entryNames, List.cons_append, List.mem_cons, List.mem_append] at member
    rcases member with rfl | nested | later
    · exact .inl (.inl rfl)
    · exact .inl (.inr nested)
    · exact .inr later
  | other number =>
    simp only [PyValue.entryNames, List.mem_append] at member
    exact member.imp_left .inr

theorem mem_keptItem {item : PyValue} {items result : List PyValue}
    (done : (projectNestedItems items).map (item :: ·) = some result)
    (again : ∀ {others}, projectNestedItems items = some others →
      name ∈ PyValue.itemNames items → name ∈ PyValue.itemNames others)
    (member : name ∈ PyValue.itemNames (item :: items)) : name ∈ PyValue.itemNames result := by
  rw [Option.map_eq_some_iff] at done
  obtain ⟨others, projected, rfl⟩ := done
  simp only [PyValue.itemNames, List.mem_append] at member ⊢
  exact member.imp_right (again projected)

variable {name : String}

/- The projection of artifact contents keeps every field name except `content`. -/
mutual
theorem mem_entryNames_project (other : name ≠ "content") :
    ∀ {entries projected result : List (PyKey × PyValue)},
    projectArtifactContentNames projected entries = some result →
    name ∈ PyValue.entryNames projected ∨ name ∈ PyValue.entryNames entries →
    name ∈ PyValue.entryNames result
  | [], _, _, done, member => by
      cases done
      simpa [PyValue.entryNames] using member
  | (key, nested) :: entries, projected, _, done, member => by
      simp only [projectArtifactContentNames] at done
      split at done
      · cases done
      · split at done
        · cases done
        · rename_i value projectedValue
          apply mem_entryNames_project other done
          rw [entryNames_append, List.mem_append]
          rcases member with before | here
          · exact .inl (.inl before)
          · rcases mem_entryNames_cons here with first | later
            · refine .inl (.inr (mem_entryNames_publicKey other ?_))
              exact first.imp_right (mem_names_projectNested other projectedValue)
            · exact .inr later
theorem mem_names_projectNested (other : name ≠ "content") {result : PyValue} :
    ∀ {value : PyValue}, projectNested value = some result → name ∈ value.names →
      name ∈ result.names
  | .dict entries, done, member => by
      simp only [projectNested, Option.map_eq_some_iff] at done
      obtain ⟨fields, projected, rfl⟩ := done
      exact mem_entryNames_project other projected (.inr member)
  | .list items, done, member => by
      simp only [projectNested, Option.map_eq_some_iff] at done
      obtain ⟨fields, projected, rfl⟩ := done
      exact mem_itemNames_project other projected member
  | .tuple items, done, member => by
      simp only [projectNested, Option.map_eq_some_iff] at done
      obtain ⟨fields, projected, rfl⟩ := done
      exact mem_itemNames_project other projected member
  | .none, done, member => by cases done; exact member
  | .bool _, done, member => by cases done; exact member
  | .int _, done, member => by cases done; exact member
  | .float _, done, member => by cases done; exact member
  | .str _, done, member => by cases done; exact member
  | .other, done, member => by cases done; exact member
theorem mem_itemNames_project (other : name ≠ "content") {result : List PyValue} :
    ∀ {items : List PyValue}, projectNestedItems items = some result →
      name ∈ PyValue.itemNames items → name ∈ PyValue.itemNames result
  | [], done, member => by cases done; exact member
  | item :: items, done, member => by
      cases item with
      | dict entries =>
        simp only [projectNestedItems] at done
        split at done
        · rename_i fields others projected projectedItems
          cases done
          simp only [PyValue.itemNames, List.mem_append, PyValue.names] at member ⊢
          exact member.imp (fun here => mem_entryNames_project other projected (.inr here))
            (mem_itemNames_project other projectedItems)
        · cases done
      | _ => exact mem_keptItem done (mem_itemNames_project other) member
end

theorem source_mem_rulebook {rulebook : MigrationRulebook} (rules : rulebook.entries ≠ []) :
    "source" ∈ rulebook.dump.names := by
  cases shape : rulebook.entries with
  | nil => exact absurd shape rules
  | cons entry entries =>
    simp [MigrationRulebook.dump, shape, RulebookEntry.dump, PyValue.names, PyValue.entryNames,
      PyValue.itemNames]

theorem source_mem_projectRevision {revision : TaskDraftRevision} {result : PyEntries}
    (rules : revision.artifacts.migrationRulebook.entries ≠ [])
    (done : projectRevision (revisionCreatedEvent revision) = .ok result) :
    "source" ∈ PyValue.entryNames result := by
  obtain ⟨number, artifacts, snapshots, clean, cleanSnapshots, -, artifactsAre, -, -, -, projected,
    -, rfl⟩ := projectRevision_ok done
  have same : artifacts = revisionArtifacts revision.artifacts := by
    simp [revisionCreatedEvent, PyValue.field?, Dict.lookup] at artifactsAre
    exact artifactsAre.symm
  subst same
  -- the rulebook is the first of the artifacts in the order of their names
  simp only [projectArtifacts, artifactNames] at projected
  split at projected
  · cases projected
  · rename_i entry first
    split at projected
    · cases projected
    · rename_i others projectedOthers
      cases projected
      obtain ⟨rulebook, fields, found, contents, rfl⟩ := projectArtifact_ok.mp first
      have dumped : rulebook = [(.str "entries", .list
          (revision.artifacts.migrationRulebook.entries.map (·.dump))),
          (.str "version", .int revision.artifacts.migrationRulebook.version)] := by
        simp [revisionArtifacts, PyValue.field?, Dict.lookup, MigrationRulebook.dump] at found
        exact found.symm
      have member : "source" ∈ PyValue.entryNames fields := by
        apply mem_entryNames_project (by decide) contents
        right
        rw [dumped]
        exact source_mem_rulebook rules
      simp [PyValue.entryNames, PyValue.names, member]

/-- The event of a revision. -/
def revisionCreatedSpec (revision : TaskDraftRevision) : DraftEventSpec :=
  ⟨"session.draft_revision.created", revisionCreatedEvent revision⟩

theorem prepareDraftEvent_rules (codec : EventCodec) {revision : TaskDraftRevision}
    (rules : revision.artifacts.migrationRulebook.entries ≠ []) :
    ∃ message, codec.prepareDraftEvent (revisionCreatedSpec revision) = .error message := by
  have isPublic : (revisionCreatedSpec revision).eventType ∈ publicDraftEvents := by
    simp [revisionCreatedSpec, publicDraftEvents]
  rw [EventCodec.prepareDraftEvent, if_pos isPublic]
  cases done : projectRevision (revisionCreatedEvent revision) with
  | error message =>
    refine ⟨"Draft session event summary is invalid", ?_⟩
    simp [projectDraftPublicEvent, revisionCreatedSpec, done]
  | ok projected =>
    refine ⟨"observation rejected", ?_⟩
    have refused : codec.registry.accepts projected = false :=
      codec.registry.refuses_forbidden (source_mem_projectRevision rules done)
        (by decide)
    simp [projectDraftPublicEvent, revisionCreatedSpec, done, EventCodec.redactDraftPublicEvent,
      EventCodec.redactEventData, refused]

/-! ## Questions -/

/-- The option has a label and an impact to show. -/
def QuestionOption.Readable (option : QuestionOption) : Prop :=
  isBlank option.label.text = false ∧ isBlank option.impact.text = false

instance (option : QuestionOption) : Decidable option.Readable :=
  inferInstanceAs (Decidable (_ ∧ _))

/-- The question has a prompt and two or three options to show. -/
def AskUserQuestion.Readable (question : AskUserQuestion) : Prop :=
  isBlank question.prompt.text = false ∧ question.options.length ≤ 3 ∧
    ∀ option ∈ question.options, option.Readable

instance (question : AskUserQuestion) : Decidable question.Readable :=
  inferInstanceAs (Decidable (_ ∧ _ ∧ _))

theorem projectOption_dump (option : QuestionOption) :
    projectOption option.dump =
      if option.Readable then some ⟨option.key.text, option.recommended, option.dump⟩
      else none := by
  have key := option.key.bounded
  have label := option.label.bounded.2
  have impact := option.impact.bounded.2
  by_cases readable : option.Readable
  · rw [if_pos readable]
    obtain ⟨labelShown, impactShown⟩ := readable
    simp [projectOption, QuestionOption.dump, PyValue.field?, Dict.lookup, key, label, impact,
      labelShown, impactShown]
  · rw [if_neg readable]
    simp only [QuestionOption.Readable, not_and, Bool.not_eq_false] at readable
    simp [projectOption, QuestionOption.dump, PyValue.field?, Dict.lookup, key, label, impact]
    exact readable

variable {options : List QuestionOption} {revisionNumber : Nat}

theorem projectOptions_dump (keys : List String) (count : Nat)
    (fresh : ∀ option ∈ options, option.key.text ∉ keys) (differ : (options.map (·.key.text)).Nodup) :
    projectOptions keys count (options.map (·.dump)) =
      if (∀ option ∈ options, option.Readable) ∧
          count + (options.filter (·.recommended)).length = 1 then some (options.map (·.dump))
      else none := by
  induction options generalizing keys count with
  | nil => simp [projectOptions]
  | cons option options ih =>
    rw [List.map_cons, List.nodup_cons] at differ
    have later : ∀ other ∈ options, other.key.text ∉ option.key.text :: keys := by
      intro other member
      simp only [List.mem_cons, not_or]
      refine ⟨?_, fresh other (List.mem_cons_of_mem _ member)⟩
      intro same
      exact differ.1 (same ▸ List.mem_map_of_mem member)
    rw [List.map_cons, projectOptions, projectOption_dump]
    by_cases readable : option.Readable
    · rw [if_pos readable]
      have absent := fresh option List.mem_cons_self
      have counted : count + option.recommended.toNat + (options.filter (·.recommended)).length =
          count + ((option :: options).filter (·.recommended)).length := by
        cases recommended : option.recommended <;> simp [recommended]
        omega
      simp only [if_neg absent, ih _ _ later differ.2, counted, List.forall_mem_cons]
      by_cases rest : (∀ other ∈ options, other.Readable) ∧
          count + ((option :: options).filter (·.recommended)).length = 1
      · rw [if_pos rest, if_pos ⟨⟨readable, rest.1⟩, rest.2⟩]
        rfl
      · rw [if_neg rest, if_neg (fun all => rest ⟨all.1.2, all.2⟩)]
        rfl
    · rw [if_neg readable, if_neg (fun all => readable (all.1 option List.mem_cons_self))]

theorem projectQuestion_event (question : AskUserQuestion) (counted : 1 ≤ revisionNumber) :
    projectQuestion (questionAskedEvent question revisionNumber) =
      if question.Readable then some (questionAskedEvent question revisionNumber) else none := by
  have canonical : canonicalUuid question.questionId.str = true := by
    simp [canonicalUuid]
  have positive : (0 : Int) < revisionNumber := by omega
  have length := question.prompt.bounded.2
  have several := question.severalOptions
  have options := projectOptions_dump [] 0 (fun option _ => List.not_mem_nil) question.keysDiffer
  simp only [Nat.zero_add, question.oneRecommended, and_true] at options
  simp only [projectQuestion, questionAskedEvent, PyValue.field?, Dict.lookup, PyValue.items?,
    Option.bind_some, if_true, if_false, PyKey.str.injEq, String.reduceEq, List.length_map, canonical,
    positive, length, several, true_and, options]
  by_cases readable : question.Readable
  · obtain ⟨prompt, three, all⟩ := readable
    rw [if_pos ⟨prompt, three⟩, if_pos all, if_pos ⟨prompt, three, all⟩]
    rfl
  · rw [if_neg readable]
    by_cases shown : isBlank question.prompt.text = false ∧ question.options.length ≤ 3
    · have notAll : ¬ ∀ option ∈ question.options, option.Readable :=
        fun all => readable ⟨shown.1, shown.2, all⟩
      rw [if_pos shown, if_neg notAll]
      rfl
    · rw [if_neg shown]

/-- No text of the entries contains a registered secret. -/
def SecretRegistry.NoSecret (registry : SecretRegistry) (entries : PyEntries) : Prop :=
  ∀ text ∈ PyValue.entryTexts entries, registry.containsSecret text = false

theorem scanItems_options (registry : SecretRegistry)
    (clean : ∀ text ∈ PyValue.itemTexts (options.map (·.dump)),
      registry.containsSecret text = false) : registry.scanItems (options.map (·.dump)) = none := by
  induction options with
  | nil => rfl
  | cons option options ih =>
    simp only [List.map_cons, PyValue.itemTexts, List.forall_mem_append] at clean
    rw [List.map_cons, SecretRegistry.scanItems, ih clean.2, Option.or_none]
    have names : isForbidden "key" = false ∧ isForbidden "label" = false ∧
        isForbidden "impact" = false ∧ isForbidden "recommended" = false := by decide
    have texts := clean.1
    simp [QuestionOption.dump, PyValue.texts, PyValue.entryTexts] at texts
    simp [QuestionOption.dump, SecretRegistry.scanValue, SecretRegistry.scanEntries, names, texts]

theorem redact_question (codec : EventCodec) {question : AskUserQuestion}
    (clean : codec.registry.NoSecret (questionAskedEvent question revisionNumber)) :
    (codec.redactDraftPublicEvent "session.question.asked"
      (questionAskedEvent question revisionNumber)).isSome = true := by
  have names : isForbidden "question_id" = false ∧ isForbidden "revision" = false ∧
      isForbidden "options" = false ∧ isForbidden "allow_free_text" = false ∧
      isForbidden "ask_user_text" = false := by decide
  simp only [SecretRegistry.NoSecret, questionAskedEvent, PyValue.entryTexts, PyValue.texts,
    List.forall_mem_append, List.forall_mem_singleton] at clean
  obtain ⟨identity, -, prompt, options, -⟩ := clean
  have scanned := scanItems_options codec.registry options
  simp [EventCodec.redactDraftPublicEvent, questionAskedEvent, PyValue.field?, Dict.lookup,
    EventCodec.redactEventData, SecretRegistry.accepts, SecretRegistry.scanEntries,
    SecretRegistry.scanValue, names, identity, prompt, scanned]

/-- The event of a question. -/
def questionAskedSpec (question : AskUserQuestion) (revisionNumber : Nat) : DraftEventSpec :=
  ⟨"session.question.asked", questionAskedEvent question revisionNumber⟩

theorem prepareDraftEvent_question_iff (codec : EventCodec) {question : AskUserQuestion}
    (counted : 1 ≤ revisionNumber)
    (clean : codec.registry.NoSecret (questionAskedEvent question revisionNumber)) :
    (∃ stored, codec.prepareDraftEvent (questionAskedSpec question revisionNumber) = .ok stored) ↔
      question.Readable := by
  have isPublic : (questionAskedSpec question revisionNumber).eventType ∈ publicDraftEvents := by
    simp [questionAskedSpec, publicDraftEvents]
  have projected := projectQuestion_event question counted
  rw [EventCodec.prepareDraftEvent, if_pos isPublic]
  by_cases readable : question.Readable
  · rw [if_pos readable] at projected
    obtain ⟨redacted, accepted⟩ := Option.isSome_iff_exists.mp (redact_question codec clean)
    refine ⟨fun _ => readable, fun _ => ⟨("session.question.asked", redacted), ?_⟩⟩
    simp [projectDraftPublicEvent, questionAskedSpec, projected, accepted]
  · rw [if_neg readable] at projected
    simp [projectDraftPublicEvent, questionAskedSpec, projected, readable]

/-! ## Facts of a revision -/

/-- A revision with a rule is never recorded, and a question at its number without secrets is
recorded when it is readable. -/
theorem draft_facts_recorded_iff (codec : EventCodec) (revision : TaskDraftRevision)
    (question : AskUserQuestion) (rules : revision.artifacts.migrationRulebook.entries ≠ [])
    (clean : codec.registry.NoSecret (questionAskedEvent question revision.revisionNumber)) :
    ¬ (∃ stored, codec.prepareDraftEvents [revisionCreatedSpec revision] = .ok stored) ∧
      ((∃ stored, codec.prepareDraftEvents
          [questionAskedSpec question revision.revisionNumber] = .ok stored) ↔
        question.Readable) := by
  constructor
  · rintro ⟨stored, done⟩
    obtain ⟨message, refused⟩ := prepareDraftEvent_rules codec rules
    simp [EventCodec.prepareDraftEvents, refused] at done
  · rw [← prepareDraftEvent_question_iff codec revision.numberCounted clean]
    constructor
    · rintro ⟨stored, done⟩
      simp only [EventCodec.prepareDraftEvents] at done
      split at done
      · cases done
      · rename_i prepared accepted
        exact ⟨prepared, accepted⟩
    · rintro ⟨prepared, accepted⟩
      exact ⟨[prepared], by simp only [EventCodec.prepareDraftEvents, accepted]⟩

namespace SampleDraft

/-- A digest. -/
def digest : Sha256 := .ofEmptyObject

/-- A registry without secrets; it computes no digest. -/
def codec : EventCodec where
  registry := ⟨fun _ => digest, []⟩
  render _ := ""
  roundTrip := some

def spec : MigrationSpec where
  schemaName := "codemigrator.migration-spec"
  version := 3
  name := "service"
  description := none
  sourceLanguageId := "go"
  targetLanguageId := "rust"
  descriptorLock := ⟨"1.0.0", digest, digest, digest⟩
  scope := ⟨["src/"], []⟩
  requiredChecks := [⟨.compile, digest⟩, ⟨.test, digest⟩]
  decomposition := none
  schemaNonempty := by decide
  nameSized := by decide
  descriptionSized := rfl
  languageSlugs := by decide
  languagesDiffer := by decide
  scopeNonempty := by decide

/-- The artifacts with the given rules. -/
def artifacts (rules : List RulebookEntry) : DraftArtifacts where
  spec := ⟨spec, "{}", digest⟩
  understandingDossier := ⟨[], [], [], [], [], [], [], .shallow⟩
  targetProjectBlueprint := ⟨[], [], [], [], "", 1⟩
  migrationRulebook := ⟨rules, 1⟩

def rule : RulebookEntry := ⟨"style", "Keep names.", "user", none, true⟩

def snapshot (name : DraftArtifactName) : ArtifactSnapshot :=
  ⟨name, 1, digest, 2, jsonMediaType, Nat.one_pos⟩

def revision (rules : List RulebookEntry) : TaskDraftRevision where
  revisionId := ⟨1⟩
  revisionNumber := 1
  artifacts := artifacts rules
  artifactSnapshots := [snapshot .spec, snapshot .understandingDossier,
    snapshot .targetProjectBlueprint, snapshot .migrationRulebook]
  numberCounted := by decide
  fourSnapshots := rfl
  namesDiffer := by decide

/-- A question with the given label of its first option. -/
def question (label : BoundedText 256) : AskUserQuestion where
  questionId := ⟨2⟩
  revisionId := ⟨1⟩
  prompt := ⟨"Keep the layout?", by decide⟩
  options := [⟨⟨"a", by decide⟩, label, ⟨"none", by decide⟩, true⟩,
    ⟨⟨"b", by decide⟩, ⟨"no", by decide⟩, ⟨"moves files", by decide⟩, false⟩]
  allowFreeText := false
  severalOptions := Nat.le_refl 2
  keysDiffer := (by decide : ["a", "b"].Nodup)
  oneRecommended := rfl

theorem noSecret (entries : PyEntries) : codec.registry.NoSecret entries := fun _ _ => rfl

end SampleDraft

open SampleDraft in
theorem draft_facts_recorded_rule :
    ¬ (∃ stored, codec.prepareDraftEvents [revisionCreatedSpec (revision [rule])] = .ok stored) ∧
      ∃ stored, codec.prepareDraftEvents [questionAskedSpec (question ⟨"yes", by decide⟩) 1] =
        .ok stored := by
  have both := draft_facts_recorded_iff codec (revision [rule]) (question ⟨"yes", by decide⟩)
    (by decide) (noSecret _)
  exact ⟨both.1, both.2.mpr (by decide)⟩

open SampleDraft in
/-- A valid revision with a rule and a valid question with a blank label are refused. -/
theorem valid_draft_facts_refused :
    (revision [rule]).artifacts.migrationRulebook.entries ≠ [] ∧
      codec.registry.NoSecret (revisionCreatedEvent (revision [rule])) ∧
      codec.registry.NoSecret (questionAskedEvent (question ⟨" ", by decide⟩) 1) ∧
      (question ⟨" ", by decide⟩).revisionId = (revision [rule]).revisionId ∧
      (∀ stored, codec.prepareDraftEvents [revisionCreatedSpec (revision [rule])] ≠ .ok stored) ∧
      ∀ stored, codec.prepareDraftEvents [questionAskedSpec (question ⟨" ", by decide⟩) 1] ≠
        .ok stored := by
  have refused := prepareDraftEvent_rules codec (show (revision [rule]).artifacts.migrationRulebook.entries ≠ []
    by decide)
  have blank := prepareDraftEvent_question_iff codec (Nat.le_refl 1)
    (noSecret (questionAskedEvent (question ⟨" ", by decide⟩) 1))
  have unreadable : ¬ (question ⟨" ", by decide⟩).Readable := by decide
  refine ⟨by decide, noSecret _, noSecret _, rfl, ?_, ?_⟩
  · intro stored done
    obtain ⟨message, failed⟩ := refused
    simp [EventCodec.prepareDraftEvents, failed] at done
  · intro stored done
    simp only [EventCodec.prepareDraftEvents] at done
    split at done
    · cases done
    · rename_i prepared accepted
      exact unreadable (blank.mp ⟨prepared, accepted⟩)

end CodeMigrator
