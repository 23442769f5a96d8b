import CodeMigrator.Core.Secrets

/-!
# Public projection of Draft events

`core/draft_event_projection.py`: the allowlisted payloads of the Draft events that the Web
may render. A mapping is the list of its entries; where the source builds one from a set of
names, the entries stand in the order in which the names are written.
-/

namespace CodeMigrator
open Lib

/-- `not text.strip()`. -/
def isBlank (text : String) : Bool := text.toList.all isSpace

/-- `_ARTIFACT_NAMES`, sorted. -/
def artifactNames : List String :=
  ["migration_rulebook", "spec", "target_project_blueprint", "understanding_dossier"]

/-- `_canonical_uuid` of a text. -/
def canonicalUuid (text : String) : Bool := (UUID.parse text).any (fun id => id.str = text)

/-! ## Questions -/

/-- An option of a question: its key, whether it is recommended, and its public fields. -/
structure PublicOption where
  key : String
  recommended : Bool
  fields : PyValue

/-- The checks of one option. -/
def projectOption (option : PyValue) : Option PublicOption :=
  match option with
  | .dict entries =>
    match PyValue.field? entries "key", PyValue.field? entries "label",
        PyValue.field? entries "impact", PyValue.field? entries "recommended" with
    | some (.str key), some (.str label), some (.str impact), some (.bool recommended) =>
      if key ≠ "" ∧ key.length ≤ 64 ∧ isBlank label = false ∧ label.length ≤ 256 ∧
          isBlank impact = false ∧ impact.length ≤ 1024 then
        some ⟨key, recommended, .dict [(.str "key", .str key), (.str "label", .str label),
          (.str "impact", .str impact), (.str "recommended", .bool recommended)]⟩
      else none
    | _, _, _, _ => none
  | _ => none

/-- The loop over the options: their keys differ, and exactly one is recommended. -/
def projectOptions (keys : List String) (recommendedCount : Nat) :
    List PyValue → Option (List PyValue)
  | [] => if recommendedCount = 1 then some [] else none
  | option :: options =>
    match projectOption option with
    | none => none
    | some clean =>
      if clean.key ∈ keys then none
      else
        (projectOptions (clean.key :: keys) (recommendedCount + clean.recommended.toNat)
          options).map (clean.fields :: ·)

/-- The projection of `session.question.asked`. -/
def projectQuestion (data : PyEntries) : Option PyEntries :=
  match PyValue.field? data "question_id", PyValue.field? data "revision",
      PyValue.field? data "prompt", (PyValue.field? data "options").bind PyValue.items?,
      PyValue.field? data "allow_free_text" with
  | some (.str questionId), some (.int revision), some (.str prompt), some options,
      some (.bool allowFreeText) =>
      if canonicalUuid questionId ∧ 0 < revision ∧ isBlank prompt = false ∧ prompt.length ≤ 4096 ∧
          2 ≤ options.length ∧ options.length ≤ 3 then
        (projectOptions [] 0 options).map fun clean =>
          [(.str "question_id", .str questionId), (.str "revision", .int revision),
            (.str "prompt", .str prompt), (.str "options", .list clean),
            (.str "allow_free_text", .bool allowFreeText)]
      else none
  | _, _, _, _, _ => none

/-! ## Revisions -/

/-- `public_key`. -/
def publicKey (key : PyKey) : PyKey := if key = .str "content" then .str "text" else key

mutual
/-- `_project_artifact_content_names` after the entries `projected`; `none` is a collision. -/
def projectArtifactContentNames (projected : List (PyKey × PyValue)) :
    List (PyKey × PyValue) → Option (List (PyKey × PyValue))
  | [] => some projected
  | (key, nested) :: entries =>
    if publicKey key ∈ projected.map Prod.fst then none
    else
      match projectNested nested with
      | none => none
      | some value => projectArtifactContentNames (projected ++ [(publicKey key, value)]) entries
/-- The value of an entry. -/
def projectNested : PyValue → Option PyValue
  | .dict entries => (projectArtifactContentNames [] entries).map .dict
  | .list items => (projectNestedItems items).map .list
  | .tuple items => (projectNestedItems items).map .list
  | .none => some .none
  | .bool value => some (.bool value)
  | .int value => some (.int value)
  | .float value => some (.float value)
  | .str value => some (.str value)
  | .other => some .other
/-- The items of a sequence: only mappings are projected. -/
def projectNestedItems : List PyValue → Option (List PyValue)
  | [] => some []
  | .dict entries :: items =>
    match projectArtifactContentNames [] entries, projectNestedItems items with
    | some fields, some items => some (.dict fields :: items)
    | _, _ => none
  | item :: items => (projectNestedItems items).map (item :: ·)
end

/-- The artifact of a name, projected. -/
def projectArtifact (artifacts : PyEntries) (name : String) : Except String (PyKey × PyValue) :=
  match PyValue.field? artifacts name with
  | some (.dict entries) =>
    match projectArtifactContentNames [] entries with
    | none => .error "Draft artifact event contains colliding public fields"
    | some fields => .ok (.str name, .dict fields)
  | _ => .error "Draft revision event summary is invalid"

/-- The artifacts of the names, projected. -/
def projectArtifacts (artifacts : PyEntries) : List String → Except String PyEntries
  | [] => .ok []
  | name :: names =>
    match projectArtifact artifacts name with
    | .error message => .error message
    | .ok entry =>
      match projectArtifacts artifacts names with
      | .error message => .error message
      | .ok entries => .ok (entry :: entries)

/-- The four artifacts, each a mapping, and nothing else. -/
def hasArtifacts (artifacts : PyEntries) : Bool :=
  artifacts.all (fun entry => artifactNames.any (fun name => entry.1 = .str name)) &&
    artifactNames.all fun name =>
      match PyValue.field? artifacts name with
      | some (.dict _) => true
      | _ => false

/-- A snapshot of an artifact: its name and its public fields. -/
structure PublicSnapshot where
  name : String
  version : Int
  size : Int
  fields : PyValue

/-- The checks of one snapshot. -/
def projectSnapshot (snapshot : PyValue) : Option PublicSnapshot :=
  match snapshot with
  | .dict entries =>
    match PyValue.field? entries "name", PyValue.field? entries "version",
        PyValue.field? entries "sha256", PyValue.field? entries "size",
        PyValue.field? entries "media_type" with
    | some (.str name), some (.int version), some (.str sha256), some (.int size),
        some (.str mediaType) =>
        if name ∈ artifactNames ∧ 0 < version ∧ isSha256 sha256 ∧ 0 ≤ size ∧
            isBlank mediaType = false ∧ mediaType.length ≤ 256 then
          some ⟨name, version, size, .dict [(.str "name", .str name),
            (.str "version", .int version), (.str "sha256", .str sha256),
            (.str "size", .int size), (.str "media_type", .str mediaType)]⟩
        else none
    | _, _, _, _, _ => none
  | _ => none

/-- The loop over the snapshots: their names differ. -/
def projectSnapshots (names : List String) : List PyValue → Option (List PublicSnapshot)
  | [] => some []
  | snapshot :: snapshots =>
    match projectSnapshot snapshot with
    | none => none
    | some clean =>
      if clean.name ∈ names then none
      else (projectSnapshots (clean.name :: names) snapshots).map (clean :: ·)

/-- The projection of `session.draft_revision.created`. Four snapshots whose names differ are
those of the four artifacts. -/
def projectRevision (data : PyEntries) : Except String PyEntries :=
  match PyValue.field? data "revision", PyValue.field? data "artifacts",
      (PyValue.field? data "artifact_snapshots").bind PyValue.items? with
  | some (.int revision), some (.dict artifacts), some snapshots =>
    if 0 < revision ∧ hasArtifacts artifacts ∧ snapshots.length = artifactNames.length then
      match projectArtifacts artifacts artifactNames with
      | .error message => .error message
      | .ok clean =>
        match projectSnapshots [] snapshots with
        | none => .error "Draft revision event summary is invalid"
        | some cleanSnapshots =>
          .ok [(.str "revision", .int revision), (.str "artifacts", .dict clean),
            (.str "artifact_snapshots", .list (cleanSnapshots.map (·.fields)))]
    else .error "Draft revision event summary is invalid"
  | _, _, _ => .error "Draft revision event summary is invalid"

/-- `project_draft_public_event`: `none` when there is no projection for the type, and an
error for its `ValueError`. -/
def projectDraftPublicEvent (eventType : String) (data : PyEntries) :
    Except String (Option PyEntries) :=
  if eventType = "session.question.asked" then
    match projectQuestion data with
    | none => .error "Draft question event summary is invalid"
    | some projected => .ok (some projected)
  else if eventType = "session.draft_revision.created" then
    match projectRevision data with
    | .error message => .error message
    | .ok projected => .ok (some projected)
  else if eventType = "session.draft_revision.confirmation_requested" ∨
      eventType = "session.draft_revision.confirmed" then
    match PyValue.field? data "revision" with
    | some (.int revision) =>
      if 0 < revision then .ok (some [(.str "revision", .int revision)])
      else .error "Draft confirmation event summary is invalid"
    | _ => .error "Draft confirmation event summary is invalid"
  else .ok none

/-! ## A second projection

What has been projected and scanned is projected to itself: the scan leaves no field with the
name that the projection replaces.
-/

theorem publicKey_of_allowed {name : String} (allowed : isForbidden name = false) :
    publicKey (.str name) = .str name := by
  unfold publicKey
  rw [if_neg]
  intro isContent
  cases isContent
  revert allowed
  decide

theorem keepItem {registry : SecretRegistry} {item : PyValue} {items result : List PyValue}
    (keeps : ∀ others, projectNestedItems (item :: others) =
      (projectNestedItems others).map (item :: ·))
    (done : projectNestedItems (item :: items) = some result)
    (accepted : registry.scanItems result = none)
    (again : ∀ {others}, projectNestedItems items = some others →
      registry.scanItems others = none → projectNestedItems others = some others) :
    projectNestedItems result = some result := by
  rw [keeps, Option.map_eq_some_iff] at done
  obtain ⟨others, projected, rfl⟩ := done
  rw [SecretRegistry.scanItems, Option.or_eq_none_iff] at accepted
  rw [keeps, again projected accepted.2]
  rfl

mutual
theorem projectArtifactContentNames_again (registry : SecretRegistry)
    {projected result : List (PyKey × PyValue)} : ∀ {entries : List (PyKey × PyValue)},
    projectArtifactContentNames projected entries = some result → ∃ added,
      result = projected ++ added ∧ (registry.scanEntries added = none →
        projectArtifactContentNames projected added = some result)
  | [], done => by
      simp only [projectArtifactContentNames, Option.some.injEq] at done
      exact ⟨[], by simp [done], fun _ => by simp [projectArtifactContentNames, done]⟩
  | (key, nested) :: entries, done => by
      simp only [projectArtifactContentNames] at done
      split at done
      · cases done
      · rename_i fresh
        split at done
        · cases done
        · rename_i value projectedValue
          obtain ⟨added, rfl, again⟩ := projectArtifactContentNames_again registry done
          refine ⟨(publicKey key, value) :: added, by simp, ?_⟩
          intro accepted
          cases named : publicKey key with
          | other number =>
            rw [named] at accepted
            simp [SecretRegistry.scanEntries] at accepted
          | str name =>
            rw [named] at accepted fresh again
            simp only [SecretRegistry.scanEntries] at accepted
            split at accepted
            · cases accepted
            · rename_i allowed
              rw [Option.or_eq_none_iff] at accepted
              simp only [projectArtifactContentNames,
                publicKey_of_allowed (Bool.eq_false_iff.mpr allowed), if_neg fresh,
                projectNested_again registry projectedValue accepted.1]
              exact again accepted.2
theorem projectNested_again (registry : SecretRegistry) {result : PyValue} :
    ∀ {value : PyValue}, projectNested value = some result →
      registry.scanValue result = none → projectNested result = some result
  | .dict entries, done, accepted => by
      simp only [projectNested, Option.map_eq_some_iff] at done
      obtain ⟨fields, projected, rfl⟩ := done
      obtain ⟨added, same, again⟩ := projectArtifactContentNames_again registry projected
      rw [List.nil_append] at same
      subst same
      simp only [projectNested, Option.map_eq_some_iff]
      exact ⟨fields, again (by simpa [SecretRegistry.scanValue] using accepted), rfl⟩
  | .list items, done, accepted => by
      simp only [projectNested, Option.map_eq_some_iff] at done
      obtain ⟨fields, projected, rfl⟩ := done
      simp only [projectNested, Option.map_eq_some_iff]
      exact ⟨fields, projectNestedItems_again registry projected
        (by simpa [SecretRegistry.scanValue] using accepted), rfl⟩
  | .tuple items, done, accepted => by
      simp only [projectNested, Option.map_eq_some_iff] at done
      obtain ⟨fields, projected, rfl⟩ := done
      simp only [projectNested, Option.map_eq_some_iff]
      exact ⟨fields, projectNestedItems_again registry projected
        (by simpa [SecretRegistry.scanValue] using accepted), rfl⟩
  | .none, done, _ => by cases done; rfl
  | .bool _, done, _ => by cases done; rfl
  | .int _, done, _ => by cases done; rfl
  | .float _, done, _ => by cases done; rfl
  | .str _, done, _ => by cases done; rfl
  | .other, done, _ => by cases done; rfl
theorem projectNestedItems_again (registry : SecretRegistry) {result : List PyValue} :
    ∀ {items : List PyValue}, projectNestedItems items = some result →
      registry.scanItems result = none → projectNestedItems result = some result
  | [], done, _ => by cases done; rfl
  | item :: items, done, accepted => by
      cases item with
      | dict entries =>
        simp only [projectNestedItems] at done
        split at done
        · rename_i fields rest projected projectedRest
          cases done
          rw [SecretRegistry.scanItems, Option.or_eq_none_iff] at accepted
          obtain ⟨added, same, again⟩ := projectArtifactContentNames_again registry projected
          rw [List.nil_append] at same
          subst same
          have first := again (by simpa [SecretRegistry.scanValue] using accepted.1)
          have others := projectNestedItems_again registry projectedRest accepted.2
          simp only [projectNestedItems, first, others]
        · cases done
      | _ => exact keepItem (fun _ => rfl) done accepted (projectNestedItems_again registry)
end

variable {artifacts clean : PyEntries} {names : List String} {registry : SecretRegistry}

theorem projectArtifact_ok {name : String} {entry : PyKey × PyValue} :
    projectArtifact artifacts name = .ok entry ↔ ∃ entries fields,
      PyValue.field? artifacts name = some (.dict entries) ∧
        projectArtifactContentNames [] entries = some fields ∧ entry = (.str name, .dict fields) := by
  unfold projectArtifact
  constructor
  · intro done
    split at done
    · rename_i entries found
      split at done
      · cases done
      · rename_i fields projected
        exact ⟨entries, fields, found, projected, (Except.ok.inj done).symm⟩
    · cases done
  · rintro ⟨entries, fields, found, projected, rfl⟩
    simp only [found, projected]

theorem projectArtifacts_ok :
    projectArtifacts artifacts names = .ok clean ↔
      List.Forall₂ (fun name entry => projectArtifact artifacts name = .ok entry) names clean := by
  induction names generalizing clean with
  | nil =>
    simp only [projectArtifacts, List.forall₂_nil_left_iff]
    exact ⟨fun done => (Except.ok.inj done).symm, fun none => by rw [none]⟩
  | cons name names ih =>
    simp only [projectArtifacts]
    constructor
    · intro done
      split at done
      · cases done
      · rename_i entry first
        split at done
        · cases done
        · rename_i entries others
          cases done
          exact .cons first (ih.mp others)
    · intro each
      cases each with
      | cons first others => simp only [first, ih.mpr others]

theorem projectArtifact_of_mem (done : projectArtifacts artifacts names = .ok clean) {name : String}
    (member : name ∈ names) : ∃ entry ∈ clean, projectArtifact artifacts name = .ok entry := by
  rw [projectArtifacts_ok] at done
  induction done with
  | nil => cases member
  | cons first others ih =>
    rcases List.mem_cons.mp member with rfl | later
    · exact ⟨_, List.mem_cons_self, first⟩
    · obtain ⟨entry, among, projected⟩ := ih later
      exact ⟨entry, List.mem_cons_of_mem _ among, projected⟩

theorem projectArtifacts_shape (done : projectArtifacts artifacts artifactNames = .ok clean) :
    ∃ rulebook spec blueprint dossier, clean =
      [(.str "migration_rulebook", .dict rulebook), (.str "spec", .dict spec),
        (.str "target_project_blueprint", .dict blueprint),
        (.str "understanding_dossier", .dict dossier)] := by
  rw [projectArtifacts_ok] at done
  unfold artifactNames at done
  obtain _ | ⟨first, _ | ⟨second, _ | ⟨third, _ | ⟨fourth, ⟨⟩⟩⟩⟩⟩ := done
  obtain ⟨_, rulebook, -, -, rfl⟩ := projectArtifact_ok.mp first
  obtain ⟨_, spec, -, -, rfl⟩ := projectArtifact_ok.mp second
  obtain ⟨_, blueprint, -, -, rfl⟩ := projectArtifact_ok.mp third
  obtain ⟨_, dossier, -, -, rfl⟩ := projectArtifact_ok.mp fourth
  exact ⟨rulebook, spec, blueprint, dossier, rfl⟩

theorem scanValue_of_mem {entries : PyEntries} {key : PyKey} {value : PyValue}
    (accepted : registry.scanEntries entries = none) (member : (key, value) ∈ entries) :
    registry.scanValue value = none := by
  obtain ⟨-, -, -, inner⟩ :=
    (registry.scanEntries_eq_none_forall entries).mp accepted (key, value) member
  exact inner

theorem projectArtifacts_again (done : projectArtifacts artifacts artifactNames = .ok clean)
    (accepted : registry.scanEntries clean = none) :
    hasArtifacts clean = true ∧ projectArtifacts clean artifactNames = .ok clean := by
  obtain ⟨rulebook, spec, blueprint, dossier, shape⟩ := projectArtifacts_shape done
  have distinct : (clean.map Prod.fst).Nodup := by
    rw [shape]
    simp
  refine ⟨by rw [shape]; rfl, ?_⟩
  rw [projectArtifacts_ok, List.forall₂_iff_zip] at done ⊢
  refine ⟨done.1, ?_⟩
  intro name entry paired
  obtain ⟨entries, fields, -, contents, rfl⟩ := projectArtifact_ok.mp (done.2 paired)
  have member := (List.of_mem_zip paired).2
  -- the name finds its own projected artifact, which the scan has accepted
  refine projectArtifact_ok.mpr ⟨fields, fields, Dict.lookup_of_mem distinct member, ?_, rfl⟩
  obtain ⟨added, same, again⟩ := projectArtifactContentNames_again registry contents
  rw [List.nil_append] at same
  subst same
  have inner := scanValue_of_mem accepted member
  exact again (by simpa [SecretRegistry.scanValue] using inner)

theorem projectSnapshot_again {snapshot : PyValue} {clean : PublicSnapshot}
    (done : projectSnapshot snapshot = some clean) : projectSnapshot clean.fields = some clean := by
  unfold projectSnapshot at done
  split at done
  · split at done
    · split at done
      · rename_i valid
        cases done
        simp [projectSnapshot, PyValue.field?, Dict.lookup, valid]
      · cases done
    · cases done
  · cases done

theorem projectSnapshots_cons {snapshot : PyValue} {snapshots : List PyValue}
    {clean : List PublicSnapshot}
    (done : projectSnapshots names (snapshot :: snapshots) = some clean) :
    ∃ first others, projectSnapshot snapshot = some first ∧ first.name ∉ names ∧
      projectSnapshots (first.name :: names) snapshots = some others ∧ clean = first :: others := by
  simp only [projectSnapshots] at done
  split at done
  · cases done
  · rename_i first projected
    split at done
    · cases done
    · rename_i fresh
      obtain ⟨others, rest, rfl⟩ := Option.map_eq_some_iff.mp done
      exact ⟨first, others, projected, fresh, rest, rfl⟩

theorem projectSnapshots_again {snapshots : List PyValue} {clean : List PublicSnapshot}
    (done : projectSnapshots names snapshots = some clean) :
    projectSnapshots names (clean.map (·.fields)) = some clean := by
  induction snapshots generalizing names clean with
  | nil =>
    cases done
    rfl
  | cons snapshot snapshots ih =>
    obtain ⟨first, others, projected, fresh, rest, rfl⟩ := projectSnapshots_cons done
    simp only [List.map_cons, projectSnapshots, projectSnapshot_again projected, if_neg fresh,
      ih rest, Option.map_some]

theorem projectRevision_ok {data result : PyEntries} (done : projectRevision data = .ok result) :
    ∃ revision artifacts snapshots clean cleanSnapshots,
      PyValue.field? data "revision" = some (.int revision) ∧
      PyValue.field? data "artifacts" = some (.dict artifacts) ∧
      (PyValue.field? data "artifact_snapshots").bind PyValue.items? = some snapshots ∧
      0 < revision ∧ snapshots.length = artifactNames.length ∧
      projectArtifacts artifacts artifactNames = .ok clean ∧
      projectSnapshots [] snapshots = some cleanSnapshots ∧
      result = [(.str "revision", .int revision), (.str "artifacts", .dict clean),
        (.str "artifact_snapshots", .list (cleanSnapshots.map (·.fields)))] := by
  unfold projectRevision at done
  split at done
  · rename_i revision artifacts snapshots revisionIs artifactsAre snapshotsAre
    split at done
    · rename_i valid
      split at done
      · cases done
      · rename_i clean projected
        split at done
        · cases done
        · rename_i cleanSnapshots projectedSnapshots
          exact ⟨revision, artifacts, snapshots, clean, cleanSnapshots, revisionIs, artifactsAre,
            snapshotsAre, valid.1, valid.2.2, projected, projectedSnapshots,
            (Except.ok.inj done).symm⟩
    · cases done
  · cases done

theorem length_projectSnapshots {snapshots : List PyValue} {clean : List PublicSnapshot}
    (done : projectSnapshots names snapshots = some clean) : clean.length = snapshots.length := by
  induction snapshots generalizing names clean with
  | nil =>
    cases done
    rfl
  | cons snapshot snapshots ih =>
    obtain ⟨first, others, -, -, rest, rfl⟩ := projectSnapshots_cons done
    rw [List.length_cons, List.length_cons, ih rest]

theorem projectRevision_again {data result : PyEntries} (done : projectRevision data = .ok result)
    (accepted : registry.scanEntries result = none) : projectRevision result = .ok result := by
  obtain ⟨revision, artifacts, snapshots, clean, cleanSnapshots, -, -, -, positive, four, projected,
    projectedSnapshots, rfl⟩ := projectRevision_ok done
  have inner : registry.scanEntries clean = none := by
    have member : (PyKey.str "artifacts", PyValue.dict clean) ∈
        [(PyKey.str "revision", PyValue.int revision), (.str "artifacts", .dict clean),
          (.str "artifact_snapshots", .list (cleanSnapshots.map (·.fields)))] := by simp
    simpa [SecretRegistry.scanValue] using scanValue_of_mem accepted member
  obtain ⟨complete, again⟩ := projectArtifacts_again projected inner
  have length : (cleanSnapshots.map (·.fields)).length = artifactNames.length := by
    rw [List.length_map, length_projectSnapshots projectedSnapshots, four]
  unfold projectRevision
  simp only [PyValue.field?, Dict.lookup, PyValue.items?, Option.bind_some, if_true, if_false,
    PyKey.str.injEq, String.reduceEq]
  rw [if_pos ⟨positive, complete, length⟩, again, projectSnapshots_again projectedSnapshots]

end CodeMigrator
