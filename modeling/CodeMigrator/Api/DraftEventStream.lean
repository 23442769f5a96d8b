import CodeMigrator.Api.SessionEvents

/-!
# The event stream of a Draft

Whether an event that the store has committed for a Draft can be shown: the envelope of the
API takes its data as they are, and the browser can read questions and revisions. The stream
reads the events in their order, so that one which cannot be shown stops it.
-/

namespace CodeMigrator
open Lib

/-- The event is shown with its data unchanged and read by the browser. -/
def Shown (registry : SecretRegistry) (event : DraftSessionEvent PyEntries) : Prop :=
  (∃ shown, sessionEventFromRecord registry event.eventType event.sequence event.data = .ok shown ∧
    ∀ key, Dict.lookup key shown = Dict.lookup key event.data) ∧
  (event.eventType = "session.question.asked" → (parseQuestion event.data).isSome) ∧
  (event.eventType = "session.draft_revision.created" → (parseDraftRevision event.data).isSome)

/-- The numbers of a snapshot are safe integers. -/
def snapshotFits (snapshot : PyValue) : Bool :=
  match snapshot with
  | .dict entries =>
    match PyValue.field? entries "version", PyValue.field? entries "size" with
    | some (.int version), some (.int size) => isSafeInteger version && isSafeInteger size
    | _, _ => false
  | _ => false

/-- The numbers of a revision are numbers of the browser: safe integers for the revision and
its snapshots, and finite ones in the artifacts. -/
def numbersFit (data : PyEntries) : Bool :=
  match PyValue.field? data "revision", PyValue.field? data "artifacts",
      (PyValue.field? data "artifact_snapshots").bind PyValue.items? with
  | some (.int revision), some (.dict artifacts), some snapshots =>
    isSafeInteger revision &&
      artifactNames.all (fun name => (PyValue.field? artifacts name).any isJsonValue) &&
      snapshots.all snapshotFits
  | _, _, _ => false

/-- The events that can be shown: no question; of a revision its numbers fit, and of an agent
run the ids are canonical texts. -/
def Showable (event : DraftEventSpec) : Prop :=
  event.eventType ≠ "session.question.asked" ∧
    (event.eventType = "session.draft_revision.created" → numbersFit event.data = true) ∧
    (event.eventType ∈ ["agent_run.started", "agent_run.terminal"] →
      canonicalId event.data "agent_run_id" = true ∧
        ((PyValue.field? event.data "slice_id").isSome →
          canonicalId event.data "slice_id" = true))

/-! ## Questions -/

theorem projectQuestion_refused (registry : SecretRegistry) {data projected : PyEntries}
    (done : projectQuestion data = some projected) : registry.accepts projected = false := by
  have forbidden : isForbidden "prompt" = true := by decide
  unfold projectQuestion at done
  split at done
  · split at done
    · rw [Option.map_eq_some_iff] at done
      obtain ⟨options, -, rfl⟩ := done
      exact registry.refuses_forbidden (by simp [PyValue.entryNames]) forbidden
    · cases done
  · cases done

theorem question_refused (registry : SecretRegistry) (sequence : Nat) (data shown : PyEntries) :
    sessionEventFromRecord registry "session.question.asked" sequence data ≠ .ok shown := by
  intro accepted
  unfold sessionEventFromRecord at accepted
  split at accepted
  · cases accepted
  · rename_i fields projected
    have refused : registry.accepts fields = false := by
      unfold projectPublicEventData projectDraftPublicEvent at projected
      rw [if_pos rfl] at projected
      cases asked : projectQuestion data with
      | none =>
        rw [asked] at projected
        cases projected
      | some question =>
        rw [asked] at projected
        cases projected
        exact projectQuestion_refused registry asked
    rw [if_pos refused] at accepted
    cases accepted

/-! ## Revisions -/

theorem areJsonEntries_append (first second : List (PyKey × PyValue)) :
    areJsonEntries (first ++ second) = (areJsonEntries first && areJsonEntries second) := by
  induction first with
  | nil => simp [areJsonEntries]
  | cons entry first ih => simp [areJsonEntries, ih, Bool.and_assoc]

mutual
theorem isJsonValue_projectArtifactContentNames {projected result : List (PyKey × PyValue)} :
    ∀ {entries : List (PyKey × PyValue)},
      projectArtifactContentNames projected entries = some result →
        areJsonEntries result = (areJsonEntries projected && areJsonEntries entries)
  | [], done => by
      cases done
      simp [areJsonEntries]
  | (key, nested) :: entries, done => by
      simp only [projectArtifactContentNames] at done
      split at done
      · cases done
      · split at done
        · cases done
        · rename_i value projectedValue
          rw [isJsonValue_projectArtifactContentNames done, areJsonEntries_append]
          simp [areJsonEntries, isJsonValue_projectNested projectedValue, Bool.and_assoc]
theorem isJsonValue_projectNested {result : PyValue} :
    ∀ {value : PyValue}, projectNested value = some result → isJsonValue result = isJsonValue value
  | .dict entries, done => by
      simp only [projectNested, Option.map_eq_some_iff] at done
      obtain ⟨fields, projected, rfl⟩ := done
      have inner := isJsonValue_projectArtifactContentNames projected
      simpa [isJsonValue, areJsonEntries] using inner
  | .list items, done => by
      simp only [projectNested, Option.map_eq_some_iff] at done
      obtain ⟨fields, projected, rfl⟩ := done
      simpa [isJsonValue] using isJsonValue_projectNestedItems projected
  | .tuple items, done => by
      simp only [projectNested, Option.map_eq_some_iff] at done
      obtain ⟨fields, projected, rfl⟩ := done
      simpa [isJsonValue] using isJsonValue_projectNestedItems projected
  | .none, done => by cases done; rfl
  | .bool _, done => by cases done; rfl
  | .int _, done => by cases done; rfl
  | .float _, done => by cases done; rfl
  | .str _, done => by cases done; rfl
  | .other, done => by cases done; rfl
theorem isJsonValue_projectNestedItems {result : List PyValue} :
    ∀ {items : List PyValue}, projectNestedItems items = some result →
      areJsonItems result = areJsonItems items
  | [], done => by cases done; rfl
  | item :: items, done => by
      cases item with
      | dict entries =>
        simp only [projectNestedItems] at done
        split at done
        · rename_i fields rest projected projectedRest
          cases done
          have inner := isJsonValue_projectArtifactContentNames projected
          simp only [areJsonItems, isJsonValue, isJsonValue_projectNestedItems projectedRest]
          rw [inner]
          simp [areJsonEntries]
        · cases done
      | _ =>
        simp only [projectNestedItems, Option.map_eq_some_iff] at done
        obtain ⟨rest, projectedRest, rfl⟩ := done
        simp only [areJsonItems, isJsonValue_projectNestedItems projectedRest]
end

theorem parseSnapshot_projected {snapshot : PyValue} {clean : PublicSnapshot}
    (done : projectSnapshot snapshot = some clean) :
    (snapshotFits snapshot = true → ∃ parsed, parseSnapshot clean.fields = some parsed ∧
      parsed.name = clean.name) ∧
    (snapshotFits snapshot = false → parseSnapshot clean.fields = none) := by
  unfold projectSnapshot at done
  split at done
  · rename_i entries
    split at done
    · rename_i name version sha256 size mediaType _ versionIs _ sizeIs _
      split at done
      · rename_i valid
        cases done
        have named : mediaType ≠ "" := by
          rintro rfl
          exact absurd valid.2.2.2.2.1 (by decide)
        simp only [snapshotFits, versionIs, sizeIs, Bool.and_eq_true, Bool.and_eq_false_iff]
        constructor
        · rintro ⟨safeVersion, safeSize⟩
          refine ⟨⟨name, version, sha256, size, mediaType⟩, ?_, rfl⟩
          simp [parseSnapshot, PyValue.field?, Dict.lookup, valid, safeVersion, safeSize, named]
        · intro unsafeNumber
          rcases unsafeNumber with version | size
          · simp [parseSnapshot, PyValue.field?, Dict.lookup, version]
          · simp [parseSnapshot, PyValue.field?, Dict.lookup, size]
      · cases done
    · cases done
  · cases done

theorem parseSnapshots_projected {names : List String} {snapshots : List PyValue}
    {clean : List PublicSnapshot} (done : projectSnapshots names snapshots = some clean) :
    (parseSnapshots names (clean.map (·.fields))).isSome = snapshots.all snapshotFits := by
  induction snapshots generalizing names clean with
  | nil =>
    cases done
    rfl
  | cons snapshot snapshots ih =>
    obtain ⟨first, others, projected, fresh, rest, rfl⟩ := projectSnapshots_cons done
    have remaining := ih rest
    obtain ⟨fits, unfit⟩ := parseSnapshot_projected projected
    rw [List.map_cons, List.all_cons]
    cases number : snapshotFits snapshot with
    | false => simp [parseSnapshots, unfit number]
    | true =>
      obtain ⟨parsed, read, named⟩ := fits number
      rw [← named] at fresh remaining
      simp [parseSnapshots, read, fresh, remaining]

theorem isSome_parseArtifacts (artifacts : PyEntries) (names : List String) :
    (parseArtifacts artifacts names).isSome =
      names.all (fun name => (PyValue.field? artifacts name).any isJsonValue) := by
  induction names with
  | nil => rfl
  | cons name names ih =>
    rw [List.all_cons, ← ih, parseArtifacts]
    cases PyValue.field? artifacts name with
    | none => rfl
    | some value =>
      by_cases readable : isJsonValue value = true
      · simp [readable]
      · simp [readable]

theorem parseArtifacts_projected {artifacts clean : PyEntries}
    (done : projectArtifacts artifacts artifactNames = .ok clean) :
    (parseArtifacts clean artifactNames).isSome =
      artifactNames.all (fun name => (PyValue.field? artifacts name).any isJsonValue) := by
  obtain ⟨rulebook, spec, blueprint, dossier, shape⟩ := projectArtifacts_shape done
  have distinct : (clean.map Prod.fst).Nodup := by
    rw [shape]
    simp
  have each : ∀ name ∈ artifactNames, (PyValue.field? clean name).any isJsonValue =
      (PyValue.field? artifacts name).any isJsonValue := by
    intro name member
    obtain ⟨entry, among, projected⟩ := projectArtifact_of_mem done member
    obtain ⟨entries, fields, found, contents, rfl⟩ := projectArtifact_ok.mp projected
    have lookup : PyValue.field? clean name = some (.dict fields) :=
      Dict.lookup_of_mem distinct among
    have inner := isJsonValue_projectArtifactContentNames contents
    rw [lookup, found, Option.any_some, Option.any_some, isJsonValue, isJsonValue, inner]
    simp [areJsonEntries]
  rw [isSome_parseArtifacts]
  apply Bool.eq_iff_iff.mpr
  rw [List.all_eq_true, List.all_eq_true]
  exact forall₂_congr fun name member => by rw [each name member]

variable {data decoded : PyEntries} {sequence : Nat} {stored : String × PyEntries}
  {event : DraftEventSpec}

theorem parseDraftRevision_projected {result : PyEntries} (done : projectRevision data = .ok result) :
    (parseDraftRevision result).isSome = numbersFit data := by
  obtain ⟨revision, artifacts, snapshots, clean, cleanSnapshots, revisionIs, artifactsAre,
    snapshotsAre, positive, four, projected, projectedSnapshots, rfl⟩ := projectRevision_ok done
  have length : (cleanSnapshots.map (·.fields)).length = artifactNames.length := by
    rw [List.length_map, length_projectSnapshots projectedSnapshots, four]
  unfold numbersFit parseDraftRevision
  rw [revisionIs, artifactsAre, snapshotsAre]
  simp only [PyValue.field?, Dict.lookup, PyValue.items?, Option.bind_some, if_true, if_false,
    PyKey.str.injEq, String.reduceEq]
  rw [← parseSnapshots_projected projectedSnapshots]
  have readable := parseArtifacts_projected projected
  unfold PyValue.field? at readable
  rw [← readable]
  by_cases safe : isSafeInteger revision = true
  · rw [if_pos ⟨safe, positive, length⟩, safe, Bool.true_and]
    cases parseArtifacts clean artifactNames with
    | none => rfl
    | some values =>
      cases parseSnapshots [] (cleanSnapshots.map (·.fields)) with
      | none => rfl
      | some parsed => rfl
  · rw [if_neg (fun valid => safe valid.1), Bool.eq_false_iff.mpr safe]
    rfl

/-! ## The envelope -/

theorem sessionEventFromRecord_ok {registry : SecretRegistry} {eventType : String}
    {projected : PyEntries} (first : projectPublicEventData eventType data = .ok projected)
    (again : projectPublicEventData eventType projected = .ok projected)
    (accepted : registry.accepts projected = true) (typed : isBlank eventType = false)
    (positive : 1 ≤ sequence) :
    sessionEventFromRecord registry eventType sequence data = .ok projected := by
  have clean : registry.unregistered.accepts projected = true := by
    rw [SecretRegistry.accepts_iff] at accepted ⊢
    exact accepted.unregistered
  unfold sessionEventFromRecord
  rw [first]
  dsimp only
  rw [if_neg (by rw [accepted]; decide), if_neg (by rw [typed]; decide), if_neg (by omega), again]
  dsimp only
  rw [if_neg (by rw [clean]; decide)]

theorem projectPublicEventData_revision {projected : PyEntries}
    (done : projectRevision data = .ok projected) :
    projectPublicEventData "session.draft_revision.created" data = .ok projected := by
  simp [projectPublicEventData, projectDraftPublicEvent, done]

theorem revision_shown_iff {codec : EventCodec}
    (prepared : codec.prepareDraftEvent ⟨"session.draft_revision.created", data⟩ = .ok stored)
    (positive : 1 ≤ sequence) :
    Shown codec.registry ⟨sequence, stored.1, stored.2⟩ ↔ numbersFit data = true := by
  have isPublic : "session.draft_revision.created" ∈ publicDraftEvents := by simp [publicDraftEvents]
  unfold EventCodec.prepareDraftEvent at prepared
  rw [if_pos isPublic] at prepared
  simp only [projectDraftPublicEvent, String.reduceEq, if_false, if_true] at prepared
  cases projected : projectRevision data with
  | error message =>
    rw [projected] at prepared
    cases prepared
  | ok fields =>
    rw [projected] at prepared
    simp only [EventCodec.redactDraftPublicEvent, EventCodec.redactEventData, ne_eq,
      String.reduceEq, not_false_eq_true, if_true] at prepared
    by_cases accepted : codec.registry.accepts fields = true
    · rw [if_pos accepted] at prepared
      cases prepared
      have scanned : codec.registry.scanEntries fields = none := by
        simpa [SecretRegistry.accepts] using accepted
      have again := projectRevision_again projected scanned
      have shown := sessionEventFromRecord_ok (projectPublicEventData_revision again)
        (projectPublicEventData_revision again) accepted (by decide) positive
      rw [← parseDraftRevision_projected projected]
      constructor
      · rintro ⟨-, -, parsed⟩
        exact parsed rfl
      · intro parsed
        exact ⟨⟨fields, shown, fun _ => rfl⟩, fun asked => by simp at asked, fun _ => parsed⟩
    · rw [if_neg accepted] at prepared
      cases prepared

theorem confirmation_shown {codec : EventCodec}
    (confirms : event.eventType ∈ ["session.draft_revision.confirmation_requested",
      "session.draft_revision.confirmed"]) (prepared : codec.prepareDraftEvent event = .ok stored)
    (positive : 1 ≤ sequence) : Shown codec.registry ⟨sequence, stored.1, stored.2⟩ := by
  obtain ⟨eventType, data⟩ := event
  simp only [List.mem_cons, List.not_mem_nil, or_false] at confirms
  have typed : eventType ∈ publicDraftEvents ∧ eventType ≠ "session.question.asked" ∧
      eventType ≠ "session.draft_revision.created" ∧ isBlank eventType = false := by
    rcases confirms with rfl | rfl
    · decide
    · decide
  obtain ⟨isPublic, notAsked, notCreated, notBlank⟩ := typed
  unfold EventCodec.prepareDraftEvent projectDraftPublicEvent at prepared
  rw [if_pos isPublic, if_neg notAsked, if_neg notCreated, if_pos confirms] at prepared
  have projects : ∀ {revision : Int}, 0 < revision → ∀ {data : PyEntries},
      PyValue.field? data "revision" = some (.int revision) →
      projectPublicEventData eventType data = .ok [(.str "revision", .int revision)] := by
    intro revision above data found
    unfold projectPublicEventData projectDraftPublicEvent
    rw [if_neg notAsked, if_neg notCreated, if_pos confirms, found]
    simp only [above, if_true]
  split at prepared
  · cases prepared
  · cases prepared
  · rename_i projected found
    split at found
    · rename_i revision given
      split at found
      · rename_i above
        cases found
        simp only [EventCodec.redactDraftPublicEvent, EventCodec.redactEventData, if_pos notAsked]
          at prepared
        by_cases accepted : codec.registry.accepts [(.str "revision", .int revision)] = true
        · rw [if_pos accepted] at prepared
          cases prepared
          have again := projects above (PyValue.field?_head "revision" (.int revision) [])
          exact ⟨⟨_, sessionEventFromRecord_ok again again accepted notBlank positive,
            fun _ => rfl⟩, fun asked => absurd asked notAsked, fun created => absurd created notCreated⟩
        · rw [if_neg accepted] at prepared
          cases prepared
      · cases found
    · cases found

/-! ## Events that go through canonical JSON -/

theorem prepareDraftEvent_durable {codec : EventCodec}
    (durable : event.eventType ∉ publicDraftEvents)
    (prepared : codec.prepareDraftEvent event = .ok stored) :
    ∃ fields projected, draftEventFields event.eventType = some fields ∧
      projected = event.data.filter (fun entry => fields.any (fun name => entry.1 = .str name)) ∧
      codec.validDraftEvent event.eventType projected = true ∧
      codec.registry.accepts projected = true ∧ codec.roundTrip projected = some stored.2 ∧
      stored.1 = event.eventType := by
  unfold EventCodec.prepareDraftEvent at prepared
  rw [if_neg durable] at prepared
  split at prepared
  · cases prepared
  · rename_i fields known
    dsimp only at prepared
    split at prepared
    · cases prepared
    · split at prepared
      · cases prepared
      · split at prepared
        · cases prepared
        · rename_i valid
          split at prepared
          · cases prepared
          · rename_i decoded roundTripped
            cases prepared
            obtain ⟨accepted, redacted, back⟩ := Option.bind_eq_some_iff.mp roundTripped
            unfold EventCodec.redactEventData at redacted
            by_cases clean : codec.registry.accepts (event.data.filter
                (fun entry => fields.any (fun name => entry.1 = .str name))) = true
            · rw [if_pos clean] at redacted
              cases redacted
              exact ⟨fields, _, known, rfl, by simpa using valid, clean, back, rfl⟩
            · rw [if_neg clean] at redacted
              cases redacted

theorem EventCodec.Canonical.accepts {codec : EventCodec} (canonical : codec.Canonical)
    (back : codec.roundTrip data = some decoded) (accepted : codec.registry.accepts data = true) :
    codec.registry.accepts decoded = true := by
  rw [SecretRegistry.accepts_iff] at accepted ⊢
  obtain ⟨texts, names, plain⟩ := canonical.parts back
  exact ⟨fun text member => accepted.1 text (texts member),
    fun name member => accepted.2.1 name (names member), plain⟩

theorem field?_filter (data : PyEntries) {fields : List String} {name : String}
    (kept : name ∈ fields) : PyValue.field? (data.filter (fun entry =>
      fields.any (fun field => entry.1 = .str field))) name = PyValue.field? data name := by
  unfold PyValue.field?
  induction data with
  | nil => rfl
  | cons entry data ih =>
    obtain ⟨key, value⟩ := entry
    by_cases own : key = .str name
    · subst own
      have among : fields.any (fun field => PyKey.str name = .str field) = true := by
        simpa using kept
      rw [List.filter_cons, if_pos among, Dict.lookup, Dict.lookup, if_pos rfl, if_pos rfl]
    · by_cases among : fields.any (fun field => key = .str field) = true
      · rw [List.filter_cons, if_pos among, Dict.lookup, Dict.lookup, if_neg own, if_neg own, ih]
      · rw [List.filter_cons, if_neg among, Dict.lookup, if_neg own, ih]

theorem isTextField_roundTrip {codec : EventCodec} (canonical : codec.Canonical)
    (back : codec.roundTrip data = some decoded) (name : String) (valid : String → Bool) :
    isTextField decoded name valid = isTextField data name valid := by
  unfold isTextField
  have texts := canonical.texts back name
  cases first : PyValue.field? data name with
  | none =>
    cases second : PyValue.field? decoded name with
    | none => rfl
    | some value =>
      cases value with
      | str text =>
        have impossible := (texts text).mp second
        rw [first] at impossible
        cases impossible
      | _ => rfl
  | some value =>
    cases value with
    | str text => rw [(texts text).mpr first]
    | _ =>
      cases second : PyValue.field? decoded name with
      | none => rfl
      | some back =>
        cases back with
        | str text =>
          have impossible := (texts text).mp second
          rw [first] at impossible
          cases impossible
        | _ => rfl

theorem plain_shown {codec : EventCodec} (canonical : codec.Canonical)
    (plain : event.eventType ∈ ["session.question.answered", "session.attached_to_run",
      "session.closed"]) (prepared : codec.prepareDraftEvent event = .ok stored)
    (positive : 1 ≤ sequence) : Shown codec.registry ⟨sequence, stored.1, stored.2⟩ := by
  have typed : event.eventType ∉ publicDraftEvents ∧ publicEventFields event.eventType = none ∧
      isBlank event.eventType = false := by
    simp only [List.mem_cons, List.not_mem_nil, or_false] at plain
    rcases plain with isType | isType | isType <;> rw [isType] <;> decide
  obtain ⟨durable, unlisted, notBlank⟩ := typed
  have apart := durable
  simp only [publicDraftEvents, List.mem_cons, List.not_mem_nil, or_false, not_or] at apart
  obtain ⟨-, projected, -, -, -, accepted, back, typeIs⟩ :=
    prepareDraftEvent_durable durable prepared
  have keeps : projectPublicEventData event.eventType stored.2 = .ok stored.2 := by
    simp [projectPublicEventData, projectDraftPublicEvent, apart, unlisted]
  rw [typeIs]
  refine ⟨⟨stored.2, ?_, fun _ => rfl⟩, fun asked => absurd asked apart.1,
    fun created => absurd created apart.2.1⟩
  exact sessionEventFromRecord_ok keeps keeps (canonical.accepts back accepted) notBlank positive

/-! ## Agent runs -/

theorem agentRunExits_eq : agentRunExits.contains = isSessionExit := by
  funext text
  have values : agentRunExits = SessionExit.all.map SessionExit.value := rfl
  apply Bool.eq_iff_iff.mpr
  rw [values, List.contains_iff_mem, List.mem_map, isSessionExit, SessionExit.ofValue,
    List.find?_isSome]
  simp only [beq_iff_eq]

theorem lookup_selected {names : List String}
    (only : ∀ key ∈ data.map Prod.fst, ∃ name ∈ names, key = .str name) (key : PyKey) :
    Dict.lookup key (selectFields data names) = Dict.lookup key data := by
  have absent : ∀ {entries : PyEntries}, key ∉ entries.map Prod.fst →
      Dict.lookup key entries = none := by
    intro entries missing
    by_contra found
    obtain ⟨value, isSome⟩ := Option.ne_none_iff_exists'.mp found
    exact missing (List.mem_map_of_mem (Dict.lookup_some_mem isSome))
  by_cases listed : ∃ name ∈ names, key = .str name
  · obtain ⟨name, member, rfl⟩ := listed
    have selected := lookup_selectFields data names name
    rw [if_pos member] at selected
    exact selected
  · rw [absent, absent]
    · exact fun member => listed (only key member)
    · intro member
      obtain ⟨entry, among, isKey⟩ := List.mem_map.mp member
      obtain ⟨name, named, built⟩ := List.mem_filterMap.mp among
      obtain ⟨value, -, isEntry⟩ := Option.map_eq_some_iff.mp built
      exact listed ⟨name, named, by rw [← isKey, ← isEntry]⟩

theorem validPublicEvent_congr {first second : PyEntries}
    (same : ∀ name, PyValue.field? first name = PyValue.field? second name) (eventType : String) :
    validPublicEvent eventType first = validPublicEvent eventType second := by
  simp only [validPublicEvent, validAgentRun, validGeneration, canonicalId, isTextField, same]

theorem validPublicEvent_prepared {codec : EventCodec} (canonical : codec.Canonical)
    {eventType : String} (agentRun : eventType ∈ ["agent_run.started", "agent_run.terminal"])
    (valid : codec.validDraftEvent eventType data = true)
    (back : codec.roundTrip data = some decoded) :
    validPublicEvent eventType decoded = (canonicalId data "agent_run_id" &&
      (!(PyValue.field? data "slice_id").isSome || canonicalId data "slice_id")) := by
  have typed : eventType ≠ "run.created" ∧ eventType ≠ "run.plan.accepted" ∧
      ¬ (eventType = "integration.completed" ∨ eventType = "verified.advanced") ∧
      startsWith eventType "agent_run." = true := by
    simp only [List.mem_cons, List.not_mem_nil, or_false] at agentRun
    rcases agentRun with rfl | rfl <;> decide
  obtain ⟨notCreated, notAccepted, notSlice, prefixed⟩ := typed
  unfold EventCodec.validDraftEvent at valid
  rw [prefixed, Bool.not_true, Bool.false_or, Bool.and_eq_true, Bool.and_eq_true] at valid
  obtain ⟨⟨enumerations, -⟩, slice⟩ := valid
  have texts := isTextField_roundTrip canonical back
  have fields := canonical.fields back
  have sameRun : validAgentRun agentRunExits.contains eventType decoded = true := by
    rw [← enumerations, agentRunExits_eq]
    simp only [validAgentRun, texts]
  unfold validSlice at slice
  rw [Bool.and_eq_true, beq_iff_eq] at slice
  have generation : (PyValue.field? data "slice_id").isSome = true →
      validGeneration decoded = true := by
    intro sliced
    rw [slice.1] at sliced
    obtain ⟨value, found⟩ := Option.isSome_iff_exists.mp sliced
    have number := slice.2
    rw [found] at number
    cases value with
    | int generation =>
      unfold validGeneration
      rw [canonical.integers back _ _ found]
      exact number
    | _ => cases number
  unfold validPublicEvent
  rw [if_neg notCreated, if_neg notAccepted, if_neg notSlice, sameRun, fields, fields, slice.1]
  simp only [canonicalId, texts, beq_self_eq_true, Bool.and_true, ← slice.1]
  cases sliced : (PyValue.field? data "slice_id").isSome with
  | false => rfl
  | true => rw [generation sliced, Bool.and_true]

theorem agentRun_shown_iff {codec : EventCodec} (canonical : codec.Canonical)
    (agentRun : event.eventType ∈ ["agent_run.started", "agent_run.terminal"])
    (prepared : codec.prepareDraftEvent event = .ok stored) (positive : 1 ≤ sequence) :
    Shown codec.registry ⟨sequence, stored.1, stored.2⟩ ↔
      canonicalId event.data "agent_run_id" = true ∧
        ((PyValue.field? event.data "slice_id").isSome →
          canonicalId event.data "slice_id" = true) := by
  have typed : event.eventType ∉ publicDraftEvents ∧ isBlank event.eventType = false ∧
      draftEventFields event.eventType = publicEventFields event.eventType ∧
      ∀ fields, publicEventFields event.eventType = some fields →
        "agent_run_id" ∈ fields ∧ "slice_id" ∈ fields := by
    simp only [List.mem_cons, List.not_mem_nil, or_false] at agentRun
    rcases agentRun with isType | isType <;> rw [isType] <;> decide
  obtain ⟨durable, notBlank, sameFields, listed⟩ := typed
  have apart := durable
  simp only [publicDraftEvents, List.mem_cons, List.not_mem_nil, or_false, not_or] at apart
  obtain ⟨fields, projected, known, filtered, valid, accepted, back, typeIs⟩ :=
    prepareDraftEvent_durable durable prepared
  rw [sameFields] at known
  obtain ⟨hasRun, hasSlice⟩ := listed fields known
  have only : ∀ key ∈ stored.2.map Prod.fst, ∃ name ∈ fields, key = .str name := by
    intro key member
    have among := canonical.keys back key member
    rw [filtered] at among
    obtain ⟨entry, kept, rfl⟩ := List.mem_map.mp among
    simpa using (List.mem_filter.mp kept).2
  have same := lookup_selected only
  have ids : validPublicEvent event.eventType (selectFields stored.2 fields) =
      (canonicalId event.data "agent_run_id" &&
        (!(PyValue.field? event.data "slice_id").isSome || canonicalId event.data "slice_id")) := by
    rw [validPublicEvent_congr (fun name => same (.str name)),
      validPublicEvent_prepared canonical agentRun valid back]
    simp only [canonicalId, isTextField, filtered, field?_filter event.data hasRun,
      field?_filter event.data hasSlice]
  have condition : validPublicEvent event.eventType (selectFields stored.2 fields) = true ↔
      canonicalId event.data "agent_run_id" = true ∧
        ((PyValue.field? event.data "slice_id").isSome →
          canonicalId event.data "slice_id" = true) := by
    rw [ids]
    cases (PyValue.field? event.data "slice_id").isSome with
    | false => simp
    | true => simp
  have projects : ∀ {data : PyEntries}, selectFields data fields = selectFields stored.2 fields →
      projectPublicEventData event.eventType data =
        if validPublicEvent event.eventType (selectFields stored.2 fields) then
          .ok (selectFields stored.2 fields)
        else if startsWith event.eventType "agent_run." then
          .error "AgentRun event summary is invalid"
        else .error "run event summary is invalid" := by
    intro data selects
    unfold projectPublicEventData projectDraftPublicEvent
    rw [if_neg apart.1, if_neg apart.2.1, if_neg (not_or.mpr apart.2.2)]
    dsimp only
    rw [known]
    dsimp only
    rw [selects]
  rw [← condition, typeIs]
  constructor
  · rintro ⟨⟨shown, isShown, -⟩, -⟩
    by_contra refused
    unfold sessionEventFromRecord at isShown
    rw [projects rfl, if_neg refused] at isShown
    split at isShown
    · cases isShown
    · rename_i isOk
      split at isOk
      · cases isOk
      · cases isOk
  · intro confirmed
    have again : selectFields (selectFields stored.2 fields) fields =
        selectFields stored.2 fields := by
      unfold selectFields
      congr 1
      funext name
      rw [show PyValue.field? (fields.filterMap fun name =>
        (PyValue.field? stored.2 name).map fun value => (.str name, value)) name =
          PyValue.field? stored.2 name from same (.str name)]
    have kept : codec.registry.accepts (selectFields stored.2 fields) = true := by
      refine SecretRegistry.accepts_of_subset ?_ (canonical.accepts back accepted)
      intro entry member
      obtain ⟨name, -, built⟩ := List.mem_filterMap.mp member
      obtain ⟨value, found, rfl⟩ := Option.map_eq_some_iff.mp built
      exact Dict.lookup_some_mem found
    have first := projects (rfl : selectFields stored.2 fields = _)
    have second := projects again
    rw [if_pos confirmed] at first second
    refine ⟨⟨selectFields stored.2 fields, ?_, same⟩, fun asked => absurd asked apart.1,
      fun created => absurd created apart.2.1⟩
    exact sessionEventFromRecord_ok first second kept notBlank positive

theorem shown_iff {codec : EventCodec} (canonical : codec.Canonical)
    (prepared : codec.prepareDraftEvent event = .ok stored) (positive : 1 ≤ sequence) :
    Shown codec.registry ⟨sequence, stored.1, stored.2⟩ ↔ Showable event := by
  have durableType : event.eventType ∉ publicDraftEvents →
      event.eventType ∈ ["session.question.answered", "session.attached_to_run",
        "session.closed"] ∨ event.eventType ∈ ["agent_run.started", "agent_run.terminal"] := by
    intro durable
    obtain ⟨fields, -, known, -⟩ := prepareDraftEvent_durable durable prepared
    have asked : event.eventType ≠ "session.question.asked" := by
      intro isAsked
      exact durable (by simp [isAsked, publicDraftEvents])
    unfold draftEventFields at known
    simp only [List.mem_cons, List.not_mem_nil, or_false]
    split at known
    · tauto
    · split at known
      · tauto
      · split at known
        · tauto
        · split at known
          · tauto
          · split at known
            · tauto
            · cases known
  by_cases asked : event.eventType = "session.question.asked"
  · have typeIs : stored.1 = event.eventType := EventCodec.prepareDraftEvent_type prepared
    constructor
    · rintro ⟨⟨shown, isShown, -⟩, -⟩
      rw [typeIs, asked] at isShown
      exact absurd isShown (question_refused _ _ _ _)
    · intro showable
      exact absurd asked showable.1
  by_cases created : event.eventType = "session.draft_revision.created"
  · obtain ⟨eventType, data⟩ := event
    subst created
    rw [revision_shown_iff prepared positive]
    refine ⟨fun fits => ⟨asked, fun _ => fits, ?_⟩, fun showable => showable.2.1 rfl⟩
    intro agentRun
    have apart : "session.draft_revision.created" ∉ ["agent_run.started", "agent_run.terminal"] := by
      simp
    exact absurd agentRun apart
  by_cases durable : event.eventType ∈ publicDraftEvents
  · have confirms : event.eventType ∈ ["session.draft_revision.confirmation_requested",
        "session.draft_revision.confirmed"] := by
      simpa [publicDraftEvents, asked, created] using durable
    refine iff_of_true (confirmation_shown confirms prepared positive) ⟨asked, fun isCreated =>
      absurd isCreated created, ?_⟩
    intro agentRun
    simp only [List.mem_cons, List.not_mem_nil, or_false] at confirms agentRun
    rcases confirms with isType | isType <;> simp [isType] at agentRun
  rcases durableType durable with plain | agentRun
  · refine iff_of_true (plain_shown canonical plain prepared positive) ⟨asked, fun isCreated =>
      absurd isCreated created, ?_⟩
    intro agentRun
    simp only [List.mem_cons, List.not_mem_nil, or_false] at plain agentRun
    rcases plain with isType | isType | isType <;> simp [isType] at agentRun
  · rw [agentRun_shown_iff canonical agentRun prepared positive]
    exact ⟨fun ids => ⟨asked, fun isCreated => absurd isCreated created, fun _ => ids⟩,
      fun showable => showable.2.2 agentRun⟩

/-! ## Every stored event -/

/-- The codec of the store's Draft facts with this preparation of events. -/
def EventCodec.draftCodec {α φ : Type} (codec : EventCodec) (encode : α → Option (Sha256 × φ)) :
    DraftCodec α (List DraftEventSpec) φ PyEntries :=
  ⟨encode, codec.prepareDraftEvents⟩

namespace DraftStore

variable {α φ : Type}

/-- Every stored event has been prepared from an event of a call. -/
def EventsPrepared (codec : EventCodec) (store : DraftStore φ PyEntries) : Prop :=
  ∀ draftId, ∀ event ∈ store.tables.eventsOf draftId, ∃ spec,
    codec.prepareDraftEvent spec = .ok (event.eventType, event.data)

/-- Every stored event has been prepared, and can be shown exactly when any event is showable that
is prepared to it. -/
def ShownWhenShowable (codec : EventCodec) (store : DraftStore φ PyEntries) : Prop :=
  store.EventsPrepared codec ∧ ∀ draftId, ∀ event ∈ store.tables.eventsOf draftId, ∀ spec,
    codec.prepareDraftEvent spec = .ok (event.eventType, event.data) →
      (Shown codec.registry event ↔ Showable spec)

theorem finish_prepared {codec : EventCodec} {store : DraftStore φ PyEntries} (sound : store.DraftSound)
    (prepared : store.EventsPrepared codec) (committed : Bool) :
    (store.finish committed).EventsPrepared codec := by
  intro draftId event member
  apply prepared draftId event
  unfold finish at member
  cases opened : store.pending with
  | none =>
    rw [opened] at member
    exact member
  | some pending =>
    obtain ⟨key, appended⟩ := pending
    rw [opened] at member
    cases committed with
    | true => exact member
    | false =>
      obtain ⟨earlier, last⟩ := sound.pendingLast key appended opened
      have numbered := sound.numbered key.1
      rw [last] at numbered
      have events := (DraftTables.rollbackDraftFact_spec last numbered).2.2 draftId
      change event ∈ (store.tables.rollbackDraftFact key appended).eventsOf draftId at member
      rw [events] at member
      by_cases same : draftId = key.1
      · rw [if_pos same] at member
        rw [same, last]
        exact List.mem_append_left _ member
      · rw [if_neg same] at member
        exact member

section Steps

variable [DecidableEq φ] {codec : EventCodec} {encode : α → Option (Sha256 × φ)}

theorem commit_prepared {store : DraftStore φ PyEntries} (prepared : store.EventsPrepared codec)
    (call : DraftCall α (List DraftEventSpec)) (inTransaction : Bool) :
    (store.commitDraftOwnerFact (codec.draftCodec encode) call inTransaction).1.EventsPrepared
      codec := by
  obtain ⟨failNext, failure, raised⟩ | ⟨-, waits⟩ | ⟨fact, -, -, -, -, found⟩ |
    ⟨fact, made, -, -, -, -, added⟩ :=
      store.commitDraftOwnerFact_cases (codec.draftCodec encode) call inTransaction
  · rw [raised]
    exact prepared
  · rw [waits]
    exact prepared
  · rw [found]
    exact prepared
  · rw [added]
    intro draftId event member
    change event ∈ (store.tables.insertFact fact).eventsOf draftId at member
    rw [DraftTables.eventsOf_insertFact] at member
    by_cases same : draftId = fact.receipt.draftId
    · rw [if_pos same] at member
      rcases List.mem_append.mp member with old | new
      · exact prepared draftId event old
      · obtain ⟨index, bound, rfl⟩ := List.mem_mapIdx.mp new
        have events := DraftCodec.prepareFact_events made
        obtain ⟨spec, -, done⟩ :=
          EventCodec.mem_prepareDraftEvents events (List.getElem_mem bound)
        exact ⟨spec, done⟩
    · rw [if_neg same] at member
      exact prepared draftId event member

/-- In every history of the store, an event that is stored can be shown exactly when it was
showable. -/
theorem stored_events_shown_iff (codec : EventCodec) (encode : α → Option (Sha256 × φ))
    (canonical : codec.Canonical) (inputs : List (DraftInput α (List DraftEventSpec))) :
    Always (step (codec.draftCodec encode)) (ShownWhenShowable codec) empty inputs := by
  intro earlier rest _
  have keeps : ∀ (store : DraftStore φ PyEntries) (input : DraftInput α (List DraftEventSpec)),
      store.DraftSound ∧ store.EventsPrepared codec →
      (store.step (codec.draftCodec encode) input).DraftSound ∧
        (store.step (codec.draftCodec encode) input).EventsPrepared codec := by
    rintro store input ⟨sound, prepared⟩
    refine ⟨(step_keeps sound input).1, ?_⟩
    cases input with
    | commit call inTransaction => exact commit_prepared prepared call inTransaction
    | finish committed => exact finish_prepared sound prepared committed
    | failNextCommit => exact prepared
  have start : (empty : DraftStore φ PyEntries).DraftSound ∧
      (empty : DraftStore φ PyEntries).EventsPrepared codec :=
    ⟨DraftSound.empty, fun _ _ member => by cases member⟩
  have kept := runFrom_invariant
    (fun store : DraftStore φ PyEntries => store.DraftSound ∧ store.EventsPrepared codec) keeps start
    earlier
  refine ⟨kept.2, fun draftId event member spec prepared => shown_iff canonical prepared ?_⟩
  have numbered := kept.1.numbered draftId
  have sequences : event.sequence ∈ ((runFrom (step (codec.draftCodec encode)) empty
      earlier).tables.eventsOf draftId).map (·.sequence) := List.mem_map_of_mem member
  rw [numbered, List.mem_range'_1] at sequences
  omega

end Steps

end DraftStore

/-! ## A question that stops the stream -/

namespace SampleStream

/-- Canonical JSON of a mapping with one field, which is its own round trip. -/
def codec : EventCodec where
  registry := ⟨fun _ => .zeros, []⟩
  render _ := ""
  roundTrip data := if PyValue.plainEntries data then some data else none

theorem canonical : codec.Canonical := by
  have same : ∀ {data decoded : PyEntries}, codec.roundTrip data = some decoded →
      decoded = data ∧ PyValue.plainEntries data = true := by
    intro data decoded back
    simp only [codec] at back
    split at back
    · rename_i plain
      exact ⟨(Option.some.inj back).symm, plain⟩
    · cases back
  refine ⟨?_, ?_, ?_, ?_, ?_⟩
  · intro data decoded back name
    rw [(same back).1]
  · intro data decoded back name text
    rw [(same back).1]
  · intro data decoded back name number found
    rw [(same back).1, found]
  · intro data decoded back key member
    rw [(same back).1] at member
    exact member
  · intro data decoded back
    obtain ⟨rfl, plain⟩ := same back
    exact ⟨fun _ member => member, fun _ member => member, plain⟩

def option (key : String) (recommended : Bool) : PyValue :=
  .dict [(.str "key", .str key), (.str "label", .str "keep"), (.str "impact", .str "none"),
    (.str "recommended", .bool recommended)]

def question : DraftEventSpec :=
  ⟨"session.question.asked", [(.str "question_id", .str "00000000-0000-0000-0000-000000000001"),
    (.str "revision", .int 1), (.str "prompt", .str "Keep the layout?"),
    (.str "options", .list [option "a" true, option "b" false]),
    (.str "allow_free_text", .bool false)]⟩

def answer : DraftEventSpec :=
  ⟨"session.question.answered",
    [(.str "question_id", .str "00000000-0000-0000-0000-000000000001")]⟩

/-- A fact with an event. -/
def commit (event : DraftEventSpec) : DraftInput Unit (List DraftEventSpec) :=
  .commit ⟨⟨1⟩, "fact", "draft.note", (), [event], none⟩ false

def encode (_ : Unit) : Option (Sha256 × Unit) := some (codec.registry.sha256 "", ())

/-- The store after the fact. -/
def after (event : DraftEventSpec) : DraftStore Unit PyEntries :=
  runFrom (DraftStore.step (codec.draftCodec encode)) .empty [commit event]

end SampleStream

open SampleStream in
theorem stored_events_shown_answer :
    Always (DraftStore.step (codec.draftCodec encode)) (DraftStore.ShownWhenShowable codec) .empty
        [SampleStream.commit answer] ∧
      ((after answer).tables.eventsOf ⟨1⟩).map (·.eventType) = ["session.question.answered"] :=
  ⟨DraftStore.stored_events_shown_iff codec encode canonical [SampleStream.commit answer], by decide⟩

open SampleStream in
/-- A question is committed and cannot be shown. -/
theorem asked_question_not_shown :
    ((after question).tables.eventsOf ⟨1⟩).map (·.eventType) = ["session.question.asked"] ∧
      ¬ ∀ event ∈ (after question).tables.eventsOf ⟨1⟩, Shown codec.registry event := by
  have types : ((after question).tables.eventsOf ⟨1⟩).map (·.eventType) =
      ["session.question.asked"] := by decide
  refine ⟨types, fun shown => ?_⟩
  obtain ⟨event, events, asked⟩ := List.map_eq_singleton_iff.mp types
  obtain ⟨⟨data, isShown, -⟩, -⟩ := shown event (by rw [events]; exact List.mem_singleton_self event)
  rw [asked] at isShown
  exact question_refused _ _ _ _ isShown

end CodeMigrator
