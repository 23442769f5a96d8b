import Mathlib.Data.String.Basic
import CodeMigrator.Lib.KeyedSort
import CodeMigrator.Lib.PyValue
import CodeMigrator.Runtime.Advice

/-!
# What the hash of an advice binds

`_json_safe` and `advice_proposal_hash` of `runtime/advice.py` over payloads of any nested values.
The items of every sequence are sorted by their canonical bytes, those of a list too: the hash
stands for the identity of the advice and for its payload up to the order of items. The encoder
`dumps` and the digest are parameters.
-/

namespace CodeMigrator
open Lib

/-! ## Payloads -/

/-- The key of a dictionary: a text, or another value with its `str`. -/
inductive PayloadKey where
  | text (name : String)
  | other (name : String)
  deriving DecidableEq

/-- `str(key)`. -/
def PayloadKey.str : PayloadKey → String
  | text name => name
  | other name => name

/-- A value of a payload. An enumeration member has its `str` and its `value`, and may be a text
itself; `other` stands for everything that JSON does not know. -/
inductive PayloadValue where
  | none
  | bool (value : Bool)
  | int (value : Int)
  | float (value : PyFloat)
  | str (value : String)
  | uuid (id : UUID)
  | enum (isText : Bool) (label : String) (value : PayloadValue)
  | list (items : List PayloadValue)
  | tuple (items : List PayloadValue)
  | set (items : List PayloadValue)
  | frozenset (items : List PayloadValue)
  | dict (entries : List (PayloadKey × PayloadValue))
  | other

/-- `AdviceKind` values. -/
def AdviceKind.value : AdviceKind → String
  | exploreReassignment => "EXPLORE_REASSIGNMENT"
  | repairDecision => "REPAIR_DECISION"
  | routeSuggestion => "ROUTE_SUGGESTION"
  | planRevision => "PLAN_REVISION"
  | askUser => "ASK_USER"

/-- `ResidentRole` values. -/
def ResidentRole.value : ResidentRole → String
  | exploreCoordinator => "EXPLORE_COORDINATOR"
  | executeSupervisor => "EXECUTE_SUPERVISOR"

/-- `Advice` (`core/models/advice.py`) with a payload of any values. -/
structure ObjectAdvice where
  adviceId : UUID
  kind : AdviceKind
  runId : UUID
  role : ResidentRole
  payload : Dict String PayloadValue
  proposalHash : String

/-- A dictionary with texts as keys. -/
def PayloadValue.ofFields (fields : List (String × PayloadValue)) : PayloadValue :=
  .dict (fields.map fun field => (.text field.1, field.2))

section Encoder

variable {β : Type} [LinearOrder β] (dumps : PayloadValue → Option β) (sha256 : β → String)

/-- `sorted(items, key=canonical_json_bytes)`; `none` is the exception of a key. -/
def sortItems (items : List PayloadValue) : Option PayloadValue :=
  (items.mapM fun item => (dumps item).map fun bytes => (bytes, item)).map fun keyed =>
    .list (sortKeyed keyed)

mutual
/-- `_json_safe`. -/
def jsonSafe : PayloadValue → Option PayloadValue
  | .uuid id => some (.str id.str)
  | .enum _ _ value => some value
  | .dict entries => (safeEntries entries).map fun safe => .ofFields (Dict.ofPairs safe).entries
  | .list items => (safeItems items).bind (sortItems dumps)
  | .tuple items => (safeItems items).bind (sortItems dumps)
  | .set items => (safeItems items).bind (sortItems dumps)
  | .frozenset items => (safeItems items).bind (sortItems dumps)
  | value => some value
/-- `[_json_safe(item) for item in value]`. -/
def safeItems : List PayloadValue → Option (List PayloadValue)
  | [] => some []
  | item :: rest => do
    let item ← jsonSafe item
    let rest ← safeItems rest
    return item :: rest
/-- `(str(key), _json_safe(item))` of each entry. -/
def safeEntries : List (PayloadKey × PayloadValue) → Option (List (String × PayloadValue))
  | [] => some []
  | (key, item) :: rest => do
    let item ← jsonSafe item
    let rest ← safeEntries rest
    return (key.str, item) :: rest
end

/-- `canonical` of `advice_proposal_hash`. -/
def canonicalProposal (advice : ObjectAdvice) (payload : PayloadValue) : PayloadValue :=
  .ofFields [("advice_id", .str advice.adviceId.str), ("kind", .str advice.kind.value),
    ("run_id", .str advice.runId.str), ("role", .str advice.role.value), ("payload", payload)]

/-- `advice_proposal_hash`; `none` is an exception. -/
def adviceProposalHash (advice : ObjectAdvice) : Option String := do
  let payload ← jsonSafe dumps (.ofFields advice.payload.entries)
  let bytes ← dumps (canonicalProposal advice payload)
  return sha256 bytes

end Encoder

/-! ## JSON values -/

/-- Fields that all have a value. -/
def namedFields (fields : List (String × Option Json)) : Option (List (String × Json)) :=
  fields.mapM fun field => field.2.map fun value => (field.1, value)

mutual
/-- The JSON value of a payload value: a number by its value, the fields of an object in the order of
their keys. The items of a set stand in the order in which it is gone through. -/
def jsonValue : PayloadValue → Option Json
  | .none => some .null
  | .bool value => some (.bool value)
  | .int value => some (.float value)
  | .float (.finite value) => some (.float value)
  | .float _ => none
  | .str value => some (.str value)
  | .uuid id => some (.str id.str)
  | .enum _ _ value => jsonValue value
  | .list items => (jsonItems items).map .arr
  | .tuple items => (jsonItems items).map .arr
  | .set items => (jsonItems items).map .arr
  | .frozenset items => (jsonItems items).map .arr
  | .dict entries =>
    (namedFields (Dict.ofPairs (jsonEntries entries)).entries).map fun fields =>
      .obj (fields.insertionSort fun left right => left.1 ≤ right.1)
  | .other => none
/-- The JSON values of items. -/
def jsonItems : List PayloadValue → Option (List Json)
  | [] => some []
  | item :: rest => do
    let item ← jsonValue item
    let rest ← jsonItems rest
    return item :: rest
/-- The JSON values beside the texts of the keys. -/
def jsonEntries : List (PayloadKey × PayloadValue) → List (String × Option Json)
  | [] => []
  | (key, item) :: rest => (key.str, jsonValue item) :: jsonEntries rest
end

/-- One value becomes the other by reordering the items of arrays, at any depth. -/
inductive Reordered : Json → Json → Prop
  | refl (value : Json) : Reordered value value
  | trans {first second third : Json} (before : Reordered first second)
    (behind : Reordered second third) : Reordered first third
  | items {left right : List Json} (perm : left.Perm right) : Reordered (.arr left) (.arr right)
  | item {before behind : List Json} {left right : Json} (inner : Reordered left right) :
    Reordered (.arr (before ++ left :: behind)) (.arr (before ++ right :: behind))
  | field {before behind : List (String × Json)} {key : String} {left right : Json}
    (inner : Reordered left right) :
    Reordered (.obj (before ++ (key, left) :: behind)) (.obj (before ++ (key, right) :: behind))

/-- The encoder writes JSON values only, and different values differently. -/
structure EncodesJson {β : Type} (dumps : PayloadValue → Option β) : Prop where
  onlyJson : ∀ value bytes, dumps value = some bytes → ∃ document, jsonValue value = some document
  injective : ∀ left right bytes, dumps left = some bytes → dumps right = some bytes →
    jsonValue left = jsonValue right

theorem Reordered.symm {left right : Json} (same : Reordered left right) : Reordered right left := by
  induction same with
  | refl value => exact .refl value
  | trans _ _ before behind => exact .trans behind before
  | items perm => exact .items perm.symm
  | item _ inner => exact .item inner
  | field _ inner => exact .field inner

theorem Reordered.arr {left right : List Json} (all : List.Forall₂ Reordered left right) :
    Reordered (.arr left) (.arr right) := by
  have prefixed : ∀ before : List Json, Reordered (.arr (before ++ left)) (.arr (before ++ right)) := by
    induction all with
    | nil => exact fun _ => .refl _
    | @cons first second left right same _ ih =>
      intro before
      have step := ih (before ++ [second])
      rw [List.append_assoc, List.append_assoc] at step
      exact .trans (.item same) step
  exact prefixed []

/-- Fields with the same keys and reordered values. -/
abbrev FieldsReordered : List (String × Json) → List (String × Json) → Prop :=
  List.Forall₂ fun left right => left.1 = right.1 ∧ Reordered left.2 right.2

theorem Reordered.obj {left right : List (String × Json)} (all : FieldsReordered left right) :
    Reordered (.obj left) (.obj right) := by
  have prefixed : ∀ before : List (String × Json),
      Reordered (.obj (before ++ left)) (.obj (before ++ right)) := by
    induction all with
    | nil => exact fun _ => .refl _
    | @cons first second left right same _ ih =>
      intro before
      have step := ih (before ++ [second])
      rw [List.append_assoc, List.append_assoc] at step
      obtain ⟨key, value⟩ := first
      obtain ⟨rfl, same⟩ := same
      exact .trans (.field same) step
  exact prefixed []

/-! ## Relations of lists -/

section Lists

variable {α γ : Type} {R : String × α → String × γ → Prop} {left : List (String × α)}
  {right : List (String × γ)}

section

variable (keys : ∀ left right, R left right → left.1 = right.1)
include keys

theorem forall₂_insert (all : List.Forall₂ R left right) {first : String × α} {second : String × γ}
    (same : R first second) :
    List.Forall₂ R (Dict.insert first.1 first.2 left) (Dict.insert second.1 second.2 right) := by
  obtain ⟨key, value⟩ := first
  obtain ⟨otherKey, otherValue⟩ := second
  obtain rfl : key = otherKey := keys _ _ same
  induction all with
  | nil => exact .cons same .nil
  | @cons head other left right headSame all ih =>
    obtain ⟨headKey, headValue⟩ := head
    obtain ⟨otherHead, otherHeadValue⟩ := other
    obtain rfl : headKey = otherHead := keys _ _ headSame
    simp only [Dict.insert]
    split
    · exact .cons same all
    · exact .cons headSame ih

theorem forall₂_ofPairs (all : List.Forall₂ R left right) :
    List.Forall₂ R (Dict.ofPairs left).entries (Dict.ofPairs right).entries := by
  have folded : ∀ (d : Dict String α) (e : Dict String γ), List.Forall₂ R d.entries e.entries →
      List.Forall₂ R (left.foldl (fun d pair => d.set pair.1 pair.2) d).entries
        (right.foldl (fun d pair => d.set pair.1 pair.2) e).entries := by
    induction all with
    | nil => exact fun _ _ start => start
    | cons same _ ih => exact fun d e start => ih _ _ (forall₂_insert keys start same)
  exact folded .empty .empty .nil

theorem forall₂_orderedInsert (all : List.Forall₂ R left right) {first : String × α}
    {second : String × γ} (same : R first second) :
    List.Forall₂ R (left.orderedInsert (fun a b => a.1 ≤ b.1) first)
      (right.orderedInsert (fun a b => a.1 ≤ b.1) second) := by
  induction all with
  | nil => exact .cons same .nil
  | @cons head other left right headSame all ih =>
    rw [List.orderedInsert_cons, List.orderedInsert_cons, keys _ _ headSame, keys _ _ same]
    split
    · exact .cons same (.cons headSame all)
    · exact .cons headSame ih

theorem forall₂_sorted (all : List.Forall₂ R left right) :
    List.Forall₂ R (left.insertionSort fun a b => a.1 ≤ b.1)
      (right.insertionSort fun a b => a.1 ≤ b.1) := by
  induction all with
  | nil => exact .nil
  | cons same _ ih => exact forall₂_orderedInsert keys ih same

end

theorem mapM_eq_some_iff {f : α → Option γ} {left : List α} {right : List γ} :
    left.mapM f = some right ↔ List.Forall₂ (fun a b => f a = some b) left right := by
  induction left generalizing right with
  | nil =>
    rw [List.mapM_nil, List.forall₂_nil_left_iff]
    exact ⟨fun same => (Option.some.inj same).symm, fun same => congrArg some same.symm⟩
  | cons a left ih =>
    rw [List.mapM_cons, List.forall₂_cons_left_iff]
    constructor
    · intro done
      obtain ⟨b, here, rest⟩ := Option.bind_eq_some_iff.mp done
      obtain ⟨others, later, made⟩ := Option.bind_eq_some_iff.mp rest
      exact ⟨b, others, here, ih.mp later, (Option.some.inj made).symm⟩
    · rintro ⟨b, others, here, later, rfl⟩
      rw [here, ih.mpr later]
      rfl

end Lists

/-! ## The normal form of a payload -/

section Safe

variable {β : Type} [LinearOrder β] {dumps : PayloadValue → Option β}
  {safe : List (String × PayloadValue)} {values : List (String × Option Json)}

theorem jsonItems_eq_mapM (items : List PayloadValue) : jsonItems items = items.mapM jsonValue := by
  induction items with
  | nil => rw [jsonItems, List.mapM_nil, Option.pure_def]
  | cons item rest ih => rw [jsonItems, List.mapM_cons, ih]

theorem jsonEntries_ofFields (fields : List (String × PayloadValue)) :
    jsonEntries (fields.map fun field => (.text field.1, field.2)) =
      fields.map fun field => (field.1, jsonValue field.2) := by
  induction fields with
  | nil => rw [List.map_nil, jsonEntries, List.map_nil]
  | cons field rest ih => rw [List.map_cons, jsonEntries, ih, List.map_cons, PayloadKey.str]

theorem jsonValue_ofFields {fields : List (String × PayloadValue)}
    (distinct : (fields.map Prod.fst).Nodup) :
    jsonValue (.ofFields fields) =
      (namedFields (fields.map fun field => (field.1, jsonValue field.2))).map fun fields =>
        .obj (fields.insertionSort fun left right => left.1 ≤ right.1) := by
  rw [PayloadValue.ofFields, jsonValue, jsonEntries_ofFields, Dict.ofPairs_entries]
  rwa [List.map_map]

omit [LinearOrder β] in
/-- The value has a JSON value that is the other one but for the order of items. -/
def Restores (value : Option Json) (normal : Option Json) : Prop :=
  ∀ document, normal = some document → ∃ original, value = some original ∧ Reordered original document

theorem sortItems_restores {items safe : List PayloadValue} {sorted : PayloadValue}
    (related : List.Forall₂ (fun item safe => Restores (jsonValue item) (jsonValue safe)) items safe)
    (isSorted : sortItems dumps safe = some sorted) :
    Restores ((jsonItems items).map .arr) (jsonValue sorted) := by
  intro document isDocument
  obtain ⟨keyed, isKeyed, rfl⟩ := Option.map_eq_some_iff.mp isSorted
  rw [jsonValue, jsonItems_eq_mapM] at isDocument
  obtain ⟨values, isValues, rfl⟩ := Option.map_eq_some_iff.mp isDocument
  -- the sorted items are those of before
  have originals : keyed.map Prod.snd = safe := by
    have pairs := mapM_eq_some_iff.mp isKeyed
    clear isKeyed isSorted isDocument isValues related
    induction pairs with
    | nil => rfl
    | cons here _ ih =>
      obtain ⟨bytes, -, rfl⟩ := Option.map_eq_some_iff.mp here
      rw [List.map_cons, ih]
  have perm : (sortKeyed keyed).Perm safe := originals ▸ sortKeyed_perm keyed
  obtain ⟨unsorted, isUnsorted, valuePerm⟩ :=
    List.perm_comp_forall₂ perm.symm (mapM_eq_some_iff.mp isValues)
  have restored : ∃ originals, List.Forall₂ (fun item value => jsonValue item = some value) items
      originals ∧ List.Forall₂ Reordered originals unsorted := by
    clear isValues isDocument isKeyed originals perm valuePerm isSorted
    induction related generalizing unsorted with
    | nil =>
      cases isUnsorted
      exact ⟨[], .nil, .nil⟩
    | cons here _ ih =>
      obtain ⟨value, rest, isValue, later, rfl⟩ := List.forall₂_cons_left_iff.mp isUnsorted
      obtain ⟨original, isOriginal, same⟩ := here value isValue
      obtain ⟨others, areOthers, allSame⟩ := ih _ later
      exact ⟨original :: others, .cons isOriginal areOthers, .cons same allSame⟩
  obtain ⟨originalValues, areOriginal, same⟩ := restored
  refine ⟨.arr originalValues, ?_, .trans (.arr same) (.items valuePerm)⟩
  rw [jsonItems_eq_mapM, mapM_eq_some_iff.mpr areOriginal]
  rfl

/-- The entries after `_json_safe` beside those of before. -/
def EntriesRestored (values : List (String × Option Json)) (safe : List (String × PayloadValue)) :
    Prop :=
  List.Forall₂ (fun value item => value.1 = item.1 ∧ Restores value.2 (jsonValue item.2)) values safe

theorem namedFields_restores {fields : List (String × Json)} (related : EntriesRestored values safe)
    (named : namedFields (safe.map fun item => (item.1, jsonValue item.2)) = some fields) :
    ∃ originals, namedFields values = some originals ∧ FieldsReordered originals fields := by
  induction related generalizing fields with
  | nil =>
    cases named
    exact ⟨[], rfl, .nil⟩
  | @cons value _ _ _ here _ ih =>
    obtain ⟨field, rest, isField, later, rfl⟩ :=
      List.forall₂_cons_left_iff.mp (mapM_eq_some_iff.mp named)
    obtain ⟨document, isDocument, rfl⟩ := Option.map_eq_some_iff.mp isField
    obtain ⟨original, isOriginal, same⟩ := here.2 document isDocument
    obtain ⟨others, areOthers, allSame⟩ := ih (mapM_eq_some_iff.mpr later)
    refine ⟨(value.1, original) :: others, ?_, .cons ⟨here.1, same⟩ allSame⟩
    refine mapM_eq_some_iff.mpr (.cons ?_ (mapM_eq_some_iff.mp areOthers))
    rw [isOriginal]
    rfl

theorem ofFields_restores (related : EntriesRestored values safe) :
    Restores ((namedFields (Dict.ofPairs values).entries).map fun fields =>
        .obj (fields.insertionSort fun left right => left.1 ≤ right.1))
      (jsonValue (.ofFields (Dict.ofPairs safe).entries)) := by
  intro document isDocument
  rw [jsonValue_ofFields (Dict.ofPairs safe).nodup] at isDocument
  obtain ⟨fields, areFields, rfl⟩ := Option.map_eq_some_iff.mp isDocument
  obtain ⟨originals, areOriginal, same⟩ :=
    namedFields_restores (forall₂_ofPairs (fun _ _ same => same.1) related) areFields
  refine ⟨_, ?_, .obj (forall₂_sorted (fun _ _ same => same.1) same)⟩
  rw [areOriginal]
  rfl

theorem restores_self (value : Option Json) : Restores value value :=
  fun document isDocument => ⟨document, isDocument, .refl document⟩

mutual
theorem jsonSafe_restores : ∀ (value : PayloadValue) {safe : PayloadValue},
    jsonSafe dumps value = some safe → Restores (jsonValue value) (jsonValue safe)
  | .none, _, done => by
    cases done
    exact restores_self _
  | .bool _, _, done => by
    cases done
    exact restores_self _
  | .int _, _, done => by
    cases done
    exact restores_self _
  | .float _, _, done => by
    cases done
    exact restores_self _
  | .str _, _, done => by
    cases done
    exact restores_self _
  | .other, _, done => by
    cases done
    exact restores_self _
  | .uuid id, _, done => by
    cases done
    rw [jsonValue, jsonValue]
    exact restores_self _
  | .enum _ _ value, _, done => by
    cases done
    rw [jsonValue]
    exact restores_self _
  | .list items, _, done => by
    obtain ⟨safe, isSafe, sorted⟩ := Option.bind_eq_some_iff.mp done
    rw [jsonValue]
    exact sortItems_restores (safeItems_restores items isSafe) sorted
  | .tuple items, _, done => by
    obtain ⟨safe, isSafe, sorted⟩ := Option.bind_eq_some_iff.mp done
    rw [jsonValue]
    exact sortItems_restores (safeItems_restores items isSafe) sorted
  | .set items, _, done => by
    obtain ⟨safe, isSafe, sorted⟩ := Option.bind_eq_some_iff.mp done
    rw [jsonValue]
    exact sortItems_restores (safeItems_restores items isSafe) sorted
  | .frozenset items, _, done => by
    obtain ⟨safe, isSafe, sorted⟩ := Option.bind_eq_some_iff.mp done
    rw [jsonValue]
    exact sortItems_restores (safeItems_restores items isSafe) sorted
  | .dict entries, _, done => by
    rw [jsonSafe] at done
    obtain ⟨safe, isSafe, rfl⟩ := Option.map_eq_some_iff.mp done
    rw [jsonValue]
    exact ofFields_restores (safeEntries_restores entries isSafe)
theorem safeItems_restores : ∀ (items : List PayloadValue) {safe : List PayloadValue},
    safeItems dumps items = some safe →
      List.Forall₂ (fun item safe => Restores (jsonValue item) (jsonValue safe)) items safe
  | [], _, done => by
    cases done
    exact .nil
  | item :: rest, _, done => by
    obtain ⟨first, isFirst, others⟩ := Option.bind_eq_some_iff.mp done
    obtain ⟨behind, isBehind, made⟩ := Option.bind_eq_some_iff.mp others
    cases made
    exact .cons (jsonSafe_restores item isFirst) (safeItems_restores rest isBehind)
theorem safeEntries_restores : ∀ (entries : List (PayloadKey × PayloadValue))
    {safe : List (String × PayloadValue)}, safeEntries dumps entries = some safe →
      EntriesRestored (jsonEntries entries) safe
  | [], _, done => by
    cases done
    exact .nil
  | (key, item) :: rest, _, done => by
    obtain ⟨first, isFirst, others⟩ := Option.bind_eq_some_iff.mp done
    obtain ⟨behind, isBehind, made⟩ := Option.bind_eq_some_iff.mp others
    cases made
    exact .cons ⟨rfl, jsonSafe_restores item isFirst⟩ (safeEntries_restores rest isBehind)
end

theorem adviceProposalHash_some {sha256 : β → String} {advice : ObjectAdvice} {digest : String}
    (hashed : adviceProposalHash dumps sha256 advice = some digest) :
    ∃ payload bytes, jsonSafe dumps (.ofFields advice.payload.entries) = some payload ∧
      dumps (canonicalProposal advice payload) = some bytes ∧ sha256 bytes = digest := by
  obtain ⟨payload, isSafe, rest⟩ := Option.bind_eq_some_iff.mp hashed
  obtain ⟨bytes, isEncoded, made⟩ := Option.bind_eq_some_iff.mp rest
  exact ⟨payload, bytes, isSafe, isEncoded, Option.some.inj made⟩

/-- The fields of the object that is hashed. -/
def proposalFields (advice : ObjectAdvice) (payload : Json) : List (String × Json) :=
  [("advice_id", .str advice.adviceId.str), ("kind", .str advice.kind.value),
    ("run_id", .str advice.runId.str), ("role", .str advice.role.value), ("payload", payload)]

theorem jsonValue_canonicalProposal (advice : ObjectAdvice) (payload : PayloadValue) :
    jsonValue (canonicalProposal advice payload) = (jsonValue payload).map fun document =>
      .obj ((proposalFields advice document).insertionSort fun left right => left.1 ≤ right.1) := by
  rw [canonicalProposal, jsonValue_ofFields (by simp)]
  cases isValue : jsonValue payload <;> simp [namedFields, proposalFields, jsonValue, isValue]

end Safe

/-! ## Adoption -/

section Evaluate

variable (repr : PayloadValue → String)

/-- `str(value)`; `repr` gives the text of the values that have none of their own. -/
def PayloadValue.text : PayloadValue → String
  | .str value => value
  | .uuid id => id.str
  | .enum _ label _ => label
  | value => repr value

/-- `isinstance(value, (str, uuid.UUID))`. -/
def PayloadValue.isTarget : PayloadValue → Bool
  | .str _ => true
  | .uuid _ => true
  | .enum isText _ _ => isText
  | _ => false

/-- The items of a value that `_uuid_set` goes through. -/
def PayloadValue.items? : PayloadValue → Option (List PayloadValue)
  | .list items => some items
  | .tuple items => some items
  | .set items => some items
  | .frozenset items => some items
  | _ => Option.none

/-- An item of `_uuid_set`. -/
def PayloadValue.uuid? : PayloadValue → Option UUID
  | .uuid id => some id
  | value => UUID.parse (value.text repr)

/-- `_uuid_set`; `none` is a value that is no sequence of UUIDs. -/
def objectUuidSet (value : Option PayloadValue) : Option (List UUID) := do
  let items ← (← value).items?
  items.mapM (·.uuid? repr)

/-- `_validate_explore`; `none` means that nothing is wrong. -/
def validateExploreObject (advice : ObjectAdvice) (context : AdviceValidationContext) :
    Option String :=
  match advice.payload.get? "assignments" with
  | some (.dict assignments) =>
    let subjects := assignments.map Prod.fst
    let targets := assignments.map Prod.snd
    if context.expectedSubjects = [] then some "EXPECTED_SUBJECTS_REQUIRED"
    else if ¬ (subjects ⊆ context.expectedSubjects.map .text ∧
        context.expectedSubjects.map .text ⊆ subjects) then
      some "ASSIGNMENT_COVERAGE_MISMATCH"
    else if targets.any fun target => !target.isTarget || target.text repr == "" then
      some "ASSIGNMENT_TARGET_REQUIRED"
    else if (targets.map (·.text repr)).any fun target =>
        context.maxFanout < (targets.map (·.text repr)).count target then
      some "ASSIGNMENT_FANOUT_EXCEEDED"
    else none
  | _ => some "ASSIGNMENTS_REQUIRED"

/-- `_validate_repair`. -/
def validateRepairObject (advice : ObjectAdvice) (context : AdviceValidationContext) :
    Option String :=
  checkRepairSet context (objectUuidSet repr (advice.payload.get? "repair_set"))

variable {β : Type} [LinearOrder β] (dumps : PayloadValue → Option β) (sha256 : β → String)

/-- `evaluate_advice`. -/
def evaluateObjectAdvice (advice : ObjectAdvice) (context : AdviceValidationContext) :
    Option AdviceValidationResult :=
  judgeAdvice (adviceProposalHash dumps sha256 advice) advice.proposalHash advice.kind
    (validateExploreObject repr advice context) (validateRepairObject repr advice context)

end Evaluate

/-- The same advice with a payload that is equal as a JSON value but for the order of items. -/
structure SameProposal (original advice : ObjectAdvice) : Prop where
  adviceId : original.adviceId = advice.adviceId
  kind : original.kind = advice.kind
  runId : original.runId = advice.runId
  role : original.role = advice.role
  payload : ∃ left right, jsonValue (.ofFields original.payload.entries) = some left ∧
    jsonValue (.ofFields advice.payload.entries) = some right ∧ Reordered left right

variable {β : Type} [LinearOrder β] {dumps : PayloadValue → Option β} {sha256 : β → String}
  {original advice : ObjectAdvice} {digest : String}

theorem AdviceKind.value_injective {left right : AdviceKind} (same : left.value = right.value) :
    left = right := by
  cases left <;> cases right <;> first | rfl | exact absurd same (by decide)

theorem ResidentRole.value_injective {left right : ResidentRole} (same : left.value = right.value) :
    left = right := by
  cases left <;> cases right <;> first | rfl | exact absurd same (by decide)

theorem proposalFields_subset {left right : Json}
    (subset : proposalFields original left ⊆ proposalFields advice right) :
    original.adviceId.str = advice.adviceId.str ∧ original.kind.value = advice.kind.value ∧
      original.runId.str = advice.runId.str ∧ original.role.value = advice.role.value ∧
      left = right := by
  simpa [proposalFields] using subset

theorem sameProposal_of_hash (encodes : EncodesJson dumps) (collisionFree : Function.Injective sha256)
    (hashed : adviceProposalHash dumps sha256 original = some digest)
    (again : adviceProposalHash dumps sha256 advice = some digest) :
    SameProposal original advice := by
  obtain ⟨payload, bytes, isSafe, isEncoded, rfl⟩ := adviceProposalHash_some hashed
  obtain ⟨otherPayload, otherBytes, otherSafe, otherEncoded, sameDigest⟩ :=
    adviceProposalHash_some again
  obtain rfl := collisionFree sameDigest
  have same := encodes.injective _ _ _ isEncoded otherEncoded
  obtain ⟨whole, isWhole⟩ := encodes.onlyJson _ _ isEncoded
  have otherWhole := same.symm.trans isWhole
  rw [jsonValue_canonicalProposal] at isWhole otherWhole
  obtain ⟨document, isDocument, made⟩ := Option.map_eq_some_iff.mp isWhole
  obtain ⟨otherDocument, isOther, otherMade⟩ := Option.map_eq_some_iff.mp otherWhole
  have sorted := Json.obj.inj (made.trans otherMade.symm)
  have perm := List.perm_insertionSort (fun left right => left.1 ≤ right.1)
    (proposalFields original document)
  rw [sorted] at perm
  obtain ⟨sameId, sameKind, sameRun, sameRole, rfl⟩ := proposalFields_subset
    fun entry member => (List.mem_insertionSort _).mp (perm.mem_iff.mpr member)
  obtain ⟨left, isLeft, leftSame⟩ := jsonSafe_restores _ isSafe document isDocument
  obtain ⟨right, isRight, rightSame⟩ := jsonSafe_restores _ otherSafe document isOther
  exact ⟨UUID.str_injective sameId, AdviceKind.value_injective sameKind,
    UUID.str_injective sameRun, ResidentRole.value_injective sameRole,
    left, right, isLeft, isRight, leftSame.trans rightSame.symm⟩

theorem accepted_hash {repr : PayloadValue → String} {context : AdviceValidationContext}
    {result : AdviceValidationResult}
    (evaluated : evaluateObjectAdvice repr dumps sha256 advice context = some result)
    (accepted : result.disposition ≠ .discarded) :
    adviceProposalHash dumps sha256 advice = some advice.proposalHash := by
  unfold evaluateObjectAdvice judgeAdvice at evaluated
  split at evaluated
  · cases evaluated
  · next expected isExpected =>
    split at evaluated
    · cases evaluated
    · split at evaluated
      · cases evaluated
        exact absurd rfl accepted
      · next same => rw [isExpected, not_not.mp same]

/-- Advice with the hash of another has its identity and, but for the order of items, its
payload. -/
theorem adviceProposalHash_binds (encodes : EncodesJson dumps)
    (collisionFree : Function.Injective sha256)
    (hashed : adviceProposalHash dumps sha256 original = some digest) :
    (adviceProposalHash dumps sha256 advice = some digest → SameProposal original advice) ∧
      (advice.proposalHash = digest → ∀ repr context result,
        evaluateObjectAdvice repr dumps sha256 advice context = some result →
          result.disposition ≠ .discarded → SameProposal original advice) := by
  refine ⟨sameProposal_of_hash encodes collisionFree hashed, ?_⟩
  rintro rfl repr context result evaluated accepted
  exact sameProposal_of_hash encodes collisionFree hashed (accepted_hash evaluated accepted)

/-! ## Two orders -/

namespace SampleAdvice

/-- A plan revision with an order. -/
def revision (order : List PayloadValue) : ObjectAdvice where
  adviceId := ⟨1⟩
  kind := .planRevision
  runId := ⟨2⟩
  role := .executeSupervisor
  payload := .ofPairs [("order", .list order)]
  proposalHash := "7c939332880168cde12d654c370d81cfcef1a0cd6cd522821f856c427e24fd76"

def forward : ObjectAdvice := revision [.str "a", .str "b"]

def backward : ObjectAdvice := revision [.str "b", .str "a"]

def canonicalText : String :=
  "\x7b\x22advice_id\x22:\x2200000000-0000-0000-0000-000000000001\x22,\x22kind\x22:\x22PLAN_REVISION\x22,\x22payload\x22:\x7b\x22order\x22:[\x22a\x22,\x22b\x22]\x7d,\x22role\x22:\x22EXECUTE_SUPERVISOR\x22,\x22run_id\x22:\x2200000000-0000-0000-0000-000000000002\x22\x7d"

/-- The document of both advices. -/
def document : Json :=
  .obj [("advice_id", .str "00000000-0000-0000-0000-000000000001"), ("kind", .str "PLAN_REVISION"),
    ("payload", .obj [("order", .arr [.str "a", .str "b"])]), ("role", .str "EXECUTE_SUPERVISOR"),
    ("run_id", .str "00000000-0000-0000-0000-000000000002")]

/-- The texts of the documents that are written here. -/
def texts : List (Json × String) :=
  [(.str "a", "\x22a\x22"), (.str "b", "\x22b\x22"), (document, canonicalText)]

def encode (value : PayloadValue) : Option String := (jsonValue value).bind (Dict.lookup · texts)

def hexdigest : String → String :=
  Equiv.swap canonicalText "7c939332880168cde12d654c370d81cfcef1a0cd6cd522821f856c427e24fd76"

theorem encode_encodesJson : EncodesJson encode := by
  constructor
  · intro value text encoded
    obtain ⟨written, isValue, -⟩ := Option.bind_eq_some_iff.mp encoded
    exact ⟨written, isValue⟩
  · intro left right text leftText rightText
    obtain ⟨written, isLeft, leftFound⟩ := Option.bind_eq_some_iff.mp leftText
    obtain ⟨other, isRight, rightFound⟩ := Option.bind_eq_some_iff.mp rightText
    have once : (texts.map Prod.snd).Nodup := by decide +kernel
    have same := List.inj_on_of_nodup_map once (Dict.lookup_some_mem leftFound)
      (Dict.lookup_some_mem rightFound) rfl
    rw [isLeft, isRight, (Prod.mk.inj same).1]

theorem forward_hash : adviceProposalHash encode hexdigest forward = some forward.proposalHash := by
  decide +kernel

theorem backward_hash : adviceProposalHash encode hexdigest backward = some forward.proposalHash := by
  decide +kernel

theorem backward_bound :
    adviceProposalHash encode hexdigest forward = some forward.proposalHash ∧
      SameProposal forward backward :=
  ⟨forward_hash, (adviceProposalHash_binds encode_encodesJson (Equiv.injective _) forward_hash).1
    backward_hash⟩

theorem order_not_bound : ¬ ∀ (β : Type) (_ : LinearOrder β) (dumps : PayloadValue → Option β)
    (sha256 : β → String), EncodesJson dumps → Function.Injective sha256 →
    ∀ (original advice : ObjectAdvice) (digest : String),
      adviceProposalHash dumps sha256 original = some digest →
      adviceProposalHash dumps sha256 advice = some digest →
      original.adviceId = advice.adviceId ∧ original.kind = advice.kind ∧
        original.runId = advice.runId ∧ original.role = advice.role ∧
        jsonValue (.ofFields original.payload.entries) =
          jsonValue (.ofFields advice.payload.entries) := by
  intro all
  have bound := all String inferInstance encode hexdigest encode_encodesJson (Equiv.injective _)
    forward backward _ forward_hash backward_hash
  exact absurd bound.2.2.2.2 (by decide +kernel)

end SampleAdvice

end CodeMigrator
