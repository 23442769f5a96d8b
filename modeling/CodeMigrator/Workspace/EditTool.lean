import CodeMigrator.Workspace.WriteTools

/-!
# What `EditFile` replaces

The occurrences of a text in another one, the ones that `_edit` of `workspace/gateway.py` lists,
and what an `EditFile` call changes. The cursor of the tool goes on behind each match, so an
occurrence that begins inside of a listed one is not listed.
-/

namespace CodeMigrator
open Lib

/-! ## Occurrences -/

/-- `old` stands at a position of the text. -/
def OccursAt (old text : List Char) (position : Nat) : Prop := old <+: text.drop position

/-- `old` stands at exactly one position. -/
def OccursOnce (old text : List Char) : Prop := ∃ place, ∀ position, OccursAt old text position ↔ position = place

/-- The tool returned an error. -/
def ToolResult.isError : ToolResult → Bool
  | .error _ => true
  | _ => false

namespace ToolGateway

variable {old : List Char}

theorem occursAt_of_listed {text : List Char} {skip start position : Nat}
    (listed : position ∈ positionsFrom old skip start text) :
    ∃ offset, position = start + offset ∧ skip ≤ offset ∧ OccursAt old text offset := by
  induction text generalizing skip start with
  | nil => cases listed
  | cons c rest ih =>
    rw [positionsFrom] at listed
    split at listed
    · next here =>
      rcases List.mem_cons.mp listed with rfl | later
      · exact ⟨0, rfl, by omega, List.isPrefixOf_iff_prefix.mp here.2⟩
      · obtain ⟨offset, rfl, -, occurs⟩ := ih later
        exact ⟨offset + 1, by omega, by omega, occurs⟩
    · obtain ⟨offset, rfl, skipped, occurs⟩ := ih listed
      exact ⟨offset + 1, by omega, by omega, occurs⟩

theorem listed_of_occursAt {text : List Char} (some : old ≠ []) {skip offset : Nat} (start : Nat)
    (skipped : skip ≤ offset) (occurs : OccursAt old text offset) :
    ∃ position ∈ positionsFrom old skip start text,
      position ≤ start + offset ∧ start + offset < position + old.length := by
  have long : 0 < old.length := List.length_pos_iff.mpr some
  induction text generalizing skip start offset with
  | nil =>
    unfold OccursAt at occurs
    rw [List.drop_nil, List.prefix_nil] at occurs
    exact absurd occurs some
  | cons c rest ih =>
    rw [positionsFrom]
    split
    · by_cases inside : offset < old.length
      · exact ⟨start, List.mem_cons_self, by omega, by omega⟩
      · obtain ⟨before, rfl⟩ : ∃ before, offset = before + 1 := ⟨offset - 1, by omega⟩
        obtain ⟨position, listed, low, high⟩ :=
          @ih (old.length - 1) before (start + 1) (by omega) occurs
        exact ⟨position, List.mem_cons_of_mem _ listed, by omega, by omega⟩
    · next notHere =>
      cases offset with
      | zero =>
        have here : skip = 0 ∧ old.isPrefixOf (c :: rest) = true :=
          ⟨by omega, List.isPrefixOf_iff_prefix.mpr occurs⟩
        exact absurd here notHere
      | succ before =>
        obtain ⟨position, listed, low, high⟩ := @ih (skip - 1) before (start + 1) (by omega) occurs
        exact ⟨position, listed, by omega, by omega⟩

/-- No occurrence begins inside of the one at the position. -/
def Unentangled (old text : List Char) (position : Nat) : Prop :=
  ∀ shift, 0 < shift → shift < old.length → ¬ OccursAt old text (position + shift)

theorem occursOnce_iff {text : List Char} (some : old ≠ []) {place : Nat}
    (single : positionsFrom old 0 0 text = [place]) :
    OccursOnce old text ↔ Unentangled old text place := by
  have here : OccursAt old text place := by
    have listed : place ∈ positionsFrom old 0 0 text := by
      rw [single]
      exact List.mem_singleton_self place
    obtain ⟨offset, same, -, occurs⟩ := occursAt_of_listed listed
    rw [Nat.zero_add] at same
    rw [same]
    exact occurs
  constructor
  · rintro ⟨only, once⟩ shift positive _ occurs
    have first := (once place).mp here
    have second := (once (place + shift)).mp occurs
    omega
  · intro unentangled
    refine ⟨place, fun position => ⟨?_, fun same => same ▸ here⟩⟩
    intro occurs
    obtain ⟨listed, member, low, high⟩ := listed_of_occursAt some 0 (Nat.zero_le position) occurs
    rw [single, List.mem_singleton] at member
    by_contra different
    refine unentangled (position - place) (by omega) (by omega) ?_
    rw [show place + (position - place) = position by omega]
    exact occurs

/-! ## Writing over a file -/

theorem present_of_openParent {tree after : FileTree} {way : List String}
    (opened : FileTree.openParent false tree way = (after, .ok ())) :
    ∀ directory ∈ way, directory ∈ tree.directories := by
  induction way with
  | nil => simp
  | cons directory way ih =>
    unfold FileTree.openParent at opened
    split at opened
    · next present =>
      intro other member
      rcases List.mem_cons.mp member with rfl | later
      · exact present
      · exact ih opened other later
    · cases opened

theorem writeAtomic_existing {tree : FileTree} {path : String} (present : tree.exists_ path = .ok true)
    (content : ByteArray) (fault : IoFault) :
    tree.writeAtomic path content fault =
      (if fault = .write then tree else { tree with files := tree.files.set path content },
        if fault = .write ∨ fault = .sync then .error .osError else .ok ()) := by
  unfold FileTree.exists_ at present
  unfold FileTree.writeAtomic
  split at present
  · cases present
  next safe =>
  rw [if_neg safe]
  split at present
  · cases present
  next after opened =>
  rw [FileTree.openParent_present (present_of_openParent opened)]
  split at present
  · cases present
  next notDirectory =>
  dsimp only
  rw [if_neg notDirectory]
  cases fault <;> rfl

/-! ## Calls that reach the write -/

/-- The text with the occurrence at a position replaced. -/
def replaceAt (text : List Char) (position length : Nat) (new : List Char) : String :=
  String.ofList (text.take position ++ new ++ text.drop (position + length))

/-- The contents of the file with the occurrence at a position replaced. -/
def replacedBytes (call : EditFileCall) (text : String) (position : Nat) : ByteArray :=
  (replaceAt text.toList position call.oldText.length call.newText.toList).toUTF8

/-- The tree with these contents. -/
def replacedTree (session : WriteSession) (call : EditFileCall) (text : String) (position : Nat) :
    FileTree :=
  { session.tree with files := session.tree.files.set call.path (replacedBytes call text position) }

/-- The checks of the call pass up to the search of its old text. -/
structure Searches (gateway : ToolGateway) (session : WriteSession) (call : EditFileCall)
    (cancelled : Bool) (fault : IoFault) (data : ByteArray) (text : String) : Prop where
  live : cancelled = false
  allowed : gateway.isAllowed "EditFile" = true
  owner : ¬ (¬ gateway.hasWorkspace ∨ gateway.context.draftId.isSome)
  accessed : fault ≠ .access
  target : editTarget session call.path = .ok data
  admitted : gateway.admits call.path true = true
  decoded : String.fromUTF8? data = some text

/-- All checks of the call pass, and it comes to its write. -/
structure Reaches (gateway : ToolGateway) (session : WriteSession) (call : EditFileCall)
    (cancelled : Bool) (fault : IoFault) (data : ByteArray) (text : String) (position : Nat) : Prop
    extends Searches gateway session call cancelled fault data text where
  selected : selectOccurrence call text.toList = .ok position
  quota : session.writeBytes +
    (replacedBytes call text position).size ≤ maxReadBytes

section Calls

variable {gateway : ToolGateway} {session : WriteSession} {call : EditFileCall} {cancelled : Bool}
  {fault : IoFault} {path : String} {data : ByteArray} {position : Nat}

theorem uncaught_error (error : PathError) :
    ∃ toolError, uncaught error = .error toolError ∧ toolError.code ≠ .editAmbiguous := by
  cases error <;> exact ⟨_, rfl, nofun⟩

theorem editTarget_error {result : ToolResult} (failed : editTarget session path = .error result) :
    ∃ error, result = .error error ∧ error.code ≠ .editAmbiguous := by
  unfold editTarget at failed
  dsimp only at failed
  split at failed
  · next error _ =>
    cases failed
    cases error
    case tooLarge | osError => exact uncaught_error _
    all_goals exact ⟨_, rfl, nofun⟩
  · cases failed
    exact ⟨_, rfl, nofun⟩
  · cases read : session.tree.readBytes path maxReadBytes with
    | ok data =>
      rw [read] at failed
      cases failed
    | error error =>
      rw [read] at failed
      cases failed
      cases error
      case tooLarge | osError => exact uncaught_error _
      all_goals exact ⟨_, rfl, nofun⟩

theorem selectOccurrence_error {text : List Char} {result : ToolResult}
    (failed : selectOccurrence call text = .error result) : ∃ error, result = .error error := by
  unfold selectOccurrence at failed
  dsimp only at failed
  split at failed
  · cases failed
    exact ⟨_, rfl⟩
  split at failed
  · cases failed
    exact ⟨_, rfl⟩
  split at failed
  · cases failed
    exact ⟨_, rfl⟩
  · cases failed

theorem dispatch_edit_cases (gateway : ToolGateway) (session : WriteSession) (call : EditFileCall)
    (cancelled : Bool) (fault : IoFault) :
    (∃ error, gateway.dispatch session (.edit call) cancelled fault = (session, .error error) ∧
        ∀ data text position, ¬ Reaches gateway session call cancelled fault data text position) ∨
      ∃ data text position, Reaches gateway session call cancelled fault data text position ∧
        gateway.dispatch session (.edit call) cancelled fault =
          gateway.store session .editFile call.path
            (replacedBytes call text position)
            .overwritten fault
            (.edited call.path (lineAt text.toList position) data.size
              (replacedBytes call text position).size) := by
  unfold dispatch
  split
  · next isCancelled =>
    refine .inl ⟨_, rfl, fun _ _ _ reaches => ?_⟩
    rw [reaches.live] at isCancelled
    cases isCancelled
  next live =>
  split
  · next denied => exact .inl ⟨_, rfl, fun _ _ _ reaches => denied reaches.allowed⟩
  next allowed =>
  dsimp only
  unfold edit
  split
  · next noOwner => exact .inl ⟨_, rfl, fun _ _ _ reaches => reaches.owner noOwner⟩
  next owner =>
  split
  · next refused => exact .inl ⟨_, rfl, fun _ _ _ reaches => reaches.accessed refused⟩
  next accessed =>
  cases target : editTarget session call.path with
  | error result =>
    obtain ⟨error, rfl, -⟩ := editTarget_error target
    refine .inl ⟨error, rfl, fun _ _ _ reaches => ?_⟩
    rw [reaches.target] at target
    cases target
  | ok data =>
    dsimp only
    split
    · next denied => exact .inl ⟨_, rfl, fun _ _ _ reaches => denied reaches.admitted⟩
    next admitted =>
    cases decoded : String.fromUTF8? data with
    | none =>
      refine .inl ⟨_, rfl, fun _ _ _ reaches => ?_⟩
      have same := reaches.target.symm.trans target
      cases same
      rw [reaches.decoded] at decoded
      cases decoded
    | some text =>
      dsimp only
      cases selected : selectOccurrence call text.toList with
      | error result =>
        obtain ⟨error, rfl⟩ := selectOccurrence_error selected
        refine .inl ⟨error, rfl, fun _ _ _ reaches => ?_⟩
        cases reaches.target.symm.trans target
        cases reaches.decoded.symm.trans decoded
        cases reaches.selected.symm.trans selected
      | ok position =>
        dsimp only
        split
        · next large =>
          refine .inl ⟨_, rfl, fun _ _ _ reaches => ?_⟩
          cases reaches.target.symm.trans target
          cases reaches.decoded.symm.trans decoded
          cases reaches.selected.symm.trans selected
          exact absurd large (Nat.not_lt.mpr reaches.quota)
        · next within =>
          exact .inr ⟨data, text, position, ⟨⟨by simpa using live,
            by simpa [WriteCall.tool, WriteTool.name] using allowed, owner, accessed, target,
            by simpa using admitted, decoded⟩, selected, Nat.le_of_not_lt within⟩, rfl⟩

/-! ## What a call changes -/

/-- The text of the file at a path. -/
def textAt (session : WriteSession) (path : String) : Option String :=
  (session.tree.files.get? path).bind String.fromUTF8?

/-- What is promised of a call: without `occur` it succeeds for the only occurrence of the old
text; it replaces the listed occurrence that it selects and nothing else; and an error changes
nothing. -/
structure EditFaithful (gateway : ToolGateway) (session : WriteSession) (call : EditFileCall)
    (cancelled : Bool) (fault : IoFault) : Prop where
  unique : (gateway.dispatch session (.edit call) cancelled fault).2.isError = false →
    call.occur = none → ∀ text, textAt session call.path = some text →
      OccursOnce call.oldText.toList text.toList
  replaced : (gateway.dispatch session (.edit call) cancelled fault).2.isError = false →
    ∃ text before after, textAt session call.path = some text ∧
      text.toList = before ++ call.oldText.toList ++ after ∧
      (positionsFrom call.oldText.toList 0 0 text.toList)[(call.occur.map (· - 1)).getD 0]? =
        some before.length ∧
      (gateway.dispatch session (.edit call) cancelled fault).1.tree =
        { session.tree with
          files := session.tree.files.set call.path
            (String.ofList (before ++ call.newText.toList ++ after)).toUTF8 }
  unchanged : (gateway.dispatch session (.edit call) cancelled fault).2.isError = true →
    (gateway.dispatch session (.edit call) cancelled fault).1 = session

/-- No other occurrence begins inside of the one that a call without `occur` replaces, the directory
of the file is synced, or nothing is replaced by something else, and no sink of a recorded operation
raises. -/
def EditSound (gateway : ToolGateway) (session : WriteSession) (call : EditFileCall)
    (cancelled : Bool) (fault : IoFault) : Prop :=
  ∀ data text position, Reaches gateway session call cancelled fault data text position →
    (call.occur = none → fault ≠ .write → fault ≠ .sync →
        Unentangled call.oldText.toList text.toList position) ∧
      (fault = .sync → call.newText = call.oldText) ∧
      gateway.sinkFailure fault = none

theorem fromUTF8?_eq_some_iff {text : String} :
    String.fromUTF8? data = some text ↔ text.toUTF8 = data := by
  constructor
  · intro decoded
    unfold String.fromUTF8? at decoded
    split at decoded
    · rw [← Option.some.inj decoded]
      rfl
    · cases decoded
  · rintro rfl
    simp only [String.fromUTF8?, String.toUTF8_eq_toByteArray, dif_pos text.isValidUTF8]
    rfl

theorem editTarget_spec (target : editTarget session path = .ok data) :
    session.tree.exists_ path = .ok true ∧ session.tree.files.get? path = some data := by
  unfold editTarget at target
  dsimp only at target
  split at target
  · cases target
  · cases target
  next present =>
  refine ⟨present, ?_⟩
  cases read : session.tree.readBytes path maxReadBytes with
  | error error =>
    rw [read] at target
    cases target
  | ok content =>
    rw [read] at target
    cases target
    unfold FileTree.readBytes at read
    split at read
    · cases read
    split at read
    · cases read
    split at read
    · cases read
    split at read
    · cases read
    next found =>
    split at read
    · cases read
    · cases read
      exact found

theorem selectOccurrence_spec {text : List Char}
    (selected : selectOccurrence call text = .ok position) :
    (positionsFrom call.oldText.toList 0 0 text)[(call.occur.map (· - 1)).getD 0]? = some position ∧
      (call.occur = none → positionsFrom call.oldText.toList 0 0 text = [position]) := by
  unfold selectOccurrence at selected
  dsimp only at selected
  split at selected
  · cases selected
  split at selected
  · cases selected
  next few =>
  split at selected
  · cases selected
  next found =>
  cases selected
  refine ⟨found, fun free => ?_⟩
  rw [free] at found few
  simp only [Option.isNone_none, true_and, Nat.not_lt] at few
  match listed : positionsFrom call.oldText.toList 0 0 text with
  | [] => simp [listed] at found
  | [only] =>
    rw [listed] at found
    simpa using found
  | _ :: _ :: _ => simp [listed] at few

theorem oldText_ne_nil (call : EditFileCall) : call.oldText.toList ≠ [] := by
  intro empty
  apply call.notEmpty
  rw [← String.ofList_toList (s := call.oldText), empty]

theorem Searches.text {text : String}
    (searches : Searches gateway session call cancelled fault data text) :
    textAt session call.path = some text := by
  unfold textAt
  rw [(editTarget_spec searches.target).2]
  exact searches.decoded

theorem Reaches.split {text : String}
    (reaches : Reaches gateway session call cancelled fault data text position) :
    text.toList = text.toList.take position ++ call.oldText.toList ++
      text.toList.drop (position + call.oldText.length) ∧
      (text.toList.take position).length = position := by
  have listed := List.mem_of_getElem? (selectOccurrence_spec reaches.selected).1
  obtain ⟨offset, same, -, occurs⟩ := occursAt_of_listed listed
  rw [Nat.zero_add] at same
  rw [← same] at occurs
  obtain ⟨rest, split⟩ := occurs
  have behind : text.toList.drop (position + call.oldText.length) = rest := by
    rw [← List.drop_drop, ← split, ← String.length_toList, List.drop_left]
  have inside : position < text.toList.length := by
    by_contra outside
    rw [List.drop_eq_nil_of_le (by omega)] at split
    exact oldText_ne_nil call (List.append_eq_nil_iff.mp split).1
  constructor
  · rw [behind, List.append_assoc, split, List.take_append_drop]
  · rw [List.length_take]
    omega

theorem Reaches.stored {text : String}
    (reaches : Reaches gateway session call cancelled fault data text position)
    (result : ToolResult) :
    gateway.store session .editFile call.path
        (replacedBytes call text position) .overwritten
        fault result =
      match fault with
      | .write => (session, uncaught .osError)
      | .sync =>
        ({ session with tree := replacedTree session call text position }, uncaught .osError)
      | _ =>
        (gateway.recordOperation
          { session with
            tree := replacedTree session call text position
            writeBytes := session.writeBytes + (replacedBytes call text position).size }
          .editFile call.path (replacedBytes call text position).size .overwritten,
          (gateway.sinkFailure fault).elim result executionFailed) := by
  unfold store
  rw [writeAtomic_existing (editTarget_spec reaches.target).1]
  cases fault <;> rfl

theorem Reaches.returned {text : String}
    (reaches : Reaches gateway session call cancelled fault data text position)
    (returns : fault ≠ .write ∧ fault ≠ .sync ∧ gateway.sinkFailure fault = none)
    (result : ToolResult) :
    (gateway.store session .editFile call.path (replacedBytes call text position) .overwritten
      fault result).2 = result := by
  rw [reaches.stored, returns.2.2]
  split
  · exact absurd rfl returns.1
  · exact absurd rfl returns.2.1
  · rfl

theorem recordOperation_tree (gateway : ToolGateway) (session : WriteSession) (tool : WriteTool)
    (path : String) (bytesWritten : Nat) (disposition : Disposition) :
    (gateway.recordOperation session tool path bytesWritten disposition).tree = session.tree := by
  unfold recordOperation
  split <;> rfl

theorem sinkFailure_eq_none (gateway : ToolGateway) (quiet : ∀ exception, fault ≠ .sink exception) :
    gateway.sinkFailure fault = none := by
  unfold sinkFailure
  split
  · exact absurd rfl (quiet _)
  · rfl

/-- A sink that raises has been called, so that the operation is recorded. -/
theorem recordOperation_ne (gateway : ToolGateway) {exception : String}
    {before after : WriteSession} {tool : WriteTool} {bytesWritten : Nat}
    {disposition : Disposition} (sunk : gateway.sinkFailure fault = some exception)
    (operations : after.operations = before.operations) :
    gateway.recordOperation after tool path bytesWritten disposition ≠ before := by
  intro same
  unfold sinkFailure at sunk
  split at sunk
  · next owner slice generation =>
    have lengths := congrArg (·.operations.length) same
    simp [recordOperation, owner, slice, generation, operations] at lengths
  · cases sunk

theorem Reaches.same {other : ByteArray} {text otherText : String} {otherPosition : Nat}
    (reaches : Reaches gateway session call cancelled fault data text position)
    (again : Reaches gateway session call cancelled fault other otherText otherPosition) :
    otherText = text ∧ otherPosition = position := by
  have sameData : other = data := Except.ok.inj (again.target.symm.trans reaches.target)
  subst sameData
  have sameText : otherText = text := Option.some.inj (again.decoded.symm.trans reaches.decoded)
  subst sameText
  exact ⟨rfl, Except.ok.inj (again.selected.symm.trans reaches.selected)⟩

theorem Reaches.replacedTree_eq_iff {text : String}
    (reaches : Reaches gateway session call cancelled fault data text position) :
    replacedTree session call text position = session.tree ↔ call.newText = call.oldText := by
  have found := (editTarget_spec reaches.target).2
  have bytes := fromUTF8?_eq_some_iff.mp reaches.decoded
  obtain ⟨whole, -⟩ := reaches.split
  constructor
  · intro same
    have kept : session.tree.files.get? call.path = some (replacedBytes call text position) := by
      have files : session.tree.files.set call.path (replacedBytes call text position) =
          session.tree.files := congrArg FileTree.files same
      rw [← files, Dict.get?_set, if_pos rfl]
    rw [found, Option.some.injEq, ← bytes] at kept
    have sameText : text = replaceAt text.toList position call.oldText.length call.newText.toList :=
      String.toByteArray_inj.mp kept
    have lists := congrArg String.toList sameText
    rw [replaceAt, String.toList_ofList] at lists
    have around := whole.symm.trans lists
    rw [List.append_left_inj, List.append_right_inj] at around
    exact (String.toList_injective around).symm
  · intro same
    have kept : replacedBytes call text position = data := by
      unfold replacedBytes replaceAt
      rw [same, ← whole, String.ofList_toList, bytes]
    unfold replacedTree
    rw [kept, Dict.set_of_get? found]

/-- A call does what is promised exactly where no other occurrence begins inside of the replaced
one and the write is not failed behind the replacement. -/
theorem edit_faithful_iff (gateway : ToolGateway) (session : WriteSession) (call : EditFileCall)
    (cancelled : Bool) (fault : IoFault) :
    EditFaithful gateway session call cancelled fault ↔
      EditSound gateway session call cancelled fault := by
  rcases dispatch_edit_cases gateway session call cancelled fault with
    ⟨error, done, stops⟩ | ⟨data, text, position, reaches, done⟩
  · refine ⟨fun _ data text position reaches => absurd reaches (stops data text position), fun _ => ?_⟩
    constructor
    · intro success
      rw [done] at success
      cases success
    · intro success
      rw [done] at success
      cases success
    · intro _
      rw [done]
  · have sound : EditSound gateway session call cancelled fault ↔
        (call.occur = none → fault ≠ .write → fault ≠ .sync →
          Unentangled call.oldText.toList text.toList position) ∧
        (fault = .sync → call.newText = call.oldText) ∧
        gateway.sinkFailure fault = none := by
      refine ⟨fun all => all data text position reaches, fun here _ other place again => ?_⟩
      obtain ⟨rfl, rfl⟩ := reaches.same again
      exact here
    rw [sound, ← reaches.replacedTree_eq_iff]
    rw [reaches.stored] at done
    obtain ⟨listed, single⟩ := selectOccurrence_spec reaches.selected
    obtain ⟨whole, length⟩ := reaches.split
    cases fault with
    | access => exact absurd rfl reaches.accessed
    | write =>
      obtain ⟨error, failed, -⟩ := uncaught_error .osError
      dsimp only at done
      rw [failed] at done
      refine ⟨fun _ => ⟨fun _ other => absurd rfl other, fun other => (nomatch other),
        gateway.sinkFailure_eq_none nofun⟩, fun _ => ?_⟩
      constructor
      · intro success
        rw [done] at success
        cases success
      · intro success
        rw [done] at success
        cases success
      · intro _
        rw [done]
    | sync =>
      obtain ⟨error, failed, -⟩ := uncaught_error .osError
      dsimp only at done
      rw [failed] at done
      constructor
      · intro faithful
        refine ⟨fun _ _ other => absurd rfl other, fun _ => ?_, gateway.sinkFailure_eq_none nofun⟩
        have kept := faithful.unchanged (by rw [done]; rfl)
        rw [done] at kept
        exact congrArg WriteSession.tree kept
      · rintro ⟨-, same, -⟩
        constructor
        · intro success
          rw [done] at success
          cases success
        · intro success
          rw [done] at success
          cases success
        · intro _
          rw [done, same rfl]
    | none | sink exception =>
      dsimp only at done
      generalize sunk : gateway.sinkFailure _ = failure at done ⊢
      cases failure with
      | some raised =>
        refine ⟨fun faithful => ?_, fun ⟨_, _, taken⟩ => (nomatch taken)⟩
        have kept := faithful.unchanged (by rw [done]; rfl)
        rw [done] at kept
        exact absurd kept (gateway.recordOperation_ne sunk rfl)
      | none =>
      constructor
      · intro faithful
        refine ⟨fun free _ _ => ?_, fun other => (nomatch other), rfl⟩
        have once := faithful.unique (by rw [done]; rfl) free text reaches.text
        exact (occursOnce_iff (oldText_ne_nil call) (single free)).mp once
      · rintro ⟨unentangled, -⟩
        constructor
        · intro _ free other found
          cases found.symm.trans reaches.text
          exact (occursOnce_iff (oldText_ne_nil call) (single free)).mpr
            (unentangled free nofun nofun)
        · intro _
          refine ⟨text, _, _, reaches.text, whole, by rw [length]; exact listed, ?_⟩
          rw [done]
          exact recordOperation_tree _ _ _ _ _ _
        · intro failed
          rw [done] at failed
          cases failed

end Calls

/-! ## A text that overlaps itself -/

namespace SampleEdit

/-- A gateway of a candidate workspace that may write the file `m`. -/
def gateway : ToolGateway where
  context :=
    { runId := some ⟨1⟩, draftId := none, phase := .execute, sessionKind := .implementation
      sliceId := none, generation := none, oneOwner := by decide, draftWithoutSlice := by decide }
  hasWorkspace := true
  writeScope := some ⟨⟨[⟨"m", by decide⟩], []⟩⟩
  otherWriteScopes := []
  policy := fun _ => ["EditFile"]
  runHasWorkspace := fun _ => rfl
  draftHasNone := nofun

def session : WriteSession := ⟨⟨⟨[("m", "aaa".toUTF8)], by simp⟩, ∅⟩, 0, []⟩

def call : EditFileCall where
  path := "m"
  oldText := "aa"
  newText := "b"
  occur := none
  notEmpty := by decide
  withinLimit := by decide
  positive := nofun

theorem call_reaches : Reaches gateway session call false .none "aaa".toUTF8 "aaa" 0 where
  live := rfl
  allowed := by decide
  owner := by decide
  accessed := by decide
  target := rfl
  admitted := by decide
  decoded := fromUTF8?_eq_some_iff.mpr rfl
  selected := rfl
  quota := by decide

/-- The edit succeeds for the first of two occurrences that overlap. -/
theorem overlapping_edit_succeeds : ¬ ∀ (gateway : ToolGateway) (session : WriteSession)
    (call : EditFileCall) (cancelled : Bool) (fault : IoFault),
    EditFaithful gateway session call cancelled fault := by
  intro all
  have faithful := all gateway session call false .none
  have success : (gateway.dispatch session (.edit call) false .none).2.isError = false := by
    rcases dispatch_edit_cases gateway session call false .none with
      ⟨_, _, stops⟩ | ⟨data, text, position, reaches, done⟩
    · exact absurd call_reaches (stops _ _ _)
    · rw [done, reaches.stored]
      rfl
  obtain ⟨place, once⟩ := faithful.unique success rfl "aaa" call_reaches.text
  have first : OccursAt call.oldText.toList "aaa".toList 0 := ⟨['a'], by decide⟩
  have second : OccursAt call.oldText.toList "aaa".toList 1 := ⟨[], by decide⟩
  have atFirst := (once 0).mp first
  have atSecond := (once 1).mp second
  omega

end SampleEdit

end ToolGateway

end CodeMigrator
