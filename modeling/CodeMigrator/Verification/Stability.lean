import CodeMigrator.Lib.Sequence
import CodeMigrator.Verification.Fingerprint
import Mathlib.SetTheory.Cardinal.Order

/-!
# Stability of verifications

When the comparison of two layers on one commit reports that the results differ: a check that both
layers ran has different semantics in them. One by one the results are compared as they should be;
the fingerprints of equal frozen checks also cover what one layer ran alone.
-/

namespace CodeMigrator
open Lib

/-- Two results of a check with the same meaning: the order of their diagnostics is free. -/
def SameSemantics (left right : ResultEvidence) : Prop :=
  left.unwrap.invocationHash = right.unwrap.invocationHash ∧
    left.unwrap.status = right.unwrap.status ∧ left.disposition = right.disposition ∧
    left.unwrap.diagnostics.Perm right.unwrap.diagnostics

/-- The line numbers of a result are integers that the encoder accepts. -/
def SafeLines (result : ResultEvidence) : Prop :=
  ∀ diagnostic ∈ result.unwrap.diagnostics, ∀ path line,
    diagnostic.target = .fileLine path line → line.natAbs < 2 ^ 53

/-- Both layers ran the check, with these results. -/
def Shared (finalChecks prospectiveChecks : List ResultEvidence)
    (left right : ResultEvidence) : Prop :=
  left ∈ finalChecks ∧ right ∈ prospectiveChecks ∧ left.checkId = right.checkId

/-- What the encoder is to do: it refuses the integers that are not safe, and different documents
have different bytes. -/
structure IsCanonical {β : Type} (dumps : Json → Option β) : Prop where
  accepts : ∀ document, document.Plain → ((∃ bytes, dumps document = some bytes) ↔
    document.SafeIntegers)
  injective : ∀ left right bytes, left.Plain → right.Plain → dumps left = some bytes →
    dumps right = some bytes → left = right

variable {β δ : Type} [LinearOrder β] {dumps : Json → Option β} {sha256 : β → δ} {docs : List Json}
  {results : List ResultEvidence} {keyed : List (Nat × Json)} {commit frozen : String}

/-! ## Documents -/

theorem diagnosticSemantics_plain (diagnostic : DiagnosticMapping) :
    (diagnosticSemantics diagnostic).Plain := by
  unfold Json.Plain diagnosticSemantics targetSemantics
  cases diagnostic.target <;> simp +decide [Json.isPlain]

theorem diagnosticSemantics_safe_iff (diagnostic : DiagnosticMapping) :
    (diagnosticSemantics diagnostic).SafeIntegers ↔
      ∀ path line, diagnostic.target = .fileLine path line → line.natAbs < 2 ^ 53 := by
  unfold Json.SafeIntegers diagnosticSemantics targetSemantics
  cases diagnostic.target <;> simp [Json.isSafeInteger]

theorem targetSemantics_injective : Function.Injective targetSemantics := by
  intro left right same
  cases left <;> cases right <;> simp [targetSemantics] at same ⊢
  case fileLine.fileLine path line other number =>
      obtain ⟨text, rfl⟩ := same
      obtain ⟨_, _⟩ := path
      obtain ⟨_, _⟩ := other
      subst text
      exact ⟨rfl, rfl⟩
  case testIdentity.testIdentity => exact same

theorem diagnosticSemantics_injective : Function.Injective diagnosticSemantics := by
  intro left right same
  obtain ⟨severity, target, code, messageHash⟩ := left
  obtain ⟨otherSeverity, otherTarget, otherCode, otherHash⟩ := right
  simp only [diagnosticSemantics, Json.obj.injEq, List.cons.injEq, Prod.mk.injEq, Json.str.injEq,
    true_and, and_true] at same
  obtain ⟨rfl, rfl, severities, targets⟩ := same
  obtain rfl := targetSemantics_injective targets
  cases severity <;> cases otherSeverity <;> simp [DiagnosticSeverity.value] at severities ⊢

theorem resultSemantics_eq_iff {left right : ResultEvidence} {others : List Json} :
    resultSemantics left docs = resultSemantics right others ↔
      left.checkId = right.checkId ∧ docs = others ∧ left.disposition = right.disposition ∧
        left.unwrap.invocationHash = right.unwrap.invocationHash ∧
        left.unwrap.status = right.unwrap.status := by
  have ids : ∀ a b : UUID, a.str = b.str ↔ a = b :=
    fun _ _ => ⟨UUID.str_injective, congrArg _⟩
  have statuses : ∀ a b : CheckStatus, a.value = b.value ↔ a = b := by
    intro a b
    cases a <;> cases b <;> simp [CheckStatus.value]
  unfold resultSemantics
  cases left.disposition <;> cases right.disposition <;> simp [ids, statuses]

theorem resultSemantics_plain (result : ResultEvidence) (plain : ∀ doc ∈ docs, doc.Plain) :
    (resultSemantics result docs).Plain := by
  unfold Json.Plain resultSemantics at *
  cases result.disposition <;> simpa +decide [Json.isPlain] using plain

theorem resultSemantics_safe (result : ResultEvidence) (safe : ∀ doc ∈ docs, doc.SafeIntegers) :
    (resultSemantics result docs).SafeIntegers := by
  unfold Json.SafeIntegers resultSemantics at *
  cases result.disposition <;> simpa [Json.isSafeInteger] using safe

theorem fingerprintPayload_plain (commit frozen : String) (plain : ∀ doc ∈ docs, doc.Plain) :
    (fingerprintPayload commit frozen docs).Plain := by
  unfold Json.Plain fingerprintPayload at *
  simpa +decide [Json.isPlain] using plain

theorem fingerprintPayload_safe (commit frozen : String) (safe : ∀ doc ∈ docs, doc.SafeIntegers) :
    (fingerprintPayload commit frozen docs).SafeIntegers := by
  unfold Json.SafeIntegers fingerprintPayload at *
  simpa [Json.isSafeInteger] using safe

/-! ## The semantics of a result -/

omit [LinearOrder β] in
theorem canonicalJsonBytes_eq_ok_iff {document : Json} {bytes : β} :
    canonicalJsonBytes dumps document = .ok bytes ↔ dumps document = some bytes := by
  unfold canonicalJsonBytes
  cases dumps document <;> simp

omit [LinearOrder β] in
theorem keyed_of_mapM {items : List Json} {keyed : List (β × Json)}
    (done : items.mapM (fun item => (canonicalJsonBytes dumps item).map fun bytes => (bytes, item)) =
      .ok keyed) :
    keyed.map Prod.snd = items ∧ ∀ a ∈ keyed, dumps a.2 = some a.1 := by
  have related := (mapM_eq_ok_iff _ _ _).mp done
  clear done
  induction related with
  | nil => simp
  | @cons item a items keyed first _ ih =>
    have pair : a.2 = item ∧ dumps item = some a.1 := by
      obtain ⟨bytes, encoded, rfl⟩ := except_map_eq_ok first
      exact ⟨rfl, canonicalJsonBytes_eq_ok_iff.mp encoded⟩
    refine ⟨by rw [List.map_cons, pair.1, ih.1], ?_⟩
    intro b member
    rcases List.mem_cons.mp member with rfl | later
    · rw [pair.1]
      exact pair.2
    · exact ih.2 b later

theorem semanticDiagnostics_perm {diagnostics : List DiagnosticMapping}
    (done : semanticDiagnostics dumps diagnostics = .ok docs) :
    docs.Perm (diagnostics.map diagnosticSemantics) := by
  obtain ⟨keyed, traversed, same⟩ := except_bind_eq_ok done
  obtain rfl := Except.ok.inj same
  rw [← (keyed_of_mapM traversed).1]
  exact sortKeyed_perm keyed

theorem semanticDiagnostics_ok_iff (canonical : IsCanonical dumps)
    {diagnostics : List DiagnosticMapping} :
    (∃ docs, semanticDiagnostics dumps diagnostics = .ok docs) ↔
      ∀ diagnostic ∈ diagnostics, (diagnosticSemantics diagnostic).SafeIntegers := by
  have steps : (∃ keyed, (diagnostics.map diagnosticSemantics).mapM (fun item =>
      (canonicalJsonBytes dumps item).map fun bytes => (bytes, item)) = .ok keyed) ↔
      ∀ diagnostic ∈ diagnostics, (diagnosticSemantics diagnostic).SafeIntegers := by
    rw [mapM_ok_iff]
    simp only [List.forall_mem_map]
    refine forall₂_congr fun diagnostic _ => ?_
    rw [← canonical.accepts _ (diagnosticSemantics_plain diagnostic)]
    unfold canonicalJsonBytes
    cases dumps (diagnosticSemantics diagnostic) <;> simp [Except.map]
  rw [← steps]
  constructor
  · intro done
    obtain ⟨docs, done⟩ := done
    obtain ⟨keyed, traversed, -⟩ := except_bind_eq_ok done
    exact ⟨keyed, traversed⟩
  · intro done
    obtain ⟨keyed, traversed⟩ := done
    refine ⟨sortKeyed keyed, ?_⟩
    rw [semanticDiagnostics, traversed]
    rfl

theorem semanticDiagnostics_eq_iff (canonical : IsCanonical dumps)
    {left right : List DiagnosticMapping} {others : List Json}
    (done : semanticDiagnostics dumps left = .ok docs)
    (otherDone : semanticDiagnostics dumps right = .ok others) :
    docs = others ↔ left.Perm right := by
  rw [← List.map_perm_map_iff diagnosticSemantics_injective]
  constructor
  · rintro rfl
    exact (semanticDiagnostics_perm done).symm.trans (semanticDiagnostics_perm otherDone)
  · intro same
    obtain ⟨keyed, traversed, result⟩ := except_bind_eq_ok done
    obtain ⟨otherKeyed, otherTraversed, otherResult⟩ := except_bind_eq_ok otherDone
    obtain rfl := Except.ok.inj result
    obtain rfl := Except.ok.inj otherResult
    obtain ⟨items, keys⟩ := keyed_of_mapM traversed
    obtain ⟨otherItems, otherKeys⟩ := keyed_of_mapM otherTraversed
    refine sortKeyed_eq (keyed_perm keys otherKeys (by rwa [items, otherItems])) ?_
    intro a isA b isB equal
    have plain : ∀ c ∈ keyed, c.2.Plain := by
      intro c member
      have inside : c.2 ∈ left.map diagnosticSemantics := items ▸ List.mem_map_of_mem member
      obtain ⟨diagnostic, -, same⟩ := List.mem_map.mp inside
      exact same ▸ diagnosticSemantics_plain diagnostic
    exact Prod.ext equal (canonical.injective a.2 b.2 a.1 (plain a isA) (plain b isB) (keys a isA)
      (equal ▸ keys b isB))

theorem semanticCheckResult_eq_ok_iff {result : ResultEvidence} {document : Json} :
    semanticCheckResult dumps result = .ok document ↔ ∃ docs,
      semanticDiagnostics dumps result.unwrap.diagnostics = .ok docs ∧
        document = resultSemantics result docs := by
  unfold semanticCheckResult
  cases semanticDiagnostics dumps result.unwrap.diagnostics <;>
    simp [Except.map, eq_comm]

theorem semanticCheckResult_ok_iff (canonical : IsCanonical dumps) {result : ResultEvidence} :
    (∃ document, semanticCheckResult dumps result = .ok document) ↔ SafeLines result := by
  have diagnostics := @semanticDiagnostics_ok_iff _ _ _ canonical result.unwrap.diagnostics
  simp only [diagnosticSemantics_safe_iff] at diagnostics
  rw [SafeLines, ← diagnostics]
  simp only [semanticCheckResult_eq_ok_iff]
  constructor
  · rintro ⟨document, docs, done, -⟩
    exact ⟨docs, done⟩
  · rintro ⟨docs, done⟩
    exact ⟨_, docs, done, rfl⟩

theorem semanticCheckResult_eq_iff (canonical : IsCanonical dumps) {left right : ResultEvidence}
    {document other : Json} (found : semanticCheckResult dumps left = .ok document)
    (otherFound : semanticCheckResult dumps right = .ok other) :
    document = other ↔ left.checkId = right.checkId ∧ SameSemantics left right := by
  obtain ⟨docs, done, rfl⟩ := semanticCheckResult_eq_ok_iff.mp found
  obtain ⟨others, otherDone, rfl⟩ := semanticCheckResult_eq_ok_iff.mp otherFound
  rw [resultSemantics_eq_iff, semanticDiagnostics_eq_iff canonical done otherDone, SameSemantics]
  tauto

theorem semanticCheckResult_shape (canonical : IsCanonical dumps) {result : ResultEvidence}
    {document : Json} (found : semanticCheckResult dumps result = .ok document) :
    document.Plain ∧ document.SafeIntegers := by
  have safe := (semanticCheckResult_ok_iff canonical).mp ⟨document, found⟩
  obtain ⟨docs, done, rfl⟩ := semanticCheckResult_eq_ok_iff.mp found
  have origin : ∀ doc ∈ docs, ∃ diagnostic ∈ result.unwrap.diagnostics,
      diagnosticSemantics diagnostic = doc := by
    intro doc member
    exact List.mem_map.mp ((semanticDiagnostics_perm done).mem_iff.mp member)
  constructor
  · apply resultSemantics_plain
    intro doc member
    obtain ⟨diagnostic, -, rfl⟩ := origin doc member
    exact diagnosticSemantics_plain diagnostic
  · apply resultSemantics_safe
    intro doc member
    obtain ⟨diagnostic, inside, rfl⟩ := origin doc member
    exact (diagnosticSemantics_safe_iff diagnostic).mpr (safe diagnostic inside)

/-! ## Fingerprints -/

variable {finalChecks prospectiveChecks : List ResultEvidence}

omit [LinearOrder β] in
theorem SameSemantics.symm {left right : ResultEvidence} (same : SameSemantics left right) :
    SameSemantics right left :=
  ⟨same.1.symm, same.2.1.symm, same.2.2.1.symm, same.2.2.2.symm⟩

theorem keyedResults
    (done : results.mapM (fun result => (semanticCheckResult dumps result).map fun document =>
      (result.checkId.value.val, document)) = .ok keyed) :
    List.Forall₂ (fun result a => a.1 = result.checkId.value.val ∧
      semanticCheckResult dumps result = .ok a.2) results keyed := by
  refine ((mapM_eq_ok_iff _ _ _).mp done).imp ?_
  intro result a found
  obtain ⟨semantics, document, rfl⟩ := except_map_eq_ok found
  exact ⟨rfl, document⟩

theorem verificationFingerprint_eq_ok_iff (unique : (results.map (·.checkId)).Nodup) {fp : δ} :
    verificationFingerprint dumps sha256 commit frozen results = .ok fp ↔ ∃ keyed bytes,
      List.Forall₂ (fun result a => a.1 = result.checkId.value.val ∧
        semanticCheckResult dumps result = .ok a.2) results keyed ∧
      dumps (fingerprintPayload commit frozen (sortKeyed keyed)) = some bytes ∧ fp = sha256 bytes := by
  unfold verificationFingerprint
  rw [if_neg (not_not.mpr unique)]
  constructor
  · intro done
    obtain ⟨keyed, traversed, done⟩ := except_bind_eq_ok done
    obtain ⟨bytes, encoded, done⟩ := except_bind_eq_ok done
    exact ⟨keyed, bytes, keyedResults traversed, canonicalJsonBytes_eq_ok_iff.mp encoded,
      (Except.ok.inj done).symm⟩
  · rintro ⟨keyed, bytes, related, encoded, rfl⟩
    have traversed : results.mapM (fun result => (semanticCheckResult dumps result).map fun document =>
        (result.checkId.value.val, document)) = .ok keyed := by
      refine (mapM_eq_ok_iff _ _ _).mpr (related.imp ?_)
      intro result a facts
      rw [facts.2, ← facts.1]
      rfl
    rw [traversed]
    change (canonicalJsonBytes dumps _ >>= _) = _
    rw [canonicalJsonBytes_eq_ok_iff.mpr encoded]
    rfl

theorem keyed_shape (canonical : IsCanonical dumps)
    (related : List.Forall₂ (fun result a =>
      a.1 = result.checkId.value.val ∧ semanticCheckResult dumps result = .ok a.2) results keyed) :
    ∀ document ∈ sortKeyed keyed, document.Plain ∧ document.SafeIntegers := by
  intro document member
  obtain ⟨a, inside, rfl⟩ := List.mem_map.mp ((sortKeyed_perm keyed).mem_iff.mp member)
  obtain ⟨result, -, -, found⟩ := forall₂_origin related inside
  exact semanticCheckResult_shape canonical found

theorem verificationFingerprint_ok_iff (canonical : IsCanonical dumps)
    (unique : (results.map (·.checkId)).Nodup) :
    (∃ fp, verificationFingerprint dumps sha256 commit frozen results = .ok fp) ↔
      ∀ result ∈ results, SafeLines result := by
  simp only [← semanticCheckResult_ok_iff canonical]
  constructor
  · rintro ⟨fp, done⟩ result member
    obtain ⟨keyed, bytes, related, -⟩ := (verificationFingerprint_eq_ok_iff unique).mp done
    obtain ⟨a, -, -, found⟩ := forall₂_target related member
    exact ⟨a.2, found⟩
  · intro safe
    have steps : ∀ result ∈ results, ∃ a, (semanticCheckResult dumps result).map (fun document =>
        (result.checkId.value.val, document)) = .ok a := by
      intro result member
      obtain ⟨document, found⟩ := safe result member
      exact ⟨_, by rw [found]; rfl⟩
    obtain ⟨keyed, traversed⟩ := mapM_ok_iff.mpr steps
    have related := keyedResults traversed
    have shape := keyed_shape canonical related
    obtain ⟨bytes, encoded⟩ := (canonical.accepts _ (fingerprintPayload_plain commit frozen
      fun document member => (shape document member).1)).mpr
      (fingerprintPayload_safe commit frozen fun document member => (shape document member).2)
    exact ⟨_, (verificationFingerprint_eq_ok_iff unique).mpr
      ⟨keyed, bytes, related, encoded, rfl⟩⟩

theorem keyed_nodup (unique : (results.map (·.checkId)).Nodup)
    (related : List.Forall₂ (fun result a =>
      a.1 = result.checkId.value.val ∧ semanticCheckResult dumps result = .ok a.2) results keyed) :
    (keyed.map Prod.fst).Nodup := by
  have keys : keyed.map Prod.fst = (results.map (·.checkId)).map (·.value.val) := by
    clear unique
    induction related with
    | nil => rfl
    | cons first _ ih => rw [List.map_cons, List.map_cons, List.map_cons, ih, first.1]
  rw [keys]
  refine unique.map ?_
  intro left right same
  obtain ⟨left⟩ := left
  obtain ⟨right⟩ := right
  exact congrArg UUID.mk (Fin.ext same)

theorem eq_of_checkId (unique : (results.map (·.checkId)).Nodup) {left right : ResultEvidence}
    (isLeft : left ∈ results) (isRight : right ∈ results) (same : left.checkId = right.checkId) :
    left = right :=
  List.inj_on_of_nodup_map unique isLeft isRight same

/-- Where one list has the same checks with the same semantics as another one, its documents stand
beside the same keys there. -/
theorem keyed_subset (canonical : IsCanonical dumps) {others : List (Nat × Json)}
    (related : List.Forall₂ (fun result a => a.1 = result.checkId.value.val ∧
      semanticCheckResult dumps result = .ok a.2) finalChecks keyed)
    (otherRelated : List.Forall₂ (fun result a => a.1 = result.checkId.value.val ∧
      semanticCheckResult dumps result = .ok a.2) prospectiveChecks others)
    (ids : ∀ id ∈ finalChecks.map (·.checkId), id ∈ prospectiveChecks.map (·.checkId))
    (same : ∀ left right, Shared finalChecks prospectiveChecks left right →
      SameSemantics left right) : ∀ a ∈ keyed, a ∈ others := by
  intro a member
  obtain ⟨left, isLeft, key, found⟩ := forall₂_origin related member
  obtain ⟨right, isRight, equal⟩ := List.mem_map.mp (ids _ (List.mem_map_of_mem isLeft))
  obtain ⟨b, isOther, otherKey, otherFound⟩ := forall₂_target otherRelated isRight
  have documents : a.2 = b.2 := (semanticCheckResult_eq_iff canonical found otherFound).mpr
    ⟨equal.symm, same left right ⟨isLeft, isRight, equal.symm⟩⟩
  have keys : a.1 = b.1 := by rw [key, otherKey, equal]
  rw [Prod.ext keys documents]
  exact isOther

/-- The fingerprints of two lists with different checks in each are equal exactly where the commits
and the frozen checks are equal and the lists have the same checks with the same semantics. -/
theorem verificationFingerprint_eq_iff (canonical : IsCanonical dumps)
    (collisionFree : Function.Injective sha256) {otherCommit otherFrozen : String} {fp other : δ}
    (unique : (finalChecks.map (·.checkId)).Nodup)
    (otherUnique : (prospectiveChecks.map (·.checkId)).Nodup)
    (done : verificationFingerprint dumps sha256 commit frozen finalChecks = .ok fp)
    (otherDone : verificationFingerprint dumps sha256 otherCommit otherFrozen prospectiveChecks =
      .ok other) :
    fp = other ↔ (commit = otherCommit ∧ frozen = otherFrozen) ∧
      (∀ id, id ∈ finalChecks.map (·.checkId) ↔ id ∈ prospectiveChecks.map (·.checkId)) ∧
        ∀ left right, Shared finalChecks prospectiveChecks left right → SameSemantics left right := by
  obtain ⟨keyed, bytes, related, encoded, rfl⟩ := (verificationFingerprint_eq_ok_iff unique).mp done
  obtain ⟨others, otherBytes, otherRelated, otherEncoded, rfl⟩ :=
    (verificationFingerprint_eq_ok_iff otherUnique).mp otherDone
  rw [collisionFree.eq_iff]
  constructor
  · rintro rfl
    have payloads := canonical.injective _ _ bytes
      (fingerprintPayload_plain commit frozen fun document member =>
        (keyed_shape canonical related document member).1)
      (fingerprintPayload_plain otherCommit otherFrozen fun document member =>
        (keyed_shape canonical otherRelated document member).1) encoded otherEncoded
    obtain ⟨sameFrozen, sorted, sameCommit⟩ : frozen = otherFrozen ∧
        sortKeyed keyed = sortKeyed others ∧ commit = otherCommit := by
      simpa [fingerprintPayload] using payloads
    have documents : (keyed.map Prod.snd).Perm (others.map Prod.snd) :=
      (sortKeyed_perm keyed).symm.trans (sorted ▸ sortKeyed_perm others)
    -- every result of one list stands in the other one with its semantics
    have forth : ∀ left ∈ finalChecks, ∃ right ∈ prospectiveChecks,
        left.checkId = right.checkId ∧ SameSemantics left right := by
      intro left isLeft
      obtain ⟨a, inside, -, found⟩ := forall₂_target related isLeft
      obtain ⟨b, otherInside, same⟩ :=
        List.mem_map.mp (documents.mem_iff.mp (List.mem_map_of_mem inside))
      obtain ⟨right, isRight, -, otherFound⟩ := forall₂_origin otherRelated otherInside
      exact ⟨right, isRight, (semanticCheckResult_eq_iff canonical found otherFound).mp same.symm⟩
    have back : ∀ right ∈ prospectiveChecks, ∃ left ∈ finalChecks, left.checkId = right.checkId := by
      intro right isRight
      obtain ⟨b, otherInside, -, otherFound⟩ := forall₂_target otherRelated isRight
      obtain ⟨a, inside, same⟩ :=
        List.mem_map.mp (documents.mem_iff.mpr (List.mem_map_of_mem otherInside))
      obtain ⟨left, isLeft, -, found⟩ := forall₂_origin related inside
      exact ⟨left, isLeft, ((semanticCheckResult_eq_iff canonical found otherFound).mp same).1⟩
    refine ⟨⟨sameCommit, sameFrozen⟩, ?_, ?_⟩
    · intro id
      constructor
      · intro member
        obtain ⟨left, isLeft, rfl⟩ := List.mem_map.mp member
        obtain ⟨right, isRight, same, -⟩ := forth left isLeft
        exact List.mem_map.mpr ⟨right, isRight, same.symm⟩
      · intro member
        obtain ⟨right, isRight, rfl⟩ := List.mem_map.mp member
        exact List.mem_map.mpr (back right isRight)
    · rintro left right ⟨isLeft, isRight, same⟩
      obtain ⟨found, isFound, equal, semantics⟩ := forth left isLeft
      rw [eq_of_checkId otherUnique isRight isFound (same.symm.trans equal)]
      exact semantics
  · rintro ⟨⟨rfl, rfl⟩, ids, same⟩
    have mirrored : ∀ left right, Shared prospectiveChecks finalChecks left right →
        SameSemantics left right :=
      fun left right shared => (same right left ⟨shared.2.1, shared.1, shared.2.2.symm⟩).symm
    have perm : keyed.Perm others := by
      rw [List.perm_ext_iff_of_nodup (.of_map _ (keyed_nodup unique related))
        (.of_map _ (keyed_nodup otherUnique otherRelated))]
      intro a
      exact ⟨keyed_subset canonical related otherRelated (fun id => (ids id).mp) same a,
        keyed_subset canonical otherRelated related (fun id => (ids id).mpr) mirrored a⟩
    have sorted : sortKeyed keyed = sortKeyed others := by
      apply sortKeyed_eq perm
      intro a isA b isB equal
      exact List.inj_on_of_nodup_map (keyed_nodup unique related) isA isB equal
    rw [sorted, otherEncoded] at encoded
    exact (Option.some.inj encoded).symm

/-! ## One by one -/

/-- Both layers ran the check, with different semantics. -/
def DiffersAt (finalChecks prospectiveChecks : List ResultEvidence) (id : UUID) : Prop :=
  ∃ left right, Shared finalChecks prospectiveChecks left right ∧ left.checkId = id ∧
    ¬ SameSemantics left right

/-- The line numbers of the shared results of a check are accepted. -/
def SafeAt (finalChecks prospectiveChecks : List ResultEvidence) (id : UUID) : Prop :=
  ∀ left right, Shared finalChecks prospectiveChecks left right → left.checkId = id →
    SafeLines left ∧ SafeLines right

theorem find?_checkId (unique : (results.map (·.checkId)).Nodup) {result : ResultEvidence}
    (member : result ∈ results) : results.find? (·.checkId = result.checkId) = some result := by
  cases found : results.find? (·.checkId = result.checkId) with
  | none =>
    have missed := List.find?_eq_none.mp found result member
    simp at missed
  | some other =>
    have same : other.checkId = result.checkId := by simpa using List.find?_some found
    rw [eq_of_checkId unique (List.mem_of_find?_eq_some found) member same]

section Pairs

variable {left right : ResultEvidence}

theorem anyDifferent_cons (unique : (finalChecks.map (·.checkId)).Nodup)
    (otherUnique : (prospectiveChecks.map (·.checkId)).Nodup)
    (shared : Shared finalChecks prospectiveChecks left right) (ids : List UUID) :
    anyDifferent dumps finalChecks prospectiveChecks (left.checkId :: ids) = (do
      let document ← semanticCheckResult dumps left
      let other ← semanticCheckResult dumps right
      if document ≠ other then return true
      else anyDifferent dumps finalChecks prospectiveChecks ids) := by
  have other := find?_checkId otherUnique shared.2.1
  rw [← shared.2.2] at other
  rw [anyDifferent, find?_checkId unique shared.1, other]

theorem anyDifferent_refused (canonical : IsCanonical dumps)
    (unique : (finalChecks.map (·.checkId)).Nodup)
    (otherUnique : (prospectiveChecks.map (·.checkId)).Nodup)
    (shared : Shared finalChecks prospectiveChecks left right) (ids : List UUID)
    (refused : ¬ (SafeLines left ∧ SafeLines right)) (drifted : Bool) :
    anyDifferent dumps finalChecks prospectiveChecks (left.checkId :: ids) ≠ .ok drifted := by
  intro done
  rw [anyDifferent_cons unique otherUnique shared] at done
  obtain ⟨document, found, done⟩ := except_bind_eq_ok done
  obtain ⟨other, otherFound, -⟩ := except_bind_eq_ok done
  exact refused ⟨(semanticCheckResult_ok_iff canonical).mp ⟨document, found⟩,
    (semanticCheckResult_ok_iff canonical).mp ⟨other, otherFound⟩⟩

theorem anyDifferent_compared (canonical : IsCanonical dumps)
    (unique : (finalChecks.map (·.checkId)).Nodup)
    (otherUnique : (prospectiveChecks.map (·.checkId)).Nodup)
    (shared : Shared finalChecks prospectiveChecks left right) (ids : List UUID)
    (safe : SafeLines left ∧ SafeLines right) :
    (¬ SameSemantics left right →
        anyDifferent dumps finalChecks prospectiveChecks (left.checkId :: ids) = .ok true) ∧
      (SameSemantics left right →
        anyDifferent dumps finalChecks prospectiveChecks (left.checkId :: ids) =
          anyDifferent dumps finalChecks prospectiveChecks ids) := by
  obtain ⟨document, found⟩ := (semanticCheckResult_ok_iff canonical).mpr safe.1
  obtain ⟨other, otherFound⟩ := (semanticCheckResult_ok_iff canonical).mpr safe.2
  have equal : document = other ↔ SameSemantics left right := by
    rw [semanticCheckResult_eq_iff canonical found otherFound]
    exact and_iff_right shared.2.2
  rw [anyDifferent_cons unique otherUnique shared, found, otherFound]
  constructor
  · intro different
    exact if_pos (equal.not.mpr different)
  · intro same
    exact if_neg (not_not.mpr (equal.mpr same))

theorem at_shared_iff (unique : (finalChecks.map (·.checkId)).Nodup)
    (otherUnique : (prospectiveChecks.map (·.checkId)).Nodup)
    (shared : Shared finalChecks prospectiveChecks left right) :
    (SafeAt finalChecks prospectiveChecks left.checkId ↔ SafeLines left ∧ SafeLines right) ∧
      (DiffersAt finalChecks prospectiveChecks left.checkId ↔ ¬ SameSemantics left right) := by
  have only : ∀ other another, Shared finalChecks prospectiveChecks other another →
      other.checkId = left.checkId → other = left ∧ another = right := by
    intro other another both same
    exact ⟨eq_of_checkId unique both.1 shared.1 same,
      eq_of_checkId otherUnique both.2.1 shared.2.1 (both.2.2.symm.trans (same.trans shared.2.2))⟩
  refine ⟨⟨fun all => all left right shared rfl, ?_⟩, ⟨?_, fun different =>
    ⟨left, right, shared, rfl, different⟩⟩⟩
  · intro both other another isShared same
    obtain ⟨rfl, rfl⟩ := only other another isShared same
    exact both
  · rintro ⟨other, another, isShared, same, different⟩
    obtain ⟨rfl, rfl⟩ := only other another isShared same
    exact different

end Pairs

/-- The comparison comes to an end where before every check with a line number that is refused
stands one whose results are different; then it tells whether any two are different. -/
theorem anyDifferent_spec (canonical : IsCanonical dumps)
    (unique : (finalChecks.map (·.checkId)).Nodup)
    (otherUnique : (prospectiveChecks.map (·.checkId)).Nodup) {ids : List UUID}
    (listed : ∀ id ∈ ids, ∃ left right, Shared finalChecks prospectiveChecks left right ∧
      left.checkId = id) :
    ((∃ drifted, anyDifferent dumps finalChecks prospectiveChecks ids = .ok drifted) ↔
      ∀ before id after, ids = before ++ id :: after →
        ¬ SafeAt finalChecks prospectiveChecks id →
        ∃ other ∈ before, SafeAt finalChecks prospectiveChecks other ∧
          DiffersAt finalChecks prospectiveChecks other) ∧
      ∀ drifted, anyDifferent dumps finalChecks prospectiveChecks ids = .ok drifted →
        (drifted = true ↔ ∃ id ∈ ids, DiffersAt finalChecks prospectiveChecks id) := by
  induction ids with
  | nil => simp [anyDifferent]
  | cons id ids ih =>
    obtain ⟨ends, verdict⟩ := ih fun other member => listed other (List.mem_cons_of_mem _ member)
    obtain ⟨left, right, shared, rfl⟩ := listed id List.mem_cons_self
    obtain ⟨safe, differs⟩ := at_shared_iff unique otherUnique shared
    by_cases bothSafe : SafeLines left ∧ SafeLines right
    · obtain ⟨stops, goesOn⟩ :=
        anyDifferent_compared canonical unique otherUnique shared ids bothSafe
      by_cases same : SameSemantics left right
      · rw [goesOn same]
        have notHere : ¬ DiffersAt finalChecks prospectiveChecks left.checkId :=
          fun different => differs.mp different same
        constructor
        · rw [ends]
          constructor
          · intro later before other after split unsafe_
            cases before with
            | nil =>
              obtain ⟨rfl, -⟩ := List.cons.inj split
              exact absurd (safe.mpr bothSafe) unsafe_
            | cons first before =>
              obtain ⟨rfl, rest⟩ := List.cons.inj split
              obtain ⟨found, member, facts⟩ := later before other after rest unsafe_
              exact ⟨found, List.mem_cons_of_mem _ member, facts⟩
          · intro all before other after split unsafe_
            obtain ⟨found, member, isSafe, different⟩ :=
              all (left.checkId :: before) other after (by rw [split]; rfl) unsafe_
            rcases List.mem_cons.mp member with rfl | inside
            · exact absurd different notHere
            · exact ⟨found, inside, isSafe, different⟩
        · intro drifted done
          rw [verdict drifted done]
          simp [notHere]
      · rw [stops same]
        have here := differs.mpr same
        constructor
        · refine ⟨fun _ => ?_, fun _ => ⟨true, rfl⟩⟩
          intro before other after split unsafe_
          cases before with
          | nil =>
            obtain ⟨rfl, -⟩ := List.cons.inj split
            exact absurd (safe.mpr bothSafe) unsafe_
          | cons first before =>
            obtain ⟨rfl, -⟩ := List.cons.inj split
            exact ⟨_, List.mem_cons_self, safe.mpr bothSafe, here⟩
        · intro drifted done
          obtain rfl := Except.ok.inj done
          simp [here]
    · have raises := anyDifferent_refused canonical unique otherUnique shared ids bothSafe
      refine ⟨⟨?_, ?_⟩, fun drifted done => absurd done (raises drifted)⟩
      · rintro ⟨drifted, done⟩
        exact absurd done (raises drifted)
      · intro all
        obtain ⟨_, member, -⟩ := all [] left.checkId ids rfl (safe.not.mpr bothSafe)
        cases member

/-! ## The comparison -/

/-- The comparison of two layers returns, and reports that the verification is not deterministic
exactly where a check that both ran has different semantics. -/
def StabilityDecided [DecidableEq δ] (dumps : Json → Option β) (sha256 : β → δ) (commit : String)
    (finalChecks : List ResultEvidence) (finalFrozenHash : String)
    (prospectiveChecks : List ResultEvidence) (prospectiveFrozenHash : String) : Prop :=
  ∃ comparison, compareStability dumps sha256 commit finalChecks finalFrozenHash prospectiveChecks
      prospectiveFrozenHash commit = .ok comparison ∧
    (comparison.nondeterministic = true ↔ ∃ id, DiffersAt finalChecks prospectiveChecks id)

/-- When that is so. With equal frozen checks all line numbers are accepted, and the layers ran the
same checks unless a shared one differs; otherwise a check that differs stands before every shared
one with a line number that is refused. -/
def ComparesSoundly (finalChecks : List ResultEvidence) (finalFrozenHash : String)
    (prospectiveChecks : List ResultEvidence) (prospectiveFrozenHash : String) : Prop :=
  (∃ left right, Shared finalChecks prospectiveChecks left right) →
    if finalFrozenHash = prospectiveFrozenHash then
      (∀ result ∈ finalChecks ++ prospectiveChecks, SafeLines result) ∧
        ((∀ id, id ∈ finalChecks.map (·.checkId) ↔ id ∈ prospectiveChecks.map (·.checkId)) ∨
          ∃ id, DiffersAt finalChecks prospectiveChecks id)
    else
      ∀ left right, Shared finalChecks prospectiveChecks left right →
        ¬ (SafeLines left ∧ SafeLines right) →
        ∃ other another, Shared finalChecks prospectiveChecks other another ∧
          other.checkId.value < left.checkId.value ∧ SafeLines other ∧ SafeLines another ∧
          ¬ SameSemantics other another

theorem mem_sharedIds_iff {id : UUID} : id ∈ sharedIds finalChecks prospectiveChecks ↔
    ∃ left right, Shared finalChecks prospectiveChecks left right ∧ left.checkId = id := by
  simp only [sharedIds, List.mem_insertionSort, List.mem_filter, List.mem_map, decide_eq_true_eq]
  constructor
  · rintro ⟨⟨left, isLeft, rfl⟩, right, isRight, same⟩
    exact ⟨left, right, ⟨isLeft, isRight, same.symm⟩, rfl⟩
  · rintro ⟨left, right, ⟨isLeft, isRight, same⟩, rfl⟩
    exact ⟨⟨left, isLeft, rfl⟩, right, isRight, same.symm⟩

theorem sharedIds_sorted (unique : (finalChecks.map (·.checkId)).Nodup) :
    (sharedIds finalChecks prospectiveChecks).Pairwise fun left right => left.value < right.value := by
  have total : Std.Total (fun left right : UUID => left.value ≤ right.value) :=
    ⟨fun left right => le_total left.value right.value⟩
  have trans : IsTrans UUID (fun left right => left.value ≤ right.value) :=
    ⟨fun _ _ _ first second => le_trans first second⟩
  have ordered : (sharedIds finalChecks prospectiveChecks).Pairwise
      fun left right => left.value ≤ right.value := List.pairwise_insertionSort _ _
  have different : (sharedIds finalChecks prospectiveChecks).Nodup :=
    (List.perm_insertionSort _ _).nodup_iff.mpr (unique.filter _)
  refine (ordered.and different).imp ?_
  rintro ⟨left⟩ ⟨right⟩ ⟨before, apart⟩
  exact lt_of_le_of_ne before fun same => apart (congrArg UUID.mk same)

theorem mem_before_iff {α : Type} {lt : α → α → Prop} (irrefl : ∀ a, ¬ lt a a)
    (asymm : ∀ a b, lt a b → ¬ lt b a) {items before after : List α} {item : α}
    (sorted : items.Pairwise lt) (split : items = before ++ item :: after) {other : α} :
    other ∈ before ↔ other ∈ items ∧ lt other item := by
  subst split
  obtain ⟨-, ⟨later, -⟩, earlier⟩ := by
    simpa only [List.pairwise_append, List.pairwise_cons] using sorted
  constructor
  · intro member
    exact ⟨List.mem_append_left _ member, earlier other member item List.mem_cons_self⟩
  · rintro ⟨member, less⟩
    rcases List.mem_append.mp member with inside | rest
    · exact inside
    · rcases List.mem_cons.mp rest with rfl | behind
      · exact absurd less (irrefl _)
      · exact absurd less (asymm _ _ (later other behind))

theorem anyDifferent_shared (canonical : IsCanonical dumps)
    (unique : (finalChecks.map (·.checkId)).Nodup)
    (otherUnique : (prospectiveChecks.map (·.checkId)).Nodup) :
    (∃ drifted, anyDifferent dumps finalChecks prospectiveChecks
        (sharedIds finalChecks prospectiveChecks) = .ok drifted ∧
      (drifted = true ↔ ∃ id, DiffersAt finalChecks prospectiveChecks id)) ↔
      ∀ left right, Shared finalChecks prospectiveChecks left right →
        ¬ (SafeLines left ∧ SafeLines right) →
        ∃ other another, Shared finalChecks prospectiveChecks other another ∧
          other.checkId.value < left.checkId.value ∧ SafeLines other ∧ SafeLines another ∧
          ¬ SameSemantics other another := by
  have listed : ∀ id ∈ sharedIds finalChecks prospectiveChecks, ∃ left right,
      Shared finalChecks prospectiveChecks left right ∧ left.checkId = id :=
    fun id member => mem_sharedIds_iff.mp member
  obtain ⟨ends, verdict⟩ := anyDifferent_spec canonical unique otherUnique listed
  have complete : (∃ id ∈ sharedIds finalChecks prospectiveChecks,
      DiffersAt finalChecks prospectiveChecks id) ↔
      ∃ id, DiffersAt finalChecks prospectiveChecks id := by
    constructor
    · rintro ⟨id, -, differs⟩
      exact ⟨id, differs⟩
    · rintro ⟨id, left, right, shared, rfl, different⟩
      exact ⟨_, mem_sharedIds_iff.mpr ⟨left, right, shared, rfl⟩, left, right, shared, rfl, different⟩
  have before_iff : ∀ {before after : List UUID} {id other : UUID},
      sharedIds finalChecks prospectiveChecks = before ++ id :: after →
      (other ∈ before ↔ other ∈ sharedIds finalChecks prospectiveChecks ∧ other.value < id.value) :=
    fun split => @mem_before_iff UUID (fun left right => left.value < right.value)
      (fun _ => lt_irrefl _) (fun _ _ => lt_asymm) _ _ _ _ (sharedIds_sorted unique) split _
  have stops : (∃ drifted, anyDifferent dumps finalChecks prospectiveChecks
        (sharedIds finalChecks prospectiveChecks) = .ok drifted ∧
      (drifted = true ↔ ∃ id, DiffersAt finalChecks prospectiveChecks id)) ↔
      ∃ drifted, anyDifferent dumps finalChecks prospectiveChecks
        (sharedIds finalChecks prospectiveChecks) = .ok drifted := by
    constructor
    · rintro ⟨drifted, done, -⟩
      exact ⟨drifted, done⟩
    · rintro ⟨drifted, done⟩
      exact ⟨drifted, done, (verdict drifted done).trans complete⟩
  rw [stops, ends]
  constructor
  · intro all left right shared refused
    obtain ⟨before, after, split⟩ :=
      List.append_of_mem (mem_sharedIds_iff.mpr ⟨left, right, shared, rfl⟩)
    obtain ⟨id, member, isSafe, other, another, isShared, rfl, different⟩ :=
      all before _ after split ((at_shared_iff unique otherUnique shared).1.not.mpr refused)
    obtain ⟨safe, another_⟩ := isSafe other another isShared rfl
    exact ⟨other, another, isShared, ((before_iff split).mp member).2, safe, another_, different⟩
  · intro all before id after split refused
    obtain ⟨left, right, shared, rfl⟩ := mem_sharedIds_iff.mp
      (show id ∈ sharedIds finalChecks prospectiveChecks by rw [split]; simp)
    obtain ⟨other, another, isShared, less, safe, another_, different⟩ :=
      all left right shared ((at_shared_iff unique otherUnique shared).1.not.mp refused)
    refine ⟨other.checkId, (before_iff split).mpr
      ⟨mem_sharedIds_iff.mpr ⟨other, another, isShared, rfl⟩, less⟩, ?_, ?_⟩
    · exact (at_shared_iff unique otherUnique isShared).1.mpr ⟨safe, another_⟩
    · exact (at_shared_iff unique otherUnique isShared).2.mpr different

theorem no_difference_iff : (¬ ∃ id, DiffersAt finalChecks prospectiveChecks id) ↔
    ∀ left right, Shared finalChecks prospectiveChecks left right → SameSemantics left right := by
  constructor
  · intro none left right shared
    by_contra different
    exact none ⟨_, left, right, shared, rfl, different⟩
  · rintro same ⟨id, left, right, shared, -, different⟩
    exact different (same left right shared)

/-- By their fingerprints two layers are compared as they should be where all line numbers are
accepted, and both ran the same checks or a check differs. -/
theorem fingerprints_shared [DecidableEq δ] (canonical : IsCanonical dumps)
    (collisionFree : Function.Injective sha256) (commit frozen : String)
    (unique : (finalChecks.map (·.checkId)).Nodup)
    (otherUnique : (prospectiveChecks.map (·.checkId)).Nodup) :
    (∃ drifted, stabilityDrifted dumps sha256 commit finalChecks frozen prospectiveChecks frozen
        commit = .ok drifted ∧
      (drifted = true ↔ ∃ id, DiffersAt finalChecks prospectiveChecks id)) ↔
      (∀ result ∈ finalChecks ++ prospectiveChecks, SafeLines result) ∧
        ((∀ id, id ∈ finalChecks.map (·.checkId) ↔ id ∈ prospectiveChecks.map (·.checkId)) ∨
          ∃ id, DiffersAt finalChecks prospectiveChecks id) := by
  rw [stabilityDrifted, if_pos rfl]
  constructor
  · rintro ⟨drifted, done, verdict⟩
    obtain ⟨fp, made, done⟩ := except_bind_eq_ok done
    obtain ⟨other, otherMade, done⟩ := except_bind_eq_ok done
    obtain rfl := Except.ok.inj done
    constructor
    · intro result member
      rcases List.mem_append.mp member with isFinal | isProspective
      · exact (verificationFingerprint_ok_iff canonical unique).mp ⟨fp, made⟩ result isFinal
      · exact (verificationFingerprint_ok_iff canonical otherUnique).mp ⟨other, otherMade⟩ result
          isProspective
    · by_cases differs : ∃ id, DiffersAt finalChecks prospectiveChecks id
      · exact .inr differs
      · left
        rw [decide_eq_true_eq] at verdict
        have equal : fp = other := not_not.mp (verdict.not.mpr differs)
        exact ((verificationFingerprint_eq_iff canonical collisionFree unique otherUnique made
          otherMade).mp equal).2.1
  · rintro ⟨safe, covered⟩
    obtain ⟨fp, made⟩ : ∃ fp, verificationFingerprint dumps sha256 commit frozen finalChecks = .ok fp :=
      (verificationFingerprint_ok_iff canonical unique).mpr fun result member =>
        safe result (List.mem_append_left _ member)
    obtain ⟨other, otherMade⟩ : ∃ fp,
        verificationFingerprint dumps sha256 commit frozen prospectiveChecks = .ok fp :=
      (verificationFingerprint_ok_iff canonical otherUnique).mpr fun result member =>
        safe result (List.mem_append_right _ member)
    refine ⟨decide (fp ≠ other), by rw [made, otherMade]; rfl, ?_⟩
    rw [decide_eq_true_eq, Ne, verificationFingerprint_eq_iff canonical collisionFree unique
      otherUnique made otherMade, and_iff_right ⟨rfl, rfl⟩, ← no_difference_iff]
    rcases covered with ids | differs
    · rw [and_iff_right ids, not_not]
    · simp [differs]

theorem stabilityDecided_shared_iff [DecidableEq δ] {finalFrozenHash prospectiveFrozenHash : String}
    (unique : (finalChecks.map (·.checkId)).Nodup)
    (otherUnique : (prospectiveChecks.map (·.checkId)).Nodup)
    (some : sharedIds finalChecks prospectiveChecks ≠ []) :
    StabilityDecided dumps sha256 commit finalChecks finalFrozenHash prospectiveChecks
        prospectiveFrozenHash ↔
      ∃ drifted, stabilityDrifted dumps sha256 commit finalChecks finalFrozenHash prospectiveChecks
          prospectiveFrozenHash commit = .ok drifted ∧
        (drifted = true ↔ ∃ id, DiffersAt finalChecks prospectiveChecks id) := by
  rw [StabilityDecided, compareStability, if_neg (not_not.mpr unique),
    if_neg (not_not.mpr otherUnique), if_neg (not_not.mpr rfl), if_neg some]
  cases stabilityDrifted dumps sha256 commit finalChecks finalFrozenHash prospectiveChecks
    prospectiveFrozenHash commit <;> simp [Except.map]

/-- The comparison is right exactly where it compares soundly. -/
theorem stability_decided_iff [DecidableEq δ] (canonical : IsCanonical dumps)
    (collisionFree : Function.Injective sha256) (commit finalFrozenHash prospectiveFrozenHash : String)
    (unique : (finalChecks.map (·.checkId)).Nodup)
    (otherUnique : (prospectiveChecks.map (·.checkId)).Nodup) :
    StabilityDecided dumps sha256 commit finalChecks finalFrozenHash prospectiveChecks
        prospectiveFrozenHash ↔
      ComparesSoundly finalChecks finalFrozenHash prospectiveChecks prospectiveFrozenHash := by
  by_cases none : sharedIds finalChecks prospectiveChecks = []
  · have apart : ∀ left right, ¬ Shared finalChecks prospectiveChecks left right := by
      intro left right shared
      have member := mem_sharedIds_iff.mpr ⟨left, right, shared, rfl⟩
      rw [none] at member
      cases member
    rw [StabilityDecided, compareStability, if_neg (not_not.mpr unique),
      if_neg (not_not.mpr otherUnique), if_neg (not_not.mpr rfl), if_pos none]
    constructor
    · rintro - ⟨left, right, shared⟩
      exact absurd shared (apart left right)
    · intro _
      refine ⟨_, rfl, ?_⟩
      constructor
      · intro drifted
        cases drifted
      · rintro ⟨id, left, right, shared, -⟩
        exact absurd shared (apart left right)
  · have shared : ∃ left right, Shared finalChecks prospectiveChecks left right := by
      obtain ⟨id, member⟩ := List.exists_mem_of_ne_nil _ none
      obtain ⟨left, right, shared, -⟩ := mem_sharedIds_iff.mp member
      exact ⟨left, right, shared⟩
    rw [stabilityDecided_shared_iff unique otherUnique none, ComparesSoundly]
    by_cases equal : finalFrozenHash = prospectiveFrozenHash
    · subst equal
      simp only [if_true, fingerprints_shared canonical collisionFree commit finalFrozenHash unique
        otherUnique, shared, true_imp_iff]
    · simp only [if_neg equal, stabilityDrifted, anyDifferent_shared canonical unique otherUnique,
        shared, true_imp_iff]

/-! ## Two layers on one commit -/

namespace SampleLayers

/-- The bytes of a document: a text that is written out, or those of the document. -/
inductive Bytes where
  | text (value : String)
  | of (document : Json)

/-- The digest of bytes: one that is written out, or that of the bytes. -/
inductive Digest where
  | hex (value : String)
  | of (bytes : Bytes)

noncomputable instance bytesOrder : LinearOrder Bytes :=
  IsWellOrder.linearOrder WellOrderingRel

noncomputable instance digestDecidableEq : DecidableEq Digest := Classical.decEq Digest

def oid : String := "aaaaaaaaaaaaaaaaaaaaaaaaaaaaaaaaaaaaaaaa"

def frozenHash : String := "bbbbbbbbbbbbbbbbbbbbbbbbbbbbbbbbbbbbbbbbbbbbbbbbbbbbbbbbbbbbbbbb"

/-- A warning about a line. -/
def warning : DiagnosticMapping :=
  ⟨.warning, .fileLine ⟨"src/c.py", by decide⟩ 3, "W1",
    "dddddddddddddddddddddddddddddddddddddddddddddddddddddddddddddddd"⟩

/-- A check that passed with the warning. -/
def passed (id : UUID) : ResultEvidence :=
  .result ⟨id, "cccccccccccccccccccccccccccccccccccccccccccccccccccccccccccccccc", .passed,
    [warning]⟩

/-- What a layer signs that ran two checks. -/
def payload : Json := fingerprintPayload oid frozenHash
  ([⟨1⟩, ⟨2⟩].map fun id => resultSemantics (passed id) [diagnosticSemantics warning])

def resultText (id : UUID) : String :=
  "\x7b\x22check_id\x22:\x22" ++ id.str ++
  "\x22,\x22diagnostics\x22:[\x7b\x22code\x22:\x22W1\x22,\x22message_hash\x22:\x22dddddddddddddddddddddddddddddddddddddddddddddddddddddddddddddddd\x22,\x22severity\x22:\x22Warning\x22,\x22target\x22:\x7b\x22file_path\x22:\x22src/c.py\x22,\x22kind\x22:\x22FILE_LINE\x22,\x22line\x22:3\x7d\x7d],\x22invocation_hash\x22:\x22cccccccccccccccccccccccccccccccccccccccccccccccccccccccccccccccc\x22,\x22status\x22:\x22PASSED\x22\x7d"

def payloadBytes : Bytes := .text
  ("\x7b\x22frozen_required_checks_sha256\x22:\x22bbbbbbbbbbbbbbbbbbbbbbbbbbbbbbbbbbbbbbbbbbbbbbbbbbbbbbbbbbbbbbbb\x22,\x22semantic_results\x22:[" ++
    resultText ⟨1⟩ ++ "," ++ resultText ⟨2⟩ ++
    "],\x22tested_commit_oid\x22:\x22aaaaaaaaaaaaaaaaaaaaaaaaaaaaaaaaaaaaaaaa\x22\x7d")

open Classical in
/-- The encoding of documents. -/
noncomputable def encode (document : Json) : Option Bytes :=
  if document.SafeIntegers then some (if document = payload then payloadBytes else .of document)
  else none

open Classical in
/-- The digests of bytes. -/
noncomputable def digest (bytes : Bytes) : Digest :=
  if bytes = payloadBytes then
    .hex "41ccd0d4dc3179367f4630aa5e78f9b149e82722c88eb93fb99e432bcd2a9a70"
  else .of bytes

theorem encode_isCanonical : IsCanonical encode := by
  constructor
  · intro document _
    unfold encode
    by_cases safe : document.SafeIntegers <;> simp [safe]
  · intro left right bytes _ _ leftBytes rightBytes
    unfold encode at leftBytes rightBytes
    split at leftBytes
    · split at rightBytes
      · have equal := Option.some.inj (leftBytes.trans rightBytes.symm)
        clear leftBytes rightBytes
        by_cases isLeft : left = payload <;> by_cases isRight : right = payload <;>
          simp [isLeft, isRight, payloadBytes] at equal ⊢
        exact equal
      · cases rightBytes
    · cases leftBytes

theorem digest_injective : Function.Injective digest := by
  intro left right same
  unfold digest at same
  split at same <;> split at same <;> simp_all

/-- Two layers that ran two checks with the same results, in another order, are stable. -/
theorem two_checks_decided : StabilityDecided encode digest oid [passed ⟨1⟩, passed ⟨2⟩] frozenHash
    [passed ⟨2⟩, passed ⟨1⟩] frozenHash := by
  refine (stability_decided_iff encode_isCanonical digest_injective oid frozenHash frozenHash
    (by decide) (by decide)).mpr ?_
  intro _
  rw [if_pos rfl]
  refine ⟨?_, .inl fun _ => by simp [or_comm]⟩
  intro result member diagnostic inside
  have same : result = passed ⟨1⟩ ∨ result = passed ⟨2⟩ := by
    simp only [List.mem_append, List.mem_cons, List.not_mem_nil, or_false] at member
    tauto
  have isWarning : diagnostic = warning := by
    rcases same with rfl | rfl <;> exact List.mem_singleton.mp inside
  rw [isWarning]
  rintro _ _ ⟨⟩
  decide

/-- A check that one layer ran alone makes the verification not deterministic. -/
theorem own_check_reported : ¬ ∀ (β δ : Type) (_ : LinearOrder β) (_ : DecidableEq δ)
    (dumps : Json → Option β) (sha256 : β → δ), IsCanonical dumps → Function.Injective sha256 →
    ∀ (commit : String) (finalChecks prospectiveChecks : List ResultEvidence)
      (finalFrozenHash prospectiveFrozenHash : String),
    (finalChecks.map (·.checkId)).Nodup → (prospectiveChecks.map (·.checkId)).Nodup →
    StabilityDecided dumps sha256 commit finalChecks finalFrozenHash prospectiveChecks
      prospectiveFrozenHash := by
  intro all
  have decided := all Bytes Digest bytesOrder digestDecidableEq encode digest encode_isCanonical
    digest_injective oid [passed ⟨1⟩] [passed ⟨1⟩, passed ⟨2⟩] frozenHash frozenHash (by decide)
    (by decide)
  rw [stabilityDecided_shared_iff (by decide) (by decide) (by decide),
    fingerprints_shared encode_isCanonical digest_injective oid frozenHash (by decide) (by decide)]
    at decided
  rcases decided.2 with ids | differs
  · exact absurd ((ids ⟨2⟩).mpr (by decide)) (by decide)
  · obtain ⟨id, left, right, ⟨isLeft, isRight, same⟩, -, different⟩ := differs
    apply different
    have first : left = passed ⟨1⟩ := by simpa using isLeft
    rcases List.mem_cons.mp isRight with rfl | rest
    · rw [first]
      exact ⟨rfl, rfl, rfl, .refl _⟩
    · have second : right = passed ⟨2⟩ := by simpa using rest
      rw [first, second] at same
      exact absurd same (by decide)

end SampleLayers

end CodeMigrator
