import Mathlib.Data.List.Chain
import CodeMigrator.Lib.Decimal
import CodeMigrator.Planning.Derivation

/-!
# Group names

`normalize_group_name` and `normalize_group_names` of `planning/derivation.py` over texts of any
characters. A name that was given before gets the number of its occurrence as a suffix, and that may
be the name of another group.
-/

namespace CodeMigrator
open Lib

/-! ## The pattern of a name -/

/-- `[a-z0-9]+(-[a-z0-9]+)*`. -/
inductive MatchesGroupName : List Char → Prop
  | one {c : Char} (isName : isNameChar c = true) : MatchesGroupName [c]
  | cons {c : Char} {rest : List Char} (isName : isNameChar c = true)
    (matches_ : MatchesGroupName rest) : MatchesGroupName (c :: rest)
  | hyphen {c : Char} {rest : List Char} (isName : isNameChar c = true)
    (matches_ : MatchesGroupName rest) : MatchesGroupName (c :: '-' :: rest)

/-- A text of name characters and hyphens, of which no two stand together. -/
structure Spaced (text : List Char) : Prop where
  chars : ∀ c ∈ text, isNameChar c = true ∨ c = '-'
  apart : text.IsChain fun left right => left = '-' → right ≠ '-'

theorem isNameChar_ne_hyphen {c : Char} (isName : isNameChar c = true) : c ≠ '-' := by
  rintro rfl
  exact absurd isName (by decide)

theorem hyphenateRuns_spaced (text : List Char) (inRun : Bool) :
    Spaced (hyphenateRuns inRun text) ∧
      (inRun = true → ∀ c ∈ (hyphenateRuns inRun text).head?, c ≠ '-') := by
  induction text generalizing inRun with
  | nil => exact ⟨⟨nofun, .nil⟩, fun _ => nofun⟩
  | cons c rest ih =>
    rw [hyphenateRuns]
    split
    · next isName =>
      obtain ⟨chars, apart⟩ := (ih false).1
      have different := isNameChar_ne_hyphen isName
      refine ⟨⟨?_, List.isChain_cons.mpr ⟨fun _ _ same => absurd same different, apart⟩⟩, ?_⟩
      · rintro d member
        rcases List.mem_cons.mp member with rfl | later
        · exact .inl isName
        · exact chars d later
      · rintro - d isHead
        rw [List.head?_cons, Option.mem_some_iff] at isHead
        exact isHead ▸ different
    · split
      · exact (ih true).imp_right fun headed _ => headed rfl
      · next outside =>
        obtain ⟨⟨chars, apart⟩, headed⟩ := ih true
        refine ⟨⟨?_, List.isChain_cons.mpr ⟨fun d isHead _ => headed rfl d isHead, apart⟩⟩,
          fun inside => absurd inside outside⟩
        rintro d member
        rcases List.mem_cons.mp member with rfl | later
        · exact .inr rfl
        · exact chars d later

theorem Spaced.matches_ : ∀ {text : List Char}, Spaced text → text ≠ [] →
    (∀ c ∈ text.head?, c ≠ '-') → (∀ c ∈ text.getLast?, c ≠ '-') → MatchesGroupName text
  | [], _, nonempty, _, _ => absurd rfl nonempty
  | [c], spaced, _, headed, _ =>
    .one ((spaced.chars c List.mem_cons_self).resolve_right (headed c rfl))
  | c :: d :: rest, spaced, _, headed, ended => by
    have isName := (spaced.chars c List.mem_cons_self).resolve_right (headed c rfl)
    have behind : Spaced (d :: rest) :=
      ⟨fun e member => spaced.chars e (List.mem_cons_of_mem _ member), spaced.apart.tail⟩
    by_cases isHyphen : d = '-'
    · subst isHyphen
      cases rest with
      | nil => exact absurd rfl (ended '-' rfl)
      | cons e rest =>
        have different : e ≠ '-' := (List.isChain_cons.mp behind.apart).1 e rfl rfl
        refine .hyphen isName (Spaced.matches_ ⟨fun f member => behind.chars f
          (List.mem_cons_of_mem _ member), behind.apart.tail⟩ (List.cons_ne_nil _ _) ?_ ended)
        rintro f isHead
        rw [List.head?_cons, Option.mem_some_iff] at isHead
        exact isHead ▸ different
    · refine .cons isName (Spaced.matches_ behind (List.cons_ne_nil _ _) ?_ ended)
      rintro f isHead
      rw [List.head?_cons, Option.mem_some_iff] at isHead
      exact isHead ▸ isHyphen

theorem stripList_isPrefix (dropped : Char → Bool) (text : List Char) :
    stripList dropped text <+: text.dropWhile dropped := by
  rw [stripList, ← List.reverse_suffix, List.reverse_reverse]
  exact List.dropWhile_suffix dropped

theorem stripList_infix (dropped : Char → Bool) (text : List Char) :
    stripList dropped text <:+: text :=
  (stripList_isPrefix dropped text).isInfix.trans (List.dropWhile_suffix dropped).isInfix

theorem head_dropWhile {dropped : Char → Bool} {text : List Char} :
    ∀ c ∈ (text.dropWhile dropped).head?, dropped c = false := by
  intro c isHead
  have kept := List.head?_dropWhile_not dropped text
  rw [isHead] at kept
  exact kept

theorem stripList_ends (dropped : Char → Bool) (text : List Char) :
    (∀ c ∈ (stripList dropped text).head?, dropped c = false) ∧
      ∀ c ∈ (stripList dropped text).getLast?, dropped c = false := by
  constructor
  · intro c isHead
    obtain ⟨behind, split⟩ := stripList_isPrefix dropped text
    have isFirst : c ∈ (text.dropWhile dropped).head? := by
      rw [← split, List.head?_append, Option.mem_def.mp isHead]
      rfl
    exact head_dropWhile c isFirst
  · intro c isLast
    rw [stripList, List.getLast?_reverse] at isLast
    exact head_dropWhile c isLast

theorem normalizeGroupNameWith_matches (fold : String → String) (value : String) :
    MatchesGroupName (normalizeGroupNameWith fold value).toList := by
  unfold normalizeGroupNameWith
  dsimp only
  split
  · exact .cons rfl (.cons rfl (.cons rfl (.cons rfl (.one rfl))))
  · next nonempty =>
    rw [String.toList_ofList]
    obtain ⟨chars, apart⟩ := (hyphenateRuns_spaced (fold value).toList false).1
    have inside := stripList_infix (· == '-') (hyphenateRuns false (fold value).toList)
    have ends := stripList_ends (· == '-') (hyphenateRuns false (fold value).toList)
    simp only [beq_eq_false_iff_ne] at ends
    exact Spaced.matches_ ⟨fun c member => chars c (inside.subset member), apart.infix inside⟩
      nonempty ends.1 ends.2

/-! ## Suffixes -/

theorem isNameChar_digit {c : Char} (digit : c.isDigit = true) : isNameChar c = true := by
  rw [isNameChar, digit, Bool.or_true]

theorem matches_digits {digits : List Char} (nonempty : digits ≠ [])
    (all : ∀ c ∈ digits, c.isDigit = true) : MatchesGroupName digits := by
  induction digits with
  | nil => exact absurd rfl nonempty
  | cons c rest ih =>
    have isName := isNameChar_digit (all c List.mem_cons_self)
    cases rest with
    | nil => exact .one isName
    | cons d rest =>
      exact .cons isName (ih (List.cons_ne_nil _ _) fun e member => all e (.tail _ member))

theorem MatchesGroupName.append {left right : List Char} (first : MatchesGroupName left)
    (second : MatchesGroupName right) : MatchesGroupName (left ++ '-' :: right) := by
  induction first with
  | one isName => exact .hyphen isName second
  | cons isName _ ih => exact .cons isName ih
  | hyphen isName _ ih => exact .hyphen isName ih

theorem toList_suffixed (base : String) (number : Nat) :
    (s!"{base}-{number}").toList = base.toList ++ '-' :: Nat.toDigits 10 number := by
  change (base ++ "-" ++ toString number).toList = _
  simp

theorem occurrenceName_matches {occurrence : String × Nat}
    (base : MatchesGroupName occurrence.1.toList) :
    MatchesGroupName (occurrenceName occurrence).toList := by
  unfold occurrenceName
  split
  · exact base
  · rw [toList_suffixed]
    exact base.append (matches_digits (List.length_pos_iff.mp Nat.length_toDigits_pos)
      fun c member => digits_of_toDigits member)

theorem suffixed_inj {left right : String} {first second : Nat}
    (same : s!"{left}-{first}" = s!"{right}-{second}") : left = right ∧ first = second := by
  have absent : ∀ number, '-' ∉ Nat.toDigits 10 number :=
    fun number member => absurd (digits_of_toDigits member) (by decide)
  have texts := congrArg String.toList same
  rw [toList_suffixed, toList_suffixed] at texts
  obtain ⟨bases, digits⟩ := append_last_inj (absent first) (absent second) texts
  refine ⟨String.toList_inj.mp bases, ?_⟩
  have values := intBase10_toDigits first
  rw [digits, intBase10_toDigits, Option.some.injEq, Int.natCast_inj] at values
  exact values.symm

theorem suffixed_ne (base : String) (number : Nat) : s!"{base}-{number}" ≠ base := by
  intro same
  have lengths := congrArg (fun text : String => text.toList.length) same
  rw [toList_suffixed] at lengths
  simp at lengths

/-! ## Occurrences -/

/-- The names beside the number of their occurrence. -/
def occurrencesFrom (counts : Dict String Nat) : List String → List (String × Nat)
  | [] => []
  | base :: rest =>
    let count := (counts.get? base).getD 0 + 1
    (base, count) :: occurrencesFrom (counts.set base count) rest

variable {counts : Dict String Nat} {bases : List String}

theorem normalizeGroupNamesWith_eq (fold : String → String) (counts : Dict String Nat)
    (values : List String) :
    normalizeGroupNamesWith fold counts values =
      (occurrencesFrom counts (values.map (normalizeGroupNameWith fold))).map occurrenceName := by
  induction values generalizing counts with
  | nil => rfl
  | cons value rest ih =>
    rw [normalizeGroupNamesWith, List.map_cons, occurrencesFrom, List.map_cons, ih]

theorem length_occurrencesFrom : (occurrencesFrom counts bases).length = bases.length := by
  induction bases generalizing counts with
  | nil => rfl
  | cons base rest ih => rw [occurrencesFrom, List.length_cons, ih, List.length_cons]

theorem mem_occurrencesFrom {base : String} {number : Nat} :
    (base, number) ∈ occurrencesFrom counts bases ↔
      (counts.get? base).getD 0 < number ∧
        number ≤ (counts.get? base).getD 0 + bases.count base := by
  induction bases generalizing counts with
  | nil =>
    simp only [occurrencesFrom, List.not_mem_nil, List.count_nil, Nat.add_zero, false_iff]
    omega
  | cons first rest ih =>
    rw [occurrencesFrom, List.mem_cons, ih, Prod.mk.injEq, Dict.get?_set]
    by_cases same : base = first
    · subst same
      rw [if_pos rfl, Option.getD_some, List.count_cons_self, eq_self, true_and]
      omega
    · rw [if_neg same, List.count_cons_of_ne (Ne.symm same)]
      simp [same]

theorem nodup_occurrencesFrom : (occurrencesFrom counts bases).Nodup := by
  induction bases generalizing counts with
  | nil => exact List.nodup_nil
  | cons base rest ih =>
    rw [occurrencesFrom, List.nodup_cons]
    refine ⟨fun again => ?_, ih⟩
    have later := (mem_occurrencesFrom.mp again).1
    rw [Dict.get?_set_self, Option.getD_some] at later
    exact lt_irrefl _ later

theorem nodup_occurrenceNames :
    ((occurrencesFrom .empty bases).map occurrenceName).Nodup ↔
      ∀ base ∈ bases, ∀ number, 2 ≤ number → number ≤ bases.count base →
        s!"{base}-{number}" ∉ bases := by
  have member : ∀ {base : String} {number : Nat}, (base, number) ∈ occurrencesFrom .empty bases ↔
      0 < number ∧ number ≤ bases.count base := by
    intro base number
    rw [mem_occurrencesFrom, Dict.get?_empty, Option.getD_none, Nat.zero_add]
  constructor
  · intro nodup base _ number atLeast atMost taken
    have named : occurrenceName (base, number) = occurrenceName (s!"{base}-{number}", 1) := by
      rw [occurrenceName, if_neg (by omega), occurrenceName, if_pos rfl]
    have first := member.mpr ⟨by omega, List.one_le_count_iff.mpr taken⟩
    have equal := List.inj_on_of_nodup_map nodup (member.mpr ⟨by omega, atMost⟩) first named
    exact suffixed_ne base number (Prod.ext_iff.mp equal).1.symm
  · intro free
    refine nodup_occurrencesFrom.map_on ?_
    -- a name without a suffix is none with one
    have apart : ∀ {left right : String} {number : Nat}, (left, 1) ∈ occurrencesFrom .empty bases →
        (right, number) ∈ occurrencesFrom .empty bases → number ≠ 1 →
        left ≠ s!"{right}-{number}" := by
      rintro left right number isLeft isRight several rfl
      obtain ⟨positive, atMost⟩ := member.mp isRight
      have known : right ∈ bases := List.one_le_count_iff.mp (by omega)
      exact free right known number (by omega) atMost
        (List.one_le_count_iff.mp (member.mp isLeft).2)
    rintro ⟨left, first⟩ isLeft ⟨right, second⟩ isRight same
    simp only [occurrenceName] at same
    split at same
    · next single =>
      subst single
      split at same
      · next single => rw [same, single]
      · next several => exact absurd same (apart isLeft isRight several)
    · next several =>
      split at same
      · next single =>
        subst single
        exact absurd same.symm (apart isRight isLeft several)
      · obtain ⟨rfl, rfl⟩ := suffixed_inj same
        rfl

/-- The claim on one list: as many names, all of the pattern, none twice. -/
def UniqueNames (fold : String → String) (values : List String) : Prop :=
  (normalizeGroupNamesWith fold .empty values).length = values.length ∧
    (∀ name ∈ normalizeGroupNamesWith fold .empty values, MatchesGroupName name.toList) ∧
    (normalizeGroupNamesWith fold .empty values).Nodup

/-- The names are unique exactly where no value normalizes to a suffixed name that an earlier
repetition gets. -/
theorem uniqueNames_iff (fold : String → String) (values : List String) :
    UniqueNames fold values ↔
      ∀ base ∈ values.map (normalizeGroupNameWith fold), ∀ number, 2 ≤ number →
        number ≤ (values.map (normalizeGroupNameWith fold)).count base →
        s!"{base}-{number}" ∉ values.map (normalizeGroupNameWith fold) := by
  rw [UniqueNames, normalizeGroupNamesWith_eq, List.length_map, length_occurrencesFrom,
    List.length_map, nodup_occurrenceNames]
  refine ⟨fun unique => unique.2.2, fun free => ⟨rfl, fun name isName => ?_, free⟩⟩
  obtain ⟨⟨base, number⟩, isOccurrence, rfl⟩ := List.mem_map.mp isName
  obtain ⟨positive, atMost⟩ := mem_occurrencesFrom.mp isOccurrence
  rw [Dict.get?_empty, Option.getD_none] at positive atMost
  have known : base ∈ values.map (normalizeGroupNameWith fold) :=
    List.one_le_count_iff.mp (by omega)
  obtain ⟨value, -, rfl⟩ := List.mem_map.mp known
  exact occurrenceName_matches (normalizeGroupNameWith_matches fold value)

theorem suffixed_value_not_unique : ¬ UniqueNames asciiFold ["a", "a", "a-2"] := by
  rintro ⟨-, -, nodup⟩
  exact absurd nodup (by decide +kernel)

end CodeMigrator
