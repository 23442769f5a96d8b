import CodeMigrator.Lib.Text

/-!
# Parts of a text

Splitting at a character and joining with it. `splitList` is the splitting of the core library,
whose laws carry over.
-/

namespace Lib

theorem splitList_eq_splitOn (separator : Char) (text : List Char) :
    splitList separator text = text.splitOn separator := by
  induction text with
  | nil => rfl
  | cons c rest ih =>
    rw [List.splitOn_cons_eq_if_modifyHead, splitList]
    by_cases equal : c = separator
    · rw [if_pos equal, if_pos (beq_iff_eq.mpr equal), ih]
    · rw [if_neg equal, if_neg (by rwa [beq_iff_eq]), ← ih]
      cases parts : splitList separator rest with
      | nil => exact absurd parts (splitList_ne_nil separator rest)
      | cons part parts => rfl

variable {separator : Char} {text : List Char}

theorem splitList_of_not_mem (absent : separator ∉ text) : splitList separator text = [text] := by
  rw [splitList_eq_splitOn, List.splitOn_eq_singleton absent]

theorem splitList_append_cons (separator : Char) (before after : List Char) :
    splitList separator (before ++ separator :: after) =
      splitList separator before ++ splitList separator after := by
  rw [splitList_eq_splitOn, splitList_eq_splitOn, splitList_eq_splitOn,
    List.splitOn_append_cons_of_beq before after (beq_self_eq_true separator)]

theorem splitList_append {part : List Char} (absent : separator ∉ part) (rest : List Char) :
    splitList separator (part ++ separator :: rest) = part :: splitList separator rest := by
  rw [splitList_append_cons, splitList_of_not_mem absent, List.singleton_append]

theorem not_mem_of_mem_splitList {part : List Char} (member : part ∈ splitList separator text) :
    separator ∉ part := by
  induction text generalizing part with
  | nil =>
    rw [List.mem_singleton.mp member]
    exact List.not_mem_nil
  | cons c rest ih =>
    rw [splitList] at member
    by_cases equal : c = separator
    · rw [if_pos equal] at member
      rcases List.mem_cons.mp member with rfl | later
      · exact List.not_mem_nil
      · exact ih later
    · rw [if_neg equal] at member
      cases parts : splitList separator rest with
      | nil => exact absurd parts (splitList_ne_nil separator rest)
      | cons first others =>
        rw [parts] at member ih
        rcases List.mem_cons.mp member with rfl | later
        · simp only [List.mem_cons, not_or]
          exact ⟨Ne.symm equal, ih List.mem_cons_self⟩
        · exact ih (List.mem_cons_of_mem _ later)

theorem append_last_inj {left right before behind : List Char} (notInBefore : separator ∉ before)
    (notInBehind : separator ∉ behind)
    (same : left ++ separator :: before = right ++ separator :: behind) :
    left = right ∧ before = behind := by
  -- a longer first part would have the separator in what is behind the other
  have longer : ∀ {middle short long : List Char}, separator ∉ short →
      separator :: short = middle ++ separator :: long → middle = [] := by
    intro middle short long absent split
    cases middle with
    | nil => rfl
    | cons c middle =>
      rw [List.cons_append, List.cons.injEq] at split
      exact absurd (split.2 ▸ by simp) absent
  rcases List.append_eq_append_iff.mp same with ⟨middle, rfl, split⟩ | ⟨middle, rfl, split⟩
  · obtain rfl := longer notInBefore split
    rw [List.nil_append, List.cons.injEq] at split
    exact ⟨(List.append_nil _).symm, split.2⟩
  · obtain rfl := longer notInBehind split
    rw [List.nil_append, List.cons.injEq] at split
    exact ⟨List.append_nil _, split.2.symm⟩

theorem splitList_head {first : List Char} {rest : List (List Char)}
    (parts : splitList separator text = first :: rest) (more : rest ≠ []) :
    ∃ behind, text = first ++ separator :: behind := by
  induction text generalizing first with
  | nil =>
    obtain ⟨-, rfl⟩ := List.cons.inj parts
    exact absurd rfl more
  | cons c text ih =>
    rw [splitList] at parts
    split at parts
    · next same =>
      obtain ⟨rfl, -⟩ := List.cons.inj parts
      exact ⟨text, by rw [same, List.nil_append]⟩
    · cases inner : splitList separator text with
      | nil => exact absurd inner (splitList_ne_nil separator text)
      | cons part others =>
        rw [inner] at parts
        obtain ⟨rfl, rfl⟩ := List.cons.inj parts
        obtain ⟨behind, rfl⟩ := ih inner
        exact ⟨behind, rfl⟩

/-! ## Joining -/

/-- `separator.join(parts)` for one character. -/
def join (separator : Char) (parts : List String) : String :=
  (String.singleton separator).intercalate parts

theorem toList_join (separator : Char) (parts : List String) :
    (join separator parts).toList = [separator].intercalate (parts.map String.toList) := by
  rw [join, String.toList_intercalate]
  simp

theorem join_split (text : String) (separator : Char) :
    join separator (split text separator) = text := by
  apply String.toList_injective
  rw [toList_join, split, splitList_eq_splitOn, List.map_map]
  have same : (List.map (String.toList ∘ String.ofList) (text.toList.splitOn separator)) =
      text.toList.splitOn separator := by simp
  rw [same, List.intercalate_splitOn]

end Lib
