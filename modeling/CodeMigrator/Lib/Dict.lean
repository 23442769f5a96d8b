import Mathlib.Data.List.Nodup

/-!
# Insertion-ordered dictionaries

A dictionary keeps its entries in the order in which the keys were first set:
setting a present key replaces the value in place, setting an absent key appends
it. The distinctness of the keys is a field, so a lookup never has to choose
between two entries.
-/

namespace Lib

/-- An insertion-ordered finite map. -/
structure Dict (κ α : Type) where
  entries : List (κ × α)
  nodup : (entries.map Prod.fst).Nodup
  deriving DecidableEq

namespace Dict

variable {κ α : Type} [DecidableEq κ] {entries pairs : List (κ × α)} {key : κ} {value : α}
  {d : Dict κ α} {β : Type}

/-- The value of the first entry under `key`. -/
def lookup (key : κ) : List (κ × α) → Option α
  | [] => none
  | (other, value) :: rest => if other = key then some value else lookup key rest

/-- The entries after `key` was set to `value`. -/
def insert (key : κ) (value : α) : List (κ × α) → List (κ × α)
  | [] => [(key, value)]
  | (other, old) :: rest =>
    if other = key then (key, value) :: rest else (other, old) :: insert key value rest

theorem keys_insert (key : κ) (value : α) (entries : List (κ × α)) :
    (insert key value entries).map Prod.fst =
      if key ∈ entries.map Prod.fst then entries.map Prod.fst
      else entries.map Prod.fst ++ [key] := by
  induction entries with
  | nil => simp [insert]
  | cons head rest ih =>
    rcases head with ⟨other, old⟩
    by_cases equal : other = key
    · simp [insert, equal]
    · simp only [insert, equal, if_false, List.map_cons, ih, List.mem_cons, Ne.symm equal,
        false_or]
      split <;> simp

theorem nodup_insert (key : κ) (value : α) (distinct : (entries.map Prod.fst).Nodup) :
    ((insert key value entries).map Prod.fst).Nodup := by
  rw [keys_insert]
  split
  · exact distinct
  · rename_i absent
    exact List.Nodup.append distinct (List.nodup_singleton key)
      (by simpa using absent)

/-- The dictionary without entries. -/
def empty : Dict κ α := ⟨[], List.nodup_nil⟩

/-- `d.get(key)`. -/
def get? (d : Dict κ α) (key : κ) : Option α := lookup key d.entries

/-- `d[key] = value`. -/
def set (d : Dict κ α) (key : κ) (value : α) : Dict κ α :=
  ⟨insert key value d.entries, nodup_insert key value d.nodup⟩

/-- `d.pop(key, None)`. -/
def erase (d : Dict κ α) (key : κ) : Dict κ α :=
  ⟨d.entries.filter (fun entry => entry.1 ≠ key), by
    apply List.Nodup.sublist _ d.nodup
    exact List.filter_sublist.map Prod.fst⟩

/-- The comprehension over the entries whose value has the property. -/
def filterValues (p : α → Bool) (d : Dict κ α) : Dict κ α :=
  ⟨d.entries.filter (fun entry => p entry.2), by
    apply List.Nodup.sublist _ d.nodup
    exact List.filter_sublist.map Prod.fst⟩

/-- The keys in insertion order. -/
def keys (d : Dict κ α) : List κ := d.entries.map Prod.fst

/-- The values in insertion order of their keys. -/
def values (d : Dict κ α) : List α := d.entries.map Prod.snd

/-- The dictionary comprehension over `pairs`: a later pair replaces an earlier
one with the same key. -/
def ofPairs (pairs : List (κ × α)) : Dict κ α :=
  pairs.foldl (fun d pair => d.set pair.1 pair.2) empty

theorem lookup_insert (key query : κ) (value : α) (entries : List (κ × α)) :
    lookup query (insert key value entries) =
      if query = key then some value else lookup query entries := by
  induction entries with
  | nil => by_cases equal : query = key <;> simp [insert, lookup, equal, Ne.symm]
  | cons head rest ih =>
    rcases head with ⟨other, old⟩
    by_cases same : other = key
    · subst same
      by_cases equal : query = other
      · simp [insert, lookup, equal]
      · simp [insert, lookup, equal, Ne.symm equal]
    · by_cases hit : other = query
      · subst hit
        simp [insert, lookup, same]
      · simp only [insert, same, if_false, lookup, hit, ih]

@[simp] theorem get?_set (d : Dict κ α) (key query : κ) (value : α) :
    (d.set key value).get? query = if query = key then some value else d.get? query :=
  lookup_insert key query value d.entries

theorem get?_set_self (d : Dict κ α) (key : κ) (value : α) : (d.set key value).get? key = some value := by
  rw [get?_set, if_pos rfl]

@[simp] theorem get?_empty (key : κ) : (empty : Dict κ α).get? key = none := rfl

theorem lookup_some_mem (found : lookup key entries = some value) : (key, value) ∈ entries := by
  induction entries with
  | nil => simp [lookup] at found
  | cons head rest ih =>
    rcases head with ⟨other, old⟩
    by_cases same : other = key
    · subst same
      simp only [lookup, if_true, Option.some.injEq] at found
      simp [found]
    · simp only [lookup, same, if_false] at found
      exact List.mem_cons_of_mem _ (ih found)

theorem get?_erase_self (d : Dict κ α) (key : κ) : (d.erase key).get? key = none := by
  cases found : (d.erase key).get? key with
  | none => rfl
  | some value =>
    have member := lookup_some_mem found
    simp [erase] at member

theorem lookup_of_mem (distinct : (entries.map Prod.fst).Nodup) (member : (key, value) ∈ entries) :
    lookup key entries = some value := by
  induction entries with
  | nil => simp at member
  | cons head rest ih =>
    rcases head with ⟨other, old⟩
    simp only [List.map_cons, List.nodup_cons] at distinct
    rcases List.mem_cons.mp member with equal | later
    · cases equal
      simp [lookup]
    · have different : other ≠ key := by
        intro same
        apply distinct.1
        rw [same]
        exact List.mem_map.mpr ⟨(key, value), later, rfl⟩
      simp only [lookup, different, if_false]
      exact ih distinct.2 later

theorem insert_of_lookup (found : lookup key entries = some value) :
    insert key value entries = entries := by
  induction entries with
  | nil => simp [lookup] at found
  | cons head rest ih =>
    rcases head with ⟨other, old⟩
    by_cases same : other = key
    · simp only [lookup, same, if_true, Option.some.injEq] at found
      simp [insert, same, found]
    · simp only [lookup, same, if_false] at found
      simp [insert, same, ih found]

theorem set_of_get? (found : d.get? key = some value) : d.set key value = d := by
  cases d with
  | mk entries distinct =>
    simp only [set, mk.injEq]
    exact insert_of_lookup found

theorem get?_eq_some_iff (d : Dict κ α) (key : κ) (value : α) :
    d.get? key = some value ↔ (key, value) ∈ d.entries :=
  ⟨lookup_some_mem, lookup_of_mem d.nodup⟩

theorem get?_erase (d : Dict κ α) (key query : κ) :
    (d.erase key).get? query = if query = key then none else d.get? query := by
  by_cases same : query = key
  · rw [if_pos same, same]
    exact get?_erase_self d key
  · rw [if_neg same]
    apply Option.ext
    intro value
    rw [get?_eq_some_iff, get?_eq_some_iff]
    simp [erase, same]

theorem get?_foldl_erase (keys : List κ) (d : Dict κ α) (query : κ) :
    (keys.foldl erase d).get? query = if query ∈ keys then none else d.get? query := by
  induction keys generalizing d with
  | nil => simp
  | cons key keys ih =>
    rw [List.foldl_cons, ih, get?_erase]
    by_cases later : query ∈ keys
    · simp [later]
    · by_cases same : query = key
      · simp [same]
      · simp [later, same]

theorem get?_filterValues (p : α → Bool) (d : Dict κ α) (key : κ) (value : α) :
    (d.filterValues p).get? key = some value ↔ d.get? key = some value ∧ p value = true := by
  rw [get?_eq_some_iff, get?_eq_some_iff]
  simp [filterValues]

theorem mem_values_iff (d : Dict κ α) (value : α) :
    value ∈ d.values ↔ ∃ key, d.get? key = some value := by
  simp [values, get?_eq_some_iff]

theorem mem_keys_iff (d : Dict κ α) (key : κ) : key ∈ d.keys ↔ ∃ value, d.get? key = some value := by
  simp [keys, get?_eq_some_iff]

theorem insert_of_not_mem (value : α) (absent : key ∉ entries.map Prod.fst) :
    insert key value entries = entries ++ [(key, value)] := by
  induction entries with
  | nil => rfl
  | cons head rest ih =>
    rcases head with ⟨other, old⟩
    simp only [List.map_cons, List.mem_cons, not_or] at absent
    simp [insert, Ne.symm absent.1, ih absent.2]

theorem set_entries_of_absent (absent : d.get? key = none) (value : α) :
    (d.set key value).entries = d.entries ++ [(key, value)] := by
  apply insert_of_not_mem value
  intro member
  obtain ⟨other, found⟩ := (d.mem_keys_iff key).mp member
  rw [absent] at found
  cases found

theorem foldl_set_entries (pairs : List (κ × α)) (d : Dict κ α)
    (distinct : (d.entries.map Prod.fst ++ pairs.map Prod.fst).Nodup) :
    (pairs.foldl (fun d pair => d.set pair.1 pair.2) d).entries = d.entries ++ pairs := by
  induction pairs generalizing d with
  | nil => simp
  | cons pair rest ih =>
    rcases pair with ⟨key, value⟩
    have absent : key ∉ d.entries.map Prod.fst := by
      intro member
      exact (List.nodup_append.mp distinct).2.2 key member key (by simp) rfl
    have extended : (d.set key value).entries = d.entries ++ [(key, value)] :=
      insert_of_not_mem value absent
    rw [List.foldl_cons, ih _ (by rw [extended]; simpa using distinct), extended]
    simp

theorem ofPairs_entries (distinct : (pairs.map Prod.fst).Nodup) :
    (ofPairs pairs).entries = pairs := by
  rw [ofPairs, foldl_set_entries pairs empty (by simpa [empty] using distinct)]
  simp [empty]

theorem get?_foldl_set
    (found : (pairs.foldl (fun d pair => d.set pair.1 pair.2) d).get? key = some value) :
    d.get? key = some value ∨ (key, value) ∈ pairs := by
  induction pairs generalizing d with
  | nil => exact Or.inl found
  | cons pair rest ih =>
    rcases ih found with earlier | later
    · rw [get?_set] at earlier
      split at earlier
      · rename_i equal
        right
        rw [Option.some.injEq] at earlier
        subst earlier equal
        exact List.mem_cons_self
      · exact Or.inl earlier
    · exact Or.inr (List.mem_cons_of_mem pair later)

theorem mem_of_get?_ofPairs (found : (ofPairs pairs).get? key = some value) :
    (key, value) ∈ pairs := by
  rcases get?_foldl_set found with early | member
  · simp at early
  · exact member

/-- The entries of a dictionary give it back, in any order. -/
theorem get?_ofPairs_perm (perm : pairs.Perm d.entries) (key : κ) :
    (ofPairs pairs).get? key = d.get? key := by
  have distinct : (pairs.map Prod.fst).Nodup := (perm.map Prod.fst).nodup_iff.mpr d.nodup
  refine Option.ext fun value => ?_
  rw [get?_eq_some_iff, get?_eq_some_iff, ofPairs_entries distinct]
  exact perm.mem_iff

theorem mem_keys_foldl_set (pairs : List (κ × α)) (d : Dict κ α) (key : κ)
    (member : key ∈ d.keys ∨ key ∈ pairs.map Prod.fst) :
    key ∈ (pairs.foldl (fun d pair => d.set pair.1 pair.2) d).keys := by
  induction pairs generalizing d with
  | nil => simpa using member
  | cons pair rest ih =>
    apply ih
    rw [mem_keys_iff] at member ⊢
    rw [get?_set]
    by_cases same : key = pair.1
    · simp [same]
    · simpa [same] using member

theorem mem_keys_ofPairs (member : key ∈ pairs.map Prod.fst) : key ∈ (ofPairs pairs).keys :=
  mem_keys_foldl_set pairs empty key (Or.inr member)

/-! ### Groups -/

/-- The items by their keys, in the order in which the keys come first. -/
def groupBy {β : Type} (key : β → κ) (items : List β) : Dict κ (List β) :=
  items.foldl (fun groups item =>
    groups.set (key item) ((groups.get? (key item)).getD [] ++ [item])) empty

theorem get?_groupBy (key : β → κ) (items : List β) (query : κ) :
    (groupBy key items).get? query =
      if items.filter (key · = query) = [] then none else some (items.filter (key · = query)) := by
  have folded : ∀ groups : Dict κ (List β),
      (items.foldl (fun groups item =>
        groups.set (key item) ((groups.get? (key item)).getD [] ++ [item])) groups).get? query =
        if items.filter (key · = query) = [] then groups.get? query
        else some ((groups.get? query).getD [] ++ items.filter (key · = query)) := by
    induction items with
    | nil => exact fun _ => rfl
    | cons item rest ih =>
      intro groups
      rw [List.foldl_cons, ih, get?_set]
      by_cases same : query = key item
      · subst same
        simp only [if_true, List.filter_cons, decide_true, List.cons_ne_nil, if_false,
          Option.getD_some, List.append_assoc, List.singleton_append]
        split
        · next none => rw [none]
        · rfl
      · simp only [if_neg same, List.filter_cons, decide_eq_true_eq, Ne.symm same, if_false]
  rw [groupBy, folded empty]
  rfl

theorem mem_groupBy {key : β → κ} {items : List β} {query : κ} {group : List β} :
    (query, group) ∈ (groupBy key items).entries ↔
      group = items.filter (key · = query) ∧ group ≠ [] := by
  rw [← get?_eq_some_iff, get?_groupBy]
  split
  · next none =>
    rw [none]
    exact ⟨nofun, fun both => absurd both.1 both.2⟩
  · next some =>
    rw [Option.some.injEq, eq_comm]
    exact ⟨fun same => ⟨same, same ▸ some⟩, And.left⟩

theorem groupBy_perm [DecidableEq β] {key : β → κ} {items : List β} (nodup : items.Nodup) :
    ((groupBy key items).entries.flatMap Prod.snd).Perm items := by
  have once : ((groupBy key items).entries.flatMap Prod.snd).Nodup := by
    refine List.nodup_flatMap.mpr ⟨fun entry member => ?_, ?_⟩
    · rw [(mem_groupBy.mp member).1]
      exact nodup.filter _
    · refine (List.pairwise_map.mp (groupBy key items).nodup).imp_of_mem ?_
      intro left right isLeft isRight apart item inLeft inRight
      rw [(mem_groupBy.mp isLeft).1, List.mem_filter, decide_eq_true_eq] at inLeft
      rw [(mem_groupBy.mp isRight).1, List.mem_filter, decide_eq_true_eq] at inRight
      exact apart (inLeft.2.symm.trans inRight.2)
  refine (List.perm_ext_iff_of_nodup once nodup).mpr fun item => ?_
  rw [List.mem_flatMap]
  constructor
  · rintro ⟨entry, member, inside⟩
    rw [(mem_groupBy.mp member).1] at inside
    exact List.mem_of_mem_filter inside
  · intro member
    have inside : item ∈ items.filter (key · = key item) := by simp [member]
    exact ⟨(key item, _), mem_groupBy.mpr ⟨rfl, List.ne_nil_of_mem inside⟩, inside⟩

end Dict

end Lib
