import CodeMigrator.Lib.JsonGrammar

/-!
# The depth of a Spec

The depth gates of `core/spec.py`: `_json_nesting_exceeds_limit` reads the characters of the text
before it is decoded, `_object_depth` the decoded value. Both refuse the same texts. The fields of
an object stand for the values of its dictionary, which are these where the keys are unique.
-/

namespace CodeMigrator
open Lib Point

/-- `MAX_SPEC_DEPTH`. -/
def maxSpecDepth : Nat := 32

mutual
/-- `_object_depth`. -/
def objectDepth {F : Type} : Document F → Nat → Nat
  | .arr items, depth => (itemDepths items (depth + 1)).max?.getD depth
  | .obj fields, depth => (fieldDepths fields (depth + 1)).max?.getD depth
  | _, depth => depth - 1
/-- The depths of the children of a list. -/
def itemDepths {F : Type} : List (Document F) → Nat → List Nat
  | [], _ => []
  | item :: items, depth => objectDepth item depth :: itemDepths items depth
/-- The depths of the values of a dictionary. -/
def fieldDepths {F : Type} : List (Points × Document F) → Nat → List Nat
  | [], _ => []
  | (_, value) :: fields, depth => objectDepth value depth :: fieldDepths fields depth
end

/-- The local variables of `_json_nesting_exceeds_limit`. -/
structure NestingScan where
  depth : Nat
  inString : Bool
  escaped : Bool
  deriving DecidableEq

/-- One pass of the loop; `none` is `return True`. -/
def NestingScan.step (scan : NestingScan) (character : Nat) : Option NestingScan :=
  if scan.inString then
    if scan.escaped then some { scan with escaped := false }
    else if character = backslash then some { scan with escaped := true }
    else if character = quote then some { scan with inString := false }
    else some scan
  else if character = quote then some { scan with inString := true }
  else if character = openBracket ∨ character = openBrace then
    if maxSpecDepth < scan.depth + 1 then none else some { scan with depth := scan.depth + 1 }
  else if character = closeBracket ∨ character = closeBrace then
    some { scan with depth := scan.depth - 1 }
  else some scan

/-- `_json_nesting_exceeds_limit`. -/
def jsonNestingExceedsLimit (text : Points) : Bool :=
  (text.foldlM NestingScan.step ⟨0, false, false⟩).isNone

/-! ## Tokens -/

/-- The scan between two tokens. -/
def between (depth : Nat) : NestingScan := ⟨depth, false, false⟩

/-- A character that leaves the scan between two tokens as it is. -/
def Neutral (character : Nat) : Prop :=
  character ≠ quote ∧ character ≠ openBracket ∧ character ≠ openBrace ∧
    character ≠ closeBracket ∧ character ≠ closeBrace

instance : DecidablePred Neutral := fun _ => inferInstanceAs (Decidable (_ ∧ _))

variable {text : Points} {F : Type}

theorem scan_neutral (neutral : ∀ c ∈ text, Neutral c) (depth : Nat) :
    text.foldlM NestingScan.step (between depth) = some (between depth) := by
  induction text with
  | nil => rfl
  | cons c text ih =>
    obtain ⟨quoted, bracket, brace, closing, closed⟩ := neutral c List.mem_cons_self
    have stays : (between depth).step c = some (between depth) := by
      simp [NestingScan.step, between, quoted, bracket, brace, closing, closed]
    rw [List.foldlM_cons, stays]
    exact ih fun c member => neutral c (List.mem_cons_of_mem _ member)

theorem blank_neutral {c : Nat} (blank : isBlank c = true) : Neutral c := by
  simp only [isBlank, Bool.or_eq_true, beq_iff_eq] at blank
  rcases blank with ((rfl | rfl) | rfl) | rfl <;> decide

theorem digit_neutral {c : Nat} (digit : isDigitPoint c = true) : Neutral c := by
  simp only [isDigitPoint, Bool.and_eq_true, decide_eq_true_eq] at digit
  simp only [Neutral, quote, openBracket, openBrace, closeBracket, closeBrace]
  omega

theorem whole_neutral {digits : Points} (whole : IsWhole digits) : ∀ c ∈ digits, Neutral c := by
  rcases whole with rfl | ⟨first, rest, rfl, low, high, digits⟩
  · decide
  · intro c member
    apply digit_neutral
    rcases List.mem_cons.mp member with rfl | later
    · simp only [isDigitPoint, Bool.and_eq_true, decide_eq_true_eq]
      omega
    · exact digits c later

theorem fraction_neutral (fraction : IsFraction text) : ∀ c ∈ text, Neutral c := by
  rcases fraction with rfl | ⟨digits, rfl, -, real⟩
  · simp
  · exact List.forall_mem_cons.mpr ⟨by decide, fun c member => digit_neutral (real c member)⟩

theorem exponent_neutral (exponent : IsExponent text) : ∀ c ∈ text, Neutral c := by
  rcases exponent with rfl | ⟨letter, sign, digits, rfl, isLetter, isSign, -, real⟩
  · simp
  · refine List.forall_mem_cons.mpr ⟨?_, List.forall_mem_append.mpr ⟨?_, ?_⟩⟩
    · rcases isLetter with rfl | rfl <;> decide
    · rcases isSign with rfl | rfl | rfl <;> decide
    · exact fun c member => digit_neutral (real c member)

theorem sign_neutral (negative : Bool) : ∀ c ∈ signText negative, Neutral c := by
  cases negative <;> decide

theorem hexPoint_ne {c value : Nat} (hex : hexPoint? c = some value) : c ≠ backslash ∧ c ≠ quote := by
  unfold hexPoint? at hex
  simp only [backslash, quote]
  split at hex
  · omega
  · split at hex
    · omega
    · split at hex
      · omega
      · cases hex

theorem scan_piece {piece : Piece} (spelled : SpellsPiece piece text) (depth : Nat) :
    text.foldlM NestingScan.step ⟨depth, true, false⟩ = some ⟨depth, true, false⟩ := by
  cases spelled with
  | literal c plain => simp [NestingScan.step, plain.2.1, plain.2.2]
  | simple letter c known escape => simp [NestingScan.step]
  | number a b c d unit hex =>
    have inside : ∀ {x y}, hexPoint? x = some y →
        NestingScan.step ⟨depth, true, false⟩ x = some ⟨depth, true, false⟩ := by
      intro x y digit
      simp [NestingScan.step, hexPoint_ne digit]
    unfold hexUnit? at hex
    split at hex
    · rename_i first second third fourth
      simp [NestingScan.step, hexPoint_ne first, hexPoint_ne second, hexPoint_ne third,
        hexPoint_ne fourth]
    · cases hex

theorem scan_pieces {pieces : List Piece} (spelled : SpellsPieces pieces text) (depth : Nat) :
    text.foldlM NestingScan.step ⟨depth, true, false⟩ = some ⟨depth, true, false⟩ := by
  induction spelled with
  | nil => rfl
  | cons first _ ih =>
    rw [List.foldlM_append, scan_piece first]
    exact ih

/-- What a token makes of the depth. -/
def tokenStep {F : Type} (depth : Nat) : Token F → Option Nat
  | .mark text =>
    if text = [openBracket] ∨ text = [openBrace] then
      if maxSpecDepth < depth + 1 then none else some (depth + 1)
    else if text = [closeBracket] ∨ text = [closeBrace] then some (depth - 1)
    else some depth
  | _ => some depth

/-- A mark of the grammar: a bracket, or nothing that the scan looks at. -/
def KnownToken {F : Type} : Token F → Prop
  | .mark text => text ∈ [[openBracket], [openBrace], [closeBracket], [closeBrace]] ∨
    ∀ c ∈ text, Neutral c
  | _ => True

theorem scan_token {readFloat : Points → F} {token : Token F} (known : KnownToken token)
    (spelled : Spells readFloat token text) (depth : Nat) :
    text.foldlM NestingScan.step (between depth) = (tokenStep depth token).map between := by
  cases spelled with
  | mark =>
    rcases known with bracket | neutral
    · simp only [List.mem_cons, List.not_mem_nil, or_false] at bracket
      rcases bracket with rfl | rfl | rfl | rfl
      · by_cases deep : maxSpecDepth < depth + 1 <;>
          simp [NestingScan.step, between, tokenStep, deep, quote, openBracket]
      · by_cases deep : maxSpecDepth < depth + 1 <;>
          simp [NestingScan.step, between, tokenStep, deep, quote, openBrace]
      · simp [NestingScan.step, between, tokenStep, quote, openBracket, openBrace, closeBracket]
      · simp [NestingScan.step, between, tokenStep, quote, openBracket, openBrace, closeBrace]
    · have other : ∀ c, ¬ Neutral c → text ≠ [c] := by
        rintro c special rfl
        exact special (neutral c List.mem_cons_self)
      rw [scan_neutral neutral]
      simp [tokenStep, other _ (show ¬ Neutral openBracket by decide),
        other _ (show ¬ Neutral openBrace by decide),
        other _ (show ¬ Neutral closeBracket by decide),
        other _ (show ¬ Neutral closeBrace by decide)]
  | int negative digits whole =>
    exact scan_neutral
      (List.forall_mem_append.mpr ⟨sign_neutral negative, whole_neutral whole⟩) depth
  | float negative digits fraction exponent whole isFraction isExponent =>
    refine scan_neutral (List.forall_mem_append.mpr ⟨sign_neutral negative,
      List.forall_mem_append.mpr ⟨whole_neutral whole, List.forall_mem_append.mpr ⟨?_, ?_⟩⟩⟩) depth
    · exact fraction_neutral isFraction
    · exact exponent_neutral isExponent
  | str pieces inner spelled =>
    rw [List.foldlM_cons]
    have opened : (between depth).step quote = some ⟨depth, true, false⟩ := by
      simp [NestingScan.step, between]
    rw [opened]
    change List.foldlM _ _ _ = _
    rw [List.foldlM_append, scan_pieces spelled]
    simp [NestingScan.step, tokenStep, between, show quote ≠ backslash by decide]

theorem scan_tokens {readFloat : Points → F} {tokens : List (Token F)}
    (known : ∀ token ∈ tokens, KnownToken token) (lexed : Lexes readFloat tokens text) (depth : Nat) :
    text.foldlM NestingScan.step (between depth) = (tokens.foldlM tokenStep depth).map between := by
  induction lexed generalizing depth with
  | nil blank => exact scan_neutral (fun c member => blank_neutral (blank c member)) depth
  | cons blank first _ ih =>
    rw [List.foldlM_append, scan_neutral fun c member => blank_neutral (blank c member)]
    change List.foldlM _ _ _ = _
    rw [List.foldlM_append, scan_token (known _ List.mem_cons_self) first, List.foldlM_cons]
    cases tokenStep depth _ with
    | none => rfl
    | some deeper => exact ih (fun token member => known token (List.mem_cons_of_mem _ member)) deeper

/-! ## Documents -/

theorem known_neutral (neutral : ∀ c ∈ text, Neutral c) :
    KnownToken (.mark text : Token F) := .inr neutral

theorem known_bracket {c : Nat}
    (bracket : [c] ∈ [[openBracket], [openBrace], [closeBracket], [closeBrace]]) :
    KnownToken (.mark [c] : Token F) := .inl bracket

variable {F : Type}

mutual
theorem tokens_known : ∀ (value : Document F), ∀ token ∈ value.tokens, KnownToken token
  | .null | .bool true | .bool false => List.forall_mem_singleton.mpr (known_neutral (by decide))
  | .int _ | .float _ | .str _ => List.forall_mem_singleton.mpr trivial
  | .arr [] => List.forall_mem_cons.mpr ⟨known_bracket (by decide),
      List.forall_mem_singleton.mpr (known_bracket (by decide))⟩
  | .arr (item :: items) => List.forall_mem_cons.mpr ⟨known_bracket (by decide),
      List.forall_mem_append.mpr ⟨tokens_known item, List.forall_mem_append.mpr
        ⟨itemTokens_known items, List.forall_mem_singleton.mpr (known_bracket (by decide))⟩⟩⟩
  | .obj [] => List.forall_mem_cons.mpr ⟨known_bracket (by decide),
      List.forall_mem_singleton.mpr (known_bracket (by decide))⟩
  | .obj ((_, value) :: fields) => List.forall_mem_cons.mpr ⟨known_bracket (by decide),
      List.forall_mem_cons.mpr ⟨trivial, List.forall_mem_cons.mpr ⟨known_neutral (by decide),
        List.forall_mem_append.mpr ⟨tokens_known value, List.forall_mem_append.mpr
          ⟨fieldTokens_known fields, List.forall_mem_singleton.mpr (known_bracket (by decide))⟩⟩⟩⟩⟩
theorem itemTokens_known : ∀ (items : List (Document F)),
    ∀ token ∈ Document.itemTokens items, KnownToken token
  | [] => by simp [Document.itemTokens]
  | item :: items => List.forall_mem_cons.mpr ⟨known_neutral (by decide),
      List.forall_mem_append.mpr ⟨tokens_known item, itemTokens_known items⟩⟩
theorem fieldTokens_known : ∀ (fields : List (Points × Document F)),
    ∀ token ∈ Document.fieldTokens fields, KnownToken token
  | [] => by simp [Document.fieldTokens]
  | (_, value) :: fields => List.forall_mem_cons.mpr ⟨known_neutral (by decide),
      List.forall_mem_cons.mpr ⟨trivial, List.forall_mem_cons.mpr ⟨known_neutral (by decide),
        List.forall_mem_append.mpr ⟨tokens_known value, fieldTokens_known fields⟩⟩⟩⟩
end

/-- The scan returns to the depth unless one of the depths is too large. -/
def settle (depth : Nat) (depths : List Nat) : Option Nat :=
  if ∃ x ∈ depths, maxSpecDepth < x then none else some depth

variable {depth : Nat}

theorem settle_bind {first second : List Nat} {next : Nat → Option Nat}
    (later : next depth = settle depth second) :
    (settle depth first).bind next = settle depth (first ++ second) := by
  unfold settle at later ⊢
  by_cases deep : ∃ x ∈ first, maxSpecDepth < x
  · obtain ⟨x, member, large⟩ := deep
    rw [if_pos ⟨x, member, large⟩, if_pos ⟨x, List.mem_append_left _ member, large⟩]
    rfl
  · rw [if_neg deep, Option.bind_some, later]
    simp only [List.mem_append, or_and_right, exists_or, deep, false_or]

theorem max_getD_lt_iff {depths : List Nat} (within : depth ≤ maxSpecDepth) :
    maxSpecDepth < depths.max?.getD depth ↔ ∃ x ∈ depths, maxSpecDepth < x := by
  cases found : depths.max? with
  | none =>
    rw [List.max?_eq_none_iff.mp found]
    simp [within]
  | some largest =>
    obtain ⟨member, bound⟩ := List.max?_eq_some_iff.mp found
    constructor
    · exact fun large => ⟨largest, member, large⟩
    · rintro ⟨x, inside, large⟩
      exact Nat.lt_of_lt_of_le large (bound x inside)

theorem le_max_getD {depths : List Nat} (below : ∀ x ∈ depths, depth ≤ x) :
    depth ≤ depths.max?.getD depth := by
  cases found : depths.max? with
  | none => exact Nat.le_refl depth
  | some largest => exact below largest (List.max?_eq_some_iff.mp found).1

variable {F : Type}

mutual
theorem le_objectDepth : ∀ (value : Document F) (depth : Nat),
    depth ≤ objectDepth value (depth + 1)
  | .null, _ | .bool _, _ | .int _, _ | .float _, _ | .str _, _ => Nat.le_refl _
  | .arr items, depth =>
    Nat.le_of_succ_le (le_max_getD (le_itemDepths items (depth + 1)))
  | .obj fields, depth =>
    Nat.le_of_succ_le (le_max_getD (le_fieldDepths fields (depth + 1)))
theorem le_itemDepths : ∀ (items : List (Document F)) (depth : Nat),
    ∀ x ∈ itemDepths items (depth + 1), depth ≤ x
  | [], _ => by simp [itemDepths]
  | item :: items, depth =>
    List.forall_mem_cons.mpr ⟨le_objectDepth item depth, le_itemDepths items depth⟩
theorem le_fieldDepths : ∀ (fields : List (Points × Document F)) (depth : Nat),
    ∀ x ∈ fieldDepths fields (depth + 1), depth ≤ x
  | [], _ => by simp [fieldDepths]
  | (_, value) :: fields, depth =>
    List.forall_mem_cons.mpr ⟨le_objectDepth value depth, le_fieldDepths fields depth⟩
end

theorem foldlM_nothing (depth : Nat) (_ : depth + 1 ≤ maxSpecDepth) :
    ([] : List (Token F)).foldlM tokenStep (depth + 1) = settle (depth + 1) [] := rfl

theorem foldlM_container {opening closing : Nat} {inner : List (Token F)} {depths : List Nat}
    (opens : opening = openBracket ∨ opening = openBrace)
    (closes : closing = closeBracket ∨ closing = closeBrace) (below : ∀ x ∈ depths, depth + 1 ≤ x)
    (children : depth + 1 ≤ maxSpecDepth →
      inner.foldlM tokenStep (depth + 1) = settle (depth + 1) depths) :
    (.mark [opening] :: (inner ++ [.mark [closing]])).foldlM tokenStep depth =
      settle depth [depths.max?.getD (depth + 1)] := by
  have enter : tokenStep depth (.mark [opening] : Token F) =
      if maxSpecDepth < depth + 1 then none else some (depth + 1) := by
    rcases opens with rfl | rfl <;> simp [tokenStep]
  have leave : tokenStep (depth + 1) (.mark [closing] : Token F) = some depth := by
    rcases closes with rfl | rfl <;>
      simp [tokenStep, openBracket, openBrace, closeBracket, closeBrace]
  rw [List.foldlM_cons, enter]
  by_cases deep : maxSpecDepth < depth + 1
  · have large := Nat.lt_of_lt_of_le deep (le_max_getD below)
    simp [deep, settle, large]
  · have within : depth + 1 ≤ maxSpecDepth := Nat.le_of_not_lt deep
    rw [if_neg deep]
    change List.foldlM _ _ _ = _
    rw [List.foldlM_append, children within]
    have same : maxSpecDepth < depths.max?.getD (depth + 1) ↔ ∃ x ∈ depths, maxSpecDepth < x :=
      max_getD_lt_iff within
    unfold settle
    simp only [List.mem_singleton, exists_eq_left, same]
    split
    · rfl
    · simp [leave]

variable {F : Type}

mutual
theorem foldlM_tokens : ∀ (value : Document F) {depth : Nat}, depth ≤ maxSpecDepth →
    value.tokens.foldlM tokenStep depth = settle depth [objectDepth value (depth + 1)]
  | .null, depth, within | .bool true, depth, within | .bool false, depth, within
  | .int _, depth, within | .float _, depth, within | .str _, depth, within => by
      simp [Document.tokens, objectDepth, settle, tokenStep, Nat.not_lt.mpr within, points,
        openBracket, openBrace, closeBracket, closeBrace]
  | .arr [], depth, within =>
      foldlM_container (.inl rfl) (.inl rfl) (by simp) (foldlM_nothing depth)
  | .arr (item :: items), depth, within => by
      have children : depth + 1 ≤ maxSpecDepth →
          (item.tokens ++ Document.itemTokens items).foldlM tokenStep (depth + 1) =
            settle (depth + 1) (itemDepths (item :: items) (depth + 2)) := by
        intro inside
        rw [List.foldlM_append, foldlM_tokens item inside]
        exact settle_bind (foldlM_itemTokens items inside)
      rw [Document.tokens, ← List.append_assoc]
      exact foldlM_container (.inl rfl) (.inl rfl) (le_itemDepths _ (depth + 1)) children
  | .obj [], depth, within =>
      foldlM_container (.inr rfl) (.inr rfl) (by simp) (foldlM_nothing depth)
  | .obj ((key, value) :: fields), depth, within => by
      have children : depth + 1 ≤ maxSpecDepth →
          (.str key :: .mark [colon] :: (value.tokens ++ Document.fieldTokens fields)).foldlM
            tokenStep (depth + 1) =
            settle (depth + 1) (fieldDepths ((key, value) :: fields) (depth + 2)) := by
        intro inside
        change (value.tokens ++ Document.fieldTokens fields).foldlM tokenStep (depth + 1) = _
        rw [List.foldlM_append, foldlM_tokens value inside]
        exact settle_bind (foldlM_fieldTokens fields inside)
      rw [Document.tokens, ← List.append_assoc, ← List.cons_append, ← List.cons_append]
      exact foldlM_container (.inr rfl) (.inr rfl) (le_fieldDepths _ (depth + 1)) children
theorem foldlM_itemTokens : ∀ (items : List (Document F)) {depth : Nat},
    depth ≤ maxSpecDepth → (Document.itemTokens items).foldlM tokenStep depth =
      settle depth (itemDepths items (depth + 1))
  | [], depth, within => by simp [Document.itemTokens, itemDepths, settle]
  | item :: items, depth, within => by
      change (item.tokens ++ Document.itemTokens items).foldlM tokenStep depth = _
      rw [List.foldlM_append, foldlM_tokens item within]
      exact settle_bind (foldlM_itemTokens items within)
theorem foldlM_fieldTokens : ∀ (fields : List (Points × Document F)) {depth : Nat},
    depth ≤ maxSpecDepth → (Document.fieldTokens fields).foldlM tokenStep depth =
      settle depth (fieldDepths fields (depth + 1))
  | [], depth, within => by simp [Document.fieldTokens, fieldDepths, settle]
  | (_, value) :: fields, depth, within => by
      change (value.tokens ++ Document.fieldTokens fields).foldlM tokenStep depth = _
      rw [List.foldlM_append, foldlM_tokens value within]
      exact settle_bind (foldlM_fieldTokens fields within)
end

/-- The scanner and the decoded value agree about every text of the grammar. -/
theorem jsonNestingExceedsLimit_iff {F : Type} (decoder : Decoder F) (value : Document F)
    (text : Points) (rendered : Renders decoder value text) :
    jsonNestingExceedsLimit text = true ↔ maxSpecDepth < objectDepth value 1 := by
  unfold jsonNestingExceedsLimit
  have scanned := scan_tokens (tokens_known value) rendered 0
  rw [foldlM_tokens value (Nat.zero_le _)] at scanned
  rw [show (⟨0, false, false⟩ : NestingScan) = between 0 from rfl, scanned]
  by_cases deep : maxSpecDepth < objectDepth value 1 <;> simp [settle, deep]

/-- A list with a closing bracket in its string. -/
def bracketDocument : Document Unit := .arr [.str [closeBracket]]

def bracketText : Points := [openBracket, quote, closeBracket, quote, closeBracket]

theorem bracketText_renders (decoder : Decoder Unit) :
    Renders decoder bracketDocument bracketText := by
  have blank : ∀ c ∈ ([] : Points), isBlank c = true := by simp
  have string : SpellsPieces [(false, closeBracket)] ([closeBracket] ++ []) :=
    .cons (.literal closeBracket (by decide)) .nil
  have closed : Lexes decoder.readFloat [.mark [closeBracket]] ([] ++ [closeBracket] ++ []) :=
    .cons blank (.mark _) (.nil blank)
  have item : Lexes decoder.readFloat [.str [closeBracket], .mark [closeBracket]]
      ([] ++ (quote :: ([closeBracket] ++ [] ++ [quote])) ++ [closeBracket]) :=
    .cons blank (.str _ _ string) closed
  have opened : Lexes decoder.readFloat bracketDocument.tokens
      ([] ++ [openBracket] ++ [quote, closeBracket, quote, closeBracket]) :=
    .cons blank (.mark _) item
  exact opened

theorem bracketText_agrees :
    jsonNestingExceedsLimit bracketText = true ↔ maxSpecDepth < objectDepth bracketDocument 1 :=
  jsonNestingExceedsLimit_iff ⟨fun _ => (), 4300, 1000⟩ bracketDocument bracketText
    (bracketText_renders _)

end CodeMigrator
