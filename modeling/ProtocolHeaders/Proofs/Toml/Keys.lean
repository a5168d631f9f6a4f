import ProtocolHeaders.Proofs.Toml.Strings

/-!
# Keys are scanned as they were written

The key of an assignment has one part, which is bare or a string on one line. The key of a
header has a bare part for each table on the way.
-/

namespace ProtocolHeaders.Toml

/-! ## Blanks -/

/-- The characters that no blank, line break or comment begins with. -/
def IsVisible (c : Char) : Prop :=
  c ∉ [' ', '\t', '\n', '\r', '#']

instance (c : Char) : Decidable (IsVisible c) :=
  inferInstanceAs (Decidable (¬_))

/-- What is visible is no space. -/
theorem isSpace_of_isVisible {c : Char} (visible : IsVisible c) : isSpace c = false := by
  rw [isSpace, Bool.or_eq_false_iff, beq_eq_false_iff_ne, beq_eq_false_iff_ne]
  constructor
  · rintro rfl
    exact visible (by decide)
  · rintro rfl
    exact visible (by decide)

/-- Nothing is skipped in front of a visible character. -/
theorem skipSpace_visible {first : Char} (visible : IsVisible first) (rest : List Char) :
    skipSpace (first :: rest) = first :: rest :=
  List.dropWhile_cons_of_neg (by simp [isSpace_of_isVisible visible])

/-- A visible character begins a statement, so no line is skipped in front of it. -/
theorem skipLines_visible {first : Char} (visible : IsVisible first) (rest : List Char) :
    skipLines false (first :: rest) = some (first :: rest) := by
  have notSpace := isSpace_of_isVisible visible
  have notComment : first ≠ '#' := by rintro rfl; exact visible (by decide)
  rw [skipLines.eq_4, if_neg (by decide), notSpace, if_neg (by decide), if_neg notComment]
  · rintro rfl
    exact visible (by decide)
  · rintro _ rfl
    exact absurd (by decide) visible

/-! ## Bare parts -/

/-- The names that need no quotes as parts of keys. -/
def IsBare (name : String) : Prop :=
  name.toList ≠ [] ∧ ∀ c ∈ name.toList, isBareKeyChar c = true

instance (name : String) : Decidable (IsBare name) :=
  decidable_of_iff (name.toList ≠ [] ∧ name.toList.all isBareKeyChar = true)
    (and_congr_right fun _ => List.all_eq_true)

/-- What may stand in a bare key is visible. -/
theorem isVisible_of_isBareKeyChar {c : Char} (bare : isBareKeyChar c = true) : IsVisible c := by
  intro blank
  simp only [List.mem_cons, List.not_mem_nil, or_false] at blank
  rcases blank with rfl | rfl | rfl | rfl | rfl
  all_goals cases bare

/-- A bare key is scanned up to the first character that cannot belong to it. -/
theorem scanKeyPart_bare {name : List Char} (filled : name ≠ [])
    (bare : ∀ c ∈ name, isBareKeyChar c = true) {first : Char}
    (behind : isBareKeyChar first = false) (rest : List Char) :
    scanKeyPart (name ++ first :: rest) = some (name, first :: rest) := by
  have taken : (name ++ first :: rest).takeWhile isBareKeyChar = name := by
    rw [List.takeWhile_append_of_pos bare, List.takeWhile_cons_of_neg (by simp [behind]),
      List.append_nil]
  have left : (name ++ first :: rest).dropWhile isBareKeyChar = first :: rest := by
    rw [List.dropWhile_append_of_pos bare, List.dropWhile_cons_of_neg (by simp [behind])]
  have unquoted {quote : Char} (notBare : isBareKeyChar quote = false) :
      ∀ others, name ++ first :: rest ≠ quote :: others := by
    intro others same
    obtain ⟨head, tail, rfl⟩ := List.exists_cons_of_ne_nil filled
    obtain rfl := (List.cons.inj same).1
    exact Bool.eq_false_iff.mp notBare (bare head List.mem_cons_self)
  rw [scanKeyPart.eq_3 _ (unquoted rfl) (unquoted rfl), taken, left]
  exact if_neg (by simpa using filled)

/-- A key is scanned as it was written. -/
theorem scanKeyPart_writeKey {first : Char} (behind : isBareKeyChar first = false)
    (key rest : List Char) :
    scanKeyPart (writeKey key ++ first :: rest) = some (key, first :: rest) := by
  have escaped : scanKeyPart ('"' :: escapeLine key ++ ['"'] ++ first :: rest) =
      some (key, first :: rest) := by
    rw [List.append_assoc]
    exact scanBasic_escapeLine key (first :: rest)
  unfold writeKey
  dsimp only
  split_ifs with bare plain literal
  · simp only [Bool.and_eq_true, Bool.not_eq_true', List.isEmpty_eq_false_iff, List.all_eq_true]
      at bare
    exact scanKeyPart_bare bare.1 bare.2 behind rest
  · exact escaped
  · simp only [Bool.and_eq_true, Bool.not_eq_true', List.any_eq_false, Bool.not_eq_true] at literal
    have noQuote : '\'' ∉ key := by
      intro member
      exact Bool.eq_false_iff.mp literal.2 (List.contains_iff_mem.mpr member)
    rw [List.append_assoc]
    exact scanLiteral_append literal.1 noQuote (first :: rest)
  · exact escaped

/-! ## Whole keys -/

/-- Behind a part of a key stands a point and the next part, or the part was the last one. -/
theorem scanKeyParts_of_part {text part rest : List Char}
    (scanned : scanKeyPart text = some (part, rest)) (limit : Nat) :
    scanKeyParts (limit + 1) text =
      match skipSpace rest with
      | '.' :: rest => do
          let (parts, rest) <- scanKeyParts limit (skipSpace rest)
          return (String.ofList part :: parts, rest)
      | rest => return ([String.ofList part], rest) := by
  rw [scanKeyParts, scanned]
  rfl

/-- A key ends with the part that has no point behind it. -/
theorem scanKeyParts_last {text part rest : List Char} {first : Char}
    (scanned : scanKeyPart text = some (part, rest)) {others : List Char}
    (behind : skipSpace rest = first :: others) (noPoint : first ≠ '.') (limit : Nat) :
    scanKeyParts (limit + 1) text = some ([String.ofList part], first :: others) := by
  rw [scanKeyParts_of_part scanned, behind]
  split
  · rename_i same
    exact absurd (List.cons.inj same).1 noPoint
  · rfl

/-- A key goes on behind a point, as long as the limit allows another part. -/
theorem scanKeyParts_further {text part rest others left : List Char} {parts : List String}
    {limit : Nat} (scanned : scanKeyPart text = some (part, rest))
    (behind : skipSpace rest = '.' :: others)
    (tail : scanKeyParts limit (skipSpace others) = some (parts, left)) :
    scanKeyParts (limit + 1) text = some (String.ofList part :: parts, left) := by
  rw [scanKeyParts_of_part scanned, behind]
  change ((scanKeyParts limit (skipSpace others)).bind fun found =>
    some (String.ofList part :: found.1, found.2)) = _
  rw [tail]
  rfl

/-- The key of an assignment is scanned up to its equals sign. -/
theorem scanKey_writeKey (key rest : List Char) :
    scanKey (writeKey key ++ ' ' :: '=' :: rest) = some ([String.ofList key], '=' :: rest) :=
  scanKeyParts_last (scanKeyPart_writeKey rfl key _) rfl (by decide) _

/-- The name of a header, with the points between its parts. -/
def joinedPath (path : List String) : List Char :=
  ['.'].intercalate (path.map String.toList)

/-- Names of a path are joined by points. -/
theorem joinedPath_cons_cons (name next : String) (others : List String) :
    joinedPath (name :: next :: others) = name.toList ++ '.' :: joinedPath (next :: others) := by
  rw [joinedPath, List.map_cons, List.map_cons, List.intercalate_cons_cons, List.append_assoc]
  rfl

/-- A path of bare names begins with a character of a bare key. -/
theorem joinedPath_head {path : List String} (bare : ∀ name ∈ path, IsBare name)
    (filled : path ≠ []) :
    ∃ first others, joinedPath path = first :: others ∧ isBareKeyChar first = true := by
  obtain ⟨name, others, rfl⟩ := List.exists_cons_of_ne_nil filled
  obtain ⟨nameFilled, nameBare⟩ := bare name List.mem_cons_self
  obtain ⟨first, tail, spelled⟩ := List.exists_cons_of_ne_nil nameFilled
  have firstBare : isBareKeyChar first = true := by
    apply nameBare
    rw [spelled]
    exact List.mem_cons_self
  cases others with
  | nil => exact ⟨first, tail, by simpa [joinedPath] using spelled, firstBare⟩
  | cons next others =>
      refine ⟨first, tail ++ '.' :: joinedPath (next :: others), ?_, firstBare⟩
      rw [joinedPath_cons_cons, spelled, List.cons_append]

/-- Nothing is skipped in front of a path of bare names. -/
theorem skipSpace_joinedPath {path : List String} (bare : ∀ name ∈ path, IsBare name)
    (filled : path ≠ []) (rest : List Char) :
    skipSpace (joinedPath path ++ rest) = joinedPath path ++ rest := by
  obtain ⟨first, others, spelled, firstBare⟩ := joinedPath_head bare filled
  rw [spelled]
  exact skipSpace_visible (isVisible_of_isBareKeyChar firstBare) _

/-- A path of bare names is scanned name by name up to the bracket behind it. -/
theorem scanKeyParts_joinedPath {path : List String} (bare : ∀ name ∈ path, IsBare name)
    {limit : Nat} (short : path.length ≤ limit) (filled : path ≠ []) (rest : List Char) :
    scanKeyParts limit (joinedPath path ++ ']' :: rest) = some (path, ']' :: rest) := by
  induction path generalizing limit with
  | nil => exact absurd rfl filled
  | cons name others inductionHypothesis =>
      obtain ⟨⟨nameFilled, nameBare⟩, othersBare⟩ := List.forall_mem_cons.mp bare
      obtain _ | limit := limit
      · cases short
      cases others with
      | nil =>
          have scanned : scanKeyPart (name.toList ++ ']' :: rest) =
              some (name.toList, ']' :: rest) :=
            scanKeyPart_bare nameFilled nameBare rfl rest
          simpa [joinedPath] using scanKeyParts_last scanned rfl (by decide) limit
      | cons next others =>
          have othersFilled := List.cons_ne_nil next others
          have tail := inductionHypothesis othersBare (Nat.le_of_succ_le_succ short) othersFilled
          rw [← skipSpace_joinedPath othersBare othersFilled] at tail
          rw [joinedPath_cons_cons, List.append_assoc, List.cons_append]
          have scanned := scanKeyPart_bare nameFilled nameBare (rfl : isBareKeyChar '.' = false)
            (joinedPath (next :: others) ++ ']' :: rest)
          rw [scanKeyParts_further scanned rfl tail, String.ofList_toList]

/-- The key of a header is scanned up to its bracket, with all its parts. -/
theorem scanKey_joinedPath {path : List String} (bare : ∀ name ∈ path, IsBare name)
    (short : path.length ≤ nestingLimit) (filled : path ≠ []) (rest : List Char) :
    scanKey (skipSpace (joinedPath path ++ ']' :: rest)) = some (path, ']' :: rest) := by
  rw [skipSpace_joinedPath bare filled]
  exact scanKeyParts_joinedPath bare short filled rest

end ProtocolHeaders.Toml
