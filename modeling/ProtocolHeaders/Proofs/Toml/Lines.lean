import ProtocolHeaders.Proofs.Toml.Values

/-!
# Files are scanned line by line

A piece of a file takes a document on to another one, wherever the piece stands. Pieces are
headers, assignments and blank lines, and what these do adds up over a whole file.
-/

namespace ProtocolHeaders.Toml

/-! ## Values of assignments -/

/-- A text is scanned as a value if the line ends behind it. -/
structure Spells (written : List Char) (value : Value) : Prop where
  visible : ∃ first others, written = first :: others ∧ IsVisible first
  scanned : ∀ bound rest, written.length < bound ->
    scanValue bound nestingLimit (written ++ '\n' :: rest) = some (value, '\n' :: rest)

/-- A text is written so that it is scanned as itself. -/
theorem spells_text (text : String) : Spells (writeText text.toList) (.text text) where
  visible := by
    obtain ⟨first, others, written, visible, -⟩ := writeText_visible text.toList
    exact ⟨first, others, written, visible⟩
  scanned := by
    intro bound rest _
    exact scanValue_text (by decide) (by decide) bound nestingLimit text rest

/-- A flag is written so that it is scanned as itself. -/
theorem spells_flag (value : Bool) : Spells (writeFlag value) (.flag value) where
  visible := by
    cases value with
    | false => exact ⟨'f', _, rfl, by decide⟩
    | true => exact ⟨'t', _, rfl, by decide⟩
  scanned := by
    intro bound rest _
    exact scanValue_flag bound value rest

/-- A list of texts is written so that it is scanned as the list of these texts. -/
theorem spells_texts (items : List String) :
    Spells (writeTexts items) (.list (items.map .text)) where
  visible := by
    match items with
    | [] => exact ⟨'[', _, rfl, by decide⟩
    | [item] => exact ⟨'[', _, rfl, by decide⟩
    | first :: second :: others => exact ⟨'[', _, rfl, by decide⟩
  scanned := by
    intro bound rest enough
    exact scanValue_texts _ (Nat.lt_trans (length_lt_writeTexts items) enough) _

/-! ## Statements -/

/-- A key begins with a character that is no space and opens no header. -/
theorem writeKey_visible (key : List Char) :
    ∃ first others, writeKey key = first :: others ∧ IsVisible first ∧ first ≠ '[' := by
  unfold writeKey
  dsimp only
  split_ifs with bare
  · simp only [Bool.and_eq_true, Bool.not_eq_true', List.isEmpty_eq_false_iff, List.all_eq_true]
      at bare
    obtain ⟨first, others, rfl⟩ := List.exists_cons_of_ne_nil bare.1
    have firstBare := bare.2 first List.mem_cons_self
    refine ⟨first, others, rfl, isVisible_of_isBareKeyChar firstBare, ?_⟩
    rintro rfl
    cases firstBare
  · exact ⟨'"', _, rfl, by decide, by decide⟩
  · exact ⟨'\'', _, rfl, by decide, by decide⟩
  · exact ⟨'"', _, rfl, by decide, by decide⟩

/-- An assignment is its key, a sign of equality and its value on a line, whatever follows. -/
theorem writeAssignment_append (key : String) (written rest : List Char) :
    writeAssignment key written ++ rest =
      writeKey key.toList ++ ' ' :: '=' :: ' ' :: (written ++ '\n' :: rest) := by
  simp [writeAssignment]

/-- The sign of equality, the spaces around it and the line break take four characters. -/
theorem length_writeAssignment (key : String) (written : List Char) :
    (writeAssignment key written).length = (writeKey key.toList).length + written.length + 4 := by
  simp only [writeAssignment, List.length_append, List.length_cons, List.length_nil]
  omega

/-- The key and the value of an assignment are scanned as they were written. -/
theorem scanAssignment_of_spells {written : List Char} {value : Value}
    (spells : Spells written value) (key : String) {bound : Nat} (enough : written.length < bound)
    (rest : List Char) :
    scanAssignment (fun text => some (skipSpace text)) (scanValue bound nestingLimit)
        (writeKey key.toList ++ ' ' :: '=' :: ' ' :: (written ++ '\n' :: rest)) =
      some ([key], value, '\n' :: rest) := by
  obtain ⟨first, others, spelled, visible⟩ := spells.visible
  have found := spells.scanned bound rest enough
  have skipped : skipSpace (' ' :: (written ++ '\n' :: rest)) = written ++ '\n' :: rest := by
    rw [spelled]
    exact skipSpace_visible visible _
  rw [scanAssignment, scanKey_writeKey, String.ofList_toList]
  change ((scanValue bound nestingLimit (skipSpace (' ' :: (written ++ '\n' :: rest)))).bind
    fun found => some ([key], found.1, found.2)) = _
  rw [skipped, found]
  rfl

/-- A line with an assignment is scanned as the statement that assigns the value to the key. -/
theorem scanStatement_assignment {written : List Char} {value : Value}
    (spells : Spells written value) {key : String} {before after : Document}
    (assigned : before.assign [key] value = some after) {bound : Nat}
    (enough : written.length < bound) (rest : List Char) :
    scanStatement bound before
        (writeKey key.toList ++ ' ' :: '=' :: ' ' :: (written ++ '\n' :: rest)) =
      some (after, '\n' :: rest) := by
  obtain ⟨first, others, spelled, -, noHeader⟩ := writeKey_visible key.toList
  rw [scanStatement.eq_2, scanAssignment_of_spells spells key enough rest]
  · change ((before.assign [key] value).bind fun document => some (document, '\n' :: rest)) = _
    rw [assigned]
    rfl
  · intro text same
    rw [spelled] at same
    exact noHeader (List.cons.inj same).1

/-- A header is its path in brackets on a line, whatever follows. -/
theorem writeHeader_append (path : List String) (rest : List Char) :
    writeHeader path ++ rest = '[' :: (joinedPath path ++ ']' :: '\n' :: rest) := by
  have joined : (String.intercalate "." path).toList = joinedPath path :=
    String.toList_intercalate
  rw [writeHeader, joined, List.append_assoc]
  rfl

/-- The path of a header, which nests no deeper than it may. -/
structure IsHeaderPath (path : List String) : Prop where
  filled : path ≠ []
  bare : ∀ name ∈ path, IsBare name
  short : path.length ≤ nestingLimit

/-- A line with a header is scanned as the statement that opens the table at the path. -/
theorem scanStatement_header {path : List String} (isPath : IsHeaderPath path)
    {before after : Document} (opened : before.openTable path = some after) (bound : Nat)
    (rest : List Char) :
    scanStatement bound before ('[' :: (joinedPath path ++ ']' :: '\n' :: rest)) =
      some (after, '\n' :: rest) := by
  have scanned := scanKey_joinedPath isPath.bare isPath.short isPath.filled ('\n' :: rest)
  obtain ⟨first, others, spelled, firstBare⟩ := joinedPath_head isPath.bare isPath.filled
  change scanHeader before (joinedPath path ++ ']' :: '\n' :: rest) = _
  rw [scanHeader.eq_2, scanned]
  · change ((before.openTable path).bind fun document => some (document, '\n' :: rest)) = _
    rw [opened]
    rfl
  · intro text same
    rw [spelled] at same
    obtain rfl := (List.cons.inj same).1
    cases firstBare

/-! ## Pieces of files -/

/-- A line with a statement is followed by what stands on the lines behind it. -/
theorem scanStatements_line {bound : Nat} {before after : Document} {first : Char}
    (visible : IsVisible first) {others rest : List Char}
    (scanned : scanStatement bound before (first :: others) = some (after, '\n' :: rest))
    (fuel : Nat) :
    scanStatements bound (fuel + 1) before (first :: others) =
      scanStatements bound fuel after rest := by
  rw [scanStatements, skipLines_visible visible, Option.bind_eq_bind, Option.bind_some]
  change ((scanStatement bound before (first :: others)).bind fun found =>
    (endLine found.2).bind fun rest => scanStatements bound fuel found.1 rest) = _
  rw [scanned]
  rfl

/-- A piece of a file takes a document on to another one, with as many statements as it may
have, whatever stands behind it. -/
def Builds (text : List Char) (before after : Document) : Prop :=
  ∃ count ≤ text.length, ∀ bound fuel rest, text.length < bound ->
    scanStatements bound (fuel + count) before (text ++ rest) =
      scanStatements bound fuel after rest

/-- An empty piece leaves a document as it is. -/
theorem Builds.refl (document : Document) : Builds [] document document :=
  ⟨0, Nat.le_refl 0, fun _ _ _ _ => rfl⟩

/-- What two pieces do adds up if they stand one behind the other. -/
theorem Builds.append {first second : List Char} {before middle after : Document}
    (builds : Builds first before middle) (further : Builds second middle after) :
    Builds (first ++ second) before after := by
  obtain ⟨firstCount, firstFits, firstScanned⟩ := builds
  obtain ⟨secondCount, secondFits, secondScanned⟩ := further
  refine ⟨secondCount + firstCount, ?_, ?_⟩
  · rw [List.length_append]
    omega
  · intro bound fuel rest enough
    rw [List.length_append] at enough
    rw [List.append_assoc, ← Nat.add_assoc, firstScanned _ _ _ (by omega),
      secondScanned _ _ _ (by omega)]

/-- A blank line changes nothing. -/
theorem builds_blank (document : Document) : Builds ['\n'] document document := by
  refine ⟨0, Nat.zero_le _, ?_⟩
  intro bound fuel rest _
  cases fuel with
  | zero => rfl
  | succ fuel => rfl

/-- A header by itself is a piece that opens its table. -/
theorem builds_header {path : List String} (isPath : IsHeaderPath path)
    {before after : Document} (opened : before.openTable path = some after) :
    Builds (writeHeader path) before after := by
  refine ⟨1, by simp [writeHeader], ?_⟩
  intro bound fuel rest _
  rw [writeHeader_append]
  exact scanStatements_line (by decide) (scanStatement_header isPath opened bound rest) fuel

/-- An assignment by itself is a piece that assigns its value. -/
theorem builds_assignment {written : List Char} {value : Value} (spells : Spells written value)
    {key : String} {before after : Document} (assigned : before.assign [key] value = some after) :
    Builds (writeAssignment key written) before after := by
  have length := length_writeAssignment key written
  refine ⟨1, by omega, ?_⟩
  intro bound fuel rest enough
  obtain ⟨first, others, spelled, visible, -⟩ := writeKey_visible key.toList
  have scanned := scanStatement_assignment spells assigned (by omega : written.length < bound) rest
  rw [writeAssignment_append]
  rw [spelled, List.cons_append] at scanned ⊢
  exact scanStatements_line visible scanned fuel

/-- A file is read as the document that its text builds. -/
theorem read?_of_builds {text : List Char} {document : Document} (builds : Builds text {} document)
    (unmarked : ∀ others, text ≠ '\uFEFF' :: others) :
    read? (String.ofList text) = some document.toTable := by
  obtain ⟨count, fits, scanned⟩ := builds
  have noMark : dropByteOrderMark text = text := by
    rw [dropByteOrderMark]
    exact fun others same => unmarked others same
  obtain ⟨spare, whole⟩ := Nat.exists_eq_add_of_le fits
  have found := scanned (text.length + 1) (spare + 1) [] (Nat.lt_succ_self _)
  have enough : spare + 1 + count = text.length + 1 := by omega
  rw [enough, List.append_nil] at found
  rw [read?, String.toList_ofList, noMark, found]
  rfl

end ProtocolHeaders.Toml
