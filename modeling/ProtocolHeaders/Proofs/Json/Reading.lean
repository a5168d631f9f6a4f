import ProtocolHeaders.Json.Reader
import ProtocolHeaders.Proofs.Json.Layout

/-!
# Readers give back what a text holds

A reader reads a value from a text if it gives the value back wherever the text stands, with
everything behind the text untouched. Readers of lists and records do so if the readers of
their members do.
-/

namespace ProtocolHeaders.Json

variable {RecordName : Type}

/-- A step that succeeds hands its value to the next one. -/
@[simp] theorem ok_bind {α β : Type} (value : α) (next : α -> Except Error β) :
    (Except.ok value >>= next) = next value := rfl

/-- A reader gives a value for a text, whatever spaces stand before it and whatever stands
behind it. -/
def Reads (reader : Reader Data) (text : List Char) (data : Data) : Prop :=
  ∀ spaces rest, IsBlank spaces -> reader (spaces ++ (text ++ rest)) = .ok (data, rest)

/-- A text begins with a character that matters and that closes no list. -/
def Begins (text : List Char) : Prop :=
  ∃ first rest, text = first :: rest ∧ isSpace first = false ∧ first ≠ ']'

/-- A text that begins with a character is not empty. -/
theorem Begins.ne_nil {text : List Char} (begins : Begins text) : text ≠ [] := by
  obtain ⟨first, rest, rfl, -, -⟩ := begins
  exact List.cons_ne_nil first rest

/-- Spaces are skipped up to the first character that matters. -/
theorem skipSpace_append {spaces : List Char} (blank : IsBlank spaces) {first : Char}
    (matters : isSpace first = false) (rest : List Char) :
    skipSpace (spaces ++ first :: rest) = first :: rest := by
  rw [skipSpace, List.dropWhile_append_of_pos blank, List.dropWhile_cons_of_neg (by simp [matters])]

/-- Nothing is skipped in front of a character that matters. -/
theorem skipSpace_cons {first : Char} (matters : isSpace first = false) (rest : List Char) :
    skipSpace (first :: rest) = first :: rest :=
  @skipSpace_append [] isBlank_nil first matters rest

/-- The next character is the first one behind the spaces. -/
theorem nextChar_append {spaces : List Char} (blank : IsBlank spaces) {first : Char}
    (matters : isSpace first = false) (rest : List Char) :
    nextChar (spaces ++ first :: rest) = .ok (first, rest) := by
  rw [nextChar, skipSpace_append blank matters]

/-! ## Texts and names -/

/-- A text is read from the string that is written for it. -/
theorem reads_readText (value : String) : Reads readText (writeString value) (.text value) := by
  intro spaces rest blank
  rw [readText, writeString_append, nextChar_append blank rfl, ok_bind]
  simp only [↓reduceIte, scanString_flatMap_escapeChar, ok_bind, String.ofList_toList]
  rfl

/-- A text that may be absent is read from its string if it is there. -/
theorem reads_readOptionalText (value : String) :
    Reads readOptionalText (writeString value) (.text value) := by
  intro spaces rest blank
  rw [readOptionalText, writeString_append, skipSpace_append blank rfl]
  rw [← writeString_append]
  exact reads_readText value spaces rest blank

/-- A text that is absent is read from a null. -/
theorem reads_readOptionalText_null : Reads readOptionalText "null".toList .absent := by
  intro spaces rest blank
  change readOptionalText (spaces ++ 'n' :: ('u' :: 'l' :: 'l' :: rest)) = _
  rw [readOptionalText, skipSpace_append blank rfl]
  rfl

/-- A flag is read from its name. -/
theorem reads_readFlag (value : Bool) :
    Reads readFlag (if value then "true" else "false").toList (.flag value) := by
  intro spaces rest blank
  cases value with
  | true =>
      change readFlag (spaces ++ 't' :: ('r' :: 'u' :: 'e' :: rest)) = _
      rw [readFlag, nextChar_append blank rfl]
      rfl
  | false =>
      change readFlag (spaces ++ 'f' :: ('a' :: 'l' :: 's' :: 'e' :: rest)) = _
      rw [readFlag, nextChar_append blank rfl]
      rfl

/-- One of several names is read from its string. -/
theorem reads_readChoice (mayNest : Bool) {variants : List String} {name : String}
    (isVariant : name ∈ variants) :
    Reads (readChoice mayNest variants) (writeString name) (.text name) := by
  intro spaces rest blank
  have isContained : variants.contains name = true := List.contains_iff_mem.mpr isVariant
  rw [readChoice, writeString_append, nextChar_append blank rfl, ok_bind]
  simp only [↓reduceIte, readVariant, scanString_flatMap_escapeChar, ok_bind,
    String.ofList_toList, variantOf, isContained]
  rfl

/-! ## Lists -/

section Lists

variable {layout : Layout} {item : Reader Data} {text : Data -> List Char}

/-- The first member of a list stands behind the bracket. -/
theorem nextItem?_first {spaces : List Char} (blank : IsBlank spaces) {member : List Char}
    (begins : Begins member) (rest : List Char) :
    nextItem? true (spaces ++ (member ++ rest)) = .ok (some (member ++ rest)) := by
  obtain ⟨first, others, rfl, matters, notCloser⟩ := begins
  rw [nextItem?, List.cons_append, skipSpace_append blank matters]
  simp [notCloser]

/-- Any further member stands behind a comma. -/
theorem nextItem?_further {spaces : List Char} (blank : IsBlank spaces) {member : List Char}
    (begins : Begins member) (rest : List Char) :
    nextItem? false (',' :: (spaces ++ (member ++ rest))) = .ok (some (member ++ rest)) := by
  obtain ⟨first, others, rfl, matters, notCloser⟩ := begins
  have comma : ∀ text, skipSpace (',' :: text) = ',' :: text := skipSpace_cons rfl
  simp [nextItem?, comma, skipSpace_append blank matters, notCloser]

/-- A bracket ends a list, with members before it or without. -/
theorem nextItem?_end (isFirst : Bool) {spaces : List Char} (blank : IsBlank spaces)
    (rest : List Char) : nextItem? isFirst (spaces ++ ']' :: rest) = .ok none := by
  rw [nextItem?, skipSpace_append blank rfl]
  rfl

/-- A list is closed by its bracket, whatever spaces stand before it. -/
theorem closeList_append {spaces : List Char} (blank : IsBlank spaces) (rest : List Char) :
    closeList (spaces ++ ']' :: rest) = .ok rest := by
  rw [closeList, skipSpace_append blank rfl]
  rfl

/-- An item is read and put before those behind it. -/
theorem readItems_of_nextItem? {isFirst : Bool} {before rest ending : List Char} {data : Data}
    (found : nextItem? isFirst before = .ok (some (text data ++ rest)))
    (reads : Reads item (text data) data) {bound : Nat} {others : List Data}
    (tail : readItems item bound false rest = .ok (others, ending)) :
    readItems item (bound + 1) isFirst before = .ok (data :: others, ending) := by
  have head : item (text data ++ rest) = .ok (data, rest) := reads [] rest isBlank_nil
  rw [readItems, found, ok_bind]
  simp only [head, ok_bind, tail]
  rfl

/-- The items behind the first one are read one by one up to the end of the list. -/
theorem readItems_further (spacing : layout.IsSpacing) (depth : Nat) {items : List Data}
    (begin : ∀ data ∈ items, Begins (text data))
    (reads : ∀ data ∈ items, Reads item (text data) data) {bound : Nat}
    (enough : items.length < bound) {ending : List Char}
    (ends : nextItem? false ending = .ok none) :
    readItems item bound false (layout.further depth (items.map text) ++ ending) =
      .ok (items, ending) := by
  induction items generalizing bound with
  | nil =>
      obtain _ | bound := bound
      · cases enough
      · change readItems item (bound + 1) false ending = _
        rw [readItems, ends]
        rfl
  | cons data others inductionHypothesis =>
      obtain _ | bound := bound
      · cases enough
      · obtain ⟨dataBegins, othersBegin⟩ := List.forall_mem_cons.mp begin
        obtain ⟨dataReads, othersRead⟩ := List.forall_mem_cons.mp reads
        have tail := inductionHypothesis othersBegin othersRead (Nat.lt_of_succ_lt_succ enough)
        rw [List.map_cons, Layout.further_cons, List.cons_append, List.append_assoc,
          List.append_assoc]
        exact readItems_of_nextItem? (nextItem?_further (spacing.lineBreak depth) dataBegins _)
          dataReads tail

/-- A list is read from its brackets if its members are read between them. -/
theorem readList_of_readItems {spaces : List Char} (blank : IsBlank spaces) {bound : Nat}
    {inner ending rest : List Char} {items : List Data}
    (found : readItems item bound true inner = .ok (items, ending))
    (closes : closeList ending = .ok rest) :
    readList bound (some item) (spaces ++ '[' :: inner) = .ok (.list items, rest) := by
  rw [readList, nextChar_append blank rfl, ok_bind]
  simp only [↓reduceIte, found, ok_bind, closes]
  rfl

/-- A list is read if its items are. -/
theorem reads_readList (spacing : layout.IsSpacing) (depth : Nat) {items : List Data}
    (begin : ∀ data ∈ items, Begins (text data))
    (reads : ∀ data ∈ items, Reads item (text data) data) {bound : Nat}
    (enough : items.length < bound) :
    Reads (readList bound (some item)) (layout.enclose depth '[' ']' (items.map text))
      (.list items) := by
  intro spaces rest blank
  obtain _ | bound := bound
  · cases enough
  cases items with
  | nil =>
      have ends := @nextItem?_end true [] isBlank_nil rest
      have found : readItems item (bound + 1) true (']' :: rest) = .ok ([], ']' :: rest) := by
        rw [readItems, ← List.nil_append (']' :: rest), ends]
        rfl
      exact readList_of_readItems blank found (@closeList_append [] isBlank_nil rest)
  | cons data others =>
      obtain ⟨dataBegins, othersBegin⟩ := List.forall_mem_cons.mp begin
      obtain ⟨dataReads, othersRead⟩ := List.forall_mem_cons.mp reads
      have ends := nextItem?_end false (spacing.lineBreak depth) rest
      have closes := closeList_append (spacing.lineBreak depth) rest
      have tail := readItems_further spacing (depth + 1) othersBegin othersRead
        (Nat.lt_of_succ_lt_succ enough) ends
      have found := readItems_of_nextItem?
        (nextItem?_first (spacing.lineBreak (depth + 1)) dataBegins _) dataReads tail
      rw [List.map_cons, Layout.enclose_cons]
      simp only [List.cons_append, List.append_assoc, List.nil_append]
      exact readList_of_readItems blank found closes

end Lists

/-! ## Records -/

section Records

variable {layout : Layout} {read : Shape RecordName -> Reader Data}
  {fields : List (Field RecordName)} {text : Field RecordName × Data -> List Char}

/-- The first key of a record stands behind the brace. -/
theorem nextKey?_first {spaces : List Char} (blank : IsBlank spaces) (rest : List Char) :
    nextKey? true (spaces ++ '"' :: rest) = .ok (some rest) := by
  rw [nextKey?, skipSpace_append blank rfl]
  rfl

/-- Any further key stands behind a comma. -/
theorem nextKey?_further {spaces : List Char} (blank : IsBlank spaces) (rest : List Char) :
    nextKey? false (',' :: (spaces ++ '"' :: rest)) = .ok (some rest) := by
  have comma : ∀ text, skipSpace (',' :: text) = ',' :: text := skipSpace_cons rfl
  have quote : skipSpace (spaces ++ '"' :: rest) = '"' :: rest := skipSpace_append blank rfl rest
  simp [nextKey?, comma, quote]

/-- A brace ends a record, with members before it or without. -/
theorem nextKey?_end (isFirst : Bool) {spaces : List Char} (blank : IsBlank spaces)
    (rest : List Char) : nextKey? isFirst (spaces ++ '\x7d' :: rest) = .ok none := by
  rw [nextKey?, skipSpace_append blank rfl]
  rfl

/-- A record is closed by its brace, whatever spaces stand before it. -/
theorem closeObject_append {spaces : List Char} (blank : IsBlank spaces) (rest : List Char) :
    closeObject (spaces ++ '\x7d' :: rest) = .ok rest := by
  rw [closeObject, skipSpace_append blank rfl]
  rfl

/-- A member that is a field is read and put before those in front of it. -/
theorem readMembers_of_nextKey? (spacing : layout.IsSpacing) {entry : Field RecordName × Data}
    {isFirst : Bool} {before rest : List Char}
    (found : nextKey? isFirst before = .ok (some (entry.1.key.toList.flatMap escapeChar ++
      '"' :: (layout.colon ++ (text entry ++ rest)))))
    (known : fields.find? (·.key == entry.1.key) = some entry.1)
    (reads : Reads (read entry.1.shape) (text entry) entry.2) {members : List (String × Data)}
    (fresh : members.lookup entry.1.key = none) {bound : Nat}
    {result : List (String × Data) × List Char}
    (tail : readMembers read fields bound false ((entry.1.key, entry.2) :: members) rest =
      .ok result) :
    readMembers read fields (bound + 1) isFirst members before = .ok result := by
  obtain ⟨spaces, colon, blank⟩ := spacing.colon
  have afterColon : scanColon (layout.colon ++ (text entry ++ rest)) =
      .ok (spaces ++ (text entry ++ rest)) := by
    rw [colon, List.cons_append, scanColon, skipSpace_cons rfl]
    rfl
  rw [readMembers, found, ok_bind]
  simp only [scanString_flatMap_escapeChar, ok_bind, String.ofList_toList, known, fresh,
    afterColon, reads spaces rest blank, Option.isSome_none, Bool.false_eq_true, ↓reduceIte]
  exact tail

/-- A key that no other entry has leaves the others without a value. -/
theorem lookup_eq_none_after {entries : List (Field RecordName × Data)} {key : String}
    (notAmong : key ∉ entries.map fun entry => entry.1.key) (value : Data)
    {members : List (String × Data)}
    (fresh : ∀ entry ∈ entries, members.lookup entry.1.key = none) :
    ∀ entry ∈ entries, ((key, value) :: members).lookup entry.1.key = none := by
  intro entry member
  have differs : entry.1.key ≠ key := fun same =>
    notAmong (List.mem_map.mpr ⟨entry, member, same⟩)
  rw [List.lookup_cons, beq_false_of_ne differs]
  exact fresh entry member

/-- The members behind the first one are read one by one up to the end of the object. -/
theorem readMembers_further (spacing : layout.IsSpacing) (depth : Nat)
    {entries : List (Field RecordName × Data)}
    (known : ∀ entry ∈ entries, fields.find? (·.key == entry.1.key) = some entry.1)
    (reads : ∀ entry ∈ entries, Reads (read entry.1.shape) (text entry) entry.2)
    (distinct : (entries.map fun entry => entry.1.key).Nodup) {members : List (String × Data)}
    (fresh : ∀ entry ∈ entries, members.lookup entry.1.key = none) {bound : Nat}
    (enough : entries.length < bound) {ending : List Char}
    (ends : nextKey? false ending = .ok none) :
    readMembers read fields bound false members
        (layout.further depth (entries.map fun entry => layout.member entry.1.key (text entry)) ++
          ending) =
      .ok ((entries.map fun entry => (entry.1.key, entry.2)).reverse ++ members, ending) := by
  induction entries generalizing bound members with
  | nil =>
      obtain _ | bound := bound
      · cases enough
      · change readMembers read fields (bound + 1) false members ending = _
        rw [readMembers, ends]
        rfl
  | cons entry others inductionHypothesis =>
      obtain _ | bound := bound
      · cases enough
      · obtain ⟨entryKnown, othersKnown⟩ := List.forall_mem_cons.mp known
        obtain ⟨entryReads, othersRead⟩ := List.forall_mem_cons.mp reads
        obtain ⟨entryFresh, othersFresh⟩ := List.forall_mem_cons.mp fresh
        obtain ⟨notAmong, othersDistinct⟩ := List.nodup_cons.mp distinct
        have freshAfter := lookup_eq_none_after notAmong entry.2 othersFresh
        have tail := inductionHypothesis othersKnown othersRead othersDistinct freshAfter
          (Nat.lt_of_succ_lt_succ enough)
        rw [List.map_cons, Layout.further_cons, List.cons_append, List.append_assoc,
          List.append_assoc, Layout.member_append, List.map_cons, List.reverse_cons,
          List.append_assoc]
        exact readMembers_of_nextKey? spacing (nextKey?_further (spacing.lineBreak depth) _)
          entryKnown entryReads entryFresh tail

/-- A record is read from its braces if its members are read between them and fill its fields. -/
theorem readRecord_of_readMembers {record : RecordShape RecordName} {spaces : List Char}
    (blank : IsBlank spaces) {bound : Nat} {inner ending rest : List Char}
    {members : List (String × Data)} {data : List Data}
    (found : readMembers read record.fields bound true [] inner = .ok (members, ending))
    (filled : fillFields members record.fields = .ok data)
    (closes : closeObject ending = .ok rest) :
    readRecord bound (some read) record (spaces ++ '\x7b' :: inner) =
      .ok (.record data, rest) := by
  have notList : '\x7b' ≠ '[' := by decide
  rw [readRecord, nextChar_append blank rfl, ok_bind]
  simp only [notList, ↓reduceIte, found, ok_bind, filled, closes]
  rfl

/-- A record is read if its members are and if they fill its fields. -/
theorem reads_readRecord (spacing : layout.IsSpacing) (depth : Nat)
    (record : RecordShape RecordName) {entries : List (Field RecordName × Data)}
    (known : ∀ entry ∈ entries, record.fields.find? (·.key == entry.1.key) = some entry.1)
    (reads : ∀ entry ∈ entries, Reads (read entry.1.shape) (text entry) entry.2)
    (distinct : (entries.map fun entry => entry.1.key).Nodup) {data : List Data}
    (filled : fillFields (entries.map fun entry => (entry.1.key, entry.2)).reverse record.fields =
      .ok data) {bound : Nat} (enough : entries.length < bound) :
    Reads (readRecord bound (some read) record)
      (layout.enclose depth '\x7b' '\x7d'
        (entries.map fun entry => layout.member entry.1.key (text entry)))
      (.record data) := by
  intro spaces rest blank
  obtain _ | bound := bound
  · cases enough
  cases entries with
  | nil =>
      have ends := @nextKey?_end true [] isBlank_nil rest
      have found : readMembers read record.fields (bound + 1) true [] ('\x7d' :: rest) =
          .ok ([], '\x7d' :: rest) := by
        rw [readMembers, ← List.nil_append ('\x7d' :: rest), ends]
        rfl
      exact readRecord_of_readMembers blank found filled (@closeObject_append [] isBlank_nil rest)
  | cons entry others =>
      obtain ⟨entryKnown, othersKnown⟩ := List.forall_mem_cons.mp known
      obtain ⟨entryReads, othersRead⟩ := List.forall_mem_cons.mp reads
      obtain ⟨notAmong, othersDistinct⟩ := List.nodup_cons.mp distinct
      have ends := nextKey?_end false (spacing.lineBreak depth) rest
      have closes := closeObject_append (spacing.lineBreak depth) rest
      have fresh := lookup_eq_none_after notAmong entry.2 fun _ _ => List.lookup_nil
      have tail := readMembers_further spacing (depth + 1) othersKnown othersRead othersDistinct
        fresh (Nat.lt_of_succ_lt_succ enough) ends
      have found := readMembers_of_nextKey? spacing
        (nextKey?_first (spacing.lineBreak (depth + 1)) _) entryKnown entryReads List.lookup_nil
        tail
      rw [← Layout.member_append] at found
      rw [List.map_cons, List.reverse_cons] at filled
      rw [List.map_cons, Layout.enclose_cons]
      simp only [List.cons_append, List.append_assoc, List.nil_append]
      exact readRecord_of_readMembers blank found filled closes

end Records

end ProtocolHeaders.Json
