import Mathlib.Data.List.Nodup
import Mathlib.Data.List.TakeWhile
import ProtocolHeaders.Proofs.Json.Reading

/-!
# Written data is read back

Data that fits a shape is written as a text that is read as the same data, in every layout
that adds nothing but spaces, as long as the text is not nested too deeply. A field that a
text leaves out is filled in by its default, so the default has to be what was left out.
-/

namespace ProtocolHeaders.Json

variable {RecordName : Type}

/-! ## Data that fits a shape -/

/-- Data fits a shape if it holds what the shape asks for. Counts are not among the shapes:
where a number ends is up to what stands behind it. -/
inductive Fits (format : Format RecordName) : Shape RecordName -> Data -> Prop where
  | text (value : String) : Fits format .text (.text value)
  | optionalText (value : String) : Fits format .optionalText (.text value)
  | absent : Fits format .optionalText .absent
  | flag (value : Bool) : Fits format .flag (.flag value)
  | choice {variants name} (isVariant : name ∈ variants) :
      Fits format (.choice variants) (.text name)
  | list {item items} (fit : ∀ data ∈ items, Fits format item data) :
      Fits format (.list item) (.list items)
  | record {name data} (sameLength : (format name).fields.length = data.length)
      (fit : ∀ entry ∈ (format name).fields.zip data, Fits format entry.1.shape entry.2) :
      Fits format (.record name) (.record data)

/-- The only vacant value of a shape. -/
def Shape.vacant? : Shape RecordName -> Option Data
  | .optionalText => some .absent
  | .list _ => some .none
  | _ => none

/-- Texts of a format lose nothing: the fields of a record have keys of their own, and the
default of a field that may be left out is what is left out. -/
structure Format.IsLossless (format : Format RecordName) : Prop where
  distinct : ∀ name, ((format name).fields.map Field.key).Nodup
  restores : ∀ name, ∀ field ∈ (format name).fields, field.omitsVacant = true ->
    field.default? = field.shape.vacant?

variable {format : Format RecordName}

/-- Vacant data is what its shape has for a missing member. -/
theorem vacant?_of_fits {shape : Shape RecordName} {data : Data} (fits : Fits format shape data)
    (vacant : data.isVacant = true) : shape.vacant? = some data := by
  cases fits with
  | absent => rfl
  | @list item items fit =>
      cases items with
      | nil => rfl
      | cons first others => cases vacant
  | text | optionalText | flag | choice | record => cases vacant

/-! ## What is written -/

/-- The fields that a text has, with their data. -/
def writtenEntries (fields : List (Field RecordName)) (data : List Data) :
    List (Field RecordName × Data) :=
  (fields.zip data).filter fun entry => !(entry.1.omitsVacant && entry.2.isVacant)

/-- Only fields with their data are written. -/
theorem mem_of_mem_writtenEntries {fields : List (Field RecordName)} {data : List Data}
    {entry : Field RecordName × Data} (written : entry ∈ writtenEntries fields data) :
    entry ∈ fields.zip data :=
  (List.mem_filter.mp written).1

/-- A field is written unless it is vacant and may be omitted. -/
theorem writtenEntries_cons (field : Field RecordName) (fields : List (Field RecordName))
    (data : Data) (others : List Data) :
    writtenEntries (field :: fields) (data :: others) =
      if !(field.omitsVacant && data.isVacant) then (field, data) :: writtenEntries fields others
      else writtenEntries fields others :=
  List.filter_cons

/-- The members of a list are written one by one. -/
theorem writeItems_eq_map (format : Format RecordName) (layout : Layout) (depth : Nat)
    (item : Shape RecordName) (items : List Data) :
    writeItems format layout depth item items = items.map (write format layout depth item) := by
  induction items with
  | nil => rfl
  | cons data others inductionHypothesis =>
      rw [writeItems, inductionHypothesis, List.map_cons]

/-- The members of a record are written field by field. -/
theorem writeMembers_eq_map (format : Format RecordName) (layout : Layout) (depth : Nat)
    (fields : List (Field RecordName)) (data : List Data) :
    writeMembers format layout depth fields data =
      (writtenEntries fields data).map fun entry =>
        layout.member entry.1.key (write format layout depth entry.1.shape entry.2) := by
  induction fields generalizing data with
  | nil => simp [writeMembers, writtenEntries]
  | cons field fields inductionHypothesis =>
      cases data with
      | nil => simp [writeMembers, writtenEntries]
      | cons data others =>
          rw [writeMembers, inductionHypothesis, writtenEntries_cons]
          cases field.omitsVacant && data.isVacant <;> rfl

/-- A list is written between brackets. -/
theorem write_list (format : Format RecordName) (layout : Layout) (depth : Nat)
    (item : Shape RecordName) (items : List Data) :
    write format layout depth (.list item) (.list items) =
      layout.enclose depth '[' ']' (items.map (write format layout (depth + 1) item)) := by
  rw [write, writeItems_eq_map]

/-- A record is written between braces. -/
theorem write_record (format : Format RecordName) (layout : Layout) (depth : Nat)
    (name : RecordName) (data : List Data) :
    write format layout depth (.record name) (.record data) =
      layout.enclose depth '\x7b' '\x7d'
        ((writtenEntries (format name).fields data).map fun entry =>
          layout.member entry.1.key (write format layout (depth + 1) entry.1.shape entry.2)) := by
  rw [write, writeMembers_eq_map]

/-- A written value begins with a character that matters. -/
theorem begins_write (layout : Layout) (depth : Nat) {shape : Shape RecordName} {data : Data}
    (fits : Fits format shape data) : Begins (write format layout depth shape data) := by
  cases fits with
  | text | optionalText | choice => exact ⟨'"', _, rfl, rfl, by decide⟩
  | absent => exact ⟨'n', _, rfl, rfl, by decide⟩
  | flag value =>
      cases value with
      | true => exact ⟨'t', _, rfl, rfl, by decide⟩
      | false => exact ⟨'f', _, rfl, rfl, by decide⟩
  | @list item items =>
      rw [write_list]
      obtain ⟨rest, enclosed⟩ := Layout.exists_enclose_eq_cons layout depth '[' ']'
        (items.map (write format layout (depth + 1) item))
      exact ⟨'[', rest, enclosed, rfl, by decide⟩
  | @record name data =>
      rw [write_record]
      obtain ⟨rest, enclosed⟩ := Layout.exists_enclose_eq_cons layout depth '\x7b' '\x7d' _
      exact ⟨'\x7b', rest, enclosed, rfl, by decide⟩

/-- A written value closes what it opens. -/
theorem isBalanced_write {layout : Layout} (spacing : layout.IsSpacing)
    {shape : Shape RecordName} {data : Data} (fits : Fits format shape data) (depth : Nat) :
    IsBalanced (write format layout depth shape data) := by
  induction fits generalizing depth with
  | text value | optionalText value => exact (isBalanced_writeString value).1
  | @choice _ name => exact (isBalanced_writeString name).1
  | absent => exact (@isBalanced_of_all_plain "null".toList (by decide)).1
  | flag value =>
      cases value with
      | true => exact (@isBalanced_of_all_plain "true".toList (by decide)).1
      | false => exact (@isBalanced_of_all_plain "false".toList (by decide)).1
  | list fit inductionHypothesis =>
      rw [write_list]
      refine (Layout.isBalanced_enclose spacing depth (.inl rfl) (.inl rfl) ?_).1
      exact List.forall_mem_map.mpr fun data member => inductionHypothesis data member (depth + 1)
  | record sameLength fit inductionHypothesis =>
      rw [write_record]
      refine (Layout.isBalanced_enclose spacing depth (.inr rfl) (.inr rfl) ?_).1
      refine List.forall_mem_map.mpr fun entry written => ?_
      have value := inductionHypothesis entry (mem_of_mem_writtenEntries written) (depth + 1)
      exact (Layout.isBalanced_member spacing entry.1.key value).1

/-- A list nests one step deeper than its deepest member. -/
theorem nesting_write_list {layout : Layout} (spacing : layout.IsSpacing)
    {item : Shape RecordName} {items : List Data} (fit : ∀ data ∈ items, Fits format item data)
    (depth : Nat) :
    nesting (write format layout depth (.list item) (.list items)) =
      Layout.deepest (items.map (write format layout (depth + 1) item)) + 1 := by
  rw [write_list]
  refine (Layout.isBalanced_enclose spacing depth (.inl rfl) (.inl rfl) ?_).2
  exact List.forall_mem_map.mpr fun data member =>
    isBalanced_write spacing (fit data member) (depth + 1)

/-- A record nests one step deeper than its deepest member. -/
theorem nesting_write_record {layout : Layout} (spacing : layout.IsSpacing) {name : RecordName}
    {data : List Data}
    (fit : ∀ entry ∈ (format name).fields.zip data, Fits format entry.1.shape entry.2)
    (depth : Nat) :
    nesting (write format layout depth (.record name) (.record data)) =
      Layout.deepest ((writtenEntries (format name).fields data).map fun entry =>
        write format layout (depth + 1) entry.1.shape entry.2) + 1 := by
  have balanced : ∀ entry ∈ writtenEntries (format name).fields data,
      IsBalanced (write format layout (depth + 1) entry.1.shape entry.2) :=
    fun entry written =>
      isBalanced_write spacing (fit entry (mem_of_mem_writtenEntries written)) (depth + 1)
  rw [write_record, (Layout.isBalanced_enclose spacing depth (.inr rfl) (.inr rfl) _).2]
  · refine congrArg (· + 1) (Layout.deepest_map_congr fun entry written => ?_)
    exact (Layout.isBalanced_member spacing entry.1.key (balanced entry written)).2
  · refine List.forall_mem_map.mpr fun entry written => ?_
    exact (Layout.isBalanced_member spacing entry.1.key (balanced entry written)).1

/-- The nesting of a written value does not depend on the layout. -/
theorem nesting_write_eq {layout layout' : Layout} (spacing : layout.IsSpacing)
    (spacing' : layout'.IsSpacing) {shape : Shape RecordName} {data : Data}
    (fits : Fits format shape data) (depth depth' : Nat) :
    nesting (write format layout depth shape data) =
      nesting (write format layout' depth' shape data) := by
  induction fits generalizing depth depth' with
  | text | optionalText | choice | absent | flag => rfl
  | list fit inductionHypothesis =>
      rw [nesting_write_list spacing fit, nesting_write_list spacing' fit]
      refine congrArg (· + 1) (Layout.deepest_map_congr fun data member => ?_)
      exact inductionHypothesis data member (depth + 1) (depth' + 1)
  | record sameLength fit inductionHypothesis =>
      rw [nesting_write_record spacing fit, nesting_write_record spacing' fit]
      refine congrArg (· + 1) (Layout.deepest_map_congr fun entry written => ?_)
      exact inductionHypothesis entry (mem_of_mem_writtenEntries written) (depth + 1) (depth' + 1)

/-! ## Fields that are filled in -/

/-- Fields are filled from the members, or by default if their member is missing. -/
theorem fillFields_eq_ok {members : List (String × Data)} {fields : List (Field RecordName)}
    {data : List Data} (sameLength : fields.length = data.length)
    (filled : ∀ entry ∈ fields.zip data, members.lookup entry.1.key = some entry.2 ∨
      members.lookup entry.1.key = none ∧ entry.1.default? = some entry.2) :
    fillFields members fields = .ok data := by
  induction fields generalizing data with
  | nil =>
      obtain rfl := List.length_eq_zero_iff.mp sameLength.symm
      rfl
  | cons field fields inductionHypothesis =>
      cases data with
      | nil => cases sameLength
      | cons value others =>
          obtain ⟨first, tail⟩ := List.forall_mem_cons.mp filled
          have rest := inductionHypothesis (Nat.succ.inj sameLength) tail
          rcases first with found | ⟨missing, default⟩
          · rw [fillFields, found]
            simp only [rest, ok_bind]
            rfl
          · rw [fillFields, missing, default]
            simp only [rest, ok_bind]
            rfl

/-- With distinct keys a member is found under its key. -/
theorem lookup_eq_some_of_mem {members : List (String × Data)} {key : String} {data : Data}
    (distinct : (members.map Prod.fst).Nodup) (member : (key, data) ∈ members) :
    members.lookup key = some data := by
  induction members with
  | nil => cases member
  | cons first others inductionHypothesis =>
      obtain ⟨notAmong, othersDistinct⟩ := List.nodup_cons.mp distinct
      rcases List.mem_cons.mp member with rfl | isOther
      · exact List.lookup_cons_self
      · have differs : key ≠ first.1 := fun same =>
          notAmong (same ▸ List.mem_map_of_mem isOther)
        rw [List.lookup_cons, beq_false_of_ne differs]
        exact inductionHypothesis othersDistinct isOther

/-- With distinct keys a field is found by its key. -/
theorem find?_eq_some_of_mem {fields : List (Field RecordName)} {field : Field RecordName}
    (distinct : (fields.map Field.key).Nodup) (member : field ∈ fields) :
    fields.find? (·.key == field.key) = some field := by
  induction fields with
  | nil => cases member
  | cons first others inductionHypothesis =>
      obtain ⟨notAmong, othersDistinct⟩ := List.nodup_cons.mp distinct
      rcases List.mem_cons.mp member with rfl | isOther
      · exact List.find?_cons_of_pos (beq_self_eq_true _)
      · have differs : first.key ≠ field.key := fun same =>
          notAmong (same ▸ List.mem_map_of_mem isOther)
        rw [List.find?_cons_of_neg (by simpa using differs)]
        exact inductionHypothesis othersDistinct isOther

section Entries

variable {fields : List (Field RecordName)} {data : List Data}

/-- Fields keep distinct keys when they are paired with data. -/
theorem nodup_map_key_zip (sameLength : fields.length = data.length)
    (distinct : (fields.map Field.key).Nodup) :
    ((fields.zip data).map fun entry => entry.1.key).Nodup := by
  have keys : (fields.zip data).map (fun entry => entry.1.key) = fields.map Field.key :=
    calc (fields.zip data).map (fun entry => entry.1.key)
        = ((fields.zip data).map Prod.fst).map Field.key := List.map_map.symm
      _ = fields.map Field.key := by rw [List.map_fst_zip (Nat.le_of_eq sameLength)]
  rwa [keys]

/-- The fields that are written have distinct keys. -/
theorem nodup_map_key_writtenEntries (sameLength : fields.length = data.length)
    (distinct : (fields.map Field.key).Nodup) :
    ((writtenEntries fields data).map fun entry => entry.1.key).Nodup :=
  (nodup_map_key_zip sameLength distinct).sublist (List.filter_sublist.map _)

/-- The members of a written record fill its fields again. -/
theorem fillFields_writtenEntries (sameLength : fields.length = data.length)
    (distinct : (fields.map Field.key).Nodup)
    (restores : ∀ field ∈ fields, field.omitsVacant = true ->
      field.default? = field.shape.vacant?)
    (fit : ∀ entry ∈ fields.zip data, Fits format entry.1.shape entry.2) :
    fillFields ((writtenEntries fields data).map fun entry => (entry.1.key, entry.2)).reverse
      fields = .ok data := by
  refine fillFields_eq_ok sameLength fun entry isEntry => ?_
  by_cases omitted : (entry.1.omitsVacant && entry.2.isVacant) = true
  · right
    obtain ⟨omits, vacant⟩ := Bool.and_eq_true_iff.mp omitted
    constructor
    · refine List.lookup_eq_none_iff.mpr fun member isMember => ?_
      obtain ⟨other, written, rfl⟩ := List.mem_map.mp (List.mem_reverse.mp isMember)
      refine bne_iff_ne.mpr fun sameKey => ?_
      obtain rfl := List.inj_on_of_nodup_map (nodup_map_key_zip sameLength distinct) isEntry
        (mem_of_mem_writtenEntries written) sameKey
      have kept := (List.mem_filter.mp written).2
      rw [omitted] at kept
      cases kept
    · rw [restores entry.1 (List.of_mem_zip isEntry).1 omits]
      exact vacant?_of_fits (fit entry isEntry) vacant
  · left
    apply lookup_eq_some_of_mem
    · rw [List.map_reverse, List.nodup_reverse, List.map_map]
      exact nodup_map_key_writtenEntries sameLength distinct
    · have written : entry ∈ writtenEntries fields data :=
        List.mem_filter.mpr ⟨isEntry, by rw [Bool.eq_false_iff.mpr omitted]; rfl⟩
      exact List.mem_reverse.mpr (List.mem_map.mpr ⟨entry, written, rfl⟩)

end Entries

/-! ## Reading what is written -/

/-- Data that fits a shape is read from its text, wherever the text stands, if the text is
shorter than the bound and not nested more deeply than the limit. -/
theorem reads_write {layout : Layout} (lossless : format.IsLossless) (spacing : layout.IsSpacing)
    {shape : Shape RecordName} {data : Data} (fits : Fits format shape data) {bound : Nat}
    (limit depth : Nat) (nested : nesting (write format layout depth shape data) ≤ limit)
    (short : (write format layout depth shape data).length < bound) :
    Reads (readValue format bound limit shape) (write format layout depth shape data) data := by
  induction fits generalizing limit depth with
  | text value => cases limit <;> exact reads_readText value
  | optionalText value => cases limit <;> exact reads_readOptionalText value
  | absent => cases limit <;> exact reads_readOptionalText_null
  | flag value => cases limit <;> exact reads_readFlag value
  | choice isVariant => cases limit <;> exact reads_readChoice _ isVariant
  | @list item items fit inductionHypothesis =>
      rw [nesting_write_list spacing fit] at nested
      rw [write_list] at short ⊢
      obtain _ | limit := limit
      · cases nested
      · have begin : ∀ data ∈ items, Begins (write format layout (depth + 1) item data) :=
          fun data member => begins_write layout (depth + 1) (fit data member)
        have nonempty : ∀ member ∈ items.map (write format layout (depth + 1) item),
            member ≠ [] := List.forall_mem_map.mpr fun data member => (begin data member).ne_nil
        have enough := Nat.lt_trans (Layout.count_lt_length_enclose nonempty) short
        rw [List.length_map] at enough
        refine reads_readList spacing depth begin (fun data member => ?_) enough
        have isMember : write format layout (depth + 1) item data ∈
            items.map (write format layout (depth + 1) item) := List.mem_map_of_mem member
        refine inductionHypothesis data member limit (depth + 1) ?_ ?_
        · exact Nat.le_trans (Layout.nesting_le_deepest isMember) (Nat.le_of_succ_le_succ nested)
        · exact Nat.lt_trans (Layout.length_lt_length_enclose isMember) short
  | @record name data sameLength fit inductionHypothesis =>
      rw [nesting_write_record spacing fit] at nested
      rw [write_record] at short ⊢
      have distinct := lossless.distinct name
      obtain _ | limit := limit
      · cases nested
      · have nonempty : ∀ member ∈ (writtenEntries (format name).fields data).map fun entry =>
            layout.member entry.1.key (write format layout (depth + 1) entry.1.shape entry.2),
            member ≠ [] := by
          refine List.forall_mem_map.mpr fun entry _ => ?_
          exact Layout.member_ne_nil layout entry.1.key _
        have enough := Nat.lt_trans (Layout.count_lt_length_enclose nonempty) short
        rw [List.length_map] at enough
        refine reads_readRecord spacing depth (format name) (fun entry written => ?_)
          (fun entry written => ?_) (nodup_map_key_writtenEntries sameLength distinct)
          (fillFields_writtenEntries sameLength distinct (lossless.restores name) fit) enough
        · have isField := (List.of_mem_zip (mem_of_mem_writtenEntries written)).1
          exact find?_eq_some_of_mem distinct isField
        · have isValue : write format layout (depth + 1) entry.1.shape entry.2 ∈
              (writtenEntries (format name).fields data).map fun entry =>
                write format layout (depth + 1) entry.1.shape entry.2 :=
            List.mem_map.mpr ⟨entry, written, rfl⟩
          have isMember : layout.member entry.1.key
                (write format layout (depth + 1) entry.1.shape entry.2) ∈
              (writtenEntries (format name).fields data).map fun entry =>
                layout.member entry.1.key (write format layout (depth + 1) entry.1.shape entry.2) :=
            List.mem_map.mpr ⟨entry, written, rfl⟩
          refine inductionHypothesis entry (mem_of_mem_writtenEntries written) limit (depth + 1)
            ?_ ?_
          · exact Nat.le_trans (Layout.nesting_le_deepest isValue) (Nat.le_of_succ_le_succ nested)
          · refine Nat.lt_of_le_of_lt (Layout.length_le_length_member layout entry.1.key _) ?_
            exact Nat.lt_trans (Layout.length_lt_length_enclose isMember) short

/-- Data that fits a shape is read from its text, also if spaces follow. -/
theorem read_write {layout : Layout} (lossless : format.IsLossless) (spacing : layout.IsSpacing)
    {shape : Shape RecordName} {data : Data} (fits : Fits format shape data)
    (nested : nesting (write format layout 0 shape data) ≤ nestingLimit) {spaces : List Char}
    (blank : IsBlank spaces) :
    read format shape (write format layout 0 shape data ++ spaces) = .ok data := by
  have short : (write format layout 0 shape data).length <
      stepsFor (write format layout 0 shape data ++ spaces) := by
    rw [stepsFor, List.length_append]
    omega
  have reads : readValue format (stepsFor (write format layout 0 shape data ++ spaces))
      nestingLimit shape (write format layout 0 shape data ++ spaces) = .ok (data, spaces) :=
    reads_write lossless spacing fits nestingLimit 0 nested short [] spaces isBlank_nil
  have nothingLeft : skipSpace spaces = [] := List.dropWhile_eq_nil_iff.mpr blank
  rw [read, reads, ok_bind]
  simp only [nothingLeft, List.isEmpty_nil, ↓reduceIte]
  rfl

end ProtocolHeaders.Json
