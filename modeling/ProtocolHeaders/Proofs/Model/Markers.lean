import ProtocolHeaders.Model.Entity

/-!
# Markers that stripping leaves

Stripping takes readonly markers off the front of a name and then all question marks out of
it. The second step may put a readonly marker together whose characters had question marks
between or before them, and this one is not taken off again. Such names are the only ones
whose stripped form carries a marker, and the only ones that a second stripping changes.
-/

namespace ProtocolHeaders.Marker

/-- Some number of readonly markers, one behind the other. -/
def readonlyMarkers (count : Nat) : List Char :=
  (List.replicate count readonly).flatten

/-- Behind the readonly markers at the front of a name stand characters that spell another one
as soon as the question marks among them are gone. -/
def HidesReadonly (name : List Char) : Prop :=
  ∃ count word rest, name = readonlyMarkers count ++ (word ++ ' ' :: rest) ∧ optional ∈ word ∧
    word.filter (· != optional) ++ [' '] = readonly

/-- A row of markers begins with one. -/
theorem readonlyMarkers_succ_append (count : Nat) (rest : List Char) :
    readonlyMarkers (count + 1) ++ rest = readonly ++ (readonlyMarkers count ++ rest) := by
  rw [readonlyMarkers, List.replicate_succ, List.flatten_cons, List.append_assoc]
  rfl

/-! ## The readonly markers at the front -/

/-- A marker at the front is dropped. -/
theorem dropReadonly_readonly_append (rest : List Char) :
    dropReadonly (readonly ++ rest) = dropReadonly rest := by
  rw [dropReadonly, if_pos (List.isPrefixOf_iff_prefix.mpr (List.prefix_append _ _)),
    List.drop_left]

/-- A name without a marker at its front stays as it is. -/
theorem dropReadonly_of_unmarked {name : List Char} (unmarked : ¬ readonly <+: name) :
    dropReadonly name = name := by
  rw [dropReadonly, if_neg (mt List.isPrefixOf_iff_prefix.mp unmarked)]

/-- All markers at the front are dropped. -/
theorem dropReadonly_readonlyMarkers_append (count : Nat) (rest : List Char) :
    dropReadonly (readonlyMarkers count ++ rest) = dropReadonly rest := by
  induction count with
  | zero => rfl
  | succ count inductionHypothesis =>
      rw [readonlyMarkers_succ_append, dropReadonly_readonly_append, inductionHypothesis]

/-- Exactly the readonly markers at the front are dropped, and all of them. -/
theorem exists_readonlyMarkers_append (name : List Char) :
    ∃ count, name = readonlyMarkers count ++ dropReadonly name ∧
      ¬ readonly <+: dropReadonly name := by
  by_cases marked : readonly <+: name
  · obtain ⟨rest, rfl⟩ := marked
    have shorter : rest.length < (readonly ++ rest).length := by
      simp [readonly]
      omega
    obtain ⟨count, whole, unmarked⟩ := exists_readonlyMarkers_append rest
    rw [dropReadonly_readonly_append]
    refine ⟨count + 1, ?_, unmarked⟩
    rw [readonlyMarkers_succ_append, ← whole]
  · rw [dropReadonly_of_unmarked marked]
    exact ⟨0, rfl, marked⟩
termination_by name.length

/-! ## The markers that appear -/

/-- Characters with a question mark that spell a marker do not begin with one: up to their end
they hold all its characters but the last, which is not among the others. -/
theorem not_readonly_prefix_of_spelled {word : List Char} (interrupted : optional ∈ word)
    (spelled : word.filter (· != optional) ++ [' '] = readonly) (rest : List Char) :
    ¬ readonly <+: word ++ rest := by
  intro marked
  have letters : word.filter (· != optional) = readonly.dropLast := by
    rw [← spelled, List.dropLast_concat]
  have longer : (word.filter (· != optional)).length < word.length :=
    List.length_filter_lt_length_iff_exists.mpr ⟨optional, interrupted, by simp⟩
  have fits : readonly.length ≤ word.length := by
    rw [letters] at longer
    exact longer
  have within : readonly <+: word :=
    List.prefix_of_prefix_length_le marked (List.prefix_append _ _) fits
  have blank : ' ' ∈ word.filter (· != optional) :=
    List.mem_filter.mpr ⟨within.subset (by decide), by decide⟩
  rw [letters] at blank
  exact absurd blank (by decide)

/-- A marker that appears when question marks go was spelled with question marks. -/
theorem readonly_prefix_filter_iff {name : List Char} (unmarked : ¬ readonly <+: name) :
    readonly <+: name.filter (· != optional) ↔
      ∃ word rest, name = word ++ ' ' :: rest ∧ optional ∈ word ∧
        word.filter (· != optional) ++ [' '] = readonly := by
  have parted : readonly = readonly.dropLast ++ [' '] := rfl
  constructor
  · rintro ⟨kept, appears⟩
    rw [parted, List.append_assoc, eq_comm, List.filter_eq_append_iff] at appears
    obtain ⟨letters, others, rfl, spelled, blank⟩ := appears
    obtain ⟨marks, rest, rfl, areMarks, -, -⟩ := List.filter_eq_cons_iff.mp blank
    have spelledWord : (letters ++ marks).filter (· != optional) = readonly.dropLast := by
      rw [List.filter_append, spelled, List.filter_eq_nil_iff.mpr areMarks, List.append_nil]
    refine ⟨letters ++ marks, rest, (List.append_assoc ..).symm, ?_, ?_⟩
    · by_cases interrupted : optional ∈ letters ++ marks
      · exact interrupted
      · -- Without a question mark the marker would already begin the name.
        have plain : (letters ++ marks).filter (· != optional) = letters ++ marks :=
          List.filter_eq_self.mpr fun c member =>
            bne_iff_ne.mpr fun isMark => interrupted (isMark ▸ member)
        refine absurd ⟨rest, ?_⟩ unmarked
        rw [parted, ← spelledWord, plain]
        simp only [List.append_assoc, List.cons_append, List.nil_append]
    · rw [spelledWord, ← parted]
  · rintro ⟨word, rest, rfl, -, spelled⟩
    refine ⟨rest.filter (· != optional), ?_⟩
    rw [← spelled, List.filter_append, List.filter_cons_of_pos (by decide), List.append_assoc]
    rfl

/-- A marker is left at the front exactly if a question mark hid it. -/
theorem readonly_prefix_stripChars_iff {name : List Char} :
    readonly <+: stripChars name ↔ HidesReadonly name := by
  obtain ⟨count, whole, unmarked⟩ := exists_readonlyMarkers_append name
  rw [stripChars, readonly_prefix_filter_iff unmarked]
  constructor
  · rintro ⟨word, rest, behind, interrupted, spelled⟩
    rw [behind] at whole
    exact ⟨count, word, rest, whole, interrupted, spelled⟩
  · rintro ⟨count, word, rest, rfl, interrupted, spelled⟩
    refine ⟨word, rest, ?_, interrupted, spelled⟩
    rw [dropReadonly_readonlyMarkers_append,
      dropReadonly_of_unmarked (not_readonly_prefix_of_spelled interrupted spelled _)]

/-! ## Stripped names -/

/-- Names are stripped character by character. -/
theorem toList_strip (name : String) : (strip name).toList = stripChars name.toList :=
  String.toList_ofList

/-- No question mark is left. -/
theorem optional_notMem_strip (name : String) : optional ∉ (strip name).toList := by
  rw [toList_strip]
  exact optional_notMem_stripChars name.toList

/-- A stripped name carries a marker exactly if its raw name hides one. -/
theorem isUnmarked_strip_iff {name : String} :
    IsUnmarked (strip name) ↔ ¬ HidesReadonly name.toList := by
  rw [IsUnmarked, toList_strip, readonly_prefix_stripChars_iff]
  exact and_iff_left (optional_notMem_stripChars name.toList)

/-- A second stripping takes off what the first one left at the front. -/
theorem strip_strip_eq_iff {name : String} :
    strip (strip name) = strip name ↔ IsUnmarked (strip name) := by
  constructor
  · intro settled
    refine ⟨fun marked => ?_, optional_notMem_strip name⟩
    obtain ⟨count, whole, unmarked⟩ := exists_readonlyMarkers_append (strip name).toList
    have kept : (strip (strip name)).toList = dropReadonly (strip name).toList := by
      rw [toList_strip, stripChars, List.filter_eq_self]
      intro c member
      refine bne_iff_ne.mpr fun isMark => optional_notMem_strip name ?_
      rw [whole, ← isMark]
      exact List.mem_append_right _ member
    rw [← kept, settled] at unmarked
    exact unmarked marked
  · exact strip_of_isUnmarked

/-- For every raw name, no question mark is left by stripping. No readonly marker is left at the
front, and a second stripping changes nothing, exactly if the name hides no readonly marker. So
it is for the names of fields and of structures in generated code. -/
theorem stripped_names_are_unmarked_iff (name : String) (property : Property)
    (interface : Interface) :
    (optional ∉ (strip name).toList ∧
      (¬ readonly <+: (strip name).toList ↔ ¬ HidesReadonly name.toList) ∧
      (strip (strip name) = strip name ↔ ¬ HidesReadonly name.toList)) ∧
    (IsUnmarked property.fieldName ↔ ¬ HidesReadonly property.name.toList) ∧
    (IsUnmarked interface.scopedName ↔ ¬ HidesReadonly interface.name.toList) := by
  refine ⟨⟨optional_notMem_strip name, ?_, ?_⟩, isUnmarked_strip_iff, isUnmarked_strip_iff⟩
  · rw [toList_strip, readonly_prefix_stripChars_iff]
  · rw [strip_strip_eq_iff, isUnmarked_strip_iff]

/-- A question mark in front of a readonly marker brings it into the name of a field and of a
structure. -/
theorem marker_behind_question_mark_is_left :
    readonly <+: (strip "?readonly kind").toList ∧
      strip (strip "?readonly kind") ≠ strip "?readonly kind" ∧
      ¬ IsUnmarked (Property.mk "?readonly kind" "" (.base "int")).fieldName ∧
      ¬ IsUnmarked ({ name := "?readonly kind" } : Interface).scopedName := by
  decide +kernel

end ProtocolHeaders.Marker
