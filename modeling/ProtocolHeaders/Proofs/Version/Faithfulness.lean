import ProtocolHeaders.Proofs.Version.Tags

/-!
# The order of versions and the numbers of their tags

Versions are compared by three numbers. The major and the minor one are those that stand in the
tag, whatever stands before and behind them. The patch counts with its number only if that can
be read: a patch in foreign digits or of more than 32 bits is not refused as the other two are
but taken for zero. So versions are ordered as the numbers of their tags are among the tags whose
patch is kept, and no other tag can be added to these.
-/

namespace ProtocolHeaders.Version

namespace Components

/-- The number written as a patch. None is written for zero. -/
def writtenPatch (components : Components) : Nat :=
  (components.patch?.map Text.number).getD 0

/-- The numbers that are written in a tag. -/
def written (components : Components) : List Nat :=
  [Text.number components.major, Text.number components.minor, components.writtenPatch]

/-- The numbers that a version is compared by. -/
def counted (components : Components) : List Nat :=
  [Text.number components.major, Text.number components.minor, patchNumber components.patch?]

/-- The patch counts with the number that is written for it: it can be read or is zero anyway. -/
def KeepsPatch (components : Components) : Prop :=
  ∀ digits ∈ components.patch?, IsReadable digits ∨ Text.number digits = 0

instance (components : Components) : Decidable components.KeepsPatch :=
  inferInstanceAs (Decidable (∀ digits ∈ components.patch?, _))

/-- The components of the tag that ends in front of the patch. -/
def withoutPatch (components : Components) : Components :=
  { components with patch? := none }

end Components

section

variable {tag : String} {version : Version} {components others : Components}

/-- A patch counts with its number or as if there were none. -/
theorem patchNumber_cases (components : Components) :
    patchNumber components.patch? = components.writtenPatch ∨
      patchNumber components.patch? = 0 := by
  obtain ⟨major, minor, _ | digits⟩ := components
  · exact .inr rfl
  · rw [patchNumber]
    split
    · exact .inl rfl
    · exact .inr rfl

/-- A patch is kept if it counts as it is written. -/
theorem keepsPatch_iff :
    components.KeepsPatch ↔ patchNumber components.patch? = components.writtenPatch := by
  obtain ⟨major, minor, _ | digits⟩ := components
  · exact ⟨fun _ => rfl, fun _ => nofun⟩
  · simp only [Components.KeepsPatch, Components.writtenPatch, patchNumber, Option.mem_def,
      Option.some.injEq, forall_eq', Option.map_some, Option.getD_some]
    by_cases isReadable : IsReadable digits
    · simp [isReadable]
    · simp [isReadable, eq_comm]

/-- A version counts as it is written if its patch is kept. -/
theorem counted_eq_written (keeps : components.KeepsPatch) :
    components.counted = components.written := by
  rw [Components.counted, Components.written, keepsPatch_iff.mp keeps]

/-- Without a patch zero counts. -/
theorem counted_withoutPatch : components.withoutPatch.counted =
    [Text.number components.major, Text.number components.minor, 0] :=
  rfl

/-- Without a patch zero is meant. -/
theorem written_withoutPatch : components.withoutPatch.written =
    [Text.number components.major, Text.number components.minor, 0] :=
  rfl

/-- Versions are compared by the numbers that count, and the first difference decides. -/
theorem compare_toVersion (tag otherTag : String) :
    (components.toVersion tag).compare (others.toVersion otherTag) =
      Ord.compare components.counted others.counted := by
  simp only [Components.counted, List.compare_eq_compareLex, List.compareLex_cons_cons,
    List.compareLex_nil_nil, Ordering.then_eq]
  rfl

/-- Versions compare by the numbers that count. -/
theorem compare_of_writes {otherTag : String} {otherVersion : Version}
    (parsed : parse tag = .ok version) (writes : Writes components tag.toList)
    (otherParsed : parse otherTag = .ok otherVersion)
    (otherWrites : Writes others otherTag.toList) :
    version.compare otherVersion = Ord.compare components.counted others.counted := by
  obtain ⟨components, writes', -, -, rfl⟩ := parse_eq_ok_iff.mp parsed
  obtain ⟨others, otherWrites', -, -, rfl⟩ := parse_eq_ok_iff.mp otherParsed
  rw [writes.unique writes', otherWrites.unique otherWrites', compare_toVersion]

/-- A tag may leave its patch out. -/
theorem Writes.withoutPatch {text : List Char} (writes : Writes components text) :
    Writes components.withoutPatch (components.major ++ '.' :: components.minor) := by
  obtain ⟨-, -, isMajor, isMinor, -, -⟩ := writes
  have bare : Writes components.withoutPatch
      ([] ++ [] ++ components.major ++ '.' :: components.minor ++ patchText none ++ []) :=
    .tag nofun (.inl rfl) isMajor isMinor nofun .absent
  simpa only [patchText, List.nil_append, List.append_nil] using bare

/-- The tag of a version still has a version if it ends in front of the patch. -/
theorem exists_writes_withoutPatch (parsed : parse tag = .ok version)
    (writes : Writes components tag.toList) :
    ∃ shorter version, parse shorter = .ok version ∧
      Writes components.withoutPatch shorter.toList := by
  obtain ⟨components, writes', major, minor, -⟩ := parse_eq_ok_iff.mp parsed
  rw [writes.unique writes']
  have shorterWrites := writes'.withoutPatch
  rw [← String.toList_ofList (l := components.major ++ '.' :: components.minor)] at shorterWrites
  exact ⟨_, _, parse_eq_ok_iff.mpr ⟨_, shorterWrites, major, minor, rfl⟩, shorterWrites⟩

/-- A patch that is lost counts as if it were left out, but then another number is written. -/
theorem keepsPatch_of_compare_withoutPatch
    (faithful : Ord.compare components.counted components.withoutPatch.counted =
      Ord.compare components.written components.withoutPatch.written) :
    components.KeepsPatch := by
  have decided : Ord.compare (patchNumber components.patch?) 0 =
      Ord.compare components.writtenPatch 0 := by
    rw [counted_withoutPatch, written_withoutPatch] at faithful
    simpa only [Components.counted, Components.written, List.compare_eq_compareLex,
      List.compareLex_cons_cons, List.compareLex_nil_nil, Ordering.then_eq, Std.compare_self,
      Ordering.eq_then] using faithful
  rw [keepsPatch_iff]
  rcases patchNumber_cases components with kept | lost
  · exact kept
  · rw [lost, Std.compare_self] at decided
    rw [lost, Nat.compare_eq_eq.mp decided.symm]

end

/-- A version is compared by the numbers of its tag, of which only the patch may count for less
than it is written for. Among the tags that keep their patch the comparison is the lexicographic
one of the written numbers, and a tag is compared so with all of these only if it is one of
them. -/
theorem compare_eq_compare_written_iff {tag : String} {version : Version}
    (parsed : parse tag = .ok version) :
    ∃ components, Writes components tag.toList ∧
      (∀ {otherTag otherVersion others}, parse otherTag = .ok otherVersion →
        Writes others otherTag.toList →
          version.compare otherVersion = Ord.compare components.counted others.counted) ∧
      ((∀ {otherTag otherVersion others}, parse otherTag = .ok otherVersion →
        Writes others otherTag.toList → others.KeepsPatch →
          version.compare otherVersion = Ord.compare components.written others.written) ↔
        components.KeepsPatch) := by
  obtain ⟨components, writes, -, -, -⟩ := parse_eq_ok_iff.mp parsed
  refine ⟨components, writes, compare_of_writes parsed writes, fun faithful => ?_,
    fun keeps _ _ _ otherParsed otherWrites otherKeeps => ?_⟩
  · obtain ⟨shorter, shorterVersion, shorterParsed, shorterWrites⟩ :=
      exists_writes_withoutPatch parsed writes
    apply keepsPatch_of_compare_withoutPatch
    rw [← compare_of_writes parsed writes shorterParsed shorterWrites,
      faithful shorterParsed shorterWrites nofun]
  · rw [compare_of_writes parsed writes otherParsed otherWrites, counted_eq_written keeps,
      counted_eq_written otherKeeps]

/-- What stands around the numbers of a tag has no part in the order. -/
theorem proposed_version_is_faithful :
    ∃ version, parse "v3.18 - proposed" = .ok version ∧
      ∀ {otherTag otherVersion others}, parse otherTag = .ok otherVersion →
        Writes others otherTag.toList → others.KeepsPatch →
          version.compare otherVersion = Ord.compare [3, 18, 0] others.written := by
  have parsed : parse "v3.18 - proposed" = .ok ⟨"v3.18 - proposed", 3, 18, 0⟩ := rfl
  obtain ⟨components, writes, -, faithful⟩ := compare_eq_compare_written_iff parsed
  have same : components = ⟨['3'], ['1', '8'], none⟩ :=
    writes.unique (components?_eq_some_iff.mp (by decide))
  subst same
  exact ⟨_, parsed, faithful.mpr (by decide)⟩

/-- A patch of more than 32 bits makes a version older than the first patch. -/
theorem large_patch_is_before_first_patch :
    ∃ left right leftVersion rightVersion leftComponents rightComponents,
      parse left = .ok leftVersion ∧ Writes leftComponents left.toList ∧
      parse right = .ok rightVersion ∧ Writes rightComponents right.toList ∧
      leftVersion.compare rightVersion = .lt ∧
      Ord.compare leftComponents.written rightComponents.written = .gt := by
  have large : Writes ⟨['1'], ['0'], some "4294967296".toList⟩ "1.0.4294967296".toList :=
    components?_eq_some_iff.mp (by decide)
  have small : Writes ⟨['1'], ['0'], some ['1']⟩ "1.0.1".toList :=
    components?_eq_some_iff.mp (by decide)
  exact ⟨"1.0.4294967296", "1.0.1", ⟨"1.0.4294967296", 1, 0, 0⟩, ⟨"1.0.1", 1, 0, 1⟩, _, _, rfl,
    large, rfl, small, by decide, by decide⟩

end ProtocolHeaders.Version
