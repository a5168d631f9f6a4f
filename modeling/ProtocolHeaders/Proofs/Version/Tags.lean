import Mathlib.Data.List.TakeWhile
import ProtocolHeaders.Proofs.Text.Numerals
import ProtocolHeaders.Version

/-!
# Tags of versions

A tag is read in two steps. The first one looks for the form alone: blanks, perhaps a letter,
two or three groups of decimal digits with dots between them, and perhaps a blank with a remark
behind it. The digits may be those of any script and a group may be as long as it likes. The
second step takes the numbers from the groups, which it only can for ASCII digits and up to 32
bits. It insists on the major and the minor number, and a patch that it cannot take counts as
zero. So exactly the tags that are not of the form are refused as malformed, and of the others
exactly those with a readable major and a readable minor number are versions.
-/

namespace ProtocolHeaders.Version

/-! ## The form of a tag -/

/-- One or more decimal digits. -/
structure IsNumeral (digits : List Char) : Prop where
  ne_nil : digits ≠ []
  digits : ∀ c ∈ digits, Text.isDecimalDigit c = true

/-- What may follow the numbers of a tag: nothing, or a blank and any text on the same line. -/
inductive IsRemark : List Char -> Prop where
  | absent : IsRemark []
  | setOff {blank : Char} {text : List Char} (isBlank : Text.isBlank blank = true)
      (oneLine : '\n' ∉ text) : IsRemark (blank :: text)

/-- What a tag writes for a patch. -/
def patchText : Option (List Char) -> List Char
  | none => []
  | some digits => '.' :: digits

/-- The components of a tag as they stand in it. -/
inductive Writes (components : Components) : List Char -> Prop where
  | tag {blanks letter remark : List Char}
      (blank : ∀ c ∈ blanks, Text.isBlank c = true)
      (isLetter : letter = [] ∨ letter = ['v'])
      (major : IsNumeral components.major)
      (minor : IsNumeral components.minor)
      (patch : ∀ digits ∈ components.patch?, IsNumeral digits)
      (isRemark : IsRemark remark) :
      Writes components
        (blanks ++ letter ++ components.major ++ '.' :: components.minor ++
          patchText components.patch? ++ remark)

section

variable {digits rest text : List Char}

/-- A remark is told by the blank that sets it off and by staying on one line. -/
theorem isAnnotation_iff : isAnnotation text = true ↔ IsRemark text := by
  constructor
  · intro annotation
    cases text with
    | nil => exact .absent
    | cons first others =>
        simp only [Bool.and_eq_true, List.all_eq_true, isAnnotation] at annotation
        refine .setOff annotation.1 fun member => ?_
        simpa using annotation.2 '\n' member
  · rintro (_ | ⟨isBlank, oneLine⟩)
    · rfl
    · simp only [Bool.true_and, List.all_eq_true, isAnnotation, isBlank]
      rintro c member
      simpa using fun same : c = '\n' => oneLine (same ▸ member)

/-- A text that goes on with no digit. -/
def EndsDigits (text : List Char) : Prop :=
  ∀ c ∈ text.head?, Text.isDecimalDigit c = false

/-- A remark ends the digits before it. -/
theorem IsRemark.endsDigits (isRemark : IsRemark text) : EndsDigits text := by
  rcases isRemark with _ | ⟨isBlank, -⟩
  · exact nofun
  · rintro c same
    obtain rfl := Option.some.inj same
    exact Text.isDecimalDigit_eq_false_of_isBlank isBlank

/-- A point ends the digits before it. -/
theorem endsDigits_dot (rest : List Char) : EndsDigits ('.' :: rest) := by
  rintro c same
  obtain rfl := Option.some.inj same
  decide

/-- A group of digits is cut off whole. -/
theorem takeWhile_numeral (isNumeral : IsNumeral digits) (ends : EndsDigits rest) :
    (digits ++ rest).takeWhile Text.isDecimalDigit = digits := by
  rw [List.takeWhile_append_of_pos isNumeral.digits]
  cases rest with
  | nil => simp
  | cons c others => simp [ends c rfl]

/-- Behind the digits of a number the rest is left. -/
theorem dropWhile_numeral (isNumeral : IsNumeral digits) (ends : EndsDigits rest) :
    (digits ++ rest).dropWhile Text.isDecimalDigit = rest := by
  rw [List.dropWhile_append_of_pos isNumeral.digits]
  cases rest with
  | nil => rfl
  | cons c others => simp [ends c rfl]

/-- What stands in front of something else than a digit may be a numeral. -/
theorem isNumeral_takeWhile (someDigit : text.takeWhile Text.isDecimalDigit ≠ []) :
    IsNumeral (text.takeWhile Text.isDecimalDigit) :=
  ⟨someDigit, fun _ member => List.mem_takeWhile_imp member⟩

/-- A patch is cut off with the dot in front of it. -/
theorem eq_of_splitPatch {patch? : Option (List Char)} (split : splitPatch text = (patch?, rest)) :
    text = patchText patch? ++ rest ∧ ∀ digits ∈ patch?, IsNumeral digits := by
  unfold splitPatch at split
  split at split
  · rename_i after
    dsimp only at split
    split at split
    · cases split
      exact ⟨rfl, nofun⟩
    · rename_i someDigit
      cases split
      refine ⟨?_, ?_⟩
      · rw [patchText, List.cons_append, List.takeWhile_append_dropWhile]
      · rintro digits same
        obtain rfl := Option.some.inj same
        exact isNumeral_takeWhile fun none => someDigit (by rw [none]; rfl)
  · cases split
    exact ⟨rfl, nofun⟩

/-- There is no patch where a remark begins. -/
theorem splitPatch_of_isRemark (isRemark : IsRemark rest) : splitPatch rest = (none, rest) := by
  rcases isRemark with _ | ⟨isBlank, -⟩
  · rfl
  · unfold splitPatch
    split
    · rename_i same
      obtain ⟨rfl, -⟩ := List.cons.inj same
      exact absurd isBlank (by decide)
    · rfl

/-- What is written for a patch is split from the remark behind it. -/
theorem splitPatch_patchText {patch? : Option (List Char)}
    (patch : ∀ digits ∈ patch?, IsNumeral digits) (isRemark : IsRemark rest) :
    splitPatch (patchText patch? ++ rest) = (patch?, rest) := by
  cases patch? with
  | none => exact splitPatch_of_isRemark isRemark
  | some digits =>
      have isNumeral := patch digits rfl
      rw [patchText, List.cons_append, splitPatch, takeWhile_numeral isNumeral isRemark.endsDigits,
        dropWhile_numeral isNumeral isRemark.endsDigits]
      simp [isNumeral.ne_nil]

/-- The letter in front of a version is dropped and nothing else. -/
theorem exists_letter (text : List Char) :
    ∃ letter, (letter = [] ∨ letter = ['v']) ∧ text = letter ++ dropLetter text := by
  unfold dropLetter
  split
  · exact ⟨['v'], .inr rfl, rfl⟩
  · exact ⟨[], .inl rfl, rfl⟩

/-- What begins with the digits of a version, or with the letter in front of them. -/
theorem trimStart_and_dropLetter {blanks letter : List Char}
    (blank : ∀ c ∈ blanks, Text.isBlank c = true) (isLetter : letter = [] ∨ letter = ['v'])
    (isNumeral : IsNumeral digits) :
    dropLetter (Text.trimStart (blanks ++ (letter ++ (digits ++ rest)))) = digits ++ rest := by
  obtain ⟨first, others, rfl⟩ := List.exists_cons_of_ne_nil isNumeral.ne_nil
  have isDigit := isNumeral.digits first List.mem_cons_self
  have notBlank : Text.isBlank first = false := by
    rw [Bool.eq_false_iff]
    intro isBlank
    rw [Text.isDecimalDigit_eq_false_of_isBlank isBlank] at isDigit
    cases isDigit
  have notLetter : first ≠ 'v' := by
    rintro rfl
    exact absurd isDigit (by decide)
  rw [Text.trimStart, List.dropWhile_append_of_pos blank]
  rcases isLetter with rfl | rfl
  · rw [List.nil_append, List.cons_append, List.dropWhile_cons_of_neg (by simp [notBlank])]
    unfold dropLetter
    split
    · rename_i same
      exact absurd (List.cons.inj same).1 notLetter
    · rfl
  · rw [List.cons_append, List.dropWhile_cons_of_neg (by decide)]
    rfl

end

section

variable {tag : List Char} {components : Components}

/-- Components are found where they are written. -/
theorem components?_of_writes (writes : Writes components tag) :
    components? tag = some components := by
  obtain ⟨blank, isLetter, major, minor, patch, isRemark⟩ := writes
  rename_i blanks letter remark
  have patchEnds : EndsDigits (patchText components.patch? ++ remark) := by
    cases components.patch? with
    | none => exact isRemark.endsDigits
    | some digits => exact endsDigits_dot _
  simp only [List.append_assoc, List.cons_append, components?,
    trimStart_and_dropLetter blank isLetter major, takeWhile_numeral major (endsDigits_dot _),
    dropWhile_numeral major (endsDigits_dot _), takeWhile_numeral minor patchEnds,
    dropWhile_numeral minor patchEnds, splitPatch_patchText patch isRemark,
    isAnnotation_iff.mpr isRemark]
  simp [major.ne_nil, minor.ne_nil]

/-- What components are found in writes them. -/
theorem writes_of_components? (found : components? tag = some components) :
    Writes components tag := by
  obtain ⟨letter, isLetter, behindBlanks⟩ := exists_letter (Text.trimStart tag)
  have whole : tag = tag.takeWhile Text.isBlank ++ Text.trimStart tag :=
    List.takeWhile_append_dropWhile.symm
  have blank : ∀ c ∈ tag.takeWhile Text.isBlank, Text.isBlank c = true :=
    fun _ member => List.mem_takeWhile_imp member
  simp only [components?] at found
  split at found
  · rename_i afterDot behindMajor
    generalize parts : splitPatch (afterDot.dropWhile Text.isDecimalDigit) = split at found
    obtain ⟨patch?, remark⟩ := split
    obtain ⟨behindMinor, patch⟩ := eq_of_splitPatch parts
    simp only [Option.ite_none_right_eq_some, Bool.and_eq_true, Bool.not_eq_true',
      List.isEmpty_eq_false_iff, Option.some.injEq] at found
    obtain ⟨⟨⟨someMajor, someMinor⟩, annotation⟩, rfl⟩ := found
    have written : Writes ⟨_, _, patch?⟩ _ :=
      .tag blank isLetter
        (isNumeral_takeWhile someMajor) (isNumeral_takeWhile someMinor) patch
        (isAnnotation_iff.mp annotation)
    -- The pieces are put together from behind.
    rwa [List.append_assoc, List.append_assoc, List.cons_append, ← behindMinor,
      List.takeWhile_append_dropWhile, ← behindMajor, List.append_assoc,
      List.takeWhile_append_dropWhile, List.append_assoc, ← behindBlanks, ← whole] at written
  · cases found

/-- The parts of a tag are those that it writes. -/
theorem components?_eq_some_iff : components? tag = some components ↔ Writes components tag :=
  ⟨writes_of_components?, components?_of_writes⟩

/-- A tag writes its components in one way only. -/
theorem Writes.unique {others : Components} (writes : Writes components tag)
    (writes' : Writes others tag) : components = others := by
  rw [← components?_eq_some_iff] at writes writes'
  exact Option.some.inj (writes.symm.trans writes')

end

/-! ## The numbers of a tag -/

/-- Digits that a number of 32 bits can be taken from. -/
structure IsReadable (digits : List Char) : Prop where
  ascii : ∀ c ∈ digits, c.isDigit = true
  fits : Text.number digits ≤ 4294967295

instance (digits : List Char) : Decidable (IsReadable digits) :=
  decidable_of_iff (digits.all Char.isDigit = true ∧ Text.number digits ≤ 4294967295)
    ⟨fun ⟨ascii, fits⟩ => ⟨List.all_eq_true.mp ascii, fits⟩,
      fun ⟨ascii, fits⟩ => ⟨List.all_eq_true.mpr ascii, fits⟩⟩

/-- The number of a patch: zero if there is none or none can be taken from its digits. -/
def patchNumber : Option (List Char) -> Nat
  | none => 0
  | some digits => if IsReadable digits then Text.number digits else 0

/-- The version of a tag whose major and minor number can be read. -/
def Components.toVersion (components : Components) (tag : String) : Version :=
  { tag, major := Text.number components.major, minor := Text.number components.minor
    patch := patchNumber components.patch? }

/-- Digits are refused because they are foreign or stand for too large a number. -/
def IsDigitFault (fault : VersionError) : Prop :=
  fault = .foreignDigit ∨ fault = .tooLarge

section

variable {tag : String} {digits : List Char}

/-- Digits are read one by one, and a number never gets smaller on the way, so it is too large
in the end if it is too large anywhere. -/
theorem readComponentFrom_eq_ok_iff {value result : Nat} (fits : value < componentBound) :
    readComponentFrom value digits = .ok result ↔
      (∀ c ∈ digits, c.isDigit = true) ∧ Text.numberFrom value digits < componentBound ∧
        result = Text.numberFrom value digits := by
  induction digits generalizing value with
  | nil =>
      rw [readComponentFrom, Except.ok.injEq]
      exact ⟨fun same => ⟨nofun, fits, same.symm⟩, fun ⟨_, _, same⟩ => same.symm⟩
  | cons c others inductionHypothesis =>
      rw [List.forall_mem_cons, readComponentFrom]
      by_cases digit : c.isDigit = true
      · simp only [Text.digitValue?_of_isDigit digit]
        have grows := Text.le_numberFrom (10 * value + Text.decimalValue c) others
        have step : Text.numberFrom value (c :: others) =
            Text.numberFrom (10 * value + Text.decimalValue c) others := rfl
        rw [step]
        by_cases fits : 10 * value + Text.decimalValue c < componentBound
        · rw [if_pos fits, inductionHypothesis fits]
          simp [digit]
        · have tooLarge : ¬ Text.numberFrom (10 * value + Text.decimalValue c) others <
              componentBound := by omega
          simp [fits, tooLarge]
      · simp [Text.digitValue?, digit]

/-- A part is read as its number exactly if it is readable. -/
theorem readComponent_eq_ok_iff {value : Nat} :
    readComponent digits = .ok value ↔ IsReadable digits ∧ value = Text.number digits := by
  rw [readComponent, readComponentFrom_eq_ok_iff (by decide)]
  constructor
  · rintro ⟨ascii, fits, rfl⟩
    exact ⟨⟨ascii, Nat.le_of_lt_succ fits⟩, rfl⟩
  · rintro ⟨⟨ascii, fits⟩, rfl⟩
    exact ⟨ascii, Nat.lt_succ_of_le fits, rfl⟩

/-- Digits are refused for what they are, never for the form of the tag. -/
theorem isDigitFault_of_readComponentFrom {value : Nat} {fault : VersionError}
    (failed : readComponentFrom value digits = .error fault) : IsDigitFault fault := by
  induction digits generalizing value with
  | nil => cases failed
  | cons c others inductionHypothesis =>
      rw [readComponentFrom] at failed
      split at failed
      · cases failed
        exact .inl rfl
      · split at failed
        · exact inductionHypothesis failed
        · cases failed
          exact .inr rfl

/-- Digits are read or refused. -/
theorem readComponent_cases (digits : List Char) :
    (IsReadable digits ∧ readComponent digits = .ok (Text.number digits)) ∨
      (¬ IsReadable digits ∧
        ∃ fault, IsDigitFault fault ∧ readComponent digits = .error fault) := by
  cases outcome : readComponent digits with
  | ok value =>
      obtain ⟨isReadable, rfl⟩ := readComponent_eq_ok_iff.mp outcome
      exact .inl ⟨isReadable, rfl⟩
  | error fault =>
      refine .inr ⟨fun isReadable => ?_, fault, isDigitFault_of_readComponentFrom outcome, rfl⟩
      rw [readComponent_eq_ok_iff.mpr ⟨isReadable, rfl⟩] at outcome
      cases outcome

/-- A patch that cannot be read counts as zero. -/
theorem readPatch_eq (patch? : Option (List Char)) : readPatch patch? = patchNumber patch? := by
  cases patch? with
  | none => rfl
  | some digits =>
      rw [readPatch, patchNumber]
      rcases readComponent_cases digits with ⟨isReadable, read⟩ | ⟨notReadable, _, -, failed⟩
      · rw [read, if_pos isReadable]
        rfl
      · rw [failed, if_neg notReadable]
        rfl

/-- A tag is refused as it stands, or it writes components that are read, or components that are
refused for their digits. -/
theorem parse_cases (tag : String) :
    ((¬ ∃ components, Writes components tag.toList) ∧ parse tag = .error (.malformed tag)) ∨
      ∃ components, Writes components tag.toList ∧
        ((IsReadable components.major ∧ IsReadable components.minor ∧
            parse tag = .ok (components.toVersion tag)) ∨
          (¬ (IsReadable components.major ∧ IsReadable components.minor) ∧
            ∃ fault, IsDigitFault fault ∧ parse tag = .error fault)) := by
  unfold parse
  cases found : components? tag.toList with
  | none =>
      refine .inl ⟨?_, rfl⟩
      rintro ⟨components, writes⟩
      rw [components?_of_writes writes] at found
      cases found
  | some components =>
      refine .inr ⟨components, writes_of_components? found, ?_⟩
      rcases readComponent_cases components.major with
        ⟨major, readMajor⟩ | ⟨unreadable, fault, isFault, failed⟩
      · rcases readComponent_cases components.minor with
          ⟨minor, readMinor⟩ | ⟨unreadable, fault, isFault, failed⟩
        · refine .inl ⟨major, minor, ?_⟩
          simp only [readMajor, readMinor, readPatch_eq]
          rfl
        · refine .inr ⟨fun readable => unreadable readable.2, fault, isFault, ?_⟩
          simp only [readMajor, failed]
          rfl
      · refine .inr ⟨fun readable => unreadable readable.1, fault, isFault, ?_⟩
        simp only [failed]
        rfl

/-- What is not of the form of a version is refused as it stands. -/
theorem parse_eq_malformed_iff {shown : String} :
    parse tag = .error (.malformed shown) ↔
      shown = tag ∧ ¬ ∃ components, Writes components tag.toList := by
  rcases parse_cases tag with
    ⟨noForm, parsed⟩ | ⟨components, writes, ⟨-, -, parsed⟩ | ⟨-, fault, isFault, parsed⟩⟩
  · simp [parsed, noForm, eq_comm]
  · have form : ∃ components, Writes components tag.toList := ⟨components, writes⟩
    simp [parsed, form]
  · have form : ∃ components, Writes components tag.toList := ⟨components, writes⟩
    rcases isFault with rfl | rfl
    all_goals simp [parsed, form]

/-- What is of the form has a version if its major and its minor number can be read. -/
theorem parse_eq_ok_iff {version : Version} :
    parse tag = .ok version ↔
      ∃ components, Writes components tag.toList ∧ IsReadable components.major ∧
        IsReadable components.minor ∧ version = components.toVersion tag := by
  constructor
  · intro succeeded
    rcases parse_cases tag with
      ⟨-, parsed⟩ | ⟨components, writes, ⟨major, minor, parsed⟩ | ⟨-, fault, -, parsed⟩⟩
    all_goals
      rw [parsed] at succeeded
      cases succeeded
    exact ⟨components, writes, major, minor, rfl⟩
  · rintro ⟨components, writes, major, minor, rfl⟩
    rcases parse_cases tag with
      ⟨noForm, -⟩ | ⟨others, writes', ⟨-, -, parsed⟩ | ⟨unreadable, -⟩⟩
    · exact absurd ⟨components, writes⟩ noForm
    · rw [parsed, writes.unique writes']
    · rw [writes.unique writes'] at major minor
      exact absurd ⟨major, minor⟩ unreadable

/-- What is of the form is refused for its digits if one of these numbers cannot be read. -/
theorem exists_digitFault_iff :
    (∃ fault, IsDigitFault fault ∧ parse tag = .error fault) ↔
      ∃ components, Writes components tag.toList ∧
        ¬ (IsReadable components.major ∧ IsReadable components.minor) := by
  constructor
  · rintro ⟨fault, isFault, failed⟩
    rcases parse_cases tag with
      ⟨-, parsed⟩ | ⟨components, writes, ⟨-, -, parsed⟩ | ⟨unreadable, -⟩⟩
    · rw [parsed] at failed
      cases failed
      rcases isFault with same | same
      all_goals cases same
    · rw [parsed] at failed
      cases failed
    · exact ⟨components, writes, unreadable⟩
  · rintro ⟨components, writes, unreadable⟩
    rcases parse_cases tag with
      ⟨noForm, -⟩ | ⟨others, writes', ⟨major, minor, -⟩ | ⟨-, failed⟩⟩
    · exact absurd ⟨components, writes⟩ noForm
    · rw [writes.unique writes'] at unreadable
      exact absurd ⟨major, minor⟩ unreadable
    · exact failed

end

/-- A tag is malformed exactly if it is not written in the form of a version. If it is, it has a
version exactly if its major and its minor number can be read, and the version keeps the tag as
it stands beside the numbers. Else it is refused for its digits. -/
theorem parse_follows_form (tag : String) :
    (∀ shown, parse tag = .error (.malformed shown) ↔
        shown = tag ∧ ¬ ∃ components, Writes components tag.toList) ∧
      (∀ version, parse tag = .ok version ↔
        ∃ components, Writes components tag.toList ∧
          IsReadable components.major ∧ IsReadable components.minor ∧
          version = components.toVersion tag) ∧
      ((∃ fault, IsDigitFault fault ∧ parse tag = .error fault) ↔
        ∃ components, Writes components tag.toList ∧
          ¬ (IsReadable components.major ∧ IsReadable components.minor)) :=
  ⟨fun _ => parse_eq_malformed_iff, fun _ => parse_eq_ok_iff, exists_digitFault_iff⟩

end ProtocolHeaders.Version
