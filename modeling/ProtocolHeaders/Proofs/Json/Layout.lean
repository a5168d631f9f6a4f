import ProtocolHeaders.Proofs.Json.Nesting

/-!
# Members between brackets

A layout puts members between brackets, with commas between them and with spaces of its own.
What has to be known of the result is how it begins, how long it is and how deeply it is
nested; the layout does not matter for that.
-/

namespace ProtocolHeaders.Json

/-- A text of spaces only. -/
def IsBlank (text : List Char) : Prop :=
  ∀ c ∈ text, isSpace c = true

/-- An empty text is blank. -/
theorem isBlank_nil : IsBlank [] := nofun

namespace Layout

/-- A layout adds nothing but spaces. -/
structure IsSpacing (layout : Layout) : Prop where
  lineBreak : ∀ depth, IsBlank (layout.lineBreak depth)
  colon : ∃ spaces, layout.colon = ':' :: spaces ∧ IsBlank spaces

/-- A compact text has nothing between its members. -/
theorem isSpacing_compact : compact.IsSpacing where
  lineBreak _ := isBlank_nil
  colon := ⟨[], rfl, isBlank_nil⟩

/-- A text over several lines has only blanks between its members. -/
theorem isSpacing_pretty : pretty.IsSpacing where
  lineBreak depth := by
    refine List.forall_mem_cons.mpr ⟨rfl, ?_⟩
    intro c member
    obtain rfl := List.eq_of_mem_replicate member
    rfl
  colon := ⟨[' '], rfl, List.forall_mem_singleton.mpr rfl⟩

/-- The members behind the first one, each behind a comma. -/
def further (layout : Layout) (depth : Nat) (members : List (List Char)) : List Char :=
  members.flatMap fun member => ',' :: layout.lineBreak depth ++ member

/-- Each further member stands behind a comma and a line break. -/
theorem further_cons (layout : Layout) (depth : Nat) (first : List Char)
    (others : List (List Char)) :
    layout.further depth (first :: others) =
      ',' :: (layout.lineBreak depth ++ (first ++ layout.further depth others)) := by
  rw [further, further, List.flatMap_cons, List.cons_append, List.cons_append, List.append_assoc]

/-- A member of an object: its key and the text of its value. -/
def member (layout : Layout) (key : String) (value : List Char) : List Char :=
  writeString key ++ layout.colon ++ value

/-- A member from behind the quote at the front of its key. -/
theorem member_append (layout : Layout) (key : String) (value rest : List Char) :
    layout.member key value ++ rest =
      '"' :: (key.toList.flatMap escapeChar ++ '"' :: (layout.colon ++ (value ++ rest))) := by
  rw [member, List.append_assoc, List.append_assoc, writeString_append]

/-- A member is never empty, as its key stands between quotes. -/
theorem member_ne_nil (layout : Layout) (key : String) (value : List Char) :
    layout.member key value ≠ [] := by
  simp [member, writeString]

/-- A member is at least as long as its value. -/
theorem length_le_length_member (layout : Layout) (key : String) (value : List Char) :
    value.length ≤ (layout.member key value).length := by
  rw [member, List.length_append]
  exact Nat.le_add_left ..

/-- Members that are joined by commas are the first one and the further ones. -/
theorem intercalate_eq_append_further (layout : Layout) (depth : Nat) (first : List Char)
    (others : List (List Char)) :
    List.intercalate (',' :: layout.lineBreak depth) (first :: others) =
      first ++ layout.further depth others := by
  induction others generalizing first with
  | nil => rw [List.intercalate_singleton, further, List.flatMap_nil, List.append_nil]
  | cons second others inductionHypothesis =>
      rw [List.intercalate_cons_cons, inductionHypothesis, further_cons]
      simp only [List.append_assoc, List.cons_append]

variable {layout : Layout} {depth : Nat} {opener closer : Char} {members : List (List Char)}

/-- Between brackets the members stand a step deeper than the closing one. -/
theorem enclose_cons (layout : Layout) (depth : Nat) (opener closer : Char) (first : List Char)
    (others : List (List Char)) :
    layout.enclose depth opener closer (first :: others) =
      opener :: (layout.lineBreak (depth + 1) ++ first ++ layout.further (depth + 1) others ++
        layout.lineBreak depth) ++ [closer] := by
  rw [enclose, intercalate_eq_append_further]
  simp

/-- Enclosed members begin with the opening bracket. -/
theorem exists_enclose_eq_cons (layout : Layout) (depth : Nat) (opener closer : Char)
    (members : List (List Char)) :
    ∃ rest, layout.enclose depth opener closer members = opener :: rest := by
  cases members with
  | nil => exact ⟨_, rfl⟩
  | cons first others => exact ⟨_, enclose_cons ..⟩

/-! ## Length -/

/-- Members are together no longer than with their separators. -/
theorem length_flatten_le_length_further (layout : Layout) (depth : Nat)
    (members : List (List Char)) :
    members.flatten.length ≤ (layout.further depth members).length := by
  induction members with
  | nil => exact Nat.le_refl _
  | cons first others inductionHypothesis =>
      rw [further_cons, List.flatten_cons]
      simp only [List.length_append, List.length_cons]
      omega

/-- The brackets are longer than all that stands between them. -/
theorem length_flatten_lt_length_enclose (layout : Layout) (depth : Nat) (opener closer : Char)
    (members : List (List Char)) :
    members.flatten.length < (layout.enclose depth opener closer members).length := by
  cases members with
  | nil => exact Nat.zero_lt_succ _
  | cons first others =>
      have := length_flatten_le_length_further layout (depth + 1) others
      rw [enclose_cons]
      simp only [List.flatten_cons, List.length_cons, List.length_append]
      omega

/-- Each member is shorter than the brackets around it. -/
theorem length_lt_length_enclose {member : List Char} (isMember : member ∈ members) :
    member.length < (layout.enclose depth opener closer members).length := by
  have inside := (List.sublist_flatten_of_mem isMember).length_le
  exact Nat.lt_of_le_of_lt inside (length_flatten_lt_length_enclose ..)

/-- There are fewer members than the brackets around them have characters. -/
theorem count_lt_length_enclose (nonempty : ∀ member ∈ members, member ≠ []) :
    members.length < (layout.enclose depth opener closer members).length := by
  refine Nat.lt_of_le_of_lt ?_ (length_flatten_lt_length_enclose ..)
  induction members with
  | nil => exact Nat.le_refl _
  | cons first others inductionHypothesis =>
      obtain ⟨notNil, othersNonempty⟩ := List.forall_mem_cons.mp nonempty
      have := List.length_pos_iff.mpr notNil
      have := inductionHypothesis othersNonempty
      rw [List.flatten_cons, List.length_append, List.length_cons]
      omega

/-! ## Nesting -/

/-- A blank text has no brackets. -/
theorem isBalanced_blank {text : List Char} (blank : IsBlank text) :
    IsBalanced text ∧ nesting text = 0 :=
  isBalanced_of_plain fun c member => isPlain_of_isSpace (blank c member)

/-- The nesting of the members that are nested most deeply. -/
def deepest (members : List (List Char)) : Nat :=
  (members.map nesting).foldr max 0

/-- No member nests deeper than the deepest one. -/
theorem nesting_le_deepest {member : List Char} (isMember : member ∈ members) :
    nesting member ≤ deepest members := by
  induction members with
  | nil => cases isMember
  | cons first others inductionHypothesis =>
      rw [deepest, List.map_cons, List.foldr_cons, ← deepest]
      rcases List.mem_cons.mp isMember with rfl | isOther
      · exact Nat.le_max_left ..
      · exact Nat.le_trans (inductionHypothesis isOther) (Nat.le_max_right ..)

/-- How deep members nest depends on the nesting of each alone. -/
theorem deepest_map_congr {α : Type} {entries : List α} {text text' : α -> List Char}
    (same : ∀ entry ∈ entries, nesting (text entry) = nesting (text' entry)) :
    deepest (entries.map text) = deepest (entries.map text') := by
  rw [deepest, deepest, List.map_map, List.map_map]
  exact congrArg (List.foldr max 0) (List.map_congr_left same)

/-- A member is nested as deeply as its value. -/
theorem isBalanced_member (spacing : layout.IsSpacing) (key : String) {value : List Char}
    (balanced : IsBalanced value) :
    IsBalanced (layout.member key value) ∧ nesting (layout.member key value) = nesting value := by
  obtain ⟨spaces, colon, blank⟩ := spacing.colon
  have colonPlain : ∀ c ∈ layout.colon, IsPlain c := by
    rw [colon]
    exact List.forall_mem_cons.mpr ⟨by decide, fun c member => isPlain_of_isSpace (blank c member)⟩
  obtain ⟨keyBalanced, keyFlat⟩ := isBalanced_writeString key
  obtain ⟨colonBalanced, colonFlat⟩ := isBalanced_of_plain colonPlain
  obtain ⟨frontBalanced, frontFlat⟩ := keyBalanced.append colonBalanced
  obtain ⟨allBalanced, allNesting⟩ := frontBalanced.append balanced
  refine ⟨allBalanced, allNesting.trans ?_⟩
  rw [frontFlat, keyFlat, colonFlat]
  omega

/-- What stands between the members nests no deeper than they do. -/
theorem isBalanced_further (spacing : layout.IsSpacing) (depth : Nat)
    (balanced : ∀ member ∈ members, IsBalanced member) :
    IsBalanced (layout.further depth members) ∧
      nesting (layout.further depth members) = deepest members := by
  induction members with
  | nil => exact isBalanced_nil
  | cons first others inductionHypothesis =>
      obtain ⟨firstBalanced, othersBalanced⟩ := List.forall_mem_cons.mp balanced
      obtain ⟨tailBalanced, tailNesting⟩ := inductionHypothesis othersBalanced
      obtain ⟨commaBalanced, commaFlat⟩ := @isBalanced_of_all_plain [','] (by decide)
      obtain ⟨spaceBalanced, spaceFlat⟩ := isBalanced_blank (spacing.lineBreak depth)
      obtain ⟨separatorBalanced, separatorFlat⟩ := commaBalanced.append spaceBalanced
      obtain ⟨headBalanced, headNesting⟩ := separatorBalanced.append firstBalanced
      obtain ⟨allBalanced, allNesting⟩ := headBalanced.append tailBalanced
      refine ⟨allBalanced, allNesting.trans ?_⟩
      rw [headNesting, separatorFlat, commaFlat, spaceFlat, tailNesting, deepest, deepest,
        List.map_cons, List.foldr_cons]
      omega

/-- Brackets around members nest them one deeper. -/
theorem isBalanced_enclose (spacing : layout.IsSpacing) (depth : Nat)
    (opens : opener = '[' ∨ opener = '\x7b') (closes : closer = ']' ∨ closer = '\x7d')
    (balanced : ∀ member ∈ members, IsBalanced member) :
    IsBalanced (layout.enclose depth opener closer members) ∧
      nesting (layout.enclose depth opener closer members) = deepest members + 1 := by
  cases members with
  | nil =>
      obtain ⟨nilBalanced, flat⟩ := isBalanced_nil
      have enclosed := nilBalanced.enclose opens closes
      rw [flat] at enclosed
      exact enclosed
  | cons first others =>
      obtain ⟨firstBalanced, othersBalanced⟩ := List.forall_mem_cons.mp balanced
      obtain ⟨startBalanced, startFlat⟩ := isBalanced_blank (spacing.lineBreak (depth + 1))
      obtain ⟨endBalanced, endFlat⟩ := isBalanced_blank (spacing.lineBreak depth)
      obtain ⟨tailBalanced, tailNesting⟩ := isBalanced_further spacing (depth + 1) othersBalanced
      obtain ⟨headBalanced, headNesting⟩ := startBalanced.append firstBalanced
      obtain ⟨membersBalanced, membersNesting⟩ := headBalanced.append tailBalanced
      obtain ⟨innerBalanced, innerNesting⟩ := membersBalanced.append endBalanced
      have enclosed := innerBalanced.enclose opens closes
      rw [innerNesting, membersNesting, headNesting, startFlat, endFlat, tailNesting,
        ← enclose_cons] at enclosed
      refine ⟨enclosed.1, enclosed.2.trans ?_⟩
      rw [deepest, deepest, List.map_cons, List.foldr_cons]
      omega

end Layout

end ProtocolHeaders.Json
