import ProtocolHeaders.Header.Field
import ProtocolHeaders.Proofs.Union.FinalForm

/-!
# Reading string literals back

A string literal is read from its opening quote to the first quote that no backslash escapes. A
backslash may escape a quote or another backslash and nothing else, and there is no line break
inside. What is written for a text is read as that text, whatever follows behind the literal, and
nothing else is read so. The constants of literal fields and the tags that their documentation
lists are written in this way.
-/

namespace ProtocolHeaders.Header

/-! ## Escaping -/

/-- A text with each occurrence of a character replaced. -/
def replaceChar (c : Char) (replacement text : List Char) : List Char :=
  text.flatMap fun d => if d = c then replacement else [d]

/-- A text is escaped in two passes: first the backslashes are doubled, then each quote gets one
of its own. -/
theorem escapeLiteralChars_eq_replaceChar (text : List Char) :
    escapeLiteralChars text =
      replaceChar '"' ['\\', '"'] (replaceChar '\\' ['\\', '\\'] text) := by
  rw [escapeLiteralChars, replaceChar, replaceChar, List.flatMap_assoc]
  congr 1
  funext c
  by_cases backslash : c = '\\'
  · subst backslash
    rfl
  · by_cases isQuote : c = '"'
    · subst isQuote
      rfl
    · simp [escapeLiteralChar, backslash, isQuote]

-- In the other order the backslash of the quote would be doubled as well.
example : replaceChar '\\' ['\\', '\\'] (replaceChar '"' ['\\', '"'] ['"']) ≠
    escapeLiteralChars ['"'] := by decide

/-- A text ends in a backslash that escapes what follows: in one that is not escaped itself. -/
def opensEscape (text : List Char) : Bool :=
  text.foldl (fun escaping c => !escaping && c == '\\') false

section

variable {c : Char} {text front back : List Char}

/-- A quote or a backslash is escaped. -/
theorem escapeLiteralChars_special (special : c = '\\' ∨ c = '"') (text : List Char) :
    escapeLiteralChars (c :: text) = '\\' :: c :: escapeLiteralChars text := by
  simp [escapeLiteralChars, escapeLiteralChar, special]

/-- Any other character stands for itself. -/
theorem escapeLiteralChars_plain (plain : ¬ (c = '\\' ∨ c = '"')) (text : List Char) :
    escapeLiteralChars (c :: text) = c :: escapeLiteralChars text := by
  simp [escapeLiteralChars, escapeLiteralChar, plain]

/-- A character that is neither a quote nor a backslash leaves nothing open. -/
theorem opensEscape_plain (plain : ¬ (c = '\\' ∨ c = '"')) (text : List Char) :
    opensEscape (c :: text) = opensEscape text := by
  rw [not_or] at plain
  rw [opensEscape, List.foldl_cons, Bool.not_false, Bool.true_and, beq_false_of_ne plain.1,
    opensEscape]

/-- What is escaped leaves nothing open. -/
theorem opensEscape_escaped (c : Char) (text : List Char) :
    opensEscape ('\\' :: c :: text) = opensEscape text :=
  rfl

/-- Every backslash in an escaped text has what it escapes behind it. -/
theorem opensEscape_escapeLiteralChars (text : List Char) :
    opensEscape (escapeLiteralChars text) = false := by
  induction text with
  | nil => rfl
  | cons c others inductionHypothesis =>
      by_cases special : c = '\\' ∨ c = '"'
      · rwa [escapeLiteralChars_special special, opensEscape_escaped]
      · rwa [escapeLiteralChars_plain special, opensEscape_plain special]

/-- Every quote in an escaped text is escaped. -/
theorem opensEscape_of_escapeLiteralChars_eq
    (escaped : escapeLiteralChars text = front ++ '"' :: back) : opensEscape front = true := by
  induction text generalizing front with
  | nil =>
      rw [escapeLiteralChars, List.flatMap_nil, List.nil_eq, List.append_eq_nil_iff] at escaped
      cases escaped.2
  | cons c others inductionHypothesis =>
      by_cases special : c = '\\' ∨ c = '"'
      · rw [escapeLiteralChars_special special] at escaped
        match front, escaped with
        | [_], escaped =>
            obtain ⟨rfl, -⟩ := List.cons.inj escaped
            rfl
        | _ :: _ :: front, escaped =>
            obtain ⟨rfl, behind⟩ := List.cons.inj escaped
            obtain ⟨rfl, rest⟩ := List.cons.inj behind
            rw [opensEscape_escaped, inductionHypothesis rest]
      · rw [escapeLiteralChars_plain special] at escaped
        match front, escaped with
        | [], escaped => exact absurd (.inr (List.cons.inj escaped).1) special
        | _ :: front, escaped =>
            obtain ⟨rfl, rest⟩ := List.cons.inj escaped
            rw [opensEscape_plain special, inductionHypothesis rest]

end

/-! ## Reading -/

/-- The text of a string literal whose opening quote is read already, and what stands behind
its closing quote. -/
def readBody? (isBreak : Char -> Bool) : List Char -> Option (List Char × List Char)
  | [] => none
  | '"' :: rest => some ([], rest)
  | ['\\'] => none
  | '\\' :: c :: others =>
      if c = '\\' ∨ c = '"' then (readBody? isBreak others).map (Prod.map (c :: ·) id) else none
  | c :: others =>
      if isBreak c then none else (readBody? isBreak others).map (Prod.map (c :: ·) id)

/-- The text of a string literal, and what stands behind it. -/
def readLiteral? (isBreak : Char -> Bool) : List Char -> Option (List Char × List Char)
  | '"' :: others => readBody? isBreak others
  | _ => none

/-- The text that is written as the body of a string literal: all that stands between the
quotes. -/
def unescape? (body : List Char) : Option (List Char) :=
  match readBody? (fun _ => false) (body ++ ['"']) with
  | some (text, []) => some text
  | _ => none

/-- A text is a string literal for another one: wherever it stands, it is read to its end and
as that text. -/
def Denotes (isBreak : Char -> Bool) (written text : String) : Prop :=
  ∀ rest, readLiteral? isBreak (written.toList ++ rest) = some (text.toList, rest)

section

variable {isBreak : Char -> Bool} {c : Char} {body text rest others : List Char}

/-- An escaped quote or backslash is read as itself. -/
theorem readBody?_special (special : c = '\\' ∨ c = '"') :
    readBody? isBreak ('\\' :: c :: others) =
      (readBody? isBreak others).map (Prod.map (c :: ·) id) := by
  simp [readBody?, special]

/-- Any other character is read as itself, unless it is a break. -/
theorem readBody?_plain (plain : ¬ (c = '\\' ∨ c = '"')) :
    readBody? isBreak (c :: others) =
      if isBreak c then none else (readBody? isBreak others).map (Prod.map (c :: ·) id) := by
  rw [not_or] at plain
  rw [readBody?]
  · exact plain.2
  · rintro rfl -
    exact plain.1 rfl
  · rintro _ _ rfl -
    exact plain.1 rfl

/-- The body that is written for a text is read as it, up to the quote behind the body. -/
theorem readBody?_escapeLiteralChars (oneLine : ∀ c ∈ text, isBreak c = false)
    (rest : List Char) :
    readBody? isBreak (escapeLiteralChars text ++ '"' :: rest) = some (text, rest) := by
  induction text with
  | nil => rfl
  | cons c others inductionHypothesis =>
      rw [List.forall_mem_cons] at oneLine
      have read := inductionHypothesis oneLine.2
      by_cases special : c = '\\' ∨ c = '"'
      · rw [escapeLiteralChars_special special, List.cons_append, List.cons_append,
          readBody?_special special, read]
        rfl
      · rw [escapeLiteralChars_plain special, List.cons_append, readBody?_plain special,
          oneLine.1, read]
        rfl

/-- What neither ends a body nor begins an escape stands for itself. -/
theorem plain_of_not_special (notQuote : c ≠ '"') (notLast : c = '\\' → others ≠ [])
    (notEscape : ∀ next more, c = '\\' → others ≠ next :: more) : ¬ (c = '\\' ∨ c = '"') := by
  rintro (backslash | isQuote)
  · cases others with
    | nil => exact notLast backslash rfl
    | cons next more => exact notEscape next more backslash rfl
  · exact notQuote isQuote

/-- A character is read in front of what the rest is read as. -/
theorem exists_of_map_cons {read? : Option (List Char × List Char)}
    (read : read?.map (Prod.map (c :: ·) id) = some (text, rest)) :
    ∃ others, text = c :: others ∧ read? = some (others, rest) := by
  obtain ⟨⟨others, behind⟩, readOthers, same⟩ := Option.map_eq_some_iff.mp read
  cases same
  exact ⟨others, rfl, readOthers⟩

/-- Only the body that is written for a text is read as it. -/
theorem eq_escapeLiteralChars_of_readBody? (read : readBody? isBreak body = some (text, rest)) :
    body = escapeLiteralChars text ++ '"' :: rest := by
  induction body using readBody?.induct isBreak generalizing text with
  | case1 => cases read
  | case2 behind =>
      cases read
      rfl
  | case3 => cases read
  | case4 c others special inductionHypothesis =>
      rw [readBody?_special special] at read
      obtain ⟨tail, rfl, readOthers⟩ := exists_of_map_cons read
      rw [escapeLiteralChars_special special, inductionHypothesis readOthers]
      rfl
  | case5 c others foreign =>
      rw [readBody?, if_neg foreign] at read
      cases read
  | case6 c others notQuote notLast notEscape isBreak =>
      rw [readBody?_plain (plain_of_not_special notQuote notLast notEscape), if_pos isBreak] at read
      cases read
  | case7 c others notQuote notLast notEscape notBreak inductionHypothesis =>
      have plain := plain_of_not_special notQuote notLast notEscape
      rw [readBody?_plain plain, if_neg notBreak] at read
      obtain ⟨tail, rfl, readOthers⟩ := exists_of_map_cons read
      rw [escapeLiteralChars_plain plain, inductionHypothesis readOthers]
      rfl

/-- What is between the quotes is read as a text exactly if it is written for that text. -/
theorem unescape?_eq_some_iff : unescape? body = some text ↔ body = escapeLiteralChars text := by
  constructor
  · intro unescaped
    unfold unescape? at unescaped
    split at unescaped
    · rename_i read
      cases unescaped
      exact (List.append_left_inj _).mp (eq_escapeLiteralChars_of_readBody? read)
    · cases unescaped
  · rintro rfl
    rw [unescape?, readBody?_escapeLiteralChars (fun _ _ => rfl)]

end

/-- What is written as a literal for a text on one line is a literal for it. -/
theorem denotes_literal {isBreak : Char -> Bool} {text : String}
    (oneLine : ∀ c ∈ text.toList, isBreak c = false) : Denotes isBreak (literal text) text := by
  intro rest
  simp only [literal, quote, String.toList_append, String.toList_ofList]
  simpa [readLiteral?] using readBody?_escapeLiteralChars oneLine rest

/-! ## Literal fields -/

section

variable {isBreak : Char -> Bool} {property : Property}

/-- A literal type is in its final form, so only the documentation of the property changes. -/
theorem materializeProperty_of_isLiteral (isLiteral : property.type.kind = .literal)
    (index : UnionIndex) :
    materializeProperty index property =
      { property with documentation := materializeDocumentation property } := by
  have noAlternatives : ¬ property.type.HasAlternatives := by
    rintro ⟨isUnion, -⟩
    rw [isLiteral] at isUnion
    cases isUnion
  rw [materializeProperty, UnionIndex.materialize_of_not_hasAlternatives noAlternatives]

/-- A property with a literal type becomes a constant. -/
theorem fieldOf_of_isLiteral (isLiteral : property.type.kind = .literal) (index : UnionIndex)
    (enclosing : String) :
    fieldOf index enclosing property =
      { documentation := materializeDocumentation property
        declaration := .constant property.fieldName property.type.value } := by
  rw [fieldOf, materializeProperty_of_isLiteral isLiteral, finalField, declare, if_pos isLiteral]
  rfl

/-- The line of a constant stands behind its comment. -/
theorem code_of_isLiteral (isLiteral : property.type.kind = .literal) (index : UnionIndex)
    (enclosing indent : String) :
    (fieldOf index enclosing property).code indent =
      docComment (fieldOf index enclosing property).documentation indent ++ indent ++
        "static inline const std::string " ++ property.fieldName ++ " = " ++
        literal property.type.value ++ ";\n" := by
  have lineEnd : ";" ++ "\n" = ";\n" := rfl
  simp only [fieldOf_of_isLiteral isLiteral, Field.code, FieldDeclaration.code_constant,
    String.append_assoc, lineEnd]

/-- The tags are listed behind what the property is documented with. -/
theorem materializeDocumentation_of_isLiteral (isLiteral : property.type.kind = .literal)
    (someTag : property.type.items ≠ []) :
    materializeDocumentation property =
      (if property.documentation.isEmpty then "" else property.documentation ++ "\n\n") ++
        "Accepted values: " ++
        String.intercalate ", " (property.type.items.map fun item => literal item.value) := by
  have listed : (property.type.kind = .literal && !property.type.items.isEmpty) = true := by
    simp [isLiteral, someTag]
  rw [materializeDocumentation, if_pos listed]
  unfold acceptedValues
  split
  all_goals simp only [String.empty_append, String.append_assoc]

end

/-- A field with a literal type is declared as a constant, and what is written for its value is a
literal for it. So are the tags that its documentation lists, one for each sibling. Whatever text
is escaped, no quote in it is left unescaped and no backslash is left over at its end, and it is
the one body that stands for that text. -/
theorem literal_field_reads_back {isBreak : Char -> Bool} {property : Property}
    (isLiteral : property.type.kind = .literal)
    (oneLine : ∀ c ∈ property.type.value.toList, isBreak c = false)
    (oneLineTags : ∀ item ∈ property.type.items, ∀ c ∈ item.value.toList, isBreak c = false)
    (index : UnionIndex) (enclosing indent : String) :
    (∃ written, Denotes isBreak written property.type.value ∧
      (fieldOf index enclosing property).code indent =
        docComment (fieldOf index enclosing property).documentation indent ++ indent ++
          "static inline const std::string " ++ property.fieldName ++ " = " ++ written ++ ";\n") ∧
    (property.type.items ≠ [] →
      ∃ tags, List.Forall₂ (Denotes isBreak) tags (property.type.items.map TypeExpr.value) ∧
        (fieldOf index enclosing property).documentation =
          (if property.documentation.isEmpty then "" else property.documentation ++ "\n\n") ++
            "Accepted values: " ++ String.intercalate ", " tags) ∧
    ∀ text, opensEscape (escapeLiteralChars text) = false ∧
      (∀ front back, escapeLiteralChars text = front ++ '"' :: back → opensEscape front = true) ∧
      ∀ body, unescape? body = some text ↔ body = escapeLiteralChars text := by
  refine ⟨⟨literal property.type.value, denotes_literal oneLine,
      code_of_isLiteral isLiteral index enclosing indent⟩, fun someTag => ?_,
    fun text => ⟨opensEscape_escapeLiteralChars text,
      fun _ _ => opensEscape_of_escapeLiteralChars_eq, fun _ => unescape?_eq_some_iff⟩⟩
  refine ⟨property.type.items.map fun item => literal item.value, ?_, ?_⟩
  · rw [List.forall₂_map_left_iff, List.forall₂_map_right_iff, List.forall₂_same]
    exact fun item member => denotes_literal (oneLineTags item member)
  · rw [fieldOf_of_isLiteral isLiteral]
    exact materializeDocumentation_of_isLiteral isLiteral someTag

/-- A pattern that has a quote behind a backslash, with a tag that ends in a backslash. -/
def patternProperty : Property :=
  { name := "pattern"
    type :=
      { kind := .literal, value := "a\\\"b", items := [{ kind := .literal, value := "C:\\" }] } }

/-- Its value and its tag are read back from the literals that are written for them. -/
theorem pattern_property_reads_back :
    (∃ written, Denotes (· == '\n') written "a\\\"b" ∧
      (fieldOf ⟨[]⟩ "Filter" patternProperty).code "" =
        docComment (fieldOf ⟨[]⟩ "Filter" patternProperty).documentation "" ++ "" ++
          "static inline const std::string " ++ patternProperty.fieldName ++ " = " ++ written ++
          ";\n") ∧
    ∃ tag, Denotes (· == '\n') tag "C:\\" ∧
      (fieldOf ⟨[]⟩ "Filter" patternProperty).documentation = "Accepted values: " ++ tag := by
  obtain ⟨constant, tags, -⟩ := @literal_field_reads_back (· == '\n') patternProperty rfl
    (by simp [patternProperty]) (by simp [patternProperty]) ⟨[]⟩ "Filter" ""
  refine ⟨constant, ?_⟩
  obtain ⟨_, _ | ⟨denotes, _ | _⟩, documentation⟩ := tags (by simp [patternProperty])
  exact ⟨_, denotes, documentation⟩

end ProtocolHeaders.Header
